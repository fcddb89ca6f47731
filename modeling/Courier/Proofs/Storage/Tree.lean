import Courier.Storage.Tree

/-
  Trees of two levels: directories below the root, and files
  in them.

  In such a tree a path of two names leads to a file or to
  nothing, whatever was written, renamed or removed before.

  Key definitions include:
    * `Tree.IsFlat`
    * `Tree.Fits`

  Key theorems include:
    * `Tree.node?_put`
    * `Tree.node?_erase`
    * `Tree.makeDirectory_eq_ok_iff`
    * `Tree.writeFile_eq_ok_iff`
    * `Tree.rename_eq_ok_iff`
    * `Tree.unlink_eq_ok_iff`
    * `Tree.reach_tooLong`
    * `Tree.reach_file_tooLong`
    * `Tree.makeDirectory_eq_ok`
    * `Tree.unlink_file`
-/

------------------------------------------------------------
-- Looking Up
------------------------------------------------------------

namespace Courier

namespace Tree

/- A tree without a path has nothing there. -/
theorem lookup_erase_same
    (t : Tree)
    (path : Path) :
    (t.erase path).lookup path = none := by
  rw [List.lookup_eq_none_iff]
  intro entry hMem
  have hNe := (List.mem_filter.mp hMem).2
  rw [bne_comm] at hNe
  simpa using hNe

/- The nodes at other paths stay. -/
theorem lookup_erase_other
    (t : Tree)
    {path other : Path}
    (hNe : other ≠ path) :
    (t.erase path).lookup other = t.lookup other := by
  unfold erase
  induction t with
  | nil => rfl
  | cons entry rest ih =>
      rcases entry with ⟨here, node⟩
      by_cases hHere : here = path
      · have hOther : (other == path) = false := by
          simpa using hNe
        simp [hHere, List.lookup_cons, ih, hOther]
      · simp [hHere, List.lookup_cons, ih]

/- What a tree holds after a path was removed. -/
theorem node?_erase
    (t : Tree)
    {path : Path}
    (other : Path)
    (hSome : path ≠ []) :
    (t.erase path).node? other =
      if other = path then none else t.node? other := by
  unfold node?
  by_cases hEq : other = path
  · rw [if_pos hEq, hEq, if_neg hSome, lookup_erase_same]
  · rw [if_neg hEq, lookup_erase_other t hEq]

/- What a tree holds after a node was put. -/
theorem node?_put
    (t : Tree)
    {path : Path}
    (node : Node)
    (other : Path)
    (hSome : path ≠ []) :
    (t.put path node).node? other =
      if other = path then some node else t.node? other := by
  have hErase := node?_erase t other hSome
  unfold node? at hErase ⊢
  unfold put
  by_cases hEq : other = path
  · simp [hEq, hSome]
  · rw [if_neg hEq] at hErase ⊢
    have hNe : (other == path) = false := by simpa using hEq
    rw [List.lookup_cons, hNe]
    exact hErase

/- A path that leads to something is listed in the tree. -/
theorem mem_of_node?
    {t : Tree}
    {path : Path}
    (hSome : path ≠ [])
    (hNode : (t.node? path).isSome = true) :
    path ∈ t.map Prod.fst := by
  rw [node?, if_neg hSome] at hNode
  rw [Option.isSome_iff_exists] at hNode
  rcases hNode with ⟨node, hLookup⟩
  rcases List.lookup_eq_some_iff.mp hLookup with
    ⟨before, after, hSplit, -⟩
  rw [hSplit]
  simp

end Tree

end Courier

------------------------------------------------------------
-- Outcomes of Operations
------------------------------------------------------------

namespace Courier

namespace Tree

variable {t t' : Tree}
variable {path : Path}
variable {content : Bytes}
variable {e : IoError}

/-
  When a directory is made, and what the tree is then: it is
  new, or it was there and nothing happens.
-/
theorem makeDirectory_eq_ok_iff :
    t.makeDirectory path = .ok t' ↔
      (t.reach path = .ok none ∧
          t' = t.put path .directory) ∨
        (t.reach path = .ok (some .directory) ∧ t' = t) := by
  unfold makeDirectory
  rcases t.reach path with fault | none | directory | content
  · simp
  · simp [eq_comm]
  · simp [eq_comm]
  · simp

/- A file in its place is why a directory cannot be made. -/
theorem makeDirectory_eq_error_iff :
    t.makeDirectory path = .error e ↔
      t.reach path = .error e ∨
        (∃ content, t.reach path = .ok (some (.file content))) ∧
          e = .alreadyExists := by
  unfold makeDirectory
  rcases t.reach path with fault | none | directory | content
  · simp
  · simp
  · simp
  · simp [eq_comm]

/- Files can be read, and nothing else. -/
theorem readFile_eq_ok_iff :
    t.readFile path = .ok content ↔
      t.reach path = .ok (some (.file content)) := by
  unfold readFile
  rcases t.reach path with fault | none | directory | content
  · simp
  · simp
  · simp
  · simp

/- Why a path cannot be read. -/
theorem readFile_eq_error_iff :
    t.readFile path = .error e ↔
      t.reach path = .error e ∨
        t.reach path = .ok none ∧ e = .notFound ∨
        t.reach path = .ok (some .directory) ∧
          e = notRegular := by
  unfold readFile
  rcases t.reach path with fault | none | directory | content
  · simp
  · simp [eq_comm]
  · simp [eq_comm]
  · simp

/- A file can be written where no directory is. -/
theorem writeFile_eq_ok_iff :
    t.writeFile path content = .ok t' ↔
      ∃ found,
        t.reach path = .ok found ∧
          found ≠ some .directory ∧
          t' = t.put path (.file content) := by
  unfold writeFile
  rcases t.reach path with fault | none | directory | old
  · simp
  · simp [eq_comm]
  · simp
  · simp [eq_comm]

/- Why a file cannot be written. -/
theorem writeFile_eq_error_iff :
    t.writeFile path content = .error e ↔
      t.reach path = .error e ∨
        t.reach path = .ok (some .directory) ∧
          e = .isADirectory := by
  unfold writeFile
  rcases t.reach path with fault | none | directory | old
  · simp
  · simp
  · simp [eq_comm]
  · simp

/-
  A file can be given any path where a file can be written,
  and its content is there then.
-/
theorem rename_eq_ok_iff
    {old new : Path} :
    t.rename old new = .ok t' ↔
      ∃ content found,
        t.readFile old = .ok content ∧
          t.reach new = .ok found ∧
          found ≠ some .directory ∧
          t' = (t.erase old).put new (.file content) := by
  unfold rename
  rcases t.readFile old with fault | content
  · simp
  · rcases t.reach new with fault | none | directory | there
    · simp
    · simp [eq_comm]
    · simp
    · simp [eq_comm]

/- Why a file keeps its path. -/
theorem rename_eq_error_iff
    {old new : Path} :
    t.rename old new = .error e ↔
      t.readFile old = .error e ∨
        ∃ content,
          t.readFile old = .ok content ∧
            (t.reach new = .error e ∨
              t.reach new = .ok (some .directory) ∧
                e = .isADirectory) := by
  unfold rename
  rcases t.readFile old with fault | content
  · simp
  · rcases t.reach new with fault | none | directory | there
    · simp
    · simp
    · simp [eq_comm]
    · simp

/- Files can be removed, and nothing else. -/
theorem unlink_eq_ok_iff :
    t.unlink path = .ok t' ↔
      ∃ content,
        t.reach path = .ok (some (.file content)) ∧
          t' = t.erase path := by
  unfold unlink
  rcases t.reach path with fault | none | directory | content
  · simp
  · simp
  · simp
  · simp [eq_comm]

/- Why a path cannot be removed. -/
theorem unlink_eq_error_iff :
    t.unlink path = .error e ↔
      t.reach path = .error e ∨
        t.reach path = .ok none ∧ e = .notFound ∨
        t.reach path = .ok (some .directory) ∧
          e = .isADirectory := by
  unfold unlink
  rcases t.reach path with fault | none | directory | content
  · simp
  · simp [eq_comm]
  · simp [eq_comm]
  · simp

end Tree

end Courier

------------------------------------------------------------
-- Flat Trees
------------------------------------------------------------

namespace Courier

namespace Tree

/-
  A path of one name never leads to a file, a path of two
  names never to a directory, and files are in directories.
-/
structure IsFlat
    (t : Tree) : Prop where
  directory :
    ∀ (d : String) (content : Bytes),
      t.node? [d] ≠ some (.file content)
  file :
    ∀ d name : String, t.node? [d, name] ≠ some .directory
  parent :
    ∀ d name : String,
      (t.node? [d, name]).isSome →
        t.node? [d] = some .directory

/- The name is not longer than the file system allows. -/
def Fits
    (name : String) : Prop :=
  name.utf8ByteSize ≤ maxName

instance
    (name : String) :
    Decidable (Fits name) := by
  unfold Fits
  infer_instance

/- A name that fits has no more characters than octets. -/
theorem length_le_of_fits
    {name : String}
    (hFits : Fits name) :
    name.length ≤ maxName := by
  have hSize (chars : List Char) :
      chars.length ≤ (String.ofList chars).utf8ByteSize := by
    induction chars with
    | nil => exact Nat.zero_le _
    | cons c chars ih =>
        have hChar := c.utf8Size_pos
        rw [String.ofList_cons, String.utf8ByteSize_append,
          String.utf8ByteSize_singleton, List.length_cons]
        omega
  have hName := hSize name.toList
  rw [String.length_toList, String.ofList_toList] at hName
  exact Nat.le_trans hName hFits

/- A tree without entries is flat. -/
theorem isFlat_nil :
    IsFlat [] := by
  constructor
  · intro d content hNode
    cases hNode
  · intro d name hNode
    cases hNode
  · intro d name hSome
    cases hSome

/- A path that can be followed leads to its node. -/
theorem node?_of_reach
    {t : Tree}
    {path : Path}
    {found : Option Node}
    (hReach : t.reach path = .ok found) :
    t.node? path = found := by
  have hFrom :
      ∀ seen rest : Path,
        t.reachFrom seen rest = .ok found →
          t.node? (seen ++ rest) = found := by
    intro seen rest
    induction rest generalizing seen with
    | nil =>
        intro hEq
        rw [List.append_nil]
        exact Except.ok.inj hEq
    | cons name rest ih =>
        intro hEq
        unfold reachFrom at hEq
        split at hEq
        · cases hEq
        · cases hEq
        · split at hEq
          · cases hEq
          · rw [List.append_cons]
            exact ih _ hEq
  exact hFrom [] path hReach

/- A path that can be followed has short names only. -/
theorem fits_of_reach
    {t : Tree}
    {path : Path}
    {found : Option Node}
    (hReach : t.reach path = .ok found) :
    ∀ name ∈ path, Fits name := by
  have hFrom :
      ∀ seen rest : Path,
        t.reachFrom seen rest = .ok found →
          ∀ name ∈ rest, Fits name := by
    intro seen rest
    induction rest generalizing seen with
    | nil => exact fun _ => nofun
    | cons name rest ih =>
        intro hEq
        unfold reachFrom at hEq
        split at hEq
        · cases hEq
        · cases hEq
        · split at hEq
          · cases hEq
          · next hShort =>
              rw [List.forall_mem_cons]
              exact ⟨Nat.not_lt.mp hShort, ih _ hEq⟩
  exact hFrom [] path hReach

/- What is read is the content of a file. -/
theorem node?_of_readFile
    {t : Tree}
    {path : Path}
    {content : Bytes}
    (hRead : t.readFile path = .ok content) :
    t.node? path = some (.file content) :=
  node?_of_reach (readFile_eq_ok_iff.mp hRead)

/- So has the path of a file that can be read. -/
theorem fits_of_readFile
    {t : Tree}
    {path : Path}
    {content : Bytes}
    (hRead : t.readFile path = .ok content) :
    ∀ name ∈ path, Fits name :=
  fits_of_reach (readFile_eq_ok_iff.mp hRead)

/- Where a path of one name leads. -/
theorem reach_directory
    (t : Tree)
    {d : String}
    (hFits : Fits d) :
    t.reach [d] = .ok (t.node? [d]) := by
  have hShort : ¬ maxName < d.utf8ByteSize :=
    Nat.not_lt.mpr hFits
  simp [reach, reachFrom, node?, hShort]

/- Where a path of two names leads. -/
theorem reach_file
    {t : Tree}
    {d name : String}
    (hDirectory : t.node? [d] = some .directory)
    (hFits : Fits d)
    (hName : Fits name) :
    t.reach [d, name] = .ok (t.node? [d, name]) := by
  have hShort : ¬ maxName < d.utf8ByteSize :=
    Nat.not_lt.mpr hFits
  have hShortName : ¬ maxName < name.utf8ByteSize :=
    Nat.not_lt.mpr hName
  have hRoot : t.node? [] = some .directory := by
    simp [node?]
  simp [reach, reachFrom, hRoot, hShort, hShortName,
    hDirectory]

/- A path through a directory that is missing fails. -/
theorem reach_missing
    {t : Tree}
    {d name : String}
    (hDirectory : t.node? [d] = none)
    (hFits : Fits d) :
    t.reach [d, name] = .error .notFound := by
  have hShort : ¬ maxName < d.utf8ByteSize :=
    Nat.not_lt.mpr hFits
  have hRoot : t.node? [] = some .directory := by
    simp [node?]
  simp [reach, reachFrom, hRoot, hShort, hDirectory]

/- A path that starts with a name that is too long fails. -/
theorem reach_tooLong
    (t : Tree)
    {d : String}
    (rest : Path)
    (hLong : ¬ Fits d) :
    t.reach (d :: rest) = .error .nameTooLong := by
  have hMore : maxName < d.utf8ByteSize :=
    Nat.not_le.mp hLong
  have hRoot : t.node? [] = some .directory := by
    simp [node?]
  simp [reach, reachFrom, hRoot, hMore]

/- So does one with such a name in a directory. -/
theorem reach_file_tooLong
    {t : Tree}
    {d name : String}
    (hDirectory : t.node? [d] = some .directory)
    (hFits : Fits d)
    (hLong : ¬ Fits name) :
    t.reach [d, name] = .error .nameTooLong := by
  have hShort : ¬ maxName < d.utf8ByteSize :=
    Nat.not_lt.mpr hFits
  have hMore : maxName < name.utf8ByteSize :=
    Nat.not_le.mp hLong
  have hRoot : t.node? [] = some .directory := by
    simp [node?]
  simp [reach, reachFrom, hRoot, hShort, hDirectory, hMore]

/- A directory is there or it is missing. -/
theorem IsFlat.directory_cases
    {t : Tree}
    (hFlat : t.IsFlat)
    (d : String) :
    t.node? [d] = none ∨ t.node? [d] = some .directory := by
  cases hNode : t.node? [d] with
  | none => exact Or.inl rfl
  | some node =>
      cases node with
      | directory => exact Or.inr rfl
      | file content =>
          exact absurd hNode (hFlat.directory d content)

/- A file is there or it is missing. -/
theorem IsFlat.file_cases
    {t : Tree}
    (hFlat : t.IsFlat)
    (d name : String) :
    t.node? [d, name] = none ∨
      ∃ content,
        t.node? [d, name] = some (.file content) := by
  cases hNode : t.node? [d, name] with
  | none => exact Or.inl rfl
  | some node =>
      cases node with
      | directory => exact absurd hNode (hFlat.file d name)
      | file content => exact Or.inr ⟨content, rfl⟩

end Tree

end Courier

------------------------------------------------------------
-- Changes of Flat Trees
------------------------------------------------------------

namespace Courier

namespace Tree

/-
  A directory can always be made, and nothing else changes
  by it.
-/
theorem makeDirectory_eq_ok
    {t : Tree}
    {d : String}
    (hFlat : t.IsFlat)
    (hFits : Fits d) :
    ∃ t',
      t.makeDirectory [d] = .ok t' ∧
        ∀ path,
          t'.node? path =
            if path = [d] then some .directory
            else t.node? path := by
  unfold makeDirectory
  rw [reach_directory t hFits]
  rcases hFlat.directory_cases d with hNode | hNode
  · refine ⟨t.put [d] .directory, by rw [hNode], ?_⟩
    exact fun path =>
      node?_put t .directory path (List.cons_ne_nil d [])
  · refine ⟨t, by rw [hNode], ?_⟩
    intro path
    split
    · next hEq => rw [hEq, hNode]
    · rfl

/- A tree stays flat when a directory is made. -/
theorem IsFlat.makeDirectory
    {t t' : Tree}
    {d : String}
    (hFlat : t.IsFlat)
    (hMade :
      ∀ path,
        t'.node? path =
          if path = [d] then some .directory
          else t.node? path) :
    t'.IsFlat := by
  constructor
  · intro other content
    rw [hMade]
    split
    · simp
    · exact hFlat.directory other content
  · intro other name
    rw [hMade, if_neg (by simp)]
    exact hFlat.file other name
  · intro other name
    rw [hMade, hMade, if_neg (by simp)]
    intro hSome
    split
    · rfl
    · exact hFlat.parent other name hSome

/- A tree stays flat when a file is put in a directory. -/
theorem IsFlat.put
    {t : Tree}
    {d name : String}
    (hFlat : t.IsFlat)
    (hDirectory : t.node? [d] = some .directory)
    (content : Bytes) :
    (t.put [d, name] (.file content)).IsFlat := by
  constructor
  · intro other bytes
    rw [node?_put _ _ _ (by simp), if_neg (by simp)]
    exact hFlat.directory other bytes
  · intro other file
    rw [node?_put _ _ _ (by simp)]
    split
    · simp
    · exact hFlat.file other file
  · intro other file
    have hOther :
        (t.put [d, name] (.file content)).node? [other] =
          t.node? [other] := by
      rw [node?_put _ _ _ (by simp), if_neg (by simp)]
    rw [node?_put _ _ _ (by simp), hOther]
    split
    · next hEq =>
        cases hEq
        exact fun _ => hDirectory
    · exact hFlat.parent other file

/- A tree stays flat when a file is removed. -/
theorem IsFlat.erase
    {t : Tree}
    {d name : String}
    (hFlat : t.IsFlat) :
    (t.erase [d, name]).IsFlat := by
  constructor
  · intro other bytes
    rw [node?_erase _ _ (by simp), if_neg (by simp)]
    exact hFlat.directory other bytes
  · intro other file
    rw [node?_erase _ _ (by simp)]
    split
    · simp
    · exact hFlat.file other file
  · intro other file
    have hOther :
        (t.erase [d, name]).node? [other] =
          t.node? [other] := by
      rw [node?_erase _ _ (by simp), if_neg (by simp)]
    rw [node?_erase _ _ (by simp), hOther]
    split
    · simp
    · exact hFlat.parent other file

end Tree

end Courier

------------------------------------------------------------
-- Files of Flat Trees
------------------------------------------------------------

namespace Courier

namespace Tree

variable {t : Tree}
variable {d name : String}

/- A file can be written in any directory that is there. -/
theorem writeFile_eq_ok
    (hFlat : t.IsFlat)
    (hDirectory : t.node? [d] = some .directory)
    (hFits : Fits d)
    (hName : Fits name)
    (content : Bytes) :
    t.writeFile [d, name] content =
      .ok (t.put [d, name] (.file content)) := by
  unfold writeFile
  rw [reach_file hDirectory hFits hName]
  rcases hFlat.file_cases d name with hNode | ⟨old, hNode⟩
  · rw [hNode]
  · rw [hNode]

/- Reading a file gives its content or that it is missing. -/
theorem readFile_file
    (hFlat : t.IsFlat)
    (hFits : Fits d)
    (hName : Fits name) :
    t.readFile [d, name] =
      match t.node? [d, name] with
      | some (.file content) => .ok content
      | _ => .error .notFound := by
  unfold readFile
  rcases hFlat.directory_cases d with hNode | hNode
  · have hFile : t.node? [d, name] = none := by
      rcases hFlat.file_cases d name with hNone | hSome
      · exact hNone
      · rcases hSome with ⟨content, hSome⟩
        have hParent :=
          hFlat.parent d name (by rw [hSome]; rfl)
        rw [hNode] at hParent
        cases hParent
    rw [reach_missing hNode hFits, hFile]
  · rw [reach_file hNode hFits hName]
    rcases hFlat.file_cases d name with hFile | hFile
    · rw [hFile]
    · rcases hFile with ⟨content, hFile⟩
      rw [hFile]

/- Removing a file takes it away or finds it missing. -/
theorem unlink_file
    (hFlat : t.IsFlat)
    (hFits : Fits d)
    (hName : Fits name) :
    t.unlink [d, name] =
      if (t.node? [d, name]).isSome then
        .ok (t.erase [d, name])
      else .error .notFound := by
  unfold unlink
  rcases hFlat.directory_cases d with hNode | hNode
  · have hFile : ¬ (t.node? [d, name]).isSome := by
      intro hSome
      have hParent := hFlat.parent d name hSome
      rw [hNode] at hParent
      cases hParent
    rw [reach_missing hNode hFits, if_neg hFile]
  · rw [reach_file hNode hFits hName]
    rcases hFlat.file_cases d name with hFile | hFile
    · rw [hFile]
      rfl
    · rcases hFile with ⟨content, hFile⟩
      rw [hFile]
      rfl

end Tree

end Courier
