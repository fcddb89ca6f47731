import Courier.Proofs.Storage.Store

/-
  What a request changes in a store, whatever is in its
  tree.

  A file that is stored or deleted is changed at its own
  path.  All other files stay as they are, and so do all
  files if the request fails.  No hidden file is left, and
  no temporary copy but the one that is handed out.

  Key definitions include:
    * `Tree.file?`
    * `TemporaryFiles.IsFresh`
    * `Store.dropped`
    * `Store.counted`

  Key theorems include:
    * `Store.node?_discard_of_fill`
    * `Store.file?_of_store`
    * `Store.file?_of_store_error`
    * `Store.delete_cases`
    * `Store.mem_files_of_find`
    * `Store.read_of_find`
    * `Store.find_missing`
    * `Store.exists_counted_of_find`
    * `Store.find_file`
-/

------------------------------------------------------------
-- Files of a Tree
------------------------------------------------------------

namespace Courier

namespace Tree

/- The content of the file at a path, if there is one. -/
def file?
    (t : Tree)
    (path : Path) : Option Bytes :=
  match t.node? path with
  | some (.file content) => some content
  | _ => none

variable {t : Tree}
variable {path : Path}

/- A path has a content exactly if a file is there. -/
theorem file?_eq_some_iff
    {content : Bytes} :
    t.file? path = some content ↔
      t.node? path = some (.file content) := by
  unfold file?
  cases t.node? path with
  | none => simp
  | some node =>
      cases node with
      | directory => simp
      | file other => simp

/- There is no file where there is nothing. -/
theorem file?_of_node?
    (hNone : t.node? path = none) :
    t.file? path = none := by
  rw [file?, hNone]

/- The root is a directory. -/
theorem ne_nil_of_node?
    (hNone : t.node? path = none) :
    path ≠ [] := by
  rintro rfl
  cases hNone

/- What files there are after one was removed. -/
theorem file?_erase
    (other : Path)
    (hSome : path ≠ []) :
    (t.erase path).file? other =
      if other = path then none else t.file? other := by
  unfold file?
  rw [node?_erase t other hSome]
  by_cases hEq : other = path
  · rw [if_pos hEq, if_pos hEq]
  · rw [if_neg hEq, if_neg hEq]

/- No file changes when a directory is made. -/
theorem file?_makeDirectory
    {t' : Tree}
    (hMake : t.makeDirectory path = .ok t') :
    t'.file? = t.file? := by
  rcases makeDirectory_eq_ok_iff.mp hMake with
    ⟨hReach, rfl⟩ | ⟨-, rfl⟩
  · have hNone := node?_of_reach hReach
    funext other
    unfold file?
    rw [node?_put t _ other (ne_nil_of_node? hNone)]
    by_cases hEq : other = path
    · rw [if_pos hEq, hEq, hNone]
    · rw [if_neg hEq]
  · rfl

/-
  A path that could be followed can be followed still when
  a node was put at its end.
-/
theorem reach_put
    {found : Option Node}
    (node : Node)
    (hSome : path ≠ [])
    (hReach : t.reach path = .ok found) :
    (t.put path node).reach path = .ok (some node) := by
  have hFrom :
      ∀ seen rest : Path,
        seen ++ rest = path →
          t.reachFrom seen rest = .ok found →
            (t.put path node).reachFrom seen rest =
              .ok (some node) := by
    intro seen rest
    induction rest generalizing seen with
    | nil =>
        intro hPath hEq
        rw [List.append_nil] at hPath
        rw [reachFrom, node?_put t node seen hSome,
          if_pos hPath]
    | cons name rest ih =>
        intro hPath hEq
        -- The directories on the way are shorter paths.
        have hShort : seen ≠ path := by
          intro hSame
          rw [← hPath] at hSame
          have hLength := congrArg List.length hSame
          simp at hLength
        unfold reachFrom at hEq ⊢
        rw [node?_put t node seen hSome, if_neg hShort]
        split at hEq
        · cases hEq
        · cases hEq
        · split at hEq
          · cases hEq
          · next hFits =>
              rw [if_neg hFits]
              apply ih (seen ++ [name])
              · rw [← hPath, ← List.append_cons]
              · exact hEq
  exact hFrom [] path rfl hReach

/- A file that was just written can be removed again. -/
theorem discard_put
    {found : Option Node}
    {content : Bytes}
    (hSome : path ≠ [])
    (hReach : t.reach path = .ok found) :
    (t.put path (.file content)).discard path =
      (t.put path (.file content)).erase path := by
  have hUnlink :=
    unlink_eq_ok_iff.mpr
      ⟨content, reach_put (.file content) hSome hReach, rfl⟩
  rw [discard, hUnlink]

/- Nothing is removed where there is nothing. -/
theorem discard_of_node?
    (hNone : t.node? path = none) :
    t.discard path = t := by
  unfold discard
  split
  · next t' hUnlink =>
      rcases unlink_eq_ok_iff.mp hUnlink with
        ⟨content, hReach, -⟩
      have hNode := node?_of_reach hReach
      rw [hNone] at hNode
      cases hNode
  · rfl

/- A file that is removed was there. -/
theorem file?_of_unlink
    {t' : Tree}
    (hUnlink : t.unlink path = .ok t') :
    (t.file? path).isSome = true ∧ t' = t.erase path := by
  rcases unlink_eq_ok_iff.mp hUnlink with
    ⟨content, hReach, rfl⟩
  have hFile := file?_eq_some_iff.mpr (node?_of_reach hReach)
  rw [hFile]
  exact ⟨rfl, rfl⟩

end Tree

end Courier

------------------------------------------------------------
-- Placing a File
------------------------------------------------------------

namespace Courier

namespace Store

variable {t t' : Tree}
variable {hidden final : Path}
variable {source : Source}

/-
  Whatever became of a copy to a free path, nothing is left
  of it once that path is discarded.
-/
theorem node?_discard_of_fill
    {filled : Except IoError Unit}
    (hFresh : t.node? hidden = none)
    (hFill : fill t hidden source = (filled, t')) :
    (t'.discard hidden).node? = t.node? := by
  have hSome := Tree.ne_nil_of_node? hFresh
  have hWritten
      {bytes : Bytes}
      (hWrite : t.writeFile hidden bytes = .ok t') :
      (t'.discard hidden).node? = t.node? := by
    rcases Tree.writeFile_eq_ok_iff.mp hWrite with
      ⟨found, hReach, -, rfl⟩
    rw [Tree.discard_put hSome hReach]
    funext other
    rw [Tree.node?_erase _ other hSome,
      Tree.node?_put t _ other hSome]
    by_cases hEq : other = hidden
    · rw [if_pos hEq, hEq, hFresh]
    · rw [if_neg hEq, if_neg hEq]
  cases fill_eq_iff.mp hFill with
  | closed => rw [Tree.discard_of_node? hFresh]
  | refusedWhole _ => rw [Tree.discard_of_node? hFresh]
  | refusedBroken _ => rw [Tree.discard_of_node? hFresh]
  | broken hWrite => exact hWritten hWrite
  | whole hWrite => exact hWritten hWrite

/-
  A file that cannot be placed leaves no trace, neither
  under its final path nor under the hidden one.
-/
theorem node?_of_place_error
    {e : IoError}
    (hFresh : t.node? hidden = none)
    (hPlace : place t hidden final source = (.error e, t')) :
    t'.node? = t.node? := by
  cases place_eq_iff.mp hPlace with
  | unfilled hFill => exact node?_discard_of_fill hFresh hFill
  | unnamed hFill _ => exact node?_discard_of_fill hFresh hFill

/- So all files stay when one cannot be placed. -/
theorem file?_of_place_error
    {e : IoError}
    (hFresh : t.node? hidden = none)
    (hPlace : place t hidden final source = (.error e, t')) :
    t'.file? = t.file? := by
  funext path
  unfold Tree.file?
  rw [node?_of_place_error hFresh hPlace]

/- A copy that does not fail writes all of its source. -/
theorem exists_write_of_fill
    (hFill : fill t hidden source = (.ok (), t')) :
    ∃ content,
      source = .whole content ∧
        t.writeFile hidden content = .ok t' := by
  cases fill_eq_iff.mp hFill with
  | whole hWrite => exact ⟨_, rfl, hWrite⟩

/-
  A file that was placed is under its final path, and all
  other paths are as before.
-/
theorem node?_of_place
    (hFresh : t.node? hidden = none)
    (hFinal : final ≠ [])
    (hPlace : place t hidden final source = (.ok (), t')) :
    ∃ content,
      source = .whole content ∧
        ∀ path,
          t'.node? path =
            if path = final then some (.file content)
            else t.node? path := by
  have hSome := Tree.ne_nil_of_node? hFresh
  cases place_eq_iff.mp hPlace with
  | placed hFill hRename =>
      rcases exists_write_of_fill hFill with
        ⟨written, rfl, hWrite⟩
      rcases Tree.writeFile_eq_ok_iff.mp hWrite with
        ⟨-, -, -, rfl⟩
      rcases Tree.rename_eq_ok_iff.mp hRename with
        ⟨moved, -, hRead, -, -, rfl⟩
      -- The moved content is the written one.
      have hMoved := Tree.node?_of_readFile hRead
      rw [Tree.node?_put t _ hidden hSome, if_pos rfl] at hMoved
      cases hMoved
      refine ⟨_, rfl, ?_⟩
      intro path
      rw [Tree.node?_put _ _ path hFinal,
        Tree.node?_erase _ path hSome,
        Tree.node?_put t _ path hSome]
      by_cases hHere : path = hidden
      · rw [if_pos hHere, hHere, hFresh]
      · rw [if_neg hHere, if_neg hHere]

/- So its content is there, and all other files stay. -/
theorem file?_of_place
    (hFresh : t.node? hidden = none)
    (hFinal : final ≠ [])
    (hPlace : place t hidden final source = (.ok (), t')) :
    ∃ content,
      source = .whole content ∧
        ∀ path,
          t'.file? path =
            if path = final then some content
            else t.file? path := by
  rcases node?_of_place hFresh hFinal hPlace with
    ⟨content, hSource, hNodes⟩
  refine ⟨content, hSource, ?_⟩
  intro path
  unfold Tree.file?
  rw [hNodes]
  by_cases hHere : path = final
  · rw [if_pos hHere, if_pos hHere]
  · rw [if_neg hHere, if_neg hHere]

end Store

end Courier

------------------------------------------------------------
-- Storing
------------------------------------------------------------

namespace Courier

namespace Store

/- The path of the file with a key. -/
def pathOf
    (key : FileKey) : Path :=
  [key.1, key.2]

/- No file has the path of the root. -/
theorem pathOf_ne_nil
    (key : FileKey) :
    pathOf key ≠ [] :=
  List.cons_ne_nil key.1 [key.2]

/- No two keys have one path. -/
theorem pathOf_injective
    {key other : FileKey}
    (hSame : pathOf key = pathOf other) :
    key = other := by
  unfold pathOf at hSame
  rw [List.cons.injEq, List.cons.injEq] at hSame
  exact Prod.ext hSame.1 hSame.2.1

variable {s s' : Store}
variable {name : String}
variable {domain : Option String}
variable {source : Source}

/- The hidden path is free, also in a new directory. -/
theorem node?_hiddenPath
    {t : Tree}
    {d : String}
    (fileId : String)
    (hMake : s.tree.makeDirectory [d] = .ok t) :
    t.node? (hiddenPath s.tree d fileId s.serial) = none := by
  have hFresh := freshSerial_isNone s.tree d fileId s.serial
  rcases Tree.makeDirectory_eq_ok_iff.mp hMake with
    ⟨-, rfl⟩ | ⟨-, rfl⟩
  · rw [hiddenPath,
      Tree.node?_put _ _ _ (List.cons_ne_nil d []),
      if_neg (by simp)]
    exact hFresh
  · exact hFresh

/- A file that cannot be stored changes no file. -/
theorem file?_of_store_error
    {e : StorageError}
    (hStore : s.store source name domain = (.error e, s')) :
    s'.tree.file? = s.tree.file? := by
  cases store_eq_iff.mp hStore with
  | badDomain _ => rfl
  | badName _ _ => rfl
  | noDirectory _ _ => rfl
  | notPlaced _ hMake hPlace =>
      rw [file?_of_place_error (node?_hiddenPath _ hMake) hPlace]
      exact Tree.file?_makeDirectory hMake

/-
  A file that was stored has the content of its source at
  the path of its key, and all other files are as before.
-/
theorem file?_of_store
    {fileId : String}
    (hStore : s.store source name domain = (.ok fileId, s')) :
    ∃ key content,
      key? name domain = some key ∧
        source = .whole content ∧
        ∀ path,
          s'.tree.file? path =
            if path = pathOf key then some content
            else s.tree.file? path := by
  cases store_eq_iff.mp hStore with
  | stored hKey hMake hPlace =>
      rcases
        file?_of_place (node?_hiddenPath fileId hMake)
          (List.cons_ne_nil _ [fileId]) hPlace with
        ⟨content, hSource, hFiles⟩
      refine ⟨_, content, hKey, hSource, ?_⟩
      intro path
      rw [hFiles path, Tree.file?_makeDirectory hMake]
      rfl

end Store

end Courier

------------------------------------------------------------
-- Deleting
------------------------------------------------------------

namespace Courier

namespace Store

variable {s s' : Store}
variable {fileId : String}
variable {domain : Option String}

/-
  Deleting takes away the file at the path of its key, which
  was there, or it changes nothing at all.
-/
theorem delete_cases
    {deleted : Except StorageError Bool}
    (hDelete : s.delete fileId domain = (deleted, s')) :
    (deleted ≠ .ok true ∧ s' = s) ∨
      (deleted = .ok true ∧
        ∃ key,
          key? fileId domain = some key ∧
            (s.tree.file? (pathOf key)).isSome = true ∧
            s' = { s with tree := s.tree.erase (pathOf key) })
    := by
  cases delete_eq_iff.mp hDelete with
  | noKey _ => exact Or.inl ⟨by simp, rfl⟩
  | missing _ _ _ => exact Or.inl ⟨by simp, rfl⟩
  | failed _ _ _ => exact Or.inl ⟨by simp, rfl⟩
  | deleted hKey hUnlink =>
      rcases Tree.file?_of_unlink hUnlink with ⟨hSome, rfl⟩
      exact Or.inr ⟨rfl, _, hKey, hSome, rfl⟩

/-
  Deleting takes away the file at the path of its key, if
  there is one, and no other.
-/
theorem file?_of_delete
    {key : FileKey}
    (hKey : key? fileId domain = some key)
    (hDelete :
      s.delete fileId domain = (.ok (s.shelf key).isSome, s'))
    (path : Path) :
    s'.tree.file? path =
      if path = pathOf key then none
      else s.tree.file? path := by
  rcases delete_cases hDelete with
    ⟨hNot, hSame⟩ | ⟨-, deleted, hDeleted, -, hErased⟩
  · -- There was nothing to delete.
    have hNone : s.tree.file? (pathOf key) = none := by
      cases hFile : s.tree.file? (pathOf key) with
      | none => rfl
      | some content =>
          have hShelf : s.shelf key = some content := hFile
          rw [hShelf] at hNot
          exact absurd rfl hNot
    rw [hSame]
    by_cases hHere : path = pathOf key
    · rw [if_pos hHere, hHere, hNone]
    · rw [if_neg hHere]
  · cases hKey.symm.trans hDeleted
    rw [hErased]
    exact Tree.file?_erase path (pathOf_ne_nil key)

end Store

end Courier

------------------------------------------------------------
-- Finding
------------------------------------------------------------

namespace Courier

namespace TemporaryFiles

variable {t t' : TemporaryFiles}
variable {n : Nat}
variable {file : Nat × Bytes}

/- A removed file is gone, and no other one is new. -/
theorem mem_remove_iff :
    file ∈ (t.remove n).files ↔
      file ∈ t.files ∧ file.1 ≠ n := by
  simp [remove]

/- No file is made in a directory that is missing. -/
theorem isPresent_of_create
    (hCreate : t.create = .ok (n, t')) :
    t.isPresent = true := by
  unfold create at hCreate
  split at hCreate
  · next hPresent => exact hPresent
  · cases hCreate

/- A new file is the only one that is new. -/
theorem mem_files_of_create
    (hCreate : t.create = .ok (n, t'))
    (hMem : file ∈ t'.files)
    (hNe : file.1 ≠ n) :
    file ∈ t.files := by
  unfold create at hCreate
  split at hCreate
  · cases hCreate
    rcases List.mem_cons.mp hMem with rfl | hOld
    · exact absurd rfl hNe
    · exact hOld
  · cases hCreate

/- Other files stay when one is given a content. -/
theorem mem_files_of_put
    {content : Bytes}
    (hMem : file ∈ (t.put n content).files)
    (hNe : file.1 ≠ n) :
    file ∈ t.files := by
  rcases List.mem_map.mp hMem with ⟨old, hOld, hSame⟩
  by_cases hHere : old.1 = n
  · rw [if_pos hHere] at hSame
    rw [← hSame] at hNe
    exact absurd rfl hNe
  · rw [if_neg hHere] at hSame
    rw [← hSame]
    exact hOld

/- Nothing is left of a file that was made and removed. -/
theorem mem_files_of_remove
    {content : Bytes}
    (hCreate : t.create = .ok (n, t'))
    (hMem : file ∈ ((t'.put n content).remove n).files) :
    file ∈ t.files := by
  rcases mem_remove_iff.mp hMem with ⟨hPut, hNe⟩
  exact
    mem_files_of_create hCreate (mem_files_of_put hPut hNe) hNe

end TemporaryFiles

namespace Store

variable {s s' : Store}
variable {fileId : String}
variable {domain : Option String}

/-
  The only temporary copy that is left by a search is the
  one that is handed out.
-/
theorem mem_files_of_find
    {found : Except StorageError (Option Download)}
    {file : Nat × Bytes}
    (hFind : s.find fileId domain = (found, s'))
    (hMem : file ∈ s'.temp.files)
    (hOther : ∀ d, found = .ok (some d) → file.1 ≠ d.copy) :
    file ∈ s.temp.files := by
  have hRemoved
      {copy : Nat}
      {temp : TemporaryFiles}
      (hCreate : s.temp.create = .ok (copy, temp))
      (hLeft : file ∈ (temp.remove copy).files) :
      file ∈ s.temp.files := by
    rcases TemporaryFiles.mem_remove_iff.mp hLeft with
      ⟨hOld, hNe⟩
    exact TemporaryFiles.mem_files_of_create hCreate hOld hNe
  cases find_eq_iff.mp hFind with
  | noKey _ => exact hMem
  | noCopy _ _ => exact hMem
  | missing _ hCreate _ _ => exact hRemoved hCreate hMem
  | failed _ hCreate _ _ => exact hRemoved hCreate hMem
  | found _ hCreate _ =>
      have hNe := hOther _ rfl
      exact
        TemporaryFiles.mem_files_of_create hCreate
          (TemporaryFiles.mem_files_of_put hMem hNe) hNe

/- A copy that is handed out is that of the file of its key. -/
theorem read_of_find
    {d : Download}
    (hFind : s.find fileId domain = (.ok (some d), s')) :
    ∃ key content,
      key? fileId domain = some key ∧
        s.temp.isPresent = true ∧
        s.tree.file? (pathOf key) = some content ∧
        s'.temp.read d.copy = .ok content := by
  cases find_eq_iff.mp hFind with
  | found hKey hCreate hRead =>
      exact
        ⟨_, _, hKey, TemporaryFiles.isPresent_of_create hCreate,
          Tree.file?_eq_some_iff.mpr
            (Tree.node?_of_readFile hRead),
          TemporaryFiles.read_put_create hCreate _⟩

end Store

end Courier

------------------------------------------------------------
-- New Copies
------------------------------------------------------------

namespace Courier

namespace TemporaryFiles

/- No file has a number that is still to be given. -/
def IsFresh
    (t : TemporaryFiles) : Prop :=
  ∀ file ∈ t.files, file.1 < t.next

variable {t t' : TemporaryFiles}
variable {n : Nat}

/- A new file has the next number. -/
theorem eq_next_of_create
    (hCreate : t.create = .ok (n, t')) :
    n = t.next := by
  unfold create at hCreate
  split at hCreate
  · cases hCreate
    rfl
  · cases hCreate

/- A new file that is removed leaves the others. -/
theorem remove_of_create
    (hFresh : t.IsFresh)
    (hCreate : t.create = .ok (n, t')) :
    t'.remove n = { t with next := t.next + 1 } := by
  unfold create at hCreate
  split at hCreate
  · cases hCreate
    have hOld :
        (t.files.filter fun file => file.1 != t.next) =
          t.files := by
      rw [List.filter_eq_self]
      intro file hMem
      have hLess := hFresh file hMem
      rw [bne_iff_ne]
      omega
    have hNew : ((t.next, ([] : Bytes)).1 != t.next) = false :=
      bne_self_eq_false t.next
    simp only [remove, List.filter_cons, hNew, hOld]
    rfl
  · cases hCreate

/- A new file that is written stands before the others. -/
theorem put_of_create
    (hFresh : t.IsFresh)
    (hCreate : t.create = .ok (n, t'))
    (content : Bytes) :
    t'.put n content =
      { t with
        next := t.next + 1
        files := (t.next, content) :: t.files } := by
  unfold create at hCreate
  split at hCreate
  · cases hCreate
    have hOld :
        (t.files.map fun file =>
          if file.1 = t.next then (t.next, content)
          else file) = t.files.map id := by
      apply List.map_congr_left
      intro file hMem
      have hLess := hFresh file hMem
      rw [if_neg (by omega), id]
    rw [List.map_id] at hOld
    simp only [put, List.map_cons, if_pos, hOld]
  · cases hCreate

/- A new file uses its number up. -/
theorem IsFresh.create
    (hFresh : t.IsFresh)
    (hCreate : t.create = .ok (n, t')) :
    t'.IsFresh := by
  unfold TemporaryFiles.create at hCreate
  split at hCreate
  · cases hCreate
    intro file hMem
    rcases List.mem_cons.mp hMem with rfl | hOld
    · exact Nat.lt_succ_self _
    · exact Nat.lt_succ_of_lt (hFresh file hOld)
  · cases hCreate

/- A file keeps its number when it is given a content. -/
theorem IsFresh.put
    (hFresh : t.IsFresh)
    (n : Nat)
    (content : Bytes) :
    (t.put n content).IsFresh := by
  intro file hMem
  rcases List.mem_map.mp hMem with ⟨old, hOld, rfl⟩
  have hLess := hFresh old hOld
  split
  · next hHere =>
      rw [hHere] at hLess
      exact hLess
  · exact hLess

/- No number comes free when a file is removed. -/
theorem IsFresh.remove
    (hFresh : t.IsFresh)
    (n : Nat) :
    (t.remove n).IsFresh := by
  intro file hMem
  exact hFresh file (mem_remove_iff.mp hMem).1

/- What was in a file makes no difference once it is gone. -/
theorem remove_put
    (t : TemporaryFiles)
    (n : Nat)
    (content : Bytes) :
    (t.put n content).remove n = t.remove n := by
  have hFiles :
      (t.put n content).files.filter (fun file => file.1 != n) =
        t.files.filter fun file => file.1 != n := by
    simp only [put]
    induction t.files with
    | nil => rfl
    | cons file files ih =>
        by_cases hHere : file.1 = n
        · simp [hHere, ih]
        · simp [hHere, ih]
  rw [remove, remove, hFiles]
  rfl

end TemporaryFiles

namespace Store

/- A store once the copy that it has handed out is removed. -/
def dropped
    (s : Store) : Except StorageError (Option Download) → Store
  | .ok (some d) =>
      { s with temp := s.temp.remove d.copy }
  | .ok none => s
  | .error _ => s

/- A store that will give another number to its next copy. -/
def counted
    (s : Store)
    (next : Nat) : Store :=
  { s with temp := { s.temp with next := next } }

variable {s : Store}
variable {fileId : String}
variable {domain : Option String}
variable {key : FileKey}

/-
  A search changes nothing but the number of the next copy,
  once the copy that it has handed out is removed.
-/
theorem exists_counted_of_find
    {s' : Store}
    {found : Except StorageError (Option Download)}
    (hFresh : s.temp.IsFresh)
    (hFind : s.find fileId domain = (found, s')) :
    ∃ next,
      s.temp.next ≤ next ∧
        s'.dropped found = s.counted next := by
  cases find_eq_iff.mp hFind with
  | noKey _ => exact ⟨s.temp.next, Nat.le_refl _, rfl⟩
  | noCopy _ _ => exact ⟨s.temp.next, Nat.le_refl _, rfl⟩
  | missing _ hCreate _ _ =>
      refine ⟨s.temp.next + 1, Nat.le_succ _, ?_⟩
      rw [dropped, TemporaryFiles.remove_of_create hFresh hCreate]
      rfl
  | failed _ hCreate _ _ =>
      refine ⟨s.temp.next + 1, Nat.le_succ _, ?_⟩
      rw [dropped, TemporaryFiles.remove_of_create hFresh hCreate]
      rfl
  | found _ hCreate _ =>
      refine ⟨s.temp.next + 1, Nat.le_succ _, ?_⟩
      simp only [dropped, TemporaryFiles.remove_put,
        TemporaryFiles.remove_of_create hFresh hCreate]
      rfl

/- Nothing is left of the copy when a file is missing. -/
theorem find_missing
    (hKey : key? fileId domain = some key)
    (hPresent : s.temp.isPresent = true)
    (hFresh : s.temp.IsFresh)
    (hRead :
      s.tree.readFile (pathOf key) = .error .notFound) :
    s.find fileId domain =
      (.ok none,
        { s with
          temp := { s.temp with next := s.temp.next + 1 } }) := by
  rcases TemporaryFiles.exists_create hPresent with
    ⟨copy, temp, hCreate, -⟩
  rw [find_eq_iff.mpr (.missing hKey hCreate hRead rfl),
    TemporaryFiles.remove_of_create hFresh hCreate]

/- A file that is there is handed out with a new number. -/
theorem find_file
    {content : Bytes}
    (hKey : key? fileId domain = some key)
    (hPresent : s.temp.isPresent = true)
    (hFresh : s.temp.IsFresh)
    (hRead : s.tree.readFile (pathOf key) = .ok content) :
    s.find fileId domain =
      (.ok
        (some
          { fileId := key.2
            fileName := key.2
            domain := domain
            copy := s.temp.next }),
        { s with
          temp :=
            { s.temp with
              next := s.temp.next + 1
              files :=
                (s.temp.next, content) :: s.temp.files } }) := by
  rcases TemporaryFiles.exists_create hPresent with
    ⟨copy, temp, hCreate, -⟩
  have hCopy := TemporaryFiles.eq_next_of_create hCreate
  subst hCopy
  rw [find_eq_iff.mpr (.found hKey hCreate hRead),
    TemporaryFiles.put_of_create hFresh hCreate]

end Store

end Courier
