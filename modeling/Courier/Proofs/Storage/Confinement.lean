import Courier.Proofs.Storage.Change
import Courier.Storage.Access

/-
  Which paths a store touches.

  Each path is one name below the root or two names, and
  each name has safe characters only and does not lead
  elsewhere.  Read as a text such a path stays below the
  root, step by step.

  Key definitions include:
    * `Store.IsComponent`
    * `Store.IsConfined`
    * `Tree.resolve`

  Key theorems include:
    * `Store.component?_eq_self_iff`
    * `Store.isConfined_of_accesses`
    * `Access.node?_foldl_after`
    * `Store.resolve_pathText`
-/

------------------------------------------------------------
-- Components
------------------------------------------------------------

namespace Courier

namespace Store

/-
  The text is a name for one file or directory: it has safe
  characters only, and it is neither empty nor a name for
  the directory that it is in, or for the one above.
-/
structure IsComponent
    (name : String) : Prop where
  safe : ∀ c ∈ name.toList, FileName.isSafe c = true
  ne_empty : name ≠ ""
  ne_here : name ≠ "."
  ne_above : name ≠ ".."

/- A safe form has safe characters only. -/
theorem isSafe_of_mem_sanitize
    {name : String}
    {c : Char}
    (hMem : c ∈ (FileName.sanitize name).toList) :
    FileName.isSafe c = true := by
  rw [FileName.sanitize, String.toList_ofList] at hMem
  rcases List.mem_map.mp hMem with ⟨old, -, rfl⟩
  exact FileName.isSafe_safeChar old

/- Whatever the text was, a component takes its place. -/
theorem isComponent_of_component?
    {name safe : String}
    (hName : component? name = some safe) :
    IsComponent safe := by
  have hSafe := component?_eq_some hName
  unfold component? at hName
  simp only at hName
  split at hName
  · cases hName
  · next hOther =>
      rw [← hSafe] at hOther
      rw [not_or, not_or] at hOther
      refine ⟨?_, hOther.1, hOther.2.1, hOther.2.2⟩
      intro c hMem
      rw [hSafe] at hMem
      exact isSafe_of_mem_sanitize hMem

/- Components are the texts that stay as they are. -/
theorem component?_eq_self_iff
    (name : String) :
    component? name = some name ↔ IsComponent name := by
  constructor
  · exact isComponent_of_component?
  · intro hComponent
    have hSame : FileName.sanitize name = name := by
      unfold FileName.sanitize
      have hChars :
          name.toList.map FileName.safeChar =
            name.toList.map id := by
        apply List.map_congr_left
        intro c hMem
        exact
          FileName.safeChar_of_isSafe (hComponent.safe c hMem)
      rw [hChars, List.map_id, String.ofList_toList]
    have hNot : ¬ (name = "" ∨ name = "." ∨ name = "..") := by
      rintro (hEmpty | hHere | hAbove)
      · exact hComponent.ne_empty hEmpty
      · exact hComponent.ne_here hHere
      · exact hComponent.ne_above hAbove
    simp only [component?, hSame, if_neg hNot]

/- The names in a key are components. -/
theorem isComponent_of_key?
    {name : String}
    {domain : Option String}
    {key : FileKey}
    (hKey : key? name domain = some key) :
    IsComponent key.1 ∧ IsComponent key.2 := by
  rcases key?_eq_some hKey with ⟨hName, hDomain⟩
  exact
    ⟨isComponent_of_component? hDomain,
      isComponent_of_component? hName⟩

/- A hidden name is a component if the final one is. -/
theorem IsComponent.hiddenName
    {name : String}
    (hComponent : IsComponent name)
    (n : Nat) :
    IsComponent (hiddenName name n) := by
  have hLong : 2 < (Store.hiddenName name n).length := by
    simp only [Store.hiddenName, String.length_ofList,
      List.length_append, List.length_cons, List.length_nil]
    omega
  refine ⟨?_, ?_, ?_, ?_⟩
  · intro c hMem
    rw [Store.hiddenName, String.toList_ofList] at hMem
    simp only [List.mem_append, List.mem_cons,
      List.mem_replicate] at hMem
    rcases hMem with
      ((rfl | hName) | rfl | ⟨-, rfl⟩ | hDigit) | hEnd
    · decide
    · exact hComponent.safe c hName
    · decide
    · decide
    · have hDigit :=
        Nat.isDigit_of_mem_toDigits (by decide) (by decide)
          hDigit
      simp [FileName.isSafe, Char.isAlphanum, hDigit]
    · rcases hEnd with rfl | rfl | rfl | rfl | hNone
      · decide
      · decide
      · decide
      · decide
      · cases hNone
  · intro hEmpty
    rw [hEmpty] at hLong
    cases hLong
  · intro hHere
    rw [hHere] at hLong
    exact absurd hLong (by decide)
  · intro hAbove
    rw [hAbove] at hLong
    exact absurd hLong (by decide)

end Store

end Courier

------------------------------------------------------------
-- Confined Paths
------------------------------------------------------------

namespace Courier

namespace Store

/- The path names a directory of the root or a file in one. -/
def IsConfined
    (path : Path) : Prop :=
  (∃ d, path = [d] ∧ IsComponent d) ∨
    ∃ d f, path = [d, f] ∧ IsComponent d ∧ IsComponent f

/- A directory of the root. -/
theorem isConfined_directory
    {d : String}
    (hDirectory : IsComponent d) :
    IsConfined [d] :=
  Or.inl ⟨d, rfl, hDirectory⟩

/- A file in a directory of the root. -/
theorem isConfined_file
    {d f : String}
    (hDirectory : IsComponent d)
    (hFile : IsComponent f) :
    IsConfined [d, f] :=
  Or.inr ⟨d, f, rfl, hDirectory, hFile⟩

variable {a : Access}
variable {path : Path}

/- Copying a source touches its path and no other. -/
theorem mem_paths_of_fillAccesses
    {hidden : Path}
    {source : Source}
    (hAccess : a ∈ fillAccesses hidden source)
    (hPath : path ∈ a.paths) :
    path = hidden := by
  cases source with
  | closed e => cases hAccess
  | whole content =>
      cases List.mem_singleton.mp hAccess
      exact List.mem_singleton.mp hPath
  | broken written e =>
      cases List.mem_singleton.mp hAccess
      exact List.mem_singleton.mp hPath

/- Placing a file touches its two paths and no other. -/
theorem mem_paths_of_placeAccesses
    {t : Tree}
    {hidden final : Path}
    {source : Source}
    (hAccess : a ∈ placeAccesses t hidden final source)
    (hPath : path ∈ a.paths) :
    path = hidden ∨ path = final := by
  rcases List.mem_append.mp hAccess with hFill | hName
  · exact Or.inl (mem_paths_of_fillAccesses hFill hPath)
  · split at hName
    · cases List.mem_singleton.mp hName
      exact Or.inl (List.mem_singleton.mp hPath)
    · split at hName
      · simp only [List.mem_cons, List.not_mem_nil, or_false]
          at hName
        rcases hName with rfl | rfl
        · simpa [Access.paths] using hPath
        · exact Or.inl (List.mem_singleton.mp hPath)
      · cases List.mem_singleton.mp hName
        simpa [Access.paths] using hPath

/-
  Whatever a store is asked for, by any names, it touches
  confined paths only.
-/
theorem isConfined_of_accesses
    {s : Store}
    {q : Request}
    (hAccess : a ∈ s.accesses q)
    (hPath : path ∈ a.paths) :
    IsConfined path := by
  cases q with
  | store source name domain =>
      simp only [accesses] at hAccess
      split at hAccess
      · next d f hDomain hName =>
          have hDirectory := isComponent_of_component? hDomain
          have hFile := isComponent_of_component? hName
          rcases List.mem_cons.mp hAccess with rfl | hPlace
          · have hSame := List.mem_singleton.mp hPath
            rw [hSame]
            exact isConfined_directory hDirectory
          · split at hPlace
            · cases hPlace
            · rcases
                mem_paths_of_placeAccesses hPlace hPath with
                rfl | rfl
              · exact
                  isConfined_file hDirectory
                    (hFile.hiddenName _)
              · exact isConfined_file hDirectory hFile
      · cases hAccess
  | find fileId domain =>
      simp only [accesses] at hAccess
      split at hAccess
      · next d f hKey =>
          have hNames := isComponent_of_key? hKey
          split at hAccess
          · have hRead := List.mem_singleton.mp hAccess
            subst hRead
            have hSame := List.mem_singleton.mp hPath
            rw [hSame]
            exact isConfined_file hNames.1 hNames.2
          · cases hAccess
      · cases hAccess
  | delete fileId domain =>
      simp only [accesses] at hAccess
      split at hAccess
      · next d f hKey =>
          have hNames := isComponent_of_key? hKey
          have hDiscard := List.mem_singleton.mp hAccess
          subst hDiscard
          have hSame := List.mem_singleton.mp hPath
          rw [hSame]
          exact isConfined_file hNames.1 hNames.2
      · cases hAccess

end Store

end Courier

------------------------------------------------------------
-- Untouched Paths
------------------------------------------------------------

namespace Courier

namespace Tree

variable {t t' : Tree}
variable {path other : Path}

/- The root is where nothing but a directory is found. -/
theorem ne_nil_of_reach
    {found : Option Node}
    (hReach : t.reach path = .ok found)
    (hNot : found ≠ some .directory) :
    path ≠ [] := by
  rintro rfl
  cases hReach
  exact hNot rfl

/- Making a directory leaves all other paths alone. -/
theorem node?_of_makeDirectory
    (hMake : t.makeDirectory path = .ok t')
    (hOther : other ≠ path) :
    t'.node? other = t.node? other := by
  rcases makeDirectory_eq_ok_iff.mp hMake with
    ⟨hReach, rfl⟩ | ⟨-, rfl⟩
  · have hSome := ne_nil_of_node? (node?_of_reach hReach)
    rw [node?_put t _ other hSome, if_neg hOther]
  · rfl

/- Writing a file leaves all other paths alone. -/
theorem node?_of_writeFile
    {content : Bytes}
    (hWrite : t.writeFile path content = .ok t')
    (hOther : other ≠ path) :
    t'.node? other = t.node? other := by
  rcases writeFile_eq_ok_iff.mp hWrite with
    ⟨found, hReach, hNot, rfl⟩
  have hSome := ne_nil_of_reach hReach hNot
  rw [node?_put t _ other hSome, if_neg hOther]

/- Removing a file leaves all other paths alone. -/
theorem node?_discard
    (hOther : other ≠ path) :
    (t.discard path).node? other = t.node? other := by
  unfold discard
  split
  · next t' hUnlink =>
      rcases unlink_eq_ok_iff.mp hUnlink with
        ⟨content, hReach, rfl⟩
      have hSome := ne_nil_of_reach hReach (by simp)
      rw [node?_erase t other hSome, if_neg hOther]
  · rfl

/- Giving a file a new path leaves all further paths alone. -/
theorem node?_of_rename
    {new : Path}
    (hRename : t.rename path new = .ok t')
    (hOld : other ≠ path)
    (hNew : other ≠ new) :
    t'.node? other = t.node? other := by
  rcases rename_eq_ok_iff.mp hRename with
    ⟨content, found, hRead, hReach, hNot, rfl⟩
  have hOldSome :=
    ne_nil_of_reach (readFile_eq_ok_iff.mp hRead) (by simp)
  have hNewSome := ne_nil_of_reach hReach hNot
  rw [node?_put _ _ other hNewSome, if_neg hNew,
    node?_erase t other hOldSome, if_neg hOld]

end Tree

namespace Access

variable {path : Path}

/- An access leaves all paths alone that it does not touch. -/
theorem node?_after
    (t : Tree)
    {a : Access}
    (hOther : path ∉ a.paths) :
    (a.after t).node? path = t.node? path := by
  cases a with
  | makeDirectory touched =>
      have hNe := List.ne_of_not_mem_cons hOther
      simp only [after, kept]
      split
      · next hMake => exact Tree.node?_of_makeDirectory hMake hNe
      · rfl
  | read touched => rfl
  | write touched content =>
      have hNe := List.ne_of_not_mem_cons hOther
      simp only [after, kept]
      split
      · next hWrite => exact Tree.node?_of_writeFile hWrite hNe
      · rfl
  | rename old new =>
      have hOld := List.ne_of_not_mem_cons hOther
      have hNew :=
        List.ne_of_not_mem_cons
          (List.not_mem_of_not_mem_cons hOther)
      simp only [after, kept]
      split
      · next hRename =>
          exact Tree.node?_of_rename hRename hOld hNew
      · rfl
  | discard touched =>
      have hNe := List.ne_of_not_mem_cons hOther
      exact Tree.node?_discard hNe

/- So do any number of accesses. -/
theorem node?_foldl_after
    (t : Tree)
    {accesses : List Access}
    (hOther : ∀ a ∈ accesses, path ∉ a.paths) :
    (accesses.foldl after t).node? path = t.node? path := by
  induction accesses generalizing t with
  | nil => rfl
  | cons a accesses ih =>
      rw [List.forall_mem_cons] at hOther
      rw [List.foldl_cons, ih (a.after t) hOther.2,
        node?_after t hOther.1]

end Access

end Courier

------------------------------------------------------------
-- Paths as Texts
------------------------------------------------------------

namespace Courier

namespace Tree

/-
  Where a piece of a path leads from a place: an empty one
  or a dot nowhere, two dots to the place above.
-/
def follow
    (place : Path)
    (piece : List Char) : Path :=
  if piece = [] ∨ piece = ['.'] then place
  else if piece = ['.', '.'] then place.dropLast
  else place ++ [String.ofList piece]

/- Where the text of a path leads from a place. -/
def resolve
    (place : Path)
    (text : String) : Path :=
  (Split.pieces '/' text.toList).foldl follow place

end Tree

namespace Store

/- A component leads to a place of its own. -/
theorem IsComponent.follow
    {name : String}
    (hComponent : IsComponent name)
    (place : Path) :
    Tree.follow place name.toList = place ++ [name] := by
  have hNe (other : String) (hOther : name ≠ other) :
      name.toList ≠ other.toList := by
    intro hSame
    exact hOther (String.toList_inj.mp hSame)
  have hHere := hNe "." hComponent.ne_here
  have hAbove : name.toList ≠ ['.', '.'] :=
    hNe ".." hComponent.ne_above
  have hEmpty := hNe "" hComponent.ne_empty
  have hNot : ¬ (name.toList = [] ∨ name.toList = ['.']) := by
    rintro (hNil | hDot)
    · exact hEmpty hNil
    · exact hHere hDot
  rw [Tree.follow, if_neg hNot, if_neg hAbove,
    String.ofList_toList]

/- A component has no divider of paths. -/
theorem IsComponent.not_mem
    {name : String}
    (hComponent : IsComponent name) :
    '/' ∉ name.toList := by
  intro hMem
  have hSafe := hComponent.safe '/' hMem
  exact absurd hSafe (by decide)

/-
  The text of a confined path leads from the root to the
  place that the path names, and so never out of the root.
-/
theorem resolve_pathText
    {path : Path}
    (hConfined : IsConfined path)
    (root : Path) :
    Tree.resolve root (Tree.pathText path) = root ++ path := by
  rcases hConfined with
    ⟨d, rfl, hDirectory⟩ | ⟨d, f, rfl, hDirectory, hFile⟩
  · have hText : Tree.pathText [d] = d := rfl
    rw [hText, Tree.resolve,
      Split.pieces_of_not_mem hDirectory.not_mem]
    exact hDirectory.follow root
  · have hText :
        (Tree.pathText [d, f]).toList =
          d.toList ++ '/' :: f.toList := by
      show (d ++ "/" ++ f).toList = _
      simp
    rw [Tree.resolve, hText,
      Split.pieces_append hDirectory.not_mem,
      Split.pieces_of_not_mem hFile.not_mem]
    calc
      [d.toList, f.toList].foldl Tree.follow root
      _ = Tree.follow (Tree.follow root d.toList) f.toList :=
        rfl
      _ = root ++ [d] ++ [f] := by
        rw [hDirectory.follow root, hFile.follow]
      _ = root ++ [d, f] := by
        rw [List.append_assoc]
        rfl

end Store

end Courier
