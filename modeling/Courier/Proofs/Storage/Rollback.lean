import Courier.Proofs.Storage.Confinement

/-
  Files are stored as a whole or not at all, whatever is in
  the tree.

  A store that fails leaves every file as it was, and what
  it made on its way is gone again, but for the directory of
  the domain.  So it is also if the copy of the source
  breaks off in the middle.

  Key definitions include:
    * `Store.Accepts`
    * `Store.KeepsRest`

  Key theorems include:
    * `Store.node?_of_store`
    * `Store.exists_store_iff`
    * `Store.keepsRest_store`
    * `Store.store_is_all_or_nothing`
-/

------------------------------------------------------------
-- Directories
------------------------------------------------------------

namespace Courier

namespace Tree

variable {t t' : Tree}
variable {path : Path}
variable {d : String}

/- A directory is made where there is nothing, or it stays. -/
theorem node?_of_makeDirectory_same
    (hMake : t.makeDirectory path = .ok t') :
    t'.node? path = some .directory ∧
      (t.node? path = none ∨
        t.node? path = some .directory) := by
  rcases makeDirectory_eq_ok_iff.mp hMake with
    ⟨hReach, rfl⟩ | ⟨hReach, rfl⟩
  · have hNone := node?_of_reach hReach
    rw [node?_put t _ path (ne_nil_of_node? hNone), if_pos rfl]
    exact ⟨rfl, Or.inl hNone⟩
  · have hNode := node?_of_reach hReach
    exact ⟨hNode, Or.inr hNode⟩

/- Making a directory changes its own path at most. -/
theorem node?_of_makeDirectory_cases
    (hMake : t.makeDirectory path = .ok t')
    (other : Path) :
    t'.node? other = t.node? other ∨
      other = path ∧
        t.node? other = none ∧
        t'.node? other = some .directory := by
  by_cases hHere : other = path
  · subst hHere
    rcases node?_of_makeDirectory_same hMake with
      ⟨hNow, hNone | hBefore⟩
    · exact Or.inr ⟨rfl, hNone, hNow⟩
    · exact Or.inl (hNow.trans hBefore.symm)
  · exact Or.inl (node?_of_makeDirectory hMake hHere)

/-
  A directory of the root can be made unless its name is too
  long or a file is in its place.
-/
theorem exists_makeDirectory_iff :
    (∃ t', t.makeDirectory [d] = .ok t') ↔
      Fits d ∧
        ∀ content, t.node? [d] ≠ some (.file content) := by
  unfold makeDirectory
  by_cases hFits : Fits d
  · rw [reach_directory t hFits]
    cases hNode : t.node? [d] with
    | none => simp [hFits]
    | some node =>
        cases node with
        | directory => simp [hFits]
        | file content => simp [hFits]
  · rw [reach_tooLong t [] hFits]
    simp [hFits]

end Tree

end Courier

------------------------------------------------------------
-- Stores That Fail
------------------------------------------------------------

namespace Courier

namespace Store

variable {s s' : Store}
variable {source : Source}
variable {name : String}
variable {domain : Option String}

/-
  A store changes at most two paths: it may make the
  directory of the domain, and it puts the file in its place
  if it succeeds.
-/
theorem node?_of_store
    {stored : Except StorageError String}
    (hStore : s.store source name domain = (stored, s'))
    (path : Path) :
    s'.tree.node? path = s.tree.node? path ∨
      (∃ d,
        domainComponent? domain = some d ∧
          path = [d] ∧
          s.tree.node? path = none ∧
          s'.tree.node? path = some .directory) ∨
      ∃ key content,
        stored = .ok key.2 ∧
          key? name domain = some key ∧
          path = pathOf key ∧
          source = .whole content ∧
          s'.tree.node? path = some (.file content) ∧
          s'.tree.node? [key.1] = some .directory := by
  cases store_eq_iff.mp hStore with
  | badDomain _ => exact Or.inl rfl
  | badName _ _ => exact Or.inl rfl
  | noDirectory _ _ => exact Or.inl rfl
  | notPlaced hKey hMake hPlace =>
      rw [node?_of_place_error (node?_hiddenPath _ hMake) hPlace]
      -- Making the directory is a change of its own.
      rcases Tree.node?_of_makeDirectory_cases hMake path with
        hSame | hNew
      · exact Or.inl hSame
      · exact
          Or.inr (Or.inl ⟨_, (key?_eq_some hKey).2, hNew⟩)
  | @stored d fileId t t' hKey hMake hPlace =>
      rcases
        node?_of_place (node?_hiddenPath fileId hMake)
          (List.cons_ne_nil d [fileId]) hPlace with
        ⟨content, hSource, hNodes⟩
      have hParent : t'.node? [d] = some .directory := by
        rw [hNodes, if_neg (by simp)]
        exact (Tree.node?_of_makeDirectory_same hMake).1
      rw [hNodes]
      split
      · next hHere =>
          exact
            Or.inr
              (Or.inr
                ⟨_, content, rfl, hKey, hHere, hSource, rfl,
                  hParent⟩)
      · rcases Tree.node?_of_makeDirectory_cases hMake path with
          hSame | hNew
        · exact Or.inl hSame
        · exact
            Or.inr (Or.inl ⟨_, (key?_eq_some hKey).2, hNew⟩)

/- A hidden name is never the final one. -/
theorem hiddenPath_ne_pathOf
    (s : Store)
    (key : FileKey) :
    hiddenPath s.tree key.1 key.2 s.serial ≠ pathOf key := by
  unfold hiddenPath pathOf
  intro hSame
  rw [List.cons.injEq, List.cons.injEq] at hSame
  have hLength :=
    length_hiddenName key.2
      (freshSerial s.tree key.1 key.2 s.serial)
  rw [hSame.2.1] at hLength
  exact Nat.lt_irrefl _ hLength

/-
  However a store ends, nothing is left under the hidden
  name.
-/
theorem file?_hiddenPath_of_store
    {stored : Except StorageError String}
    {key : FileKey}
    (hStore : s.store source name domain = (stored, s'))
    (hKey : key? name domain = some key) :
    s'.tree.file?
        (hiddenPath s.tree key.1 key.2 s.serial) = none := by
  have hFree :
      s.tree.file?
          (hiddenPath s.tree key.1 key.2 s.serial) = none :=
    Tree.file?_of_node?
      (freshSerial_isNone s.tree key.1 key.2 s.serial)
  cases stored with
  | error e =>
      rw [file?_of_store_error hStore]
      exact hFree
  | ok fileId =>
      rcases file?_of_store hStore with
        ⟨other, content, hOther, -, hFiles⟩
      rw [hKey] at hOther
      cases hOther
      rw [hFiles, if_neg (s.hiddenPath_ne_pathOf key)]
      exact hFree

end Store

end Courier

------------------------------------------------------------
-- Stores That Succeed
------------------------------------------------------------

namespace Courier

namespace Store

/-
  A file can be stored under a key: there is room for its
  hidden name, no file is where its directory would be, and
  no directory is where the file would be.
-/
structure Accepts
    (s : Store)
    (key : FileKey) : Prop where
  room : s.HasRoom key
  directory :
    ∀ content, s.tree.node? [key.1] ≠ some (.file content)
  file : s.tree.node? (pathOf key) ≠ some .directory

variable {t : Tree}
variable {d hidden final : String}

/-
  A file can be placed in a directory exactly if its hidden
  name is short enough and no directory is in its place.
-/
theorem place_eq_ok_iff
    (hDirectory : t.node? [d] = some .directory)
    (hFits : Tree.Fits d)
    (hFinal : Tree.Fits hidden → Tree.Fits final)
    (hFresh : t.node? [d, hidden] = none)
    (hNe : final ≠ hidden)
    (content : Bytes) :
    (place t [d, hidden] [d, final] (.whole content)).1 = .ok () ↔
      Tree.Fits hidden ∧
        t.node? [d, final] ≠ some .directory := by
  by_cases hHidden : Tree.Fits hidden
  · let written := t.put [d, hidden] (.file content)
    have hNode (path : Path) :
        written.node? path =
          if path = [d, hidden] then some (.file content)
          else t.node? path :=
      Tree.node?_put t _ path (List.cons_ne_nil d _)
    have hStill : written.node? [d] = some .directory := by
      rw [hNode, if_neg (by simp)]
      exact hDirectory
    have hWrite :
        t.writeFile [d, hidden] content = .ok written := by
      rw [Tree.writeFile_eq_ok_iff]
      refine ⟨none, ?_, by simp, rfl⟩
      rw [Tree.reach_file hDirectory hFits hHidden, hFresh]
    have hRead : written.readFile [d, hidden] = .ok content := by
      rw [Tree.readFile_eq_ok_iff,
        Tree.reach_file hStill hFits hHidden, hNode, if_pos rfl]
    have hReach :
        written.reach [d, final] = .ok (t.node? [d, final]) := by
      rw [Tree.reach_file hStill hFits (hFinal hHidden), hNode,
        if_neg (by simpa using hNe)]
    simp only [place, fill, hWrite, Tree.rename, hRead,
      hReach]
    cases hPlace : t.node? [d, final] with
    | none => simp [hHidden]
    | some node =>
        cases node with
        | directory => simp
        | file old => simp [hHidden]
  · have hWrite :
        t.writeFile [d, hidden] content =
          .error .nameTooLong := by
      rw [Tree.writeFile_eq_error_iff]
      exact
        Or.inl (Tree.reach_file_tooLong hDirectory hFits hHidden)
    simp [place, fill, hWrite, hHidden]

/- What a store accepts, once the directory is there. -/
theorem accepts_iff
    {s : Store}
    {fileId : String}
    (hMake : s.tree.makeDirectory [d] = .ok t) :
    s.Accepts (d, fileId) ↔
      Tree.Fits
          (hiddenName fileId
            (freshSerial s.tree d fileId s.serial)) ∧
        t.node? [d, fileId] ≠ some .directory := by
  rcases Tree.exists_makeDirectory_iff.mp ⟨t, hMake⟩ with
    ⟨hFits, hDirectory⟩
  rw [Tree.node?_of_makeDirectory hMake (by simp)]
  constructor
  · intro hAccepts
    exact ⟨hAccepts.room.fits.2, hAccepts.file⟩
  · rintro ⟨hHidden, hFile⟩
    refine ⟨?_, hDirectory, hFile⟩
    unfold HasRoom hiddenPath
    rw [List.forall_mem_cons, List.forall_mem_singleton]
    exact ⟨hFits, hHidden⟩

/- The file is placed where the store accepts its key. -/
theorem place_hiddenPath_eq_ok_iff
    {s : Store}
    {fileId : String}
    (hMake : s.tree.makeDirectory [d] = .ok t)
    (content : Bytes) :
    (place t (hiddenPath s.tree d fileId s.serial) [d, fileId]
          (.whole content)).1 =
        .ok () ↔
      s.Accepts (d, fileId) := by
  have hFits := (Tree.exists_makeDirectory_iff.mp ⟨t, hMake⟩).1
  have hNe :
      fileId ≠
        hiddenName fileId
          (freshSerial s.tree d fileId s.serial) := by
    intro hSame
    apply s.hiddenPath_ne_pathOf (d, fileId)
    rw [hiddenPath, pathOf, ← hSame]
  rw [accepts_iff hMake]
  exact
    place_eq_ok_iff (Tree.node?_of_makeDirectory_same hMake).1
      hFits fits_of_hiddenName (node?_hiddenPath fileId hMake)
      hNe content

/-
  A file is stored exactly if its source can be copied whole
  and the store accepts its key.
-/
theorem exists_store_iff
    (s : Store)
    (source : Source)
    (name : String)
    (domain : Option String) :
    (∃ fileId, (s.store source name domain).1 = .ok fileId) ↔
      ∃ key content,
        key? name domain = some key ∧
          source = .whole content ∧
          s.Accepts key := by
  constructor
  · rintro ⟨fileId, hOk⟩
    rcases hStore : s.store source name domain with
      ⟨stored, s'⟩
    rw [hStore] at hOk
    cases hOk
    cases store_eq_iff.mp hStore with
    | stored hKey hMake hPlace =>
        have hPlaced := congrArg Prod.fst hPlace
        cases place_eq_iff.mp hPlace with
        | placed hFill _ =>
            rcases exists_write_of_fill hFill with
              ⟨content, rfl, -⟩
            exact
              ⟨_, content, hKey, rfl,
                (place_hiddenPath_eq_ok_iff hMake _).mp hPlaced⟩
  · rintro ⟨key, content, hKey, rfl, hAccepts⟩
    rcases
      Tree.exists_makeDirectory_iff.mpr
        ⟨hAccepts.room.fits.1, hAccepts.directory⟩ with
      ⟨t, hMake⟩
    have hPlaced :=
      (place_hiddenPath_eq_ok_iff hMake content).mpr hAccepts
    have hStored :
        s.Stores (.whole content) name domain (.ok key.2) _ :=
      .stored hKey hMake (Prod.ext hPlaced rfl)
    exact ⟨key.2, congrArg Prod.fst (store_eq_iff.mpr hStored)⟩

/-
  Apart from files with their contents, a store changes
  nothing: no directory comes or goes but that of the
  domain, nothing is left under the hidden name of the file,
  and the temporary copies stay.
-/
structure KeepsRest
    (s : Store)
    (name : String)
    (domain : Option String)
    (s' : Store) : Prop where
  stays : ∀ path,
    s.tree.node? path = some .directory →
      s'.tree.node? path = some .directory
  made : ∀ path,
    s'.tree.node? path = some .directory →
      s.tree.node? path = some .directory ∨
        ∃ d, domainComponent? domain = some d ∧ path = [d]
  hidden : ∀ key,
    key? name domain = some key →
      s'.tree.file?
        (hiddenPath s.tree key.1 key.2 s.serial) = none
  temp : s'.temp = s.temp

/- However a store ends, it keeps the rest. -/
theorem keepsRest_store
    (s : Store)
    (source : Source)
    (name : String)
    (domain : Option String) :
    s.KeepsRest name domain
      (s.store source name domain).2 := by
  have hNodes :=
    node?_of_store
      (Prod.eta (s.store source name domain)).symm
  refine ⟨?_, ?_, ?_, s.temp_store source name domain⟩
  · intro path hDirectory
    rcases hNodes path with
      hSame | ⟨d, -, -, hNone, -⟩ |
        ⟨key, content, hStored, hKey, hPath, hSource, -⟩
    · rw [hSame, hDirectory]
    · rw [hNone] at hDirectory
      cases hDirectory
    · -- A directory in the place of the file is refused.
      rcases
        (s.exists_store_iff source name domain).mp
          ⟨key.2, hStored⟩ with
        ⟨accepted, -, hAccepted, -, hAccepts⟩
      rw [hKey] at hAccepted
      cases hAccepted
      rw [hPath] at hDirectory
      exact absurd hDirectory hAccepts.file
  · intro path hDirectory
    rcases hNodes path with
      hSame | ⟨d, hDomain, hPath, -⟩ |
        ⟨key, content, -, -, -, -, hFile, -⟩
    · exact Or.inl (hSame.symm.trans hDirectory)
    · exact Or.inr ⟨d, hDomain, hPath⟩
    · rw [hFile] at hDirectory
      cases hDirectory
  · intro key hKey
    exact
      file?_hiddenPath_of_store
        (Prod.eta (s.store source name domain)).symm hKey

/-
  Whatever is in the tree, a store changes one file or none.

  It succeeds exactly if the source can be copied whole and
  the key is accepted.  Then the file of the key holds the
  bytes of the source, and all other files are as they were.
  If it fails, also in the middle of the copy, all files are
  as they were.
-/
theorem store_is_all_or_nothing
    (s : Store)
    (source : Source)
    (name : String)
    (domain : Option String) :
    s.KeepsRest name domain
      (s.store source name domain).2 ∧
    match s.store source name domain with
    | (.error _, s') =>
        (∀ path, s'.tree.file? path = s.tree.file? path) ∧
          ∀ key content,
            key? name domain = some key →
              source = .whole content →
                ¬ s.Accepts key
    | (.ok fileId, s') =>
        ∃ key content,
          key? name domain = some key ∧
            fileId = key.2 ∧
            source = .whole content ∧
            s.Accepts key ∧
            ∀ path,
              s'.tree.file? path =
                if path = pathOf key then some content
                else s.tree.file? path := by
  refine ⟨s.keepsRest_store source name domain, ?_⟩
  have hWhen := s.exists_store_iff source name domain
  cases hStore : s.store source name domain with
  | mk stored s' =>
  rw [hStore] at hWhen
  cases stored with
  | error e =>
      refine ⟨congrFun (file?_of_store_error hStore), ?_⟩
      intro key content hKey hSource hAccepts
      rcases
        hWhen.mpr ⟨key, content, hKey, hSource, hAccepts⟩ with
        ⟨fileId, hStored⟩
      cases hStored
  | ok fileId =>
      rcases hWhen.mp ⟨fileId, rfl⟩ with
        ⟨key, read, hKey, hRead, hAccepts⟩
      rcases file?_of_store hStore with
        ⟨other, content, hOther, hSource, hFiles⟩
      have hName := component?_of_store hStore
      rw [hKey] at hOther
      cases hOther
      rw [(key?_eq_some hKey).1] at hName
      cases hName
      exact
        ⟨key, content, hKey, rfl, hSource, hAccepts, hFiles⟩

/- A copy that breaks off leaves the directory only. -/
example :
    (empty.store (.broken [1, 2] .writeZero) "report"
      none).2.tree = [(["default"], .directory)] := by
  decide +kernel

end Store

end Courier
