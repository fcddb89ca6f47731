import Courier.Storage.Store

/-
  The ways in which requests to a store end.

  Each request is described as a relation between the store,
  what is reported and the store that is left, with one case
  for each way through it.  What all ways have in common is
  shown by looking at these cases.

  Key definitions include:
    * `Store.Fills`
    * `Store.Places`
    * `Store.Stores`
    * `Store.Finds`
    * `Store.Deletes`

  Key theorems include:
    * `Store.fill_eq_iff`
    * `Store.place_eq_iff`
    * `Store.store_eq_iff`
    * `Store.find_eq_iff`
    * `Store.delete_eq_iff`
-/

------------------------------------------------------------
-- Placing and Storing
------------------------------------------------------------

namespace Courier

namespace Store

/-
  How a source is copied to a path: it cannot be opened, the
  path cannot be written, the copy breaks off, or it is
  whole.
-/
inductive Fills
    (t : Tree)
    (path : Path) :
    Source → Except IoError Unit → Tree → Prop where
| closed
    {e : IoError} :
    Fills t path (.closed e) (.error e) t
| refusedWhole
    {content : Bytes}
    {e : IoError}
    (hWrite : t.writeFile path content = .error e) :
    Fills t path (.whole content) (.error e) t
| refusedBroken
    {written : Bytes}
    {e refused : IoError}
    (hWrite : t.writeFile path written = .error refused) :
    Fills t path (.broken written e) (.error refused) t
| broken
    {written : Bytes}
    {e : IoError}
    {t' : Tree}
    (hWrite : t.writeFile path written = .ok t') :
    Fills t path (.broken written e) (.error e) t'
| whole
    {content : Bytes}
    {t' : Tree}
    (hWrite : t.writeFile path content = .ok t') :
    Fills t path (.whole content) (.ok ()) t'

variable {t t' : Tree}
variable {hidden final path : Path}
variable {source : Source}

/- These are all the ways to copy a source. -/
theorem fill_eq_iff
    {filled : Except IoError Unit} :
    fill t path source = (filled, t') ↔
      Fills t path source filled t' := by
  constructor
  · intro hFill
    unfold fill at hFill
    split at hFill
    · cases hFill
      exact .closed
    · split at hFill
      · next hWrite =>
          cases hFill
          exact .refusedWhole hWrite
      · next hWrite =>
          cases hFill
          exact .whole hWrite
    · split at hFill
      · next hWrite =>
          cases hFill
          exact .refusedBroken hWrite
      · next hWrite =>
          cases hFill
          exact .broken hWrite
  · intro hFills
    cases hFills with
    | closed => rfl
    | refusedWhole hWrite => simp only [fill, hWrite]
    | refusedBroken hWrite => simp only [fill, hWrite]
    | broken hWrite => simp only [fill, hWrite]
    | whole hWrite => simp only [fill, hWrite]

/-
  How a file is placed in a tree: its source cannot be
  copied to its hidden path, its final path cannot be taken,
  or it is there.
-/
inductive Places
    (t : Tree)
    (hidden final : Path)
    (source : Source) :
    Except IoError Unit → Tree → Prop where
| unfilled
    {e : IoError}
    {filled : Tree}
    (hFill : fill t hidden source = (.error e, filled)) :
    Places t hidden final source (.error e)
      (filled.discard hidden)
| unnamed
    {filled : Tree}
    {e : IoError}
    (hFill : fill t hidden source = (.ok (), filled))
    (hRename : filled.rename hidden final = .error e) :
    Places t hidden final source (.error e)
      (filled.discard hidden)
| placed
    {filled t' : Tree}
    (hFill : fill t hidden source = (.ok (), filled))
    (hRename : filled.rename hidden final = .ok t') :
    Places t hidden final source (.ok ()) t'

/- These are all the ways to place a file. -/
theorem place_eq_iff
    {placed : Except IoError Unit} :
    place t hidden final source = (placed, t') ↔
      Places t hidden final source placed t' := by
  constructor
  · intro hPlace
    unfold place at hPlace
    split at hPlace
    · next hFill =>
        cases hPlace
        exact .unfilled hFill
    · next hFill =>
        split at hPlace
        · next hRename =>
            cases hPlace
            exact .unnamed hFill hRename
        · next hRename =>
            cases hPlace
            exact .placed hFill hRename
  · intro hPlaces
    cases hPlaces with
    | unfilled hFill => simp only [place, hFill]
    | unnamed hFill hRename =>
        simp only [place, hFill, hRename]
    | placed hFill hRename =>
        simp only [place, hFill, hRename]

/-
  How a request to store a file ends: its domain or its name
  is none that a file can have, the directory cannot be made,
  the file cannot be placed, or it is stored.
-/
inductive Stores
    (s : Store)
    (source : Source)
    (name : String)
    (domain : Option String) :
    Except StorageError String → Store → Prop where
| badDomain
    (hDomain : domainComponent? domain = none) :
    Stores s source name domain
      (.error (.invalidName (domain.getD ""))) s
| badName
    {d : String}
    (hDomain : domainComponent? domain = some d)
    (hName : component? name = none) :
    Stores s source name domain
      (.error (.invalidName name)) s
| noDirectory
    {d fileId : String}
    {e : IoError}
    (hKey : key? name domain = some (d, fileId))
    (hMake : s.tree.makeDirectory [d] = .error e) :
    Stores s source name domain (.error (.io e)) s
| notPlaced
    {d fileId : String}
    {t t' : Tree}
    {e : IoError}
    (hKey : key? name domain = some (d, fileId))
    (hMake : s.tree.makeDirectory [d] = .ok t)
    (hPlace :
      place t (hiddenPath s.tree d fileId s.serial) [d, fileId]
          source =
        (.error e, t')) :
    Stores s source name domain (.error (.io e))
      { s with tree := t', serial := s.serial + 1 }
| stored
    {d fileId : String}
    {t t' : Tree}
    (hKey : key? name domain = some (d, fileId))
    (hMake : s.tree.makeDirectory [d] = .ok t)
    (hPlace :
      place t (hiddenPath s.tree d fileId s.serial) [d, fileId]
          source =
        (.ok (), t')) :
    Stores s source name domain (.ok fileId)
      { s with tree := t', serial := s.serial + 1 }

/- The name in a key is the safe form of the file id. -/
theorem key?_eq_some
    {fileId : String}
    {domain : Option String}
    {key : String × String}
    (hKey : key? fileId domain = some key) :
    component? fileId = some key.2 ∧
      domainComponent? domain = some key.1 := by
  unfold key? at hKey
  split at hKey
  · next name directory hName hDomain =>
      cases hKey
      exact ⟨hName, hDomain⟩
  · cases hKey

variable {s s' : Store}

/- These are all the ways to store a file. -/
theorem store_eq_iff
    {name : String}
    {domain : Option String}
    {stored : Except StorageError String} :
    s.store source name domain = (stored, s') ↔
      s.Stores source name domain stored s' := by
  constructor
  · intro hStore
    simp only [store] at hStore
    split at hStore
    · next hDomain =>
        cases hStore
        exact .badDomain hDomain
    · next hDomain hName =>
        cases hStore
        exact .badName hDomain hName
    · next d fileId hDomain hName =>
        have hKey : key? name domain = some (d, fileId) := by
          rw [key?, hName, hDomain]
        split at hStore
        · next hMake =>
            cases hStore
            exact .noDirectory hKey hMake
        · next hMake =>
            split at hStore
            · next hPlace =>
                cases hStore
                exact .notPlaced hKey hMake (Prod.ext hPlace rfl)
            · next hPlace =>
                cases hStore
                exact .stored hKey hMake (Prod.ext hPlace rfl)
  · intro hStores
    cases hStores with
    | badDomain hDomain => simp only [store, hDomain]
    | badName hDomain hName => simp only [store, hDomain, hName]
    | noDirectory hKey hMake =>
        rcases key?_eq_some hKey with ⟨hName, hDomain⟩
        simp only [store, hDomain, hName, hMake]
    | notPlaced hKey hMake hPlace =>
        rcases key?_eq_some hKey with ⟨hName, hDomain⟩
        simp only [store, hDomain, hName, hMake, hPlace]
    | stored hKey hMake hPlace =>
        rcases key?_eq_some hKey with ⟨hName, hDomain⟩
        simp only [store, hDomain, hName, hMake, hPlace]

end Store

end Courier

------------------------------------------------------------
-- Finding and Deleting
------------------------------------------------------------

namespace Courier

namespace Store

/-
  How a search ends: the id has no key, no copy can be made,
  the file is missing or cannot be read, or its copy is
  handed out.
-/
inductive Finds
    (s : Store)
    (fileId : String)
    (domain : Option String) :
    Except StorageError (Option Download) → Store → Prop where
| noKey
    (hKey : key? fileId domain = none) :
    Finds s fileId domain (.ok none) s
| noCopy
    {d name : String}
    {e : IoError}
    (hKey : key? fileId domain = some (d, name))
    (hCreate : s.temp.create = .error e) :
    Finds s fileId domain (.error (.io e)) s
| missing
    {d name : String}
    {copy : Nat}
    {temp : TemporaryFiles}
    {e : IoError}
    (hKey : key? fileId domain = some (d, name))
    (hCreate : s.temp.create = .ok (copy, temp))
    (hRead : s.tree.readFile [d, name] = .error e)
    (hMissing : e.kind = .notFound) :
    Finds s fileId domain (.ok none)
      { s with temp := temp.remove copy }
| failed
    {d name : String}
    {copy : Nat}
    {temp : TemporaryFiles}
    {e : IoError}
    (hKey : key? fileId domain = some (d, name))
    (hCreate : s.temp.create = .ok (copy, temp))
    (hRead : s.tree.readFile [d, name] = .error e)
    (hOther : e.kind ≠ .notFound) :
    Finds s fileId domain (.error (.io e))
      { s with temp := temp.remove copy }
| found
    {d name : String}
    {copy : Nat}
    {temp : TemporaryFiles}
    {content : Bytes}
    (hKey : key? fileId domain = some (d, name))
    (hCreate : s.temp.create = .ok (copy, temp))
    (hRead : s.tree.readFile [d, name] = .ok content) :
    Finds s fileId domain
      (.ok
        (some
          { fileId := name
            fileName := name
            domain := domain
            copy := copy }))
      { s with temp := temp.put copy content }

/-
  How a deletion ends: the id has no key, the file is missing
  or cannot be removed, or it is gone.
-/
inductive Deletes
    (s : Store)
    (fileId : String)
    (domain : Option String) :
    Except StorageError Bool → Store → Prop where
| noKey
    (hKey : key? fileId domain = none) :
    Deletes s fileId domain (.ok false) s
| missing
    {d name : String}
    {e : IoError}
    (hKey : key? fileId domain = some (d, name))
    (hUnlink : s.tree.unlink [d, name] = .error e)
    (hMissing : e.kind = .notFound) :
    Deletes s fileId domain (.ok false) s
| failed
    {d name : String}
    {e : IoError}
    (hKey : key? fileId domain = some (d, name))
    (hUnlink : s.tree.unlink [d, name] = .error e)
    (hOther : e.kind ≠ .notFound) :
    Deletes s fileId domain (.error (.io e)) s
| deleted
    {d name : String}
    {t : Tree}
    (hKey : key? fileId domain = some (d, name))
    (hUnlink : s.tree.unlink [d, name] = .ok t) :
    Deletes s fileId domain (.ok true) { s with tree := t }

variable {s s' : Store}
variable {fileId : String}
variable {domain : Option String}

/- These are all the ways to look for a file. -/
theorem find_eq_iff
    {found : Except StorageError (Option Download)} :
    s.find fileId domain = (found, s') ↔
      s.Finds fileId domain found s' := by
  constructor
  · intro hFind
    simp only [find] at hFind
    split at hFind
    · next hKey =>
        cases hFind
        exact .noKey hKey
    · next hKey =>
        split at hFind
        · next hCreate =>
            cases hFind
            exact .noCopy hKey hCreate
        · next hCreate =>
            split at hFind
            · next hRead =>
                split at hFind
                · next hMissing =>
                    cases hFind
                    exact .missing hKey hCreate hRead hMissing
                · next hOther =>
                    cases hFind
                    exact .failed hKey hCreate hRead hOther
            · next hRead =>
                cases hFind
                exact .found hKey hCreate hRead
  · intro hFinds
    cases hFinds with
    | noKey hKey => simp only [find, hKey]
    | noCopy hKey hCreate => simp only [find, hKey, hCreate]
    | missing hKey hCreate hRead hMissing =>
        simp only [find, hKey, hCreate, hRead, if_pos hMissing]
    | failed hKey hCreate hRead hOther =>
        simp only [find, hKey, hCreate, hRead, if_neg hOther]
    | found hKey hCreate hRead =>
        simp only [find, hKey, hCreate, hRead]

/- These are all the ways to delete a file. -/
theorem delete_eq_iff
    {deleted : Except StorageError Bool} :
    s.delete fileId domain = (deleted, s') ↔
      s.Deletes fileId domain deleted s' := by
  constructor
  · intro hDelete
    simp only [delete] at hDelete
    split at hDelete
    · next hKey =>
        cases hDelete
        exact .noKey hKey
    · next hKey =>
        split at hDelete
        · next hUnlink =>
            cases hDelete
            exact .deleted hKey hUnlink
        · next hUnlink =>
            split at hDelete
            · next hMissing =>
                cases hDelete
                exact .missing hKey hUnlink hMissing
            · next hOther =>
                cases hDelete
                exact .failed hKey hUnlink hOther
  · intro hDeletes
    cases hDeletes with
    | noKey hKey => simp only [delete, hKey]
    | missing hKey hUnlink hMissing =>
        simp only [delete, hKey, hUnlink, if_pos hMissing]
    | failed hKey hUnlink hOther =>
        simp only [delete, hKey, hUnlink, if_neg hOther]
    | deleted hKey hUnlink => simp only [delete, hKey, hUnlink]

end Store

end Courier
