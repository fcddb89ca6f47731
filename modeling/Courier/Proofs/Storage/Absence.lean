import Courier.Proofs.Storage.Rollback

/-
  Looking for files that are not there.

  Whatever a store was asked for before, each directory of
  its root has files only, and temporary copies can be made.
  So the one way for an absent file not to be found missing
  is a name that is longer than the file system allows.

  Key definitions include:
    * `Store.IsReached`
    * `Store.Lacks`
    * `Store.CanLookUp`

  Key theorems include:
    * `Store.isFlat_of_isReached`
    * `Store.isFresh_of_isReached`
    * `Store.find_of_lacks`
    * `Store.find_of_not_canLookUp`
-/

------------------------------------------------------------
-- Stores That Were Reached
------------------------------------------------------------

namespace Courier

namespace Store

/-
  The store was empty once, and since then there were only
  requests, and temporary copies that were removed.
-/
inductive IsReached : Store → Prop where
| empty :
    (serial : Nat) →
    IsReached { Store.empty with serial := serial }
| request {s : Store} :
    IsReached s → (q : Request) → IsReached (s.afterRequest q)
| drop {s : Store} :
    IsReached s → (copy : Nat) →
    IsReached { s with temp := s.temp.remove copy }

/- Any number of requests leads on. -/
theorem IsReached.afterAll
    {s : Store}
    (hReached : s.IsReached)
    (requests : List Request) :
    (s.afterAll requests).IsReached := by
  induction requests generalizing s with
  | nil => exact hReached
  | cons q requests ih => exact ih (hReached.request q)

variable {s : Store}

/-
  A tree stays flat when a file is stored, and also when it
  is not.
-/
theorem isFlat_store
    (hFlat : s.IsFlat)
    (source : Source)
    (name : String)
    (domain : Option String) :
    (s.store source name domain).2.IsFlat := by
  have hNodes :=
    node?_of_store
      (Prod.eta (s.store source name domain)).symm
  have hRest := s.keepsRest_store source name domain
  constructor
  · intro d content hFile
    rcases hNodes [d] with
      hSame | ⟨-, -, -, -, hDirectory⟩ |
        ⟨key, -, -, -, hPath, -⟩
    · rw [hSame] at hFile
      exact hFlat.directory d content hFile
    · rw [hDirectory] at hFile
      cases hFile
    · cases hPath
  · intro d file hDirectory
    rcases hRest.made [d, file] hDirectory with
      hBefore | ⟨other, -, hPath⟩
    · exact hFlat.file d file hBefore
    · cases hPath
  · intro d file hSome
    rcases hNodes [d, file] with
      hSame | ⟨other, -, hPath, -⟩ |
        ⟨key, -, -, -, hPath, -, -, hDirectory⟩
    · rw [hSame] at hSome
      exact hRest.stays [d] (hFlat.parent d file hSome)
    · cases hPath
    · cases hPath
      exact hDirectory

/- A tree stays flat when a file is deleted, or is not. -/
theorem isFlat_delete
    (hFlat : s.IsFlat)
    (fileId : String)
    (domain : Option String) :
    (s.delete fileId domain).2.IsFlat := by
  rcases
    delete_cases (Prod.eta (s.delete fileId domain)).symm with
    ⟨-, hSame⟩ | ⟨-, key, -, -, hErased⟩
  · rw [hSame]
    exact hFlat
  · rw [hErased]
    exact Tree.IsFlat.erase hFlat

/- Deleting a file leaves the temporary copies alone. -/
theorem temp_delete
    (s : Store)
    (fileId : String)
    (domain : Option String) :
    (s.delete fileId domain).2.temp = s.temp := by
  rcases
    delete_cases (Prod.eta (s.delete fileId domain)).symm with
    ⟨-, hSame⟩ | ⟨-, key, -, -, hErased⟩
  · rw [hSame]
  · rw [hErased]

/- No request puts a directory where files are. -/
theorem isFlat_afterRequest
    (hFlat : s.IsFlat)
    (q : Request) :
    (s.afterRequest q).IsFlat := by
  cases q with
  | store source name domain =>
      exact isFlat_store hFlat source name domain
  | find fileId domain =>
      have hTree := s.tree_find fileId domain
      rw [IsFlat, afterRequest, hTree]
      exact hFlat
  | delete fileId domain =>
      exact isFlat_delete hFlat fileId domain

/- After any request temporary copies can still be made. -/
theorem present_afterRequest
    (hTemp : s.temp.isPresent = true)
    (q : Request) :
    (s.afterRequest q).temp.isPresent = true := by
  cases q with
  | store source name domain =>
      rw [afterRequest, temp_store]
      exact hTemp
  | find fileId domain =>
      exact present_find fileId domain hTemp
  | delete fileId domain =>
      rw [afterRequest, temp_delete]
      exact hTemp

/- No request gives a number to two copies. -/
theorem isFresh_afterRequest
    (hFresh : s.temp.IsFresh)
    (q : Request) :
    (s.afterRequest q).temp.IsFresh := by
  cases q with
  | store source name domain =>
      rw [afterRequest, temp_store]
      exact hFresh
  | find fileId domain =>
      rw [afterRequest]
      rcases hFind : s.find fileId domain with ⟨found, s'⟩
      cases find_eq_iff.mp hFind with
      | noKey _ => exact hFresh
      | noCopy _ _ => exact hFresh
      | missing _ hCreate _ _ =>
          exact (hFresh.create hCreate).remove _
      | failed _ hCreate _ _ =>
          exact (hFresh.create hCreate).remove _
      | found _ hCreate _ =>
          exact (hFresh.create hCreate).put _ _
  | delete fileId domain =>
      rw [afterRequest, temp_delete]
      exact hFresh

/- All trees that are reached are flat. -/
theorem isFlat_of_isReached
    (hReached : s.IsReached) :
    s.IsFlat := by
  induction hReached with
  | empty serial => exact Tree.isFlat_nil
  | request _ q ih => exact isFlat_afterRequest ih q
  | drop _ copy ih => exact ih

/- In all of them temporary copies can be made. -/
theorem present_of_isReached
    (hReached : s.IsReached) :
    s.temp.isPresent = true := by
  induction hReached with
  | empty serial => rfl
  | request _ q ih => exact present_afterRequest ih q
  | drop _ copy ih => exact ih

/- In all of them the next copy has a number of its own. -/
theorem isFresh_of_isReached
    (hReached : s.IsReached) :
    s.temp.IsFresh := by
  induction hReached with
  | empty serial => exact nofun
  | request _ q ih => exact isFresh_afterRequest ih q
  | drop _ copy ih => exact ih.remove copy

end Store

end Courier

------------------------------------------------------------
-- Absent Files
------------------------------------------------------------

namespace Courier

namespace Store

/- No file is stored under the id in the domain. -/
def Lacks
    (s : Store)
    (fileId : String)
    (domain : Option String) : Prop :=
  ∀ key,
    key? fileId domain = some key →
      s.tree.file? (pathOf key) = none

/-
  The file system takes the names on the way to the file: the
  directory's name and, if there is that directory, also the
  name of the file.  An id without a key needs none.
-/
def CanLookUp
    (s : Store)
    (fileId : String)
    (domain : Option String) : Prop :=
  ∀ key,
    key? fileId domain = some key →
      Tree.Fits key.1 ∧
        (s.tree.node? [key.1] = some .directory →
          Tree.Fits key.2)

variable {s : Store}
variable {fileId : String}
variable {domain : Option String}
variable {key : FileKey}

/- Where nothing is, a path ends there, or too early. -/
theorem readFile_of_lacks
    (hFlat : s.IsFlat)
    (hKey : key? fileId domain = some key)
    (hLacks : s.Lacks fileId domain)
    (hNames : s.CanLookUp fileId domain) :
    s.tree.readFile (pathOf key) = .error .notFound ∧
      s.tree.unlink (pathOf key) = .error .notFound := by
  have hNone : s.tree.node? (pathOf key) = none := by
    rcases hFlat.file_cases key.1 key.2 with
      hNone | ⟨content, hFile⟩
    · exact hNone
    · have hContent := Tree.file?_eq_some_iff.mpr hFile
      have hGone := hLacks key hKey
      rw [pathOf, hContent] at hGone
      cases hGone
  rcases hNames key hKey with ⟨hFits, hName⟩
  rw [pathOf] at hNone ⊢
  rw [Tree.readFile_eq_error_iff, Tree.unlink_eq_error_iff]
  rcases hFlat.directory_cases key.1 with
    hMissing | hDirectory
  · have hReach :
        s.tree.reach [key.1, key.2] = .error .notFound :=
      Tree.reach_missing hMissing hFits
    exact ⟨Or.inl hReach, Or.inl hReach⟩
  · have hReach :=
      Tree.reach_file hDirectory hFits (hName hDirectory)
    rw [hNone] at hReach
    exact
      ⟨Or.inr (Or.inl ⟨hReach, rfl⟩),
        Or.inr (Or.inl ⟨hReach, rfl⟩)⟩

/- A name that is too long is refused instead. -/
theorem readFile_of_not_canLookUp
    (hNames : ¬ s.CanLookUp fileId domain) :
    ∃ key,
      key? fileId domain = some key ∧
        s.tree.readFile (pathOf key) = .error .nameTooLong ∧
        s.tree.unlink (pathOf key) = .error .nameTooLong := by
  unfold CanLookUp at hNames
  rw [Classical.not_forall] at hNames
  rcases hNames with ⟨key, hNames⟩
  rw [Classical.not_imp, Classical.not_and_iff_not_or_not]
    at hNames
  rcases hNames with ⟨hKey, hLong⟩
  have hReach :
      s.tree.reach (pathOf key) = .error .nameTooLong := by
    by_cases hFits : Tree.Fits key.1
    · rcases hLong with hDirectory | hName
      · exact absurd hFits hDirectory
      · rw [Classical.not_imp] at hName
        exact Tree.reach_file_tooLong hName.1 hFits hName.2
    · exact Tree.reach_tooLong s.tree [key.2] hFits
  exact
    ⟨key, hKey,
      Tree.readFile_eq_error_iff.mpr (Or.inl hReach),
      Tree.unlink_eq_error_iff.mpr (Or.inl hReach)⟩

/- An absent file is found missing if it can be looked up. -/
theorem find_of_lacks
    (hReached : s.IsReached)
    (hLacks : s.Lacks fileId domain)
    (hNames : s.CanLookUp fileId domain) :
    (s.find fileId domain).1 = .ok none ∧
      (s.delete fileId domain).1 = .ok false := by
  rcases
    TemporaryFiles.exists_create (present_of_isReached hReached)
    with ⟨copy, temp, hCreate, -⟩
  cases hKey : key? fileId domain with
  | none =>
      rw [find_eq_iff.mpr (.noKey hKey),
        delete_eq_iff.mpr (.noKey hKey)]
      exact ⟨rfl, rfl⟩
  | some key =>
      rcases
        readFile_of_lacks (isFlat_of_isReached hReached) hKey
          hLacks hNames with
        ⟨hRead, hUnlink⟩
      rw [find_eq_iff.mpr (.missing hKey hCreate hRead rfl),
        delete_eq_iff.mpr (.missing hKey hUnlink rfl)]
      exact ⟨rfl, rfl⟩

/- If it cannot be looked up, that is a failure. -/
theorem find_of_not_canLookUp
    (hReached : s.IsReached)
    (hNames : ¬ s.CanLookUp fileId domain) :
    (s.find fileId domain).1 = .error (.io .nameTooLong) ∧
      (s.delete fileId domain).1 =
        .error (.io .nameTooLong) := by
  rcases
    TemporaryFiles.exists_create (present_of_isReached hReached)
    with ⟨copy, temp, hCreate, -⟩
  rcases readFile_of_not_canLookUp hNames with
    ⟨key, hKey, hRead, hUnlink⟩
  have hOther : IoError.nameTooLong.kind ≠ .notFound := by
    decide
  rw [find_eq_iff.mpr (.failed hKey hCreate hRead hOther),
    delete_eq_iff.mpr (.failed hKey hUnlink hOther)]
  exact ⟨rfl, rfl⟩

end Store

end Courier
