import Courier.Proofs.Envelope.Whole
import Courier.Proofs.Storage.Outcome
import Courier.Proofs.Storage.Tree

/-
  What failures of stored files say.

  The texts of these failures are made here, so that an
  answer may repeat them.  A name that is no file name is
  quoted.

  Key definitions include:
    * `IoError.own`
    * `IoError.IsBare`

  Key theorems include:
    * `Tree.mem_own_of_reach`
    * `Store.error_of_store`
    * `Store.error_of_find`
    * `Store.error_of_delete`
    * `Store.isWhole_of_store`
-/

------------------------------------------------------------
-- Texts of Failures
------------------------------------------------------------

namespace Courier

namespace IoError

/- The failures of paths and temporary files. -/
def own : List IoError :=
  [notFound, notADirectory, isADirectory, alreadyExists,
    nameTooLong, Tree.notRegular]

/- The text of the failure holds no sign of a line. -/
def IsBare
    (e : IoError) : Prop :=
  Line.IsBare e.message.toList

/- All of them are bare. -/
theorem isBare_of_mem_own
    {e : IoError}
    (hOwn : e ∈ own) :
    e.IsBare := by
  have hAll : ∀ e ∈ own, Line.IsBare e.message.toList := by
    decide
  exact hAll e hOwn

end IoError

end Courier

------------------------------------------------------------
-- Trees
------------------------------------------------------------

namespace Courier

namespace Tree

variable {t : Tree}
variable {e : IoError}

/- A path that cannot be followed fails in a known way. -/
theorem mem_own_of_reach
    {path : Path}
    (hReach : t.reach path = .error e) :
    e ∈ IoError.own := by
  have hFrom :
      ∀ (seen rest : Path),
        t.reachFrom seen rest = .error e → e ∈ IoError.own := by
    intro seen rest
    induction rest generalizing seen with
    | nil =>
        intro hEq
        cases hEq
    | cons name rest ih =>
        intro hEq
        unfold reachFrom at hEq
        split at hEq
        · cases hEq
          simp [IoError.own]
        · cases hEq
          simp [IoError.own]
        · split at hEq
          · cases hEq
            simp [IoError.own]
          · exact ih _ hEq
  exact hFrom [] path hReach

/- A directory that cannot be made. -/
theorem mem_own_of_makeDirectory
    {path : Path}
    (hMake : t.makeDirectory path = .error e) :
    e ∈ IoError.own := by
  rcases makeDirectory_eq_error_iff.mp hMake with
    hReach | ⟨-, rfl⟩
  · exact mem_own_of_reach hReach
  · simp [IoError.own]

/- A file that cannot be read. -/
theorem mem_own_of_readFile
    {path : Path}
    (hRead : t.readFile path = .error e) :
    e ∈ IoError.own := by
  rcases readFile_eq_error_iff.mp hRead with
    hReach | ⟨-, rfl⟩ | ⟨-, rfl⟩
  · exact mem_own_of_reach hReach
  · simp [IoError.own]
  · simp [IoError.own]

/- A file that cannot be written. -/
theorem mem_own_of_writeFile
    {path : Path}
    {content : Bytes}
    (hWrite : t.writeFile path content = .error e) :
    e ∈ IoError.own := by
  rcases writeFile_eq_error_iff.mp hWrite with
    hReach | ⟨-, rfl⟩
  · exact mem_own_of_reach hReach
  · simp [IoError.own]

/- A file that cannot be given a new path. -/
theorem mem_own_of_rename
    {old new : Path}
    (hRename : t.rename old new = .error e) :
    e ∈ IoError.own := by
  rcases rename_eq_error_iff.mp hRename with
    hRead | ⟨content, -, hReach | ⟨-, rfl⟩⟩
  · exact mem_own_of_readFile hRead
  · exact mem_own_of_reach hReach
  · simp [IoError.own]

/- A file that cannot be removed. -/
theorem mem_own_of_unlink
    {path : Path}
    (hUnlink : t.unlink path = .error e) :
    e ∈ IoError.own := by
  rcases unlink_eq_error_iff.mp hUnlink with
    hReach | ⟨-, rfl⟩ | ⟨-, rfl⟩
  · exact mem_own_of_reach hReach
  · simp [IoError.own]
  · simp [IoError.own]

end Tree

namespace TemporaryFiles

variable {t : TemporaryFiles}
variable {e : IoError}

/- A temporary file that cannot be made. -/
theorem mem_own_of_create
    (hCreate : t.create = .error e) :
    e ∈ IoError.own := by
  unfold create at hCreate
  split at hCreate
  · cases hCreate
  · cases hCreate
    simp [IoError.own]

/- A temporary file that cannot be read. -/
theorem mem_own_of_read
    {n : Nat}
    (hRead : t.read n = .error e) :
    e ∈ IoError.own := by
  unfold read at hRead
  split at hRead
  · cases hRead
  · cases hRead
    simp [IoError.own]

end TemporaryFiles

end Courier

------------------------------------------------------------
-- Stores
------------------------------------------------------------

namespace Courier

namespace Store

variable {s s' : Store}
variable {e : StorageError}

/- A known failure stays whole in the text of a store. -/
theorem isWhole_io
    {e : IoError}
    (hOwn : e ∈ IoError.own) :
    Line.IsWhole (StorageError.io e).message.toList := by
  have hText :
      (StorageError.io e).message.toList =
        "Storage I/O error: ".toList ++ e.message.toList :=
    String.toList_append
  rw [hText, Line.isWhole_bare_append (by decide)]
  exact Line.isWhole_of_isBare (IoError.isBare_of_mem_own hOwn)

/- A name that is no file name stays whole in quotes. -/
theorem isWhole_invalidName
    {name : String}
    (hSep : Line.hasSeparator name.toList = false) :
    Line.IsWhole
      (StorageError.invalidName name).message.toList := by
  have hText :
      (StorageError.invalidName name).message.toList =
        "Invalid file name: ".toList ++
          (Quoted.quote name).toList :=
    String.toList_append
  rw [hText, Line.isWhole_bare_append (by decide)]
  exact Line.isWhole_quote hSep

/- A file that cannot be placed. -/
theorem mem_own_of_place
    {t t' : Tree}
    {hidden final : Path}
    {content : Bytes}
    {e : IoError}
    (hPlace :
      place t hidden final (.whole content) =
        (.error e, t')) :
    e ∈ IoError.own := by
  cases place_eq_iff.mp hPlace with
  | unfilled hFill =>
      cases fill_eq_iff.mp hFill with
      | refusedWhole hWrite =>
          exact Tree.mem_own_of_writeFile hWrite
  | unnamed _ hRename => exact Tree.mem_own_of_rename hRename

/-
  Why a file could not be stored: its domain or its name is
  none that a file can have, or the tree refused it.
-/
theorem error_of_store
    {content : Bytes}
    {name : String}
    {domain : Option String}
    (hStore :
      s.store (.whole content) name domain = (.error e, s')) :
    e = .invalidName (domain.getD "") ∨
      e = .invalidName name ∨
      ∃ fault ∈ IoError.own, e = .io fault := by
  cases store_eq_iff.mp hStore with
  | badDomain _ => exact Or.inl rfl
  | badName _ _ => exact Or.inr (Or.inl rfl)
  | noDirectory _ hMake =>
      exact
        Or.inr
          (Or.inr ⟨_, Tree.mem_own_of_makeDirectory hMake, rfl⟩)
  | notPlaced _ _ hPlace =>
      exact Or.inr (Or.inr ⟨_, mem_own_of_place hPlace, rfl⟩)

/- Why a file could not be looked for. -/
theorem error_of_find
    {fileId : String}
    {domain : Option String}
    (hFind : s.find fileId domain = (.error e, s')) :
    ∃ fault ∈ IoError.own, e = .io fault := by
  cases find_eq_iff.mp hFind with
  | noCopy _ hCreate =>
      exact ⟨_, TemporaryFiles.mem_own_of_create hCreate, rfl⟩
  | failed _ _ hRead _ =>
      exact ⟨_, Tree.mem_own_of_readFile hRead, rfl⟩

/- Why a file could not be deleted. -/
theorem error_of_delete
    {fileId : String}
    {domain : Option String}
    (hDelete : s.delete fileId domain = (.error e, s')) :
    ∃ fault ∈ IoError.own, e = .io fault := by
  cases delete_eq_iff.mp hDelete with
  | failed _ hUnlink _ =>
      exact ⟨_, Tree.mem_own_of_unlink hUnlink, rfl⟩

/- Why a file could not be stored stays whole. -/
theorem isWhole_of_store
    {content : Bytes}
    {name : String}
    {domain : Option String}
    (hStore :
      s.store (.whole content) name domain = (.error e, s'))
    (hName : Line.hasSeparator name.toList = false)
    (hDomain :
      Line.hasSeparator (domain.getD "").toList = false) :
    Line.IsWhole e.message.toList := by
  rcases error_of_store hStore with
    rfl | rfl | ⟨fault, hOwn, rfl⟩
  · exact isWhole_invalidName hDomain
  · exact isWhole_invalidName hName
  · exact isWhole_io hOwn

end Store

end Courier
