import Courier.IoError
import Courier.Text.Quoted

/-
  Why a file could not be stored, found or deleted.

  Key definitions include:
    * `StorageError`
    * `StorageError.message`
-/

------------------------------------------------------------
-- Storage Errors
------------------------------------------------------------

namespace Courier

/- Why a file could not be stored, found or deleted. -/
inductive StorageError where
| io : IoError → StorageError
| invalidName : (name : String) → StorageError
deriving DecidableEq, Repr

namespace StorageError

/- The text of an error. -/
def message : StorageError → String
  | .io e => s!"Storage I/O error: {e.message}"
  | .invalidName name =>
      s!"Invalid file name: {Quoted.quote name}"

/- The failure of a file behind the error. -/
def io? : StorageError → Option IoError
  | .io e => some e
  | .invalidName _ => none

end StorageError

end Courier
