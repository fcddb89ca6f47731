import Courier.Bytes
import Courier.IoError

/-
  What the file system shows to somebody who only reads.

  Key definitions include:
    * `FileView`
    * `FileView.has`
-/

------------------------------------------------------------
-- Views
------------------------------------------------------------

namespace Courier

/- The content of the file at a path, or why there is none. -/
abbrev FileView := String → Except IoError Bytes

namespace FileView

/-
  Something is at a path, readable or not.  Nothing is where
  the path leads nowhere.
-/
def has
    (files : FileView)
    (path : String) : Bool :=
  match files path with
  | .ok _ => true
  | .error e =>
      e.kind != .notFound && e.kind != .notADirectory &&
        e.kind != .invalidFilename && e.kind != .invalidInput

end FileView

end Courier
