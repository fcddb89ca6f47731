import Courier.Text.Split

/-
  File names that are safe as a single path component, and
  the text that carries a name with a checksum.

  Key definitions include:
    * `FileName.sanitize`
    * `FileName.ofPath?`
    * `FileEntity.encode`
    * `FileEntity.decode?`

  Key theorems include:
    * `FileName.isSafe_safeChar`
    * `FileName.safeChar_of_isSafe`
-/

------------------------------------------------------------
-- Safe Names
------------------------------------------------------------

namespace Courier

namespace FileName

/- The characters that a stored name may have. -/
def isSafe
    (c : Char) : Bool :=
  c.isAlphanum || c == '.' || c == '-' || c == '_'

/- A character or the underscore in its place. -/
def safeChar
    (c : Char) : Char :=
  if isSafe c then c else '_'

/- A name with only safe characters. -/
def sanitize
    (name : String) : String :=
  String.ofList (name.toList.map safeChar)

/- Whatever the character was, a safe one takes its place. -/
theorem isSafe_safeChar
    (c : Char) :
    isSafe (safeChar c) = true := by
  unfold safeChar
  split
  · assumption
  · decide

/- A safe character stays. -/
theorem safeChar_of_isSafe
    {c : Char}
    (hSafe : isSafe c = true) :
    safeChar c = c := by
  simp [safeChar, hSafe]

end FileName

end Courier

------------------------------------------------------------
-- Names of Paths
------------------------------------------------------------

namespace Courier

namespace FileName

/-
  The last component of a path, if it names something.
  Empty components and single dots name nothing of their
  own, two dots name a place that is elsewhere.
-/
def ofPath?
    (path : String) : Option String :=
  let components :=
    (Split.pieces '/' path.toList).filter fun piece =>
      !piece.isEmpty && piece != ['.']
  match components.getLast? with
  | none => none
  | some last =>
      if last = ['.', '.'] then none
      else some (String.ofList last)

end FileName

end Courier

------------------------------------------------------------
-- Names with Checksums
------------------------------------------------------------

namespace Courier

namespace FileEntity

/- The character between a name and its checksum. -/
def divider : Char := ':'

/- A safe name with a checksum. -/
def encode
    (fileName checksum : String) : String :=
  String.ofList
    ((FileName.sanitize fileName).toList ++
      divider :: checksum.toList)

/-
  The name and the checksum around the first divider.  The
  name must not be empty.
-/
def decode?
    (entity : String) : Option (String × String) :=
  match Split.cut? divider entity.toList with
  | some (name, checksum) =>
      if name.isEmpty then none
      else some (String.ofList name, String.ofList checksum)
  | none => none

end FileEntity

end Courier
