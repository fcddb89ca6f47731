/-
  Failures of files and connections.

  Key definitions include:
    * `IoError.Kind`
    * `IoError`
    * `IoError.timedOut`
    * `IoError.unexpectedEnd`
-/

------------------------------------------------------------
-- Kinds
------------------------------------------------------------

namespace Courier

/- What kind of failure it is. -/
inductive IoError.Kind where
| notFound : Kind
| permissionDenied : Kind
| connectionRefused : Kind
| connectionReset : Kind
| hostUnreachable : Kind
| networkUnreachable : Kind
| connectionAborted : Kind
| notConnected : Kind
| addrInUse : Kind
| addrNotAvailable : Kind
| networkDown : Kind
| brokenPipe : Kind
| alreadyExists : Kind
| wouldBlock : Kind
| notADirectory : Kind
| isADirectory : Kind
| directoryNotEmpty : Kind
| readOnlyFilesystem : Kind
| invalidInput : Kind
| invalidData : Kind
| timedOut : Kind
| writeZero : Kind
| storageFull : Kind
| quotaExceeded : Kind
| fileTooLarge : Kind
| resourceBusy : Kind
| invalidFilename : Kind
| interrupted : Kind
| unsupported : Kind
| unexpectedEof : Kind
| outOfMemory : Kind
| other : Kind
deriving DecidableEq, Repr

end Courier

------------------------------------------------------------
-- Failures
------------------------------------------------------------

namespace Courier

/- A failure: its kind and its text. -/
structure IoError where
  kind : IoError.Kind
  message : String
deriving DecidableEq, Repr

namespace IoError

/- A failure that the operating system reports by number. -/
def ofSystem
    (kind : Kind)
    (text : String)
    (code : Nat) : IoError :=
  { kind := kind, message := s!"{text} (os error {code})" }

/- A step took too long. -/
def timedOut
    (step : String) : IoError :=
  { kind := .timedOut, message := s!"{step} timed out" }

/- A reader ended before it gave what was asked for. -/
def unexpectedEnd : IoError :=
  { kind := .unexpectedEof, message := "early eof" }

/- A writer takes no more bytes. -/
def writeZero : IoError :=
  { kind := .writeZero, message := "write zero byte into writer" }

/- A path names nothing. -/
def notFound : IoError :=
  ofSystem .notFound "No such file or directory" 2

/- A path leads through something that is no directory. -/
def notADirectory : IoError :=
  ofSystem .notADirectory "Not a directory" 20

/- A directory is in the place of a file. -/
def isADirectory : IoError :=
  ofSystem .isADirectory "Is a directory" 21

/- A file is in the place of a new directory. -/
def alreadyExists : IoError :=
  ofSystem .alreadyExists "File exists" 17

/- A name is longer than the file system allows. -/
def nameTooLong : IoError :=
  ofSystem .invalidFilename "File name too long" 36

end IoError

end Courier
