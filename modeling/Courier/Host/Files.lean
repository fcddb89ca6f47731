import Courier.File.View
import Courier.Storage.Store

/-
  The files of the machine that the program runs on.

  Files are read before they are looked at, so that what
  looks at them stays a function.  A store is kept in a
  directory; after each change the directory is brought in
  line with it.

  Key definitions include:
    * `Host.ioError`
    * `Host.readFiles`
    * `Host.replaceFile`
    * `Host.readStore`
    * `Host.writeStore`
-/

------------------------------------------------------------
-- Failures
------------------------------------------------------------

namespace Courier

namespace Host

/- The failures that the machine knows by number. -/
def numbered : List (Nat × IoError.Kind × String) :=
  [(2, .notFound, "No such file or directory"),
    (13, .permissionDenied, "Permission denied"),
    (17, .alreadyExists, "File exists"),
    (20, .notADirectory, "Not a directory"),
    (21, .isADirectory, "Is a directory"),
    (28, .storageFull, "No space left on device"),
    (30, .readOnlyFilesystem, "Read-only file system"),
    (32, .brokenPipe, "Broken pipe"),
    (36, .invalidFilename, "File name too long"),
    (98, .addrInUse, "Address already in use"),
    (99, .addrNotAvailable, "Cannot assign requested address"),
    (101, .networkUnreachable, "Network is unreachable"),
    (104, .connectionReset, "Connection reset by peer"),
    (110, .timedOut, "Connection timed out"),
    (111, .connectionRefused, "Connection refused"),
    (113, .hostUnreachable, "No route to host")]

/- The number of a failure, whatever sign it comes with. -/
def numberOf
    (code : UInt32) : Nat :=
  min code.toNat (UInt32.size - code.toNat)

/- The number of a failure, if it has one. -/
def number? : IO.Error → Option Nat
  | .alreadyExists _ code _
  | .otherError code _
  | .resourceBusy code _
  | .resourceVanished code _
  | .unsupportedOperation code _
  | .hardwareFault code _
  | .unsatisfiedConstraints code _
  | .illegalOperation code _
  | .protocolError code _
  | .timeExpired code _
  | .interrupted _ code _
  | .noFileOrDirectory _ code _
  | .invalidArgument _ code _
  | .permissionDenied _ code _
  | .resourceExhausted _ code _
  | .inappropriateType _ code _
  | .noSuchThing _ code _ => some (numberOf code)
  | .unexpectedEof | .userError _ => none

/- A failure that the machine reports. -/
def ioError
    (e : IO.Error) : IoError :=
  let known? :=
    (number? e).bind fun n =>
      (numbered.lookup n).map fun (kind, text) =>
        IoError.ofSystem kind text n
  known?.getD
    { kind := .other
      message := toString e }

/- The result of an action, or why it failed. -/
def attempt
    {α : Type}
    (action : IO α) : IO (Except IoError α) := do
  try
    return .ok (← action)
  catch e =>
    return .error (ioError e)

end Host

end Courier

------------------------------------------------------------
-- Single Files
------------------------------------------------------------

namespace Courier

namespace Host

/- Files that were read, by their paths. -/
abbrev Loaded := List (String × Except IoError Bytes)

/- Read some files, as far as that is possible. -/
def readFiles
    (paths : List String) : IO Loaded :=
  paths.mapM fun (path : String) => do
    let content ← attempt (IO.FS.readBinFile path)
    return (path, content.map fun bytes => bytes.toList)

/- What was read, seen as the files that there are. -/
def Loaded.view
    (loaded : Loaded) : FileView :=
  fun path => (loaded.lookup path).getD (.error .notFound)

/- The directory of a path. -/
def directoryOf
    (path : String) : String :=
  let behind := path.toList.reverse.dropWhile (· != '/')
  if behind.isEmpty then "."
  else String.ofList behind.reverse

/-
  Give a file a new content in one step: the content is
  written beside it first.
-/
def replaceFile
    (path : String)
    (content : Bytes) : IO Unit := do
  let mark ← IO.rand 0 999999999
  let beside := s!"{directoryOf path}/.cmdlink-{mark}"
  try
    IO.FS.writeBinFile beside ⟨content.toArray⟩
    IO.FS.rename beside path
  catch e =>
    discard (attempt (IO.FS.removeFile beside))
    throw e

end Host

end Courier

------------------------------------------------------------
-- Stores
------------------------------------------------------------

namespace Courier

namespace Host

/- The names in a directory, if it is one. -/
def namesIn
    (path : String) : IO (Option (List String)) := do
  let read := do (← IO.FS.realPath path).readDir
  match ← attempt read with
  | .ok entries =>
      return some (entries.toList.map fun e => e.fileName)
  | .error _ => return none

/- The files of one domain below a directory. -/
def readDomain
    (root domain : String)
    (names : List String) : IO Tree := do
  let files ← names.mapM fun name => do
    let found ← readFiles [s!"{root}/{domain}/{name}"]
    return found.filterMap fun (_, content) =>
      content.toOption.map fun bytes =>
        ([domain, name], Node.file bytes)
  return ([domain], .directory) :: files.flatten

/- The store in a directory, which is made if necessary. -/
def readStore
    (root : String) : IO Store := do
  IO.FS.createDirAll root
  let domains := (← namesIn root).getD []
  let trees ← domains.mapM fun domain => do
    match ← namesIn s!"{root}/{domain}" with
    | some names => readDomain root domain names
    | none => return []
  return { Store.empty with tree := trees.flatten }

/- Bring a directory in line with a store. -/
def writeStore
    (root : String)
    (old new : Tree) : IO Unit := do
  for (path, node) in new.reverse do
    if old.lookup path != some node then
      let place := s!"{root}/{Tree.pathText path}"
      match node with
      | .directory => IO.FS.createDirAll place
      | .file content => replaceFile place content
  for (path, node) in old do
    if node != .directory ∧ (new.lookup path).isNone then
      IO.FS.removeFile s!"{root}/{Tree.pathText path}"

end Host

end Courier
