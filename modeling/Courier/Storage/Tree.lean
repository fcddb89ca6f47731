import Courier.Bytes
import Courier.IoError

/-
  Directory trees below a root that always exists.

  A tree maps paths to files and directories.  A path leads
  through directories only; a component that is longer than
  the file system allows is refused as soon as its directory
  has been found.

  Key definitions include:
    * `Node`
    * `Tree`
    * `Tree.node?`
    * `Tree.reach`
    * `Tree.makeDirectory`
    * `Tree.readFile`
    * `Tree.writeFile`
    * `Tree.rename`
    * `Tree.unlink`
    * `Tree.listing`
-/

------------------------------------------------------------
-- Trees
------------------------------------------------------------

namespace Courier

/- What a path can lead to. -/
inductive Node where
| directory : Node
| file : Bytes → Node
deriving DecidableEq, Repr

/- The components of a path below the root. -/
abbrev Path := List String

/- The files and directories below the root. -/
abbrev Tree := List (Path × Node)

namespace Tree

/- The node at a path, where the root is a directory. -/
def node?
    (t : Tree)
    (path : Path) : Option Node :=
  if path = [] then some .directory else t.lookup path

/- Remove the node at a path. -/
def erase
    (t : Tree)
    (path : Path) : Tree :=
  t.filter fun entry => entry.1 != path

/- Put a node at a path. -/
def put
    (t : Tree)
    (path : Path)
    (node : Node) : Tree :=
  (path, node) :: t.erase path

end Tree

end Courier

------------------------------------------------------------
-- Walking
------------------------------------------------------------

namespace Courier

namespace Tree

/-
  The longest name of a file or directory, in octets.  How
  long a whole path may be is not limited: that depends on
  where the root is.
-/
def maxName : Nat := 255

/-
  Follow a path from a directory that was reached.  The
  result is the node at its end, absent if only the last
  component is missing.  Each name on the way is limited by
  itself, and the path is not.
-/
def reachFrom
    (t : Tree)
    (seen : Path) : Path → Except IoError (Option Node)
  | [] => .ok (t.node? seen)
  | name :: rest =>
      match t.node? seen with
      | none => .error .notFound
      | some (.file _) => .error .notADirectory
      | some .directory =>
          if maxName < name.utf8ByteSize then
            .error .nameTooLong
          else
            reachFrom t (seen ++ [name]) rest

/- Follow a path from the root. -/
def reach
    (t : Tree)
    (path : Path) : Except IoError (Option Node) :=
  reachFrom t [] path

end Tree

end Courier

------------------------------------------------------------
-- Changes
------------------------------------------------------------

namespace Courier

namespace Tree

/- Make sure that a directory exists in its parent. -/
def makeDirectory
    (t : Tree)
    (path : Path) : Except IoError Tree :=
  match t.reach path with
  | .error e => .error e
  | .ok none => .ok (t.put path .directory)
  | .ok (some .directory) => .ok t
  | .ok (some (.file _)) => .error .alreadyExists

/- Make sure that a directory and all above it exist. -/
def makeDirectories
    (t : Tree)
    (seen : Path) : Path → Except IoError Tree
  | [] => .ok t
  | name :: rest =>
      match t.makeDirectory (seen ++ [name]) with
      | .error e => .error e
      | .ok t' => makeDirectories t' (seen ++ [name]) rest

/- A copy is made of something that is no file. -/
def notRegular : IoError :=
  { kind := .invalidInput
    message :=
      "the source path is neither a regular file nor a " ++
        "symlink to a regular file" }

/- The content of the file at a path. -/
def readFile
    (t : Tree)
    (path : Path) : Except IoError Bytes :=
  match t.reach path with
  | .error e => .error e
  | .ok none => .error .notFound
  | .ok (some .directory) => .error notRegular
  | .ok (some (.file content)) => .ok content

/- Write a file, which may be new. -/
def writeFile
    (t : Tree)
    (path : Path)
    (content : Bytes) : Except IoError Tree :=
  match t.reach path with
  | .error e => .error e
  | .ok (some .directory) => .error .isADirectory
  | .ok _ => .ok (t.put path (.file content))

/-
  Give a file a new path, in place of a file that is there.
-/
def rename
    (t : Tree)
    (old new : Path) : Except IoError Tree :=
  match t.readFile old, t.reach new with
  | .error e, _ => .error e
  | _, .error e => .error e
  | _, .ok (some .directory) => .error .isADirectory
  | .ok content, .ok _ =>
      .ok ((t.erase old).put new (.file content))

/- Remove the file at a path. -/
def unlink
    (t : Tree)
    (path : Path) : Except IoError Tree :=
  match t.reach path with
  | .error e => .error e
  | .ok none => .error .notFound
  | .ok (some .directory) => .error .isADirectory
  | .ok (some (.file _)) => .ok (t.erase path)

/- Remove the file at a path if that can be done. -/
def discard
    (t : Tree)
    (path : Path) : Tree :=
  match t.unlink path with
  | .ok t' => t'
  | .error _ => t

end Tree

end Courier

------------------------------------------------------------
-- Listings
------------------------------------------------------------

namespace Courier

namespace Tree

/- The text of a path. -/
def pathText
    (path : Path) : String :=
  "/".intercalate path

/- Something lies below the path. -/
def hasChild
    (t : Tree)
    (path : Path) : Bool :=
  t.any fun entry =>
    path.length < entry.1.length && path.isPrefixOf entry.1

/-
  The files with their content and the empty directories,
  in ascending order of their texts.
-/
def listing
    (t : Tree) : List (String × Option Bytes) :=
  let shown :=
    t.filterMap fun (path, node) =>
      match node with
      | .file content => some (pathText path, some content)
      | .directory =>
          if t.hasChild path then none
          else some (pathText path ++ "/", none)
  shown.mergeSort fun a b => a.1 ≤ b.1

end Tree

end Courier
