import Courier.Toml.Statement

/-
  What the statements of TOML text say together.

  A table is opened by its header once.  Tables on the way
  to another one come into being by themselves and may still
  be opened by a header, unless names with dots made them.

  Key definitions include:
    * `Toml.Node`
    * `Toml.insert?`
    * `Toml.open?`
    * `Toml.read?`
-/

------------------------------------------------------------
-- Tables
------------------------------------------------------------

namespace Courier

namespace Toml

/- What brought a table into being. -/
inductive Origin where
| header : Origin
| way : Origin
| dots : Origin
deriving DecidableEq, Repr

/- What a name stands for. -/
inductive Node where
| value : Value → Node
| table : Origin → List (String × Node) → Node
| items : List (List (String × Node)) → Node

/- Names with what they stand for. -/
abbrev Members := List (String × Node)

/- Give a name a new meaning, in its place. -/
def replace
    (members : Members)
    (name : String)
    (node : Node) : Members :=
  members.map fun member =>
    if member.1 = name then (name, node) else member

/-
  Change the table at the end of a path.  Tables that are
  missing get the given origin.  The change is told the
  origin of the table.
-/
def alter?
    (origin : Origin)
    (change : Origin → Members → Option Members)
    (here : Origin)
    (members : Members) : List String → Option Members
  | [] => change here members
  | name :: rest =>
      match members.lookup name with
      | none =>
          match alter? origin change origin [] rest with
          | some inner =>
              some (members ++ [(name, .table origin inner)])
          | none => none
      | some (.value _) => none
      | some (.table at' inner) =>
          if origin = .dots ∧ at' = .header then none
          else
            match alter? origin change at' inner rest with
            | some inner' =>
                some (replace members name (.table at' inner'))
            | none => none
      | some (.items tables) =>
          match tables.getLast? with
          | none => none
          | some last =>
              match alter? origin change .header last rest with
              | some last' =>
                  some
                    (replace members name
                      (.items (tables.dropLast ++ [last'])))
              | none => none

/- The names before the last one, and the last one. -/
def unsnoc?
    (path : List String) : Option (List String × String) :=
  path.getLast?.map fun last => (path.dropLast, last)

end Toml

end Courier

------------------------------------------------------------
-- Statements
------------------------------------------------------------

namespace Courier

namespace Toml

/-
  Give the name at the end of a path a value.  A path with
  dots must not lead into a table that has no dots, and no
  name is given twice.
-/
def insert?
    (members : Members)
    (path : List String)
    (value : Value) : Option Members :=
  match unsnoc? path with
  | none => none
  | some (way, name) =>
      alter? .dots
        (fun origin inner =>
          if decide (origin = .dots) == way.isEmpty then none
          else if inner.any (·.1 == name) then none
          else some (inner ++ [(name, .value value)]))
        .header members way

/- Open the table of a header. -/
def open?
    (members : Members)
    (path : List String) : Option Members :=
  match unsnoc? path with
  | none => none
  | some (way, name) =>
      alter? .way
        (fun _ inner =>
          match inner.lookup name with
          | none => some (inner ++ [(name, .table .header [])])
          | some (.table .way old) =>
              some (replace inner name (.table .header old))
          | some _ => none)
        .header members way

/- Add an item to the list of tables of a header. -/
def add?
    (members : Members)
    (path : List String) : Option Members :=
  match unsnoc? path with
  | none => none
  | some (way, name) =>
      alter? .way
        (fun _ inner =>
          match inner.lookup name with
          | none => some (inner ++ [(name, .items [[]])])
          | some (.items tables) =>
              some (replace inner name (.items (tables ++ [[]])))
          | some _ => none)
        .header members way

end Toml

end Courier

------------------------------------------------------------
-- Values
------------------------------------------------------------

namespace Courier

namespace Toml

mutual

/- The value that a name stands for. -/
def Node.toValue : Node → Value
  | .value v => v
  | .table _ members => .table (membersToValues members)
  | .items tables => .list (tablesToValues tables)

/- The values that names stand for. -/
def membersToValues :
    List (String × Node) → List (String × Value)
  | [] => []
  | (name, node) :: rest =>
      (name, node.toValue) :: membersToValues rest

/- The tables of a list. -/
def tablesToValues :
    List (List (String × Node)) → List Value
  | [] => []
  | members :: rest =>
      .table (membersToValues members) :: tablesToValues rest

end

mutual

/- The value of a literal, if no name is given twice. -/
def Literal.toValue? : Literal → Option Value
  | .scalar v => some v
  | .list items => (literalsToValues? items).map .list
  | .table entries =>
      (entriesToMembers? [] entries).map fun members =>
        .table (membersToValues members)

/- The values of literals. -/
def literalsToValues? : List Literal → Option (List Value)
  | [] => some []
  | item :: rest =>
      match item.toValue?, literalsToValues? rest with
      | some v, some vs => some (v :: vs)
      | _, _ => none

/- Add the entries of a table in braces. -/
def entriesToMembers?
    (members : Members) :
    List (List String × Literal) → Option Members
  | [] => some members
  | (path, literal) :: rest =>
      match literal.toValue? with
      | none => none
      | some value =>
          match insert? members path value with
          | some members' => entriesToMembers? members' rest
          | none => none

end

end Toml

end Courier

------------------------------------------------------------
-- Texts
------------------------------------------------------------

namespace Courier

namespace Toml

/- What was said so far, and the table that is open. -/
structure State where
  members : Members
  current : List String

/- Take one statement. -/
def step
    (s : State) : Statement → Option State
  | .table path =>
      (open? s.members path).map fun members =>
        { members := members, current := path }
  | .item path =>
      (add? s.members path).map fun members =>
        { members := members, current := path }
  | .entry path literal =>
      match literal.toValue? with
      | none => none
      | some value =>
          (alter? .way
            (fun _ inner => insert? inner path value)
            .header s.members s.current).map fun members =>
            { s with members := members }

/- The table that a text spells. -/
def read?
    (input : List Char) : Option Value :=
  match statements? input with
  | none => none
  | some all =>
      (all.foldlM step { members := [], current := [] }).map
        fun s => .table (membersToValues s.members)

end Toml

end Courier
