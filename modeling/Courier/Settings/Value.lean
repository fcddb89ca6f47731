/-
  The contents of a configuration file, whatever its format.

  A format may have spellings that stand for nothing.  They
  do no harm in a place that is not looked at, and there is
  no setting that they can be read as.

  Key definitions include:
    * `Quantity`
    * `Value`
    * `Value.isPlain`
    * `Value.natural?`
    * `Rigor`
    * `Value.choice?`
    * `Value.field?`
    * `Value.othersAllowed`
-/

------------------------------------------------------------
-- Values
------------------------------------------------------------

namespace Courier

/-
  How a number of a file becomes one of a setting.

  An exact number must be in the range of the setting.  A
  loose one is cut to a whole number and then brought into
  the range; `isPlain` says whether it can also stand where
  no setting asks for it.  A fraction is never taken.
-/
inductive Quantity where
| exact : Int → Quantity
| loose : (n : Int) → (isPlain : Bool) → Quantity
| fraction : Quantity
deriving DecidableEq, Repr

/- A value of a configuration file. -/
inductive Value where
| null : Value
| broken : Value
| flag : Bool → Value
| number : Quantity → Value
| text : String → Value
| moment : Value
| list : List Value → Value
| table : List (String × Value) → Value
deriving Repr

instance : Inhabited Value :=
  ⟨.null⟩

namespace Value

mutual

/- The value can stand where no setting asks for it. -/
def isPlain : Value → Bool
  | .broken => false
  | .number (.loose _ plain) => plain
  | .list items => allPlain items
  | .table members => membersPlain members
  | _ => true

/- All values can stand where no setting asks for them. -/
def allPlain : List Value → Bool
  | [] => true
  | item :: rest => isPlain item && allPlain rest

/- All members can stand where no setting asks for them. -/
def membersPlain : List (String × Value) → Bool
  | [] => true
  | (_, item) :: rest => isPlain item && membersPlain rest

end

/- The whole number of at most `max` that a value gives. -/
def natural?
    (max : Nat) : Value → Option Nat
  | .number (.exact n) =>
      if 0 ≤ n ∧ n ≤ max then some n.toNat else none
  | .number (.loose n _) => some (min n.toNat max)
  | _ => none

/- The text that a value gives. -/
def text? : Value → Option String
  | .text s => some s
  | _ => none

/- The flag that a value gives. -/
def flag? : Value → Option Bool
  | .flag b => some b
  | _ => none

/- The texts that a value gives. -/
def texts? : Value → Option (List String)
  | .list items => items.mapM text?
  | _ => none

/- What a value gives unless it is null. -/
def option?
    {α : Type}
    (read : Value → Option α) : Value → Option (Option α)
  | .null => some none
  | v => (read v).map some

end Value

end Courier

------------------------------------------------------------
-- Choices
------------------------------------------------------------

namespace Courier

/-
  What may be said beside a setting.

  A choice may be the name of a member of a table.  Where
  reading is loose, that is the first member, whatever it
  says.  Otherwise it is the only one and says nothing:
  where reading is exact, it is null, else it is empty.  A
  list of settings in their order ends after the last of
  them where reading is exact.
-/
inductive Rigor where
| exact : Rigor
| lenient : Rigor
| loose : Rigor
deriving DecidableEq, Repr

/- The member of a table with a value names a choice. -/
def Rigor.allows : Rigor → Value → Bool
  | .exact, .null => true
  | .lenient, .list [] | .lenient, .table [] => true
  | .loose, _ => true
  | _, _ => false

namespace Value

/- The name of a choice: a text, or a member of a table. -/
def choice?
    (rigor : Rigor) : Value → Option String
  | .text s => some s
  | .table ((name, v) :: rest) =>
      if rigor.allows v && (rigor == .loose || rest.isEmpty)
      then some name
      else none
  | _ => none

end Value

end Courier

------------------------------------------------------------
-- Records
------------------------------------------------------------

namespace Courier

namespace Value

/-
  The member of a record with a name and a position.  No
  name may come twice.  A moment is a record whose members
  no setting has.
-/
def member?
    (v : Value)
    (name : String)
    (position : Nat) : Option (Option Value) :=
  match v with
  | .list items => some items[position]?
  | .table members =>
      match members.filter fun member => member.1 == name with
      | [] => some none
      | [member] => some (some member.2)
      | _ => none
  | .moment => some none
  | _ => none

/- A member of a record that keeps its value if missing. -/
def field?
    {α : Type}
    (v : Value)
    (name : String)
    (position : Nat)
    (read : Value → Option α)
    (fallback : α) : Option α :=
  match v.member? name position with
  | some (some item) => read item
  | some none => some fallback
  | none => none

/-
  What is said beside the settings with names is allowed:
  other members are plain, and a list that is read exactly
  has no further items.
-/
def othersAllowed
    (rigor : Rigor)
    (names : List String) : Value → Bool
  | .table members =>
      members.all fun member =>
        names.contains member.1 || member.2.isPlain
  | .list items =>
      rigor != .exact || items.length ≤ names.length
  | _ => true

end Value

end Courier
