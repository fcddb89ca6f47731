import Courier.Storage.Shelf

/-
  A store whose callers hold copies of its files.

  Each file that is found is handed out as a temporary copy,
  and the copy is removed when it is given back.  A shelf
  says what callers are told, without a look at the store.

  Key definitions include:
    * `Lending`
    * `Lending.Call`
    * `Lending.Reply`
    * `Lending.perform`
    * `Lending.run`
    * `Shelf.replyTo`
    * `Shelf.operation?`
    * `Shelf.afterCall`
-/

------------------------------------------------------------
-- Calls and Replies
------------------------------------------------------------

namespace Courier

/-
  A store and the copies that its callers hold, with what
  was in them when they were handed out.
-/
structure Lending where
  store : Store
  lent : List (Nat × Bytes)

namespace Lending

/- What a caller can do. -/
inductive Call where
| store :
    (content : Bytes) → (name : String) →
    (domain : Option String) → Call
| find :
    (fileId : String) → (domain : Option String) → Call
| delete :
    (fileId : String) → (domain : Option String) → Call
| giveBack : (copy : Nat) → Call
deriving DecidableEq, Repr

/- What a caller sees of a file that was found. -/
structure Sheet where
  fileId : String
  fileName : String
  domain : Option String
  content : Bytes
deriving DecidableEq, Repr

/- What a caller is told. -/
inductive Reply where
| stored : Except StorageError String → Reply
| found : Except StorageError (Option Sheet) → Reply
| deleted : Except StorageError Bool → Reply
| givenBack : Reply

/- A store before anything was done, with a first number. -/
def opened
    (serial : Nat) : Lending :=
  { store := { Store.empty with serial := serial }
    lent := [] }

end Lending

end Courier

------------------------------------------------------------
-- Stores That Lend
------------------------------------------------------------

namespace Courier

namespace Lending

/- Look for a file, and see what is in the copy of it. -/
def lend
    (l : Lending)
    (fileId : String)
    (domain : Option String) : Reply × Lending :=
  let (found, s') := l.store.find fileId domain
  match found with
  | .error e => (.found (.error e), { l with store := s' })
  | .ok none => (.found (.ok none), { l with store := s' })
  | .ok (some d) =>
      match s'.temp.read d.copy with
      | .error e =>
          (.found (.error (.io e)), { l with store := s' })
      | .ok content =>
          (.found
            (.ok
              (some
                { fileId := d.fileId
                  fileName := d.fileName
                  domain := d.domain
                  content := content })),
            { store := s'
              lent := (d.copy, content) :: l.lent })

/- Do what a caller asks for. -/
def perform
    (l : Lending) : Call → Reply × Lending
  | .store content name domain =>
      let (stored, s') := l.store.store (.whole content) name domain
      (.stored stored, { l with store := s' })
  | .find fileId domain => l.lend fileId domain
  | .delete fileId domain =>
      let (deleted, s') := l.store.delete fileId domain
      (.deleted deleted, { l with store := s' })
  | .giveBack copy =>
      (.givenBack,
        { store :=
            { l.store with temp := l.store.temp.remove copy }
          lent := l.lent.filter fun file => file.1 != copy })

/- Do one thing after another. -/
def run
    (l : Lending) : List Call → List Reply × Lending
  | [] => ([], l)
  | call :: calls =>
      let (reply, l') := l.perform call
      let (replies, l'') := run l' calls
      (reply :: replies, l'')

end Lending

end Courier

------------------------------------------------------------
-- Shelves That Lend
------------------------------------------------------------

namespace Courier

namespace Shelf

open Lending

/- What a caller is told. -/
def replyTo
    (m : Shelf) : Call → Reply
  | .store _ name domain =>
      .stored
        (match Store.domainComponent? domain,
            Store.component? name with
        | none, _ => .error (.invalidName (domain.getD ""))
        | some _, none => .error (.invalidName name)
        | some _, some fileId => .ok fileId)
  | .find fileId domain =>
      .found
        (.ok
          ((Store.key? fileId domain).bind fun key =>
            (m key).map fun content =>
              { fileId := key.2
                fileName := key.2
                domain := domain
                content := content }))
  | .delete fileId domain =>
      .deleted
        (.ok
          ((Store.key? fileId domain).any fun key =>
            (m key).isSome))
  | .giveBack _ => .givenBack

/- What a call does with a file, if its names have a key. -/
def operation? : Call → Option Operation
  | .store content name domain =>
      (Store.key? name domain).map fun key =>
        .store key content
  | .find fileId domain =>
      (Store.key? fileId domain).map .find
  | .delete fileId domain =>
      (Store.key? fileId domain).map .delete
  | .giveBack _ => none

/- The files after a call. -/
def afterCall
    (m : Shelf)
    (call : Call) : Shelf :=
  match operation? call with
  | none => m
  | some o => m.after o

/- The files after one call after another. -/
def afterCalls
    (m : Shelf)
    (calls : List Call) : Shelf :=
  calls.foldl afterCall m

/- What callers are told, one after another. -/
def repliesTo
    (m : Shelf) : List Call → List Reply
  | [] => []
  | call :: calls =>
      m.replyTo call :: repliesTo (m.afterCall call) calls

end Shelf

end Courier
