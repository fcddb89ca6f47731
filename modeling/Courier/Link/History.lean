import Courier.Link
import Courier.Storage.Shelf

/-
  One call after another on a link.

  Each call leaves an entry with its outcome.  What uploads
  and deletes have achieved, as far as the client was told,
  is a shelf of its own, which is kept without a look at the
  server.

  Key definitions include:
    * `Link.FileCall`
    * `Link.Entry`
    * `Link.step`
    * `Link.run`
    * `Link.Entry.operation?`
    * `Link.ledger`
-/

------------------------------------------------------------
-- Calls
------------------------------------------------------------

namespace Courier

namespace Link

/- A call for a file. -/
inductive FileCall where
| upload : LocalFiles → Upload → FileCall
| download :
    (fileId : String) → (domain : Option String) →
    Destination → FileCall
| delete : Delete → FileCall

/- A call with its outcome, and where it left a download. -/
structure Entry where
  call : FileCall
  outcome : Except TransportError Answer
  destination : Option Destination

/- Make a call. -/
def step
    (l : Link) : FileCall → Entry × Link
  | .upload files u =>
      let (outcome, l') := l.upload files u
      (⟨.upload files u, outcome, none⟩, l')
  | .download fileId domain d =>
      let (outcome, d', l') := l.download fileId domain d
      (⟨.download fileId domain d, outcome, some d'⟩, l')
  | .delete d =>
      let (outcome, l') := l.delete d
      (⟨.delete d, outcome, none⟩, l')

/- Make one call after another. -/
def run
    (l : Link) : List FileCall → List Entry × Link
  | [] => ([], l)
  | call :: calls =>
      let (entry, l') := l.step call
      let (entries, l'') := run l' calls
      (entry :: entries, l'')

end Link

end Courier

------------------------------------------------------------
-- Ledgers
------------------------------------------------------------

namespace Courier

namespace Link

/- A call was answered with good news about a file. -/
def Entry.isFileOk
    (e : Entry) : Bool :=
  match e.outcome with
  | .ok a => a.status == .fileOk
  | .error _ => false

/- The bytes that an upload takes from its local file. -/
def uploadedBytes?
    (files : LocalFiles)
    (u : Upload) : Option Bytes :=
  match u.source with
  | none => none
  | some path =>
      match files path with
      | .ok source => some (source.content.take u.size.toNat)
      | .error _ => none

/- What a call has changed, as far as the client was told. -/
def Entry.operation?
    (e : Entry) : Option Shelf.Operation :=
  if !e.isFileOk then none
  else
    match e.call with
    | .upload files u =>
        match Store.key? u.fileName u.domain,
            uploadedBytes? files u with
        | some key, some bytes => some (.store key bytes)
        | _, _ => none
    | .delete d =>
        (Store.key? d.fileId d.domain).map Shelf.Operation.delete
    | .download .. => none

/- The files that all calls together should have left. -/
def ledger
    (entries : List Entry) : Shelf :=
  Shelf.empty.run (entries.filterMap Entry.operation?)

end Link

end Courier
