import Courier.Proofs.Link.Deletion
import Courier.Proofs.Link.Download
import Courier.Proofs.Link.Upload

/-
  One call after another, step by step.

  A shelf that follows the calls as the client sees them is
  after each call the one that the server keeps.

  Key definitions include:
    * `Link.Admits`
    * `Link.IsOrderly`
    * `Link.Mirrors`

  Key theorems include:
    * `Link.step_upload`
    * `Link.step_download`
    * `Link.step_delete`
    * `Link.step_mirrors`
-/

------------------------------------------------------------
-- Calls Within Bounds
------------------------------------------------------------

namespace Courier

namespace Link

/- The file ids that a call turns to. -/
def FileCall.ids : FileCall → List String
  | .upload .. => []
  | .download fileId _ _ => [fileId]
  | .delete d => [d.fileId]

/- The key of the file that a call is about. -/
def FileCall.key? : FileCall → Option FileKey
  | .upload _ u => Store.key? u.fileName u.domain
  | .download fileId domain _ => Store.key? fileId domain
  | .delete d => Store.key? d.fileId d.domain

/- A download has a place where bytes can be written. -/
def FileCall.IsWritable : FileCall → Prop
  | .download _ _ d => d.IsWritable
  | _ => True

/- The names that a call needs on the server are short. -/
def NamesFit
    (l : Link)
    (call : FileCall) : Prop :=
  ∀ key ∈ call.key?,
    match call with
    | .upload .. =>
        ∀ files ∈ l.server.store, files.HasRoom key
    | _ => Server.FitsKey key

/- The bytes that a call sends over a socket. -/
def sent
    (l : Link) : FileCall → Bytes
  | .upload files u =>
      (Transfer.upload l.network files l.settings u).sent
  | .download fileId domain d =>
      (Transfer.download l.network l.settings fileId domain
        d).1.sent
  | .delete d =>
      let c := l.settings.stamp d.toCommand
      match l.settings.route c with
      | .socket => (Wire.bySocket l.network l.settings c).sent
      | .tunnel => []

/-
  A call is within the bounds of a link: it turns to known
  file ids, its names are short, its frames are not too
  large, and a download can be written.
-/
structure Admits
    (l : Link)
    (ids : List String)
    (call : FileCall) : Prop where
  known : ∀ fileId ∈ call.ids, fileId ∈ ids
  names : l.NamesFit call
  frames : l.server.FramesFit l.settings (l.sent call)
  writable : call.IsWritable

/- The file ids that an upload was answered with. -/
def Entry.returned
    (e : Entry) : List String :=
  match e.call, e.outcome with
  | .upload .., .ok a =>
      if a.status = .fileOk then a.fileId.toList else []
  | _, _ => []

/-
  Each call is within the bounds of the link as it finds it.
  File ids are known once an upload was answered with them.
-/
def IsOrderly
    (l : Link)
    (ids : List String) : List FileCall → Prop
  | [] => True
  | call :: calls =>
      l.Admits ids call ∧
        IsOrderly (l.step call).2
          (ids ++ (l.step call).1.returned) calls

end Link

end Courier

------------------------------------------------------------
-- Steps
------------------------------------------------------------

namespace Courier

namespace Shelf

/- The length of every content can be announced. -/
def IsSized
    (m : Shelf) : Prop :=
  ∀ key, ∀ content ∈ m key, content.length < UInt64.size

variable {m : Shelf}

/- Where nothing is there, nothing is too long. -/
theorem isSized_empty :
    empty.IsSized :=
  nofun

/- Another content that can be announced may be put. -/
theorem IsSized.put
    {content : Bytes}
    (key : FileKey)
    (hSized : m.IsSized)
    (hLength : content.length < UInt64.size) :
    (m.put key content).IsSized := by
  intro other found hFound
  by_cases hSame : other = key
  · rw [hSame, m.put_same] at hFound
    cases hFound
    exact hLength
  · rw [m.put_other content hSame] at hFound
    exact hSized other found hFound

/- A content may be taken away. -/
theorem IsSized.erase
    (key : FileKey)
    (hSized : m.IsSized) :
    (m.erase key).IsSized := by
  intro other found hFound
  by_cases hSame : other = key
  · rw [hSame, m.erase_same] at hFound
    cases hFound
  · rw [m.erase_other hSame] at hFound
    exact hSized other found hFound

end Shelf

namespace Link

/-
  The server of a link keeps the files of a shelf, and the
  client knows the ids of files.
-/
structure Mirrors
    (l : Link)
    (m : Shelf)
    (ids : List String) : Prop where
  suits : l.server.Suits l.settings
  keeps : l.server.Keeps m
  sized : m.IsSized
  ids : ∀ fileId ∈ ids, Store.IsFileId fileId

variable {l : Link}
variable {m : Shelf}
variable {ids : List String}
variable {call : FileCall}

/- The entry of a call says which call it was. -/
theorem call_step
    (l : Link)
    (call : FileCall) :
    (l.step call).1.call = call := by
  cases call <;> rfl

/- A call leaves the settings as they are. -/
theorem settings_step
    (l : Link)
    (call : FileCall) :
    (l.step call).2.settings = l.settings := by
  cases call with
  | upload files u => rfl
  | download fileId domain d => rfl
  | delete d =>
      simp only [step, delete, send]
      split
      · rfl
      · unfold afterRequest
        split <;> rfl

/- A call leaves the server as it was set up. -/
theorem setup_step
    (l : Link)
    (call : FileCall) :
    (l.step call).2.server.setup = l.server.setup := by
  cases call with
  | upload files u => exact Server.setup_handle _ _ _
  | download fileId domain d =>
      exact Server.setup_handle _ _ _
  | delete d =>
      simp only [step, delete, send]
      split
      · exact Server.setup_handle _ _ _
      · unfold afterRequest
        split
        · rfl
        · simp only [Server.serve]
          split
          · rfl
          · split
            · rfl
            · exact Server.setup_process _ _

/- A call leaves client and server suited to each other. -/
theorem suits_step
    (call : FileCall)
    (hSuits : l.server.Suits l.settings) :
    (l.step call).2.server.Suits (l.step call).2.settings := by
  have hName :=
    (Server.same_of_setup (setup_step l call)).1
  constructor
  · rw [settings_step, hName]
    exact hSuits.name
  · rw [hName]
    exact hSuits.noSign

/- A call without good news has changed nothing. -/
theorem operation?_of_not_fileOk
    {e : Entry}
    (hNot : ∀ a, e.outcome = .ok a → a.status ≠ .fileOk) :
    e.operation? = none ∧ e.returned = [] := by
  have hOk : e.isFileOk = false := by
    unfold Entry.isFileOk
    cases hOutcome : e.outcome with
    | error f => rfl
    | ok a => simpa using hNot a hOutcome
  constructor
  · simp only [Entry.operation?, hOk, Bool.not_false, if_true]
  · unfold Entry.returned
    split
    · next a _ hOutcome => rw [if_neg (hNot a hOutcome)]
    · rfl

/- A step that changes no file keeps the shelf. -/
theorem Mirrors.of_kept
    (hMirrors : l.Mirrors m ids)
    (hNot :
      ∀ a, (l.step call).1.outcome = .ok a →
        a.status ≠ .fileOk)
    (hKeeps : (l.step call).2.server.Keeps m) :
    (l.step call).2.Mirrors
      (m.run (l.step call).1.operation?.toList)
      (ids ++ (l.step call).1.returned) := by
  rcases operation?_of_not_fileOk hNot with
    ⟨hOperation, hReturned⟩
  rw [hOperation, hReturned, List.append_nil]
  exact
    ⟨suits_step call hMirrors.suits, hKeeps, hMirrors.sized,
      hMirrors.ids⟩

/- An upload is on the shelf if its client was told so. -/
theorem step_upload
    {files : LocalFiles}
    {u : Upload}
    (hMirrors : l.Mirrors m ids)
    (hAdmits : l.Admits ids (.upload files u)) :
    let stepped := l.step (.upload files u)
    stepped.2.Mirrors (m.run stepped.1.operation?.toList)
      (ids ++ stepped.1.returned) := by
  intro stepped
  have hRoom :
      ∀ kept ∈ l.server.store,
        ∀ key ∈ Store.key? u.fileName u.domain,
          kept.HasRoom key :=
    fun kept hStore key hKey =>
      hAdmits.names key hKey kept hStore
  rcases
    Server.upload_keeps (t := l.tunnel) hMirrors.suits
      hMirrors.keeps hRoom hAdmits.frames with
    ⟨hNot, hKept⟩ | ⟨key, body, hKey, hBody, hOutcome, hFits,
      hKept⟩
  · exact hMirrors.of_kept hNot hKept
  have hEntry :
      stepped.1 =
        ⟨.upload files u, .ok (.fileOk key.2), none⟩ := by
    rw [← hOutcome]
    rfl
  have hOperation :
      stepped.1.operation? = some (.store key body) := by
    rw [hEntry]
    simp only [Entry.operation?, Entry.isFileOk, hKey, hBody]
    rfl
  have hReturned : stepped.1.returned = [key.2] := by
    rw [hEntry]
    rfl
  have hLength : body.length < UInt64.size := by
    have hBound := Server.length_uploadedBytes hBody
    have hSize := u.size.toNat_lt_size
    omega
  rw [hOperation, hReturned]
  refine
    ⟨suits_step _ hMirrors.suits, hKept,
      hMirrors.sized.put key hLength, ?_⟩
  intro fileId hMem
  rcases List.mem_append.mp hMem with hOld | hNew
  · exact hMirrors.ids fileId hOld
  · rw [List.mem_singleton.mp hNew]
    exact Store.isFileId_of_key? hKey hFits

/- What a download obtains, and that it changes nothing. -/
theorem step_download
    {fileId : String}
    {domain : Option String}
    {d : Destination}
    (hMirrors : l.Mirrors m ids)
    (hAdmits : l.Admits ids (.download fileId domain d)) :
    let call :=
      Transfer.download l.network l.settings fileId domain d
    (l.step (.download fileId domain d)).2.server.Keeps m ∧
      ∀ a, call.1.outcome = .ok a →
        call.2.Obtains a
          ((Store.key? fileId domain).bind m) :=
  Server.download_keeps (t := l.tunnel) hMirrors.suits
    hMirrors.keeps hMirrors.sized
    (hMirrors.ids fileId
      (hAdmits.known fileId List.mem_cons_self))
    (fun key hKey => hAdmits.names key hKey)
    hAdmits.writable hAdmits.frames

/- A deletion ends as the wire does that it takes. -/
theorem outcome_delete
    {d : Delete}
    (hStop :
      (l.settings.stamp d.toCommand).isStop = false) :
    (l.delete d).1 =
      (Wires.ofNetwork l.network).send l.settings
        (l.settings.stamp d.toCommand) := by
  simp only [delete, send, Communicator.send, hStop]
  split
  · next hOk => rw [hOk]
  · next hError =>
      rw [hError]
      rfl

/- Over a socket the server gets the bytes of the wire. -/
theorem server_delete_of_socket
    {d : Delete}
    (hRoute :
      l.settings.route (l.settings.stamp d.toCommand) =
        .socket) :
    (l.delete d).2.server =
      l.server.after
        (Wire.bySocket l.network l.settings
          (l.settings.stamp d.toCommand)).sent := by
  simp only [delete, send, hRoute]
  rfl

/- Over HTTP the tunnel gets a request, if there is one. -/
theorem after_delete_of_tunnel
    {d : Delete}
    (hRoute :
      l.settings.route (l.settings.stamp d.toCommand) =
        .tunnel) :
    (l.delete d).2 =
      l.afterRequest
        (Wire.request l.settings
          (l.settings.stamp d.toCommand)) := by
  simp only [delete, send, hRoute]

/- What a deletion achieves, whichever way it takes. -/
theorem delete_keeps
    {d : Delete}
    (hMirrors : l.Mirrors m ids)
    (hAdmits : l.Admits ids (.delete d)) :
    ((∃ e, (l.delete d).1 = .error e) ∧
        (l.delete d).2.server.Keeps m) ∨
      ∃ a,
        (l.delete d).1 = .ok a ∧
          (l.delete d).2.server.IsDeletion m d.fileId
            (Store.key? d.fileId d.domain) a := by
  have hId :=
    hMirrors.ids d.fileId
      (hAdmits.known d.fileId List.mem_cons_self)
  have hNames := Server.names_delete l.settings hId
  have hFits :
      ∀ key ∈ Store.key? d.fileId d.domain,
        Server.FitsKey key :=
    fun key hKey => hAdmits.names key hKey
  have hFrames := hAdmits.frames
  have hOutcome :=
    outcome_delete (l := l)
      (Server.hasVerb_of_names Command.stopVerb hNames)
  rw [hOutcome, Wires.send]
  cases hRoute :
    l.settings.route (l.settings.stamp d.toCommand) with
  | socket =>
      simp only [sent, hRoute] at hFrames
      rw [server_delete_of_socket hRoute]
      exact
        Server.bySocket_keeps (t := l.tunnel) hMirrors.suits
          hMirrors.keeps hId hFits hNames hFrames
  | tunnel =>
      rw [after_delete_of_tunnel hRoute, afterRequest]
      cases hTunnel : l.tunnel with
      | none =>
          refine Or.inl ⟨?_, hMirrors.keeps⟩
          simp only [Wires.ofNetwork, Wire.byTunnel, network,
            Server.network, hTunnel]
          exact ⟨_, rfl⟩
      | some t =>
          simp only [Wires.ofNetwork, network, hTunnel]
          exact
            Server.byTunnel_keeps hMirrors.suits
              hMirrors.keeps hFits hNames

/- A deletion takes away what its client was told. -/
theorem step_delete
    {d : Delete}
    (hMirrors : l.Mirrors m ids)
    (hAdmits : l.Admits ids (.delete d)) :
    let stepped := l.step (.delete d)
    stepped.2.Mirrors (m.run stepped.1.operation?.toList)
      (ids ++ stepped.1.returned) := by
  intro stepped
  have hStepped :
      stepped =
        (⟨.delete d, (l.delete d).1, none⟩, (l.delete d).2) :=
    rfl
  rcases delete_keeps hMirrors hAdmits with
    ⟨⟨e, hError⟩, hKept⟩ | ⟨a, hOk, hDeletion⟩
  · refine hMirrors.of_kept ?_ hKept
    intro a hOk
    have hSame : (l.delete d).1 = .ok a := hOk
    rw [hError] at hSame
    cases hSame
  · rcases hDeletion with ⟨key, hKey, rfl, hKept⟩ | ⟨rfl, hKept⟩
    · have hOperation :
          stepped.1.operation? = some (.delete key) := by
        rw [hStepped]
        simp only [Entry.operation?, Entry.isFileOk, hOk, hKey]
        rfl
      have hReturned : stepped.1.returned = [] := rfl
      rw [hOperation, hReturned, List.append_nil]
      exact
        ⟨suits_step _ hMirrors.suits, hKept,
          hMirrors.sized.erase key, hMirrors.ids⟩
    · refine hMirrors.of_kept ?_ hKept
      intro a hSome
      have hSame : (l.delete d).1 = .ok a := hSome
      rw [hOk] at hSame
      cases hSame
      nofun

/- A call keeps client and server in step. -/
theorem step_mirrors
    (hMirrors : l.Mirrors m ids)
    (hAdmits : l.Admits ids call) :
    (l.step call).2.Mirrors
      (m.run (l.step call).1.operation?.toList)
      (ids ++ (l.step call).1.returned) := by
  cases call with
  | upload files u => exact step_upload hMirrors hAdmits
  | download fileId domain d =>
      have hKept := (step_download hMirrors hAdmits).1
      have hOperation :
          (l.step (.download fileId domain d)).1.operation? =
            none := by
        simp only [Entry.operation?]
        split
        · rfl
        · rfl
      have hReturned :
          (l.step (.download fileId domain d)).1.returned =
            [] :=
        rfl
      rw [hOperation, hReturned, List.append_nil]
      exact
        ⟨suits_step _ hMirrors.suits, hKept, hMirrors.sized,
          hMirrors.ids⟩
  | delete d => exact step_delete hMirrors hAdmits

end Link

end Courier
