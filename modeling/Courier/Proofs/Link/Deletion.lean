import Courier.Proofs.Envelope.Document
import Courier.Proofs.Link.File

/-
  What a deletion over a link achieves, by a socket or over
  HTTP.

  The file is gone exactly if the client is told so.  No
  other file changes.

  Key definitions include:
    * `Server.IsDeletion`

  Key theorems include:
    * `Server.isDeletion_process`
    * `Server.bySocket_keeps`
    * `Server.byTunnel_keeps`
-/

------------------------------------------------------------
-- Deletions
------------------------------------------------------------

namespace Courier

/- Taking away a file that is not there changes nothing. -/
theorem Shelf.erase_of_none
    {m : Shelf}
    {key : FileKey}
    (hNone : m key = none) :
    m.erase key = m := by
  funext other
  by_cases hSame : other = key
  · rw [hSame, m.erase_same, hNone]
  · exact m.erase_other hSame

namespace Server

/-
  A deletion is answered with good news and takes one file
  away, or it finds no file and leaves all as they are.
-/
def IsDeletion
    (s' : Server)
    (m : Shelf)
    (fileId : String)
    (key? : Option FileKey)
    (a : Answer) : Prop :=
  (∃ key,
    key? = some key ∧
      a = .fileOk fileId ∧ s'.Keeps (m.erase key)) ∨
    (a = noSuchFile fileId ∧ s'.Keeps m)

variable {s : Server}
variable {m : Shelf}
variable {settings : ClientSettings}
variable {fileId : String}
variable {domain : Option String}
variable {c : Command}

/- The server deletes the file that a command names. -/
theorem isDeletion_process
    (hKeeps : s.Keeps m)
    (hFits : ∀ key ∈ Store.key? fileId domain, FitsKey key)
    (hHere : s.wrongServer? c = none)
    (hVerb : c.hasVerb Command.deleteVerb = true)
    (hText : c.fileId.getD c.entity = fileId)
    (hKey :
      Store.key? fileId c.domain = Store.key? fileId domain) :
    (s.process c).2.IsDeletion m fileId
      (Store.key? fileId domain) (s.process c).1 := by
  rw [process_of_delete hHere hVerb]
  cases hFound : Store.key? fileId domain with
  | none =>
      rw [hFound, ← hText] at hKey
      have hNone := deleteFile_of_none hKeeps hKey
      rw [hText] at hNone
      exact Or.inr hNone
  | some key =>
      rw [hFound, ← hText] at hKey
      rcases
        deleteFile_of_some hKeeps hKey (hFits key hFound) with
        ⟨hAnswer, hKept⟩
      rw [hText] at hAnswer
      cases hThere : m key with
      | some content =>
          rw [hThere] at hAnswer
          exact Or.inl ⟨key, rfl, hAnswer, hKept⟩
      | none =>
          rw [hThere] at hAnswer
          rw [Shelf.erase_of_none hThere] at hKept
          exact Or.inr ⟨hAnswer, hKept⟩

/- The answer to a deletion can be read over a socket. -/
theorem IsDeletion.isReadable
    {s' : Server}
    {key? : Option FileKey}
    {a : Answer}
    (hDeletion : s'.IsDeletion m fileId key? a)
    (hId : Store.IsFileId fileId) :
    a.HoldsOneText ∧
      Line.IsWhole a.entity.toList ∧ a.IsShort := by
  rcases hDeletion with ⟨key, -, rfl, -⟩ | ⟨rfl, -⟩
  · exact isReadable_fileOk 0 hId
  · exact isReadable_noSuchFile hId

end Server

end Courier

------------------------------------------------------------
-- Deletions on the Way
------------------------------------------------------------

namespace Courier

namespace Server

variable {s : Server}
variable {m : Shelf}
variable {t : Option Tunnel}
variable {settings : ClientSettings}
variable {fileId : String}
variable {domain : Option String}
variable {c : Command}

/- A client takes the answer to a deletion as it is. -/
theorem concluded_of_names
    {serverName : String}
    (got : Except TransportError Answer)
    (hNames :
      c.Names serverName Command.deleteVerb fileId domain) :
    Wire.concluded c got = got := by
  have hStop : c.isStop = false :=
    hasVerb_of_names Command.stopVerb hNames
  have hHealth : c.isHealth = false :=
    hasVerb_of_names Command.healthVerb hNames
  simp only [Wire.concluded, hStop, hHealth,
    Bool.false_eq_true, if_false]

/- What a deletion over a socket achieves. -/
theorem bySocket_keeps
    (hSuits : s.Suits settings)
    (hKeeps : s.Keeps m)
    (hId : Store.IsFileId fileId)
    (hFits : ∀ key ∈ Store.key? fileId domain, FitsKey key)
    (hNames :
      c.Names settings.serverName Command.deleteVerb fileId
        domain)
    (hFrames :
      s.FramesFit settings
        (Wire.bySocket (s.network t) settings c).sent) :
    let call := Wire.bySocket (s.network t) settings c
    ((∃ e, call.outcome = .error e) ∧
        (s.after call.sent).Keeps m) ∨
      ∃ a,
        call.outcome = .ok a ∧
          (s.after call.sent).IsDeletion m fileId
            (Store.key? fileId domain) a := by
  intro call
  rcases s.dial_cases t settings c with
    ⟨e, hDial⟩ | ⟨line, frame, k, hLine, hFrame, hDial, hHears⟩
  · have hCall : call = ⟨.error e, []⟩ := by
      simp only [call, Wire.bySocket, hDial]
    rw [hCall, after, s.exchange_nil.1]
    exact Or.inl ⟨⟨e, rfl⟩, hKeeps⟩
  have hCall :
      call =
        ⟨(Wire.receive settings c k).map Prod.fst, frame⟩ := by
    simp only [call, Wire.bySocket, hDial,
      concluded_of_names _ hNames, Connection.sent,
      hHears.written]
  have hSent : call.sent = frame := by
    rw [hCall]
  rw [show Wire.bySocket (s.network t) settings c = call
    from rfl, hSent] at hFrames
  rcases
    exchange_of_delete hSuits hId hNames hLine hFrame
      hFrames.1 with
    ⟨hWritten, hServer⟩
  rcases key?_received hId hNames with ⟨hText, hKey⟩
  have hDeletion :=
    isDeletion_process hKeeps hFits
      (wrongServer?_received hSuits hNames)
      (hasVerb_received Command.deleteVerb hNames) hText hKey
  rcases hDeletion.isReadable hId with
    ⟨hText, hWhole, hShort⟩
  rcases
    hHears.receive_of_isWhole settings c
      (x := .only (s.process c.received).1) hWritten hFrames.2
      hText hWhole hShort with
    ⟨rest, hReceive, -⟩
  refine Or.inr ⟨(s.process c.received).1, ?_, ?_⟩
  · rw [hCall, hReceive]
    rfl
  · rw [hSent, hServer]
    exact hDeletion

end Server

end Courier

------------------------------------------------------------
-- Deletions over HTTP
------------------------------------------------------------

namespace Courier

namespace Server

variable {s : Server}
variable {m : Shelf}
variable {settings : ClientSettings}
variable {fileId : String}
variable {domain : Option String}
variable {c : Command}

/- A request that is refused has no good status. -/
theorem status_of_refusal
    {t : Tunnel}
    {q : Tunnel.Request}
    {refusal : Tunnel.Response}
    (hBody : t.body q = .error refusal) :
    ¬(refusal.status = 200 ∨ refusal.status = 204) := by
  unfold Tunnel.body at hBody
  repeat' split at hBody
  all_goals cases hBody
  all_goals decide

/- The text that a request carries is that of the client. -/
theorem text_of_body
    {t : Tunnel}
    {q : Web.Request}
    {text : String}
    (hBody : t.body (webRequest t q) = .ok text) :
    text = q.body := by
  unfold Tunnel.body at hBody
  repeat' split at hBody
  all_goals cases hBody
  next chars hDecode _ =>
    simp only [webRequest, Utf8.ofText_eq_encode,
      Utf8.decode_encode, Except.ok.injEq] at hDecode
    rw [← hDecode, String.ofList_toList]

/- A command that names a file arrives as JSON. -/
theorem ofJson_of_names
    {serverName verb : String}
    (hNames : c.Names serverName verb fileId domain) :
    Command.ofJson c.toJson = .ok c.arrived := by
  apply Command.ofJson_toJson
  rw [hNames.object]
  nofun

/- The file that such a command names once it has arrived. -/
theorem key?_arrived
    {serverName verb : String}
    (hNames : c.Names serverName verb fileId domain) :
    c.arrived.fileId.getD c.arrived.entity = fileId ∧
      Store.key? fileId c.arrived.domain =
        Store.key? fileId domain := by
  constructor
  · simp [Command.arrived, hNames.fileId]
  · simp [Command.arrived, hNames.domain]

/- A command that names a file is handed to the server. -/
theorem serve_of_names
    {t : Tunnel}
    {serverName verb text : String}
    (s : Server)
    (hNames : c.Names serverName verb fileId domain)
    (hBody :
      t.body (webRequest t (Wire.request settings c)) =
        .ok text) :
    s.serve t (webRequest t (Wire.request settings c)) =
      (Tunnel.reply (s.process c.arrived).1,
        (s.process c.arrived).2) := by
  have hText : text = c.toJson := text_of_body hBody
  simp only [serve, hBody, hText, ofJson_of_names hNames]

/- The answer to a deletion arrives as JSON. -/
theorem IsDeletion.ofJson
    {s' : Server}
    {key? : Option FileKey}
    {a : Answer}
    (hDeletion : s'.IsDeletion m fileId key? a) :
    Answer.ofJson a.toJson = .ok a := by
  apply Answer.ofJson_toJson
  rcases hDeletion with ⟨key, -, rfl, -⟩ | ⟨rfl, -⟩
  · rintro value ⟨⟩
    exact ⟨fileId, rfl⟩
  · nofun

/- What a deletion over HTTP achieves. -/
theorem byTunnel_keeps
    {t : Tunnel}
    (hSuits : s.Suits settings)
    (hKeeps : s.Keeps m)
    (hFits : ∀ key ∈ Store.key? fileId domain, FitsKey key)
    (hNames :
      c.Names settings.serverName Command.deleteVerb fileId
        domain) :
    let outcome :=
      Wire.byTunnel (s.network (some t)) settings c
    let s' :=
      (s.serve t (webRequest t (Wire.request settings c))).2
    ((∃ e, outcome = .error e) ∧ s'.Keeps m) ∨
      ∃ a,
        outcome = .ok a ∧
          s'.IsDeletion m fileId (Store.key? fileId domain)
            a := by
  intro outcome s'
  cases hBody :
    t.body (webRequest t (Wire.request settings c)) with
  | error refusal =>
      have hServe :
          s.serve t (webRequest t (Wire.request settings c)) =
            (refusal, s) := by
        simp only [serve, hBody]
      have hStatus := status_of_refusal hBody
      simp only [outcome, s', Wire.byTunnel, network, hServe,
        hStatus, if_false]
      exact Or.inl ⟨⟨_, rfl⟩, hKeeps⟩
  | ok text =>
      have hServe := s.serve_of_names hNames hBody
      rcases key?_arrived hNames with ⟨hText, hKey⟩
      have hVerb :
          c.arrived.hasVerb Command.deleteVerb = true :=
        hasVerb_of_names Command.deleteVerb hNames
      have hHere : s.wrongServer? c.arrived = none :=
        wrongServer?_of_name
          (hNames.serverName.trans hSuits.name)
      have hDeletion :=
        isDeletion_process hKeeps hFits hHere hVerb hText hKey
      refine Or.inr ⟨(s.process c.arrived).1, ?_, ?_⟩
      · simp only [outcome, Wire.byTunnel, network, hServe,
          Tunnel.reply, true_or, if_true,
          concluded_of_names _ hNames, Wire.answerOf,
          Web.Response.text, Utf8.ofText_eq_encode,
          Utf8.decodeLossy_encode, String.ofList_toList,
          Tunnel.Response.body, Option.map_some,
          Option.getD_some, hDeletion.ofJson]
      · simp only [s', hServe]
        exact hDeletion

end Server

end Courier
