import Courier.Link.History
import Courier.Proofs.Link.Exchange

/-
  Uploads and downloads on a link, as the client makes them.

  An upload sends a command and as many bytes of its file as
  were announced, or it fails.  A download leaves at its
  destination the bytes that follow the answer.

  Key definitions include:
    * `Destination.IsWritable`

  Key theorems include:
    * `Server.upload_cases`
    * `Server.receive_of_download`
    * `Transfer.copied_of_collect`
-/

------------------------------------------------------------
-- Uploads
------------------------------------------------------------

namespace Courier

namespace Server

variable {s : Server}
variable {settings : ClientSettings}
variable {c : Command}
variable {u : Upload}
variable {k : Connection}
variable {source : Stream.Reader}
variable {sent : Bytes}

/- The bytes that a file has for an upload in time. -/
def bodyOf
    (settings : ClientSettings)
    (c : Command)
    (u : Upload)
    (source : Stream.Reader) : Bytes :=
  (source.arrival (settings.timeLimit c)).bytes.take
    u.size.toNat

/-
  The bytes of an upload are sent.  It fails if they are too
  few, and else it ends with the answer that it receives.
-/
theorem Hears.sendBytes_cases
    (settings : ClientSettings)
    (c : Command)
    (u : Upload)
    (path : String)
    (source : Stream.Reader)
    (hHears : s.Hears k sent) :
    (Transfer.sendBytes settings c u path source k).sent =
        sent ++ bodyOf settings c u source ∧
      (((bodyOf settings c u source).length < u.size.toNat ∧
          ∃ e,
            (Transfer.sendBytes settings c u path source
                k).outcome = .error e) ∨
        (bodyOf settings c u source =
            source.content.take u.size.toNat ∧
          ∃ k',
            s.Hears k' (sent ++ bodyOf settings c u source) ∧
              (Transfer.sendBytes settings c u path source
                  k).outcome =
                (Wire.receive settings c k').map
                  Prod.fst)) := by
  unfold bodyOf
  simp only [Transfer.sendBytes]
  generalize settings.timeLimit c = limit
  by_cases hFew :
      (source.arrival limit).bytes.length < u.size.toNat
  · rcases
      Copy.through_eq_error settings.bufferSize.toNat
        hHears.isOpen hFew with
      ⟨hOutcome, hWritten⟩
    rw [hHears.written] at hWritten
    rw [List.take_of_length_le (Nat.le_of_lt hFew), hOutcome]
    exact ⟨hWritten, Or.inl ⟨hFew, _, rfl⟩⟩
  · rcases
      Copy.through_eq_ok settings.bufferSize.toNat
        hHears.isOpen (Nat.not_lt.mp hFew) with
      ⟨waited, r, w, hCopy, hOpen, hWritten, -⟩
    rw [hHears.written] at hWritten
    rw [hCopy]
    refine
      ⟨hWritten,
        Or.inr
          ⟨?_, { k with writer := w },
            ⟨hOpen, hWritten, hHears.reply⟩, rfl⟩⟩
    rcases source.arrivalFrom_prefix limit 0 with
      ⟨rest, hContent⟩
    rw [← hContent]
    exact
      (List.take_append_of_le_length (Nat.not_lt.mp hFew)).symm

/-
  An upload sends nothing and fails, or it sends a command
  and a body.  It fails if the body is too short, and else
  it ends with the answer that it receives.
-/
theorem upload_cases
    (s : Server)
    (t : Option Tunnel)
    (files : LocalFiles)
    (settings : ClientSettings)
    (u : Upload) :
    (∃ e,
      Transfer.upload (s.network t) files settings u =
        ⟨.error e, []⟩) ∨
      ∃ line frame body,
        (settings.stamp u.toCommand).toLine = .ok line ∧
          Frame.encode line = .ok frame ∧
          (Transfer.upload (s.network t) files settings
              u).sent = frame ++ body ∧
          ((body.length < u.size.toNat ∧
              ∃ e,
                (Transfer.upload (s.network t) files settings
                    u).outcome = .error e) ∨
            (Link.uploadedBytes? files u = some body ∧
              ∃ k,
                s.Hears k (frame ++ body) ∧
                  (Transfer.upload (s.network t) files settings
                      u).outcome =
                    (Wire.receive settings
                      (settings.stamp u.toCommand) k).map
                      Prod.fst)) := by
  simp only [Transfer.upload, Link.uploadedBytes?]
  cases hPath : u.source with
  | none => exact Or.inl ⟨_, rfl⟩
  | some path =>
  cases hSource : files path with
  | error e =>
      simp only [hSource]
      exact Or.inl ⟨_, rfl⟩
  | ok source =>
  simp only [hSource]
  rcases s.dial_cases t settings (settings.stamp u.toCommand)
    with
    ⟨e, hDial⟩ | ⟨line, frame, k, hLine, hFrame, hDial, hHears⟩
  · rw [hDial]
    exact Or.inl ⟨e, rfl⟩
  · rw [hDial]
    rcases
      hHears.sendBytes_cases settings
        (settings.stamp u.toCommand) u path source with
      ⟨hSent, hShort | ⟨hBody, k', hHears', hOutcome⟩⟩
    · exact
        Or.inr
          ⟨line, frame, _, hLine, hFrame, hSent, Or.inl hShort⟩
    · refine
        Or.inr
          ⟨line, frame, _, hLine, hFrame, hSent,
            Or.inr ⟨?_, k', hHears', hOutcome⟩⟩
      rw [hBody]

end Server

end Courier

------------------------------------------------------------
-- Downloads
------------------------------------------------------------

namespace Courier

/- A new file beside the destination takes all bytes. -/
structure Destination.IsWritable
    (d : Destination) : Prop where
  isOpen : d.disk.IsOpen
  taken : d.disk.taken = []

namespace Transfer

/- A destination that takes a new file has its content. -/
theorem content_of_replace
    {d d' : Destination}
    {n : Nat}
    (hReplace : d.replace n = (.ok (), d')) :
    ∃ content,
      d.temp.read n = .ok content ∧
        d'.content = some content := by
  simp only [Destination.replace] at hReplace
  split at hReplace
  · cases hReplace
  · cases hReplace
  · next content _ hRead =>
      cases hReplace
      exact ⟨content, hRead, rfl⟩

/- A file that was collected is what was copied. -/
theorem copied_of_collect
    {settings : ClientSettings}
    {c : Command}
    {d d' : Destination}
    {count : Nat}
    {r : Stream.Reader}
    (hCollect :
      collect settings c d count r = (.ok (), d')) :
    let copied :=
      Copy.through count settings.bufferSize.toNat
        (settings.timeLimit c) r d.disk
    (∃ total, copied.outcome = .ok total) ∧
      d'.content = some copied.writer.written := by
  intro copied
  simp only [collect] at hCollect
  split at hCollect
  · cases hCollect
  · next n temp hCreate =>
      split at hCollect
      · cases hCollect
      · next total hCopied =>
          refine ⟨⟨total, hCopied⟩, ?_⟩
          split at hCollect
          · next hReplace =>
              cases hCollect
              rcases content_of_replace hReplace with
                ⟨content, hRead, hContent⟩
              rw [TemporaryFiles.read_put_create hCreate]
                at hRead
              cases hRead
              exact hContent
          · cases hCollect

/- All bytes that are there are collected. -/
theorem content_of_collect
    {settings : ClientSettings}
    {c : Command}
    {d d' : Destination}
    {r : Stream.Reader}
    {payload : Bytes}
    (hWritable : d.IsWritable)
    (hHolds : r.Holds payload)
    (hCollect :
      collect settings c d payload.length r = (.ok (), d')) :
    d'.content = some payload := by
  have hEnough :
      payload.length ≤
        (r.arrival (settings.timeLimit c)).bytes.length := by
    simp only [hHolds.arrival, Nat.le_refl]
  rcases
    Copy.through_eq_ok settings.bufferSize.toNat
      hWritable.isOpen hEnough with
    ⟨waited, r', w, hCopy, -, hWritten, -⟩
  have hNone : d.disk.written = [] := by
    rw [Stream.Writer.written, hWritable.taken]
    rfl
  rw [hHolds.arrival, List.take_length, hNone,
    List.nil_append] at hWritten
  rw [(copied_of_collect hCollect).2, hCopy]
  exact congrArg some hWritten

end Transfer

namespace Server

variable {s : Server}
variable {t : Option Tunnel}
variable {settings : ClientSettings}
variable {fileId : String}
variable {domain : Option String}
variable {d d' : Destination}

/- A download sends its command and nothing else. -/
theorem sent_download
    (s : Server)
    (t : Option Tunnel)
    (settings : ClientSettings)
    (fileId : String)
    (domain : Option String)
    (d : Destination) :
    (Transfer.download (s.network t) settings fileId domain
        d).1.sent =
      (Wire.dial (s.network t) settings
        (settings.stamp
          (Download.request fileId domain))).sent := by
  simp only [Transfer.download]
  split
  · rfl
  · split
    · rfl
    · split
      · rfl
      · split <;> rfl

/-
  A download that obtains an answer has received it, and has
  collected what follows if that is good news.
-/
theorem receive_of_download
    {k : Connection}
    {frame : Bytes}
    {a : Answer}
    (hDial :
      Wire.dial (s.network t) settings
          (settings.stamp (Download.request fileId domain)) =
        ⟨.ok k, frame⟩)
    (hOutcome :
      (Transfer.download (s.network t) settings fileId domain
        d).1.outcome = .ok a) :
    ∃ rest,
      Wire.receive settings
          (settings.stamp (Download.request fileId domain)) k =
          .ok (a, rest) ∧
        (a.status = .fileOk →
          Transfer.collect settings
              (settings.stamp (Download.request fileId domain))
              d a.dataLength.toNat rest =
            (.ok (),
              (Transfer.download (s.network t) settings fileId
                domain d).2)) := by
  simp only [Transfer.download, hDial] at hOutcome ⊢
  cases hReceive :
    Wire.receive settings
      (settings.stamp (Download.request fileId domain)) k with
  | error e =>
      rw [hReceive] at hOutcome
      cases hOutcome
  | ok got =>
      rcases got with ⟨found, rest⟩
      rw [hReceive] at hOutcome
      by_cases hStatus : found.status = .fileOk
      · simp only [ne_eq, hStatus, not_true, if_false]
          at hOutcome ⊢
        split at hOutcome
        · next d' hCollect =>
            cases hOutcome
            refine ⟨rest, rfl, fun _ => ?_⟩
            rw [hCollect]
        · cases hOutcome
      · simp only [ne_eq, hStatus, not_false_iff, if_true]
          at hOutcome
        cases hOutcome
        exact ⟨rest, rfl, fun h => absurd h hStatus⟩

end Server

end Courier
