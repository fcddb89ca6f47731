import Courier.Proofs.Link.File
import Courier.Proofs.Link.Transfer

/-
  What an upload over a link achieves.

  Its key gets the bytes of the local file exactly if the
  client is told so.  Otherwise all files of the server stay
  as they are.

  Key theorems include:
    * `Server.receive_upload`
    * `Server.upload_keeps`
-/

------------------------------------------------------------
-- Uploads
------------------------------------------------------------

namespace Courier

namespace Server

variable {s : Server}
variable {m : Shelf}
variable {t : Option Tunnel}
variable {settings : ClientSettings}
variable {files : LocalFiles}
variable {u : Upload}

/- An upload takes no more bytes than it announces. -/
theorem length_uploadedBytes
    {body : Bytes}
    (hBody : Link.uploadedBytes? files u = some body) :
    body.length ≤ u.size.toNat := by
  unfold Link.uploadedBytes? at hBody
  split at hBody
  · cases hBody
  · split at hBody
    · cases hBody
      exact List.length_take_le _ _
    · cases hBody

/- The texts of the command of an upload come back. -/
theorem ofLine_upload
    {line : String}
    (hSuits : s.Suits settings)
    (hLine : (settings.stamp u.toCommand).toLine = .ok line) :
    Command.ofLine line =
        .ok (settings.stamp u.toCommand).received ∨
      ∃ e, Command.ofLine line = .error e := by
  have hId : Line.IsClear Command.internalId.toList := by
    decide
  have hVerb : Line.IsClear Command.uploadVerb.toList := by
    decide
  have hNamed : Command.uploadVerb ≠ "" := by decide
  refine
    Command.ofLine_cases (isNamed_of_isInternal rfl hNamed)
      ?_ hLine ?_
  · intro value hValue
    cases hUser : u.user with
    | none =>
        simp [ClientSettings.stamp, Upload.toCommand, hUser]
          at hValue
    | some user =>
        simp only [ClientSettings.stamp, Upload.toCommand,
          hUser, Option.map_some, Option.mem_def,
          Option.some.injEq] at hValue
        subst hValue
        exact Json.read?_text user
  · simp only [List.forall_mem_cons, List.not_mem_nil,
      false_implies, implies_true, and_true]
    exact ⟨hSuits.endsInHalf, hId.2, hVerb.2, rfl⟩

/- The server has room for an upload that it reads. -/
theorem hasRoom_received
    (settings : ClientSettings)
    (hRoom :
      ∀ kept ∈ s.store,
        ∀ key ∈ Store.key? u.fileName u.domain,
          kept.HasRoom key) :
    ∀ kept ∈ s.store,
      ∀ v ∈
        Upload.ofCommand?
          (settings.stamp u.toCommand).received,
        ∀ key ∈ Store.key? v.fileName v.domain,
          kept.HasRoom key := by
  intro kept hStore v hUpload key hKey
  rcases of_ofCommand? hUpload with ⟨hDomain, hEntity⟩
  have hName := (FileEntity.of_decode?_encode hEntity).1
  apply hRoom kept hStore key
  rw [hName, hDomain, Store.key?_sanitize] at hKey
  rw [← Store.key?_optional]
  exact hKey

/-
  The server takes an upload that it reads in full or not at
  all.
-/
theorem receive_upload
    {body : Bytes}
    {rest : Stream.Reader}
    (hKeeps : s.Keeps m)
    (hRoom :
      ∀ kept ∈ s.store,
        ∀ key ∈ Store.key? u.fileName u.domain,
          kept.HasRoom key)
    (hRest : rest.Holds body) :
    let c := (settings.stamp u.toCommand).received
    ((s.receive c rest).answer.status ≠ .fileOk ∧
        (s.receive c rest).server.Keeps m) ∨
      ∃ key,
        Store.key? u.fileName u.domain = some key ∧
          Tree.Fits key.2 ∧
          u.size.toNat ≤ body.length ∧
          (s.receive c rest).answer = .fileOk key.2 ∧
          (s.receive c rest).server.Keeps
            (m.put key (body.take u.size.toNat)) := by
  intro c
  rcases
    receive_keeps (r := rest) hKeeps
      (hasRoom_received settings hRoom) with
    hRefused | ⟨name, checksum, key, hDecode, hKey, hEnough,
      hAnswer, hKept⟩
  · exact Or.inl hRefused
  have hText : name = FileName.sanitize u.fileName :=
    (FileEntity.of_decode?_encode hDecode).1
  have hPlace : Store.key? u.fileName u.domain = some key := by
    rw [← hKey, hText, Store.key?_sanitize,
      ← Store.key?_optional]
    rfl
  have hFits : Tree.Fits key.2 := by
    rcases hKeeps.store with ⟨kept, hStore, -⟩
    exact
      Store.fits_of_hiddenName
        (hRoom kept hStore key hPlace).fits.2
  have hName : key.2 = FileName.sanitize u.fileName :=
    Store.component?_eq_some (Store.key?_eq_some hPlace).1
  rw [hRest.arrival] at hEnough
  rw [hText, FileName.sanitize_sanitize, ← hName] at hAnswer
  rw [announced, hRest.arrival] at hKept
  exact Or.inr ⟨key, hPlace, hFits, hEnough, hAnswer, hKept⟩

/- A client is told that its upload is stored. -/
theorem Hears.receive_fileOk
    {k : Connection}
    {sent : Bytes}
    {fileId : String}
    (c : Command)
    (hHears : s.Hears k sent)
    (hId : Store.IsFileId fileId)
    (hFrames : s.FramesFit settings sent)
    (hWritten :
      (s.exchange sent).writer.written =
        (Response.only (.fileOk fileId)).bytes) :
    (Wire.receive settings c k).map Prod.fst =
      .ok (.fileOk fileId) := by
  rcases isReadable_fileOk 0 hId with
    ⟨hText, hWhole, hShort⟩
  rcases
    hHears.receive_of_isWhole settings c
      (x := .only (.fileOk fileId)) hWritten hFrames.2 hText
      hWhole hShort with
    ⟨rest, hGot, -⟩
  rw [hGot]
  rfl

/-
  What an upload achieves.  If it is answered with good news
  its key has the bytes that were taken from the local file,
  and else all files are as they were.
-/
theorem upload_keeps
    (hSuits : s.Suits settings)
    (hKeeps : s.Keeps m)
    (hRoom :
      ∀ kept ∈ s.store,
        ∀ key ∈ Store.key? u.fileName u.domain,
          kept.HasRoom key)
    (hFrames :
      s.FramesFit settings
        (Transfer.upload (s.network t) files settings u).sent) :
    let call :=
      Transfer.upload (s.network t) files settings u
    ((∀ a, call.outcome = .ok a → a.status ≠ .fileOk) ∧
        (s.after call.sent).Keeps m) ∨
      ∃ key body,
        Store.key? u.fileName u.domain = some key ∧
          Link.uploadedBytes? files u = some body ∧
          call.outcome = .ok (.fileOk key.2) ∧
          Tree.Fits key.2 ∧
          (s.after call.sent).Keeps (m.put key body) := by
  intro call
  rcases s.upload_cases t files settings u with
    ⟨e, hCall⟩ | ⟨line, frame, body, hLine, hFrame, hSent, hEnd⟩
  · have hServer := s.exchange_nil.1
    simp only [call, hCall]
    refine Or.inl ⟨?_, ?_⟩
    · rintro a ⟨⟩
    · rw [after, hServer]
      exact hKeeps
  rw [hSent] at hFrames
  have hOutcome :
      ∀ x : Response,
        (s.exchange (frame ++ body)).writer.written = x.bytes →
        x.answer.status ≠ .fileOk →
        ∀ a, call.outcome = .ok a → a.status ≠ .fileOk := by
    intro x hBytes hStatus a hOk
    rcases hEnd with
      ⟨-, e, hError⟩ | ⟨-, k, hHears, hReceive⟩
    · rw [hError] at hOk
      cases hOk
    · rw [hReceive] at hOk
      exact
        hHears.not_fileOk_receive hFrames hBytes hStatus hOk
  rcases ofLine_upload hSuits hLine with
    hRead | ⟨e, hError⟩
  · rcases exchange_of_ofLine hFrame hFrames.1 hRead with
      ⟨rest, hRest, hWritten, hServer⟩
    have hVerb :
        (settings.stamp u.toCommand).received.hasVerb
          Command.uploadVerb = true :=
      rfl
    rw [respond?, if_pos hVerb] at hWritten
    rw [if_pos hVerb] at hServer
    rw [hSent, hServer]
    rcases receive_upload hKeeps hRoom hRest with
      ⟨hStatus, hKept⟩ |
        ⟨key, hKey, hFits, hEnough, hAnswer, hKept⟩
    · exact
        Or.inl ⟨hOutcome (.only _) hWritten hStatus, hKept⟩
    rcases hEnd with
      ⟨hShort, -⟩ | ⟨hBody, k, hHears, hReceive⟩
    · exact absurd hShort (Nat.not_lt.mpr hEnough)
    have hId := Store.isFileId_of_key? hKey hFits
    rw [hAnswer] at hWritten
    rw [List.take_of_length_le (length_uploadedBytes hBody)]
      at hKept
    refine Or.inr ⟨key, body, hKey, hBody, ?_, hFits, hKept⟩
    rw [hReceive]
    exact hHears.receive_fileOk _ hId hFrames hWritten
  · rcases exchange_of_error hFrame hFrames.1 hError with
      ⟨hWritten, hServer⟩
    have hStatus : Status.error ≠ Status.fileOk := by decide
    rw [hSent, hServer]
    exact
      Or.inl
        ⟨hOutcome (.only (.error .malformed e.message)) hWritten
          hStatus, hKeeps⟩

end Server

end Courier
