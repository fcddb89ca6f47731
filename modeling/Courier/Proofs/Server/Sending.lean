import Courier.Proofs.Link.File
import Courier.Proofs.Server.Absence

/-
  Files on their way to a client that may stop taking bytes.

  Wherever the client stops, it has the beginning of the
  announcement of the file and of its bytes behind that.
  The temporary copy is removed on every way out, and the
  server is as it was before, but for the number of the next
  copy.

  Key definitions include:
    * `Server.announcement`
    * `Server.Offers`
    * `Server.Recounts`

  Key theorems include:
    * `Server.recounts_send`
    * `Server.downloadResponse_of_offers`
    * `Server.exists_frame_announcement`
    * `Server.taken_of_offers`
    * `Server.download_leaves_no_trace`
-/

------------------------------------------------------------
-- Removing the Copy
------------------------------------------------------------

namespace Courier

namespace Download

/-
  A failure to send is reported whether or not the copy can
  be removed, and a failure to remove it only if it was
  sent.
-/
theorem outcome_streamThen
    (remove :
      TemporaryFiles → Except IoError Unit × TemporaryFiles)
    (d : Download)
    (temp : TemporaryFiles)
    (total size limit : Nat)
    (w : Stream.Writer) :
    (d.streamThen remove temp total size limit w).outcome =
      match (d.copyTo temp total size limit w).outcome with
      | .error e => .error e
      | .ok n => (remove temp).1.map fun _ => n := by
  simp only [streamThen, temp_copyTo]
  cases (d.copyTo temp total size limit w).outcome with
  | error e => rfl
  | ok n =>
      cases (remove temp).1 with
      | error e => rfl
      | ok u => rfl

end Download

namespace Server

/-
  Nothing happened to a server, unless its store will give
  another number to its next copy.
-/
def Recounts
    (s s' : Server) : Prop :=
  s' = s ∨
    ∃ files next,
      s.store = some files ∧
        files.temp.next ≤ next ∧
        s' = { s with store := some (files.counted next) }

variable {s s' : Server}
variable {c : Command}

/- All files and all copies are as they were. -/
theorem Recounts.kept
    (hRecounts : s.Recounts s') :
    s'.tree = s.tree ∧ s'.copies = s.copies := by
  rcases hRecounts with hSame | ⟨files, next, hStore, -, hSame⟩
  · rw [hSame]
    exact ⟨rfl, rfl⟩
  · rw [hSame]
    simp only [tree, copies, hStore]
    exact ⟨rfl, rfl⟩

/- A request for a file leaves no copy, however it ends. -/
theorem recounts_send
    (w : Stream.Writer)
    (hFresh :
      ∀ files, s.store = some files → files.temp.IsFresh) :
    s.Recounts (s.send c w).server := by
  cases hHere : s.wrongServer? c with
  | some refusal =>
      left
      simp only [send, hHere, sendAnswer]
  | none =>
  cases hStore : s.store with
  | none =>
      left
      simp only [send, hHere, hStore, sendAnswer]
  | some files =>
      right
      rcases hFind :
        files.find (c.fileId.getD c.entity) c.domain with
        ⟨found, files'⟩
      rcases
        Store.exists_counted_of_find (hFresh files hStore) hFind
        with ⟨next, hNext, hDropped⟩
      refine ⟨files, next, hStore, hNext, ?_⟩
      rw [← hDropped]
      simp only [send, hHere, hStore, hFind]
      rcases found with e | (_ | d)
      · rfl
      · rfl
      · exact server_sendCopy _ _ _ _

end Server

end Courier

------------------------------------------------------------
-- Announcing a File
------------------------------------------------------------

namespace Courier

namespace Server

/- The answer that goes before the content of a file. -/
def announcement
    (fileId : String)
    (content : Bytes) : Answer :=
  { Answer.fileOk fileId with
    dataLength := UInt64.ofNat content.length }

/-
  The server has the file that a command asks for, it can be
  read, and a temporary copy of it can be made.
-/
structure Offers
    (s : Server)
    (c : Command)
    (key : FileKey)
    (content : Bytes) : Prop where
  here : s.wrongServer? c = none
  asked :
    Store.key? (c.fileId.getD c.entity) c.domain = some key
  file :
    ∃ files,
      s.store = some files ∧
        files.temp.isPresent = true ∧
        files.tree.readFile (Store.pathOf key) = .ok content

variable {s : Server}
variable {c : Command}
variable {key : FileKey}
variable {content : Bytes}

/- A file that is there is announced and sent. -/
theorem downloadResponse_of_offers
    (hOffers : s.Offers c key content) :
    s.downloadResponse c =
      { answer := announcement key.2 content
        payload := content } := by
  rcases hOffers.file with ⟨files, hStore, hPresent, hRead⟩
  rcases TemporaryFiles.exists_create hPresent with
    ⟨copy, temp, hCreate, -⟩
  rw [Store.pathOf] at hRead
  simp only [downloadResponse, hOffers.here, hStore,
    Store.find, hOffers.asked, hCreate, hRead,
    TemporaryFiles.read_put_create hCreate, announcement]

/-
  A file whose name is short enough for the file system can
  be announced in a frame, and the announcement is read as
  it was written.
-/
theorem exists_frame_announcement
    (hId : Store.IsFileId key.2)
    (content : Bytes) :
    ∃ line frame,
      (announcement key.2 content).toLine = .ok line ∧
        Answer.ofLine line =
          .ok (announcement key.2 content) ∧
        Frame.encode line = .ok frame := by
  rcases isReadable_fileOk (UInt64.ofNat content.length) hId
    with ⟨hText, hWhole, hShort⟩
  rcases Answer.ofLine_of_isWhole hText hWhole with
    ⟨line, hLine, hRead⟩
  rcases Answer.exists_frame_of_isShort hShort hLine with
    ⟨frame, hFrame⟩
  exact ⟨line, frame, hLine, hRead, hFrame⟩

end Server

end Courier

------------------------------------------------------------
-- Interrupted Downloads
------------------------------------------------------------

namespace Courier

namespace Server

/-
  A client that asks for a file gets through the beginning
  of its announcement and of the bytes behind that, and all
  of both if it takes them and they get on their way.
-/
theorem taken_of_offers
    {s : Server}
    {c : Command}
    {key : FileKey}
    {content : Bytes}
    (w : Stream.Writer)
    (hOffers : s.Offers c key content) :
    ∃ line frame,
      (announcement key.2 content).toLine = .ok line ∧
        Frame.encode line = .ok frame ∧
        (s.downloadResponse c).taken w <+: frame ++ content ∧
        (w.capacity (frame ++ content).length =
            (frame ++ content).length →
          w.flushOutcome = .done () →
          (s.downloadResponse c).taken w = frame ++ content) := by
  rcases hOffers.file with ⟨files, -, -, hFile⟩
  have hFits := Tree.fits_of_readFile hFile
  have hId :=
    Store.isFileId_of_key? hOffers.asked
      (hFits key.2 (by simp [Store.pathOf]))
  rcases exists_frame_announcement hId content with
    ⟨line, frame, hLine, -, hFrame⟩
  have hTaken :=
    Response.taken_of_encode
      (x := { answer := announcement key.2 content
              payload := content })
      w hLine hFrame
  rw [downloadResponse_of_offers hOffers, hTaken]
  refine ⟨line, frame, hLine, hFrame, ?_, ?_⟩
  · split
    · exact w.accepted_isPrefix (frame ++ content)
    · exact
        (w.accepted_isPrefix frame).trans
          (List.prefix_append frame content)
  · intro hRoom hFlush
    have hFront :
        frame.length ≤ (frame ++ content).length :=
      (List.prefix_append frame content).length_le
    have hFrameRoom : w.capacity frame.length = frame.length :=
      Stream.Writer.capacity_of_le hFront hRoom
    rw [if_pos ⟨hFrameRoom, hFlush⟩]
    exact Stream.Writer.accepted_of_capacity hRoom

/-
  What becomes of a download, wherever the client stops
  taking bytes.

  The server is as it was, and the temporary copy is gone.
  If the server has the file, the client has been sent the
  beginning of its announcement and of its bytes behind
  that, and all of both if there was room for them and they
  got on their way.  The copy is removed on every way out,
  and a failure to send it is what is reported then.
-/
theorem download_leaves_no_trace
    {s : Server}
    {c : Command}
    {input : Stream.Reader}
    (w : Stream.Writer)
    (hRead : (s.request input).outcome = some (.ok c))
    (hVerb : c.hasVerb Command.downloadVerb = true)
    (hFresh :
      ∀ files, s.store = some files → files.temp.IsFresh) :
    s.Recounts (s.handle input w).server ∧
      (s.handle input w).server.tree = s.tree ∧
      (s.handle input w).server.copies = s.copies ∧
      (s.handle input w).writer.written =
        w.written ++ (s.downloadResponse c).taken w ∧
      (∀ key content,
        s.Offers c key content →
          ∃ line frame,
            (announcement key.2 content).toLine = .ok line ∧
              Frame.encode line = .ok frame ∧
              (s.downloadResponse c).taken w <+:
                frame ++ content ∧
              (w.capacity (frame ++ content).length =
                  (frame ++ content).length →
                w.flushOutcome = .done () →
                (s.downloadResponse c).taken w =
                  frame ++ content)) ∧
      ∀ remove (d : Download) temp total size limit,
        let sent :=
          d.streamThen remove temp total size limit w
        sent.temp = (remove temp).2 ∧
          sent.outcome =
            (match
              (d.copyTo temp total size limit w).outcome with
            | .error e => .error e
            | .ok n => (remove temp).1.map fun _ => n) ∧
          ∀ file,
            file ∈ (d.streamTo temp total size limit
                w).temp.files ↔
              file ∈ temp.files ∧ file.1 ≠ d.copy := by
  have hUpload :=
    hasVerb_other Command.uploadVerb hVerb (by decide)
  have hSend :
      (s.handle input w).server = (s.send c w).server := by
    rw [server_handle_of_ok hRead, hUpload, hVerb,
      if_neg Bool.false_ne_true, if_pos rfl]
  have hRecounts :
      s.Recounts (s.handle input w).server := by
    rw [hSend]
    exact recounts_send w hFresh
  have hWritten :=
    s.written_handle_taken w hRead (by rintro e ⟨⟩)
  rw [respond?, hUpload, hVerb, if_neg Bool.false_ne_true,
    if_pos rfl, takenOf] at hWritten
  refine
    ⟨hRecounts, hRecounts.kept.1, hRecounts.kept.2, hWritten,
      ?_, ?_⟩
  · intro key content hOffers
    exact taken_of_offers w hOffers
  · intro remove d temp total size limit sent
    refine
      ⟨Download.temp_streamThen remove d temp total size limit w,
        Download.outcome_streamThen remove d temp total size
          limit w, ?_⟩
    intro file
    rw [Download.streamTo, Download.temp_streamThen]
    exact TemporaryFiles.mem_remove_iff

/- A server that was sent one file. -/
def shelved : Server :=
  { fresh with
    store :=
      some
        (Store.empty.afterAll
          [.store (.whole [97, 98, 99]) "report" none]) }

/- A client that asks for this file. -/
def reportInput : Stream.Reader :=
  lineInput
    ("#|#cmdlink-internal#|#FILE_REQUEST#|#report#|#0#|#" ++
      "report#|#")

/- A client that takes eight bytes at once, and 48 in all. -/
def choked : Stream.Writer :=
  { Stream.Writer.endless with
    chunk := some 8
    room := some 48
    full := .stall }

/- It stops within the bytes of the file. -/
theorem download_leaves_no_trace_choked :
    (shelved.request reportInput).outcome =
        some (.ok (Download.request "report" none)) ∧
      shelved.Offers (Download.request "report" none)
        ("default", "report") [97, 98, 99] ∧
      (shelved.handle reportInput choked).server.tree =
        shelved.tree ∧
      (shelved.handle reportInput choked).server.copies = [] ∧
      ∃ frame,
        (shelved.handle reportInput choked).writer.written <+:
            frame ++ [97, 98, 99] ∧
          (shelved.handle reportInput
              choked).writer.written.length = 48 := by
  have hRead :
      (shelved.request reportInput).outcome =
        some (.ok (Download.request "report" none)) := by
    rfl
  have hFresh :
      ∀ files, shelved.store = some files →
        files.temp.IsFresh := by
    rintro files ⟨⟩
    exact
      Store.isFresh_of_isReached
        ((Store.IsReached.empty 0).afterAll _)
  have hOffers :
      shelved.Offers (Download.request "report" none)
        ("default", "report") [97, 98, 99] := by
    exact ⟨rfl, by decide +kernel, _, rfl, rfl, rfl⟩
  rcases
    download_leaves_no_trace choked hRead rfl hFresh with
    ⟨-, hTree, hCopies, hWritten, hSent, -⟩
  rcases hSent _ _ hOffers with
    ⟨line, frame, -, -, hPrefix, -⟩
  refine
    ⟨hRead, hOffers, hTree, hCopies, frame, ?_,
      by decide +kernel⟩
  rw [hWritten]
  exact hPrefix

end Server

end Courier
