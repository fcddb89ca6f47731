import Courier.Proofs.Link.File
import Courier.Proofs.Link.Transfer

/-
  What a download over a link obtains.

  The answer is about the file as the server keeps it, and
  nothing changes there.

  Key definitions include:
    * `Destination.Obtains`
    * `Server.fileResponse`

  Key theorems include:
    * `Server.downloadResponse_of_names`
    * `Server.download_keeps`
-/

------------------------------------------------------------
-- Downloads
------------------------------------------------------------

namespace Courier

/-
  The outcome of a download of a file with a content, or of
  one that is not there.
-/
def Destination.Obtains
    (d : Destination)
    (a : Answer) : Option Bytes → Prop
  | some content =>
      a.status = .fileOk ∧ d.content = some content
  | none => a.status = .fileNok ∧ a.failure = some .notFound

namespace Server

variable {s : Server}
variable {m : Shelf}
variable {settings : ClientSettings}
variable {fileId verb : String}
variable {domain : Option String}
variable {c : Command}

/-
  The response about a file with a content, or about one
  that is not there.
-/
def fileResponse
    (fileId : String) : Option Bytes → Response
  | none => .only (noSuchFile fileId)
  | some content =>
      { answer :=
          { Answer.fileOk fileId with
            dataLength := UInt64.ofNat content.length }
        payload := content }

/- The response to a command that asks for a file. -/
theorem downloadResponse_of_names
    (hSuits : s.Suits settings)
    (hKeeps : s.Keeps m)
    (hId : Store.IsFileId fileId)
    (hFits : ∀ key ∈ Store.key? fileId domain, FitsKey key)
    (hNames : c.Names settings.serverName verb fileId domain) :
    s.downloadResponse c.received =
      fileResponse fileId
        ((Store.key? fileId domain).bind m) := by
  rcases key?_received hId hNames with ⟨hText, hKey⟩
  have hHere := wrongServer?_received hSuits hNames
  cases hFound : Store.key? fileId domain with
  | none =>
      rw [hFound] at hKey
      rw [downloadResponse_of_none hKeeps hHere
        (by rw [hText, hKey]), hText]
      rfl
  | some key =>
      rw [hFound] at hKey
      rw [downloadResponse_of_some hKeeps hHere
        (by rw [hText, hKey]) (hFits key hFound), hText,
        hId.name_eq hFound, Option.bind_some]
      cases m key with
      | none => rfl
      | some content => rfl

/-
  What a download obtains: the content of the file, or the
  news that it is not there.
-/
theorem Hears.obtains
    {k : Connection}
    {sent : Bytes}
    {rest : Stream.Reader}
    {a : Answer}
    {d d' : Destination}
    {found : Option Bytes}
    (hHears : s.Hears k sent)
    (hId : Store.IsFileId fileId)
    (hSized :
      ∀ content ∈ found, content.length < UInt64.size)
    (hWritable : d.IsWritable)
    (hFrames : s.FramesFit settings sent)
    (hWritten :
      (s.exchange sent).writer.written =
        (fileResponse fileId found).bytes)
    (hReceive : Wire.receive settings c k = .ok (a, rest))
    (hCollect :
      a.status = .fileOk →
        Transfer.collect settings c d a.dataLength.toNat rest =
          (.ok (), d')) :
    d'.Obtains a found := by
  cases found with
  | none =>
      rcases isReadable_noSuchFile hId with
        ⟨hText, hWhole, hShort⟩
      rcases
        hHears.receive_of_isWhole settings c
          (x := .only (noSuchFile fileId)) hWritten hFrames.2
          hText hWhole hShort with
        ⟨rest', hGot, -⟩
      rw [hReceive] at hGot
      cases hGot
      exact ⟨rfl, rfl⟩
  | some content =>
      rcases
        isReadable_fileOk (UInt64.ofNat content.length) hId
        with ⟨hText, hWhole, hShort⟩
      rcases
        hHears.receive_of_isWhole settings c
          hWritten hFrames.2 hText hWhole hShort with
        ⟨rest', hGot, hRest⟩
      rw [hReceive] at hGot
      cases hGot
      have hLength :
          (UInt64.ofNat content.length).toNat =
            content.length :=
        UInt64.toNat_ofNat_of_lt' (hSized content rfl)
      have hDone :
          Transfer.collect settings c d
              (UInt64.ofNat content.length).toNat rest =
            (.ok (), d') :=
        hCollect rfl
      rw [hLength] at hDone
      exact
        ⟨rfl, Transfer.content_of_collect hWritable hRest hDone⟩

/-
  What a download achieves.  If it obtains an answer, that
  is about the file as it is kept, and it changes nothing.
-/
theorem download_keeps
    {t : Option Tunnel}
    {d : Destination}
    (hSuits : s.Suits settings)
    (hKeeps : s.Keeps m)
    (hSized :
      ∀ key, ∀ content ∈ m key, content.length < UInt64.size)
    (hId : Store.IsFileId fileId)
    (hFits : ∀ key ∈ Store.key? fileId domain, FitsKey key)
    (hWritable : d.IsWritable)
    (hFrames :
      s.FramesFit settings
        (Transfer.download (s.network t) settings fileId domain
          d).1.sent) :
    let call :=
      Transfer.download (s.network t) settings fileId domain d
    (s.after call.1.sent).Keeps m ∧
      ∀ a, call.1.outcome = .ok a →
        call.2.Obtains a
          ((Store.key? fileId domain).bind m) := by
  intro call
  have hNames := names_download settings domain hId
  have hSent := s.sent_download t settings fileId domain d
  rw [hSent] at hFrames
  rcases
    s.dial_cases t settings
      (settings.stamp (Download.request fileId domain)) with
    ⟨e, hDial⟩ | ⟨line, frame, k, hLine, hFrame, hDial, hHears⟩
  · have hNone : call.1.sent = [] := by
      rw [hSent, hDial]
    refine ⟨?_, ?_⟩
    · rw [hNone, after, s.exchange_nil.1]
      exact hKeeps
    · intro a hOk
      simp only [call, Transfer.download, hDial] at hOk
      cases hOk
  have hFramed : call.1.sent = frame := by
    rw [hSent, hDial]
  rw [hDial] at hFrames
  rcases
    exchange_of_download hSuits hId hNames hLine hFrame
      hFrames.1 with
    ⟨hWritten, hServer⟩
  rw [downloadResponse_of_names hSuits hKeeps hId hFits hNames]
    at hWritten
  constructor
  · rw [hFramed, hServer]
    exact send_keeps _ hKeeps
  · intro a hOk
    rcases receive_of_download hDial hOk with
      ⟨rest', hReceive, hCollect⟩
    refine
      hHears.obtains hId ?_ hWritable hFrames hWritten hReceive
        hCollect
    intro content hContent
    cases hKey : Store.key? fileId domain with
    | none =>
        rw [hKey] at hContent
        cases hContent
    | some key =>
        rw [hKey] at hContent
        exact hSized key content hContent

end Server

end Courier
