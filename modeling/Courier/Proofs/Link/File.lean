import Courier.Proofs.Envelope.Received
import Courier.Proofs.Link.Exchange
import Courier.Proofs.Server.Repeated

/-
  The names, commands and answers that go over a link for a
  file.

  A client and a server that suit each other agree on the
  command and on the file that it names, and what the server
  says about a file comes back as it was said.

  Key definitions include:
    * `Store.IsFileId`
    * `Server.Suits`
    * `Server.FramesFit`
    * `Command.Names`

  Key theorems include:
    * `Server.isReadable_fileOk`
    * `Server.isReadable_noSuchFile`
    * `Server.ofLine_of_names`
    * `Server.key?_received`
    * `Server.exchange_of_download`
    * `Server.exchange_of_delete`
-/

------------------------------------------------------------
-- Names
------------------------------------------------------------

namespace Courier

/- A text without the sign has no part of a separator. -/
theorem Line.endsInHalf_of_not_mem
    {chars : List Char}
    (hNot : '#' ∉ chars) :
    endsInHalf chars = false := by
  rw [Bool.eq_false_iff, Ne, endsInHalf,
    List.isSuffixOf_iff_suffix]
  intro hSuffix
  exact hNot (hSuffix.subset (by simp))

/- The name and the checksum come back from a file entity. -/
theorem FileEntity.of_decode?_encode
    {fileName checksum name sum : String}
    (hEntity :
      decode? (encode fileName checksum) = some (name, sum)) :
    name = FileName.sanitize fileName ∧ sum = checksum := by
  have hSafe :
      ∀ c ∈ (FileName.sanitize fileName).toList,
        (c != divider) = true := by
    intro c hMem
    rw [FileName.sanitize, String.toList_ofList,
      List.mem_map] at hMem
    rcases hMem with ⟨d, -, rfl⟩
    have hIs := FileName.isSafe_safeChar d
    rw [bne_iff_ne]
    intro hSame
    rw [hSame] at hIs
    cases hIs
  have hCut :
      Split.cut? divider (encode fileName checksum).toList =
        some
          ((FileName.sanitize fileName).toList,
            checksum.toList) := by
    rw [encode, String.toList_ofList, Split.cut?,
      List.dropWhile_append_of_pos hSafe,
      List.takeWhile_append_of_pos hSafe]
    simp
  rw [decode?, hCut] at hEntity
  simp only at hEntity
  split at hEntity
  · cases hEntity
  · cases hEntity
    simp only [String.ofList_toList, and_self]

namespace Store

/- No domain and an empty one lead to the same file. -/
theorem key?_optional
    (fileId : String)
    (domain : Option String) :
    key? fileId (Line.optional (domain.getD "")) =
      key? fileId domain := by
  have hSame :
      domainComponent? (Line.optional (domain.getD "")) =
        domainComponent? domain := by
    rcases domain with _ | text
    · rfl
    · by_cases hEmpty : text = ""
      · subst hEmpty
        rfl
      · rw [Option.getD_some, Line.optional,
          if_neg (by simpa using hEmpty)]
  rw [key?, key?, hSame]

/-
  The text is the id of a file: it is safe as it is, and
  short enough for the file system.
-/
structure IsFileId
    (fileId : String) : Prop where
  component : component? fileId = some fileId
  fits : Tree.Fits fileId

variable {fileId : String}

/- The name of a key that fits is the id of a file. -/
theorem isFileId_of_key?
    {name : String}
    {domain : Option String}
    {key : FileKey}
    (hKey : key? name domain = some key)
    (hFits : Tree.Fits key.2) :
    IsFileId key.2 := by
  have hName := (key?_eq_some hKey).1
  refine ⟨?_, hFits⟩
  have hSafe := component?_eq_some hName
  rw [hSafe, component?_sanitize, ← hSafe]
  exact hName

/- The id of a file has no sign of a separator. -/
theorem IsFileId.isBare
    (hId : IsFileId fileId) :
    Line.IsBare fileId.toList := by
  rw [component?_eq_some hId.component]
  exact Line.isBare_sanitize fileId

/- The id of a file is not empty. -/
theorem IsFileId.ne_empty
    (hId : IsFileId fileId) :
    fileId ≠ "" :=
  (ne_empty_of_component? hId.component).1

/- The id of a file is its own safe form. -/
theorem IsFileId.sanitize_eq
    (hId : IsFileId fileId) :
    FileName.sanitize fileId = fileId :=
  (component?_eq_some hId.component).symm

/- The id of a file is short. -/
theorem IsFileId.length_le
    (hId : IsFileId fileId) :
    fileId.length ≤ 255 :=
  Tree.length_le_of_fits hId.fits

/- The name in the key of a file is its id. -/
theorem IsFileId.name_eq
    {domain : Option String}
    {key : FileKey}
    (hId : IsFileId fileId)
    (hKey : key? fileId domain = some key) :
    key.2 = fileId := by
  have hName := (key?_eq_some hKey).1
  rw [hId.component] at hName
  exact (Option.some.inj hName).symm

end Store

end Courier

------------------------------------------------------------
-- Answers About Files
------------------------------------------------------------

namespace Courier

namespace Server

variable {fileId : String}

/-
  Good news about a file are an answer with one short and
  whole text.
-/
theorem isReadable_fileOk
    (dataLength : UInt64)
    (hId : Store.IsFileId fileId) :
    let a : Answer :=
      { Answer.fileOk fileId with dataLength := dataLength }
    a.HoldsOneText ∧
      Line.IsWhole a.entity.toList ∧ a.IsShort := by
  have hTells := tells_fileOk dataLength hId.component
  have hLength := hId.length_le
  refine
    ⟨hTells.holdsOneText, hTells.isWhole_iff.mpr nofun, ?_, ?_,
      ?_⟩
  · show fileId.length ≤ 300
    omega
  · show fileId.length ≤ 300
    omega
  · rintro value ⟨⟩
    exact ⟨fileId, rfl, by omega⟩

/- So are the news that a file is not there. -/
theorem isReadable_noSuchFile
    (hId : Store.IsFileId fileId) :
    (noSuchFile fileId).HoldsOneText ∧
      Line.IsWhole (noSuchFile fileId).entity.toList ∧
      (noSuchFile fileId).IsShort := by
  have hWhole := Line.isWhole_of_isBare hId.isBare
  have hClear : Line.IsClear fileId.toList :=
    ⟨hWhole.1.1, hWhole.2⟩
  have hTells := tells_noSuchFile hClear
  have hLength := hId.length_le
  refine ⟨hTells.holdsOneText, ?_, ?_, ?_, nofun⟩
  · rw [hTells.isWhole_iff]
    rintro text ⟨⟩
    exact hWhole
  · show ("file " ++ fileId ++ " not found").length ≤ 300
    rw [String.length_append, String.length_append]
    have hFront : "file ".length = 5 := rfl
    have hBack : " not found".length = 10 := rfl
    omega
  · exact Nat.zero_le _

end Server

end Courier

------------------------------------------------------------
-- Commands of a Client
------------------------------------------------------------

namespace Courier

namespace Server

/-
  The client calls the server by its name, which has no sign
  of a separator.
-/
structure Suits
    (s : Server)
    (settings : ClientSettings) : Prop where
  name : settings.serverName = s.name
  noSign : '#' ∉ s.name.toList

/-
  The frame that is sent and the frame that comes back are
  not too large for those who read them.
-/
def FramesFit
    (s : Server)
    (settings : ClientSettings)
    (sent : Bytes) : Prop :=
  Frame.size sent ≤ s.maxMessageSize ∧
    Frame.size (s.exchange sent).writer.written ≤
      settings.maxMessageSize.toNat

variable {s : Server}
variable {settings : ClientSettings}
variable {c : Command}

/- Where all frames are taken, they fit. -/
theorem framesFit_of_eq
    (sent : Bytes)
    (hServer : s.maxMessageSize = Frame.maxLength)
    (hSettings :
      settings.maxMessageSize.toNat = Frame.maxLength) :
    s.FramesFit settings sent := by
  rw [FramesFit, hServer, hSettings]
  exact ⟨Frame.size_le _, Frame.size_le _⟩

/- A command that bears the name of the server is for it. -/
theorem wrongServer?_of_name
    (hName : c.serverName = s.name) :
    s.wrongServer? c = none := by
  simp [wrongServer?, hName]

/- A command to the server itself with a verb is named. -/
theorem isNamed_of_isInternal
    (hId : c.dispatcherId = Command.internalId)
    (hName : c.name ≠ "") :
    c.IsNamed :=
  ⟨by rw [hId]; decide, hName⟩

/- The name of the server can be told from what follows. -/
theorem Suits.endsInHalf
    (hSuits : s.Suits settings) :
    Line.endsInHalf settings.serverName.toList = false := by
  rw [hSuits.name]
  exact Line.endsInHalf_of_not_mem hSuits.noSign

/- An answer that is not good news is not taken for it. -/
theorem Hears.not_fileOk_receive
    {k : Connection}
    {sent : Bytes}
    {x : Response}
    {a : Answer}
    (hHears : s.Hears k sent)
    (hFrames : s.FramesFit settings sent)
    (hWritten : (s.exchange sent).writer.written = x.bytes)
    (hStatus : x.answer.status ≠ .fileOk)
    (hReceive :
      (Wire.receive settings c k).map Prod.fst = .ok a) :
    a.status ≠ .fileOk := by
  rcases
    hHears.receive_cases settings c hWritten hFrames.2 with
    ⟨e, hError⟩ | ⟨found, rest, hOk, hSame⟩
  · rw [hError] at hReceive
    cases hReceive
  · rw [hOk] at hReceive
    cases hReceive
    rw [hSame]
    exact hStatus

end Server

end Courier

------------------------------------------------------------
-- Commands That Name a File
------------------------------------------------------------

namespace Courier

/-
  The command goes to the server itself, with a verb for the
  file with an id.
-/
structure Command.Names
    (c : Command)
    (serverName verb fileId : String)
    (domain : Option String) : Prop where
  serverName : c.serverName = serverName
  dispatcherId : c.dispatcherId = internalId
  name : c.name = verb
  entity : c.entity = fileId
  fileId : c.fileId = some fileId
  domain : c.domain = domain
  object : c.object = none

namespace Server

variable {s : Server}
variable {settings : ClientSettings}
variable {fileId verb : String}
variable {domain : Option String}
variable {c : Command}

/- The command that asks for a file names it. -/
theorem names_download
    (settings : ClientSettings)
    (domain : Option String)
    (hId : Store.IsFileId fileId) :
    (settings.stamp (Download.request fileId domain)).Names
      settings.serverName Command.downloadVerb fileId domain :=
  ⟨rfl, rfl, rfl, hId.sanitize_eq, rfl, rfl, rfl⟩

/- The command that deletes a file names it. -/
theorem names_delete
    {d : Delete}
    (settings : ClientSettings)
    (hId : Store.IsFileId d.fileId) :
    (settings.stamp d.toCommand).Names
      settings.serverName Command.deleteVerb d.fileId
      d.domain :=
  ⟨rfl, rfl, rfl, hId.sanitize_eq, rfl, rfl, rfl⟩

/-
  The line of a command that names a file reads back, for
  its only open end is the domain, and nothing follows that.
-/
theorem ofLine_of_names
    {line : String}
    (hSuits : s.Suits settings)
    (hId : Store.IsFileId fileId)
    (hNames : c.Names settings.serverName verb fileId domain)
    (hVerb : verb ≠ "" ∧ Line.endsInHalf verb.toList = false)
    (hLine : c.toLine = .ok line) :
    Command.ofLine line = .ok c.received := by
  have hClosed := (Line.isWhole_of_isBare hId.isBare).2
  have hInternal :
      Line.endsInHalf Command.internalId.toList = false := by
    decide
  have hNamed : c.name ≠ "" := by
    rw [hNames.name]
    exact hVerb.1
  refine
    Command.ofLine_of_closed
      (isNamed_of_isInternal hNames.dispatcherId hNamed) ?_
      hLine ?_
  · rw [hNames.object]
    nofun
  · simp only [Line.followed, hNames.object, Command.fields,
      List.dropLast, List.forall_mem_cons, List.not_mem_nil,
      false_implies, implies_true, and_true,
      hNames.serverName, hNames.dispatcherId, hNames.name,
      hNames.entity, hNames.fileId, Option.getD_some]
    exact
      ⟨hSuits.endsInHalf, hInternal, hVerb.2, hClosed,
        Line.endsInHalf_toString _, hClosed⟩

/- The server takes such a command for its own. -/
theorem wrongServer?_received
    (hSuits : s.Suits settings)
    (hNames : c.Names settings.serverName verb fileId domain) :
    s.wrongServer? c.received = none :=
  wrongServer?_of_name (hNames.serverName.trans hSuits.name)

/- Such a command has its verb and no other. -/
theorem hasVerb_of_names
    {serverName : String}
    (other : String)
    (hNames : c.Names serverName verb fileId domain) :
    c.hasVerb other = (verb == other) := by
  simp [Command.hasVerb, Command.isInternal,
    hNames.dispatcherId, hNames.name]

/- It keeps its verb on its way. -/
theorem hasVerb_received
    {serverName : String}
    (other : String)
    (hNames : c.Names serverName verb fileId domain) :
    c.received.hasVerb other = (verb == other) := by
  rw [← hasVerb_of_names other hNames]
  rfl

/- The file that such a command names once it has arrived. -/
theorem key?_received
    {serverName : String}
    (hId : Store.IsFileId fileId)
    (hNames : c.Names serverName verb fileId domain) :
    c.received.fileId.getD c.received.entity = fileId ∧
      Store.key? fileId c.received.domain =
        Store.key? fileId domain := by
  have hSome : c.received.fileId = some fileId := by
    simp [Command.received, hNames.fileId, Line.optional,
      hId.ne_empty]
  constructor
  · rw [hSome, Option.getD_some]
  · rw [← hNames.domain]
    exact Store.key?_optional fileId c.domain

end Server

end Courier

------------------------------------------------------------
-- Commands That Have Arrived
------------------------------------------------------------

namespace Courier

namespace Server

variable {s : Server}
variable {settings : ClientSettings}
variable {fileId verb : String}
variable {domain : Option String}
variable {c : Command}
variable {line : String}
variable {frame : Bytes}

/- A command that names a file is carried out as it was sent. -/
theorem exchange_of_names
    (hSuits : s.Suits settings)
    (hId : Store.IsFileId fileId)
    (hNames : c.Names settings.serverName verb fileId domain)
    (hVerb : verb ≠ "" ∧ Line.endsInHalf verb.toList = false)
    (hLine : c.toLine = .ok line)
    (hFrame : Frame.encode line = .ok frame)
    (hFits : Frame.size frame ≤ s.maxMessageSize) :
    ∃ rest : Stream.Reader,
      (s.exchange frame).writer.written =
          bytesOf (s.respond? rest (.ok c.received)) ∧
        s.after frame =
          if verb == Command.uploadVerb then
            (s.receive c.received rest).server
          else if verb == Command.downloadVerb then
            (s.send c.received .endless).server
          else
            (s.process c.received).2 := by
  rw [← List.append_nil frame] at hFits ⊢
  rcases
    exchange_of_ofLine hFrame hFits
      (ofLine_of_names hSuits hId hNames hVerb hLine) with
    ⟨rest, -, hWritten, hServer⟩
  rw [hasVerb_received _ hNames, hasVerb_received _ hNames]
    at hServer
  exact ⟨rest, hWritten, hServer⟩

/- A request for a file is answered with it or with a reason. -/
theorem exchange_of_download
    (hSuits : s.Suits settings)
    (hId : Store.IsFileId fileId)
    (hNames :
      c.Names settings.serverName Command.downloadVerb fileId
        domain)
    (hLine : c.toLine = .ok line)
    (hFrame : Frame.encode line = .ok frame)
    (hFits : Frame.size frame ≤ s.maxMessageSize) :
    (s.exchange frame).writer.written =
        (s.downloadResponse c.received).bytes ∧
      s.after frame = (s.send c.received .endless).server := by
  have hVerb :
      Command.downloadVerb ≠ "" ∧
        Line.endsInHalf Command.downloadVerb.toList = false := by
    decide
  rcases
    exchange_of_names hSuits hId hNames hVerb hLine hFrame
      hFits with
    ⟨rest, hWritten, hServer⟩
  have hUpload :
      (Command.downloadVerb == Command.uploadVerb) = false := by
    decide
  rw [respond?, hasVerb_received _ hNames,
    hasVerb_received _ hNames, hUpload, beq_self_eq_true]
    at hWritten
  rw [hUpload, beq_self_eq_true] at hServer
  exact ⟨hWritten, hServer⟩

/- A deletion is answered with what came of it. -/
theorem exchange_of_delete
    (hSuits : s.Suits settings)
    (hId : Store.IsFileId fileId)
    (hNames :
      c.Names settings.serverName Command.deleteVerb fileId
        domain)
    (hLine : c.toLine = .ok line)
    (hFrame : Frame.encode line = .ok frame)
    (hFits : Frame.size frame ≤ s.maxMessageSize) :
    (s.exchange frame).writer.written =
        (Response.only (s.process c.received).1).bytes ∧
      s.after frame = (s.process c.received).2 := by
  have hVerb :
      Command.deleteVerb ≠ "" ∧
        Line.endsInHalf Command.deleteVerb.toList = false := by
    decide
  rcases
    exchange_of_names hSuits hId hNames hVerb hLine hFrame
      hFits with
    ⟨rest, hWritten, hServer⟩
  have hUpload :
      (Command.deleteVerb == Command.uploadVerb) = false := by
    decide
  have hDownload :
      (Command.deleteVerb == Command.downloadVerb) = false := by
    decide
  have hStop : c.received.isStop = false :=
    hasVerb_received Command.stopVerb hNames
  rw [respond?, hasVerb_received _ hNames,
    hasVerb_received _ hNames, hUpload, hDownload, hStop]
    at hWritten
  rw [hUpload, hDownload] at hServer
  exact ⟨hWritten, hServer⟩

end Server

end Courier
