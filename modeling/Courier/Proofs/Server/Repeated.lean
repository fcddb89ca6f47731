import Courier.Proofs.Envelope.Complaint
import Courier.Proofs.Server.Upload
import Courier.Proofs.Storage.Failure

/-
  What a server repeats in its own answers.

  An answer that the server makes itself says one thing in
  fixed words, and in some of them it repeats a text that it
  got from the other side.  It stays whole exactly if that
  text does.

  Key definitions include:
    * `Answer.Tells`
    * `Server.dispatched?`
    * `Server.repeated?`

  Key theorems include:
    * `Server.tells_receive`
    * `Server.tells_downloadResponse`
    * `Server.tells_processInternal`
    * `Server.respond?_cases`
-/

------------------------------------------------------------
-- Answers That Repeat a Text
------------------------------------------------------------

namespace Courier

namespace Answer

/-
  The answer holds one text, and only the repeated text can
  keep it from being whole.
-/
structure Tells
    (a : Answer)
    (repeated : Option String) : Prop where
  holdsOneText : a.HoldsOneText
  isWhole_iff :
    Line.IsWhole a.entity.toList ↔
      ∀ text ∈ repeated, Line.IsWhole text.toList

/- An answer with a whole text repeats nothing. -/
theorem tells_none
    {a : Answer}
    (hText : a.HoldsOneText)
    (hWhole : Line.IsWhole a.entity.toList) :
    a.Tells none :=
  ⟨hText, iff_of_true hWhole nofun⟩

/- An answer that ends in the repeated text. -/
theorem tells_behind
    {a : Answer}
    {front : List Char}
    {text : String}
    (hText : a.HoldsOneText)
    (hEntity : a.entity.toList = front ++ text.toList)
    (hBare : Line.IsBare front) :
    a.Tells (some text) := by
  refine ⟨hText, ?_⟩
  rw [hEntity, Line.isWhole_bare_append hBare]
  simp

/- An answer with the repeated text between bare ones. -/
theorem tells_between
    {a : Answer}
    {front back : List Char}
    {text : String}
    (hText : a.HoldsOneText)
    (hEntity :
      a.entity.toList = front ++ (text.toList ++ back))
    (hFront : Line.IsBare front)
    (hBack : Line.IsBare back)
    (hSome : back ≠ [])
    (hClear : Line.IsClear text.toList) :
    a.Tells (some text) := by
  refine ⟨hText, ?_⟩
  rw [hEntity, Line.isWhole_bare_append hFront,
    Line.isWhole_append_bare hClear.1 hBack hSome,
    ← Line.isWhole_iff_of_isClear hClear]
  simp

end Answer

end Courier

------------------------------------------------------------
-- Single Answers
------------------------------------------------------------

namespace Courier

/- What all digits have, the digits of bytes have. -/
theorem Bytes.forall_mem_toHex
    {p : Char → Prop}
    (hDigit : ∀ n, n < 16 → p (hexDigit n))
    (bytes : Bytes) :
    ∀ c ∈ (toHex bytes).toList, p c := by
  intro c hMem
  rw [toHex, String.toList_ofList, List.mem_flatMap] at hMem
  rcases hMem with ⟨b, -, hPair⟩
  have hByte := b.toNat_lt
  simp only [List.mem_cons, List.not_mem_nil, or_false]
    at hPair
  rcases hPair with rfl | rfl
  · exact hDigit _ (by omega)
  · exact hDigit _ (by omega)

namespace Line

/- Hexadecimal digits of bytes are bare. -/
theorem isBare_toHex
    (bytes : Bytes) :
    IsBare (Bytes.toHex bytes).toList :=
  Bytes.forall_mem_toHex (by decide) bytes

/- Safe names are bare. -/
theorem isBare_sanitize
    (name : String) :
    IsBare (FileName.sanitize name).toList := by
  intro c hMem
  rw [FileName.sanitize, String.toList_ofList,
    List.mem_map] at hMem
  rcases hMem with ⟨d, -, rfl⟩
  have hSafe := FileName.isSafe_safeChar d
  cases hSign : isSign (FileName.safeChar d) with
  | false => rfl
  | true =>
      simp only [isSign, isLineBreak, Bool.or_eq_true,
        beq_iff_eq] at hSign
      rcases hSign with (hIs | hIs) | hIs | hIs
      all_goals
        rw [hIs] at hSafe
        exact absurd hSafe (by decide)

end Line

namespace Server

/- The refusal of a command for another server. -/
theorem tells_wrongServer
    {s : Server}
    {c : Command}
    {refusal : Answer}
    (hWrong : s.wrongServer? c = some refusal) :
    refusal.Tells (some c.serverName) := by
  unfold wrongServer? at hWrong
  split at hWrong
  · cases hWrong
  · cases hWrong
    have hEntity :
        ("command addressed to " ++ c.serverName).toList =
          "command addressed to ".toList ++
            c.serverName.toList :=
      String.toList_append
    exact
      Answer.tells_behind (Answer.holdsOneText_error _ _)
        hEntity (by decide)

/- The refusal of files. -/
theorem tells_noFiles :
    noFiles.Tells none :=
  Answer.tells_none (Answer.holdsOneText_fileNok _ _)
    (Line.isWhole_of_isBare (by decide))

/- A failure of stored files with a whole text. -/
theorem tells_storageFailure
    {text : String}
    (hWhole : Line.IsWhole text.toList) :
    (storageFailure text).Tells none :=
  Answer.tells_none (Answer.holdsOneText_fileNok _ _) hWhole

/- The answer about a file that is not there. -/
theorem tells_noSuchFile
    {fileId : String}
    (hClear : Line.IsClear fileId.toList) :
    (noSuchFile fileId).Tells (some fileId) := by
  have hEntity :
      (noSuchFile fileId).entity.toList =
        "file ".toList ++
          (fileId.toList ++ " not found".toList) := by
    show ("file " ++ fileId ++ " not found").toList = _
    rw [String.toList_append, String.toList_append,
      List.append_assoc]
  exact
    Answer.tells_between (Answer.holdsOneText_fileNok _ _)
      hEntity (by decide) (by decide) (by decide) hClear

/- A safe name as the id of a file. -/
theorem tells_fileOk
    {name safe : String}
    (dataLength : UInt64)
    (hName : Store.component? name = some safe) :
    ({ Answer.fileOk safe with dataLength := dataLength }
      : Answer).Tells none := by
  have hSome := (Store.ne_empty_of_component? hName).2
  have hBare : Line.IsBare safe.toList := by
    rw [Store.component?_eq_some hName]
    exact Line.isBare_sanitize name
  exact
    Answer.tells_none
      (Answer.holdsOneText_fileOk dataLength hSome)
      (Line.isWhole_of_isBare hBare)

end Server

end Courier

------------------------------------------------------------
-- Repeated Texts
------------------------------------------------------------

namespace Courier

namespace Server

/- The text that is repeated to a client with an upload. -/
def repeatedUpload?
    (s : Server)
    (c : Command)
    (rest : Stream.Reader) : Option String :=
  let arrived := rest.arrival s.readTimeout
  match s.store, Upload.ofCommand? c with
  | some _, some u =>
      if s.uploads.isPresent = false then
        none
      else if arrived.bytes.length < c.dataLength.toNat then
        match arrived.ending with
        | .broken e => some e.message
        | _ => none
      else if sameChecksum (Md5.hex (s.announced c rest))
          u.checksum then
        none
      else
        some u.checksum
  | _, _ => none

/- The text that is repeated to a client that wants a file. -/
def repeatedDownload?
    (s : Server)
    (c : Command) : Option String :=
  let fileId := c.fileId.getD c.entity
  match s.store with
  | none => none
  | some files =>
      match (files.find fileId c.domain).1 with
      | .ok none => some fileId
      | _ => none

/- The text that is repeated to a client that deletes. -/
def repeatedDelete?
    (s : Server)
    (c : Command) : Option String :=
  let fileId := c.fileId.getD c.entity
  match s.store with
  | none => none
  | some files =>
      match (files.delete fileId c.domain).1 with
      | .ok _ => some fileId
      | .error _ => none

/-
  The text that the answer to a message repeats, if it
  repeats one.
-/
def repeated?
    (s : Server)
    (rest : Stream.Reader) :
    Except ProtocolError Command → Option String
  | .error (.io e) => some e.message
  | .error _ => none
  | .ok c =>
      if c.isStop then none
      else if (s.wrongServer? c).isSome then some c.serverName
      else if c.isInternal then
        if c.name = Command.uploadVerb then
          s.repeatedUpload? c rest
        else if c.name = Command.downloadVerb then
          s.repeatedDownload? c
        else if c.name = Command.healthVerb then none
        else if c.name = Command.deleteVerb then
          s.repeatedDelete? c
        else some c.name
      else
        match s.registry.resolve? c.dispatcherId with
        | some _ => none
        | none => some c.dispatcherId

/- The answer that a dispatcher gives to a message. -/
def dispatched?
    (s : Server) :
    Except ProtocolError Command → Option Answer
  | .error _ => none
  | .ok c =>
      if (s.wrongServer? c).isSome || c.isInternal then none
      else
        (s.registry.resolve? c.dispatcherId).map fun d =>
          d.dispatch c

end Server

end Courier

------------------------------------------------------------
-- Uploads
------------------------------------------------------------

namespace Courier

namespace Server

variable {s : Server}
variable {c : Command}

/- The texts of an upload are those of its command. -/
theorem of_ofCommand?
    {u : Upload}
    (hUpload : Upload.ofCommand? c = some u) :
    u.domain = c.domain ∧
      FileEntity.decode? c.entity =
        some (u.fileName, u.checksum) := by
  unfold Upload.ofCommand? at hUpload
  split at hUpload
  · cases hUpload
  · next hEntity =>
      cases hUpload
      exact ⟨rfl, hEntity⟩

/- The name in a file entity comes from the entity. -/
theorem hasSeparator_name
    {entity name checksum : String}
    (hSep : Line.hasSeparator entity.toList = false)
    (hEntity :
      FileEntity.decode? entity = some (name, checksum)) :
    Line.hasSeparator name.toList = false := by
  unfold FileEntity.decode? at hEntity
  split at hEntity
  · next before after hCut =>
      split at hEntity
      · cases hEntity
      · cases hEntity
        have hBefore : before <:+: entity.toList := by
          rw [Split.cut?_eq_some hCut]
          exact (List.prefix_append _ _).isInfix
        rw [String.toList_ofList]
        exact Line.hasSeparator_of_infix hBefore hSep
  · cases hEntity

/- An upload that broke off tells the fault. -/
theorem tells_brokenUpload
    {fault : Copy.Fault}
    {repeated : Option String}
    (hText :
      Line.IsWhole fault.toIoError.message.toList ↔
        ∀ text ∈ repeated, Line.IsWhole text.toList) :
    (brokenUpload fault).Tells repeated := by
  simp only [brokenUpload]
  split
  · exact ⟨Answer.holdsOneText_fileNok _ _, hText⟩
  · exact ⟨Answer.holdsOneText_fileNok _ _, hText⟩

/- Only a connection that fails has a text of its own. -/
theorem tells_fault
    (e : Stream.Ending)
    (missing total : Nat) :
    (brokenUpload (e.fault missing total)).Tells
      (match e with
      | .broken e => some e.message
      | _ => none) := by
  apply tells_brokenUpload
  cases e with
  | closed =>
      refine iff_of_true ?_ nofun
      apply Line.isWhole_of_isBare
      show
        Line.IsBare
          ("stream ended " ++ toString missing ++
            " bytes short of " ++ toString total).toList
      simp only [String.toList_append, Line.isBare_append]
      exact
        ⟨⟨⟨by decide, Line.isBare_toString _⟩, by decide⟩,
          Line.isBare_toString _⟩
  | late =>
      have hBare :
          Line.IsBare
            (IoError.timedOut "read").message.toList := by
        decide
      exact iff_of_true (Line.isWhole_of_isBare hBare) nofun
  | broken e => simp [Stream.Ending.fault, Copy.Fault.toIoError]

/- An upload whose bytes have arrived. -/
theorem tells_judge
    {u : Upload}
    (files : Store)
    (content : Bytes)
    (hName : Line.hasSeparator u.fileName.toList = false)
    (hDomain :
      Line.hasSeparator (u.domain.getD "").toList = false) :
    (judge u files content).1.Tells
      (if sameChecksum (Md5.hex content) u.checksum then none
        else some u.checksum) := by
  simp only [judge]
  cases sameChecksum (Md5.hex content) u.checksum with
  | false =>
      simp only [Bool.false_eq_true, if_false]
      have hEntity :
          ("checksum " ++ Md5.hex content ++
              " does not match " ++ u.checksum).toList =
            ("checksum ".toList ++
              (Md5.hex content).toList ++
              " does not match ".toList) ++
              u.checksum.toList := by
        simp only [String.toList_append]
      apply
        Answer.tells_behind (Answer.holdsOneText_fileNok _ _)
          hEntity
      simp only [Line.isBare_append]
      exact
        ⟨⟨by decide, Line.isBare_toHex _⟩, by decide⟩
  | true =>
      simp only [if_true]
      rcases hStore :
        files.store (.whole content) u.fileName u.domain with
        ⟨stored, files'⟩
      cases stored with
      | error e =>
          exact
            tells_storageFailure
              (Store.isWhole_of_store hStore hName hDomain)
      | ok fileId =>
          exact
            tells_fileOk 0
              (Store.component?_of_store hStore)

/- The answer to an upload that is collected. -/
theorem tells_keep
    {u : Upload}
    (files : Store)
    (rest : Stream.Reader)
    (hName : Line.hasSeparator u.fileName.toList = false)
    (hDomain :
      Line.hasSeparator (u.domain.getD "").toList = false)
    (hStore : s.store = some files)
    (hUpload : Upload.ofCommand? c = some u) :
    (s.keep u files c.dataLength.toNat rest).answer.Tells
      (s.repeatedUpload? c rest) := by
  rw [(keep_ruling u hStore).1]
  simp only [ruling, repeatedUpload?, hStore, hUpload]
  split
  · exact
      tells_storageFailure
        (Line.isWhole_of_isBare
          (IoError.isBare_of_mem_own (by simp [IoError.own])))
  split
  · exact tells_fault _ _ _
  · exact tells_judge files _ hName hDomain

/- The answer to an upload that is for this server. -/
theorem tells_receive
    (rest : Stream.Reader)
    (hClear : c.IsClear)
    (hHere : s.wrongServer? c = none) :
    (s.receive c rest).answer.Tells
      (s.repeatedUpload? c rest) := by
  simp only [receive, hHere]
  cases hStore : s.store with
  | none =>
      simp only [repeatedUpload?, hStore]
      exact tells_noFiles
  | some files =>
      cases hUpload : Upload.ofCommand? c with
      | none =>
          simp only [repeatedUpload?, hStore, hUpload]
          have hEntity :
              ("bad file entity " ++
                  Quoted.quote c.entity).toList =
                "bad file entity ".toList ++
                  (Quoted.quote c.entity).toList :=
            String.toList_append
          apply
            Answer.tells_none (Answer.holdsOneText_fileNok _ _)
          exact
            hEntity ▸
              (Line.isWhole_bare_append (by decide)).mpr
                (Line.isWhole_quote hClear.entity.1)
      | some u =>
          rcases of_ofCommand? hUpload with
            ⟨hDomain, hEntity⟩
          have hName :=
            hasSeparator_name hClear.entity.1 hEntity
          have hSep := hClear.domain
          rw [← hDomain] at hSep
          exact tells_keep files rest hName hSep hStore hUpload

end Server

end Courier

------------------------------------------------------------
-- Downloads
------------------------------------------------------------

namespace Courier

namespace Server

variable {s : Server}
variable {c : Command}

/- The response to a download that is for this server. -/
theorem tells_downloadResponse
    (hClear : c.IsClear)
    (hHere : s.wrongServer? c = none) :
    (s.downloadResponse c).answer.Tells
      (s.repeatedDownload? c) := by
  simp only [downloadResponse, hHere, repeatedDownload?]
  cases s.store with
  | none => exact tells_noFiles
  | some files =>
      simp only
      rcases hFind :
        files.find (c.fileId.getD c.entity) c.domain with
        ⟨found, files'⟩
      rcases found with e | (_ | d)
      · rcases Store.error_of_find hFind with ⟨fault, hOwn, rfl⟩
        exact tells_storageFailure (Store.isWhole_io hOwn)
      · exact tells_noSuchFile hClear.fileText
      · simp only
        cases hRead : files'.temp.read d.copy with
        | error e =>
            apply tells_storageFailure
            exact
              Line.isWhole_of_isBare
                (IoError.isBare_of_mem_own
                  (TemporaryFiles.mem_own_of_read hRead))
        | ok content =>
            exact
              tells_fileOk _ (Store.exists_of_find hFind).1

/- The answer to a deletion. -/
theorem tells_deleteFile
    (hClear : c.IsClear) :
    (s.deleteFile c).1.Tells (s.repeatedDelete? c) := by
  simp only [deleteFile, repeatedDelete?, Delete.ofCommand]
  cases s.store with
  | none => exact tells_noFiles
  | some files =>
      simp only
      rcases hDelete :
        files.delete (c.fileId.getD c.entity) c.domain with
        ⟨deleted, files'⟩
      rcases deleted with e | (_ | _)
      · rcases Store.error_of_delete hDelete with
          ⟨fault, hOwn, rfl⟩
        exact tells_storageFailure (Store.isWhole_io hOwn)
      · exact tells_noSuchFile hClear.fileText
      · rcases Store.component?_of_delete hDelete with
          ⟨safe, hName⟩
        have hSome := (Store.ne_empty_of_component? hName).1
        refine ⟨Answer.holdsOneText_fileOk 0 hSome, ?_⟩
        simp [Answer.fileOk, Answer.make]

end Server

end Courier

------------------------------------------------------------
-- Messages
------------------------------------------------------------

namespace Courier

namespace Server

variable {s : Server}
variable {c : Command}

/- The answer to a command of the link itself. -/
theorem tells_processInternal
    (hClear : c.IsClear)
    (hStop : c.name ≠ Command.stopVerb)
    (hUpload : c.name ≠ Command.uploadVerb)
    (hDownload : c.name ≠ Command.downloadVerb) :
    (s.processInternal c).1.Tells
      (if c.name = Command.healthVerb then none
      else if c.name = Command.deleteVerb then
        s.repeatedDelete? c
      else some c.name) := by
  unfold processInternal
  rw [if_neg hStop]
  split
  · have hBare : Line.IsBare Answer.health.entity.toList := by
      decide
    exact
      Answer.tells_none Answer.holdsOneText_health
        (Line.isWhole_of_isBare hBare)
  split
  · exact tells_deleteFile hClear
  · rw [if_neg (by simp [hUpload, hDownload])]
    have hEntity :
        ("unknown internal command " ++ c.name).toList =
          "unknown internal command ".toList ++
            c.name.toList :=
      String.toList_append
    exact
      Answer.tells_behind (Answer.holdsOneText_error _ _)
        hEntity (by decide)

/- The refusal of a command for an unknown dispatcher. -/
theorem tells_unknownDispatcher
    (id : String) :
    (Registry.unknownDispatcher id).Tells (some id) := by
  have hEntity :
      ("unknown dispatcher " ++ id).toList =
        "unknown dispatcher ".toList ++ id.toList :=
    String.toList_append
  exact
    Answer.tells_behind (Answer.holdsOneText_error _ _)
      hEntity (by decide)

/- The answer to a command that cannot be read. -/
theorem tells_malformed
    {e : ProtocolError}
    (rest : Stream.Reader)
    (hText :
      (∃ fault, e = .io fault) ∨
        Line.IsWhole e.message.toList) :
    (Answer.error .malformed e.message).Tells
      (s.repeated? rest (.error e)) := by
  refine ⟨Answer.holdsOneText_error _ _, ?_⟩
  show Line.IsWhole e.message.toList ↔ _
  rcases hText with ⟨fault, rfl⟩ | hWhole
  · rw [ProtocolError.isWhole_io_iff]
    simp [repeated?]
  · cases e with
    | io fault =>
        rw [ProtocolError.isWhole_io_iff]
        simp [repeated?]
    | _ => exact iff_of_true hWhole nofun

/- The command to stop has no response. -/
theorem respond?_of_isStop
    (s : Server)
    (rest : Stream.Reader)
    (hStop : c.isStop = true) :
    s.respond? rest (.ok c) = none := by
  have hUpload :=
    hasVerb_other Command.uploadVerb hStop (by decide)
  have hDownload :=
    hasVerb_other Command.downloadVerb hStop (by decide)
  simp only [respond?, hStop, if_true, hUpload, hDownload,
    Bool.false_eq_true, if_false]

/- A command for another server is refused everywhere. -/
theorem respond?_of_wrongServer
    {refusal : Answer}
    (rest : Stream.Reader)
    (hStop : c.isStop = false)
    (hWrong : s.wrongServer? c = some refusal) :
    s.respond? rest (.ok c) = some (.only refusal) := by
  simp only [respond?, receive, downloadResponse, process,
    hWrong, refuse, hStop, Bool.false_eq_true, if_false,
    ite_self]

/- A command that is not internal goes to its dispatcher. -/
theorem respond?_of_isInternal
    (rest : Stream.Reader)
    (hHere : s.wrongServer? c = none)
    (hExternal : c.isInternal = false) :
    s.respond? rest (.ok c) =
      some (.only (s.registry.dispatch c)) := by
  have hOther (verb : String) : c.hasVerb verb = false := by
    rw [Command.hasVerb, hExternal, Bool.false_and]
  simp only [respond?, Command.isStop, hOther, process,
    hHere, hExternal, Bool.false_eq_true, if_false]

/- The answer of a dispatcher is the response. -/
theorem respond?_of_dispatched
    {a : Answer}
    (rest : Stream.Reader)
    (hDispatched : s.dispatched? (.ok c) = some a) :
    s.respond? rest (.ok c) = some (.only a) := by
  simp only [dispatched?] at hDispatched
  split at hDispatched
  · cases hDispatched
  · next hOutside =>
      rw [Bool.or_eq_true, not_or] at hOutside
      rcases hOutside with ⟨hHere, hExternal⟩
      rcases Option.map_eq_some_iff.mp hDispatched with
        ⟨d, hResolve, rfl⟩
      rw [respond?_of_isInternal rest (by simpa using hHere)
          (by simpa using hExternal),
        Registry.dispatch, hResolve]

/- A command of the link itself goes by its verb. -/
theorem respond?_internal
    (rest : Stream.Reader)
    (hStop : c.isStop = false)
    (hHere : s.wrongServer? c = none)
    (hInternal : c.isInternal = true) :
    c.name ≠ Command.stopVerb ∧
      s.respond? rest (.ok c) =
        some
          (if c.name = Command.uploadVerb then
            .only (s.receive c rest).answer
          else if c.name = Command.downloadVerb then
            s.downloadResponse c
          else
            .only (s.processInternal c).1) := by
  have hVerb (verb : String) :
      c.hasVerb verb = true ↔ c.name = verb := by
    simp [Command.hasVerb, hInternal]
  have hProcess : s.process c = s.processInternal c := by
    simp only [process, hHere, hInternal, if_true]
  constructor
  · rw [Command.isStop] at hStop
    rw [Ne, ← hVerb, hStop]
    exact Bool.false_ne_true
  · simp only [respond?, hVerb, hStop, Bool.false_eq_true,
      if_false, hProcess]
    split
    · rfl
    split
    · rfl
    · rfl

/- The answer to an internal command for this server. -/
theorem tells_internal
    {rest : Stream.Reader}
    {x : Response}
    (hClear : c.IsClear)
    (hStop : c.isStop = false)
    (hHere : s.wrongServer? c = none)
    (hInternal : c.isInternal = true)
    (hRespond : s.respond? rest (.ok c) = some x) :
    x.answer.Tells (s.repeated? rest (.ok c)) := by
  rcases respond?_internal rest hStop hHere hInternal with
    ⟨hNotStop, hSame⟩
  rw [hSame] at hRespond
  simp only [repeated?, hStop, hHere, hInternal,
    Bool.false_eq_true, if_false, if_true,
    Option.isSome_none]
  cases hRespond
  split
  · exact tells_receive rest hClear hHere
  next hUpload =>
  split
  · exact tells_downloadResponse hClear hHere
  next hDownload =>
  exact
    tells_processInternal hClear hNotStop hUpload hDownload

/-
  The answer in a response is that of a dispatcher, or it is
  the server's own and tells what it repeats.
-/
theorem respond?_cases
    {m : Except ProtocolError Command}
    {rest : Stream.Reader}
    {x : Response}
    (hClear : ∀ c, m = .ok c → c.IsClear)
    (hText :
      ∀ e, m = .error e →
        (∃ fault, e = .io fault) ∨
          Line.IsWhole e.message.toList)
    (hRespond : s.respond? rest m = some x) :
    (s.dispatched? m = some x.answer ∧
        s.repeated? rest m = none) ∨
      (s.dispatched? m = none ∧
        x.answer.Tells (s.repeated? rest m)) := by
  cases m with
  | error e =>
      cases hRespond
      exact Or.inr ⟨rfl, tells_malformed rest (hText e rfl)⟩
  | ok c =>
      cases hStop : c.isStop with
      | true =>
          rw [respond?_of_isStop s rest hStop] at hRespond
          cases hRespond
      | false =>
          cases hWrong : s.wrongServer? c with
          | some refusal =>
              rw [respond?_of_wrongServer rest hStop hWrong]
                at hRespond
              cases hRespond
              have hTells := tells_wrongServer hWrong
              exact
                Or.inr
                  ⟨by simp [dispatched?, hWrong],
                    by simpa [repeated?, hStop, hWrong]⟩
          | none =>
              cases hInternal : c.isInternal with
              | true =>
                  have hTells :=
                    tells_internal (hClear c rfl) hStop hWrong
                      hInternal hRespond
                  exact
                    Or.inr
                      ⟨by simp [dispatched?, hInternal],
                        hTells⟩
              | false =>
                  rw [respond?_of_isInternal rest hWrong
                    hInternal] at hRespond
                  cases hRespond
                  simp only [dispatched?, repeated?, hStop,
                    hWrong, hInternal, Option.isSome_none,
                    Bool.or_false, Bool.false_eq_true, if_false,
                    Registry.dispatch]
                  cases s.registry.resolve? c.dispatcherId with
                  | some d => exact Or.inl ⟨rfl, rfl⟩
                  | none =>
                      exact
                        Or.inr
                          ⟨rfl, tells_unknownDispatcher _⟩

end Server

end Courier
