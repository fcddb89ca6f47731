import Courier.Dispatch.LogQuery
import Courier.Proofs.Envelope.Size
import Courier.Proofs.Link.File
import Courier.Proofs.Storage.Rollback

/-
  How much an answer adds to what it repeats.

  Nobody looks at the length of an answer before it is sent.
  It is short in itself, and at most so much longer than a
  text of the command, of the connection or of the log that
  it repeats.

  Key definitions include:
    * `Echo`
    * `Echo.size`
    * `Answer.Measures`
    * `Server.echo?`
    * `LogQuery.echo`

  Key theorems include:
    * `Server.measures_receive`
    * `Server.measures_downloadResponse`
    * `Server.measures_processInternal`
    * `Server.measures_respond?`
    * `LogQuery.measures_answer`
-/

------------------------------------------------------------
-- Echoes
------------------------------------------------------------

namespace Courier

/-
  What an answer repeats: a text as it is, in quotation
  marks or as the id of a file, or records of a log.
-/
inductive Echo where
| plain : (text : String) → Echo
| quoted : (text : String) → Echo
| fileId : (text : String) → Echo
| records : (found : List LogRecord) → Echo

namespace Echo

/-
  The octets of a repetition.  The id of a file stands in
  the text, in a field of its own and in the object.
-/
def size : Echo → Nat
  | .plain text => text.utf8ByteSize
  | .quoted text => (Quoted.quote text).utf8ByteSize
  | .fileId text =>
      2 * text.utf8ByteSize +
        Line.objectSize (some (.text text))
  | .records found =>
      Line.objectSize
        (some (.array (found.map LogRecord.toJson)))

/- The octets that an answer has next to a repetition. -/
def margin : Nat := 150

end Echo

namespace Answer

/-
  The answer is short if it repeats nothing, and else not
  much longer than the repetition.
-/
def Measures
    (a : Answer) : Option Echo → Prop
  | none => a.size ≤ SettingError.minMessageSize
  | some echo =>
      echo.size ≤ a.size ∧ a.size ≤ echo.size + Echo.margin

variable {a : Answer}

/- Short texts make a short answer. -/
theorem measures_none
    (hShort : a.contentSize ≤ 900) :
    a.Measures none := by
  have hSize := a.size_bounds.2
  show a.size ≤ 1024
  omega

/- A repetition with some more octets around it. -/
theorem measures_some
    {echo : Echo}
    (more : Nat)
    (hContent : a.contentSize = more + echo.size)
    (hFew : more ≤ 96) :
    a.Measures (some echo) := by
  have hSize := a.size_bounds
  show echo.size ≤ a.size ∧ a.size ≤ echo.size + 150
  omega

/- The refusal of a command has nothing but its text. -/
theorem contentSize_error
    (f : Failure)
    (text : String) :
    (error f text).contentSize = text.utf8ByteSize :=
  rfl

/- Nor has the refusal of a file command. -/
theorem contentSize_fileNok
    (f : Failure)
    (text : String) :
    (fileNok f text).contentSize = text.utf8ByteSize :=
  rfl

/- Good news about a file say its id three times. -/
theorem contentSize_fileOk
    (fileId : String)
    (dataLength : UInt64) :
    ({ fileOk fileId with dataLength := dataLength }
      : Answer).contentSize = (Echo.fileId fileId).size := by
  show
    fileId.utf8ByteSize + fileId.utf8ByteSize +
        Line.objectSize (some (.text fileId)) =
      2 * fileId.utf8ByteSize +
        Line.objectSize (some (.text fileId))
  omega

end Answer

end Courier

------------------------------------------------------------
-- Safe Names
------------------------------------------------------------

namespace Courier

namespace FileName

/- Where the safe characters are. -/
theorem bounds_of_isSafe
    {c : Char}
    (hSafe : isSafe c = true) :
    45 ≤ c.toNat ∧ c.toNat ≤ 122 ∧ c.toNat ≠ 92 := by
  have hAlphanum :
      c.isAlphanum =
        (decide (65 ≤ c.val ∧ c.val ≤ 90) ||
            (decide (97 ≤ c.val) && decide (c.val ≤ 122)) ||
          (decide (48 ≤ c.val) && decide (c.val ≤ 57))) := rfl
  simp only [isSafe, hAlphanum, Bool.or_eq_true,
    Bool.and_eq_true, decide_eq_true_eq, beq_iff_eq,
    UInt32.le_iff_toNat_le] at hSafe
  change
    (((((65 ≤ c.toNat ∧ c.toNat ≤ 90) ∨
      (97 ≤ c.toNat ∧ c.toNat ≤ 122)) ∨
      (48 ≤ c.toNat ∧ c.toNat ≤ 57)) ∨
      c = '.') ∨ c = '-') ∨ c = '_' at hSafe
  rcases hSafe with ((hAlphanum | rfl) | rfl) | rfl
  · omega
  · decide
  · decide
  · decide

/- Safe characters are not escaped. -/
theorem flatMap_escape_of_isSafe
    {chars : List Char}
    (hSafe : ∀ c ∈ chars, isSafe c = true) :
    chars.flatMap Json.escape = chars := by
  induction chars with
  | nil => rfl
  | cons c chars ih =>
      rcases List.forall_mem_cons.mp hSafe with ⟨hFirst, hRest⟩
      have hBounds := bounds_of_isSafe hFirst
      have hOther (d : Char)
          (hOut : d.toNat < 45 ∨ d.toNat = 92) : c ≠ d := by
        rintro rfl
        omega
      have hEscape : Json.escape c = [c] := by
        rw [Json.escape, if_neg (hOther '"' (by decide)),
          if_neg (hOther '\\' (by decide)), if_neg (by omega),
          if_neg (by omega), if_neg (hOther '\n' (by decide)),
          if_neg (hOther '\r' (by decide)),
          if_neg (hOther '\t' (by decide)), if_neg (by omega)]
      rw [List.flatMap_cons, hEscape, ih hRest,
        List.singleton_append]

end FileName

namespace Store

/- A file that was stored has the id of a file. -/
theorem isFileId_of_store
    {s s' : Store}
    {source : Store.Source}
    {name fileId : String}
    {domain : Option String}
    (hStore : s.store source name domain = (.ok fileId, s')) :
    IsFileId fileId := by
  rcases
    (s.exists_store_iff source name domain).mp
      ⟨fileId, by rw [hStore]⟩ with
    ⟨key, content, hKey, -, hAccepts⟩
  have hName := component?_of_store hStore
  rw [(key?_eq_some hKey).1] at hName
  cases hName
  exact
    isFileId_of_key? hKey
      (fits_of_hiddenName hAccepts.room.fits.2)

/- So has a file that was found. -/
theorem isFileId_of_find
    {s s' : Store}
    {fileId : String}
    {domain : Option String}
    {d : Download}
    (hFind : s.find fileId domain = (.ok (some d), s')) :
    IsFileId d.fileId := by
  cases find_eq_iff.mp hFind with
  | @found d name copy temp content hKey hCreate hRead =>
      have hFits := Tree.fits_of_readFile hRead name (by simp)
      exact isFileId_of_key? hKey hFits

variable {fileId : String}

/- The id of a file is made of safe characters. -/
theorem IsFileId.isSafe
    (hId : IsFileId fileId) :
    ∀ c ∈ fileId.toList, FileName.isSafe c = true := by
  rw [← hId.sanitize_eq, FileName.sanitize,
    String.toList_ofList]
  intro c hMem
  rcases List.mem_map.mp hMem with ⟨d, -, rfl⟩
  exact FileName.isSafe_safeChar d

/- In JSON it takes two quotation marks more. -/
theorem IsFileId.length_chars
    (hId : IsFileId fileId) :
    (Utf8.encode (Json.text fileId).chars).length =
      fileId.length + 2 := by
  have hQuoted :
      Json.quoted fileId = '"' :: fileId.toList ++ ['"'] := by
    rw [Json.quoted,
      FileName.flatMap_escape_of_isSafe hId.isSafe]
  have hAscii :
      ∀ c ∈ '"' :: fileId.toList ++ ['"'], c.toNat < 128 := by
    intro c hMem
    simp only [List.cons_append, List.mem_cons,
      List.mem_append, List.not_mem_nil, or_false] at hMem
    rcases hMem with rfl | hMem | rfl
    · decide
    · have hBounds :=
        FileName.bounds_of_isSafe (hId.isSafe c hMem)
      omega
    · decide
  rw [Json.chars, hQuoted, Utf8.encode_of_ascii hAscii,
    List.length_map, ← String.length_toList]
  simp

end Store

/- Good news about a file with a safe name are short. -/
theorem Answer.measures_fileOk
    {fileId : String}
    (dataLength : UInt64)
    (hId : Store.IsFileId fileId) :
    ({ fileOk fileId with dataLength := dataLength }
      : Answer).Measures none := by
  have hFits : fileId.utf8ByteSize ≤ 255 := hId.fits
  have hLength := hId.length_le
  apply measures_none
  rw [contentSize_fileOk, Echo.size, Line.objectSize_some,
    hId.length_chars]
  omega

end Courier

------------------------------------------------------------
-- What Is Repeated
------------------------------------------------------------

namespace Courier

namespace Server

/- What is repeated of an upload whose bytes have arrived. -/
def judgeEcho?
    (u : Upload)
    (files : Store)
    (content : Bytes) : Option Echo :=
  if sameChecksum (Md5.hex content) u.checksum then
    match (files.store (.whole content) u.fileName u.domain).1 with
    | .error (.invalidName name) => some (.quoted name)
    | _ => none
  else
    some (.plain u.checksum)

/- What is repeated to a client with an upload. -/
def uploadEcho?
    (s : Server)
    (c : Command)
    (rest : Stream.Reader) : Option Echo :=
  let arrived := rest.arrival s.readTimeout
  match s.store, Upload.ofCommand? c with
  | none, _ => none
  | some _, none => some (.quoted c.entity)
  | some files, some u =>
      if s.uploads.isPresent = false then
        none
      else if arrived.bytes.length < c.dataLength.toNat then
        match arrived.ending with
        | .broken e => some (.plain e.message)
        | _ => none
      else
        judgeEcho? u files (s.announced c rest)

/- What is repeated to a client that deletes. -/
def deleteEcho?
    (s : Server)
    (c : Command) : Option Echo :=
  let fileId := c.fileId.getD c.entity
  match s.store with
  | none => none
  | some files =>
      match (files.delete fileId c.domain).1 with
      | .ok true => some (.fileId fileId)
      | .ok false => some (.plain fileId)
      | .error _ => none

/-
  What the answer to a command repeats, unless that is the
  answer of a dispatcher.
-/
def echo?
    (s : Server)
    (rest : Stream.Reader)
    (c : Command) : Option Echo :=
  if (s.wrongServer? c).isSome then
    some (.plain c.serverName)
  else if c.isInternal then
    if c.name = Command.uploadVerb then
      s.uploadEcho? c rest
    else if c.name = Command.downloadVerb then
      (s.repeatedDownload? c).map .plain
    else if c.name = Command.healthVerb then
      none
    else if c.name = Command.deleteVerb then
      s.deleteEcho? c
    else
      some (.plain c.name)
  else
    some (.plain c.dispatcherId)

end Server

end Courier

------------------------------------------------------------
-- Uploads
------------------------------------------------------------

namespace Courier

namespace Server

variable {s : Server}
variable {c : Command}

/- The refusal of a command for another server. -/
theorem measures_wrongServer
    {refusal : Answer}
    (hWrong : s.wrongServer? c = some refusal) :
    refusal.Measures (some (.plain c.serverName)) := by
  unfold wrongServer? at hWrong
  split at hWrong
  · cases hWrong
  · cases hWrong
    refine Answer.measures_some 21 ?_ (by decide)
    exact
      (Answer.contentSize_error _ _).trans
        String.utf8ByteSize_append

/- The refusal of files. -/
theorem measures_noFiles :
    noFiles.Measures none :=
  Answer.measures_none (by decide)

/- A known failure of stored files. -/
theorem measures_ownFailure
    {e : IoError}
    (hOwn : e ∈ IoError.own) :
    (storageFailure e.message).Measures none ∧
      (storageFailure (StorageError.io e).message).Measures
        none := by
  have hShort :
      ∀ e ∈ IoError.own, e.message.utf8ByteSize ≤ 100 := by
    decide
  have hText := hShort e hOwn
  have hFront : "Storage I/O error: ".utf8ByteSize = 19 := rfl
  constructor
  · apply Answer.measures_none
    rw [storageFailure, Answer.contentSize_fileNok]
    omega
  · apply Answer.measures_none
    have hMessage :
        (StorageError.io e).message =
          "Storage I/O error: " ++ e.message :=
      rfl
    rw [storageFailure, Answer.contentSize_fileNok, hMessage,
      String.utf8ByteSize_append]
    omega

/- The answer about a file that is not there. -/
theorem measures_noSuchFile
    (fileId : String) :
    (noSuchFile fileId).Measures (some (.plain fileId)) := by
  refine Answer.measures_some 15 ?_ (by decide)
  have hFront : "file ".utf8ByteSize = 5 := rfl
  have hBack : " not found".utf8ByteSize = 10 := rfl
  have hEntity :
      (noSuchFile fileId).contentSize =
        ("file " ++ fileId ++ " not found").utf8ByteSize :=
    rfl
  rw [hEntity, String.utf8ByteSize_append,
    String.utf8ByteSize_append, Echo.size]
  omega

/- An upload that broke off. -/
theorem measures_fault
    {missing total : Nat}
    (e : Stream.Ending)
    (hTotal : total < UInt64.size)
    (hMissing : missing ≤ total) :
    (brokenUpload (e.fault missing total)).Measures
      (match e with
      | .broken e => some (.plain e.message)
      | _ => none) := by
  have hContent (fault : Copy.Fault) :
      (brokenUpload fault).contentSize =
        fault.toIoError.message.utf8ByteSize := by
    simp only [brokenUpload]
    split
    · rfl
    · rfl
  cases e with
  | closed =>
      have hText :
          (Stream.Ending.closed.fault missing
              total).toIoError.message =
            "stream ended " ++ toString missing ++
              " bytes short of " ++ toString total :=
        rfl
      have hFront : "stream ended ".utf8ByteSize = 13 := rfl
      have hMiddle : " bytes short of ".utf8ByteSize = 16 := rfl
      have hFew :=
        Answer.utf8ByteSize_word_le
          (Nat.lt_of_le_of_lt hMissing hTotal)
      have hAll := Answer.utf8ByteSize_word_le hTotal
      apply Answer.measures_none
      rw [hContent, hText]
      simp only [String.utf8ByteSize_append]
      omega
  | late =>
      apply Answer.measures_none
      rw [hContent]
      show (IoError.timedOut "read").message.utf8ByteSize ≤ 900
      decide
  | broken e =>
      refine Answer.measures_some 0 ?_ (by decide)
      rw [hContent, Nat.zero_add]
      rfl

/- Bytes take two hexadecimal digits each. -/
theorem utf8ByteSize_toHex
    (bytes : Bytes) :
    (Bytes.toHex bytes).utf8ByteSize = 2 * bytes.length := by
  have hAscii :
      ∀ c ∈ (Bytes.toHex bytes).toList, c.toNat < 128 :=
    Bytes.forall_mem_toHex (by decide) bytes
  rw [Utf8.utf8ByteSize_of_ascii hAscii, Bytes.toHex,
    String.length_ofList, List.length_flatMap]
  simp [List.map_const', Nat.mul_comm]

/- An upload with another checksum than it was said to have. -/
theorem measures_mismatch
    {digest : String}
    (checksum : String)
    (hDigest : digest.utf8ByteSize = 32) :
    (Answer.fileNok .checksumMismatch
        s!"checksum {digest} does not match {checksum}"
      ).Measures (some (.plain checksum)) := by
  have hFront : "checksum ".utf8ByteSize = 9 := rfl
  have hMiddle : " does not match ".utf8ByteSize = 16 := rfl
  have hEntity :
      (Answer.fileNok .checksumMismatch
          s!"checksum {digest} does not match {checksum}"
        ).contentSize =
        ("checksum " ++ digest ++ " does not match " ++
          checksum).utf8ByteSize :=
    rfl
  refine Answer.measures_some 57 ?_ (by decide)
  rw [hEntity]
  simp only [String.utf8ByteSize_append, Echo.size]
  omega

/- An upload whose bytes have arrived. -/
theorem measures_judge
    (u : Upload)
    (files : Store)
    (content : Bytes) :
    (judge u files content).1.Measures
      (judgeEcho? u files content) := by
  simp only [judge, judgeEcho?]
  cases sameChecksum (Md5.hex content) u.checksum with
  | false =>
      simp only [Bool.false_eq_true, if_false]
      have hDigest : (Md5.hex content).utf8ByteSize = 32 := by
        rw [Md5.hex, utf8ByteSize_toHex]
        simp [Md5.digest, Bytes.ofNumberReversed]
      -- The digest is not to be computed.
      generalize Md5.hex content = digest at hDigest ⊢
      exact measures_mismatch u.checksum hDigest
  | true =>
      simp only [if_true]
      rcases hStore :
        files.store (.whole content) u.fileName u.domain with
        ⟨stored, files'⟩
      have hQuoted (name : String) :
          (storageFailure
              (StorageError.invalidName name).message).Measures
            (some (.quoted name)) := by
        refine Answer.measures_some 19 ?_ (by decide)
        exact
          (Answer.contentSize_fileNok _ _).trans
            String.utf8ByteSize_append
      cases stored with
      | error e =>
          rcases Store.error_of_store hStore with
            rfl | rfl | ⟨fault, hOwn, rfl⟩
          · exact hQuoted _
          · exact hQuoted _
          · exact (measures_ownFailure hOwn).2
      | ok fileId =>
          exact
            Answer.measures_fileOk 0
              (Store.isFileId_of_store hStore)

/- The answer to an upload that is for this server. -/
theorem measures_receive
    (rest : Stream.Reader)
    (hHere : s.wrongServer? c = none) :
    (s.receive c rest).answer.Measures
      (s.uploadEcho? c rest) := by
  simp only [receive, hHere, uploadEcho?]
  cases hStore : s.store with
  | none => exact measures_noFiles
  | some files =>
      cases Upload.ofCommand? c with
      | none =>
          refine Answer.measures_some 16 ?_ (by decide)
          exact
            (Answer.contentSize_fileNok _ _).trans
              String.utf8ByteSize_append
      | some u =>
          simp only [(keep_ruling u hStore).1, ruling]
          split
          · exact
              (measures_ownFailure (by simp [IoError.own])).1
          split
          · exact
              measures_fault _ c.dataLength.toNat_lt
                (Nat.sub_le _ _)
          · exact measures_judge u files _

end Server

end Courier

------------------------------------------------------------
-- Downloads and Deletions
------------------------------------------------------------

namespace Courier

namespace Server

variable {s : Server}
variable {c : Command}

/- The response to a download that is for this server. -/
theorem measures_downloadResponse
    (hHere : s.wrongServer? c = none) :
    (s.downloadResponse c).answer.Measures
      ((s.repeatedDownload? c).map .plain) := by
  simp only [downloadResponse, hHere, repeatedDownload?]
  cases s.store with
  | none => exact measures_noFiles
  | some files =>
      simp only
      rcases hFind :
        files.find (c.fileId.getD c.entity) c.domain with
        ⟨found, files'⟩
      rcases found with e | (_ | d)
      · rcases Store.error_of_find hFind with ⟨fault, hOwn, rfl⟩
        exact (measures_ownFailure hOwn).2
      · exact measures_noSuchFile _
      · simp only
        cases hRead : files'.temp.read d.copy with
        | error e =>
            exact
              (measures_ownFailure
                (TemporaryFiles.mem_own_of_read hRead)).1
        | ok content =>
            exact
              Answer.measures_fileOk _
                (Store.isFileId_of_find hFind)

/- The answer to a deletion. -/
theorem measures_deleteFile :
    (s.deleteFile c).1.Measures (s.deleteEcho? c) := by
  simp only [deleteFile, deleteEcho?, Delete.ofCommand]
  cases s.store with
  | none => exact measures_noFiles
  | some files =>
      simp only
      rcases hDelete :
        files.delete (c.fileId.getD c.entity) c.domain with
        ⟨deleted, files'⟩
      rcases deleted with e | (_ | _)
      · rcases Store.error_of_delete hDelete with
          ⟨fault, hOwn, rfl⟩
        exact (measures_ownFailure hOwn).2
      · exact measures_noSuchFile _
      · refine Answer.measures_some 0 ?_ (by decide)
        rw [Nat.zero_add]
        exact Answer.contentSize_fileOk _ 0

end Server

end Courier

------------------------------------------------------------
-- Commands
------------------------------------------------------------

namespace Courier

namespace Server

variable {s : Server}
variable {c : Command}

/- The answer to a command of the link itself. -/
theorem measures_processInternal
    (hStop : c.name ≠ Command.stopVerb)
    (hUpload : c.name ≠ Command.uploadVerb)
    (hDownload : c.name ≠ Command.downloadVerb) :
    (s.processInternal c).1.Measures
      (if c.name = Command.healthVerb then none
      else if c.name = Command.deleteVerb then
        s.deleteEcho? c
      else some (.plain c.name)) := by
  unfold processInternal
  rw [if_neg hStop]
  split
  · have hShort : Answer.health.contentSize ≤ 900 := by decide
    exact Answer.measures_none hShort
  split
  · exact measures_deleteFile
  · rw [if_neg (by simp [hUpload, hDownload])]
    refine Answer.measures_some 25 ?_ (by decide)
    exact
      (Answer.contentSize_error _ _).trans
        String.utf8ByteSize_append

/-
  The answer of the server itself is short if it repeats
  nothing, and else not much longer than what it repeats.
-/
theorem measures_respond?
    {rest : Stream.Reader}
    {x : Response}
    (hRespond : s.respond? rest (.ok c) = some x)
    (hOwn : s.dispatched? (.ok c) = none) :
    x.answer.Measures (s.echo? rest c) := by
  have hStop : c.isStop = false := by
    cases hStop : c.isStop with
    | false => rfl
    | true =>
        rw [respond?_of_isStop s rest hStop] at hRespond
        cases hRespond
  cases hWrong : s.wrongServer? c with
  | some refusal =>
      rw [respond?_of_wrongServer rest hStop hWrong] at hRespond
      cases hRespond
      simp only [echo?, hWrong, Option.isSome_some, if_true]
      exact measures_wrongServer hWrong
  | none =>
  cases hInternal : c.isInternal with
  | true =>
      rcases respond?_internal rest hStop hWrong hInternal with
        ⟨hNotStop, hSame⟩
      rw [hSame] at hRespond
      cases hRespond
      simp only [echo?, hWrong, hInternal, Option.isSome_none,
        Bool.false_eq_true, if_false, if_true]
      split
      · exact measures_receive rest hWrong
      next hUpload =>
      split
      · exact measures_downloadResponse hWrong
      next hDownload =>
      exact
        measures_processInternal hNotStop hUpload hDownload
  | false =>
      rw [respond?_of_isInternal rest hWrong hInternal]
        at hRespond
      cases hRespond
      simp only [dispatched?, hWrong, hInternal,
        Option.isSome_none, Bool.or_false, Bool.false_eq_true,
        if_false, Option.map_eq_none_iff] at hOwn
      simp only [echo?, hWrong, hInternal, Option.isSome_none,
        Bool.false_eq_true, if_false, Registry.dispatch, hOwn]
      refine Answer.measures_some 19 ?_ (by decide)
      exact
        (Answer.contentSize_error _ _).trans
          String.utf8ByteSize_append

end Server

end Courier

------------------------------------------------------------
-- Log Records
------------------------------------------------------------

namespace Courier

namespace LogQuery

/- What the answer to a client that wants records repeats. -/
def echo
    (buffer : LogBuffer)
    (c : Command) : Echo :=
  match ofCommand c with
  | .error text => .quoted text
  | .ok q => .records (q.select (buffer.snapshot none))

/- A limit is a number of 64 bits. -/
theorem limit_lt_of_ofCommand
    {c : Command}
    {q : LogQuery}
    (hQuery : ofCommand c = .ok q) :
    q.limit < UInt64.size := by
  unfold ofCommand at hQuery
  split at hQuery
  · next limit hLimit =>
      cases hQuery
      unfold limitOf at hLimit
      split at hLimit
      · cases hLimit
        show defaultLimit < UInt64.size
        decide
      · split at hLimit
        · next hText =>
            cases hLimit
            exact Numeral.lt_of_natural? hText
        · cases hLimit
  · cases hQuery

/- The summary of records is short. -/
theorem utf8ByteSize_summary_le
    {records : List LogRecord}
    (hCount : records.length < UInt64.size) :
    (summary records).utf8ByteSize ≤ 88 := by
  have hWord (level : String) :
      (toString (countOf level records)).utf8ByteSize ≤ 20 :=
    Answer.utf8ByteSize_word_le
      (Nat.lt_of_le_of_lt List.countP_le_length hCount)
  have hAll := Answer.utf8ByteSize_word_le hCount
  have hWarn := hWord LogLevel.warn.name
  have hError := hWord LogLevel.error.name
  have hText :
      summary records =
        toString records.length ++ " log records " ++
          ("(" ++
            toString (countOf LogLevel.warn.name records) ++
            " warn, " ++
            toString (countOf LogLevel.error.name records) ++
            " error)") :=
    rfl
  have hRecords : " log records ".utf8ByteSize = 13 := rfl
  have hOpen : "(".utf8ByteSize = 1 := rfl
  have hMiddle : " warn, ".utf8ByteSize = 7 := rfl
  have hClose : " error)".utf8ByteSize = 7 := rfl
  rw [hText]
  simp only [String.utf8ByteSize_append]
  omega

/-
  The answer to a client that wants records is not much
  longer than these, or than what it said for a limit.
-/
theorem measures_answer
    (buffer : LogBuffer)
    (c : Command) :
    (answer buffer c).Measures (some (echo buffer c)) := by
  unfold answer echo
  cases hQuery : ofCommand c with
  | error text =>
      refine Answer.measures_some 14 ?_ (by decide)
      exact
        (Answer.contentSize_error _ _).trans
          String.utf8ByteSize_append
  | ok q =>
      have hLimit := limit_lt_of_ofCommand hQuery
      have hCount :
          (q.select (buffer.snapshot none)).length <
            UInt64.size := by
        rw [select, length_newest]
        omega
      simp only [recordsOf_eq_select]
      refine
        Answer.measures_some _ rfl
          (Nat.le_trans (utf8ByteSize_summary_le hCount)
            (by decide))

end LogQuery

end Courier
