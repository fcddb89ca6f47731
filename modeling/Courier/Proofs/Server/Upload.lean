import Courier.Proofs.Server.Response
import Courier.Proofs.Storage.Store

/-
  Which uploads a server takes.

  An upload has to meet six conditions, which are tried in
  their order.  If it meets them all, the file of its key
  gets the announced bytes.  Otherwise no file changes, and
  the answer names the first condition that was not met.

  Key definitions include:
    * `Server.shelf`
    * `Server.announced`
    * `Server.ruling`
    * `Server.uploadChecks`
    * `Server.violation?`
    * `Server.IsReadyFor`
    * `Server.Settles`

  Key theorems include:
    * `Server.keep_ruling`
    * `Server.settles_receive`
    * `Server.reader_receive`
    * `Server.handle_upload`
-/

------------------------------------------------------------
-- Conditions
------------------------------------------------------------

namespace Courier

/- The failure of an upload whose bytes end too early. -/
def Stream.Ending.failure : Stream.Ending → Failure
  | .closed => .lengthMismatch
  | .late => .lengthMismatch
  | .broken e =>
      if e.kind = .unexpectedEof ∨ e.kind = .timedOut then
        .lengthMismatch
      else
        .storage

namespace Server

/- The files that the server keeps. -/
def shelf
    (s : Server) : Shelf :=
  match s.store with
  | some files => files.shelf
  | none => Shelf.empty

/- The announced bytes of an upload, as far as they arrive. -/
def announced
    (s : Server)
    (c : Command)
    (r : Stream.Reader) : Bytes :=
  (r.arrival s.readTimeout).bytes.take c.dataLength.toNat

/-
  What is asked of an upload, each with the failure that
  stands for it.
-/
def uploadChecks
    (s : Server)
    (c : Command)
    (r : Stream.Reader) : List (Bool × Failure) :=
  let arrived := r.arrival s.readTimeout
  let entity := FileEntity.decode? c.entity
  [(c.serverName == "" || c.serverName == s.name,
      .wrongServer),
    (s.store.isSome, .fileServerDisabled),
    (entity.isSome, .malformed),
    (decide (c.dataLength.toNat ≤ arrived.bytes.length),
      arrived.ending.failure),
    (entity.any fun (_, checksum) =>
        sameChecksum (Md5.hex (s.announced c r)) checksum,
      .checksumMismatch),
    (entity.any fun (name, _) =>
        (Store.key? name c.domain).isSome,
      .storage)]

/- The first condition that an upload does not meet. -/
def violation?
    (s : Server)
    (c : Command)
    (r : Stream.Reader) : Option Failure :=
  ((s.uploadChecks c r).find? fun check => !check.1).map
    Prod.snd

/-
  Temporary files can be made, the stored files are laid out
  as the server lays them out, and all names are short
  enough for the file system.
-/
structure IsReadyFor
    (s : Server)
    (c : Command) : Prop where
  uploads : s.uploads.isPresent = true
  isFlat : ∀ files ∈ s.store, files.IsFlat
  hasRoom :
    ∀ files ∈ s.store, ∀ u ∈ Upload.ofCommand? c,
      ∀ key ∈ Store.key? u.fileName u.domain,
        files.HasRoom key

end Server

end Courier

------------------------------------------------------------
-- Collecting
------------------------------------------------------------

namespace Courier

namespace Server

variable {s : Server}
variable {c : Command}
variable {r : Stream.Reader}

/- Bytes that all arrive are collected, and only they. -/
theorem collect_eq_ok
    {count : Nat}
    (hEnough :
      count ≤ (r.arrival s.readTimeout).bytes.length) :
    ∃ waited r' w',
      s.collect count r = ⟨.ok count, waited, r', w'⟩ ∧
        w'.written =
          (r.arrival s.readTimeout).bytes.take count ∧
        r'.arrival s.readTimeout =
          { r.arrival s.readTimeout with
            bytes :=
              (r.arrival s.readTimeout).bytes.drop count } ∧
        r'.content = r.content.drop count := by
  rcases
    Copy.through_eq_ok s.bufferSize
      Stream.Writer.isOpen_endless hEnough with
    ⟨waited, r', w', hCopy, -, hWritten, hArrival, hContent⟩
  exact ⟨waited, r', w', hCopy, hWritten, hArrival, hContent⟩

/- An upload that is broken off has the failure of its end. -/
theorem brokenUpload_fault
    (e : Stream.Ending)
    (missing total : Nat) :
    ∃ text,
      brokenUpload (e.fault missing total) =
        .fileNok e.failure text := by
  cases e with
  | closed => exact ⟨_, rfl⟩
  | late => exact ⟨_, rfl⟩
  | broken e =>
      show
        ∃ text,
          (if e.kind = .unexpectedEof ∨ e.kind = .timedOut then
              Answer.fileNok .lengthMismatch e.message
            else storageFailure e.message) =
            .fileNok (Stream.Ending.broken e).failure text
      refine ⟨e.message, ?_⟩
      by_cases hShort :
          e.kind = .unexpectedEof ∨ e.kind = .timedOut
      · rw [if_pos hShort, Stream.Ending.failure,
          if_pos hShort]
      · rw [if_neg hShort, Stream.Ending.failure,
          if_neg hShort]
        rfl

/-
  What comes of an upload that is collected: the answer to
  it and the files after it.
-/
def ruling
    (s : Server)
    (u : Upload)
    (files : Store)
    (c : Command)
    (r : Stream.Reader) : Answer × Store :=
  let arrived := r.arrival s.readTimeout
  let total := c.dataLength.toNat
  if s.uploads.isPresent = false then
    (storageFailure IoError.notFound.message, files)
  else if arrived.bytes.length < total then
    (brokenUpload
      (arrived.ending.fault (total - arrived.bytes.length)
        total), files)
  else
    judge u files (s.announced c r)

/- Bytes of the expected length are not refused for it. -/
theorem accept_of_length
    (u : Upload)
    (files : Store)
    {count : Nat}
    {content : Bytes}
    (hLength : content.length = count) :
    accept u files count (.ok content) =
      judge u files content :=
  if_pos hLength

/- All bytes that were collected have the expected length. -/
theorem length_collect
    {count n : Nat}
    (hOk : (s.collect count r).outcome = .ok n) :
    (s.collect count r).writer.written.length = count := by
  rcases Copy.written_through_of_ok hOk with
    ⟨bytes, hWritten, hLength⟩
  rw [collect, hWritten]
  exact hLength

/- An upload is collected to be ruled on. -/
theorem keep_ruling
    {files : Store}
    (u : Upload)
    (hStore : s.store = some files) :
    (s.keep u files c.dataLength.toNat r).answer =
        (s.ruling u files c r).1 ∧
      (s.keep u files c.dataLength.toNat r).server.store =
        some (s.ruling u files c r).2 := by
  simp only [ruling]
  cases hPresent : s.uploads.isPresent with
  | false =>
      have hCreate : s.uploads.create = .error .notFound := by
        rw [TemporaryFiles.create, hPresent]
        rfl
      simp only [keep, hCreate, if_true]
      exact ⟨rfl, hStore⟩
  | true =>
      rcases TemporaryFiles.exists_create hPresent with
        ⟨n, uploads, hCreate, -⟩
      simp only [keep, hCreate, Bool.true_eq_false, if_false]
      by_cases hFew :
          (r.arrival s.readTimeout).bytes.length <
            c.dataLength.toNat
      · have hBroken :=
          (Copy.through_eq_error s.bufferSize
            Stream.Writer.isOpen_endless hFew).1
        rw [← collect] at hBroken
        simp only [hBroken, if_pos hFew, and_self]
      · rcases collect_eq_ok (Nat.not_lt.mp hFew) with
          ⟨waited, r', w', hCopy, hWritten, -, -⟩
        have hContent :
            (uploads.put n w'.written).read n =
              .ok (s.announced c r) := by
          rw [hWritten]
          exact TemporaryFiles.read_put_create hCreate _
        have hLength :
            (s.announced c r).length = c.dataLength.toNat :=
          List.length_take_of_le (Nat.not_lt.mp hFew)
        simp only [hCopy, hContent,
          accept_of_length u files hLength, if_neg hFew,
          and_self]

end Server

end Courier

------------------------------------------------------------
-- Single Conditions
------------------------------------------------------------

namespace Courier

namespace Server

variable {s : Server}
variable {c : Command}
variable {r : Stream.Reader}

/- A command is refused if it names another server. -/
theorem wrongServer?_eq
    (s : Server)
    (c : Command) :
    s.wrongServer? c =
      if (c.serverName == "" || c.serverName == s.name) then
        none
      else
        some
          (.error .wrongServer
            s!"command addressed to {c.serverName}") := by
  unfold wrongServer?
  by_cases hServer : c.serverName = "" ∨ c.serverName = s.name
  · rw [if_pos hServer, if_pos (by simpa using hServer)]
  · rw [if_neg hServer, if_neg (by simpa using hServer)]

/- The bytes of an upload are stored as they are. -/
theorem exists_judge
    {files : Store}
    {u : Upload}
    (content : Bytes)
    (hFlat : files.IsFlat)
    (hRoom :
      ∀ key ∈ Store.key? u.fileName u.domain,
        files.HasRoom key) :
    ∃ a files',
      judge u files content = (a, files') ∧
        files'.IsFlat ∧
        if !sameChecksum (Md5.hex content) u.checksum then
          a.status = .fileNok ∧
            a.failure = some .checksumMismatch ∧
            files'.shelf = files.shelf
        else
          match Store.key? u.fileName u.domain with
          | none =>
              a.status = .fileNok ∧
                a.failure = some .storage ∧
                files'.shelf = files.shelf
          | some key =>
              a = .fileOk (FileName.sanitize u.fileName) ∧
                files'.shelf = files.shelf.put key content := by
  simp only [judge]
  cases sameChecksum (Md5.hex content) u.checksum with
  | false =>
      exact ⟨_, _, rfl, hFlat, rfl, rfl, rfl⟩
  | true =>
      simp only [if_true, Bool.not_true, Bool.false_eq_true,
        if_false]
      cases hKey : Store.key? u.fileName u.domain with
      | none =>
          rcases
            Store.store_invalid files hKey (.whole content) with
            ⟨bad, hStore⟩
          simp only [hStore]
          exact ⟨_, _, rfl, hFlat, rfl, rfl, rfl⟩
      | some key =>
          have hName := (Store.key?_eq_some hKey).1
          rcases
            Store.store_eq_ok hFlat hKey (hRoom _ hKey)
              content with
            ⟨files', hStore, hFlat', hShelf, -⟩
          simp only [hStore]
          refine ⟨_, _, rfl, hFlat', ?_, hShelf⟩
          rw [Store.component?_eq_some hName]

end Server

end Courier

------------------------------------------------------------
-- Uploads
------------------------------------------------------------

namespace Courier

namespace Server

variable {s : Server}
variable {c : Command}
variable {r : Stream.Reader}

/-
  A server takes an upload that meets all conditions and
  refuses any other for the first that it does not meet.
-/
structure Settles
    (s : Server)
    (c : Command)
    (r : Stream.Reader)
    (a : Answer)
    (after : Shelf) : Prop where
  refused :
    ∀ f, s.violation? c r = some f →
      a.status.isFailure = true ∧
        a.failure = some f ∧
        after = s.shelf
  taken :
    s.violation? c r = none →
      ∃ name checksum key,
        FileEntity.decode? c.entity = some (name, checksum) ∧
          Store.key? name c.domain = some key ∧
          a = .fileOk (FileName.sanitize name) ∧
          after = s.shelf.put key (s.announced c r)

/- An upload that is refused for a reason is settled. -/
theorem Settles.of_refused
    {a : Answer}
    {f : Failure}
    {after : Shelf}
    (hViolation : s.violation? c r = some f)
    (hStatus : a.status.isFailure = true)
    (hFailure : a.failure = some f)
    (hSame : after = s.shelf) :
    s.Settles c r a after := by
  constructor
  · intro g hOther
    rw [hViolation] at hOther
    cases hOther
    exact ⟨hStatus, hFailure, hSame⟩
  · intro hNone
    rw [hViolation] at hNone
    cases hNone

/- The last three conditions, if the first three are met. -/
theorem violation?_eq
    {files : Store}
    {name checksum : String}
    (hAddressed :
      (c.serverName == "" || c.serverName == s.name) = true)
    (hStore : s.store = some files)
    (hEntity :
      FileEntity.decode? c.entity = some (name, checksum)) :
    s.violation? c r =
      if (r.arrival s.readTimeout).bytes.length <
          c.dataLength.toNat then
        some (r.arrival s.readTimeout).ending.failure
      else if !sameChecksum (Md5.hex (s.announced c r))
          checksum then
        some .checksumMismatch
      else
        match Store.key? name c.domain with
        | none => some .storage
        | some _ => none := by
  simp only [violation?, uploadChecks, hAddressed, hStore,
    hEntity, Option.isSome_some, Option.any_some,
    List.find?_cons, Bool.not_true, List.find?_nil]
  by_cases hFew :
      (r.arrival s.readTimeout).bytes.length <
        c.dataLength.toNat
  · rw [if_pos hFew]
    simp only [Nat.not_le.mpr hFew, decide_false,
      Bool.not_false, Option.map_some]
  · rw [if_neg hFew]
    simp only [Nat.not_lt.mp hFew, decide_true, Bool.not_true]
    cases sameChecksum (Md5.hex (s.announced c r)) checksum with
    | false => rfl
    | true =>
        cases Store.key? name c.domain with
        | none => rfl
        | some key => rfl

/- What becomes of an upload whose bytes are all there. -/
theorem settles_judge
    {files files' : Store}
    {name checksum : String}
    {u : Upload}
    {a : Answer}
    (hAddressed :
      (c.serverName == "" || c.serverName == s.name) = true)
    (hStore : s.store = some files)
    (hEntity :
      FileEntity.decode? c.entity = some (name, checksum))
    (hUpload : Upload.ofCommand? c = some u)
    (hEnough :
      c.dataLength.toNat ≤
        (r.arrival s.readTimeout).bytes.length)
    (hFlat : files.IsFlat)
    (hRoom :
      ∀ key ∈ Store.key? u.fileName u.domain,
        files.HasRoom key)
    (hJudge :
      judge u files (s.announced c r) = (a, files')) :
    s.Settles c r a files'.shelf ∧ files'.IsFlat := by
  have hShelf : s.shelf = files.shelf := by
    rw [shelf, hStore]
  have hViolation :=
    violation?_eq (r := r) hAddressed hStore hEntity
  rw [if_neg (Nat.not_lt.mpr hEnough)] at hViolation
  rcases exists_judge (s.announced c r) hFlat hRoom with
    ⟨a', files'', hSame, hFlat', hSettled⟩
  rw [hJudge] at hSame
  cases hSame
  simp only [Upload.ofCommand?, hEntity,
    Option.some.injEq] at hUpload
  subst hUpload
  refine ⟨?_, hFlat'⟩
  split at hSettled
  · next hOther =>
      rcases hSettled with ⟨hStatus, hFailure, hKept⟩
      rw [if_pos hOther] at hViolation
      apply Settles.of_refused hViolation _ hFailure
      · rw [hShelf, hKept]
      · rw [hStatus]
        rfl
  · next hSum =>
      rw [if_neg hSum] at hViolation
      cases hKey : Store.key? name c.domain with
      | none =>
          rw [hKey] at hSettled hViolation
          rcases hSettled with ⟨hStatus, hFailure, hKept⟩
          apply Settles.of_refused hViolation _ hFailure
          · rw [hShelf, hKept]
          · rw [hStatus]
            rfl
      | some key =>
          rw [hKey] at hSettled hViolation
          rcases hSettled with ⟨hAnswer, hStored⟩
          constructor
          · intro f hSome
            rw [hViolation] at hSome
            cases hSome
          · intro _
            refine
              ⟨name, checksum, key, hEntity, hKey, hAnswer, ?_⟩
            rw [hShelf, hStored]

/- What becomes of an upload that is collected. -/
theorem settles_keep
    {files : Store}
    {name checksum : String}
    {u : Upload}
    (hReady : s.IsReadyFor c)
    (hAddressed :
      (c.serverName == "" || c.serverName == s.name) = true)
    (hStore : s.store = some files)
    (hEntity :
      FileEntity.decode? c.entity = some (name, checksum))
    (hUpload : Upload.ofCommand? c = some u) :
    s.Settles c r
        (s.keep u files c.dataLength.toNat r).answer
        (s.keep u files c.dataLength.toNat r).server.shelf ∧
      (∀ files' ∈
          (s.keep u files c.dataLength.toNat r).server.store,
        files'.IsFlat) := by
  have hFlat := hReady.isFlat files hStore
  have hRoom := hReady.hasRoom files hStore u hUpload
  rcases keep_ruling (c := c) (r := r) u hStore with
    ⟨hAnswer, hStore'⟩
  have hShelf :
      (s.keep u files c.dataLength.toNat r).server.shelf =
        (s.ruling u files c r).2.shelf := by
    rw [shelf, hStore']
  rw [hAnswer, hShelf, hStore']
  simp only [ruling, hReady.uploads, Bool.true_eq_false,
    if_false, Option.mem_def, Option.some.injEq,
    forall_eq']
  by_cases hFew :
      (r.arrival s.readTimeout).bytes.length <
        c.dataLength.toNat
  · have hViolation :=
      violation?_eq (r := r) hAddressed hStore hEntity
    rw [if_pos hFew] at hViolation
    rcases
      brokenUpload_fault (r.arrival s.readTimeout).ending
        (c.dataLength.toNat -
          (r.arrival s.readTimeout).bytes.length)
        c.dataLength.toNat
      with ⟨text, hBroken⟩
    rw [if_pos hFew, hBroken]
    refine ⟨.of_refused hViolation rfl rfl ?_, hFlat⟩
    rw [shelf, hStore]
  · rw [if_neg hFew]
    cases hJudge : judge u files (s.announced c r) with
    | mk a files' =>
        exact
          settles_judge hAddressed hStore hEntity hUpload
            (Nat.not_lt.mp hFew) hFlat hRoom hJudge

/- What becomes of an upload. -/
theorem settles_receive
    (hReady : s.IsReadyFor c) :
    s.Settles c r (s.receive c r).answer
        (s.receive c r).server.shelf ∧
      (∀ files ∈ (s.receive c r).server.store,
        files.IsFlat) := by
  unfold receive
  rw [wrongServer?_eq]
  cases hAddressed :
      (c.serverName == "" || c.serverName == s.name) with
  | false =>
      refine
        ⟨.of_refused ?_ rfl rfl rfl, hReady.isFlat⟩
      simp [violation?, uploadChecks, hAddressed]
  | true =>
      cases hStore : s.store with
      | none =>
          refine
            ⟨.of_refused ?_ rfl rfl rfl, hReady.isFlat⟩
          simp [violation?, uploadChecks, hAddressed, hStore]
      | some files =>
          cases hEntity : FileEntity.decode? c.entity with
          | none =>
              have hUpload : Upload.ofCommand? c = none := by
                simp only [Upload.ofCommand?, hEntity]
              rw [hUpload]
              refine
                ⟨.of_refused ?_ rfl rfl rfl, hReady.isFlat⟩
              simp [violation?, uploadChecks, hAddressed,
                hStore, hEntity]
          | some pair =>
              rcases pair with ⟨name, checksum⟩
              obtain ⟨u, hUpload⟩ :
                  ∃ u, Upload.ofCommand? c = some u := by
                simp only [Upload.ofCommand?, hEntity]
                exact ⟨_, rfl⟩
              rw [hUpload]
              exact
                settles_keep hReady hAddressed hStore hEntity
                  hUpload

/-
  What is read of an upload does not depend on its fate, and
  the time limit stays.
-/
theorem reader_receive
    (s : Server)
    (c : Command)
    (r : Stream.Reader) :
    (s.receive c r).reader =
        (s.collect c.dataLength.toNat r).reader ∧
      (s.receive c r).server.readTimeout = s.readTimeout := by
  unfold receive
  split
  · exact ⟨rfl, rfl⟩
  · exact ⟨rfl, rfl⟩
  · exact ⟨rfl, rfl⟩
  · unfold keep
    split
    · exact ⟨rfl, rfl⟩
    · exact ⟨rfl, rfl⟩

end Server

end Courier

------------------------------------------------------------
-- Connections with Uploads
------------------------------------------------------------

namespace Courier

namespace Server

/-
  An upload on a connection is settled by its conditions,
  and that is what is answered.  If all announced bytes
  arrive, these and no others are read.
-/
theorem handle_upload
    (s : Server)
    (c : Command)
    (input : Stream.Reader)
    (w : Stream.Writer)
    (hRead : (s.request input).outcome = some (.ok c))
    (hUpload : c.hasVerb Command.uploadVerb = true)
    (hReady : s.IsReadyFor c) :
    ∃ a,
      (s.handle input w).writer = (s.reply w a).writer ∧
        s.Settles c (s.request input).reader a
          (s.handle input w).server.shelf ∧
        (c.dataLength.toNat ≤
            ((s.request input).reader.arrival
              s.readTimeout).bytes.length →
          (s.handle input w).reader.content =
            (s.request input).reader.content.drop
              c.dataLength.toNat) := by
  unfold handle
  rw [← request]
  simp only [hRead, carryOut, hUpload, if_true]
  rcases reader_receive s c (s.request input).reader with
    ⟨hReader, hTimeout⟩
  refine
    ⟨(s.receive c (s.request input).reader).answer, ?_,
      (settles_receive hReady).1, ?_⟩
  · simp only [Exchange.answer, reply, hTimeout]
  · intro hEnough
    simp only [Exchange.answer, hReader]
    rcases collect_eq_ok hEnough with
      ⟨waited, r', w', hCopy, -, -, hContent⟩
    rw [hCopy]
    exact hContent

end Server

end Courier

------------------------------------------------------------
-- Uploads of One Byte
------------------------------------------------------------

namespace Courier

namespace Server

/- A server that keeps files and has none yet. -/
def fresh : Server :=
  make "backend" [] (some Store.empty) 512 16 2000

/- The announcement of a file with the letter a in it. -/
def letterUpload
    (dataLength : UInt64) : Command :=
  { Command.internal Command.uploadVerb with
    serverName := "backend"
    entity := "a b:0CC175B9C0F1B6A831C399E269772661"
    dataLength := dataLength }

/- The announcement in two pieces, and a byte too many. -/
def letterInput : Stream.Reader :=
  [.data
      (Bytes.ofWord 98 ++
        Utf8.encode
          ("backend#|#cmdlink-internal#|#" ++
            "FILE_RECEIVE_REQUEST#|#").toList),
    .delay 2000,
    .data
      (Utf8.encode
          ("a b:0CC175B9C0F1B6A831C399E269772661" ++
            "#|#1#|##|#").toList ++ [10]),
    .delay 2000,
    .data [97, 98]]

/- The announced name and checksum. -/
theorem decode?_letterUpload
    (dataLength : UInt64) :
    FileEntity.decode? (letterUpload dataLength).entity =
      some ("a b", "0CC175B9C0F1B6A831C399E269772661") := by
  show
    FileEntity.decode?
        "a b:0CC175B9C0F1B6A831C399E269772661" = _
  decide +kernel

/- The server can take that file. -/
theorem isReadyFor_letterUpload
    (dataLength : UInt64) :
    fresh.IsReadyFor (letterUpload dataLength) := by
  refine ⟨rfl, ?_, ?_⟩
  · intro files hMem
    cases hMem
    exact Tree.isFlat_nil
  · intro files hMem u hUpload key hKey
    cases hMem
    rw [Option.mem_def, Upload.ofCommand?,
      decode?_letterUpload] at hUpload
    cases hUpload
    have hPlace :
        Store.key? "a b" none = some ("default", "a_b") := rfl
    have hSame := hPlace.symm.trans hKey
    cases hSame
    decide +kernel

/- A file of one byte is taken, whatever comes behind it. -/
theorem handle_upload_letter :
    (fresh.request letterInput).outcome =
        some (.ok (letterUpload 1)) ∧
      (letterUpload 1).hasVerb Command.uploadVerb = true ∧
      fresh.IsReadyFor (letterUpload 1) ∧
      ∃ a,
        (fresh.handle letterInput .endless).writer =
            (fresh.reply .endless a).writer ∧
          a = .fileOk "a_b" ∧
          (fresh.handle letterInput .endless).server.shelf =
            Shelf.empty.put ("default", "a_b") [97] ∧
          (fresh.handle letterInput .endless).reader.content =
            [98] := by
  have hRead :
      (fresh.request letterInput).outcome =
        some (.ok (letterUpload 1)) := by
    rfl
  have hRest :
      (fresh.request letterInput).reader =
        [.delay 2000, .data [97, 98]] := by
    rfl
  have hReady := isReadyFor_letterUpload 1
  rcases
    handle_upload fresh (letterUpload 1) letterInput .endless
      hRead (by decide) hReady with
    ⟨a, hWriter, hSettled, hReader⟩
  rw [hRest] at hSettled hReader
  have hBytes :
      fresh.announced (letterUpload 1)
        [.delay 2000, .data [97, 98]] = [97] := by
    decide +kernel
  have hTaken :
      fresh.violation? (letterUpload 1)
        [.delay 2000, .data [97, 98]] = none := by
    decide +kernel
  rcases hSettled.taken hTaken with
    ⟨name, checksum, key, hEntity, hKey, hAnswer, hStored⟩
  rw [hBytes] at hStored
  rw [decode?_letterUpload] at hEntity
  cases hEntity
  have hPlace :
      Store.key? "a b" (letterUpload 1).domain =
        some ("default", "a_b") := by
    decide +kernel
  rw [hPlace] at hKey
  cases hKey
  refine
    ⟨hRead, by decide, hReady, a, hWriter, ?_, hStored, ?_⟩
  · have hName : FileName.sanitize "a b" = "a_b" := by
      decide +kernel
    rw [hAnswer, hName]
  · exact hReader (by decide +kernel)

/- A connection that fails is not one that ends too early. -/
theorem not_forall_lengthMismatch :
    ¬ ∀ (s : Server) (c : Command) (r : Stream.Reader),
      s.IsReadyFor c →
        (c.serverName = "" ∨ c.serverName = s.name) →
        s.store.isSome = true →
        (FileEntity.decode? c.entity).isSome = true →
        (r.arrival s.readTimeout).bytes.length <
          c.dataLength.toNat →
        (s.receive c r).answer.failure =
          some .lengthMismatch := by
  intro hAll
  let r : Stream.Reader :=
    [.data [97], .fail ⟨.connectionReset, "boom"⟩]
  have hReady := isReadyFor_letterUpload 2
  have hShort :=
    hAll fresh (letterUpload 2) r hReady (Or.inr rfl) rfl
      (by decide +kernel) (by decide +kernel)
  have hSettled := (settles_receive (r := r) hReady).1
  have hBroken :
      fresh.violation? (letterUpload 2) r = some .storage := by
    decide +kernel
  rw [(hSettled.refused _ hBroken).2.1] at hShort
  cases hShort

end Server

end Courier
