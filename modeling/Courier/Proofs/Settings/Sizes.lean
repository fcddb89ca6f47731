import Courier.Proofs.Client.TimeLimit
import Courier.Proofs.Link.Transfer
import Courier.Proofs.Server.Stopping
import Courier.Server.Startup

/-
  The times and sizes that come of a configuration.

  Times and the bound on messages are checked, so that what
  comes of them is exact.  The size of the buffer for files
  is not checked.  It is taken modulo the word size, and all
  copies of clients and servers go through a buffer of the
  size that is left.

  Key definitions include:
    * `FileServerSettings.bufferBytes`
    * `Config.TimesAreExact`
    * `Config.MessagesFit`
    * `ClientSettings.CopiesThrough`
    * `Server.CopiesThrough`
    * `Config.CopiesThrough`
    * `Config.BufferIsExact`

  Key theorems include:
    * `FileServerSettings.toNat_bufferSize_eq_iff`
    * `Config.timesAreExact`
    * `Config.messagesFit`
    * `ClientSettings.copiesThrough`
    * `Server.copiesThrough_run`
    * `Config.copiesThrough`
    * `Config.sizes_of_validate`
-/

------------------------------------------------------------
-- Buffers
------------------------------------------------------------

namespace Courier

namespace FileServerSettings

/-
  The bytes that are to be copied at once: those of all
  kilobytes that are set, and of one if none are.
-/
def bufferBytes
    (s : FileServerSettings) : Nat :=
  max s.bufferSizeKb.toNat 1 * 1024

/- The bytes are counted modulo the word size. -/
theorem toNat_bufferSize
    (s : FileServerSettings) :
    s.bufferSize.toNat = s.bufferBytes % UInt64.size := by
  have hCount :
      (if s.bufferSizeKb = 0 then 1
          else s.bufferSizeKb).toNat =
        max s.bufferSizeKb.toNat 1 := by
    by_cases hNone : s.bufferSizeKb = 0
    · rw [if_pos hNone, hNone]
      rfl
    · rw [if_neg hNone]
      rw [← UInt64.toNat_inj] at hNone
      have hZero : (0 : UInt64).toNat = 0 := rfl
      omega
  rw [bufferSize, UInt64.toNat_mul, hCount]
  rfl

/- The count is right if it is below the word size. -/
theorem toNat_bufferSize_eq_iff
    (s : FileServerSettings) :
    s.bufferSize.toNat = s.bufferBytes ↔
      s.bufferSizeKb.toNat < 2 ^ 54 := by
  rw [toNat_bufferSize]
  unfold bufferBytes UInt64.size
  omega

/- There are bytes to be copied. -/
theorem bufferBytes_pos
    (s : FileServerSettings) :
    0 < s.bufferBytes := by
  unfold bufferBytes
  omega

end FileServerSettings

end Courier

------------------------------------------------------------
-- Times and Messages
------------------------------------------------------------

namespace Courier

namespace Config

/-
  The milliseconds of a configuration are those of its
  seconds, and there are some for every command and for the
  server.
-/
structure TimesAreExact
    (c : Config) : Prop where
  base :
    c.defaultTimeoutMs.toNat =
      c.connectionTimeoutSecs.toNat * 1000
  overall :
    ∀ seconds,
      c.clientTimeoutSecs = some seconds →
        ∀ m : Command,
          (timeLimitOf m c.clientTimeoutSecs).toNat =
            seconds.toNat * 1000
  made :
    ∀ dispatcherId name,
      (timeLimitOf (c.newCommand dispatcherId name)
          c.clientTimeoutSecs).toNat =
        c.callLimit
  base_pos : 0 < c.defaultTimeoutMs.toNat
  limit_pos :
    ∀ m : Command,
      0 < (timeLimitOf m c.clientTimeoutSecs).toNat
  server_pos : 0 < c.serverTimeoutSecs.toNat * 1000

/-
  The bound on messages is between the least one and the
  most that the length in front of a message can say.
-/
structure MessagesFit
    (c : Config) : Prop where
  least : SettingError.minMessageSize ≤ c.maxMessageSize.toNat
  most : c.maxMessageSize.toNat ≤ Frame.maxLength
  length :
    ∀ line : String,
      (Utf8.encode line.toList).length ≤
          c.maxMessageSize.toNat →
        ∃ frame,
          Frame.encode line = .ok frame ∧
            Bytes.toWord (frame.take 4) =
              (Utf8.encode line.toList).length

variable {c : Config}
variable {files : FileView}

/- An accepted limit comes to some time. -/
theorem toNat_millis_pos
    {seconds : UInt64}
    (hAccepted :
      Validation.timeout seconds.toNat = .ok ()) :
    0 < (millis seconds).toNat := by
  rw [toNat_millis hAccepted]
  have hSome := (Validation.timeout_eq_ok_iff.mp hAccepted).1
  omega

/- A command has some time even if it sets no limit. -/
theorem timeLimitOf_none_pos
    (m : Command) :
    0 < (timeLimitOf m none).toNat := by
  unfold timeLimitOf
  by_cases hNone : m.timeoutMs = 0
  · rw [if_pos hNone]
    decide
  · rw [if_neg hNone]
    rw [← UInt64.toNat_inj] at hNone
    exact Nat.pos_of_ne_zero hNone

/- Accepted times are exact. -/
theorem timesAreExact
    (hPasses : c.Passes files) :
    c.TimesAreExact := by
  have hBase := toNat_millis hPasses.connection
  have hBasePos := toNat_millis_pos hPasses.connection
  have hOverall
      (seconds : UInt64)
      (hSome : c.clientTimeoutSecs = some seconds)
      (m : Command) :
      timeLimitOf m c.clientTimeoutSecs = millis seconds := by
    rw [hSome]
    rfl
  have hFilled : c.defaultTimeoutMs ≠ 0 := by
    intro hZero
    have hNone := congrArg UInt64.toNat hZero
    exact absurd hNone (Nat.ne_of_gt hBasePos)
  have hServer :=
    (Validation.timeout_eq_ok_iff.mp hPasses.server).1
  refine ⟨hBase, ?_, ?_, hBasePos, ?_, by omega⟩
  · intro seconds hSome m
    rw [hOverall seconds hSome m]
    exact toNat_millis (hPasses.client seconds hSome)
  · intro dispatcherId name
    unfold callLimit
    cases hClient : c.clientTimeoutSecs with
    | some seconds =>
        exact toNat_millis (hPasses.client seconds hClient)
    | none =>
        have hMade :
            (c.newCommand dispatcherId name).timeoutMs =
              c.defaultTimeoutMs :=
          rfl
        rw [timeLimitOf, hMade, if_neg hFilled]
        exact hBase
  · intro m
    cases hClient : c.clientTimeoutSecs with
    | some seconds =>
        exact
          toNat_millis_pos (hPasses.client seconds hClient)
    | none => exact timeLimitOf_none_pos m

/- An accepted bound on messages fits the length in front. -/
theorem messagesFit
    (hPasses : c.Passes files) :
    c.MessagesFit := by
  rcases Validation.messageSize_eq_ok_iff.mp hPasses.size with
    ⟨hLeast, hMost⟩
  refine ⟨hLeast, hMost, ?_⟩
  intro line hShort
  have hFits := Nat.le_trans hShort hMost
  refine ⟨_, Frame.encode_eq_ok_iff.mpr ⟨hFits, rfl⟩, ?_⟩
  rw [List.take_left' (Bytes.length_ofWord _)]
  unfold Frame.maxLength at hFits
  exact Bytes.toWord_ofWord (by omega)

end Config

end Courier

------------------------------------------------------------
-- Copies of Clients
------------------------------------------------------------

namespace Courier

/-
  All files that a client sends or fetches go through a
  buffer of the given size.
-/
structure ClientSettings.CopiesThrough
    (s : ClientSettings)
    (size : Nat) : Prop where
  choice :
    ∀ (e : Errand) (found limit : Nat),
      .copy found limit ∈ e.choices s → found = size
  upload :
    ∀ (c : Command) (u : Upload) (path : String)
        (source : Stream.Reader) (k : Connection),
      let copied :=
        Copy.through u.size.toNat size (s.timeLimit c) source
          k.writer
      (Transfer.sendBytes s c u path source k).sent =
        copied.writer.written
  download :
    ∀ (c : Command) (d d' : Destination) (count : Nat)
        (r : Stream.Reader),
      let copied :=
        Copy.through count size (s.timeLimit c) r d.disk
      Transfer.collect s c d count r = (.ok (), d') →
        (∃ total, copied.outcome = .ok total) ∧
          d'.content = some copied.writer.written

namespace ClientSettings

/- A client copies through the buffer that it is set to. -/
theorem copiesThrough
    (s : ClientSettings) :
    s.CopiesThrough s.bufferSize.toNat := by
  refine ⟨?_, ?_, ?_⟩
  · intro e found limit hMem
    have hLimit : (Choice.copy found limit).limit? ≠ none :=
      nofun
    rcases Errand.mem_choices hMem with hNone | hSocket | hPost
    · exact absurd hNone hLimit
    · rcases Errand.mem_choicesBySocket hSocket with
        hDial | hFrame | hAnswer | hBytes
      · cases hDial
      · cases hFrame
      · cases hAnswer
      · cases hBytes
        rfl
    · cases hPost
  · intro m u path source k
    rfl
  · intro m d d' count r
    exact Transfer.copied_of_collect

end ClientSettings

end Courier

------------------------------------------------------------
-- Copies of Servers
------------------------------------------------------------

namespace Courier

/-
  What a writer is after a response, and how long it took.
  A file goes through a buffer of the given size, after it
  was announced.
-/
def Server.Response.through
    (x : Response)
    (size limit : Nat)
    (w : Stream.Writer) : Stream.Writer × Nat :=
  let replied := Frame.writeAnswer limit w x.answer
  if x.answer.status = .fileOk ∧
      replied.outcome = some (.ok ()) then
    let copied :=
      Copy.through x.payload.length size limit
        (.ofBytes x.payload) replied.writer
    (copied.writer, replied.waited + copied.waited)
  else
    (replied.writer, replied.waited)

/-
  All files that a server takes or hands out go through a
  buffer of the given size, and each piece has the given
  limit.
-/
structure Server.CopiesThrough
    (s : Server)
    (size limit : Nat) : Prop where
  upload :
    ∀ (c : Command) (r : Stream.Reader),
      let copied :=
        Copy.through c.dataLength.toNat size limit r .endless
      (s.receive c r).reader = copied.reader ∧
        (s.receive c r).waited = copied.waited
  download :
    ∀ (c : Command) (w : Stream.Writer),
      ((s.send c w).writer, (s.send c w).waited) =
        (s.downloadResponse c).through size limit w

namespace Server

/- An upload is read through the buffer of the server. -/
theorem receive_eq_collect
    (s : Server)
    (c : Command)
    (r : Stream.Reader) :
    (s.receive c r).reader =
        (s.collect c.dataLength.toNat r).reader ∧
      (s.receive c r).waited =
        (s.collect c.dataLength.toNat r).waited := by
  unfold receive
  dsimp only
  split
  · exact ⟨rfl, rfl⟩
  · exact ⟨rfl, rfl⟩
  · exact ⟨rfl, rfl⟩
  · unfold keep
    split
    · exact ⟨rfl, rfl⟩
    · exact ⟨rfl, rfl⟩

/- Without a file only the answer is written. -/
theorem sendAnswer_eq_through
    {a : Answer}
    (s : Server)
    (w : Stream.Writer)
    (hStatus : a.status ≠ .fileOk) :
    ((s.sendAnswer w a).writer, (s.sendAnswer w a).waited) =
      (Response.only a).through s.bufferSize s.readTimeout
        w := by
  have hNot :
      ¬ ((Response.only a).answer.status = .fileOk ∧
        (Frame.writeAnswer s.readTimeout w
          (Response.only a).answer).outcome =
            some (.ok ())) :=
    fun hBoth => hStatus hBoth.1
  rw [Response.through, if_neg hNot]
  rfl

/- The copy of a file is sent through the buffer. -/
theorem sendCopy_eq_through
    {files : Store}
    {d : Download}
    {content : Bytes}
    (s : Server)
    (w : Stream.Writer)
    (hRead : files.temp.read d.copy = .ok content) :
    ((s.sendCopy files d w).writer,
        (s.sendCopy files d w).waited) =
      Response.through
        { answer :=
            { Answer.fileOk d.fileId with
              dataLength := UInt64.ofNat content.length }
          payload := content }
        s.bufferSize s.readTimeout w := by
  have hLength : d.length files.temp = .ok content.length := by
    simp only [Download.length, hRead]
  generalize hAnswer :
    { Answer.fileOk d.fileId with
      dataLength := UInt64.ofNat content.length } = a
  have hStatus : a.status = .fileOk := by
    rw [← hAnswer]
    rfl
  simp only [sendCopy, hLength, hAnswer, Response.through,
    hStatus, true_and, reply]
  split
  · next hSent =>
      rw [if_pos hSent]
      simp only [Download.streamTo, Download.streamThen,
        Download.copyTo, hRead]
  · next hNot =>
      rw [if_neg hNot]

/- A refusal does not announce a file. -/
theorem status_of_wrongServer?
    {s : Server}
    {c : Command}
    {refusal : Answer}
    (hServer : s.wrongServer? c = some refusal) :
    refusal.status ≠ .fileOk := by
  unfold wrongServer? at hServer
  split at hServer
  · cases hServer
  · cases hServer
    have hOther : Status.error ≠ .fileOk := by decide
    exact hOther

/- Neither does an answer that there is no file. -/
theorem status_fileNok
    (failure : Failure)
    (text : String) :
    (Answer.fileNok failure text).status ≠ .fileOk := by
  have hOther : Status.fileNok ≠ .fileOk := by decide
  exact hOther

/- A server copies through its buffer and with its limit. -/
theorem copiesThrough
    (s : Server) :
    s.CopiesThrough s.bufferSize s.readTimeout := by
  refine ⟨s.receive_eq_collect, ?_⟩
  intro c w
  unfold send downloadResponse
  cases hServer : s.wrongServer? c with
  | some refusal =>
      exact
        sendAnswer_eq_through s w
          (status_of_wrongServer? hServer)
  | none =>
  cases s.store with
  | none =>
      exact
        sendAnswer_eq_through s w (status_fileNok _ _)
  | some files =>
      dsimp only
      rcases hFind :
        files.find (c.fileId.getD c.entity) c.domain with
        ⟨found, files'⟩
      rcases found with e | (_ | d)
      · exact
          sendAnswer_eq_through _ w (status_fileNok _ _)
      · exact
          sendAnswer_eq_through _ w (status_fileNok _ _)
      · cases hRead : files'.temp.read d.copy with
        | error e =>
            have hLength :
                d.length files'.temp = .error e := by
              simp only [Download.length, hRead]
            simp only [sendCopy, hLength, hRead]
            exact
              sendAnswer_eq_through _ w (status_fileNok _ _)
        | ok content =>
            simp only [hRead]
            exact sendCopy_eq_through _ w hRead

/- Events leave the setup alone. -/
theorem setup_run
    (t : Option Tunnel)
    (s : Server)
    (events : List Event) :
    (s.run t events).setup = s.setup := by
  induction events generalizing s with
  | nil => rfl
  | cons e rest ih => exact (ih _).trans (s.setup_step t e)

/- So a server goes on to copy as it does at the start. -/
theorem copiesThrough_run
    (t : Option Tunnel)
    (s : Server)
    (events : List Event) :
    (s.run t events).CopiesThrough s.bufferSize
      s.readTimeout := by
  have hSetup := s.setup_run t events
  have hBuffer := congrArg Server.bufferSize hSetup
  have hTimeout := congrArg Server.readTimeout hSetup
  have hSize : (s.run t events).bufferSize = s.bufferSize :=
    hBuffer
  have hLimit :
      (s.run t events).readTimeout = s.readTimeout :=
    hTimeout
  rw [← hSize, ← hLimit]
  exact copiesThrough _

end Server

namespace Backend

/- A server takes over the sizes of its configuration. -/
theorem sizes_of_start
    {c : Config}
    {buffer : LogBuffer}
    {site : Site}
    {b : Backend}
    (hStart : (start c buffer site).outcome = .ok b) :
    b.server.bufferSize = c.fileServer.bufferSize.toNat ∧
      b.server.readTimeout =
        c.serverTimeoutSecs.toNat * 1000 := by
  unfold start at hStart
  split at hStart
  · cases hStart
  split at hStart
  · cases hStart
  dsimp only [make] at hStart
  split at hStart
  · cases hStart
  split at hStart
  · cases hStart
  cases hStart
  exact ⟨rfl, rfl⟩

end Backend

end Courier

------------------------------------------------------------
-- Accepted Configurations
------------------------------------------------------------

namespace Courier

namespace Config

/-
  All copies go through a buffer of the given size: those of
  a client that has the settings of the configuration, and
  those of a server that was started with it, whatever
  happened to it since then.
-/
structure CopiesThrough
    (c : Config)
    (size : Nat) : Prop where
  client :
    ∀ files s,
      ClientSettings.ofConfig c files = .ok s →
        s.CopiesThrough size
  server :
    ∀ buffer site b,
      (Backend.start c buffer site).outcome = .ok b →
        ∀ events,
          (b.server.run b.tunnel events).CopiesThrough size
            (c.serverTimeoutSecs.toNat * 1000)

/-
  The buffer has all bytes that are to be copied at once,
  and there are some, which are those of all copies.
-/
structure BufferIsExact
    (c : Config) : Prop where
  exact :
    c.fileServer.bufferSize.toNat = c.fileServer.bufferBytes
  some : c.fileServer.bufferSize ≠ 0
  copies : c.CopiesThrough c.fileServer.bufferBytes

variable {c : Config}
variable {files : FileView}

/- The size of the buffer is handed to all copies. -/
theorem copiesThrough
    (c : Config) :
    c.CopiesThrough c.fileServer.bufferSize.toNat := by
  constructor
  · intro files s hMade
    rcases ClientSettings.numbers_of_ofConfig hMade with
      ⟨-, -, hSize⟩
    rw [← hSize]
    exact s.copiesThrough
  · intro buffer site b hStart events
    rcases Backend.sizes_of_start hStart with
      ⟨hSize, hLimit⟩
    rw [← hSize, ← hLimit]
    exact b.server.copiesThrough_run b.tunnel events

/- The buffer is exact if its bytes can be counted. -/
theorem bufferIsExact_iff
    (c : Config) :
    c.BufferIsExact ↔
      c.fileServer.bufferSizeKb.toNat < 2 ^ 54 := by
  rw [← FileServerSettings.toNat_bufferSize_eq_iff]
  constructor
  · exact BufferIsExact.exact
  · intro hExact
    refine ⟨hExact, ?_, ?_⟩
    · intro hZero
      have hPos := c.fileServer.bufferBytes_pos
      rw [← hExact, hZero] at hPos
      exact absurd hPos (by decide)
    · rw [← hExact]
      exact c.copiesThrough

/-
  The times and the bound on messages of an accepted
  configuration are exact.  The size of its buffer is so as
  well if there are less than 2^54 kilobytes, and otherwise
  it is taken modulo the word size.  What is left, which may
  be nothing, is the size that all copies are made with.
-/
theorem sizes_of_validate
    (hValid : c.validate files = .ok ()) :
    c.TimesAreExact ∧
      c.MessagesFit ∧
      c.CopiesThrough c.fileServer.bufferSize.toNat ∧
      c.fileServer.bufferSize.toNat =
        c.fileServer.bufferBytes % UInt64.size ∧
      (c.BufferIsExact ↔
        c.fileServer.bufferSizeKb.toNat < 2 ^ 54) := by
  have hPasses := validate_eq_ok_iff.mp hValid
  exact
    ⟨timesAreExact hPasses, messagesFit hPasses,
      c.copiesThrough, c.fileServer.toNat_bufferSize,
      c.bufferIsExact_iff⟩

/- A configuration with a buffer of so many kilobytes. -/
def buffered
    (count : UInt64) : Config :=
  { default with
    fileServer :=
      { FileServerSettings.default with
        bufferSizeKb := count } }

/- It is accepted, since the buffer is not checked. -/
theorem validate_buffered
    (count : UInt64)
    (files : FileView) :
    (buffered count).validate files = .ok () := by
  have hDefault : Passes default files :=
    validate_eq_ok_iff.mp rfl
  exact
    validate_eq_ok_iff.mpr
      { name := hDefault.name
        connection := hDefault.connection
        client := hDefault.client
        server := hDefault.server
        size := hDefault.size
        endpoint := hDefault.endpoint
        tls := hDefault.tls
        key := hDefault.key }

/-
  With one kilobyte less than is too much the buffer is
  exact, and with that one nothing is left of it.
-/
theorem sizes_of_validate_brim :
    let files : FileView := fun _ => .error .notFound
    let full := buffered 18014398509481983
    let spilled := buffered 18014398509481984
    full.validate files = .ok () ∧
      full.BufferIsExact ∧
      spilled.validate files = .ok () ∧
      spilled.CopiesThrough 0 ∧
      ¬ spilled.BufferIsExact := by
  intro files full spilled
  have hFull : full.validate files = .ok () :=
    validate_buffered _ files
  have hSpilled : spilled.validate files = .ok () :=
    validate_buffered _ files
  rcases sizes_of_validate hFull with ⟨-, -, -, -, hExact⟩
  rcases sizes_of_validate hSpilled with
    ⟨-, -, hCopies, -, hNot⟩
  have hNothing : spilled.fileServer.bufferSize.toNat = 0 := by
    decide
  rw [hNothing] at hCopies
  refine
    ⟨hFull, hExact.mpr (by decide), hSpilled, hCopies, ?_⟩
  intro hBuffer
  exact Nat.lt_irrefl (2 ^ 54) (hNot.mp hBuffer)

/- An accepted configuration may have no buffer at all. -/
theorem not_forall_bufferIsExact :
    ¬ ∀ (c : Config) (files : FileView),
      c.validate files = .ok () → c.BufferIsExact := by
  intro hAll
  have hBuffer :=
    hAll (buffered 18014398509481984)
      (fun _ => .error .notFound) (validate_buffered _ _)
  exact hBuffer.some rfl

end Config

end Courier
