import Courier.Proofs.Client.Call
import Courier.Proofs.Client.Fetching

/-
  Whom a client blames when a transfer breaks off.

  A transfer has a file on one side and a server on the other,
  and its error names one of the two.  The bytes of the file
  go from one side to the other in a single copy.  What a copy
  reports does not tell the sides apart, and a client goes by
  the kind of the failure or by nothing at all, so that it
  blames the wrong side for some of them.

  Key definitions include:
    * `Side`
    * `TransportError.side?`
    * `Transfer.Operation`
    * `Transfer.Operation.isMisjudged`
    * `Transfer.Operation.IsNamedBy`
    * `Transfer.UploadFails`
    * `Transfer.CollectFails`
    * `Transfer.DownloadFails`

  Key theorems include:
    * `Transfer.outcome_upload_eq_error_iff`
    * `Transfer.outcome_download_eq_error_iff`
    * `Transfer.UploadFails.side?_eq`
    * `Transfer.DownloadFails.side?_eq`
    * `Transfer.errors_name_sides`
-/

------------------------------------------------------------
-- Sides
------------------------------------------------------------

namespace Courier

/- The two sides of a transfer. -/
inductive Side where
| file : Side
| peer : Side
deriving DecidableEq, Repr

/- The side across. -/
def Side.other : Side → Side
  | .file => .peer
  | .peer => .file

namespace TransportError

/- The side that an error names, if it can end a transfer. -/
def side? : TransportError → Option Side
  | .localFile .. => some .file
  | .unresolvedHost .. | .connect .. | .timeout .. | .io ..
  | .tls _ | .protocol _ => some .peer
  | .http .. | .httpStatus .. | .bind .. => none

variable {host : String}
variable {port : UInt16}
variable {limit : Nat}

/- A failure of the connection is one of the peer. -/
theorem side?_ofIo
    (e : IoError) :
    (ofIo host port limit e).side? = some .peer := by
  unfold ofIo
  split <;> rfl

/- So is a failure to exchange a message. -/
theorem side?_ofProtocol
    (e : ProtocolError) :
    (ofProtocol host port limit e).side? = some .peer := by
  unfold ofProtocol
  split
  · exact side?_ofIo _
  · rfl

/- So is a failure to connect. -/
theorem side?_toError
    (fault : Connection.Fault) :
    (fault.toError host port limit).side? = some .peer := by
  cases fault <;> rfl

end TransportError

end Courier

------------------------------------------------------------
-- Operations
------------------------------------------------------------

namespace Courier

/- The fault is one of what a copy reads from. -/
def Copy.Fault.isReading : Copy.Fault → Bool
  | .readTimedOut | .short .. | .reader _ => true
  | .writeTimedOut | .flushTimedOut | .writer _ => false

namespace Transfer

/-
  What fails in a transfer.  An upload gives the bytes of its
  file away, a download takes them.
-/
inductive Operation where
| opening : Operation
| connecting : Operation
| sending : Operation
| giving : Copy.Fault → Operation
| receiving : Operation
| making : Operation
| taking : Copy.Fault → Operation
| placing : Operation
deriving DecidableEq, Repr

namespace Operation

/- The side on which something failed. -/
def side : Operation → Side
  | .opening | .making | .placing => .file
  | .connecting | .sending | .receiving => .peer
  | .giving fault => if fault.isReading then .file else .peer
  | .taking fault => if fault.isReading then .peer else .file

/-
  The client blames the other side: it takes the end of a
  stream for one of the file when it gives bytes, everything
  else for a failure of the peer, and everything for one of
  the peer when it takes bytes.
-/
def isMisjudged : Operation → Bool
  | .giving (.reader e) => e.kind != .unexpectedEof
  | .giving (.writer e) => e.kind == .unexpectedEof
  | .giving .readTimedOut => true
  | .taking fault => !fault.isReading
  | _ => false

/- The side that is blamed. -/
def blamed
    (op : Operation) : Side :=
  if op.isMisjudged then op.side.other else op.side

/- An error names the side on which something failed. -/
structure IsNamedBy
    (op : Operation)
    (e : TransportError) : Prop where
  file : (∃ path io, e = .localFile path io) ↔ op.side = .file
  peer : e.side? = some .peer ↔ op.side = .peer

/- An error names a side, the right one or the other. -/
theorem isNamedBy_iff
    {op : Operation}
    {e : TransportError}
    (hSide : e.side? = some op.blamed) :
    op.IsNamedBy e ↔ op.isMisjudged = false := by
  have hFile :
      (∃ path io, e = .localFile path io) ↔
        op.blamed = .file := by
    cases e with
    | localFile path io =>
        have hBlamed := Option.some.inj hSide
        exact ⟨fun _ => hBlamed.symm, fun _ => ⟨path, io, rfl⟩⟩
    | _ =>
        constructor
        · rintro ⟨path, io, hEq⟩
          cases hEq
        · intro hBlamed
          rw [hBlamed] at hSide
          cases hSide
  have hPeer : e.side? = some .peer ↔ op.blamed = .peer := by
    rw [hSide, Option.some.injEq]
  have hOther : op.side.other ≠ op.side := by
    cases op.side <;> decide
  constructor
  · intro hNamed
    have hEq : op.blamed = op.side := by
      cases hActual : op.side with
      | file => exact hFile.1 (hNamed.file.2 hActual)
      | peer => exact hPeer.1 (hNamed.peer.2 hActual)
    unfold blamed at hEq
    split at hEq
    · exact absurd hEq hOther
    · next hRight => exact eq_false_of_ne_true hRight
  · intro hRight
    have hEq : op.blamed = op.side := by
      rw [blamed, hRight]
      rfl
    rw [hEq] at hFile hPeer
    exact ⟨hFile, hPeer⟩

end Operation

end Transfer

end Courier

------------------------------------------------------------
-- Failing Transfers
------------------------------------------------------------

namespace Courier

namespace Transfer

section Failures

variable (net : Network)
variable (files : LocalFiles)
variable (s : ClientSettings)
variable (c : Command)
variable (u : Upload)
variable (d : Destination)

/- Where an upload fails, and what it reports. -/
inductive UploadFails : Operation → TransportError → Prop where
| opening :
    ∀ {e : TransportError},
      sourceOf files u = .error e →
        UploadFails .opening e
| connecting :
    ∀ {parcel : Parcel} {e : TransportError},
      sourceOf files u = .ok parcel →
        Wire.reach net s c = .error e →
          UploadFails .connecting e
| sending :
    ∀ {parcel : Parcel} {k : Connection} {e : TransportError},
      sourceOf files u = .ok parcel →
        Wire.reach net s c = .ok k →
          Wire.say s c k = .error e →
            UploadFails .sending e
| giving :
    ∀ {parcel : Parcel} {k : Connection} {fault : Copy.Fault},
      sourceOf files u = .ok parcel →
        (Wire.dial net s c).outcome = .ok k →
          (Copy.through u.size.toNat s.bufferSize.toNat
              (s.timeLimit c) parcel.bytes k.writer).outcome =
            .error fault →
            UploadFails (.giving fault)
              (uploadFault c (s.timeLimit c) parcel.path fault)
| receiving :
    ∀ {parcel : Parcel} {k k' : Connection}
      {e : TransportError},
      sourceOf files u = .ok parcel →
        (Wire.dial net s c).outcome = .ok k →
          hand s c u parcel k = .ok k' →
            Wire.receive s c k' = .error e →
              UploadFails .receiving e

/- Where the collecting of a file fails. -/
inductive CollectFails
    (count : Nat)
    (r : Stream.Reader) :
    Operation → TransportError → Prop where
| making :
    ∀ {e : IoError},
      d.temp.create = .error e →
        CollectFails count r .making (.localFile d.path e)
| taking :
    ∀ {n : Nat} {temp : TemporaryFiles} {fault : Copy.Fault},
      d.temp.create = .ok (n, temp) →
        (Copy.through count s.bufferSize.toNat (s.timeLimit c) r
            d.disk).outcome = .error fault →
          CollectFails count r (.taking fault)
            (.ofIo c.host c.port (s.timeLimit c)
              fault.toIoError)
| placing :
    ∀ {n total : Nat} {temp : TemporaryFiles} {e : IoError},
      d.temp.create = .ok (n, temp) →
        (Copy.through count s.bufferSize.toNat (s.timeLimit c) r
            d.disk).outcome = .ok total →
          (Destination.replace
              { d with
                temp :=
                  temp.put n
                    (Copy.through count s.bufferSize.toNat
                      (s.timeLimit c) r d.disk).writer.written }
              n).1 = .error e →
            CollectFails count r .placing
              (.localFile d.path e)

/- Where a download fails, and what it reports. -/
inductive DownloadFails :
    Operation → TransportError → Prop where
| connecting :
    ∀ {e : TransportError},
      Wire.reach net s c = .error e →
        DownloadFails .connecting e
| sending :
    ∀ {k : Connection} {e : TransportError},
      Wire.reach net s c = .ok k →
        Wire.say s c k = .error e →
          DownloadFails .sending e
| receiving :
    ∀ {k : Connection} {e : TransportError},
      (Wire.dial net s c).outcome = .ok k →
        Wire.receive s c k = .error e →
          DownloadFails .receiving e
| collecting :
    ∀ {k : Connection} {a : Answer} {r : Stream.Reader}
      {op : Operation} {e : TransportError},
      (Wire.dial net s c).outcome = .ok k →
        Wire.receive s c k = .ok (a, r) →
          a.status = .fileOk →
            CollectFails s c d a.dataLength.toNat r op e →
              DownloadFails op e

end Failures

variable {net : Network}
variable {files : LocalFiles}
variable {s : ClientSettings}
variable {c : Command}
variable {u : Upload}
variable {d : Destination}
variable {e : TransportError}

/- Two steps fail if one of them does. -/
theorem bind_eq_error_iff
    {ε α β : Type}
    {got : Except ε α}
    {step : α → Except ε β}
    {fault : ε} :
    got.bind step = .error fault ↔
      got = .error fault ∨
        ∃ a, got = .ok a ∧ step a = .error fault := by
  cases got with
  | error e => simp [Except.bind]
  | ok a => simp [Except.bind]

/- A step that cannot fail leaves a failure as it is. -/
theorem map_eq_error_iff
    {ε α β : Type}
    {got : Except ε α}
    {step : α → β}
    {fault : ε} :
    got.map step = .error fault ↔ got = .error fault := by
  cases got with
  | error e => simp [Except.map]
  | ok a => simp [Except.map]

/- A client fails to dial if it cannot connect or send. -/
theorem dial_eq_error_iff :
    (Wire.dial net s c).outcome = .error e ↔
      Wire.reach net s c = .error e ∨
        ∃ k,
          Wire.reach net s c = .ok k ∧
          Wire.say s c k = .error e := by
  rw [Wire.outcome_dial]
  exact bind_eq_error_iff

/- Bytes are not handed over if the copy breaks off. -/
theorem hand_eq_error_iff
    {parcel : Parcel}
    {k : Connection} :
    hand s c u parcel k = .error e ↔
      ∃ fault,
        (Copy.through u.size.toNat s.bufferSize.toNat
            (s.timeLimit c) parcel.bytes k.writer).outcome =
          .error fault ∧
        uploadFault c (s.timeLimit c) parcel.path fault = e := by
  unfold hand
  dsimp only
  cases (Copy.through u.size.toNat s.bufferSize.toNat
      (s.timeLimit c) parcel.bytes k.writer).outcome with
  | error fault => simp
  | ok n => simp

/- An upload fails exactly if one of its operations does. -/
theorem outcome_upload_eq_error_iff :
    (upload net files s u).outcome = .error e ↔
      ∃ op, UploadFails net files s (s.stamp u.toCommand) u op e := by
  rw [outcome_upload]
  constructor
  · intro hFailed
    rcases bind_eq_error_iff.1 hFailed with
      hOpen | ⟨parcel, hOpen, hFailed⟩
    · exact ⟨_, .opening hOpen⟩
    rcases bind_eq_error_iff.1 hFailed with
      hDial | ⟨k, hDial, hFailed⟩
    · rcases dial_eq_error_iff.1 hDial with
        hReach | ⟨k, hReach, hSay⟩
      · exact ⟨_, .connecting hOpen hReach⟩
      · exact ⟨_, .sending hOpen hReach hSay⟩
    rw [outcome_sendBytes] at hFailed
    rcases bind_eq_error_iff.1 hFailed with
      hHand | ⟨k', hHand, hReceive⟩
    · obtain ⟨fault, hCopy, rfl⟩ := hand_eq_error_iff.1 hHand
      exact ⟨_, .giving hOpen hDial hCopy⟩
    · exact
        ⟨_, .receiving hOpen hDial hHand
          (map_eq_error_iff.1 hReceive)⟩
  · rintro ⟨op, hFails⟩
    cases hFails with
    | opening hOpen => exact bind_eq_error_iff.2 (.inl hOpen)
    | connecting hOpen hReach =>
        refine bind_eq_error_iff.2 (.inr ⟨_, hOpen, ?_⟩)
        have hDial := dial_eq_error_iff.2 (.inl hReach)
        exact bind_eq_error_iff.2 (.inl hDial)
    | sending hOpen hReach hSay =>
        refine bind_eq_error_iff.2 (.inr ⟨_, hOpen, ?_⟩)
        have hDial :=
          dial_eq_error_iff.2 (.inr ⟨_, hReach, hSay⟩)
        exact bind_eq_error_iff.2 (.inl hDial)
    | giving hOpen hDial hCopy =>
        refine bind_eq_error_iff.2 (.inr ⟨_, hOpen, ?_⟩)
        refine bind_eq_error_iff.2 (.inr ⟨_, hDial, ?_⟩)
        rw [outcome_sendBytes]
        apply bind_eq_error_iff.2
        exact .inl (hand_eq_error_iff.2 ⟨_, hCopy, rfl⟩)
    | receiving hOpen hDial hHand hReceive =>
        refine bind_eq_error_iff.2 (.inr ⟨_, hOpen, ?_⟩)
        refine bind_eq_error_iff.2 (.inr ⟨_, hDial, ?_⟩)
        rw [outcome_sendBytes]
        apply bind_eq_error_iff.2
        exact .inr ⟨_, hHand, map_eq_error_iff.2 hReceive⟩

/- A download dials, receives, and collects the bytes. -/
theorem outcome_download
    (net : Network)
    (s : ClientSettings)
    (fileId : String)
    (domain : Option String)
    (d : Destination) :
    (download net s fileId domain d).1.outcome =
      (Wire.dial net s
          (s.stamp (Download.request fileId domain))).outcome.bind
        fun k =>
          (Wire.receive s
              (s.stamp (Download.request fileId domain)) k).bind
            fun got =>
              if got.1.status ≠ .fileOk then .ok got.1
              else
                (collect s
                  (s.stamp (Download.request fileId domain)) d
                  got.1.dataLength.toNat got.2).1.map
                    fun _ => got.1 := by
  unfold download
  dsimp only
  cases (Wire.dial net s
      (s.stamp (Download.request fileId domain))).outcome with
  | error e => rfl
  | ok k =>
      dsimp only [Except.bind]
      cases Wire.receive s
          (s.stamp (Download.request fileId domain)) k with
      | error e => rfl
      | ok got =>
          dsimp only
          by_cases hOther : got.1.status ≠ .fileOk
          · rw [if_pos hOther, if_pos hOther]
          · rw [if_neg hOther, if_neg hOther]
            rcases collect s
                (s.stamp (Download.request fileId domain)) d
                got.1.dataLength.toNat got.2 with ⟨_ | _, d'⟩
            · rfl
            · rfl

/- Collecting fails exactly if one of its operations does. -/
theorem collect_eq_error_iff
    {count : Nat}
    {r : Stream.Reader} :
    (collect s c d count r).1 = .error e ↔
      ∃ op, CollectFails s c d count r op e := by
  unfold collect
  constructor
  · intro hFailed
    split at hFailed
    · next hCreate =>
        cases hFailed
        exact ⟨_, .making hCreate⟩
    · next n temp hCreate =>
        dsimp only at hFailed
        split at hFailed
        · next fault hCopy =>
            cases hFailed
            exact ⟨_, .taking hCreate hCopy⟩
        · next total hCopy =>
            split at hFailed
            · cases hFailed
            · next hPlace =>
                cases hFailed
                exact
                  ⟨_, .placing hCreate hCopy
                    (congrArg Prod.fst hPlace)⟩
  · rintro ⟨op, hFails⟩
    cases hFails with
    | making hCreate => rw [hCreate]
    | taking hCreate hCopy =>
        rw [hCreate]
        dsimp only
        rw [hCopy]
    | placing hCreate hCopy hPlace =>
        rw [hCreate]
        dsimp only
        rw [hCopy]
        dsimp only
        split
        · next hPlaced =>
            rw [hPlaced] at hPlace
            cases hPlace
        · next hPlaced =>
            rw [hPlaced] at hPlace
            cases hPlace
            rfl

/- A download fails exactly if one of its operations does. -/
theorem outcome_download_eq_error_iff
    {fileId : String}
    {domain : Option String} :
    (download net s fileId domain d).1.outcome = .error e ↔
      ∃ op,
        DownloadFails net s
          (s.stamp (Download.request fileId domain)) d op e := by
  rw [outcome_download]
  generalize s.stamp (Download.request fileId domain) = c
  constructor
  · intro hFailed
    rcases bind_eq_error_iff.1 hFailed with
      hDial | ⟨k, hDial, hFailed⟩
    · rcases dial_eq_error_iff.1 hDial with
        hReach | ⟨k, hReach, hSay⟩
      · exact ⟨_, .connecting hReach⟩
      · exact ⟨_, .sending hReach hSay⟩
    rcases bind_eq_error_iff.1 hFailed with
      hReceive | ⟨got, hReceive, hFailed⟩
    · exact ⟨_, .receiving hDial hReceive⟩
    split at hFailed
    · cases hFailed
    · next hFound =>
        obtain ⟨op, hFails⟩ :=
          collect_eq_error_iff.1 (map_eq_error_iff.1 hFailed)
        exact
          ⟨op, .collecting hDial hReceive
            (Decidable.not_not.1 hFound) hFails⟩
  · rintro ⟨op, hFails⟩
    cases hFails with
    | connecting hReach =>
        have hDial := dial_eq_error_iff.2 (.inl hReach)
        exact bind_eq_error_iff.2 (.inl hDial)
    | sending hReach hSay =>
        have hDial :=
          dial_eq_error_iff.2 (.inr ⟨_, hReach, hSay⟩)
        exact bind_eq_error_iff.2 (.inl hDial)
    | receiving hDial hReceive =>
        refine bind_eq_error_iff.2 (.inr ⟨_, hDial, ?_⟩)
        exact bind_eq_error_iff.2 (.inl hReceive)
    | collecting hDial hReceive hFound hFails =>
        refine bind_eq_error_iff.2 (.inr ⟨_, hDial, ?_⟩)
        refine bind_eq_error_iff.2 (.inr ⟨_, hReceive, ?_⟩)
        dsimp only
        rw [if_neg (not_not_intro hFound)]
        exact
          map_eq_error_iff.2 (collect_eq_error_iff.2 ⟨_, hFails⟩)

end Transfer

end Courier

------------------------------------------------------------
-- Sides of Errors
------------------------------------------------------------

namespace Courier

variable {net : Network}
variable {files : LocalFiles}
variable {s : ClientSettings}
variable {c : Command}
variable {u : Upload}
variable {d : Destination}
variable {e : TransportError}

namespace Wire

/- Who cannot connect blames the peer. -/
theorem side?_of_reach
    (hReach : reach net s c = .error e) :
    e.side? = some .peer := by
  unfold reach at hReach
  dsimp only at hReach
  split at hReach
  · cases hReach
    exact TransportError.side?_toError _
  · cases hReach

/- Who cannot send a command blames the peer. -/
theorem side?_of_say
    {k : Connection}
    (hSay : say s c k = .error e) :
    e.side? = some .peer := by
  unfold say at hSay
  dsimp only at hSay
  split at hSay
  · cases hSay
  · cases hSay
    exact TransportError.side?_ofProtocol _
  · cases hSay
    rfl

/- Who receives no answer blames the peer. -/
theorem side?_of_receive
    {k : Connection}
    (hReceive : receive s c k = .error e) :
    e.side? = some .peer := by
  unfold receive at hReceive
  dsimp only at hReceive
  split at hReceive
  · cases hReceive
  · cases hReceive
    exact TransportError.side?_ofProtocol _
  · cases hReceive
    rfl

end Wire

namespace Transfer

/- Who has no file to open blames the file. -/
theorem side?_of_sourceOf
    (hOpen : sourceOf files u = .error e) :
    e.side? = some .file := by
  unfold sourceOf at hOpen
  split at hOpen
  · cases hOpen
    rfl
  · split at hOpen
    · cases hOpen
      rfl
    · cases hOpen

/- Who cannot give bytes goes by the kind of the failure. -/
theorem side?_uploadFault
    (c : Command)
    (limit : Nat)
    (path : String)
    (fault : Copy.Fault) :
    (uploadFault c limit path fault).side? =
      some (Operation.giving fault).blamed := by
  unfold uploadFault
  dsimp only
  by_cases hEof : fault.toIoError.kind = .unexpectedEof
  · rw [if_pos hEof]
    cases fault with
    | short missing total => rfl
    | reader io | writer io =>
        have hKind : io.kind = .unexpectedEof := hEof
        simp [Operation.blamed, Operation.isMisjudged,
          Operation.side, Copy.Fault.isReading, Side.other,
          TransportError.side?, hKind]
    | readTimedOut | writeTimedOut | flushTimedOut => cases hEof
  · rw [if_neg hEof, TransportError.side?_ofIo]
    cases fault with
    | short missing total => exact absurd rfl hEof
    | reader io | writer io =>
        have hKind : io.kind ≠ .unexpectedEof := hEof
        simp [Operation.blamed, Operation.isMisjudged,
          Operation.side, Copy.Fault.isReading, Side.other,
          hKind]
    | readTimedOut | writeTimedOut | flushTimedOut => rfl

/- An upload that fails blames a side. -/
theorem UploadFails.side?_eq
    {op : Operation}
    (hFails : UploadFails net files s c u op e) :
    e.side? = some op.blamed := by
  cases hFails with
  | opening hOpen => exact side?_of_sourceOf hOpen
  | connecting hOpen hReach => exact Wire.side?_of_reach hReach
  | sending hOpen hReach hSay => exact Wire.side?_of_say hSay
  | giving hOpen hDial hCopy => exact side?_uploadFault ..
  | receiving hOpen hDial hHand hReceive =>
      exact Wire.side?_of_receive hReceive

/- A download that fails blames a side. -/
theorem DownloadFails.side?_eq
    {op : Operation}
    (hFails : DownloadFails net s c d op e) :
    e.side? = some op.blamed := by
  cases hFails with
  | connecting hReach => exact Wire.side?_of_reach hReach
  | sending hReach hSay => exact Wire.side?_of_say hSay
  | receiving hDial hReceive =>
      exact Wire.side?_of_receive hReceive
  | collecting hDial hReceive hFound hFails =>
      cases hFails with
      | making hCreate => rfl
      | @taking n temp fault hCreate hCopy =>
          rw [TransportError.side?_ofIo]
          cases fault <;> rfl
      | placing hCreate hCopy hPlace => rfl

/-
  A transfer that fails does so at one of its operations, and
  the error names the side of this operation unless the
  client misjudges it.
-/
theorem errors_name_sides
    (net : Network)
    (files : LocalFiles)
    (s : ClientSettings) :
    (∀ (u : Upload) (e : TransportError),
      (upload net files s u).outcome = .error e ↔
        ∃ op,
          UploadFails net files s (s.stamp u.toCommand) u op
            e) ∧
    (∀ (u : Upload) (op : Operation) (e : TransportError),
      UploadFails net files s (s.stamp u.toCommand) u op e →
        (op.IsNamedBy e ↔ op.isMisjudged = false)) ∧
    (∀ (fileId : String) (domain : Option String)
        (d : Destination) (e : TransportError),
      (download net s fileId domain d).1.outcome = .error e ↔
        ∃ op,
          DownloadFails net s
            (s.stamp (Download.request fileId domain)) d op
            e) ∧
    ∀ (fileId : String) (domain : Option String)
        (d : Destination) (op : Operation)
        (e : TransportError),
      DownloadFails net s
          (s.stamp (Download.request fileId domain)) d op e →
        (op.IsNamedBy e ↔ op.isMisjudged = false) :=
  ⟨fun _ _ => outcome_upload_eq_error_iff,
    fun _ _ _ hFails => Operation.isNamedBy_iff hFails.side?_eq,
    fun _ _ _ _ => outcome_download_eq_error_iff,
    fun _ _ _ _ _ hFails =>
      Operation.isNamedBy_iff hFails.side?_eq⟩

/- Directories can be opened, but nothing can be read. -/
def directories : LocalFiles :=
  fun _ => .ok [.fail .isADirectory]

/- An upload from a directory. -/
def folder : Upload :=
  { fileName := "folder"
    domain := none
    user := none
    size := 1
    checksum := ""
    source := some "folder" }

/- What is said of a disk that takes nothing more. -/
def diskFull : IoError :=
  .ofSystem .storageFull "No space left on device" 28

/- A place on a disk with room for one byte. -/
def corner : Destination :=
  { letter with
    disk :=
      { Stream.Writer.endless with
        room := some 1
        full := .fail diskFull } }

/- A server that sends a whole file. -/
def prompt : Network :=
  telling (.ofBytes (heralding ++ [97, 98, 99]))

/- The folder cannot be read, and the server is blamed. -/
theorem uploadFails_folder :
    let s := Session.homeSettings
    UploadFails prompt directories s (s.stamp folder.toCommand)
      folder (.giving (.reader .isADirectory))
      (.io "home" 9777 .isADirectory) := by
  intro s
  have hDialed :
      (Wire.dial prompt s
        (s.stamp folder.toCommand)).outcome.toOption.isSome =
        true := by
    decide +kernel
  cases hDial :
    (Wire.dial prompt s (s.stamp folder.toCommand)).outcome with
  | error e =>
      rw [hDial] at hDialed
      cases hDialed
  | ok k =>
      have hOpen :
          sourceOf directories folder =
            .ok
              { path := "folder"
                bytes := [.fail .isADirectory] } := rfl
      have hCopy :
          (Copy.through folder.size.toNat s.bufferSize.toNat
              (s.timeLimit (s.stamp folder.toCommand))
              [.fail .isADirectory] k.writer).outcome =
            .error (.reader .isADirectory) := by
        rw [Copy.through, Copy.pieces, if_neg (by decide)]
        rfl
      exact .giving hOpen hDial hCopy

/- The disk is full, and the server is blamed. -/
theorem downloadFails_corner :
    let s := Session.homeSettings
    DownloadFails prompt s
      (s.stamp (Download.request "report" none)) corner
      (.taking (.writer diskFull)) (.io "home" 9777 diskFull) := by
  intro s
  have hReceived :
      ((Wire.dial prompt s
          (s.stamp
            (Download.request "report" none))).outcome.bind
        fun k =>
          Wire.receive s
            (s.stamp (Download.request "report" none))
            k).toOption.map
          (fun got => (got.1.status, got.1.dataLength, got.2)) =
        some (.fileOk, 3, [.data [97, 98, 99]]) := by
    decide +kernel
  cases hDial :
    (Wire.dial prompt s
      (s.stamp (Download.request "report" none))).outcome with
  | error e =>
      rw [hDial] at hReceived
      cases hReceived
  | ok k =>
      rw [hDial, Except.bind] at hReceived
      cases hReceive :
        Wire.receive s
          (s.stamp (Download.request "report" none)) k with
      | error e =>
          rw [hReceive] at hReceived
          cases hReceived
      | ok got =>
          obtain ⟨a, r⟩ := got
          rw [hReceive] at hReceived
          obtain ⟨hFound, hLength, rfl⟩ :
              a.status = .fileOk ∧ a.dataLength = 3 ∧
                r = [.data [97, 98, 99]] := by
            simpa [Except.toOption] using hReceived
          refine .collecting hDial hReceive hFound ?_
          have hCopy :
              (Copy.through a.dataLength.toNat
                  s.bufferSize.toNat
                  (s.timeLimit
                    (s.stamp (Download.request "report" none)))
                  [.data [97, 98, 99]] corner.disk).outcome =
                .error (.writer diskFull) := by
            rw [hLength, Copy.through, Copy.pieces,
              if_neg (by decide)]
            rfl
          exact .taking rfl hCopy

/-
  A client blames the server for a folder that cannot be read
  and for a disk that is full, but not for a file that is not
  there.
-/
theorem errors_name_sides_folder :
    let s := Session.homeSettings
    (upload prompt directories s folder).outcome =
        .error (.io "home" 9777 .isADirectory) ∧
      ¬(Operation.giving (.reader .isADirectory)).IsNamedBy
        (.io "home" 9777 .isADirectory) ∧
      (download prompt s "report" none corner).1.outcome =
        .error (.io "home" 9777 diskFull) ∧
      ¬(Operation.taking (.writer diskFull)).IsNamedBy
        (.io "home" 9777 diskFull) ∧
      (upload prompt (fun _ => .error .notFound) s
          folder).outcome =
        .error (.localFile "folder" .notFound) ∧
      Operation.opening.IsNamedBy
        (.localFile "folder" .notFound) := by
  intro s
  obtain ⟨hUpload, hNamed, hDownload, hFetched⟩ :=
    errors_name_sides prompt directories s
  obtain ⟨hMissing, hTold, -, -⟩ :=
    errors_name_sides prompt (fun _ => .error .notFound) s
  have hOpening :
      UploadFails prompt (fun _ => .error .notFound) s
        (s.stamp folder.toCommand) folder .opening
        (.localFile "folder" .notFound) :=
    .opening rfl
  refine ⟨?_, ?_, ?_, ?_, ?_, ?_⟩
  · exact (hUpload folder _).2 ⟨_, uploadFails_folder⟩
  · rw [hNamed folder _ _ uploadFails_folder]
    decide
  · exact (hDownload "report" none corner _).2
      ⟨_, downloadFails_corner⟩
  · rw [hFetched "report" none corner _ _ downloadFails_corner]
    decide
  · exact (hMissing folder _).2 ⟨_, hOpening⟩
  · exact (hTold folder _ _ hOpening).2 rfl

/- Not all errors name the side on which something failed. -/
theorem not_forall_isNamedBy :
    ¬∀ (net : Network) (files : LocalFiles)
        (s : ClientSettings) (u : Upload) (op : Operation)
        (e : TransportError),
      UploadFails net files s (s.stamp u.toCommand) u op e →
        op.IsNamedBy e := by
  intro hAll
  have hNamed :=
    hAll prompt directories Session.homeSettings folder _ _
      uploadFails_folder
  obtain ⟨path, io, hEq⟩ := hNamed.file.2 rfl
  cases hEq

end Transfer

end Courier
