import Courier.Proofs.Client.Session
import Courier.Proofs.Storage.Change
import Courier.Proofs.Stream.Copy
import Courier.Proofs.Stream.Delimiting

/-
  Downloads from any server, which may send what it likes
  and break off where it likes.

  The bytes are collected in a new file beside the
  destination.  That file takes the place once it has all of
  them, and is gone otherwise.  So the destination has what
  followed the answer, or is as it was.

  Key definitions include:
    * `Destination.IsSound`
    * `Destination.Keeps`
    * `Destination.Takes`
    * `Transfer.Succeeds`

  Key theorems include:
    * `Transfer.collect_of_takes`
    * `Transfer.collect_of_not_takes`
    * `Transfer.exists_isFrame_of_receive`
    * `Transfer.Succeeds.exists_rest`
    * `Transfer.download_of_succeeds`
    * `Transfer.download_of_not_succeeds`
    * `Transfer.download_is_all_or_nothing`
-/

------------------------------------------------------------
-- Places for Downloads
------------------------------------------------------------

namespace Courier

namespace Destination

/-
  A place as it can be found: a new file beside it is not
  mistaken for another one, and starts without bytes.
-/
structure IsSound
    (d : Destination) : Prop where
  fresh : d.temp.IsFresh
  blank : d.disk.taken = []

/-
  Nothing but the content of a place has changed, and which
  number a new file beside it is given.
-/
structure Keeps
    (d d' : Destination) : Prop where
  path : d'.path = d.path
  directory : d'.temp.isPresent = d.temp.isPresent
  files : d'.temp.files = d.temp.files
  next : d.temp.next ≤ d'.temp.next
  disk : d'.disk = d.disk
  refusal : d'.refusal = d.refusal

/- The first bytes of an arrival can take the place. -/
structure Takes
    (d : Destination)
    (count : Nat)
    (a : Stream.Arrival) : Prop where
  directory : d.temp.isPresent = true
  enough : count ≤ a.bytes.length
  room : d.disk.capacity count = count
  flushed : d.disk.flushOutcome = .done ()
  accepted : d.refusal = none

/- A file was made beside the place, and is gone. -/
def spent
    (d : Destination) : Destination :=
  { d with
    temp := { d.temp with next := d.temp.next + 1 } }

variable {d d' : Destination}

/- A place that is left alone is kept. -/
theorem Keeps.refl
    (d : Destination) :
    d.Keeps d :=
  { path := rfl
    directory := rfl
    files := rfl
    next := Nat.le_refl _
    disk := rfl
    refusal := rfl }

/- A file that is gone has used up only its number. -/
theorem keeps_spent
    (d : Destination)
    (content : Option Bytes) :
    d.Keeps { d.spent with content := content } :=
  { path := rfl
    directory := rfl
    files := rfl
    next := Nat.le_succ _
    disk := rfl
    refusal := rfl }

/- So one download can follow the other. -/
theorem IsSound.keeps
    (hSound : d.IsSound)
    (hKeeps : d.Keeps d') :
    d'.IsSound := by
  constructor
  · intro file hMem
    rw [hKeeps.files] at hMem
    exact Nat.lt_of_lt_of_le (hSound.fresh file hMem) hKeeps.next
  · rw [hKeeps.disk]
    exact hSound.blank

variable {n : Nat}
variable {temp : TemporaryFiles}

/- A new file is gone again, whatever was written to it. -/
theorem remove_of_isSound
    (hSound : d.IsSound)
    (hCreate : d.temp.create = .ok (n, temp))
    (content : Bytes) :
    (temp.put n content).remove n = d.spent.temp := by
  rw [TemporaryFiles.remove_put]
  exact TemporaryFiles.remove_of_create hSound.fresh hCreate

/- A new file can be refused the place. -/
theorem replace_of_refused
    {e : IoError}
    (hSound : d.IsSound)
    (hCreate : d.temp.create = .ok (n, temp))
    (hRefused : d.refusal = some e)
    (content : Bytes) :
    { d with temp := temp.put n content }.replace n =
      (.error e, d.spent) := by
  have hGone := remove_of_isSound hSound hCreate content
  simp only [replace, hGone, hRefused, spent]

/- If it is not refused, its content takes the place. -/
theorem replace_of_accepted
    (hSound : d.IsSound)
    (hCreate : d.temp.create = .ok (n, temp))
    (hAccepted : d.refusal = none)
    (content : Bytes) :
    { d with temp := temp.put n content }.replace n =
      (.ok (), { d.spent with content := some content }) := by
  have hGone := remove_of_isSound hSound hCreate content
  have hRead :=
    TemporaryFiles.read_put_create hCreate content
  simp only [replace, hGone, hAccepted, hRead, spent]

end Destination

end Courier

------------------------------------------------------------
-- Collecting
------------------------------------------------------------

namespace Courier

namespace Transfer

variable {s : ClientSettings}
variable {c : Command}
variable {d : Destination}
variable {count : Nat}
variable {r : Stream.Reader}

/- What a sound disk has written of some bytes. -/
theorem written_through_of_isSound
    (size limit : Nat)
    (hSound : d.IsSound)
    (hRoom : d.disk.capacity count = count)
    (hEnough : count ≤ (r.arrival limit).bytes.length) :
    (Copy.through count size limit r d.disk).writer.written =
      (r.arrival limit).bytes.take count := by
  have hNone : d.disk.written = [] := by
    rw [Stream.Writer.written, hSound.blank]
    rfl
  rw [(Copy.through_eq_verdict _ _ _ _ _).2, hNone,
    List.nil_append]
  exact (Copy.verdict_of_enough count hRoom hEnough).2

/- Bytes that can take the place are collected and do so. -/
theorem collect_of_takes
    (hSound : d.IsSound)
    (hTakes : d.Takes count (r.arrival (s.timeLimit c))) :
    collect s c d count r =
      (.ok (),
        { d.spent with
          content :=
            some
              ((r.arrival (s.timeLimit c)).bytes.take
                count) }) := by
  rcases TemporaryFiles.exists_create hTakes.directory with
    ⟨n, temp, hCreate, -⟩
  have hCopied :
      (Copy.through count s.bufferSize.toNat (s.timeLimit c) r
          d.disk).outcome = .ok count := by
    rw [(Copy.through_eq_verdict _ _ _ _ _).1]
    exact
      Copy.verdict_eq_ok_iff.mpr
        ⟨rfl, hTakes.enough, hTakes.room, hTakes.flushed⟩
  have hWritten :=
    written_through_of_isSound s.bufferSize.toNat (s.timeLimit c)
      hSound hTakes.room hTakes.enough
  simp only [collect, hCreate, hCopied, hWritten]
  rw [Destination.replace_of_accepted hSound hCreate
    hTakes.accepted]

/-
  Bytes that cannot take the place leave it as it is, and no
  file beside it.
-/
theorem collect_of_not_takes
    (hSound : d.IsSound)
    (hNot : ¬ d.Takes count (r.arrival (s.timeLimit c))) :
    ∃ e d',
      collect s c d count r = (.error e, d') ∧
        d.Keeps d' ∧
        d'.content = d.content := by
  simp only [collect]
  cases hCreate : d.temp.create with
  | error e => exact ⟨_, d, rfl, .refl d, rfl⟩
  | ok made =>
      rcases made with ⟨n, temp⟩
      dsimp only
      cases hCopied :
        (Copy.through count s.bufferSize.toNat (s.timeLimit c) r
          d.disk).outcome with
      | error fault =>
          dsimp only
          rw [Destination.remove_of_isSound hSound hCreate]
          exact ⟨_, _, rfl, d.keeps_spent d.content, rfl⟩
      | ok copied =>
          dsimp only
          cases hRefusal : d.refusal with
          | some e =>
              rw [← hRefusal,
                Destination.replace_of_refused hSound hCreate
                  hRefusal]
              exact ⟨_, _, rfl, d.keeps_spent d.content, rfl⟩
          | none =>
              -- Nothing failed, so the bytes could take the place.
              rw [(Copy.through_eq_verdict _ _ _ _ _).1,
                Copy.verdict_eq_ok_iff] at hCopied
              rcases hCopied with ⟨-, hEnough, hRoom, hFlush⟩
              have hPresent :=
                TemporaryFiles.isPresent_of_create hCreate
              exact
                absurd
                  ⟨hPresent, hEnough, hRoom, hFlush, hRefusal⟩
                  hNot

end Transfer

end Courier

------------------------------------------------------------
-- Downloads
------------------------------------------------------------

namespace Courier

namespace Transfer

variable {net : Network}
variable {s : ClientSettings}
variable {c : Command}
variable {k : Connection}
variable {fileId : String}
variable {domain : Option String}
variable {d : Destination}
variable {a : Answer}
variable {r : Stream.Reader}

/- An answer is received with its frame, and no more. -/
theorem exists_isFrame_of_receive
    (hReceive : Wire.receive s c k = .ok (a, r)) :
    ∃ line frame,
      Frame.IsFrame s.maxMessageSize.toNat line frame ∧
        Answer.ofLine line = .ok a ∧
        k.reader.content = frame ++ r.content := by
  simp only [Wire.receive, Frame.readAnswer] at hReceive
  split at hReceive
  · next hRead =>
      cases hReceive
      exact Frame.exists_isFrame_of_readMessage hRead
  · cases hReceive
  · cases hReceive

/-
  A server is reached and answers.  If the answer announces
  a file, then the file follows and can take the place.
-/
structure Succeeds
    (net : Network)
    (s : ClientSettings)
    (c : Command)
    (d : Destination)
    (k : Connection)
    (a : Answer)
    (r : Stream.Reader) : Prop where
  reached : (Wire.dial net s c).outcome = .ok k
  answered : Wire.receive s c k = .ok (a, r)
  taken :
    a.status = .fileOk →
      d.Takes a.dataLength.toNat (r.arrival (s.timeLimit c))

/- There is one connection, and one answer on it. -/
theorem Succeeds.answer_eq
    {k' : Connection}
    {a' : Answer}
    {r' : Stream.Reader}
    (hSucceeds : Succeeds net s c d k a r)
    (hOther : Succeeds net s c d k' a' r') :
    a = a' := by
  have hSame := hSucceeds.reached.symm.trans hOther.reached
  cases hSame
  have hSame := hSucceeds.answered.symm.trans hOther.answered
  cases hSame
  rfl

/- What arrives is the answer, and behind it the file. -/
theorem Succeeds.exists_rest
    (hSucceeds : Succeeds net s c d k a r) :
    ∃ line frame rest,
      Frame.IsFrame s.maxMessageSize.toNat line frame ∧
        Answer.ofLine line = .ok a ∧
        k.reader.content = frame ++ rest ∧
        (a.status = .fileOk →
          a.dataLength.toNat ≤ rest.length ∧
            (r.arrival (s.timeLimit c)).bytes.take
                a.dataLength.toNat =
              rest.take a.dataLength.toNat) := by
  rcases exists_isFrame_of_receive hSucceeds.answered with
    ⟨line, frame, hFrame, hLine, hContent⟩
  refine
    ⟨line, frame, r.content, hFrame, hLine, hContent, ?_⟩
  intro hStatus
  have hEnough := (hSucceeds.taken hStatus).enough
  have hFront :
      (r.arrival (s.timeLimit c)).bytes <+: r.content :=
    r.arrivalFrom_prefix (s.timeLimit c) 0
  refine ⟨Nat.le_trans hEnough hFront.length_le, ?_⟩
  rcases hFront with ⟨late, hRest⟩
  rw [← hRest, List.take_append_of_le_length hEnough]

/- A download that succeeds obtains the answer. -/
theorem download_of_succeeds
    (hSound : d.IsSound)
    (hSucceeds :
      Succeeds net s (s.stamp (Download.request fileId domain))
        d k a r) :
    let limit :=
      s.timeLimit (s.stamp (Download.request fileId domain))
    let got := download net s fileId domain d
    got.1.outcome = .ok a ∧
      d.Keeps got.2 ∧
      got.2.content =
        if a.status = .fileOk then
          some
            ((r.arrival limit).bytes.take a.dataLength.toNat)
        else d.content := by
  intro limit got
  rcases hSucceeds with ⟨hReached, hAnswered, hTaken⟩
  simp only [got, download, hReached, hAnswered]
  by_cases hStatus : a.status = .fileOk
  · simp only [ne_eq, hStatus, not_true, if_false, if_true,
      collect_of_takes hSound (hTaken hStatus), true_and]
    exact ⟨d.keeps_spent _, rfl⟩
  · simp only [ne_eq, hStatus, not_false_iff, if_true, if_false,
      true_and, and_true]
    exact .refl d

/- A download that does not succeed changes nothing. -/
theorem download_of_not_succeeds
    (hSound : d.IsSound)
    (hNot :
      ∀ k a r,
        ¬ Succeeds net s
          (s.stamp (Download.request fileId domain)) d k a r) :
    let got := download net s fileId domain d
    (∃ e, got.1.outcome = .error e) ∧
      d.Keeps got.2 ∧
      got.2.content = d.content := by
  simp only [download]
  generalize s.stamp (Download.request fileId domain) = c
    at hNot ⊢
  cases hReached : (Wire.dial net s c).outcome with
  | error e => exact ⟨⟨e, rfl⟩, .refl d, rfl⟩
  | ok k =>
      dsimp only
      cases hAnswered : Wire.receive s c k with
      | error e => exact ⟨⟨e, rfl⟩, .refl d, rfl⟩
      | ok got =>
          rcases got with ⟨a, r⟩
          dsimp only
          by_cases hStatus : a.status = .fileOk
          · have hRefused :
                ¬ d.Takes a.dataLength.toNat
                  (r.arrival (s.timeLimit c)) := by
              intro hTakes
              exact
                hNot k a r ⟨hReached, hAnswered, fun _ => hTakes⟩
            rcases collect_of_not_takes hSound hRefused with
              ⟨e, d', hCollect, hKeeps, hContent⟩
            rw [if_neg (not_not_intro hStatus), hCollect]
            exact ⟨⟨e, rfl⟩, hKeeps, hContent⟩
          · exact
              absurd
                ⟨hReached, hAnswered,
                  fun hOk => absurd hOk hStatus⟩
                (hNot k a r)

end Transfer

end Courier

------------------------------------------------------------
-- One Download After Another
------------------------------------------------------------

namespace Courier

namespace Transfer

variable {d : Destination}

/- However a download ends, its place is kept. -/
theorem keeps_download
    (net : Network)
    (s : ClientSettings)
    (fileId : String)
    (domain : Option String)
    (hSound : d.IsSound) :
    d.Keeps (download net s fileId domain d).2 := by
  by_cases hSome :
    ∃ k a r,
      Succeeds net s (s.stamp (Download.request fileId domain))
        d k a r
  · rcases hSome with ⟨k, a, r, hSucceeds⟩
    exact (download_of_succeeds hSound hSucceeds).2.1
  · have hNot :
        ∀ k a r,
          ¬ Succeeds net s
            (s.stamp (Download.request fileId domain)) d k a
            r := by
      intro k a r hSucceeds
      exact hSome ⟨k, a, r, hSucceeds⟩
    exact (download_of_not_succeeds hSound hNot).2.1

end Transfer

end Courier

------------------------------------------------------------
-- All or Nothing
------------------------------------------------------------

namespace Courier

namespace Transfer

/-
  Whatever a server sends, a download that fails leaves its
  destination as it was.  One that obtains an answer has
  received it.  If the answer announces a file, then the
  destination has exactly the announced number of the bytes
  that came behind it, and else it is as it was.  No file is
  left beside it, and the next download finds it as sound.
-/
theorem download_is_all_or_nothing
    (net : Network)
    (s : ClientSettings)
    (fileId : String)
    (domain : Option String)
    {d : Destination}
    (hSound : d.IsSound) :
    let c := s.stamp (Download.request fileId domain)
    let got := download net s fileId domain d
    d.Keeps got.2 ∧
    got.2.IsSound ∧
    (∀ e,
      got.1.outcome = .error e → got.2.content = d.content) ∧
    (∀ a,
      got.1.outcome = .ok a →
        ∃ k line frame rest,
          (Wire.dial net s c).outcome = .ok k ∧
            Frame.IsFrame s.maxMessageSize.toNat line frame ∧
            Answer.ofLine line = .ok a ∧
            k.reader.content = frame ++ rest ∧
            (a.status = .fileOk →
              a.dataLength.toNat ≤ rest.length ∧
                got.2.content =
                  some (rest.take a.dataLength.toNat)) ∧
            (a.status ≠ .fileOk →
              got.2.content = d.content)) ∧
    (∀ a,
      got.1.outcome = .ok a ↔
        ∃ k r, Succeeds net s c d k a r) := by
  intro c got
  have hKeeps := keeps_download net s fileId domain hSound
  refine ⟨hKeeps, hSound.keeps hKeeps, ?_⟩
  by_cases hSome : ∃ k a r, Succeeds net s c d k a r
  · rcases hSome with ⟨k, a, r, hSucceeds⟩
    rcases download_of_succeeds hSound hSucceeds with
      ⟨hOutcome, -, hContent⟩
    rw [hOutcome]
    refine ⟨nofun, ?_, ?_⟩
    · rintro a' ⟨⟩
      rcases hSucceeds.exists_rest with
        ⟨line, frame, rest, hFrame, hLine, hBytes, hFile⟩
      refine
        ⟨k, line, frame, rest, hSucceeds.reached, hFrame, hLine,
          hBytes, ?_, ?_⟩
      · intro hStatus
        rcases hFile hStatus with ⟨hEnough, hSame⟩
        rw [hContent, if_pos hStatus, hSame]
        exact ⟨hEnough, rfl⟩
      · intro hStatus
        rw [hContent, if_neg hStatus]
    · intro a'
      constructor
      · rintro ⟨⟩
        exact ⟨k, r, hSucceeds⟩
      · rintro ⟨k', r', hOther⟩
        rw [hSucceeds.answer_eq hOther]
  · have hNot : ∀ k a r, ¬ Succeeds net s c d k a r := by
      intro k a r hSucceeds
      exact hSome ⟨k, a, r, hSucceeds⟩
    rcases download_of_not_succeeds hSound hNot with
      ⟨⟨e, hOutcome⟩, -, hContent⟩
    rw [hOutcome]
    refine ⟨fun _ _ => hContent, nofun, ?_⟩
    intro a
    constructor
    · exact nofun
    · rintro ⟨k, r, hSucceeds⟩
      exact absurd hSucceeds (hNot k a r)

/- An answer that announces a file of three bytes. -/
def heralding : Bytes :=
  Bytes.ofWord 41 ++
    (Utf8.encode
      "2#|#report#|#3#|#report#|##|#InJlcG9ydCI=".toList ++
        [Frame.terminator])

/- A server that sends some things and hears nothing. -/
def telling
    (r : Stream.Reader) : Network :=
  { connect := fun _ _ _ _ => .ok ⟨.endless, fun _ => r⟩
    post := fun _ => .error .timedOut }

/- The answer with a pause in it, and four bytes. -/
def generous : Stream.Reader :=
  [.data (heralding.take 9), .delay 2,
    .data (heralding.drop 9 ++ [97, 98]), .delay 1,
    .data [99, 100]]

/- The answer and two bytes, and silence. -/
def faltering : Stream.Reader :=
  [.data (heralding ++ [97, 98]), .stall, .data [99]]

/- A letter that is there, beside a file of someone else. -/
def letter : Destination :=
  { Destination.ofContent "letter" (some [1]) with
    temp :=
      { isPresent := true
        next := 4
        files := [(2, [7])] } }

/- A new file beside the letter gets a number of its own. -/
theorem isSound_letter :
    letter.IsSound := by
  refine ⟨?_, rfl⟩
  intro file hMem
  rw [List.mem_singleton.mp hMem]
  decide

/- The letter after a download from such a server. -/
def fetched
    (r : Stream.Reader) : Call Answer × Destination :=
  download (telling r) Session.homeSettings "report" none letter

/-
  The letter is replaced by the three bytes that were
  announced.  It stays as it is if the third one is late.
-/
theorem download_is_all_or_nothing_letter :
    letter.IsSound ∧
      (∃ (a : Answer) (rest : Bytes),
        (fetched generous).1.outcome = .ok a ∧
          (fetched generous).2.content =
            some (rest.take a.dataLength.toNat)) ∧
      (fetched generous).2.content = some [97, 98, 99] ∧
      (fetched generous).2.temp.files = letter.temp.files ∧
      (∃ e, (fetched faltering).1.outcome = .error e) ∧
      (fetched faltering).2.content = letter.content ∧
      (fetched faltering).2.temp.files = letter.temp.files := by
  have hStatus :
      (fetched generous).1.outcome.toOption.map Answer.status =
        some .fileOk := by
    decide +kernel
  have hLate :
      (fetched faltering).1.outcome.toOption.isSome = false := by
    decide +kernel
  have hBytes :
      (fetched generous).2.content = some [97, 98, 99] := by
    decide +kernel
  unfold fetched at hStatus hLate hBytes ⊢
  rcases
    download_is_all_or_nothing (telling generous)
      Session.homeSettings "report" none isSound_letter with
    ⟨hWhole, -, -, hAnswer, -⟩
  rcases
    download_is_all_or_nothing (telling faltering)
      Session.homeSettings "report" none isSound_letter with
    ⟨hTorn, -, hError, -, -⟩
  have hFailed :
      ∃ e,
        (download (telling faltering) Session.homeSettings
          "report" none letter).1.outcome = .error e := by
    cases hOutcome :
      (download (telling faltering) Session.homeSettings
        "report" none letter).1.outcome with
    | error e => exact ⟨e, rfl⟩
    | ok a =>
        rw [hOutcome] at hLate
        cases hLate
  rcases hFailed with ⟨e, hFailed⟩
  refine
    ⟨isSound_letter, ?_, hBytes, hWhole.files, ⟨e, hFailed⟩,
      hError e hFailed, hTorn.files⟩
  cases hOutcome :
    (download (telling generous) Session.homeSettings "report"
      none letter).1.outcome with
  | error e =>
      rw [hOutcome] at hStatus
      cases hStatus
  | ok a =>
      rw [hOutcome] at hStatus
      rcases hAnswer a hOutcome with
        ⟨k, line, frame, rest, -, -, -, -, hFile, -⟩
      exact ⟨a, rest, rfl, (hFile (Option.some.inj hStatus)).2⟩

end Transfer

end Courier
