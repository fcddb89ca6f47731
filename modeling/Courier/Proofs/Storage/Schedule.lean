import Courier.Proofs.Storage.Order
import Courier.Proofs.Storage.Outline
import Courier.Proofs.Storage.Shelf

/-
  Operations that go on at the same time can be told from
  none that were done one after another.

  Each operation takes effect at one of its own turns.  What
  it reports is what the shelf says at that turn, and the
  shelf is what those made of it that took effect before.
  Operations on different keys know nothing of each other.

  Key definitions include:
    * `Outline.AgreesOn`
    * `Workshop.afterTurns`
    * `Workshop.IsLinear`

  Key theorems include:
    * `Outline.agreesOn_run`
    * `Workshop.isLinear`
-/

------------------------------------------------------------
-- Operations on Other Keys
------------------------------------------------------------

namespace Courier

namespace Shelf

/- The operation with a number is one on a key. -/
def isAbout
    (operations : List Operation)
    (key : FileKey)
    (owner : Nat) : Bool :=
  operations[owner]?.any fun o => o.key == key

variable {m m' : Shelf}
variable {o : Operation}

/- What an operation makes of its key depends on that key. -/
theorem after_congr
    (hSame : m o.key = m' o.key) :
    m.after o o.key = m'.after o o.key := by
  cases o with
  | store key content =>
      exact
        (m.put_same key content).trans
          (m'.put_same key content).symm
  | find key => exact hSame
  | delete key =>
      exact (m.erase_same key).trans (m'.erase_same key).symm

end Shelf

/- And so does the next step of the operation. -/
theorem Phase.next_congr
    {m m' : Shelf}
    {o : Shelf.Operation}
    (hSame : m o.key = m' o.key)
    (count : Nat)
    (p : Phase) :
    p.next m count o = p.next m' count o := by
  cases o with
  | store key content => cases p <;> rfl
  | find key | delete key =>
      have hKey : m key = m' key := hSame
      -- Only the first step looks at the shelf.
      cases p with
      | waiting => simp only [next, hKey]
      | prepared => rfl
      | writing left => rfl
      | reading whole got => rfl
      | done report => rfl

namespace Outline

/-
  Two outlines are the same for those who only know of one
  key: its content, the operations on it and their order.
-/
structure AgreesOn
    (operations : List Shelf.Operation)
    (key : FileKey)
    (l l' : Outline) : Prop where
  isOrdered : l.IsOrdered operations
  jobs :
    ∀ owner : Nat,
      Shelf.isAbout operations key owner = true →
        l'.jobs[owner]? = l.jobs[owner]?
  shelf : l'.shelf key = l.shelf key
  effects :
    l'.effects =
      l.effects.filter (Shelf.isAbout operations key)

variable {operations : List Shelf.Operation}
variable {key : FileKey}
variable {l l' : Outline}
variable {turn : Turn}

/- The operation of a job is about the key of the job. -/
theorem IsOrdered.isAbout_eq
    (hOrdered : l.IsOrdered operations)
    {owner : Nat}
    {j : Job}
    (hJob : l.jobs[owner]? = some j)
    (key : FileKey) :
    Shelf.isAbout operations key owner =
      (j.operation.key == key) := by
  rw [Shelf.isAbout, ← hOrdered.operation, hJob]
  rfl

/- A step of an operation on the key is made in both. -/
theorem AgreesOn.step
    (hAgrees : AgreesOn operations key l l')
    (hAbout :
      Shelf.isAbout operations key turn.owner = true) :
    AgreesOn operations key (l.step turn) (l'.step turn) := by
  have hOrdered := hAgrees.isOrdered
  have hSame := hAgrees.jobs turn.owner hAbout
  cases hJob : l.jobs[turn.owner]? with
  | none =>
      rw [hJob] at hSame
      rw [step_missing hJob, step_missing hSame]
      exact hAgrees
  | some j =>
      rw [hJob] at hSame
      have hKey : j.operation.key = key := by
        rw [hOrdered.isAbout_eq hJob, beq_iff_eq] at hAbout
        exact hAbout
      have hShelf :
          l'.shelf j.operation.key = l.shelf j.operation.key := by
        rw [hKey]
        exact hAgrees.shelf
      cases hNext :
          j.phase.next l.shelf turn.count j.operation with
      | mk phase tookEffect =>
          have hNext' :
              j.phase.next l'.shelf turn.count j.operation =
                (phase, tookEffect) := by
            rw [Phase.next_congr hShelf, hNext]
          have hStep := hOrdered.step turn
          rw [step_eq hJob hNext] at hStep ⊢
          rw [step_eq hSame hNext']
          refine ⟨hStep, ?_, ?_, ?_⟩
          · intro owner hOwner
            rw [getElem?_set_job hSame, getElem?_set_job hJob,
              hAgrees.jobs owner hOwner]
          · cases tookEffect with
            | false => exact hAgrees.shelf
            | true =>
                rw [← hKey]
                exact Shelf.after_congr hShelf
          · cases tookEffect with
            | false => exact hAgrees.effects
            | true =>
                show
                  l'.effects ++ [turn.owner] =
                    (l.effects ++ [turn.owner]).filter _
                rw [List.filter_append, hAgrees.effects,
                  List.filter_cons_of_pos hAbout,
                  List.filter_nil]

/- A step of another operation is not noticed. -/
theorem AgreesOn.skip
    (hAgrees : AgreesOn operations key l l')
    (hOther :
      Shelf.isAbout operations key turn.owner = false) :
    AgreesOn operations key (l.step turn) l' := by
  have hOrdered := hAgrees.isOrdered
  cases hJob : l.jobs[turn.owner]? with
  | none =>
      rw [step_missing hJob]
      exact hAgrees
  | some j =>
      have hKey : key ≠ j.operation.key := by
        rintro rfl
        rw [hOrdered.isAbout_eq hJob, beq_self_eq_true] at hOther
        cases hOther
      cases hNext :
          j.phase.next l.shelf turn.count j.operation with
      | mk phase tookEffect =>
          have hStep := hOrdered.step turn
          rw [step_eq hJob hNext] at hStep ⊢
          refine ⟨hStep, ?_, ?_, ?_⟩
          · intro owner hOwner
            have hNe : owner ≠ turn.owner := by
              rintro rfl
              rw [hOther] at hOwner
              cases hOwner
            rw [getElem?_set_job hJob, if_neg hNe]
            exact hAgrees.jobs owner hOwner
          · cases tookEffect with
            | false => exact hAgrees.shelf
            | true =>
                show l'.shelf key = l.shelf.after _ key
                rw [l.shelf.after_other _ hKey]
                exact hAgrees.shelf
          · cases tookEffect with
            | false => exact hAgrees.effects
            | true =>
                show
                  l'.effects =
                    (l.effects ++ [turn.owner]).filter _
                rw [List.filter_append,
                  List.filter_cons_of_neg (by simp [hOther]),
                  List.filter_nil, List.append_nil]
                exact hAgrees.effects

/-
  Without the steps of all operations on other keys, those
  on a key do the same.
-/
theorem agreesOn_run
    (operations : List Shelf.Operation)
    (key : FileKey)
    (schedule : List Turn) :
    AgreesOn operations key
      ((Workshop.ofOperations operations).outline.run schedule)
      ((Workshop.ofOperations operations).outline.run
        (schedule.filter fun turn =>
          Shelf.isAbout operations key turn.owner)) := by
  have hRun
      (l l' : Outline)
      (hAgrees : AgreesOn operations key l l') :
      AgreesOn operations key (l.run schedule)
        (l'.run
          (schedule.filter fun turn =>
            Shelf.isAbout operations key turn.owner)) := by
    induction schedule generalizing l l' with
    | nil => exact hAgrees
    | cons turn schedule ih =>
        cases hAbout :
            Shelf.isAbout operations key turn.owner with
        | false =>
            rw [List.filter_cons, if_neg (by simp [hAbout])]
            exact ih _ _ (hAgrees.skip hAbout)
        | true =>
            rw [List.filter_cons, if_pos hAbout]
            exact ih _ _ (hAgrees.step hAbout)
  apply hRun
  exact
    { isOrdered := isOrdered_ofOperations operations
      jobs := fun _ _ => rfl
      shelf := rfl
      effects := rfl }

end Outline

end Courier

------------------------------------------------------------
-- Workshops and Their Outlines
------------------------------------------------------------

namespace Courier

namespace Workshop

/- Operations after some turns, from an empty disk on. -/
def afterTurns
    (operations : List Shelf.Operation)
    (schedule : List Turn) : Workshop :=
  (ofOperations operations).run schedule

/- What the operation with a number has reported. -/
def reportOf?
    (w : Workshop)
    (owner : Nat) : Option Shelf.Report :=
  w.tasks[owner]?.bind Task.report?

/- An outline tells what was reported. -/
theorem reportOf?_eq
    (w : Workshop)
    (owner : Nat) :
    w.reportOf? owner =
      w.outline.jobs[owner]?.bind fun j => j.phase.report? := by
  have hReport (t : Task) :
      t.report? = (t.job w.disk).phase.report? := by
    rcases t with ⟨o, stage⟩
    cases stage with
    | waiting => rfl
    | prepared => rfl
    | writing file left => rfl
    | reading file got => rfl
    | done report => rfl
  rw [reportOf?, getElem?_jobs_outline]
  cases w.tasks[owner]? with
  | none => rfl
  | some t => exact hReport t

/- What was reported is the verdict. -/
theorem verdictOf?_of_reportOf?
    {w : Workshop}
    {owner : Nat}
    {report : Shelf.Report}
    (hReport : w.reportOf? owner = some report) :
    w.outline.verdictOf? owner = some report := by
  rw [reportOf?_eq] at hReport
  rcases Option.bind_eq_some_iff.mp hReport with
    ⟨j, hJob, hDone⟩
  rw [Outline.verdictOf?, hJob]
  cases hPhase : j.phase with
  | waiting =>
      rw [hPhase] at hDone
      cases hDone
  | prepared =>
      rw [hPhase] at hDone
      cases hDone
  | writing left =>
      rw [hPhase] at hDone
      cases hDone
  | reading whole got =>
      rw [hPhase] at hDone
      cases hDone
  | done settled =>
      rw [hPhase] at hDone
      simp only [Option.bind_some, hPhase]
      exact hDone

variable (operations : List Shelf.Operation)
variable (schedule : List Turn)

/- Operations on a disk take effect in order. -/
theorem isOrdered_afterTurns :
    (afterTurns operations schedule).outline.IsOrdered
      operations := by
  rw [afterTurns, outline_run]
  exact Outline.isOrdered_run operations schedule

/- The shelf is what they made of an empty one. -/
theorem shelf_afterTurns :
    (afterTurns operations schedule).disk.shelf =
      Shelf.empty.run
        (Shelf.historyOf operations
          (afterTurns operations schedule).effects) :=
  (isOrdered_afterTurns operations schedule).shelf

/- And those are the operations of the history. -/
theorem history_afterTurns :
    (afterTurns operations schedule).history =
      Shelf.historyOf operations
        (afterTurns operations schedule).effects := by
  have hOrdered := isOrdered_afterTurns operations schedule
  have hOperations :
      (fun owner : Nat =>
        (afterTurns operations schedule).tasks[owner]?.map
          Task.operation) =
        fun owner => operations[owner]? := by
    funext owner
    rw [← hOrdered.operation owner]
    simp only [outline, List.getElem?_map, Option.map_map]
    rfl
  rw [history, hOperations]
  rfl

variable {operations : List Shelf.Operation}
variable {schedule : List Turn}
variable {owner : Nat}

/- The order in which operations took effect. -/
theorem effects_afterTurns
    (turns : List Turn) :
    (afterTurns operations turns).effects =
      ((ofOperations operations).outline.run turns).effects :=
  congrArg Outline.effects (outline_run operations turns)

/- What took effect stays where it is in the order. -/
theorem prefix_effects_afterTurns
    (operations : List Shelf.Operation)
    (first last : List Turn) :
    (afterTurns operations first).effects <+:
      (afterTurns operations (first ++ last)).effects := by
  rw [effects_afterTurns, effects_afterTurns, Outline.run,
    Outline.run, List.foldl_append]
  exact Outline.prefix_effects_run _ last

/-
  After the first turns, the operation has one at which it
  takes its place in the order.
-/
def TakesEffectAfter
    (operations : List Shelf.Operation)
    (schedule : List Turn)
    (owner : Nat)
    (first : List Turn) : Prop :=
  ∃ count last,
    schedule = first ++ ⟨owner, count⟩ :: last ∧
      (afterTurns operations
          (first ++ [⟨owner, count⟩])).effects =
        (afterTurns operations first).effects ++ [owner]

/- An operation took effect at one of its own turns. -/
theorem exists_takesEffectAfter
    {before after : List Nat}
    (hSplit :
      (afterTurns operations schedule).effects =
        before ++ owner :: after) :
    ∃ first,
      TakesEffectAfter operations schedule owner first ∧
        (afterTurns operations first).effects = before := by
  rw [effects_afterTurns] at hSplit
  rcases Outline.exists_turn hSplit (Nat.zero_le _) with
    ⟨first, count, last, hTurns, hFirst, hNext⟩
  have hBefore :
      (afterTurns operations first).effects = before := by
    rw [effects_afterTurns, hFirst]
  refine ⟨first, ⟨count, last, hTurns, ?_⟩, hBefore⟩
  rw [effects_afterTurns, hNext, hBefore]

/-
  What was reported is what the shelf said at a turn of the
  operation, when it took its place in the order.
-/
theorem exists_turn_of_reportOf?
    {report : Shelf.Report}
    (hReport :
      (afterTurns operations schedule).reportOf? owner =
        some report) :
    ∃ o before after first,
      operations[owner]? = some o ∧
        (afterTurns operations schedule).effects =
          before ++ owner :: after ∧
        TakesEffectAfter operations schedule owner first ∧
        (afterTurns operations first).effects = before ∧
        report =
          (afterTurns operations first).disk.shelf.report o := by
  have hOrdered := isOrdered_afterTurns operations schedule
  have hVerdict := verdictOf?_of_reportOf? hReport
  have hMem :
      owner ∈ (afterTurns operations schedule).effects := by
    by_cases hMem :
        owner ∈ (afterTurns operations schedule).effects
    · exact hMem
    · rw [hOrdered.unsettled owner hMem] at hVerdict
      cases hVerdict
  rcases List.append_of_mem hMem with ⟨before, after, hSplit⟩
  rcases exists_takesEffectAfter hSplit with
    ⟨first, hTurn, hFirst⟩
  rcases hOrdered.settled before owner after hSplit with
    ⟨o, hOperation, hSettled⟩
  refine
    ⟨o, before, after, first, hOperation, hSplit, hTurn, hFirst,
      ?_⟩
  rw [hVerdict, Option.some.injEq] at hSettled
  rw [hSettled, shelf_afterTurns, hFirst]

end Workshop

end Courier

------------------------------------------------------------
-- Linear Runs
------------------------------------------------------------

namespace Courier

namespace Workshop

/-
  Operations that go on at the same time do what a shelf
  does when they are done one after another.

  Each operation takes effect once, at a turn of its own,
  and reports what the shelf says there.  So the content
  that is found is the whole one that was stored last, and
  a file is missing or deleted as it was there or not at
  that turn.  Operations that were over before others began
  come first.  Those on other keys can be left out, and in
  the end no hidden file is left.
-/
structure IsLinear
    (operations : List Shelf.Operation)
    (schedule : List Turn) : Prop where
  nodup : (afterTurns operations schedule).effects.Nodup
  shelf :
    (afterTurns operations schedule).disk.shelf =
      Shelf.empty.run (afterTurns operations schedule).history
  turn :
    ∀ owner report,
      (afterTurns operations schedule).reportOf? owner =
          some report →
        ∃ o first,
          operations[owner]? = some o ∧
            TakesEffectAfter operations schedule owner first ∧
            report =
              (afterTurns operations first).disk.shelf.report o
  whole :
    ∀ (owner : Nat) (key : FileKey) (content : Bytes),
      operations[owner]? = some (.find key) →
        (afterTurns operations schedule).reportOf? owner =
            some (.found (some content)) →
          ∃ before writer between after,
            (afterTurns operations schedule).effects =
                before ++ writer :: (between ++ owner :: after) ∧
              operations[writer]? = some (.store key content) ∧
              ∀ other ∈ between, ∀ o,
                operations[other]? = some o →
                  o.key = key → o = .find key
  missing :
    ∀ (owner : Nat) (key : FileKey),
      operations[owner]? = some (.find key) →
        (afterTurns operations schedule).reportOf? owner =
            some (.found none) →
          ∃ first,
            TakesEffectAfter operations schedule owner first ∧
              (afterTurns operations first).disk.names
                  (.final key) = none
  deleted :
    ∀ (owner : Nat) (key : FileKey) (wasThere : Bool),
      operations[owner]? = some (.delete key) →
        (afterTurns operations schedule).reportOf? owner =
            some (.deleted wasThere) →
          ∃ first,
            TakesEffectAfter operations schedule owner first ∧
              wasThere =
                ((afterTurns operations first).disk.names
                  (.final key)).isSome
  order :
    ∀ (first last : List Turn) (earlier later : Nat),
      schedule = first ++ last →
        (afterTurns operations first).reportOf? earlier ≠
            none →
          (∀ turn ∈ first, turn.owner ≠ later) →
            ∀ before after,
              (afterTurns operations schedule).effects =
                  before ++ later :: after →
                earlier ∈ before
  apart :
    ∀ (key : FileKey) (owner : Nat),
      Shelf.isAbout operations key owner = true →
        (afterTurns operations
            (schedule.filter fun turn =>
              Shelf.isAbout operations key
                turn.owner)).reportOf? owner =
          (afterTurns operations schedule).reportOf? owner
  apart_shelf :
    ∀ key : FileKey,
      (afterTurns operations
          (schedule.filter fun turn =>
            Shelf.isAbout operations key
              turn.owner)).disk.shelf key =
        (afterTurns operations schedule).disk.shelf key
  tidy :
    (afterTurns operations schedule).IsDone →
      (afterTurns operations schedule).disk.IsTidy

variable {operations : List Shelf.Operation}
variable {schedule : List Turn}

/- A content that was found was stored last. -/
theorem exists_store_of_found
    {owner : Nat}
    {key : FileKey}
    {content : Bytes}
    (hFind : operations[owner]? = some (.find key))
    (hReport :
      (afterTurns operations schedule).reportOf? owner =
        some (.found (some content))) :
    ∃ before writer between after,
      (afterTurns operations schedule).effects =
          before ++ writer :: (between ++ owner :: after) ∧
        operations[writer]? = some (.store key content) ∧
        ∀ other ∈ between, ∀ o,
          operations[other]? = some o →
            o.key = key → o = .find key := by
  rcases exists_turn_of_reportOf? hReport with
    ⟨o, before, after, first, hOperation, hSplit, -, hFirst,
      hShelf⟩
  cases hFind.symm.trans hOperation
  rw [Shelf.report, shelf_afterTurns, hFirst,
    Shelf.Report.found.injEq] at hShelf
  rcases (Shelf.run_eq_some_iff _ _ _).mp hShelf.symm with
    ⟨hEmpty, -⟩ | ⟨earlier, writer, between, rfl, hStore, hLast⟩
  · cases hEmpty
  · refine
      ⟨earlier, writer, between, after, ?_, hStore, hLast⟩
    rw [hSplit, List.append_assoc, List.cons_append]

/- What was over before another began comes before it. -/
theorem mem_before_of_turns
    {first last : List Turn}
    {earlier later : Nat}
    {before after : List Nat}
    (hDone :
      (afterTurns operations first).reportOf? earlier ≠ none)
    (hLater : ∀ turn ∈ first, turn.owner ≠ later)
    (hSplit :
      (afterTurns operations (first ++ last)).effects =
        before ++ later :: after) :
    earlier ∈ before := by
  have hEarlier :
      earlier ∈ (afterTurns operations first).effects := by
    rcases Option.ne_none_iff_exists'.mp hDone with
      ⟨report, hReport⟩
    rcases exists_turn_of_reportOf? hReport with
      ⟨o, old, new, -, -, hEffects, -⟩
    rw [hEffects]
    simp
  have hNotYet :
      later ∉ (afterTurns operations first).effects := by
    intro hMem
    rcases List.append_of_mem hMem with ⟨old, new, hEffects⟩
    rcases exists_takesEffectAfter hEffects with
      ⟨turns, ⟨count, rest, hTurns, -⟩, -⟩
    apply hLater ⟨later, count⟩
    · rw [hTurns]
      simp
    · rfl
  rcases prefix_effects_afterTurns operations first last with
    ⟨rest, hRest⟩
  rw [hSplit] at hRest
  rcases List.append_eq_append_iff.mp hRest with
    ⟨more, hBefore, -⟩ | ⟨more, hEffects, hAfter⟩
  · rw [hBefore]
    exact List.mem_append_left more hEarlier
  · cases more with
    | nil =>
        rw [hEffects, List.append_nil] at hEarlier
        exact hEarlier
    | cons next more =>
        rw [List.cons_append, List.cons.injEq] at hAfter
        rw [hEffects, ← hAfter.1] at hNotYet
        simp at hNotYet

/- In a workshop that is done no hidden file is left. -/
theorem isTidy_of_isDone
    (hDone : (afterTurns operations schedule).IsDone) :
    (afterTurns operations schedule).disk.IsTidy := by
  have hSound := isSound_run operations schedule
  intro directory owner
  apply Option.eq_none_iff_forall_ne_some.mpr
  intro file hName
  rcases hSound.hidden directory owner file hName with
    ⟨t, left, hTask, -, hStage⟩
  have hReport := hDone t (List.mem_of_getElem? hTask)
  rw [Task.report?, hStage] at hReport
  cases hReport

/-
  Whatever the operations are, and in whichever order they
  take their steps, they do what they would have done one
  after another.
-/
theorem isLinear
    (operations : List Shelf.Operation)
    (schedule : List Turn) :
    IsLinear operations schedule where
  nodup := (isOrdered_afterTurns operations schedule).nodup
  shelf := by
    rw [shelf_afterTurns, history_afterTurns]
  turn := by
    intro owner report hReport
    rcases exists_turn_of_reportOf? hReport with
      ⟨o, -, -, first, hOperation, -, hTurn, -, hShelf⟩
    exact ⟨o, first, hOperation, hTurn, hShelf⟩
  whole := by
    intro owner key content hFind hReport
    exact exists_store_of_found hFind hReport
  missing := by
    intro owner key hFind hReport
    rcases exists_turn_of_reportOf? hReport with
      ⟨o, -, -, first, hOperation, -, hTurn, -, hShelf⟩
    cases hFind.symm.trans hOperation
    rw [Shelf.report, Shelf.Report.found.injEq] at hShelf
    refine ⟨first, hTurn, ?_⟩
    exact Option.map_eq_none_iff.mp hShelf.symm
  deleted := by
    intro owner key wasThere hDelete hReport
    rcases exists_turn_of_reportOf? hReport with
      ⟨o, -, -, first, hOperation, -, hTurn, -, hShelf⟩
    cases hDelete.symm.trans hOperation
    rw [Shelf.report, Shelf.Report.deleted.injEq] at hShelf
    refine ⟨first, hTurn, ?_⟩
    rw [hShelf]
    exact Option.isSome_map
  order := by
    rintro first last earlier later rfl hDone hLater before after
      hSplit
    exact mem_before_of_turns hDone hLater hSplit
  apart := by
    intro key owner hAbout
    have hAgrees :=
      Outline.agreesOn_run operations key schedule
    rw [reportOf?_eq, reportOf?_eq, afterTurns, afterTurns,
      outline_run, outline_run, hAgrees.jobs owner hAbout]
  apart_shelf := by
    intro key
    have hAgrees :=
      Outline.agreesOn_run operations key schedule
    rw [← outline_run, ← outline_run] at hAgrees
    exact hAgrees.shelf
  tidy := isTidy_of_isDone

/- Two stores, a search and a deletion of one file. -/
def contended : List Shelf.Operation :=
  [.store ("default", "a") [1, 2],
    .store ("default", "a") [3],
    .find ("default", "a"),
    .delete ("default", "a")]

/-
  Both stores are being written when the first one ends.
  The file is then opened, replaced, copied in part and
  deleted before the rest of it is copied.
-/
def contendedTurns : List Turn :=
  [0, 1, 0, 1, 0, 1, 0, 0, 2, 1, 2, 3, 2, 2].map
    fun owner => ⟨owner, 1⟩

/- The file that was opened is found whole. -/
theorem isLinear_contended :
    IsLinear contended contendedTurns ∧
      (afterTurns contended contendedTurns).effects =
        [0, 2, 1, 3] ∧
      (afterTurns contended contendedTurns).reportOf? 2 =
        some (.found (some [1, 2])) ∧
      (afterTurns contended contendedTurns).reportOf? 3 =
        some (.deleted true) ∧
      (afterTurns contended contendedTurns).IsDone ∧
      (afterTurns contended contendedTurns).disk.IsTidy := by
  have hLinear := isLinear contended contendedTurns
  have hDone :
      (afterTurns contended contendedTurns).IsDone := by
    unfold IsDone
    decide
  exact
    ⟨hLinear, by decide, by decide, by decide, hDone,
      hLinear.tidy hDone⟩

end Workshop

end Courier
