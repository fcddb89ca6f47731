import Courier.Storage.Outline

/-
  Operations take effect on a shelf one after another.

  What an operation reports is settled at the step at which
  it takes effect, by those that took effect before.  Later
  steps of any operation do not change it.

  Key definitions include:
    * `Phase.IsPart`
    * `Shelf.historyOf`
    * `Outline.IsOrdered`

  Key theorems include:
    * `Shelf.run_historyOf_append`
    * `Outline.isOrdered_run`
    * `Outline.exists_turn`
-/

------------------------------------------------------------
-- Verdicts
------------------------------------------------------------

namespace Courier

namespace Phase

/- What was copied is the beginning of the whole. -/
def IsPart : Phase → Prop
  | .reading whole got => got <+: whole
  | _ => True

variable {m : Shelf}
variable {count : Nat}
variable {o : Shelf.Operation}
variable {p p' : Phase}

/-
  An operation takes effect once, and its report is settled
  then.
-/
theorem verdict?_of_effect
    (hNext : p.next m count o = (p', true)) :
    p.verdict? = none ∧ p'.verdict? = some (m.report o) := by
  unfold next at hNext
  split at hNext
  · cases hNext
  · cases hNext
  · split at hNext
    · cases hNext
      exact ⟨rfl, rfl⟩
    · cases hNext
  · next key =>
      split at hNext
      · next hNone =>
          cases hNext
          rw [Shelf.report, hNone]
          exact ⟨rfl, rfl⟩
      · next hSome =>
          cases hNext
          rw [Shelf.report, hSome]
          exact ⟨rfl, rfl⟩
  · split at hNext
    · cases hNext
    · cases hNext
  · cases hNext
    exact ⟨rfl, rfl⟩
  · cases hNext

/- No other step settles or changes a report. -/
theorem verdict?_of_silent
    (hPart : p.IsPart)
    (hNext : p.next m count o = (p', false)) :
    p'.verdict? = p.verdict? := by
  unfold next at hNext
  split at hNext
  · cases hNext
    rfl
  · cases hNext
    rfl
  · split at hNext
    · cases hNext
    · cases hNext
      rfl
  · split at hNext
    · cases hNext
    · cases hNext
  · next whole got =>
      split at hNext
      · next hLeft =>
          cases hNext
          -- Nothing is left, so the copy is the whole.
          have hLength : whole.length ≤ got.length := by
            simpa using hLeft
          have hSame : got = whole :=
            List.IsPrefix.eq_of_length_le hPart hLength
          rw [hSame]
          rfl
      · cases hNext
        rfl
  · cases hNext
  · cases hNext
    rfl

/- What was copied stays the beginning of the whole. -/
theorem IsPart.next
    {tookEffect : Bool}
    (hPart : p.IsPart)
    (hNext : p.next m count o = (p', tookEffect)) :
    p'.IsPart := by
  unfold Phase.next at hNext
  split at hNext
  · cases hNext
    trivial
  · cases hNext
    trivial
  · split at hNext
    · cases hNext
      trivial
    · cases hNext
      trivial
  · split at hNext
    · cases hNext
      trivial
    · cases hNext
      exact List.nil_prefix
  · next whole got =>
      split at hNext
      · cases hNext
        trivial
      · cases hNext
        rcases hPart with ⟨left, rfl⟩
        refine ⟨left.drop count, ?_⟩
        rw [List.drop_left, List.append_assoc,
          List.take_append_drop]
  · cases hNext
    trivial
  · cases hNext
    exact hPart

end Phase

end Courier

------------------------------------------------------------
-- Histories
------------------------------------------------------------

namespace Courier

namespace Shelf

/- The operations with some numbers, in that order. -/
def historyOf
    (operations : List Operation)
    (effects : List Nat) : List Operation :=
  effects.filterMap fun owner => operations[owner]?

variable {operations : List Operation}

/- One more operation is done after the others. -/
theorem run_historyOf_append
    {owner : Nat}
    {o : Operation}
    (hOperation : operations[owner]? = some o)
    (m : Shelf)
    (effects : List Nat) :
    m.run (historyOf operations (effects ++ [owner])) =
      (m.run (historyOf operations effects)).after o := by
  have hLast : historyOf operations [owner] = [o] := by
    rw [historyOf, List.filterMap_cons, hOperation]
    rfl
  have hSplit :
      historyOf operations (effects ++ [owner]) =
        historyOf operations effects ++ [o] := by
    rw [← hLast]
    exact List.filterMap_append
  rw [hSplit, run_append]
  rfl

end Shelf

end Courier

------------------------------------------------------------
-- Ordered Outlines
------------------------------------------------------------

namespace Courier

namespace Outline

/- What an operation reports in the end, if that is settled. -/
def verdictOf?
    (l : Outline)
    (owner : Nat) : Option Shelf.Report :=
  l.jobs[owner]?.bind fun j => j.phase.verdict?

/-
  The shelf is what the operations that have taken effect
  make of an empty one, and the report of each of them is
  settled by those that took effect before it.
-/
structure IsOrdered
    (operations : List Shelf.Operation)
    (l : Outline) : Prop where
  operation :
    ∀ owner : Nat,
      l.jobs[owner]?.map Job.operation = operations[owner]?
  shelf :
    l.shelf =
      Shelf.empty.run (Shelf.historyOf operations l.effects)
  nodup : l.effects.Nodup
  isPart :
    ∀ (owner : Nat) (j : Job),
      l.jobs[owner]? = some j → j.phase.IsPart
  unsettled :
    ∀ owner : Nat,
      owner ∉ l.effects → l.verdictOf? owner = none
  settled :
    ∀ (before : List Nat) (owner : Nat) (after : List Nat),
      l.effects = before ++ owner :: after →
        ∃ o,
          operations[owner]? = some o ∧
            l.verdictOf? owner =
              some
                ((Shelf.empty.run
                  (Shelf.historyOf operations before)).report o)

variable {operations : List Shelf.Operation}
variable {l : Outline}

/- Operations without a verdict have not taken effect. -/
theorem IsOrdered.not_mem
    (hOrdered : l.IsOrdered operations)
    {owner : Nat}
    (hNone : l.verdictOf? owner = none) :
    owner ∉ l.effects := by
  intro hMem
  rcases List.append_of_mem hMem with ⟨before, after, hSplit⟩
  rcases hOrdered.settled before owner after hSplit with
    ⟨o, -, hVerdict⟩
  rw [hNone] at hVerdict
  cases hVerdict

/- The jobs after one of them went on. -/
theorem getElem?_set_job
    {jobs : List Job}
    {owner : Nat}
    {j : Job}
    (hJob : jobs[owner]? = some j)
    (changed : Job)
    (other : Nat) :
    (jobs.set owner changed)[other]? =
      if other = owner then some changed
      else jobs[other]? := by
  have hLength := (List.getElem?_eq_some_iff.mp hJob).1
  by_cases hSame : other = owner
  · rw [if_pos hSame, hSame, List.getElem?_set_self hLength]
  · rw [if_neg hSame, List.getElem?_set_ne (Ne.symm hSame)]

/-
  Where one operation went on, the operations are the same,
  what was copied is still the beginning of the whole, and
  no other verdict has changed.
-/
theorem IsOrdered.set
    (hOrdered : l.IsOrdered operations)
    {owner : Nat}
    {j : Job}
    {phase : Phase}
    (hJob : l.jobs[owner]? = some j)
    (hPart : phase.IsPart)
    (m : Shelf)
    (effects : List Nat) :
    let l' : Outline :=
      ⟨m, l.jobs.set owner { j with phase := phase }, effects⟩
    (∀ other : Nat,
        l'.jobs[other]?.map Job.operation =
          operations[other]?) ∧
      (∀ (other : Nat) (j' : Job),
          l'.jobs[other]? = some j' → j'.phase.IsPart) ∧
      ∀ other,
        l'.verdictOf? other =
          if other = owner then phase.verdict?
          else l.verdictOf? other := by
  have hJobs := getElem?_set_job hJob { j with phase := phase }
  refine ⟨?_, ?_, ?_⟩
  · intro other
    rw [← hOrdered.operation other, hJobs other]
    split
    · next hHere =>
        rw [hHere, hJob]
        rfl
    · rfl
  · intro other j' hJob'
    rw [hJobs other] at hJob'
    split at hJob'
    · cases hJob'
      exact hPart
    · exact hOrdered.isPart other j' hJob'
  · intro other
    rw [verdictOf?, hJobs other]
    split
    · rfl
    · rfl

/- A step that took no effect changes no verdict. -/
theorem IsOrdered.silent
    (hOrdered : l.IsOrdered operations)
    {owner : Nat}
    {j : Job}
    {phase : Phase}
    (hJob : l.jobs[owner]? = some j)
    (hPart : phase.IsPart)
    (hVerdict : phase.verdict? = j.phase.verdict?) :
    IsOrdered operations
      ⟨l.shelf, l.jobs.set owner { j with phase := phase },
        l.effects⟩ := by
  rcases hOrdered.set hJob hPart l.shelf l.effects with
    ⟨hOperations, hParts, hVerdicts⟩
  have hSame (other : Nat) :
      verdictOf?
          ⟨l.shelf, l.jobs.set owner { j with phase := phase },
            l.effects⟩ other =
        l.verdictOf? other := by
    rw [hVerdicts other]
    split
    · next hHere =>
        rw [hHere, verdictOf?, hJob]
        exact hVerdict
    · rfl
  exact
    { operation := hOperations
      shelf := hOrdered.shelf
      nodup := hOrdered.nodup
      isPart := hParts
      unsettled := by
        intro other hNot
        rw [hSame other]
        exact hOrdered.unsettled other hNot
      settled := by
        intro before other after hSplit
        rw [hSame other]
        exact hOrdered.settled before other after hSplit }

/- The last of some numbers ends them or comes later. -/
theorem append_singleton_cases
    {effects before after : List Nat}
    {last owner : Nat}
    (hSplit : effects ++ [last] = before ++ owner :: after) :
    (before = effects ∧ owner = last) ∨
      ∃ rest, effects = before ++ owner :: rest := by
  rcases List.append_eq_append_iff.mp hSplit with
    ⟨rest, hBefore, hLast⟩ | ⟨rest, hEffects, hAfter⟩
  · left
    cases rest with
    | nil =>
        cases hLast
        exact ⟨by rw [hBefore, List.append_nil], rfl⟩
    | cons first rest =>
        have hLength := congrArg List.length hLast
        simp at hLength
  · cases rest with
    | nil =>
        left
        cases hAfter
        exact ⟨by rw [hEffects, List.append_nil], rfl⟩
    | cons first rest =>
        right
        rw [List.cons_append, List.cons.injEq] at hAfter
        rw [hEffects, ← hAfter.1]
        exact ⟨rest, rfl⟩

/- A step that took effect settles one verdict. -/
theorem IsOrdered.effect
    (hOrdered : l.IsOrdered operations)
    {owner : Nat}
    {j : Job}
    {phase : Phase}
    (hJob : l.jobs[owner]? = some j)
    (hPart : phase.IsPart)
    (hOpen : j.phase.verdict? = none)
    (hVerdict :
      phase.verdict? = some (l.shelf.report j.operation)) :
    IsOrdered operations
      ⟨l.shelf.after j.operation,
        l.jobs.set owner { j with phase := phase },
        l.effects ++ [owner]⟩ := by
  rcases
    hOrdered.set hJob hPart (l.shelf.after j.operation)
      (l.effects ++ [owner]) with
    ⟨hOperations, hParts, hVerdicts⟩
  have hOperation : operations[owner]? = some j.operation := by
    rw [← hOrdered.operation, hJob, Option.map_some]
  have hNew : owner ∉ l.effects := by
    apply hOrdered.not_mem
    rw [verdictOf?, hJob]
    exact hOpen
  exact
    { operation := hOperations
      shelf := by
        rw [Shelf.run_historyOf_append hOperation,
          ← hOrdered.shelf]
      nodup := by
        rw [List.nodup_append]
        refine ⟨hOrdered.nodup, by simp, ?_⟩
        intro old hOld new hLast hSame
        rw [List.mem_singleton.mp hLast] at hSame
        rw [hSame] at hOld
        exact hNew hOld
      isPart := hParts
      unsettled := by
        intro other hNot
        rw [List.mem_append, List.mem_singleton,
          not_or] at hNot
        rw [hVerdicts other, if_neg hNot.2]
        exact hOrdered.unsettled other hNot.1
      settled := by
        intro before other after hSplit
        rcases append_singleton_cases hSplit with
          ⟨rfl, rfl⟩ | ⟨rest, hEffects⟩
        · refine ⟨j.operation, hOperation, ?_⟩
          rw [hVerdicts other, if_pos rfl, hVerdict,
            hOrdered.shelf]
        · have hOther : other ≠ owner := by
            rintro rfl
            apply hNew
            rw [hEffects]
            simp
          rw [hVerdicts other, if_neg hOther]
          exact hOrdered.settled before other rest hEffects }

/- Operations stay in order when one takes a step. -/
theorem IsOrdered.step
    (hOrdered : l.IsOrdered operations)
    (turn : Turn) :
    (l.step turn).IsOrdered operations := by
  cases hJob : l.jobs[turn.owner]? with
  | none =>
      rw [step_missing hJob]
      exact hOrdered
  | some j =>
      cases hNext :
          j.phase.next l.shelf turn.count j.operation with
      | mk phase tookEffect =>
          have hPart := hOrdered.isPart turn.owner j hJob
          rw [step_eq hJob hNext]
          cases tookEffect with
          | false =>
              exact
                hOrdered.silent hJob (hPart.next hNext)
                  (Phase.verdict?_of_silent hPart hNext)
          | true =>
              rcases Phase.verdict?_of_effect hNext with
                ⟨hOpen, hVerdict⟩
              exact
                hOrdered.effect hJob (hPart.next hNext) hOpen
                  hVerdict

/- Nothing is settled before anything was done. -/
theorem isOrdered_ofOperations
    (operations : List Shelf.Operation) :
    (Workshop.ofOperations operations).outline.IsOrdered
      operations := by
  have hJobs (owner : Nat) :
      (Workshop.ofOperations operations).outline.jobs[owner]? =
        operations[owner]?.map fun o => ⟨o, .waiting⟩ := by
    simp only [Workshop.outline, Workshop.ofOperations,
      List.map_map, List.getElem?_map]
    rfl
  exact
    { operation := by
        intro owner
        rw [hJobs owner]
        cases operations[owner]? with
        | none => rfl
        | some o => rfl
      shelf := rfl
      nodup := List.nodup_nil
      isPart := by
        intro owner j hJob
        rw [hJobs owner] at hJob
        rcases Option.map_eq_some_iff.mp hJob with ⟨o, -, rfl⟩
        trivial
      unsettled := by
        intro owner _
        rw [verdictOf?, hJobs owner]
        cases operations[owner]? with
        | none => rfl
        | some o => rfl
      settled := by
        intro before owner after hSplit
        have hNil := congrArg List.length hSplit
        simp [Workshop.outline, Workshop.ofOperations] at hNil }

/- Operations are in order however many steps are taken. -/
theorem isOrdered_run
    (operations : List Shelf.Operation)
    (schedule : List Turn) :
    ((Workshop.ofOperations operations).outline.run
      schedule).IsOrdered operations := by
  have hRun
      (l : Outline)
      (hOrdered : l.IsOrdered operations) :
      (l.run schedule).IsOrdered operations := by
    induction schedule generalizing l with
    | nil => exact hOrdered
    | cons turn schedule ih => exact ih _ (hOrdered.step turn)
  exact hRun _ (isOrdered_ofOperations operations)

end Outline

end Courier

------------------------------------------------------------
-- Turns at Which Operations Take Effect
------------------------------------------------------------

namespace Courier

namespace Outline

/- A step adds its operation to the order, or nothing. -/
theorem effects_step
    (l : Outline)
    (turn : Turn) :
    (l.step turn).effects = l.effects ∨
      (l.step turn).effects = l.effects ++ [turn.owner] := by
  unfold step
  split
  · exact Or.inl rfl
  · simp only
    split
    · exact Or.inr rfl
    · exact Or.inl rfl

/- What took effect stays where it is in the order. -/
theorem prefix_effects_run
    (l : Outline)
    (schedule : List Turn) :
    l.effects <+: (l.run schedule).effects := by
  induction schedule generalizing l with
  | nil => exact List.prefix_rfl
  | cons turn schedule ih =>
      have hRest := ih (l.step turn)
      rcases l.effects_step turn with hSame | hMore
      · rw [hSame] at hRest
        exact hRest
      · rw [hMore] at hRest
        exact List.IsPrefix.trans (List.prefix_append _ _) hRest

/-
  An operation took effect at one of its own turns, when
  just those before it in the order had done so.
-/
theorem exists_turn
    {l : Outline}
    {schedule : List Turn}
    {before after : List Nat}
    {owner : Nat}
    (hSplit :
      (l.run schedule).effects = before ++ owner :: after)
    (hLength : l.effects.length ≤ before.length) :
    ∃ first count last,
      schedule = first ++ ⟨owner, count⟩ :: last ∧
        (l.run first).effects = before ∧
        (l.run (first ++ [⟨owner, count⟩])).effects =
          before ++ [owner] := by
  induction schedule generalizing l with
  | nil =>
      have hTotal := congrArg List.length hSplit
      simp only [run, List.foldl_nil, List.length_append,
        List.length_cons] at hTotal
      omega
  | cons turn schedule ih =>
      by_cases hLater :
          (l.step turn).effects.length ≤ before.length
      · rcases ih hSplit hLater with
          ⟨first, count, last, rfl, hFirst⟩
        exact ⟨turn :: first, count, last, rfl, hFirst⟩
      · -- This is the turn that made the order longer.
        rcases l.effects_step turn with hSame | hMore
        · rw [hSame] at hLater
          exact absurd hLength hLater
        · have hStep := (l.step turn).prefix_effects_run schedule
          have hRun :
              ((l.step turn).run schedule).effects =
                before ++ owner :: after :=
            hSplit
          rw [hRun, hMore] at hStep
          rw [hMore, List.length_append] at hLater
          simp only [List.length_singleton] at hLater
          have hSame : l.effects.length = before.length := by
            omega
          rcases hStep with ⟨rest, hRest⟩
          rw [List.append_assoc] at hRest
          rcases List.append_inj hRest hSame with
            ⟨hEffects, hOwner⟩
          rw [List.singleton_append, List.cons.injEq] at hOwner
          rcases turn with ⟨number, count⟩
          have hNumber : number = owner := hOwner.1
          subst hNumber
          refine ⟨[], count, schedule, rfl, hEffects, ?_⟩
          rw [← hEffects]
          exact hMore

end Outline

end Courier
