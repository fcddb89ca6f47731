import Courier.Client.Session

/-
  Calls that go by one set of settings.

  The steps of a call make up the call that goes by the
  settings which it took at the first of them, whatever
  settings hold at the others.

  Key definitions include:
    * `Errand.comesTo`
    * `Errand.Progress`
    * `Ongoing.GoesBy`

  Key theorems include:
    * `Errand.comesTo_stamped`
    * `Errand.progress_proceed`
    * `Ongoing.goesBy_first`
    * `Ongoing.GoesBy.advance`
-/

------------------------------------------------------------
-- Single Steps Make Whole Calls
------------------------------------------------------------

namespace Courier

namespace Wire

/- Dialing is connecting and then sending the command. -/
theorem outcome_dial
    (net : Network)
    (s : ClientSettings)
    (c : Command) :
    (dial net s c).outcome =
      (reach net s c).bind (say s c) := by
  unfold dial reach
  dsimp only
  cases net.connect c.host c.port s.trust (s.timeLimit c) with
  | error fault => rfl
  | ok k => rfl

/- A call over HTTP is posting and then reading. -/
theorem byTunnel_eq
    (net : Network)
    (s : ClientSettings)
    (c : Command) :
    byTunnel net s c = (post net s c).bind (read s c) := by
  unfold byTunnel post
  dsimp only
  cases net.post (request s c) with
  | error fault => rfl
  | ok p => rfl

/- A call over a socket is dialing and then receiving. -/
theorem outcome_bySocket
    (net : Network)
    (s : ClientSettings)
    (c : Command) :
    (bySocket net s c).outcome =
      (dial net s c).outcome.bind fun k =>
        concluded c ((receive s c k).map Prod.fst) := by
  unfold bySocket
  dsimp only
  cases (dial net s c).outcome with
  | error e => rfl
  | ok k => rfl

end Wire

namespace Transfer

/- Sending bytes is handing them over and then receiving. -/
theorem outcome_sendBytes
    (s : ClientSettings)
    (c : Command)
    (u : Upload)
    (parcel : Parcel)
    (k : Connection) :
    (sendBytes s c u parcel.path parcel.bytes k).outcome =
      (hand s c u parcel k).bind fun k =>
        (Wire.receive s c k).map Prod.fst := by
  unfold sendBytes hand
  dsimp only
  cases (Copy.through u.size.toNat s.bufferSize.toNat
      (s.timeLimit c) parcel.bytes k.writer).outcome with
  | error fault => rfl
  | ok n => rfl

/- An upload opens its file, dials, and sends the bytes. -/
theorem outcome_upload
    (net : Network)
    (files : LocalFiles)
    (s : ClientSettings)
    (u : Upload) :
    (upload net files s u).outcome =
      (Transfer.sourceOf files u).bind fun parcel =>
        (Wire.dial net s (s.stamp u.toCommand)).outcome.bind
          fun k =>
            (sendBytes s (s.stamp u.toCommand) u parcel.path
              parcel.bytes k).outcome := by
  unfold upload Transfer.sourceOf
  dsimp only
  cases u.source with
  | none => rfl
  | some path =>
      dsimp only
      cases files path with
      | error e => rfl
      | ok bytes =>
          dsimp only
          cases (Wire.dial net s (s.stamp u.toCommand)).outcome
            with
          | error e => rfl
          | ok k => rfl

end Transfer

end Courier

------------------------------------------------------------
-- What a Call Comes to
------------------------------------------------------------

namespace Courier

namespace Errand

section Stages

variable (around : Surroundings)
variable (s : ClientSettings)
variable (c : Command)
variable (e : Errand)

/- Go on with what a step gives, or end as it fails. -/
def via
    {α : Type}
    (got : Except TransportError α)
    (next : α → Finish) : Finish :=
  match got with
  | .ok a => next a
  | .error fault => (e.settle c (.error fault), around.place)

/- What a call comes to after a download was answered. -/
def fetched
    (a : Answer)
    (r : Stream.Reader) : Finish :=
  if a.status ≠ .fileOk then
    (e.settle c (.ok a), around.place)
  else
    let collected :=
      Transfer.collect s c around.place a.dataLength.toNat r
    (collected.1.map fun _ => a, collected.2)

/- What a call comes to once it may wait for an answer. -/
def received
    (k : Connection) : Finish :=
  (e.settle c ((Wire.receive s c k).map Prod.fst),
    around.place)

/- What a call comes to once its command is sent. -/
def spoken
    (parcel : Parcel)
    (k : Connection) : Finish :=
  match e with
  | .command _ =>
      (e.settle c
          (Wire.concluded c
            ((Wire.receive s c k).map Prod.fst)),
        around.place)
  | .upload u =>
      e.via around c (Transfer.hand s c u parcel k)
        (e.received around s c)
  | .download .. =>
      e.via around c (Wire.receive s c k) fun got =>
        e.fetched around s c got.1 got.2

/- What a call over a socket comes to. -/
def dialed
    (parcel : Parcel) : Finish :=
  e.via around c (Wire.reach around.net s c) fun k =>
    e.via around c (Wire.say s c k)
      (e.spoken around s c parcel)

/- What a call over HTTP comes to. -/
def posted : Finish :=
  e.via around c (Wire.post around.net s c) fun p =>
    (e.settle c (Wire.read s c p), around.place)

/- What a call at a stage comes to. -/
def comesTo : Stage → Finish
  | .stamped =>
      match e with
      | .command _ =>
          match s.route c with
          | .socket => e.dialed around s c .empty
          | .tunnel => e.posted around s c
      | .upload u =>
          e.via around c (Transfer.sourceOf around.files u)
            (e.dialed around s c)
      | .download .. => e.dialed around s c .empty
  | .bound parcel => e.dialed around s c parcel
  | .connected parcel k =>
      e.via around c (Wire.say s c k)
        (e.spoken around s c parcel)
  | .sent parcel k => e.spoken around s c parcel k
  | .copied k => e.received around s c k
  | .answered a r => e.fetched around s c a r
  | .posting => e.posted around s c
  | .responded p =>
      (e.settle c (Wire.read s c p), around.place)

end Stages

variable {around : Surroundings}
variable {s : ClientSettings}
variable {c : Command}
variable {e : Errand}

/- Two steps that may fail can be taken one by one. -/
theorem via_bind
    {α β : Type}
    (got : Except TransportError α)
    (step : α → Except TransportError β)
    (next : β → Finish) :
    e.via around c (got.bind step) next =
      e.via around c got fun a =>
        e.via around c (step a) next := by
  cases got with
  | error fault => rfl
  | ok a => rfl

/- A step that gives the answer settles the call. -/
theorem via_answer
    (outcome : Except TransportError Answer) :
    (e.via around c outcome fun a =>
        (e.settle c (.ok a), around.place)) =
      (e.settle c outcome, around.place) := by
  cases outcome with
  | error fault => rfl
  | ok a => rfl

/- What a command over a socket comes to. -/
theorem dialed_command
    (m : Command) :
    (command m).dialed around s c .empty =
      ((command m).settle c
          (Wire.bySocket around.net s c).outcome,
        around.place) := by
  rw [Wire.outcome_bySocket, Wire.outcome_dial,
    ← via_answer, via_bind, via_bind]
  simp only [via_answer]
  rfl

/- What a command over HTTP comes to. -/
theorem posted_command
    (m : Command) :
    (command m).posted around s c =
      ((command m).settle c
          (Wire.byTunnel around.net s c),
        around.place) := by
  rw [Wire.byTunnel_eq, ← via_answer, via_bind]
  simp only [via_answer]
  rfl

/- What an upload comes to. -/
theorem dialed_upload
    (u : Upload)
    (parcel : Parcel) :
    (upload u).dialed around s c parcel =
      ((upload u).settle c
          ((Wire.dial around.net s c).outcome.bind fun k =>
            (Transfer.sendBytes s c u parcel.path
              parcel.bytes k).outcome),
        around.place) := by
  simp only [Wire.outcome_dial, Transfer.outcome_sendBytes]
  rw [← via_answer, via_bind, via_bind]
  simp only [via_bind, via_answer]
  rfl

/- What a download comes to. -/
theorem dialed_download
    (fileId : String)
    (domain : Option String)
    (hCommand :
      c = s.stamp (Download.request fileId domain)) :
    (download fileId domain).dialed around s c .empty =
      (download fileId domain).carryOut around s := by
  subst hCommand
  unfold carryOut Transfer.download dialed
  dsimp only
  rw [Wire.outcome_dial]
  cases Wire.reach around.net s
      (s.stamp (Download.request fileId domain)) with
  | error fault => rfl
  | ok k =>
      dsimp only [via, Except.bind]
      cases Wire.say s
          (s.stamp (Download.request fileId domain)) k with
      | error fault => rfl
      | ok k =>
          dsimp only [via, spoken]
          cases Wire.receive s
              (s.stamp (Download.request fileId domain)) k
            with
          | error fault => rfl
          | ok got =>
              dsimp only [fetched]
              by_cases hNone : got.1.status ≠ .fileOk
              · simp only [if_pos hNone]
                rfl
              · simp only [if_neg hNone]
                rcases Transfer.collect s
                    (s.stamp (Download.request fileId domain))
                    around.place got.1.dataLength.toNat got.2
                  with ⟨_ | _, place⟩
                · rfl
                · rfl

/-
  A call that has taken its settings comes to the call that
  goes by them.
-/
theorem comesTo_stamped
    (around : Surroundings)
    (s : ClientSettings)
    (e : Errand) :
    e.comesTo around s (e.stamped s) .stamped =
      e.carryOut around s := by
  cases e with
  | command m =>
      have hSend :
          (command m).carryOut around s =
            ((command m).settle (s.stamp m)
                ((Wires.ofNetwork around.net).send s
                  (s.stamp m)),
              around.place) :=
        rfl
      rw [hSend]
      unfold comesTo stamped Wires.send
      dsimp only
      cases s.route (s.stamp m) with
      | socket => exact dialed_command m
      | tunnel => exact posted_command m
  | upload u =>
      have hUpload :
          (upload u).carryOut around s =
            ((upload u).settle (s.stamp u.toCommand)
                (Transfer.upload around.net around.files s
                  u).outcome,
              around.place) :=
        rfl
      rw [hUpload, Transfer.outcome_upload, ← via_answer,
        via_bind]
      simp only [via_answer, ← dialed_upload]
      rfl
  | download fileId domain =>
      exact dialed_download fileId domain rfl

end Errand

end Courier

------------------------------------------------------------
-- Steps of a Call
------------------------------------------------------------

namespace Courier

/- How many steps a call at a stage may still need. -/
def Errand.Stage.left : Errand.Stage → Nat
  | .stamped => 5
  | .bound _ => 4
  | .connected .. => 3
  | .sent .. | .posting => 2
  | .copied _ | .answered .. | .responded _ => 1

/- How many steps a call may still need. -/
def Errand.Leg.left : Errand.Leg → Nat
  | .ready => 6
  | .going _ _ stage => stage.left
  | .done .. => 0

namespace Errand

/-
  What a step of a call does.  If it leads to another stage,
  neither the choices in all nor the end of the call change,
  and the end comes closer.  Otherwise the call ends as it
  had to, after the first of the choices.
-/
inductive Progress
    (around : Surroundings)
    (s : ClientSettings)
    (c : Command)
    (e : Errand)
    (stage : Stage) : Turn → Prop where
| goes
    {chosen : List Choice}
    {next : Stage}
    (hChosen :
      e.choicesAt s c stage = chosen ++ e.choicesAt s c next)
    (hComes :
      e.comesTo around s c stage = e.comesTo around s c next)
    (hLess : next.left < stage.left) :
    Progress around s c e stage
      { chosen := chosen
        leg := .going s c next }
| ends
    {chosen : List Choice}
    {outcome : Except TransportError Answer}
    {place : Destination}
    (hChosen : chosen <+: e.choicesAt s c stage)
    (hComes : e.comesTo around s c stage = (outcome, place)) :
    Progress around s c e stage
      { chosen := chosen
        leg := .done outcome place }

variable {around : Surroundings}
variable {s : ClientSettings}
variable {c : Command}
variable {e : Errand}
variable {stage : Stage}
variable {chosen : List Choice}

/- A step that may fail makes progress if both ways do. -/
theorem progress_onwards
    {α : Type}
    {got : Except TransportError α}
    {next : α → Stage}
    (hChosen :
      ∀ a,
        e.choicesAt s c stage =
          chosen ++ e.choicesAt s c (next a))
    (hPrefix : chosen <+: e.choicesAt s c stage)
    (hComes :
      e.comesTo around s c stage =
        e.via around c got fun a =>
          e.comesTo around s c (next a))
    (hLess : ∀ a, (next a).left < stage.left) :
    Progress around s c e stage
      { chosen := chosen
        leg := e.onwards around s c got next } := by
  cases got with
  | ok a => exact .goes (hChosen a) hComes (hLess a)
  | error fault => exact .ends hPrefix hComes

/- The step that gives the answer makes progress. -/
theorem progress_ended
    {outcome : Except TransportError Answer}
    (hPrefix : chosen <+: e.choicesAt s c stage)
    (hComes :
      e.comesTo around s c stage =
        (e.settle c outcome, around.place)) :
    Progress around s c e stage
      { chosen := chosen
        leg := e.ended around c outcome } :=
  .ends hPrefix hComes

/- The step after the command is filled in makes progress. -/
theorem progress_depart :
    Progress around s c e .stamped (e.depart around s c) := by
  cases e with
  | command m =>
      unfold depart
      dsimp only
      cases hRoute : s.route c with
      | socket =>
          refine .goes ?_ ?_ (by decide)
          · simp only [choicesAt, hRoute, List.cons_append,
              List.nil_append]
          · simp only [comesTo, hRoute]
      | tunnel =>
          refine .goes ?_ ?_ (by decide)
          · simp only [choicesAt, hRoute, List.cons_append,
              List.nil_append]
          · simp only [comesTo, hRoute]
  | upload u =>
      exact progress_onwards (fun _ => rfl) List.nil_prefix
        rfl fun _ => Nat.lt_succ_self 4
  | download fileId domain => exact .goes rfl rfl (by decide)

/- The step after the command is sent makes progress. -/
theorem progress_converse
    (parcel : Parcel)
    (k : Connection) :
    Progress around s c e (.sent parcel k)
      (e.converse around s c parcel k) := by
  cases e with
  | command m =>
      unfold converse
      dsimp only
      by_cases hStop : c.isStop = true
      · rw [if_pos hStop]
        refine progress_ended List.nil_prefix ?_
        simp only [comesTo, spoken, Wire.concluded,
          if_pos hStop]
      · rw [if_neg hStop]
        refine progress_ended ?_ rfl
        simp only [choicesAt, choicesAfterSending,
          if_neg hStop]
        exact List.prefix_append _ _
  | upload u =>
      exact progress_onwards (fun _ => rfl) (List.prefix_append _ _)
        rfl fun _ => Nat.lt_succ_self 1
  | download fileId domain =>
      exact progress_onwards (fun _ => rfl) (List.prefix_append _ _)
        rfl fun _ => Nat.lt_succ_self 1

/- The step after a download is answered makes progress. -/
theorem progress_fetch
    (a : Answer)
    (r : Stream.Reader) :
    Progress around s c e (.answered a r)
      (e.fetch around s c a r) := by
  unfold fetch
  by_cases hNone : a.status ≠ .fileOk
  · rw [if_pos hNone]
    refine progress_ended List.nil_prefix ?_
    simp only [comesTo, fetched, if_pos hNone]
  · rw [if_neg hNone]
    refine .ends (List.prefix_append _ _) ?_
    simp only [comesTo, fetched, if_neg hNone]

/- Every step of a call makes progress. -/
theorem progress_proceed
    (around : Surroundings)
    (s : ClientSettings)
    (c : Command)
    (e : Errand)
    (stage : Stage) :
    Progress around s c e stage
      (e.proceed around s c stage) := by
  cases stage with
  | stamped => exact progress_depart
  | bound parcel =>
      exact progress_onwards (fun _ => rfl) (List.prefix_append _ _)
        rfl fun _ => Nat.lt_succ_self 3
  | connected parcel k =>
      exact progress_onwards (fun _ => rfl) (List.prefix_append _ _)
        rfl fun _ => Nat.lt_succ_self 2
  | sent parcel k => exact progress_converse parcel k
  | copied k => exact progress_ended (List.prefix_append _ _) rfl
  | answered a r => exact progress_fetch a r
  | posting =>
      exact progress_onwards (fun _ => rfl) (List.prefix_append _ _)
        rfl fun _ => Nat.lt_succ_self 1
  | responded p => exact progress_ended List.nil_prefix rfl

end Errand

end Courier

------------------------------------------------------------
-- Calls that Go by Some Settings
------------------------------------------------------------

namespace Courier

namespace Ongoing

/-
  A call goes by some settings: all choices that it has made
  and that are left are those of these settings, and so is
  its end.
-/
inductive GoesBy
    (settings : ClientSettings) : Ongoing → Prop where
| going
    {e : Errand}
    {around : Surroundings}
    {stage : Errand.Stage}
    {made : List Choice}
    (hSome : made ≠ [])
    (hMade :
      e.choices settings =
        made ++ e.choicesAt settings (e.stamped settings) stage)
    (hComes :
      e.comesTo around settings (e.stamped settings) stage =
        e.carryOut around settings) :
    GoesBy settings
      { errand := e
        around := around
        leg := .going settings (e.stamped settings) stage
        made := made }
| done
    {e : Errand}
    {around : Surroundings}
    {outcome : Except TransportError Answer}
    {place : Destination}
    {made : List Choice}
    (hSome : made ≠ [])
    (hMade : made <+: e.choices settings)
    (hComes :
      e.carryOut around settings = (outcome, place)) :
    GoesBy settings
      { errand := e
        around := around
        leg := .done outcome place
        made := made }

variable {settings : ClientSettings}
variable {o : Ongoing}

/- A call stays the same call. -/
theorem errand_advance
    (current : ClientSettings)
    (o : Ongoing) :
    (o.advance current).errand = o.errand ∧
      (o.advance current).around = o.around := by
  unfold advance
  cases o.leg with
  | ready => exact ⟨rfl, rfl⟩
  | going s c stage => exact ⟨rfl, rfl⟩
  | done outcome place => exact ⟨rfl, rfl⟩

/- The first step of a call takes the settings that hold. -/
theorem goesBy_first
    (current : ClientSettings)
    (hReady : o.leg = .ready)
    (hNone : o.made = []) :
    (o.advance current).GoesBy current ∧
      (o.advance current).leg.left = 5 := by
  rcases o with ⟨e, around, leg, made⟩
  subst hReady hNone
  exact
    ⟨.going (by simp) rfl (e.comesTo_stamped around current),
      rfl⟩

/-
  A call that goes by some settings goes on by them, whatever
  settings hold, and comes closer to its end.
-/
theorem GoesBy.advance
    (hGoes : o.GoesBy settings)
    (current : ClientSettings) :
    (o.advance current).GoesBy settings ∧
      (o.advance current).leg.left ≤ o.leg.left - 1 := by
  cases hGoes with
  | done hSome hMade hComes =>
      exact ⟨.done hSome hMade hComes, Nat.zero_le _⟩
  | @going e around stage made hSome hMade hComes =>
      have hProgress :=
        e.progress_proceed around settings
          (e.stamped settings) stage
      unfold Ongoing.advance
      dsimp only
      generalize
        e.proceed around settings (e.stamped settings)
          stage = turn at hProgress
      have hLonger (chosen : List Choice) :
          made ++ chosen ≠ [] :=
        List.append_ne_nil_of_left_ne_nil hSome chosen
      -- The settings that hold now do not occur in the step.
      cases hProgress with
      | goes hChosen hSame hLess =>
          refine
            ⟨.going (hLonger _) ?_ (hSame.symm.trans hComes),
              ?_⟩
          · rw [hMade, hChosen, List.append_assoc]
          · exact Nat.le_sub_one_of_lt hLess
      | ends hChosen hEnd =>
          refine
            ⟨.done (hLonger _) ?_ (hComes.symm.trans hEnd),
              Nat.zero_le _⟩
          rw [hMade]
          exact (List.prefix_append_right_inj made).mpr hChosen

/- A call without steps left has its end. -/
theorem GoesBy.of_left
    (hGoes : o.GoesBy settings)
    (hLeft : o.leg.left = 0) :
    ∃ outcome place, o.leg = .done outcome place := by
  cases hGoes with
  | done => exact ⟨_, _, rfl⟩
  | @going _ _ stage => cases stage <;> cases hLeft

/- A call that goes by some settings ends as they say. -/
theorem GoesBy.finish
    {outcome : Except TransportError Answer}
    {place : Destination}
    (hGoes : o.GoesBy settings)
    (hDone : o.leg = .done outcome place) :
    (outcome, place) = o.errand.carryOut o.around settings := by
  cases hGoes with
  | going => cases hDone
  | done hSome hMade hComes =>
      cases hDone
      exact hComes.symm

/- A call that goes by some settings chooses as they say. -/
theorem GoesBy.made
    (hGoes : o.GoesBy settings) :
    o.made <+: o.errand.choices settings ∧ o.made ≠ [] := by
  cases hGoes with
  | going hSome hMade => exact ⟨⟨_, hMade.symm⟩, hSome⟩
  | done hSome hMade => exact ⟨hMade, hSome⟩

end Ongoing

end Courier
