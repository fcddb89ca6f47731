import Courier.Proofs.Storage.Disk

/-
  A workshop does what its outline does.

  Whoever takes a step, the shelf of the disk and the phases
  of all operations change as in the outline, where nobody
  knows of directories, hidden names and numbers of files.

  Key definitions include:
    * `Task.IsFaithful`

  Key theorems include:
    * `Task.isFaithful_step`
    * `Workshop.isSound_run`
    * `Workshop.outline_run`
-/

------------------------------------------------------------
-- Faithful Steps
------------------------------------------------------------

namespace Courier

namespace Task

/-
  The only files under hidden names of an operation are
  those that it is writing.
-/
def KeepsHidden
    (d : Disk)
    (owner : Nat)
    (t : Task) : Prop :=
  ∀ directory file,
    d.names (.hidden directory owner) = some file →
      t.operation.key.1 = directory ∧
        ∃ left, t.stage = .writing file left

/-
  A step keeps the disk sound and spares what belongs to
  others, and the outline of the operation takes the same
  step.
-/
structure IsFaithful
    (d : Disk)
    (owner count : Nat)
    (t : Task)
    (s : Step) : Prop where
  disk : s.disk.IsSound
  spares : d.Spares s.disk owner
  task : IsSound s.disk owner { t with stage := s.stage }
  hidden :
    KeepsHidden s.disk owner { t with stage := s.stage }
  next :
    (t.stage.phase d).next d.shelf count t.operation =
      (s.stage.phase s.disk, s.tookEffect)
  shelf :
    s.disk.shelf =
      if s.tookEffect then d.shelf.after t.operation
      else d.shelf

variable {d : Disk}
variable {owner count : Nat}
variable {t : Task}

/- An operation may stay where it is. -/
theorem isFaithful_idle
    (hDisk : d.IsSound)
    (hTask : t.IsSound d owner)
    (hHidden : t.KeepsHidden d owner)
    (hNext :
      (t.stage.phase d).next d.shelf count t.operation =
        (t.stage.phase d, false)) :
    t.IsFaithful d owner count (.silent t.stage d) where
  disk := hDisk
  spares := Disk.spares_refl d owner
  task := hTask
  hidden := hHidden
  next := hNext
  shelf := rfl

variable {key : FileKey}
variable {content left : Bytes}
variable {file : Nat}

/- Making a hidden file is faithful. -/
theorem isFaithful_create
    (hDisk : d.IsSound)
    (hTask : IsSound d owner ⟨.store key content, .prepared⟩)
    (hHidden :
      KeepsHidden d owner ⟨.store key content, .prepared⟩) :
    IsFaithful d owner count ⟨.store key content, .prepared⟩
      (.silent (.writing d.contents.length content)
        (d.create (.hidden key.1 owner)).2) where
  disk := by
    have hSlot :
        (Slot.hidden key.1 owner).directory ∈ d.directories :=
      hTask
    exact hDisk.create hSlot
  spares := Disk.spares_create d key.1 owner
  task := by
    refine ⟨key, content, rfl, ?_, ?_⟩
    · show (d.create _).2.names _ = _
      rw [Disk.names_create, if_pos rfl]
    · show (d.create _).2.content _ ++ content = content
      rw [Disk.content_new, List.nil_append]
  hidden := by
    intro directory file hName
    change (d.create _).2.names _ = some file at hName
    rw [Disk.names_create] at hName
    split at hName
    · next hSame =>
        cases hName
        cases hSame
        exact ⟨rfl, content, rfl⟩
    · rcases hHidden directory file hName with
        ⟨-, left, hStage⟩
      cases hStage
  next := rfl
  shelf := hDisk.shelf_create key.1 owner

/- Giving a file that was written its final name is, too. -/
theorem isFaithful_rename
    (hDisk : d.IsSound)
    (hHidden :
      KeepsHidden d owner
        ⟨.store key content, .writing file left⟩)
    (hName : d.names (.hidden key.1 owner) = some file)
    (hWhole : d.content file = content)
    (hDone : left.isEmpty = true) :
    IsFaithful d owner count
      ⟨.store key content, .writing file left⟩
      (.effective (.done .stored)
        (d.rename (.hidden key.1 owner) (.final key))) where
  disk := hDisk.rename rfl
  spares := Disk.spares_rename d key.1 owner key
  task := trivial
  hidden := by
    intro directory other hOther
    change (d.rename _ _).names _ = some other at hOther
    rw [Disk.names_rename, if_neg (by simp)] at hOther
    split at hOther
    · cases hOther
    · next hNe =>
        -- The operation has no other hidden file.
        rcases hHidden directory other hOther with
          ⟨hDirectory, -⟩
        cases hDirectory
        exact absurd rfl hNe
  next := by
    simp only [Stage.phase, Phase.next, if_pos hDone]
    rfl
  shelf := by
    show _ = d.shelf.put key content
    rw [← hWhole]
    exact Disk.shelf_rename hName key

/- And so is writing more of it. -/
theorem isFaithful_append
    (hDisk : d.IsSound)
    (hHidden :
      KeepsHidden d owner
        ⟨.store key content, .writing file left⟩)
    (hName : d.names (.hidden key.1 owner) = some file)
    (hContent : d.content file ++ left = content)
    (hMore : ¬left.isEmpty = true) :
    IsFaithful d owner count
      ⟨.store key content, .writing file left⟩
      (.silent (.writing file (left.drop count))
        (d.append file (left.take count))) where
  disk := hDisk.append file (left.take count)
  spares := Disk.spares_append hName (left.take count)
  task := by
    have hFile := hDisk.isFile _ file hName
    refine ⟨key, content, rfl, hName, ?_⟩
    calc
      (d.append file (left.take count)).content file ++
          left.drop count
      _ =
          d.content file ++
            (left.take count ++ left.drop count) := by
        rw [Disk.content_append_same hFile, List.append_assoc]
      _ = content := by
        rw [List.take_append_drop, hContent]
  hidden := by
    intro directory other hOther
    rcases hHidden directory other hOther with
      ⟨hDirectory, rest, hStage⟩
    cases hStage
    exact ⟨hDirectory, left.drop count, rfl⟩
  next := by
    simp only [Stage.phase, Phase.next, if_neg hMore]
    rfl
  shelf := hDisk.shelf_append hName (left.take count)

/- Steps of writing a file are faithful. -/
theorem isFaithful_storeStep
    {stage : Stage}
    (hDisk : d.IsSound)
    (hTask : IsSound d owner ⟨.store key content, stage⟩)
    (hHidden :
      KeepsHidden d owner ⟨.store key content, stage⟩) :
    IsFaithful d owner count ⟨.store key content, stage⟩
      (storeStep owner count d key content stage) := by
  cases stage with
  | waiting =>
      exact
        { disk := hDisk.makeDirectory key.1
          spares := Disk.spares_makeDirectory d key.1 owner
          task := List.mem_cons_self
          hidden := by
            intro directory file hName
            rcases hHidden directory file hName with
              ⟨-, left, hStage⟩
            cases hStage
          next := rfl
          shelf := rfl }
  | prepared => exact isFaithful_create hDisk hTask hHidden
  | writing file left =>
      rcases hTask with ⟨_, _, hStore, hName, hContent⟩
      cases hStore
      by_cases hDone : left.isEmpty = true
      · rw [storeStep, if_pos hDone]
        have hWhole : d.content file = content := by
          rw [← hContent, List.isEmpty_iff.mp hDone,
            List.append_nil]
        exact
          isFaithful_rename hDisk hHidden hName hWhole hDone
      · rw [storeStep, if_neg hDone]
        exact
          isFaithful_append hDisk hHidden hName hContent hDone
  | reading file got =>
      exact isFaithful_idle hDisk hTask hHidden rfl
  | done report =>
      exact isFaithful_idle hDisk hTask hHidden rfl

/- Only an operation that stores has hidden files. -/
theorem not_hidden
    (hTask : t.IsSound d owner)
    (hHidden : t.KeepsHidden d owner)
    (hOther :
      ∀ key content, t.operation ≠ .store key content)
    (directory : String)
    (file : Nat) :
    d.names (.hidden directory owner) ≠ some file := by
  intro hName
  rcases t with ⟨o, stage⟩
  rcases hHidden directory file hName with ⟨-, left, hStage⟩
  cases hStage
  rcases hTask with ⟨key, content, hStore, -, -⟩
  exact hOther key content hStore

/- A step of looking for a file leaves the disk alone. -/
theorem isFaithful_look
    {stage stage' : Stage}
    {tookEffect : Bool}
    (hDisk : d.IsSound)
    (hTask : IsSound d owner ⟨.find key, stage⟩)
    (hHidden : KeepsHidden d owner ⟨.find key, stage⟩)
    (hTask' : IsSound d owner ⟨.find key, stage'⟩)
    (hNext :
      (stage.phase d).next d.shelf count (.find key) =
        (stage'.phase d, tookEffect)) :
    IsFaithful d owner count ⟨.find key, stage⟩
      ⟨stage', d, tookEffect⟩ where
  disk := hDisk
  spares := Disk.spares_refl d owner
  task := hTask'
  hidden := by
    intro directory file hName
    have hNone :=
      not_hidden hTask hHidden (by simp) directory file
    exact absurd hName hNone
  next := hNext
  shelf := by
    cases tookEffect with
    | false => rfl
    | true => rfl

/- Steps of looking for a file are faithful. -/
theorem isFaithful_findStep
    {stage : Stage}
    (hDisk : d.IsSound)
    (hTask : IsSound d owner ⟨.find key, stage⟩)
    (hHidden : KeepsHidden d owner ⟨.find key, stage⟩) :
    IsFaithful d owner count ⟨.find key, stage⟩
      (findStep count d key stage) := by
  cases stage with
  | waiting =>
      rw [findStep]
      cases hName : d.names (.final key) with
      | none =>
          apply isFaithful_look hDisk hTask hHidden
          · trivial
          · have hShelf : d.shelf key = none := by
              rw [Disk.shelf, hName, Option.map_none]
            simp only [Stage.phase, Phase.next, hShelf]
      | some file =>
          apply isFaithful_look hDisk hTask hHidden
          · refine ⟨hDisk.isFile _ file hName, ?_⟩
            -- The final name is not a hidden one.
            intro directory other hHere
            cases hDisk.injective _ _ file hName hHere
          · have hShelf :
                d.shelf key = some (d.content file) := by
              rw [Disk.shelf, hName, Option.map_some]
            simp only [Stage.phase, Phase.next, hShelf]
  | reading file got =>
      rw [findStep]
      by_cases hDone :
          ((d.content file).drop got.length).isEmpty = true
      · simp only [if_pos hDone]
        apply isFaithful_look hDisk hTask hHidden
        · trivial
        · simp only [Stage.phase, Phase.next, if_pos hDone]
      · simp only [if_neg hDone]
        apply isFaithful_look hDisk hTask hHidden
        · exact hTask
        · simp only [Stage.phase, Phase.next, if_neg hDone]
  | prepared => exact isFaithful_idle hDisk hTask hHidden rfl
  | writing file left =>
      exact isFaithful_idle hDisk hTask hHidden rfl
  | done report =>
      exact isFaithful_idle hDisk hTask hHidden rfl

/- Steps of deleting a file are faithful. -/
theorem isFaithful_deleteStep
    {stage : Stage}
    (hDisk : d.IsSound)
    (hTask : IsSound d owner ⟨.delete key, stage⟩)
    (hHidden : KeepsHidden d owner ⟨.delete key, stage⟩) :
    IsFaithful d owner count ⟨.delete key, stage⟩
      (deleteStep d key stage) := by
  cases stage with
  | waiting =>
      exact
        { disk := hDisk.unlink (.final key)
          spares := Disk.spares_unlink d key owner
          task := trivial
          hidden := by
            intro directory file hName
            change (d.unlink _).names _ = some file at hName
            rw [Disk.unlink_other d (by simp)] at hName
            have hNone :=
              not_hidden hTask hHidden (by simp) directory file
            exact absurd hName hNone
          next := by
            have hShelf :
                (d.shelf key).isSome =
                  (d.names (.final key)).isSome :=
              Option.isSome_map
            simp only [Stage.phase, Phase.next, hShelf]
            rfl
          shelf := Disk.shelf_unlink d key }
  | prepared => exact isFaithful_idle hDisk hTask hHidden rfl
  | writing file left =>
      exact isFaithful_idle hDisk hTask hHidden rfl
  | reading file got =>
      exact isFaithful_idle hDisk hTask hHidden rfl
  | done report =>
      exact isFaithful_idle hDisk hTask hHidden rfl

/- Whatever the operation does next, the step is faithful. -/
theorem isFaithful_step
    (hDisk : d.IsSound)
    (hTask : t.IsSound d owner)
    (hHidden : t.KeepsHidden d owner)
    (count : Nat) :
    t.IsFaithful d owner count (t.step owner count d) := by
  rcases t with ⟨o, stage⟩
  cases o with
  | store key content =>
      exact isFaithful_storeStep hDisk hTask hHidden
  | find key => exact isFaithful_findStep hDisk hTask hHidden
  | delete key =>
      exact isFaithful_deleteStep hDisk hTask hHidden

end Task

end Courier

------------------------------------------------------------
-- Faithful Runs
------------------------------------------------------------

namespace Courier

namespace Workshop

variable {w : Workshop}

/- A step of an operation, as one on disk, tasks and order. -/
theorem step_eq
    {turn : Turn}
    {t : Task}
    (hTask : w.tasks[turn.owner]? = some t) :
    w.step turn =
      { disk := (t.step turn.owner turn.count w.disk).disk
        tasks :=
          w.tasks.set turn.owner
            { t with
              stage :=
                (t.step turn.owner turn.count w.disk).stage }
        effects :=
          if (t.step turn.owner turn.count w.disk).tookEffect
          then w.effects ++ [turn.owner]
          else w.effects } := by
  simp only [step, hTask]

/- Nobody takes a step where there is no operation. -/
theorem step_missing
    {turn : Turn}
    (hNone : w.tasks[turn.owner]? = none) :
    w.step turn = w := by
  simp only [step, hNone]

/- The step of an operation in a sound workshop is faithful. -/
theorem IsSound.isFaithful
    (hSound : w.IsSound)
    {owner : Nat}
    {t : Task}
    (hTask : w.tasks[owner]? = some t)
    (count : Nat) :
    t.IsFaithful w.disk owner count
      (t.step owner count w.disk) := by
  apply Task.isFaithful_step hSound.disk
  · exact hSound.task owner t hTask
  · intro directory file hName
    rcases hSound.hidden directory owner file hName with
      ⟨t', left, hTask', hDirectory, hStage⟩
    cases hTask.symm.trans hTask'
    exact ⟨hDirectory, left, hStage⟩

/- The jobs of an outline are the tasks of its workshop. -/
theorem getElem?_jobs_outline
    (w : Workshop)
    (owner : Nat) :
    w.outline.jobs[owner]? =
      w.tasks[owner]?.map (Task.job w.disk) :=
  List.getElem?_map

/- The workshop stays sound. -/
theorem IsSound.step
    (hSound : w.IsSound)
    (turn : Turn) :
    (w.step turn).IsSound := by
  cases hTask : w.tasks[turn.owner]? with
  | none =>
      rw [step_missing hTask]
      exact hSound
  | some t =>
      have hStep := hSound.isFaithful hTask turn.count
      rw [step_eq hTask]
      constructor
      · exact hStep.disk
      · intro other t' hTask'
        rw [List.getElem?_set] at hTask'
        split at hTask'
        · next hSame =>
            split at hTask'
            · cases hTask'
              rw [← hSame]
              exact hStep.task
            · cases hTask'
        · next hNe =>
            exact
              (hSound.spared hStep.spares hTask'
                (Ne.symm hNe)).1
      · intro directory other file hName
        by_cases hSame : other = turn.owner
        · subst hSame
          rcases hStep.hidden directory file hName with
            ⟨hDirectory, left, hStage⟩
          have hLength :=
            (List.getElem?_eq_some_iff.mp hTask).1
          refine ⟨_, left, ?_, hDirectory, hStage⟩
          rw [List.getElem?_set_self hLength]
        · rw [hStep.spares.hidden directory other hSame] at hName
          rcases hSound.hidden directory other file hName with
            ⟨t', left, hTask', hDirectory, hStage⟩
          refine ⟨t', left, ?_, hDirectory, hStage⟩
          rw [List.getElem?_set_ne (Ne.symm hSame)]
          exact hTask'

/- And its outline takes the same step. -/
theorem IsSound.outline_step
    (hSound : w.IsSound)
    (turn : Turn) :
    (w.step turn).outline = w.outline.step turn := by
  have hJobs := getElem?_jobs_outline w turn.owner
  cases hTask : w.tasks[turn.owner]? with
  | none =>
      have hNone : w.outline.jobs[turn.owner]? = none := by
        rw [hJobs, hTask, Option.map_none]
      rw [step_missing hTask, Outline.step_missing hNone]
  | some t =>
      have hJob :
          w.outline.jobs[turn.owner]? =
            some (t.job w.disk) := by
        rw [hJobs, hTask, Option.map_some]
      have hStep := hSound.isFaithful hTask turn.count
      rw [step_eq hTask, Outline.step_eq hJob hStep.next]
      unfold outline
      rw [Outline.mk.injEq]
      refine ⟨hStep.shelf, ?_, rfl⟩
      -- The other operations are where they were.
      apply List.ext_getElem?
      intro other
      rw [List.getElem?_map, List.getElem?_set,
        List.getElem?_set, List.length_map]
      by_cases hSame : turn.owner = other
      · have hLength :=
          (List.getElem?_eq_some_iff.mp hTask).1
        rw [if_pos hSame, if_pos hSame, if_pos hLength,
          if_pos hLength]
        rfl
      · rw [if_neg hSame, if_neg hSame, List.getElem?_map]
        cases hOther : w.tasks[other]? with
        | none => rfl
        | some t' =>
            have hSpared :=
              hSound.spared hStep.spares hOther
                (Ne.symm hSame)
            rw [Option.map_some, Option.map_some, hSpared.2]

/- However many steps are taken, the workshop is sound. -/
theorem isSound_run
    (operations : List Shelf.Operation)
    (schedule : List Turn) :
    ((ofOperations operations).run schedule).IsSound := by
  have hRun (w : Workshop) (hSound : w.IsSound) :
      (w.run schedule).IsSound := by
    induction schedule generalizing w with
    | nil => exact hSound
    | cons turn schedule ih => exact ih _ (hSound.step turn)
  exact hRun _ (isSound_ofOperations operations)

/- And it has done what its outline says. -/
theorem outline_run
    (operations : List Shelf.Operation)
    (schedule : List Turn) :
    ((ofOperations operations).run schedule).outline =
      (ofOperations operations).outline.run schedule := by
  have hRun (w : Workshop) (hSound : w.IsSound) :
      (w.run schedule).outline = w.outline.run schedule := by
    induction schedule generalizing w with
    | nil => rfl
    | cons turn schedule ih =>
        calc
          (w.run (turn :: schedule)).outline
          _ = (w.step turn).outline.run schedule :=
            ih _ (hSound.step turn)
          _ = (w.outline.step turn).run schedule := by
            rw [hSound.outline_step turn]
  exact hRun _ (isSound_ofOperations operations)

end Workshop

end Courier
