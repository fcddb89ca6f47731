import Courier.Storage.Outline

/-
  What operations on a disk leave alone.

  Each name leads to a file of its own.  An operation writes
  to the file behind its hidden name only, and no other
  operation can open that file.  So whoever takes a step,
  the others find their own files as they left them.

  Key definitions include:
    * `Disk.IsSound`
    * `Disk.Spares`
    * `Task.IsSound`
    * `Workshop.IsSound`

  Key theorems include:
    * `Disk.IsSound.create`
    * `Disk.IsSound.rename`
    * `Disk.spares_append`
    * `Workshop.IsSound.spared`
-/

------------------------------------------------------------
-- Names and Contents
------------------------------------------------------------

namespace Courier

namespace Disk

/- Where a name leads after a file was made. -/
theorem names_create
    (d : Disk)
    (slot other : Slot) :
    (d.create slot).2.names other =
      if other = slot then some d.contents.length
      else d.names other :=
  rfl

/- Where a name leads after a file was renamed. -/
theorem names_rename
    (d : Disk)
    (old new other : Slot) :
    (d.rename old new).names other =
      if other = new then d.names old
      else if other = old then none
      else d.names other :=
  rfl

variable {d : Disk}
variable {file other : Nat}

/- Older files keep their contents when one is made. -/
theorem content_create
    (slot : Slot)
    (hFile : file < d.contents.length) :
    (d.create slot).2.content file = d.content file := by
  simp only [create, content]
  rw [List.getElem?_append_left hFile]

/- A new file is empty. -/
theorem content_new
    (slot : Slot) :
    (d.create slot).2.content d.contents.length = [] := by
  simp [create, content]

/- A chunk comes behind what was written before. -/
theorem content_append_same
    (hFile : file < d.contents.length)
    (chunk : Bytes) :
    (d.append file chunk).content file =
      d.content file ++ chunk := by
  simp [append, content, hFile]

/- The other files keep their contents then. -/
theorem content_append_other
    (hOther : other ≠ file)
    (chunk : Bytes) :
    (d.append file chunk).content other = d.content other := by
  simp [append, content, hOther.symm]

end Disk

end Courier

------------------------------------------------------------
-- Sound Disks
------------------------------------------------------------

namespace Courier

namespace Disk

/-
  Each name leads to a file that was made, no two names to
  the same one, and the directory of each name is there.
-/
structure IsSound
    (d : Disk) : Prop where
  isFile :
    ∀ slot file,
      d.names slot = some file → file < d.contents.length
  injective :
    ∀ slot other file,
      d.names slot = some file →
        d.names other = some file → slot = other
  directory :
    ∀ slot file,
      d.names slot = some file →
        slot.directory ∈ d.directories

/- A disk without files is sound. -/
theorem isSound_empty :
    empty.IsSound where
  isFile := by
    intro slot file hName
    cases hName
  injective := by
    intro slot other file hName
    cases hName
  directory := by
    intro slot file hName
    cases hName

variable {d : Disk}

/- A disk stays sound when it gets a directory. -/
theorem IsSound.makeDirectory
    (hSound : d.IsSound)
    (directory : String) :
    (d.makeDirectory directory).IsSound where
  isFile := hSound.isFile
  injective := hSound.injective
  directory := by
    intro slot file hName
    exact
      List.mem_cons_of_mem directory
        (hSound.directory slot file hName)

/- It stays sound when it gets a file in a directory. -/
theorem IsSound.create
    (hSound : d.IsSound)
    {slot : Slot}
    (hDirectory : slot.directory ∈ d.directories) :
    (d.create slot).2.IsSound := by
  -- The number of a new file was given to no name before.
  have hFresh (other : Slot) :
      d.names other ≠ some d.contents.length := by
    intro hName
    exact
      Nat.lt_irrefl d.contents.length
        (hSound.isFile other _ hName)
  constructor
  · intro other file hOther
    have hLength :
        (d.create slot).2.contents.length =
          d.contents.length + 1 := by
      simp [Disk.create]
    rw [hLength]
    rw [names_create] at hOther
    split at hOther
    · cases hOther
      exact Nat.lt_succ_self d.contents.length
    · exact
        Nat.lt_succ_of_lt (hSound.isFile other file hOther)
  · intro first second file hFirst hSecond
    rw [names_create] at hFirst hSecond
    split at hFirst
    · next hSlot =>
        cases hFirst
        split at hSecond
        · next hSame => rw [hSlot, hSame]
        · exact absurd hSecond (hFresh second)
    · split at hSecond
      · cases hSecond
        exact absurd hFirst (hFresh first)
      · exact hSound.injective first second file hFirst hSecond
  · intro other file hOther
    rw [names_create] at hOther
    split at hOther
    · next hSame =>
        rw [hSame]
        exact hDirectory
    · exact hSound.directory other file hOther

/- It stays sound when a file is written. -/
theorem IsSound.append
    (hSound : d.IsSound)
    (file : Nat)
    (chunk : Bytes) :
    (d.append file chunk).IsSound where
  isFile := by
    intro slot other hName
    have hFile := hSound.isFile slot other hName
    simpa [Disk.append] using hFile
  injective := hSound.injective
  directory := hSound.directory

/- It stays sound when a file gets a name nearby. -/
theorem IsSound.rename
    (hSound : d.IsSound)
    {old new : Slot}
    (hNear : new.directory = old.directory) :
    (d.rename old new).IsSound := by
  constructor
  · intro slot file hSlot
    rw [names_rename] at hSlot
    split at hSlot
    · exact hSound.isFile old file hSlot
    · split at hSlot
      · cases hSlot
      · exact hSound.isFile slot file hSlot
  · intro first second file hFirst hSecond
    rw [names_rename] at hFirst hSecond
    -- A name that is neither of the two had another file.
    have hOther (slot : Slot)
        (hNe : slot ≠ old)
        (hOld : d.names old = some file)
        (hSlot : d.names slot = some file) : False :=
      hNe (hSound.injective slot old file hSlot hOld)
    split at hFirst
    · next hNew =>
        split at hSecond
        · next hSame => rw [hNew, hSame]
        · split at hSecond
          · cases hSecond
          · next hNe =>
              exact (hOther second hNe hFirst hSecond).elim
    · split at hFirst
      · cases hFirst
      · next hNe =>
          split at hSecond
          · exact (hOther first hNe hSecond hFirst).elim
          · split at hSecond
            · cases hSecond
            · exact
                hSound.injective first second file hFirst
                  hSecond
  · intro slot file hSlot
    rw [names_rename] at hSlot
    split at hSlot
    · next hSame =>
        rw [hSame, hNear]
        exact hSound.directory old file hSlot
    · split at hSlot
      · cases hSlot
      · exact hSound.directory slot file hSlot

/- It stays sound when a name is taken away. -/
theorem IsSound.unlink
    (hSound : d.IsSound)
    (slot : Slot) :
    (d.unlink slot).IsSound := by
  -- The names that are left were there before.
  have hLeft (other : Slot) (file : Nat)
      (hName : (d.unlink slot).names other = some file) :
      d.names other = some file := by
    by_cases hSame : other = slot
    · rw [hSame, unlink_same] at hName
      cases hName
    · rw [unlink_other d hSame] at hName
      exact hName
  constructor
  · intro other file hName
    exact hSound.isFile other file (hLeft other file hName)
  · intro first second file hFirst hSecond
    exact
      hSound.injective first second file
        (hLeft first file hFirst) (hLeft second file hSecond)
  · intro other file hName
    exact hSound.directory other file (hLeft other file hName)

end Disk

end Courier

------------------------------------------------------------
-- Shelves
------------------------------------------------------------

namespace Courier

namespace Disk

variable {d : Disk}
variable {directory : String}
variable {owner file : Nat}

/- Making a hidden file changes no file on the shelf. -/
theorem IsSound.shelf_create
    (hSound : d.IsSound)
    (directory : String)
    (owner : Nat) :
    (d.create (.hidden directory owner)).2.shelf =
      d.shelf := by
  funext key
  have hName :
      (d.create (.hidden directory owner)).2.names
          (.final key) =
        d.names (.final key) := by
    rw [names_create, if_neg (by simp)]
  unfold shelf
  rw [hName]
  cases hFinal : d.names (.final key) with
  | none => rfl
  | some old =>
      have hFile := hSound.isFile (.final key) old hFinal
      rw [Option.map_some, Option.map_some,
        content_create (.hidden directory owner) hFile]

/- Writing to a hidden file changes none there either. -/
theorem IsSound.shelf_append
    (hSound : d.IsSound)
    (hName : d.names (.hidden directory owner) = some file)
    (chunk : Bytes) :
    (d.append file chunk).shelf = d.shelf := by
  funext key
  show (d.names (.final key)).map _ = _
  unfold shelf
  cases hFinal : d.names (.final key) with
  | none => rfl
  | some other =>
      have hOther : other ≠ file := by
        rintro rfl
        cases hSound.injective _ _ other hFinal hName
      rw [Option.map_some, Option.map_some,
        content_append_other hOther chunk]

/- A hidden file goes onto the shelf with all it has. -/
theorem shelf_rename
    (hName : d.names (.hidden directory owner) = some file)
    (key : FileKey) :
    (d.rename (.hidden directory owner) (.final key)).shelf =
      d.shelf.put key (d.content file) := by
  funext other
  by_cases hSame : other = key
  · rw [hSame, Shelf.put_same]
    unfold shelf
    rw [rename_new, hName]
    rfl
  · rw [d.shelf.put_other _ hSame]
    unfold shelf
    rw [rename_other d (by simp) (by simp [hSame])]
    rfl

/- A name that is taken away is gone from the shelf. -/
theorem shelf_unlink
    (d : Disk)
    (key : FileKey) :
    (d.unlink (.final key)).shelf = d.shelf.erase key := by
  funext other
  by_cases hSame : other = key
  · rw [hSame, Shelf.erase_same]
    unfold shelf
    rw [unlink_same]
    rfl
  · rw [d.shelf.erase_other hSame]
    unfold shelf
    rw [unlink_other d (by simp [hSame])]
    rfl

end Disk

end Courier

------------------------------------------------------------
-- What a Step Spares
------------------------------------------------------------

namespace Courier

namespace Disk

/-
  What is not behind a hidden name of an operation is not
  written, and the hidden names of others stay.
-/
structure Spares
    (d d' : Disk)
    (owner : Nat) : Prop where
  directories :
    ∀ directory ∈ d.directories, directory ∈ d'.directories
  length : d.contents.length ≤ d'.contents.length
  content :
    ∀ file < d.contents.length,
      (∀ directory,
          d.names (.hidden directory owner) ≠ some file) →
        d'.content file = d.content file
  hidden :
    ∀ directory other,
      other ≠ owner →
        d'.names (.hidden directory other) =
          d.names (.hidden directory other)
  own :
    ∀ directory file,
      d'.names (.hidden directory owner) = some file →
        d.names (.hidden directory owner) = some file ∨
          d.contents.length ≤ file

variable {d : Disk}
variable {owner : Nat}

/- A step that leaves the disk alone spares everything. -/
theorem spares_refl
    (d : Disk)
    (owner : Nat) :
    d.Spares d owner where
  directories := fun _ hMem => hMem
  length := Nat.le_refl d.contents.length
  content := fun _ _ _ => rfl
  hidden := fun _ _ _ => rfl
  own := fun _ _ hName => Or.inl hName

/- Making a directory spares everything. -/
theorem spares_makeDirectory
    (d : Disk)
    (directory : String)
    (owner : Nat) :
    d.Spares (d.makeDirectory directory) owner :=
  { spares_refl d owner with
    directories := by
      intro other hMem
      exact List.mem_cons_of_mem directory hMem }

/- Making a hidden file spares the files that there are. -/
theorem spares_create
    (d : Disk)
    (directory : String)
    (owner : Nat) :
    d.Spares (d.create (.hidden directory owner)).2 owner where
  directories := fun _ hMem => hMem
  length := by simp [create]
  content := by
    intro file hFile _
    exact content_create (.hidden directory owner) hFile
  hidden := by
    intro other number hNe
    rw [names_create, if_neg (by simp [hNe])]
  own := by
    intro other file hName
    rw [names_create] at hName
    split at hName
    · cases hName
      exact Or.inr (Nat.le_refl d.contents.length)
    · exact Or.inl hName

/- Writing to one's own hidden file spares the others. -/
theorem spares_append
    {directory : String}
    {file : Nat}
    (hName : d.names (.hidden directory owner) = some file)
    (chunk : Bytes) :
    d.Spares (d.append file chunk) owner :=
  { spares_refl d owner with
    length := by simp [append]
    content := by
      intro other _ hHidden
      apply content_append_other
      rintro rfl
      exact hHidden directory hName }

/- Giving a hidden file its final name spares the others. -/
theorem spares_rename
    (d : Disk)
    (directory : String)
    (owner : Nat)
    (key : FileKey) :
    d.Spares
      (d.rename (.hidden directory owner) (.final key))
      owner :=
  { spares_refl d owner with
    hidden := by
      intro other number hNe
      apply rename_other
      · simp [hNe]
      · simp
    own := by
      intro other file hName
      rw [names_rename] at hName
      split at hName
      · next hFinal => cases hFinal
      · split at hName
        · cases hName
        · exact Or.inl hName }

/- Taking a final name away spares the others. -/
theorem spares_unlink
    (d : Disk)
    (key : FileKey)
    (owner : Nat) :
    d.Spares (d.unlink (.final key)) owner :=
  { spares_refl d owner with
    hidden := by
      intro other number _
      apply unlink_other
      simp
    own := by
      intro other file hName
      rw [unlink_other d (by simp)] at hName
      exact Or.inl hName }

end Disk

end Courier

------------------------------------------------------------
-- Sound Workshops
------------------------------------------------------------

namespace Courier

/-
  An operation finds its own things: a directory that it
  made, the part of a file that it has written under its
  hidden name, or a file that nobody writes any more.
-/
def Task.IsSound
    (d : Disk)
    (owner : Nat)
    (t : Task) : Prop :=
  match t.stage with
  | .waiting | .done _ => True
  | .prepared => t.operation.key.1 ∈ d.directories
  | .writing file left =>
      ∃ key content,
        t.operation = .store key content ∧
          d.names (.hidden key.1 owner) = some file ∧
          d.content file ++ left = content
  | .reading file _ =>
      file < d.contents.length ∧
        ∀ directory other,
          d.names (.hidden directory other) ≠ some file

namespace Workshop

/-
  The disk is sound, each operation finds its own things,
  and a file under a hidden name is still being written.
-/
structure IsSound
    (w : Workshop) : Prop where
  disk : w.disk.IsSound
  task :
    ∀ (owner : Nat) (t : Task),
      w.tasks[owner]? = some t → t.IsSound w.disk owner
  hidden :
    ∀ directory owner file,
      w.disk.names (.hidden directory owner) = some file →
        ∃ (t : Task) (left : Bytes),
          w.tasks[owner]? = some t ∧
            t.operation.key.1 = directory ∧
            t.stage = .writing file left

/- Nothing is out of place before anything was done. -/
theorem isSound_ofOperations
    (operations : List Shelf.Operation) :
    (ofOperations operations).IsSound where
  disk := Disk.isSound_empty
  task := by
    intro owner t hTask
    have hMem := List.mem_of_getElem? hTask
    rcases List.mem_map.mp hMem with ⟨o, -, rfl⟩
    trivial
  hidden := by
    intro directory owner file hName
    cases hName

variable {w : Workshop}
variable {d' : Disk}
variable {owner other : Nat}
variable {t : Task}

/-
  Whoever takes a step, another operation finds its own
  things as it left them.
-/
theorem IsSound.spared
    (hSound : w.IsSound)
    (hSpares : w.disk.Spares d' owner)
    (hTask : w.tasks[other]? = some t)
    (hNe : other ≠ owner) :
    t.IsSound d' other ∧ t.job d' = t.job w.disk := by
  have hOld := hSound.task other t hTask
  rcases t with ⟨o, stage⟩
  cases stage with
  | waiting => exact ⟨trivial, rfl⟩
  | prepared => exact ⟨hSpares.directories _ hOld, rfl⟩
  | writing file left =>
      rcases hOld with ⟨key, content, hStore, hName, hContent⟩
      refine ⟨⟨key, content, hStore, ?_, ?_⟩, rfl⟩
      · rw [hSpares.hidden key.1 other hNe]
        exact hName
      · rw [hSpares.content file]
        · exact hContent
        · exact hSound.disk.isFile _ file hName
        · -- The file has the name of its own operation.
          intro directory hTaken
          have hSlot :=
            hSound.disk.injective _ _ file hName hTaken
          cases hSlot
          exact hNe rfl
  | reading file got =>
      rcases hOld with ⟨hFile, hHidden⟩
      have hContent :
          d'.content file = w.disk.content file :=
        hSpares.content file hFile fun directory =>
          hHidden directory owner
      refine ⟨⟨?_, ?_⟩, ?_⟩
      · exact Nat.lt_of_lt_of_le hFile hSpares.length
      · intro directory number hName
        by_cases hOwner : number = owner
        · subst hOwner
          rcases hSpares.own directory file hName with
            hBefore | hNew
          · exact hHidden directory number hBefore
          · omega
        · rw [hSpares.hidden directory number hOwner] at hName
          exact hHidden directory number hName
      · simp only [Task.job, Stage.phase, hContent]
  | done report => exact ⟨trivial, rfl⟩

end Workshop

end Courier
