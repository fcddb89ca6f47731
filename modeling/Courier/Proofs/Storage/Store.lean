import Courier.Proofs.Storage.Outcome
import Courier.Proofs.Storage.Tree
import Courier.Storage.Shelf

/-
  A store as a finite map from keys to contents.

  Storing gives one key a content, deleting takes one key
  away, and looking for a file changes nothing.  The hidden
  name of a file that is being written is never in use.

  Key definitions include:
    * `Store.IsFlat`
    * `Store.HasRoom`

  Key theorems include:
    * `Store.freshSerial_isNone`
    * `Store.store_eq_ok`
    * `Store.delete_key`
    * `Store.find_key`
-/

------------------------------------------------------------
-- Hidden Names
------------------------------------------------------------

namespace Courier

namespace Store

/- The digits of a mark spell its number. -/
private theorem value_mark
    (n k : Nat) :
    Nat.ofDigitChars 10
      (List.replicate k '0' ++ Nat.toDigits 10 n) 0 = n := by
  rw [Nat.ofDigitChars_append,
    Nat.ofDigitChars_replicate_zero, Nat.mul_zero]
  exact Nat.ofDigitChars_ten_toDigits

/- Hidden names with different numbers are different. -/
theorem hiddenName_injective
    {name : String}
    {m n : Nat}
    (hEq : hiddenName name m = hiddenName name n) :
    m = n := by
  unfold hiddenName at hEq
  have hChars := String.ofList_injective hEq
  have hMarks := List.append_cancel_right hChars
  have hDigits := List.append_cancel_left hMarks
  rw [List.cons.injEq] at hDigits
  have hValue :=
    congrArg (Nat.ofDigitChars 10 · 0) hDigits.2
  rw [value_mark, value_mark] at hValue
  exact hValue

/- A hidden name is longer than the final one. -/
theorem length_hiddenName
    (name : String)
    (n : Nat) :
    name.length < (hiddenName name n).length := by
  simp only [hiddenName, String.length_ofList,
    List.length_append, List.length_cons,
    String.length_toList]
  omega

/- The number that is chosen makes the hidden name fresh. -/
theorem freshSerial_isNone
    (t : Tree)
    (d name : String)
    (serial : Nat) :
    t.node?
      [d, hiddenName name (freshSerial t d name serial)] =
        none := by
  cases hFound :
      ((List.range (t.length + 1)).map (serial + ·)).find?
        fun n => (t.node? [d, hiddenName name n]).isNone with
  | some n =>
      have hNone := List.find?_some hFound
      rw [Option.isNone_iff_eq_none] at hNone
      simp only [freshSerial, hFound, Option.getD_some]
      exact hNone
  | none =>
      -- more names would be in use than the tree has entries
      have hUsed :
          (List.range (t.length + 1)).map
              (fun i => [d, hiddenName name (serial + i)]) ⊆
            t.map Prod.fst := by
        intro path hMem
        rcases List.mem_map.mp hMem with ⟨i, hIndex, rfl⟩
        have hTaken :=
          List.find?_eq_none.mp hFound (serial + i)
            (List.mem_map_of_mem hIndex)
        apply Tree.mem_of_node? (List.cons_ne_nil d _)
        simpa [Option.isSome_iff_ne_none,
          Option.isNone_iff_eq_none] using hTaken
      have hNodup :
          ((List.range (t.length + 1)).map
            (fun i =>
              [d, hiddenName name (serial + i)])).Nodup := by
        apply List.Pairwise.map _ _ List.nodup_range
        intro i j hNe hEq
        simp only [List.cons.injEq, true_and,
          and_true] at hEq
        have hSerial := hiddenName_injective hEq
        omega
      have hLength := hNodup.length_le_of_subset hUsed
      simp only [List.length_map, List.length_range] at hLength
      omega

end Store

end Courier

------------------------------------------------------------
-- Keys
------------------------------------------------------------

namespace Courier

/- A name that is safe already stays. -/
theorem FileName.sanitize_sanitize
    (name : String) :
    sanitize (sanitize name) = sanitize name := by
  unfold sanitize
  rw [String.toList_ofList, List.map_map]
  congr 1
  apply List.map_congr_left
  intro c hMem
  exact safeChar_of_isSafe (isSafe_safeChar c)

namespace Store

/- A name has the same component as its safe form. -/
theorem component?_sanitize
    (name : String) :
    component? (FileName.sanitize name) = component? name := by
  rw [component?, component?, FileName.sanitize_sanitize]

/- A name leads to the same file as its safe form. -/
theorem key?_sanitize
    (name : String)
    (domain : Option String) :
    key? (FileName.sanitize name) domain =
      key? name domain := by
  rw [key?, key?, component?_sanitize]

/- A name that is used is the safe form of the given one. -/
theorem component?_eq_some
    {name safe : String}
    (hName : component? name = some safe) :
    safe = FileName.sanitize name := by
  simp only [component?] at hName
  split at hName
  · cases hName
  · exact (Option.some.inj hName).symm

/- A text with a directory or file name is not empty. -/
theorem ne_empty_of_component?
    {name safe : String}
    (hName : component? name = some safe) :
    name ≠ "" ∧ safe ≠ "" := by
  have hSafe := component?_eq_some hName
  constructor
  · rintro rfl
    cases hName
  · rintro rfl
    rw [component?, ← hSafe] at hName
    cases hName

/- A file that was stored has the safe form of its name. -/
theorem component?_of_store
    {s s' : Store}
    {source : Source}
    {name fileId : String}
    {domain : Option String}
    (hStore : s.store source name domain = (.ok fileId, s')) :
    component? name = some fileId := by
  cases store_eq_iff.mp hStore with
  | stored hKey _ _ => exact (key?_eq_some hKey).1

/- A file that was deleted had a file name. -/
theorem component?_of_delete
    {s s' : Store}
    {fileId : String}
    {domain : Option String}
    (hDelete : s.delete fileId domain = (.ok true, s')) :
    ∃ safe, component? fileId = some safe := by
  cases delete_eq_iff.mp hDelete with
  | deleted hKey _ => exact ⟨_, (key?_eq_some hKey).1⟩

end Store

end Courier

------------------------------------------------------------
-- Stores
------------------------------------------------------------

namespace Courier

namespace Store

/- All files of the store are in directories of its root. -/
def IsFlat
    (s : Store) : Prop :=
  s.tree.IsFlat

/-
  The names that are needed to store a file are short enough
  for the file system.
-/
def HasRoom
    (s : Store)
    (key : FileKey) : Prop :=
  ∀ name ∈ hiddenPath s.tree key.1 key.2 s.serial,
    Tree.Fits name

instance
    (s : Store)
    (key : FileKey) :
    Decidable (s.HasRoom key) :=
  List.decidableBAll Tree.Fits _

/- The directory and the hidden name fit. -/
theorem HasRoom.fits
    {s : Store}
    {d name : String}
    (hRoom : s.HasRoom (d, name)) :
    Tree.Fits d ∧
      Tree.Fits
        (hiddenName name
          (freshSerial s.tree d name s.serial)) := by
  simp only [HasRoom, hiddenPath, List.forall_mem_cons] at hRoom
  exact ⟨hRoom.1, hRoom.2.1⟩

/- Where a hidden name fits, so does the final one. -/
theorem fits_of_hiddenName
    {name : String}
    {n : Nat}
    (hFits : Tree.Fits (hiddenName name n)) :
    Tree.Fits name := by
  unfold Tree.Fits at hFits ⊢
  have hSize :
      name.utf8ByteSize ≤ (hiddenName name n).utf8ByteSize := by
    simp only [hiddenName, String.ofList_append,
      String.ofList_cons, String.utf8ByteSize_append,
      String.ofList_toList, List.cons_append]
    omega
  omega

/- The file of a key, as its node in the tree. -/
theorem shelf_eq
    (s : Store)
    (d name : String) :
    s.shelf (d, name) =
      match s.tree.node? [d, name] with
      | some (.file content) => some content
      | _ => none :=
  rfl

/- The files of a flat tree are all nodes in directories. -/
theorem IsFlat.shelf_isSome
    {s : Store}
    (hFlat : s.IsFlat)
    (d name : String) :
    (s.shelf (d, name)).isSome =
      (s.tree.node? [d, name]).isSome := by
  rw [shelf_eq]
  rcases hFlat.file_cases d name with hNode | ⟨content, hNode⟩
  · rw [hNode]
    rfl
  · rw [hNode]
    rfl

end Store

end Courier

------------------------------------------------------------
-- Storing
------------------------------------------------------------

namespace Courier

namespace Store

/-
  Placing a file puts its content under the final name and
  leaves nothing under the hidden one.
-/
theorem place_eq_ok
    {t : Tree}
    {d hidden final : String}
    (hFlat : t.IsFlat)
    (hDirectory : t.node? [d] = some .directory)
    (hFits : Tree.Fits d)
    (hHidden : Tree.Fits hidden)
    (hFinal : Tree.Fits final)
    (hFresh : t.node? [d, hidden] = none)
    (hNe : final ≠ hidden)
    (content : Bytes) :
    ∃ t',
      place t [d, hidden] [d, final] (.whole content) =
          (.ok (), t') ∧
        t'.IsFlat ∧
        ∀ path,
          t'.node? path =
            if path = [d, final] then some (.file content)
            else t.node? path := by
  have hWrite :=
    Tree.writeFile_eq_ok hFlat hDirectory hFits hHidden
      content
  let written := t.put [d, hidden] (.file content)
  have hWritten : written.IsFlat :=
    hFlat.put hDirectory content
  have hStill : written.node? [d] = some .directory := by
    rw [Tree.node?_put _ _ _ (by simp), if_neg (by simp)]
    exact hDirectory
  have hRead : written.readFile [d, hidden] = .ok content := by
    rw [Tree.readFile_file hWritten hFits hHidden,
      Tree.node?_put _ _ _ (by simp), if_pos rfl]
  have hErased : (written.erase [d, hidden]).IsFlat :=
    hWritten.erase
  have hParent :
      (written.erase [d, hidden]).node? [d] =
        some .directory := by
    rw [Tree.node?_erase _ _ (by simp), if_neg (by simp)]
    exact hStill
  have hRename :
      written.rename [d, hidden] [d, final] =
        .ok
          ((written.erase [d, hidden]).put [d, final]
            (.file content)) := by
    rw [Tree.rename_eq_ok_iff]
    exact
      ⟨content, written.node? [d, final], hRead,
        Tree.reach_file hStill hFits hFinal,
        hWritten.file d final, rfl⟩
  refine
    ⟨(written.erase [d, hidden]).put [d, final]
      (.file content), ?_, hErased.put hParent content, ?_⟩
  · simp only [place, fill, hWrite]
    rw [hRename]
  · intro path
    rw [Tree.node?_put _ _ _ (by simp),
      Tree.node?_erase _ _ (by simp),
      Tree.node?_put _ _ _ (by simp)]
    by_cases hHere : path = [d, hidden]
    · have hOther : path ≠ [d, final] := by
        rw [hHere]
        simpa using hNe.symm
      rw [if_neg hOther, if_neg hOther, if_pos hHere, hHere,
        hFresh]
    · rw [if_neg hHere, if_neg hHere]

/-
  A file that can be stored is stored, and its key has the
  new content.
-/
theorem store_eq_ok
    {s : Store}
    {name d fileId : String}
    {domain : Option String}
    (hFlat : s.IsFlat)
    (hKey : key? name domain = some (d, fileId))
    (hRoom : s.HasRoom (d, fileId))
    (content : Bytes) :
    ∃ s',
      s.store (.whole content) name domain = (.ok fileId, s') ∧
        s'.IsFlat ∧
        s'.shelf = s.shelf.put (d, fileId) content ∧
        s'.temp = s.temp := by
  rcases hRoom.fits with ⟨hFits, hHidden⟩
  rcases Tree.makeDirectory_eq_ok hFlat hFits with
    ⟨t, hMake, hMade⟩
  have hDirectory : t.node? [d] = some .directory := by
    rw [hMade, if_pos rfl]
  have hFresh :
      t.node?
        [d, hiddenName fileId
          (freshSerial s.tree d fileId s.serial)] = none := by
    rw [hMade, if_neg (by simp)]
    exact freshSerial_isNone s.tree d fileId s.serial
  have hNe :
      fileId ≠
        hiddenName fileId
          (freshSerial s.tree d fileId s.serial) := by
    intro hEq
    have hLength :=
      length_hiddenName fileId
        (freshSerial s.tree d fileId s.serial)
    rw [← hEq] at hLength
    omega
  rcases
    place_eq_ok (hFlat.makeDirectory hMade) hDirectory hFits
      hHidden (fits_of_hiddenName hHidden) hFresh hNe
      content with
    ⟨t', hPlace, hFlat', hNodes⟩
  refine
    ⟨{ s with tree := t', serial := s.serial + 1 },
      store_eq_iff.mpr (.stored hKey hMake hPlace), hFlat', ?_,
      rfl⟩
  funext key
  rcases key with ⟨directory, file⟩
  rw [shelf_eq, Shelf.put, shelf_eq, hNodes, hMade,
    if_neg (by simp : [directory, file] ≠ [d])]
  by_cases hHere : directory = d ∧ file = fileId
  · simp [hHere]
  · simp [hHere]

/- A file without a key is not stored. -/
theorem store_invalid
    (s : Store)
    {name : String}
    {domain : Option String}
    (hKey : key? name domain = none)
    (source : Source) :
    ∃ bad,
      s.store source name domain =
        (.error (.invalidName bad), s) := by
  rcases hStore : s.store source name domain with ⟨stored, s'⟩
  cases store_eq_iff.mp hStore with
  | badDomain _ => exact ⟨_, rfl⟩
  | badName _ _ => exact ⟨_, rfl⟩
  | noDirectory hSome _ => cases hKey.symm.trans hSome
  | notPlaced hSome _ _ => cases hKey.symm.trans hSome
  | stored hSome _ _ => cases hKey.symm.trans hSome

/- Storing a file leaves the temporary copies alone. -/
theorem temp_store
    (s : Store)
    (source : Source)
    (name : String)
    (domain : Option String) :
    (s.store source name domain).2.temp = s.temp := by
  rcases hStore : s.store source name domain with ⟨stored, s'⟩
  cases store_eq_iff.mp hStore with
  | badDomain _ => rfl
  | badName _ _ => rfl
  | noDirectory _ _ => rfl
  | notPlaced _ _ _ => rfl
  | stored _ _ _ => rfl

end Store

end Courier

------------------------------------------------------------
-- Deleting
------------------------------------------------------------

namespace Courier

namespace Store

/-
  Deleting reports whether the key had a file, and takes
  that file away.
-/
theorem delete_key
    {s : Store}
    {fileId d name : String}
    {domain : Option String}
    (hFlat : s.IsFlat)
    (hKey : key? fileId domain = some (d, name))
    (hFits : Tree.Fits d)
    (hName : Tree.Fits name) :
    ∃ s',
      s.delete fileId domain =
          (.ok (s.shelf (d, name)).isSome, s') ∧
        s'.IsFlat ∧
        s'.shelf = s.shelf.erase (d, name) ∧
        s'.temp = s.temp := by
  have hSame := IsFlat.shelf_isSome hFlat d name
  have hUnlink := Tree.unlink_file hFlat hFits hName
  cases hSome : (s.tree.node? [d, name]).isSome with
  | false =>
      rw [hSome] at hUnlink hSame
      rw [hSame]
      refine
        ⟨s, delete_eq_iff.mpr (.missing hKey hUnlink rfl), hFlat,
          ?_, rfl⟩
      funext key
      rw [Shelf.erase]
      split
      · next hEq =>
          rw [hEq]
          simpa using hSame
      · rfl
  | true =>
      rw [hSome] at hUnlink hSame
      rw [hSame]
      refine
        ⟨{ s with tree := s.tree.erase [d, name] },
          delete_eq_iff.mpr (.deleted hKey hUnlink),
          Tree.IsFlat.erase hFlat, ?_, rfl⟩
      funext key
      rcases key with ⟨directory, file⟩
      rw [shelf_eq, Shelf.erase, shelf_eq,
        Tree.node?_erase _ _ (by simp)]
      by_cases hHere : directory = d ∧ file = name
      · simp [hHere]
      · simp [hHere]

end Store

end Courier

------------------------------------------------------------
-- Finding
------------------------------------------------------------

namespace Courier

namespace Store

/-
  Looking for a file hands out a temporary copy of it if the
  key has one, and changes no stored file.
-/
theorem find_key
    {s : Store}
    {fileId d name : String}
    {domain : Option String}
    (hFlat : s.IsFlat)
    (hTemp : s.temp.isPresent = true)
    (hKey : key? fileId domain = some (d, name))
    (hFits : Tree.Fits d)
    (hName : Tree.Fits name) :
    match s.shelf (d, name) with
    | none =>
        ∃ temp,
          s.find fileId domain =
            (.ok none, { s with temp := temp }) ∧
            temp.isPresent = true
    | some content =>
        ∃ (copy : Nat) (temp : TemporaryFiles),
          s.find fileId domain =
            (.ok
              (some
                { fileId := name
                  fileName := name
                  domain := domain
                  copy := copy }),
              { s with temp := temp }) ∧
            temp.read copy = .ok content ∧
            temp.isPresent = true := by
  have hRead := Tree.readFile_file hFlat hFits hName
  rw [shelf_eq]
  rcases TemporaryFiles.exists_create hTemp with
    ⟨copy, temp, hCreate, hPresent⟩
  rcases hFlat.file_cases d name with hNode | hNode
  · rw [hNode] at hRead
    rw [hNode]
    exact
      ⟨_, find_eq_iff.mpr (.missing hKey hCreate hRead rfl),
        hPresent⟩
  · rcases hNode with ⟨content, hNode⟩
    rw [hNode] at hRead
    rw [hNode]
    exact
      ⟨_, _, find_eq_iff.mpr (.found hKey hCreate hRead),
        TemporaryFiles.read_put_create hCreate content,
        hPresent⟩

/-
  Whatever the tree looks like, a copy that is handed out is
  that of a file in it, under the safe form of its id.
-/
theorem exists_of_find
    {s s' : Store}
    {fileId : String}
    {domain : Option String}
    {d : Download}
    (hFind : s.find fileId domain = (.ok (some d), s')) :
    component? fileId = some d.fileId ∧
      ∃ path content,
        s.tree.node? path = some (.file content) ∧
          s'.temp.read d.copy = .ok content := by
  cases find_eq_iff.mp hFind with
  | found hKey hCreate hRead =>
      exact
        ⟨(key?_eq_some hKey).1, _, _,
          Tree.node?_of_readFile hRead,
          TemporaryFiles.read_put_create hCreate _⟩

/- Looking for a file never changes a stored one. -/
theorem tree_find
    (s : Store)
    (fileId : String)
    (domain : Option String) :
    (s.find fileId domain).2.tree = s.tree := by
  rcases hFind : s.find fileId domain with ⟨found, s'⟩
  cases find_eq_iff.mp hFind with
  | noKey _ => rfl
  | noCopy _ _ => rfl
  | missing _ _ _ _ => rfl
  | failed _ _ _ _ => rfl
  | found _ _ _ => rfl

/- Looking for a file leaves room for temporary copies. -/
theorem present_find
    {s : Store}
    (fileId : String)
    (domain : Option String)
    (hTemp : s.temp.isPresent = true) :
    (s.find fileId domain).2.temp.isPresent = true := by
  rcases TemporaryFiles.exists_create hTemp with
    ⟨copy, temp, hNew, hPresent⟩
  rcases hFind : s.find fileId domain with ⟨found, s'⟩
  cases find_eq_iff.mp hFind with
  | noKey _ => exact hTemp
  | noCopy _ _ => exact hTemp
  | missing _ hCreate _ _ =>
      cases hNew.symm.trans hCreate
      exact hPresent
  | failed _ hCreate _ _ =>
      cases hNew.symm.trans hCreate
      exact hPresent
  | found _ hCreate _ =>
      cases hNew.symm.trans hCreate
      exact hPresent

end Store

end Courier
