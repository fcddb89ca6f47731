import Courier.Proofs.Storage.Confinement

/-
  How much room a store needs for its names.

  The mark in a hidden name has thirty-six digits until the
  numbers become longer than that, and they grow by a few
  with each request.  A file whose name leaves room for the
  mark can be stored.

  Key theorems include:
    * `Store.hasRoom_of_length`
    * `Store.length_afterRequest`
    * `Store.serial_afterRequest`
-/

------------------------------------------------------------
-- Growth of a Store
------------------------------------------------------------

namespace Courier

namespace Access

/- An access puts at most one more path into a tree. -/
theorem length_after
    (t : Tree)
    (a : Access) :
    (a.after t).length ≤ t.length + 1 := by
  have hErase (t : Tree) (path : Path) :
      (t.erase path).length ≤ t.length :=
    List.length_filter_le _ t
  have hPut (t : Tree) (path : Path) (node : Node) :
      (t.put path node).length ≤ t.length + 1 :=
    Nat.succ_le_succ (hErase t path)
  cases a with
  | makeDirectory path =>
      simp only [after, kept]
      split
      · next hMake =>
          rcases Tree.makeDirectory_eq_ok_iff.mp hMake with
            ⟨-, rfl⟩ | ⟨-, rfl⟩
          · exact hPut t path .directory
          · exact Nat.le_succ _
      · exact Nat.le_succ t.length
  | read path => exact Nat.le_succ t.length
  | write path content =>
      simp only [after, kept]
      split
      · next hWrite =>
          rcases Tree.writeFile_eq_ok_iff.mp hWrite with
            ⟨-, -, -, rfl⟩
          exact hPut t path (.file content)
      · exact Nat.le_succ t.length
  | rename old new =>
      simp only [after, kept]
      split
      · next hRename =>
          rcases Tree.rename_eq_ok_iff.mp hRename with
            ⟨content, -, -, -, -, rfl⟩
          have hOld := hErase t old
          have hNew := hPut (t.erase old) new (.file content)
          omega
      · exact Nat.le_succ t.length
  | discard path =>
      simp only [after, Tree.discard]
      split
      · next hUnlink =>
          rcases Tree.unlink_eq_ok_iff.mp hUnlink with
            ⟨-, -, rfl⟩
          exact Nat.le_succ_of_le (hErase t path)
      · exact Nat.le_succ t.length

/- So each of several accesses does. -/
theorem length_foldl_after
    (t : Tree)
    (accesses : List Access) :
    (accesses.foldl after t).length ≤
      t.length + accesses.length := by
  induction accesses generalizing t with
  | nil => exact Nat.le_refl t.length
  | cons a accesses ih =>
      have hRest := ih (a.after t)
      have hFirst := length_after t a
      rw [List.foldl_cons, List.length_cons]
      omega

end Access

namespace Store

/- A request comes down to four accesses at most. -/
theorem length_accesses
    (s : Store)
    (q : Request) :
    (s.accesses q).length ≤ 4 := by
  have hPlace
      (t : Tree)
      (hidden final : Path)
      (source : Source) :
      (placeAccesses t hidden final source).length ≤ 3 := by
    have hFill :
        (fillAccesses hidden source).length ≤ 1 := by
      cases source with
      | closed e => exact Nat.zero_le 1
      | whole content => exact Nat.le_refl 1
      | broken written e => exact Nat.le_refl 1
    rw [placeAccesses, List.length_append]
    show _ ≤ 1 + 2
    apply Nat.add_le_add hFill
    split
    · simp
    · split
      · simp
      · simp
  cases q with
  | store source name domain =>
      simp only [accesses]
      split
      · next d fileId _ _ =>
          rw [List.length_cons]
          apply Nat.succ_le_succ
          split
          · simp
          · exact hPlace _ _ _ source
      · simp
  | find fileId domain =>
      simp only [accesses]
      split
      · split
        · simp
        · simp
      · simp
  | delete fileId domain =>
      simp only [accesses]
      split
      · simp
      · simp

/- So the tree of a store grows slowly. -/
theorem length_afterRequest
    (s : Store)
    (q : Request) :
    (s.afterRequest q).tree.length ≤ s.tree.length + 4 := by
  rw [tree_afterRequest]
  exact
    Nat.le_trans (Access.length_foldl_after s.tree _)
      (Nat.add_le_add_left (s.length_accesses q) _)

/- And so does its serial number. -/
theorem serial_afterRequest
    (s : Store)
    (q : Request) :
    (s.afterRequest q).serial ≤ s.serial + 1 := by
  have hSame : s.serial ≤ s.serial + 1 := Nat.le_succ s.serial
  cases q with
  | store source name domain =>
      rw [afterRequest]
      rcases hStore : s.store source name domain with
        ⟨stored, s'⟩
      cases store_eq_iff.mp hStore with
      | badDomain _ => exact hSame
      | badName _ _ => exact hSame
      | noDirectory _ _ => exact hSame
      | notPlaced _ _ _ => exact Nat.le_refl _
      | stored _ _ _ => exact Nat.le_refl _
  | find fileId domain =>
      rw [afterRequest]
      rcases hFind : s.find fileId domain with ⟨found, s'⟩
      cases find_eq_iff.mp hFind with
      | noKey _ => exact hSame
      | noCopy _ _ => exact hSame
      | missing _ _ _ _ => exact hSame
      | failed _ _ _ _ => exact hSame
      | found _ _ _ => exact hSame
  | delete fileId domain =>
      rw [afterRequest]
      rcases hDelete : s.delete fileId domain with ⟨deleted, s'⟩
      cases delete_eq_iff.mp hDelete with
      | noKey _ => exact hSame
      | missing _ _ _ => exact hSame
      | failed _ _ _ => exact hSame
      | deleted _ _ => exact hSame

end Store

end Courier

------------------------------------------------------------
-- Room for Names
------------------------------------------------------------

namespace Courier

/- A safe character takes one octet. -/
theorem FileName.utf8Size_of_isSafe
    {c : Char}
    (hSafe : isSafe c = true) :
    c.utf8Size = 1 := by
  have hAlphanum :
      c.isAlphanum =
        (decide ('A'.val ≤ c.val ∧ c.val ≤ 'Z'.val) ||
            (decide ('a'.val ≤ c.val) &&
              decide (c.val ≤ 'z'.val)) ||
          (decide ('0'.val ≤ c.val) &&
            decide (c.val ≤ '9'.val))) := rfl
  rw [Char.utf8Size_eq_one_iff]
  simp only [isSafe, hAlphanum, Bool.or_eq_true,
    Bool.and_eq_true, decide_eq_true_eq, beq_iff_eq] at hSafe
  rcases hSafe with
    ((((hUpper | hLower) | hDigit) | rfl) | rfl) | rfl
  · exact UInt32.le_trans hUpper.2 (by decide)
  · exact UInt32.le_trans hLower.2 (by decide)
  · exact UInt32.le_trans hDigit.2 (by decide)
  · decide
  · decide
  · decide

namespace Store

/- The search for a free number ends soon. -/
theorem freshSerial_le
    (t : Tree)
    (d name : String)
    (serial : Nat) :
    freshSerial t d name serial ≤ serial + t.length := by
  simp only [freshSerial]
  cases hFound :
      ((List.range (t.length + 1)).map (serial + ·)).find?
        fun n => (t.node? [d, hiddenName name n]).isNone with
  | none => exact Nat.le_add_right serial t.length
  | some n =>
      have hMem := List.mem_of_find?_eq_some hFound
      rcases List.mem_map.mp hMem with ⟨i, hIndex, rfl⟩
      have hLess := List.mem_range.mp hIndex
      rw [Option.getD_some]
      omega

/- A component takes one octet for each character. -/
theorem IsComponent.utf8ByteSize_eq
    {name : String}
    (hComponent : IsComponent name) :
    name.utf8ByteSize = name.length := by
  have hSize (chars : List Char)
      (hSafe : ∀ c ∈ chars, FileName.isSafe c = true) :
      (String.ofList chars).utf8ByteSize = chars.length := by
    induction chars with
    | nil => rfl
    | cons c chars ih =>
        rw [List.forall_mem_cons] at hSafe
        have hOne := FileName.utf8Size_of_isSafe hSafe.1
        rw [String.ofList_cons, String.utf8ByteSize_append,
          String.utf8ByteSize_singleton, ih hSafe.2, hOne,
          List.length_cons, Nat.add_comm]
  have hName := hSize name.toList hComponent.safe
  rw [String.ofList_toList, String.length_toList] at hName
  exact hName

/-
  A file can be stored where its directory's name fits and
  its own leaves forty-two octets for the mark of a hidden
  name, as long as marks have thirty-six digits.
-/
theorem hasRoom_of_length
    {s : Store}
    {key : FileKey}
    (hName : IsComponent key.2)
    (hFits : Tree.Fits key.1)
    (hShort : key.2.length + 42 ≤ Tree.maxName)
    (hSerial : s.serial + s.tree.length < Nat.pow 10 36) :
    s.HasRoom key := by
  have hFresh := freshSerial_le s.tree key.1 key.2 s.serial
  let n := freshSerial s.tree key.1 key.2 s.serial
  have hDigits : (Nat.toDigits 10 n).length ≤ 36 :=
    (Nat.length_toDigits_le_iff (by decide) (by decide)).mpr
      (Nat.lt_of_le_of_lt hFresh hSerial)
  have hHidden : Tree.Fits (hiddenName key.2 n) := by
    rw [Tree.Fits, (hName.hiddenName n).utf8ByteSize_eq]
    simp only [hiddenName, String.length_ofList,
      List.length_append, List.length_cons, List.length_nil,
      List.length_replicate, String.length_toList]
    omega
  simp only [HasRoom, hiddenPath, List.forall_mem_cons]
  refine ⟨hFits, hHidden, ?_⟩
  intro name hMem
  cases hMem

end Store

end Courier
