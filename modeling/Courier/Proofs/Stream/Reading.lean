import Courier.Proofs.Stream.Arrival
import Courier.Proofs.Stream.Frame

/-
  Reading from a connection on which everything is there.

  A frame at the front is read as its line, whatever comes
  behind it, and what comes behind it is left.

  Key definitions include:
    * `Stream.Reader.Holds`

  Key theorems include:
    * `Frame.readMessage_of_encode`
    * `Frame.readMessage_of_nil`
-/

------------------------------------------------------------
-- Bytes That Are There
------------------------------------------------------------

namespace Courier

namespace Stream

namespace Reader

/- Exactly the bytes are there, and nothing else comes. -/
def Holds
    (bytes : Bytes)
    (r : Reader) : Prop :=
  r = ofBytes bytes ∨ (r = [] ∧ bytes = [])

variable {r : Reader}
variable {bytes : Bytes}

/- The reader of some bytes holds them. -/
theorem holds_ofBytes
    (bytes : Bytes) :
    (ofBytes bytes).Holds bytes :=
  Or.inl rfl

/- All bytes that are there arrive. -/
theorem Holds.arrival
    (hHolds : r.Holds bytes)
    (limit : Nat) :
    r.arrival limit = ⟨bytes, .closed⟩ := by
  rcases hHolds with rfl | ⟨rfl, rfl⟩
  · exact arrival_ofBytes limit bytes
  · rfl

/- As many bytes as are there can be read exactly. -/
theorem Holds.readExact
    {count : Nat}
    (limit : Nat)
    (hHolds : r.Holds bytes)
    (hEnough : count ≤ bytes.length) :
    ∃ r',
      r.readExact count limit =
          ⟨.done (bytes.take count), 0, r'⟩ ∧
        r'.Holds (bytes.drop count) := by
  rcases hHolds with rfl | ⟨rfl, rfl⟩
  · unfold Reader.readExact ofBytes readExactFrom
    by_cases hZero : count = 0
    · subst hZero
      exact ⟨_, rfl, Or.inl rfl⟩
    rw [if_neg hZero]
    by_cases hAll : bytes.length ≤ count
    · have hSame : count = bytes.length := by omega
      subst hSame
      simp only [Nat.le_refl, if_true, Nat.sub_self,
        readExactFrom, List.append_nil, List.reverse_reverse,
        List.take_length, List.drop_length]
      exact ⟨[], rfl, Or.inr ⟨rfl, rfl⟩⟩
    · simp only [if_neg hAll, List.append_nil,
        List.reverse_reverse]
      exact ⟨_, rfl, Or.inl rfl⟩
  · have hZero : count = 0 := by
      rw [List.length_nil] at hEnough
      omega
    subst hZero
    exact ⟨[], rfl, Or.inr ⟨rfl, rfl⟩⟩

/- More bytes than are there cannot be read. -/
theorem Holds.readExact_of_nil
    {count : Nat}
    (limit : Nat)
    (hHolds : r.Holds [])
    (hSome : 0 < count) :
    r.readExact count limit = ⟨.ended, 0, []⟩ := by
  have hNot : count ≠ 0 := Nat.ne_of_gt hSome
  rcases hHolds with rfl | ⟨rfl, -⟩
  · simp [Reader.readExact, ofBytes, readExactFrom, hNot]
  · simp [Reader.readExact, readExactFrom, hNot]

end Reader

end Stream

end Courier

------------------------------------------------------------
-- Frames
------------------------------------------------------------

namespace Courier

namespace Frame

variable {r : Stream.Reader}

/- A part of a message that is there is read. -/
theorem next_of_holds
    {α : Type}
    {count : Nat}
    {front back : Bytes}
    (limit : Nat)
    (go : Bytes → Nat → Stream.Reader → Received α)
    (hHolds : r.Holds (front ++ back))
    (hLength : front.length = count) :
    ∃ r',
      Received.next limit count 0 r go = go front 0 r' ∧
        r'.Holds back := by
  have hEnough : count ≤ (front ++ back).length := by
    rw [List.length_append]
    omega
  rcases hHolds.readExact (limit - 0) hEnough with
    ⟨r', hRead, hRest⟩
  subst hLength
  rw [List.take_left] at hRead
  rw [List.drop_left] at hRest
  exact ⟨r', by simp only [Received.next, hRead], hRest⟩

/- A frame at the front is read as its line. -/
theorem read_of_encode
    {max : Nat}
    {line : String}
    {frame rest : Bytes}
    (limit : Nat)
    (hFrame : encode line = .ok frame)
    (hHolds : r.Holds (frame ++ rest))
    (hFits : (Utf8.encode line.toList).length ≤ max) :
    ∃ r',
      read max limit r = ⟨some (.ok line), 0, r'⟩ ∧
        r'.Holds rest := by
  rcases encode_eq_ok_iff.mp hFrame with ⟨hShort, hOctets⟩
  have hIs : IsFrame max line frame :=
    ⟨hOctets, hFits, hShort⟩
  rcases hIs.exists_parts with
    ⟨word, body, rfl, hWord, hMax, hBody, hLine⟩
  simp only [List.append_assoc] at hHolds
  rcases next_of_holds limit _ hHolds hWord with
    ⟨r₁, hFirst, hHolds₁⟩
  rcases next_of_holds limit _ hHolds₁ hBody with
    ⟨r₂, hSecond, hHolds₂⟩
  have hOne : [terminator].length = 1 := rfl
  rcases next_of_holds limit _ hHolds₂ hOne with
    ⟨r₃, hThird, hHolds₃⟩
  refine ⟨r₃, ?_, hHolds₃⟩
  rw [read_eq, hFirst, if_neg (Nat.not_lt.mpr hMax), readBody,
    hSecond, hThird, hLine]

/- A frame at the front is read as the message of its line. -/
theorem readMessage_of_encode
    {α : Type}
    {max : Nat}
    {line : String}
    {frame rest : Bytes}
    (ofLine : String → Except ProtocolError α)
    (limit : Nat)
    (hFrame : encode line = .ok frame)
    (hHolds : r.Holds (frame ++ rest))
    (hFits : (Utf8.encode line.toList).length ≤ max) :
    ∃ r',
      readMessage ofLine max limit r =
          ⟨some (ofLine line), 0, r'⟩ ∧
        r'.Holds rest := by
  rcases read_of_encode limit hFrame hHolds hFits with
    ⟨r', hRead, hRest⟩
  exact ⟨r', by simp only [readMessage, hRead], hRest⟩

/- Where nothing is there, no message is read. -/
theorem readMessage_of_nil
    {α : Type}
    (ofLine : String → Except ProtocolError α)
    (max limit : Nat)
    (hHolds : r.Holds []) :
    (readMessage ofLine max limit r).outcome =
      some (.error (.io .unexpectedEnd)) := by
  have hSome : 0 < 4 := by decide
  have hEnd := hHolds.readExact_of_nil (limit - 0) hSome
  simp only [readMessage, read, Received.next, hEnd]

end Frame

end Courier
