import Courier.Envelope.Command
import Courier.Proofs.Text.Blank

/-
  Messages inside a field: segments with bars between them,
  each of them free text or a pair of a key and a value.

  The first pair with a key gives its value, whatever blanks
  stand around keys and values, and whatever free text and
  whatever other pairs stand around the pair.

  Key definitions include:
    * `Message.Pair`
    * `Message.Segment`
    * `Message.spell`
    * `Message.Pair.HasKey`
    * `Message.IsFirst`

  Key theorems include:
    * `Message.sides_spell`
    * `Message.find?_hasKey_eq_some_iff`
    * `Message.messageValue_spell`
    * `Message.messageValue_eq_first`
-/

------------------------------------------------------------
-- Segments
------------------------------------------------------------

namespace Courier

namespace Message

/-
  A key and a value as they are written, with the blanks
  around them.  Only a value may hold an equals sign.
-/
structure Pair where
  key : List Char
  value : List Char
  bar_not_mem_key : '|' ∉ key
  equals_not_mem_key : '=' ∉ key
  bar_not_mem_value : '|' ∉ value

/- What stands between two bars. -/
inductive Segment where
| text :
    (chars : List Char) → '|' ∉ chars → '=' ∉ chars → Segment
| pair : Pair → Segment

namespace Segment

/- The characters of a segment. -/
def chars : Segment → List Char
  | text chars _ _ => chars
  | pair p => p.key ++ '=' :: p.value

/- The key and the value of a pair, as they are written. -/
def sides? : Segment → Option (List Char × List Char)
  | text .. => none
  | pair p => some (p.key, p.value)

/- There is no bar in a segment. -/
theorem bar_not_mem_chars
    (s : Segment) :
    '|' ∉ s.chars := by
  cases s with
  | text chars hBar hEquals => exact hBar
  | pair p =>
      simp [chars, p.bar_not_mem_key, p.bar_not_mem_value]

/- The first equals sign parts a key from its value. -/
theorem cut?_chars
    (s : Segment) :
    Split.cut? '=' s.chars = s.sides? := by
  cases s with
  | text chars hBar hEquals =>
      exact Split.cut?_of_not_mem hEquals
  | pair p => exact Split.cut?_append p.equals_not_mem_key _

end Segment

/- The message of some segments. -/
def spell
    (segments : List Segment) : String :=
  String.ofList
    (List.intercalate ['|'] (segments.map Segment.chars))

/- The pair has the key, with any blanks around it. -/
def Pair.HasKey
    (p : Pair)
    (key : String) : Prop :=
  Blank.IsCore key.toList p.key

/- The pair is the first one that has the key. -/
def IsFirst
    (segments : List Segment)
    (key : String)
    (p : Pair) : Prop :=
  ∃ before after,
    segments = before ++ .pair p :: after ∧
      p.HasKey key ∧
      ∀ q, .pair q ∈ before → ¬ q.HasKey key

end Message

end Courier

------------------------------------------------------------
-- Messages Cut Apart
------------------------------------------------------------

namespace Courier

namespace Message

/- A message is cut into its segments. -/
theorem pieces_spell
    {segments : List Segment}
    (hSome : segments ≠ []) :
    Split.pieces '|' (spell segments).toList =
      segments.map Segment.chars := by
  rw [spell, String.toList_ofList]
  induction segments with
  | nil => exact absurd rfl hSome
  | cons s rest ih =>
      cases rest with
      | nil =>
          rw [List.map_singleton, List.intercalate_singleton]
          exact Split.pieces_of_not_mem s.bar_not_mem_chars
      | cons t rest =>
          have hRest := ih (List.cons_ne_nil t rest)
          rw [List.map_cons] at hRest
          rw [List.map_cons, List.map_cons,
            List.intercalate_cons_cons, List.append_assoc,
            List.singleton_append,
            Split.pieces_append s.bar_not_mem_chars, hRest]

/- The pairs of a message are read as they are written. -/
theorem sides_spell
    (segments : List Segment) :
    (Split.pieces '|' (spell segments).toList).filterMap
        (Split.cut? '=') =
      segments.filterMap Segment.sides? := by
  cases segments with
  | nil => rfl
  | cons s rest =>
      rw [pieces_spell (List.cons_ne_nil s rest),
        List.filterMap_map]
      exact
        congrArg (fun f => (s :: rest).filterMap f)
          (funext Segment.cut?_chars)

end Message

end Courier

------------------------------------------------------------
-- Values
------------------------------------------------------------

namespace Courier

namespace Message

/- The segment is a pair with the key. -/
def Segment.hasKey
    (key : String)
    (s : Segment) : Bool :=
  s.sides?.any fun sides =>
    Blank.trim sides.1 == key.toList

/- When a segment has a key. -/
theorem Segment.hasKey_iff
    {s : Segment}
    {key : String} :
    s.hasKey key = true ↔ ∃ p, s = .pair p ∧ p.HasKey key := by
  cases s with
  | text chars hBar hEquals => simp [hasKey, sides?]
  | pair p =>
      simp [hasKey, sides?, Pair.HasKey, ← Blank.trim_eq_iff]

/- The first segment with a key is the first pair with it. -/
theorem find?_hasKey_eq_some_iff
    {segments : List Segment}
    {key : String}
    {s : Segment} :
    segments.find? (Segment.hasKey key) = some s ↔
      ∃ p, s = .pair p ∧ IsFirst segments key p := by
  rw [List.find?_eq_some_iff_append, Segment.hasKey_iff]
  constructor
  · rintro ⟨⟨p, rfl, hKey⟩, before, after, hAll, hBefore⟩
    refine ⟨p, rfl, before, after, hAll, hKey, ?_⟩
    intro q hMem hOther
    have hNot := hBefore _ hMem
    rw [Segment.hasKey_iff.mpr ⟨q, rfl, hOther⟩] at hNot
    cases hNot
  · rintro ⟨p, rfl, before, after, hAll, hKey, hBefore⟩
    refine ⟨⟨p, rfl, hKey⟩, before, after, hAll, ?_⟩
    intro t hMem
    rw [Bool.not_eq_true', Bool.eq_false_iff, ne_eq,
      Segment.hasKey_iff]
    rintro ⟨q, rfl, hOther⟩
    exact hBefore q hMem hOther

/- The value of a key is that of the first segment with it. -/
theorem messageValue_spell
    (segments : List Segment)
    (key : String) :
    Line.messageValue (spell segments) key =
      ((segments.find? (Segment.hasKey key)).bind
        Segment.sides?).map fun sides =>
          String.ofList (Blank.trim sides.2) := by
  unfold Line.messageValue
  simp only [sides_spell]
  rw [List.find?_filterMap]
  rfl

/-
  A key has the value of the first pair with the key, without
  the blanks around it, and no value exactly if no pair has
  the key.
-/
theorem messageValue_eq_first
    (segments : List Segment)
    (key : String) :
    (∀ value,
      Line.messageValue (spell segments) key = some value ↔
        ∃ p,
          IsFirst segments key p ∧
            Blank.IsCore value.toList p.value) ∧
      (Line.messageValue (spell segments) key = none ↔
        ∀ p, .pair p ∈ segments → ¬ p.HasKey key) := by
  rw [messageValue_spell]
  constructor
  · intro value
    simp only [Option.map_eq_some_iff,
      Option.bind_eq_some_iff, find?_hasKey_eq_some_iff]
    constructor
    · rintro ⟨-, ⟨-, ⟨p, rfl, hFirst⟩, ⟨⟩⟩, rfl⟩
      refine ⟨p, hFirst, ?_⟩
      rw [String.toList_ofList]
      exact Blank.isCore_trim p.value
    · rintro ⟨p, hFirst, hValue⟩
      refine ⟨_, ⟨_, ⟨p, rfl, hFirst⟩, rfl⟩, ?_⟩
      rw [Blank.trim_of_isCore hValue, String.ofList_toList]
  · rw [Option.map_eq_none_iff]
    cases hFound : segments.find? (Segment.hasKey key) with
    | none =>
        simp only [Option.bind_none, true_iff]
        rw [List.find?_eq_none] at hFound
        intro p hMem hKey
        exact
          hFound _ hMem
            (Segment.hasKey_iff.mpr ⟨p, rfl, hKey⟩)
    | some s =>
        rcases find?_hasKey_eq_some_iff.mp hFound with
          ⟨p, rfl, before, after, rfl, hKey, -⟩
        simp only [Option.bind_some, Segment.sides?,
          reduceCtorEq, false_iff, not_forall, not_not]
        exact ⟨p, by simp, hKey⟩

/- The second pair with a key, and a value with a blank. -/
example :
    Line.messageValue "LOG| a =\t1 =2 |a=3" "a" =
      some "1 =2" := by
  decide

end Message

end Courier
