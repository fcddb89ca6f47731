import Courier.Cipher.Gcm

/-
  What is sealed is opened again.

  The last step of the block cipher adds a round key, so that
  a block has as many octets as such a key, whatever it was
  made of.  The key stream is therefore as long as what it is
  added to, and adding it twice changes nothing.

  Key definitions include:
    * `Aes.IsSchedule`

  Key theorems include:
    * `Aes.isSchedule_expand`
    * `Aes.length_encryptBlock`
    * `Gcm.stream_stream`
    * `Gcm.decrypt?_encrypt`
-/

------------------------------------------------------------
-- Sums of Byte Strings
------------------------------------------------------------

namespace Courier

namespace Aes

/- A sum is as long as the shorter byte string. -/
theorem length_add
    (a b : Bytes) :
    (add a b).length = min a.length b.length :=
  List.length_zipWith

/- What is added twice is gone. -/
theorem add_add_right
    {a b : Bytes}
    (hLength : a.length ≤ b.length) :
    add (add a b) b = a := by
  induction a generalizing b with
  | nil => rfl
  | cons x a ih =>
      cases b with
      | nil => cases hLength
      | cons y b =>
          have hRest : add (add a b) b = a :=
            ih (Nat.le_of_succ_le_succ hLength)
          have hFirst : x ^^^ y ^^^ y = x := by
            rw [UInt8.xor_assoc, UInt8.xor_self, UInt8.xor_zero]
          calc
            add (add (x :: a) (y :: b)) (y :: b) =
                (x ^^^ y ^^^ y) :: add (add a b) b := rfl
            _ = x :: a := by rw [hRest, hFirst]

end Aes

end Courier

------------------------------------------------------------
-- Round Keys
------------------------------------------------------------

namespace Courier

namespace Aes

/- Round keys of sixteen octets, enough to make a block. -/
structure IsSchedule
    (keys : List Bytes) : Prop where
  several : 1 < keys.length
  sixteen : ∀ key ∈ keys, key.length = 16

/- Mixing a word keeps its octets together. -/
theorem length_mixWord
    {word : Bytes}
    (i : Nat)
    (constant : UInt8)
    (hWord : word.length = 4) :
    (mixWord i word constant).length = 4 := by
  have hTurn : (turnWord word).length = word.length := by
    cases word <;> simp [turnWord]
  unfold mixWord
  split
  · rw [length_add, List.length_map, hTurn, hWord]
    rfl
  · split
    · rw [List.length_map, hWord]
    · exact hWord

/- Words are made of words. -/
theorem expandWords_spec
    {words : List Bytes}
    (constant : UInt8)
    (i count : Nat)
    (hWords : ∀ word ∈ words, word.length = 4)
    (hEight : 8 ≤ words.length) :
    (expandWords words constant i count).length =
        words.length + count ∧
      ∀ word ∈ expandWords words constant i count,
        word.length = 4 := by
  induction count generalizing words constant i with
  | zero => exact ⟨rfl, hWords⟩
  | succ count ih =>
      have hBack : (words.getD 7 []).length = 4 := by
        rw [List.getD_eq_getElem?_getD,
          List.getElem?_eq_getElem (by omega)]
        exact hWords _ (List.getElem_mem _)
      have hHead : (words.headD []).length = 4 := by
        cases words with
        | nil => cases hEight
        | cons word words => exact hWords _ List.mem_cons_self
      unfold expandWords
      have hNext :
          ∀ word ∈
              add (words.getD 7 [])
                (mixWord i (words.headD []) constant) :: words,
            word.length = 4 := by
        intro word hMem
        rcases List.mem_cons.1 hMem with rfl | hOld
        · rw [length_add, hBack, length_mixWord i constant hHead]
          rfl
        · exact hWords word hOld
      obtain ⟨hLength, hAll⟩ :=
        ih (if i % 8 = 0 then double constant else constant)
          (i + 1) hNext (Nat.le_succ_of_le hEight)
      refine ⟨?_, hAll⟩
      rw [hLength, List.length_cons]
      omega

/- Four words make a round key. -/
theorem roundKeys_spec
    {words : List Bytes}
    {count : Nat}
    (hWords : ∀ word ∈ words, word.length = 4)
    (hLength : words.length = 4 * count) :
    (roundKeys words count).length = count ∧
      ∀ key ∈ roundKeys words count, key.length = 16 := by
  induction count generalizing words with
  | zero => exact ⟨rfl, fun _ hMem => absurd hMem List.not_mem_nil⟩
  | succ count ih =>
      have hOthers : ∀ word ∈ words.drop 4, word.length = 4 :=
        fun word hMem =>
          hWords word (List.mem_of_mem_drop hMem)
      have hFewer : (words.drop 4).length = 4 * count := by
        rw [List.length_drop]
        omega
      obtain ⟨hRest, hAll⟩ := ih hOthers hFewer
      have hFirst : (words.take 4).flatten.length = 16 := by
        match words, hLength with
        | a :: b :: c :: d :: rest, _ =>
            have hA := hWords a (by simp)
            have hB := hWords b (by simp)
            have hC := hWords c (by simp)
            have hD := hWords d (by simp)
            simp [hA, hB, hC, hD]
      refine ⟨congrArg (· + 1) hRest, ?_⟩
      intro key hMem
      rcases List.mem_cons.1 hMem with rfl | hOther
      · exact hFirst
      · exact hAll key hOther

/- A key of thirty-two octets has all of its round keys. -/
theorem isSchedule_expand
    {key : Bytes}
    (hKey : key.length = 32) :
    IsSchedule (expand key) := by
  have hWords : ∀ word ∈ keyWords key, word.length = 4 := by
    intro word hMem
    simp only [keyWords, List.mem_reverse, List.mem_map,
      List.mem_range] at hMem
    obtain ⟨i, hLt, rfl⟩ := hMem
    rw [List.length_take, List.length_drop, hKey]
    omega
  have hEight : (keyWords key).length = 8 := by
    simp [keyWords]
  obtain ⟨hLength, hAll⟩ :=
    expandWords_spec 1 8 52 hWords (Nat.le_of_eq hEight.symm)
  have hForward :
      ∀ word ∈ (expandWords (keyWords key) 1 8 52).reverse,
        word.length = 4 :=
    fun word hMem => hAll word (List.mem_reverse.1 hMem)
  have hSixty :
      (expandWords (keyWords key) 1 8 52).reverse.length =
        4 * 15 := by
    rw [List.length_reverse, hLength, hEight]
  obtain ⟨hCount, hSixteen⟩ := roundKeys_spec hForward hSixty
  refine ⟨?_, hSixteen⟩
  rw [expand, hCount]
  decide

end Aes

end Courier

------------------------------------------------------------
-- Blocks
------------------------------------------------------------

namespace Courier

namespace Aes

/- Each round ends with the sum of its key. -/
theorem length_rounds
    {keys : List Bytes}
    (block : Bytes)
    (hSome : keys ≠ [])
    (hKeys : ∀ key ∈ keys, key.length = 16) :
    (rounds block keys).length = 16 := by
  fun_induction rounds block keys with
  | case1 block => exact absurd rfl hSome
  | case2 block key =>
      have hKey := hKeys key List.mem_cons_self
      rw [length_add, hKey, shiftRows, List.length_map,
        List.length_range]
      rfl
  | case3 block key keys hMore ih =>
      apply ih
      · intro hNone
        exact hMore hNone
      · intro other hMem
        exact hKeys other (List.mem_cons_of_mem _ hMem)

/- A block has sixteen octets. -/
theorem length_encryptBlock
    {keys : List Bytes}
    (hKeys : IsSchedule keys)
    (block : Bytes) :
    (encryptBlock keys block).length = 16 := by
  obtain ⟨hSeveral, hSixteen⟩ := hKeys
  match keys with
  | [] => cases hSeveral
  | key :: rest =>
      apply length_rounds
      · rintro rfl
        exact absurd hSeveral (Nat.lt_irrefl 1)
      · intro other hMem
        exact hSixteen other (List.mem_cons_of_mem _ hMem)

end Aes

end Courier

------------------------------------------------------------
-- Counter Mode
------------------------------------------------------------

namespace Courier

namespace Gcm

variable {keys : List Bytes}

/- A byte string that is not over has a shorter rest. -/
theorem length_drop_lt
    {bytes : Bytes}
    (hMore : bytes ≠ []) :
    (bytes.drop 16).length < bytes.length := by
  have hPos := List.length_pos_iff.2 hMore
  rw [List.length_drop]
  omega

/- What is done stays in front. -/
theorem stream_done
    (nonce : Bytes)
    (done : List Bytes)
    (n : Nat)
    (bytes : Bytes) :
    stream keys nonce done n bytes =
      done.reverse.flatten ++ stream keys nonce [] n bytes := by
  rw [stream, stream.eq_def keys nonce [] n bytes]
  by_cases hEmpty : bytes = []
  · subst hEmpty
    simp
  · have hShorter := length_drop_lt hEmpty
    have hMore : ¬bytes.isEmpty = true := by
      simpa using hEmpty
    rw [if_neg hMore, if_neg hMore]
    simp only
    rw [stream_done nonce (_ :: done),
      stream_done nonce [_] (n + 1)]
    simp
  termination_by bytes.length

/- The bytes are taken one block after the other. -/
theorem stream_eq
    (nonce : Bytes)
    (n : Nat)
    (bytes : Bytes) :
    stream keys nonce [] n bytes =
      if bytes = [] then []
      else
        Aes.add (bytes.take 16)
            (Aes.encryptBlock keys (counter nonce n)) ++
          stream keys nonce [] (n + 1) (bytes.drop 16) := by
  rw [stream]
  by_cases hEmpty : bytes = []
  · subst hEmpty
    rfl
  · rw [if_neg (by simpa using hEmpty), if_neg hEmpty,
      stream_done]
    simp

/- The key stream is as long as what it is added to. -/
theorem length_stream
    (hKeys : Aes.IsSchedule keys)
    (nonce : Bytes)
    (n : Nat)
    (bytes : Bytes) :
    (stream keys nonce [] n bytes).length = bytes.length := by
  rw [stream_eq]
  split
  · next hEmpty => rw [hEmpty]
  · next hMore =>
      have hShorter := length_drop_lt hMore
      rw [List.length_append,
        length_stream hKeys nonce (n + 1) (bytes.drop 16),
        Aes.length_add, Aes.length_encryptBlock hKeys,
        List.length_take, List.length_drop]
      omega
  termination_by bytes.length

/- A block is told from what follows it. -/
theorem stream_append
    {block rest : Bytes}
    (nonce : Bytes)
    (n : Nat)
    (hSome : block ≠ [])
    (hBlock : block.length ≤ 16)
    (hLast : block.length < 16 → rest = []) :
    stream keys nonce [] n (block ++ rest) =
      Aes.add block (Aes.encryptBlock keys (counter nonce n)) ++
        stream keys nonce [] (n + 1) rest := by
  have hSplit :
      (block ++ rest).take 16 = block ∧
        (block ++ rest).drop 16 = rest := by
    rcases Nat.lt_or_eq_of_le hBlock with hShort | hFull
    · rw [hLast hShort, List.append_nil]
      exact ⟨List.take_of_length_le hBlock,
        List.drop_of_length_le hBlock⟩
    · exact ⟨List.take_left' hFull, List.drop_left' hFull⟩
  rw [stream_eq, if_neg (List.append_ne_nil_of_left_ne_nil hSome _),
    hSplit.1, hSplit.2]

/- Adding the key stream twice changes nothing. -/
theorem stream_stream
    (hKeys : Aes.IsSchedule keys)
    (nonce : Bytes)
    (n : Nat)
    (bytes : Bytes) :
    stream keys nonce [] n (stream keys nonce [] n bytes) =
      bytes := by
  by_cases hEmpty : bytes = []
  · subst hEmpty
    have hNil : stream keys nonce [] n [] = [] := by
      rw [stream_eq, if_pos rfl]
    rw [hNil, hNil]
  · have hShorter := length_drop_lt hEmpty
    have hPos := List.length_pos_iff.2 hEmpty
    let pad := Aes.encryptBlock keys (counter nonce n)
    let rest := stream keys nonce [] (n + 1) (bytes.drop 16)
    have hPad : pad.length = 16 :=
      Aes.length_encryptBlock hKeys _
    have hTake : (bytes.take 16).length ≤ pad.length := by
      rw [hPad]
      exact List.length_take_le 16 bytes
    have hBlock :
        (Aes.add (bytes.take 16) pad).length =
          min 16 bytes.length := by
      rw [Aes.length_add, List.length_take, hPad]
      omega
    have hLast : bytes.length < 16 → rest = [] := by
      intro hShort
      apply List.length_eq_zero_iff.1
      rw [length_stream hKeys, List.length_drop]
      omega
    calc
      stream keys nonce [] n (stream keys nonce [] n bytes) =
          stream keys nonce [] n
            (Aes.add (bytes.take 16) pad ++ rest) := by
        rw [stream_eq nonce n bytes, if_neg hEmpty]
      _ = Aes.add (Aes.add (bytes.take 16) pad) pad ++
            stream keys nonce [] (n + 1) rest := by
        apply stream_append
        · apply List.ne_nil_of_length_pos
          omega
        · omega
        · intro hShort
          apply hLast
          omega
      _ = bytes.take 16 ++ bytes.drop 16 := by
        rw [Aes.add_add_right hTake,
          stream_stream hKeys nonce (n + 1) (bytes.drop 16)]
      _ = bytes := List.take_append_drop 16 bytes
  termination_by bytes.length

/- A tag has sixteen octets. -/
theorem length_tag
    (hKeys : Aes.IsSchedule keys)
    (nonce cipherText : Bytes) :
    (tag keys nonce cipherText).length = tagLength := by
  rw [tag, Aes.length_add, Aes.length_encryptBlock hKeys,
    ofNumber, List.length_map, List.length_range]
  rfl

end Gcm

end Courier

------------------------------------------------------------
-- Opening
------------------------------------------------------------

namespace Courier

namespace Gcm

/- A cipher text with its own tag is opened. -/
theorem decrypt?_append_tag
    {key : Bytes}
    (hKey : key.length = 32)
    (nonce cipherText : Bytes) :
    decrypt? key nonce
        (cipherText ++
          tag (Aes.expand key) nonce cipherText) =
      some (stream (Aes.expand key) nonce [] 2 cipherText) := by
  have hTag :=
    length_tag (Aes.isSchedule_expand hKey) nonce cipherText
  have hLength :
      (cipherText ++
          tag (Aes.expand key) nonce cipherText).length -
        tagLength = cipherText.length := by
    rw [List.length_append, hTag, Nat.add_sub_cancel]
  have hEnough :
      tagLength ≤
        (cipherText ++
          tag (Aes.expand key) nonce cipherText).length := by
    rw [List.length_append, hTag]
    exact Nat.le_add_left _ _
  unfold decrypt?
  simp only
  rw [hLength, List.take_left, List.drop_left,
    if_pos ⟨hEnough, rfl⟩]

/- What is sealed with a nonce is opened with it. -/
theorem decrypt?_encrypt
    {key : Bytes}
    (hKey : key.length = 32)
    (nonce plain : Bytes) :
    decrypt? key nonce (encrypt key nonce plain) =
      some plain := by
  rw [encrypt, decrypt?_append_tag hKey,
    stream_stream (Aes.isSchedule_expand hKey)]

/- What is sealed is longer by the tag. -/
theorem length_encrypt
    {key : Bytes}
    (hKey : key.length = 32)
    (nonce plain : Bytes) :
    (encrypt key nonce plain).length =
      plain.length + tagLength := by
  have hKeys := Aes.isSchedule_expand hKey
  rw [encrypt, List.length_append, length_stream hKeys,
    length_tag hKeys]

end Gcm

end Courier
