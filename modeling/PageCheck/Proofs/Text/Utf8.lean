import PageCheck.Text.Utf8

/-!
# The bytes of texts

Texts are written as the bytes by which strings are stored, so different texts have different bytes.
The reader takes from the bytes of a text one character after the other and gives the text back. It
reads nothing else: what it takes as a character are the bytes of that character.
-/

namespace PageCheck.Text

set_option autoImplicit false

theorem toNat_lt_of_char (c : Char) : c.toNat < 0x110000 := by
  rcases c.valid with h | h
  · exact Nat.lt_trans h (by decide)
  · exact h.2

theorem not_surrogate (c : Char) : ¬ (0xD800 ≤ c.toNat ∧ c.toNat ≤ 0xDFFF) := by
  rcases c.valid with h | h
  · exact fun hSurrogate => absurd h (Nat.not_lt.mpr hSurrogate.1)
  · exact fun hSurrogate => absurd h.1 (Nat.not_lt.mpr hSurrogate.2)

theorem encodeChar_eq (c : Char) : encodeChar c = String.utf8EncodeChar c := by
  have hSize := toNat_lt_of_char c
  unfold encodeChar String.utf8EncodeChar
  simp only [Char.toNat] at hSize ⊢
  generalize c.val.toNat = n at hSize ⊢
  by_cases h1 : n ≤ 0x7F
  · simp [h1, show n < 0x80 by omega]
  by_cases h2 : n ≤ 0x7FF
  · have hFirst : n / 64 % 32 = n / 64 := by omega
    simp [h1, h2, show ¬ n < 0x80 by omega, show n < 0x800 by omega, hFirst, Nat.add_comm]
  by_cases h3 : n ≤ 0xFFFF
  · have hFirst : n / 4096 % 16 = n / 4096 := by omega
    simp [h1, h2, h3, show ¬ n < 0x80 by omega, show ¬ n < 0x800 by omega,
      show n < 0x10000 by omega, hFirst, Nat.add_comm]
  · have hFirst : n / 262144 % 8 = n / 262144 := by omega
    simp [h1, h2, h3, show ¬ n < 0x80 by omega, show ¬ n < 0x800 by omega,
      show ¬ n < 0x10000 by omega, hFirst, Nat.add_comm]

theorem encode_eq (s : String) : encode s.toList = s.toUTF8.data.toList := by
  have hBytes : s.toUTF8 = s.toList.utf8Encode := String.utf8Encode_toList.symm
  rw [hBytes, List.utf8Encode, List.toList_data_toByteArray, encode]
  exact congrArg (List.flatMap · s.toList) (funext encodeChar_eq)

theorem toUTF8_toList_injective {s t : String} (h : s.toUTF8.data.toList = t.toUTF8.data.toList) :
    s = t := by
  apply String.toByteArray_inj.mp
  exact ByteArray.ext (Array.toList_inj.mp h)

/-! Reading -/

/-- A first byte and those behind it are read as one character. -/
structure ReadsAs (b : UInt8) (tail : List UInt8) (n : Nat) : Prop where
  count : following? b.toNat = some tail.length
  good : goodBytes b.toNat tail = tail.length
  value : sequenceValue b.toNat tail = n

theorem toNat_ofNat_of_lt {n : Nat} (h : n < 256) : (UInt8.ofNat n).toNat = n := by
  rw [UInt8.toNat_ofNat']
  exact Nat.mod_eq_of_lt h

/-- The byte that holds the last six bits of a number. -/
def bits (n : Nat) : UInt8 := UInt8.ofNat (0x80 + n % 0x40)

theorem toNat_bits (n : Nat) : (bits n).toNat = 0x80 + n % 0x40 := toNat_ofNat_of_lt (by omega)

theorem isContinuation_bits (n : Nat) : isContinuation (bits n) = true := by
  rw [isContinuation, toNat_bits]
  simp only [Bool.and_eq_true, decide_eq_true_eq]
  omega

theorem goodBytes_bits {first n : Nat} (more : List Nat) (hLow : first = 0xE0 → 0x20 ≤ n % 0x40)
    (hHigh : first = 0xED → n % 0x40 < 0x20) (hLeast : first = 0xF0 → 0x10 ≤ n % 0x40)
    (hMost : first = 0xF4 → n % 0x40 < 0x10) :
    goodBytes first ((n :: more).map bits) = ((n :: more).map bits).length := by
  have hSecond : isSecond first (bits n) = true := by
    rw [isSecond, isContinuation_bits, toNat_bits]
    simp only [Bool.true_and, Bool.and_eq_true]
    constructor
    · split
      · simp only [decide_eq_true_eq]
        omega
      split
      · simp only [decide_eq_true_eq]
        omega
      · rfl
    · split
      · simp only [decide_eq_true_eq]
        omega
      split
      · simp only [decide_eq_true_eq]
        omega
      · rfl
  have hMore : (more.map bits).takeWhile isContinuation = more.map bits := by
    rw [← List.append_nil (more.map bits), List.takeWhile_append_of_pos, List.takeWhile_nil]
    intro b hMem
    obtain ⟨m, _, rfl⟩ := List.mem_map.mp hMem
    exact isContinuation_bits m
  rw [List.map_cons, goodBytes, if_pos hSecond, hMore, List.length_cons]

/-- The cases are the numbers of bytes: the first byte tells the number, and each of the others holds
six bits. -/
theorem exists_readsAs (c : Char) : ∃ b tail, encodeChar c = b :: tail ∧ ReadsAs b tail c.toNat := by
  have hSize := toNat_lt_of_char c
  have hSurrogate := not_surrogate c
  unfold encodeChar
  generalize c.toNat = n at *
  dsimp only
  by_cases h1 : n < 0x80
  · rw [if_pos h1]
    have hFirst := toNat_ofNat_of_lt (n := n) (by omega)
    refine ⟨UInt8.ofNat n, [], rfl, ?_, rfl, hFirst⟩
    rw [hFirst, following?, if_pos h1, List.length_nil]
  by_cases h2 : n < 0x800
  · rw [if_neg h1, if_pos h2]
    have hFirst := toNat_ofNat_of_lt (n := 0xC0 + n / 0x40) (by omega)
    refine ⟨_, [n].map bits, rfl, ?_, ?_, ?_⟩
    · rw [hFirst, following?]
      simp (disch := omega) only [if_pos, if_neg, List.length_map, List.length_cons, List.length_nil]
    · rw [hFirst]
      exact goodBytes_bits [] (by omega) (by omega) (by omega) (by omega)
    · simp only [hFirst, sequenceValue, List.map_cons, List.map_nil, List.length_cons, List.length_nil,
        List.foldl_cons, List.foldl_nil, toNat_bits]
      omega
  by_cases h3 : n < 0x10000
  · rw [if_neg h1, if_neg h2, if_pos h3]
    have hFirst := toNat_ofNat_of_lt (n := 0xE0 + n / 0x1000) (by omega)
    refine ⟨_, [n / 0x40, n].map bits, rfl, ?_, ?_, ?_⟩
    · rw [hFirst, following?]
      simp (disch := omega) only [if_pos, if_neg, List.length_map, List.length_cons, List.length_nil]
    · rw [hFirst]
      exact goodBytes_bits [n] (by omega) (by omega) (by omega) (by omega)
    · simp only [hFirst, sequenceValue, List.map_cons, List.map_nil, List.length_cons, List.length_nil,
        List.foldl_cons, List.foldl_nil, toNat_bits]
      omega
  · rw [if_neg h1, if_neg h2, if_neg h3]
    have hFirst := toNat_ofNat_of_lt (n := 0xF0 + n / 0x40000) (by omega)
    refine ⟨_, [n / 0x1000, n / 0x40, n].map bits, rfl, ?_, ?_, ?_⟩
    · rw [hFirst, following?]
      simp (disch := omega) only [if_pos, if_neg, List.length_map, List.length_cons, List.length_nil]
    · rw [hFirst]
      exact goodBytes_bits [n / 0x40, n] (by omega) (by omega) (by omega) (by omega)
    · simp only [hFirst, sequenceValue, List.map_cons, List.map_nil, List.length_cons, List.length_nil,
        List.foldl_cons, List.foldl_nil, toNat_bits]
      omega

theorem decodeFrom_encode (s : List Char) (position : Nat) : decodeFrom position (encode s) = .ok s := by
  induction s generalizing position with
  | nil => rw [encode, List.flatMap_nil, decodeFrom]
  | cons c s ih =>
    obtain ⟨b, tail, hBytes, hReads⟩ := exists_readsAs c
    have hRest := ih (position + tail.length + 1)
    rw [encode] at hRest
    rw [encode, List.flatMap_cons, hBytes, List.cons_append, decodeFrom]
    simp only [hReads.count, List.take_left, List.drop_left, hReads.good, Nat.lt_irrefl, if_false,
      hRest, hReads.value, Char.ofNat_toNat]

/-! What is read -/

theorem toNat_char_ofNat {n : Nat} (h : n.isValidChar) : (Char.ofNat n).toNat = n := by
  rw [Char.ofNat, dif_pos h]
  rfl

theorem ofNat_eq_of_eq_toNat {n : Nat} {b : UInt8} (h : n = b.toNat) : UInt8.ofNat n = b := by
  rw [h, UInt8.ofNat_toNat]

theorem range_of_following? {first n : Nat} (h : following? first = some n) :
    (n = 0 ∧ first < 0x80) ∨ (n = 1 ∧ 0xC2 ≤ first ∧ first < 0xE0) ∨
      (n = 2 ∧ 0xE0 ≤ first ∧ first < 0xF0) ∨ (n = 3 ∧ 0xF0 ≤ first ∧ first < 0xF5) := by
  unfold following? at h
  split at h
  · cases h
    omega
  split at h
  · cases h
  split at h
  · cases h
    omega
  split at h
  · cases h
    omega
  split at h
  · cases h
    omega
  · cases h

theorem range_of_isContinuation {b : UInt8} (h : isContinuation b = true) :
    0x80 ≤ b.toNat ∧ b.toNat < 0xC0 := by
  simpa only [isContinuation, Bool.and_eq_true, decide_eq_true_eq] using h

/-- A second byte is behind a first one that it does not make a long form or no character of. -/
theorem range_of_isSecond {first : Nat} {b : UInt8} (h : isSecond first b = true) :
    (0x80 ≤ b.toNat ∧ b.toNat < 0xC0) ∧ (first = 0xE0 → 0xA0 ≤ b.toNat) ∧
      (first = 0xF0 → 0x90 ≤ b.toNat) ∧ (first = 0xED → b.toNat < 0xA0) ∧
        (first = 0xF4 → b.toNat < 0x90) := by
  rw [isSecond, Bool.and_eq_true, Bool.and_eq_true] at h
  obtain ⟨⟨hContinuation, hLeast⟩, hMost⟩ := h
  refine ⟨range_of_isContinuation hContinuation, ?_, ?_, ?_, ?_⟩
  · rintro rfl
    simpa using hLeast
  · rintro rfl
    simpa using hLeast
  · rintro rfl
    simpa using hMost
  · rintro rfl
    simpa using hMost

theorem goodBytes_le_length (first : Nat) (tail : List UInt8) : goodBytes first tail ≤ tail.length := by
  cases tail with
  | nil => exact Nat.le_refl 0
  | cons b rest =>
    rw [goodBytes]
    split
    · exact Nat.succ_le_succ (List.takeWhile_sublist isContinuation).length_le
    · exact Nat.zero_le _

theorem all_of_goodBytes {first : Nat} {b : UInt8} {rest : List UInt8}
    (h : goodBytes first (b :: rest) = (b :: rest).length) :
    isSecond first b = true ∧ ∀ c ∈ rest, isContinuation c = true := by
  rw [goodBytes] at h
  split at h
  · rename_i hSecond
    have hWhole : rest.takeWhile isContinuation = rest :=
      (List.takeWhile_prefix isContinuation).eq_of_length (Nat.succ.inj h)
    refine ⟨hSecond, fun c hMem => ?_⟩
    rw [← hWhole] at hMem
    exact List.all_eq_true.mp List.all_takeWhile c hMem
  · cases h

/-- Bytes that are read as a character are the bytes of that character. -/
theorem ReadsAs.encodeChar_eq {b : UInt8} {tail : List UInt8} {n : Nat} (h : ReadsAs b tail n) :
    encodeChar (Char.ofNat n) = b :: tail := by
  have hValue := h.value
  have hFirst := range_of_following? h.count
  rcases tail with _ | ⟨x, _ | ⟨y, _ | ⟨z, _ | ⟨more, rest⟩⟩⟩⟩
  · simp only [sequenceValue, List.length_nil, List.foldl_nil] at hValue hFirst
    have hChar := toNat_char_ofNat (n := n) (Or.inl (by omega))
    rw [encodeChar, hChar, if_pos (by omega), List.map_singleton, ofNat_eq_of_eq_toNat hValue.symm]
  · obtain ⟨hSecond, _⟩ := all_of_goodBytes h.good
    obtain ⟨hx, _⟩ := range_of_isSecond hSecond
    simp only [sequenceValue, List.length_cons, List.length_nil, List.foldl_cons, List.foldl_nil]
      at hValue hFirst
    have hChar := toNat_char_ofNat (n := n) (Or.inl (by omega))
    rw [encodeChar, hChar, if_neg (by omega), if_pos (by omega), List.map_cons, List.map_singleton,
      ofNat_eq_of_eq_toNat (b := b) (by omega), ofNat_eq_of_eq_toNat (b := x) (by omega)]
  · obtain ⟨hSecond, hMore⟩ := all_of_goodBytes h.good
    obtain ⟨hx, hLow, _, hHigh, _⟩ := range_of_isSecond hSecond
    have hy := range_of_isContinuation (hMore y (by simp))
    simp only [sequenceValue, List.length_cons, List.length_nil, List.foldl_cons, List.foldl_nil]
      at hValue hFirst
    have hValid : n.isValidChar := by
      unfold Nat.isValidChar
      omega
    rw [encodeChar, toNat_char_ofNat hValid, if_neg (by omega), if_neg (by omega), if_pos (by omega),
      List.map_cons, List.map_cons, List.map_singleton, ofNat_eq_of_eq_toNat (b := b) (by omega),
      ofNat_eq_of_eq_toNat (b := x) (by omega), ofNat_eq_of_eq_toNat (b := y) (by omega)]
  · obtain ⟨hSecond, hMore⟩ := all_of_goodBytes h.good
    obtain ⟨hx, _, hLeast, _, hMost⟩ := range_of_isSecond hSecond
    have hy := range_of_isContinuation (hMore y (by simp))
    have hz := range_of_isContinuation (hMore z (by simp))
    simp only [sequenceValue, List.length_cons, List.length_nil, List.foldl_cons, List.foldl_nil]
      at hValue hFirst
    have hValid : n.isValidChar := by
      unfold Nat.isValidChar
      omega
    rw [encodeChar, toNat_char_ofNat hValid, if_neg (by omega), if_neg (by omega), if_neg (by omega),
      List.map_cons, List.map_cons, List.map_cons, List.map_singleton,
      ofNat_eq_of_eq_toNat (b := b) (by omega), ofNat_eq_of_eq_toNat (b := x) (by omega),
      ofNat_eq_of_eq_toNat (b := y) (by omega), ofNat_eq_of_eq_toNat (b := z) (by omega)]
  · simp only [List.length_cons] at hFirst
    omega

theorem eq_encode_of_decodeFrom {position : Nat} {bytes : List UInt8} {s : List Char}
    (h : decodeFrom position bytes = .ok s) : bytes = encode s := by
  fun_induction decodeFrom position bytes generalizing s with
  | case1 =>
    cases h
    rfl
  | case5 position b rest n hCount tail good hGood chars hRest =>
    rename_i ih
    cases h
    have hLength : tail.length = n := by
      have hLe := goodBytes_le_length b.toNat tail
      have hTake : tail.length ≤ n := List.length_take_le n rest
      omega
    have hReads : ReadsAs b tail (sequenceValue b.toNat tail) := by
      have hLe := goodBytes_le_length b.toNat tail
      exact ⟨hLength ▸ hCount, by omega, rfl⟩
    rw [encode, List.flatMap_cons, hReads.encodeChar_eq, List.cons_append]
    have hText : rest.drop n = encode chars := ih hRest
    rw [← encode, ← hText, List.take_append_drop]
  | _ => cases h

/-- The bytes of a text are read as that text. -/
theorem decode_encode (s : String) : decode (encode s.toList) = .ok s := by
  rw [decode, decodeFrom_encode]
  exact congrArg Except.ok String.ofList_toList

theorem decode_eq_ok_iff {bytes : List UInt8} {s : String} :
    decode bytes = .ok s ↔ bytes = encode s.toList := by
  constructor
  · intro h
    rw [decode] at h
    cases hRead : decodeFrom 0 bytes with
    | error fault =>
      rw [hRead] at h
      cases h
    | ok chars =>
      rw [hRead] at h
      cases h
      rw [String.toList_ofList]
      exact eq_encode_of_decodeFrom hRead
  · rintro rfl
    exact decode_encode s

/-! What can be written -/

theorem charsFrom_ofChars (position : Nat) (s : List Char) :
    charsFrom position (Codes.ofChars s) = .ok s := by
  induction s generalizing position with
  | nil => rfl
  | cons c rest ih =>
    rw [Codes.ofChars_cons, charsFrom, ih]
    rfl

theorem written_ofString (s : String) : (Codes.ofString s).written = .ok s := by
  rw [Codes.written, Codes.ofString, charsFrom_ofChars]
  exact congrArg Except.ok String.ofList_toList

theorem charsFrom_of_half {s : Codes} {index : Fin halfCount} (h : .half index ∈ s) (position : Nat) :
    ∃ fault, charsFrom position s = .error fault := by
  induction s generalizing position with
  | nil => cases h
  | cons c rest ih =>
    cases c with
    | half first => exact ⟨_, rfl⟩
    | char c =>
      rcases List.mem_cons.mp h with hHere | hRest
      · cases hHere
      · obtain ⟨fault, hFault⟩ := ih hRest (position + 1)
        refine ⟨fault, ?_⟩
        rw [charsFrom, hFault]
        rfl

theorem written_of_half {s : Codes} {index : Fin halfCount} (h : .half index ∈ s) :
    ∃ fault, s.written = .error fault := by
  obtain ⟨fault, hFault⟩ := charsFrom_of_half h 0
  refine ⟨fault, ?_⟩
  rw [Codes.written, hFault]
  rfl

end PageCheck.Text
