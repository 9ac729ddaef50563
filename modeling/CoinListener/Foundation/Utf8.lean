import Mathlib.Data.List.Basic

/-! UTF-8 text read with replacement: every maximal broken part becomes one U+FFFD. -/
namespace Foundation.Utf8

/-- The bytes of a text. -/
def encode (text : List Char) : List UInt8 :=
  text.flatMap String.utf8EncodeChar

def replacement : Char := '\uFFFD'

/-- Between characters, or inside one: so many bytes are missing, and the next one must lie between
two bounds. -/
inductive Decoder where
  | start
  | inside (missing value low high : Nat)

/-- The first byte of a character. -/
def lead (b : Nat) : List Char × Decoder :=
  if b < 0x80 then ([Char.ofNat b], .start)
  else if b < 0xC2 then ([replacement], .start)
  else if b < 0xE0 then ([], .inside 1 (b - 0xC0) 0x80 0xBF)
  else if b < 0xF0 then
    ([], .inside 2 (b - 0xE0) (if b = 0xE0 then 0xA0 else 0x80) (if b = 0xED then 0x9F else 0xBF))
  else if b < 0xF5 then
    ([], .inside 3 (b - 0xF0) (if b = 0xF0 then 0x90 else 0x80) (if b = 0xF4 then 0x8F else 0xBF))
  else ([replacement], .start)

def Decoder.next (d : Decoder) (b : Nat) : List Char × Decoder :=
  match d with
  | .start => lead b
  | .inside missing value low high =>
    if low ≤ b ∧ b ≤ high then
      if missing ≤ 1 then ([Char.ofNat (value * 64 + (b - 0x80))], .start)
      else ([], .inside (missing - 1) (value * 64 + (b - 0x80)) 0x80 0xBF)
    else (replacement :: (lead b).1, (lead b).2)

def Decoder.decode : Decoder → List UInt8 → List Char
  | .start, [] => []
  | .inside .., [] => [replacement]
  | d, b :: bytes => (d.next b.toNat).1 ++ (d.next b.toNat).2.decode bytes

/-- The text of the bytes, whatever they are. -/
def from_utf8_lossy (bytes : List UInt8) : List Char :=
  Decoder.start.decode bytes

variable {c : Char} {bytes : List UInt8}

theorem decode_cons (d : Decoder) (b : UInt8) (bytes : List UInt8) :
    d.decode (b :: bytes) = (d.next b.toNat).1 ++ (d.next b.toNat).2.decode bytes := by
  cases d <;> rfl

theorem char_toNat_valid (c : Char) :
    c.toNat < 0xD800 ∨ (0xDFFF < c.toNat ∧ c.toNat < 0x110000) := by
  have h := c.valid
  rw [UInt32.isValidChar, Nat.isValidChar] at h
  exact h

theorem inside_last {value low high b : Nat} (hl : low ≤ b) (hh : b ≤ high) :
    (Decoder.inside 1 value low high).next b = ([Char.ofNat (value * 64 + (b - 0x80))], .start) := by
  simp [Decoder.next, hl, hh]

theorem inside_more {missing value low high b : Nat} (hm : 1 < missing) (hl : low ≤ b)
    (hh : b ≤ high) : (Decoder.inside missing value low high).next b =
      ([], .inside (missing - 1) (value * 64 + (b - 0x80)) 0x80 0xBF) := by
  simp [Decoder.next, hl, hh, hm]

theorem lead_one {v : Nat} (h : v ≤ 0x7F) : lead v = ([Char.ofNat v], .start) := by
  rw [lead, if_pos (by omega)]

theorem lead_two {v : Nat} (h1 : 0x7F < v) (h2 : v ≤ 0x7FF) :
    lead (v / 64 % 0x20 + 0xC0) = ([], .inside 1 (v / 64) 0x80 0xBF) := by
  rw [lead, if_neg (by omega), if_neg (by omega), if_pos (by omega)]
  simp only [Prod.mk.injEq, Decoder.inside.injEq, true_and, and_true]
  omega

theorem lead_three {v : Nat} (h1 : 0x7FF < v) (h2 : v ≤ 0xFFFF) :
    lead (v / 4096 % 0x10 + 0xE0) = ([], .inside 2 (v / 4096)
      (if v / 4096 = 0 then 0xA0 else 0x80) (if v / 4096 = 0xD then 0x9F else 0xBF)) := by
  rw [lead, if_neg (by omega), if_neg (by omega), if_neg (by omega), if_pos (by omega)]
  have hv : v / 4096 % 0x10 = v / 4096 := by omega
  simp [hv]

theorem lead_four {v : Nat} (h1 : 0xFFFF < v) (h2 : v < 0x110000) :
    lead (v / 262144 % 0x08 + 0xF0) = ([], .inside 3 (v / 262144)
      (if v / 262144 = 0 then 0x90 else 0x80) (if v / 262144 = 4 then 0x8F else 0xBF)) := by
  rw [lead, if_neg (by omega), if_neg (by omega), if_neg (by omega), if_neg (by omega),
    if_pos (by omega)]
  have hv : v / 262144 % 0x08 = v / 262144 := by omega
  simp [hv]

/-- The four lengths of a character's bytes. -/
theorem encodeChar_cases (c : Char) :
    (c.toNat ≤ 0x7F ∧ String.utf8EncodeChar c = [UInt8.ofNat c.toNat]) ∨
    (0x7F < c.toNat ∧ c.toNat ≤ 0x7FF ∧ String.utf8EncodeChar c =
      [UInt8.ofNat (c.toNat / 64 % 0x20 + 0xC0), UInt8.ofNat (c.toNat % 0x40 + 0x80)]) ∨
    (0x7FF < c.toNat ∧ c.toNat ≤ 0xFFFF ∧ String.utf8EncodeChar c =
      [UInt8.ofNat (c.toNat / 4096 % 0x10 + 0xE0), UInt8.ofNat (c.toNat / 64 % 0x40 + 0x80),
        UInt8.ofNat (c.toNat % 0x40 + 0x80)]) ∨
    (0xFFFF < c.toNat ∧ String.utf8EncodeChar c =
      [UInt8.ofNat (c.toNat / 262144 % 0x08 + 0xF0), UInt8.ofNat (c.toNat / 4096 % 0x40 + 0x80),
        UInt8.ofNat (c.toNat / 64 % 0x40 + 0x80), UInt8.ofNat (c.toNat % 0x40 + 0x80)]) := by
  have hval : c.val.toNat = c.toNat := rfl
  simp only [String.utf8EncodeChar, hval]
  split
  · exact Or.inl ⟨by omega, rfl⟩
  · split
    · exact Or.inr (Or.inl ⟨by omega, by omega, rfl⟩)
    · split
      · exact Or.inr (Or.inr (Or.inl ⟨by omega, by omega, rfl⟩))
      · exact Or.inr (Or.inr (Or.inr ⟨by omega, rfl⟩))

theorem encodeChar_ascii (h : c.toNat < 128) :
    String.utf8EncodeChar c = [UInt8.ofNat c.toNat] := by
  rcases encodeChar_cases c with ⟨_, he⟩ | ⟨_, _, _⟩ | ⟨_, _, _⟩ | ⟨_, _⟩
  · exact he
  all_goals omega

theorem toNat_byte {n : Nat} (h : n < 256) : (UInt8.ofNat n).toNat = n := by
  rw [UInt8.toNat_ofNat']
  omega

/-- Outside ASCII every byte of a character is outside ASCII. -/
theorem encodeChar_wide (h : 128 ≤ c.toNat) {b : UInt8} (hb : b ∈ String.utf8EncodeChar c) :
    128 ≤ b.toNat := by
  have hv := char_toNat_valid c
  rcases encodeChar_cases c with ⟨_, he⟩ | ⟨_, _, he⟩ | ⟨_, _, he⟩ | ⟨_, he⟩
  · omega
  all_goals
    rw [he] at hb
    simp only [List.mem_cons, List.not_mem_nil, or_false] at hb
    obtain rfl | rfl | hb := hb <;> try (rw [toNat_byte (by omega)]; omega)
  · obtain rfl := hb
    rw [toNat_byte (by omega)]
    omega
  · obtain rfl | rfl := hb <;> rw [toNat_byte (by omega)] <;> omega

/-- A whole character is read back. -/
theorem decode_char (c : Char) (bytes : List UInt8) :
    Decoder.start.decode (String.utf8EncodeChar c ++ bytes) = c :: Decoder.start.decode bytes := by
  have hv := char_toNat_valid c
  have hc : Char.ofNat c.toNat = c := Char.ofNat_toNat c
  rcases encodeChar_cases c with ⟨h, he⟩ | ⟨h, h2, he⟩ | ⟨h, h2, he⟩ | ⟨h, he⟩ <;> rw [he]
  · simp only [List.cons_append, List.nil_append, decode_cons]
    rw [toNat_byte (by omega)]
    simp only [Decoder.next, lead_one h, hc, List.cons_append, List.nil_append]
  · simp only [List.cons_append, List.nil_append, decode_cons]
    rw [toNat_byte (by omega), toNat_byte (by omega)]
    simp only [Decoder.next.eq_1, lead_two h h2, List.nil_append]
    rw [inside_last (by omega) (by omega)]
    have hn : c.toNat / 64 * 64 + (c.toNat % 0x40 + 0x80 - 0x80) = c.toNat := by omega
    rw [hn, hc, List.cons_append, List.nil_append]
  · simp only [List.cons_append, List.nil_append, decode_cons]
    rw [toNat_byte (by omega), toNat_byte (by omega), toNat_byte (by omega)]
    simp only [Decoder.next.eq_1, lead_three h h2, List.nil_append]
    rw [inside_more (by omega) (by split <;> omega) (by split <;> omega)]
    simp only [List.nil_append]
    rw [inside_last (by omega) (by omega)]
    have hn : (c.toNat / 4096 * 64 + (c.toNat / 64 % 0x40 + 0x80 - 0x80)) * 64 +
        (c.toNat % 0x40 + 0x80 - 0x80) = c.toNat := by omega
    rw [hn, hc, List.cons_append, List.nil_append]
  · simp only [List.cons_append, List.nil_append, decode_cons]
    rw [toNat_byte (by omega), toNat_byte (by omega), toNat_byte (by omega), toNat_byte (by omega)]
    simp only [Decoder.next.eq_1, lead_four h (by omega), List.nil_append]
    rw [inside_more (by omega) (by split <;> omega) (by split <;> omega)]
    simp only [List.nil_append]
    rw [inside_more (by omega) (by omega) (by omega)]
    simp only [List.nil_append]
    rw [inside_last (by omega) (by omega)]
    have hn : ((c.toNat / 262144 * 64 + (c.toNat / 4096 % 0x40 + 0x80 - 0x80)) * 64 +
        (c.toNat / 64 % 0x40 + 0x80 - 0x80)) * 64 + (c.toNat % 0x40 + 0x80 - 0x80) = c.toNat := by
      omega
    rw [hn, hc, List.cons_append, List.nil_append]

/-- A character that is cut leaves one replacement character. -/
theorem decode_cut {n : Nat} (h0 : 0 < n) (hn : n < (String.utf8EncodeChar c).length) :
    Decoder.start.decode ((String.utf8EncodeChar c).take n) = [replacement] := by
  have hv := char_toNat_valid c
  rcases encodeChar_cases c with ⟨h, he⟩ | ⟨h, h2, he⟩ | ⟨h, h2, he⟩ | ⟨h, he⟩ <;> rw [he] at hn ⊢ <;>
    simp only [List.length_cons, List.length_nil] at hn
  · omega
  · obtain rfl : n = 1 := by omega
    simp only [List.take_succ_cons, List.take_zero, decode_cons]
    rw [toNat_byte (by omega)]
    simp only [Decoder.next.eq_1, lead_two h h2, List.nil_append, Decoder.decode]
  · obtain rfl | rfl : n = 1 ∨ n = 2 := by omega
    · simp only [List.take_succ_cons, List.take_zero, decode_cons]
      rw [toNat_byte (by omega)]
      simp only [Decoder.next.eq_1, lead_three h h2, List.nil_append, Decoder.decode]
    · simp only [List.take_succ_cons, List.take_zero, decode_cons]
      rw [toNat_byte (by omega), toNat_byte (by omega)]
      simp only [Decoder.next.eq_1, lead_three h h2, List.nil_append]
      rw [inside_more (by omega) (by split <;> omega) (by split <;> omega)]
      simp only [List.nil_append, Decoder.decode]
  · obtain rfl | rfl | rfl : n = 1 ∨ n = 2 ∨ n = 3 := by omega
    · simp only [List.take_succ_cons, List.take_zero, decode_cons]
      rw [toNat_byte (by omega)]
      simp only [Decoder.next.eq_1, lead_four h (by omega), List.nil_append, Decoder.decode]
    · simp only [List.take_succ_cons, List.take_zero, decode_cons]
      rw [toNat_byte (by omega), toNat_byte (by omega)]
      simp only [Decoder.next.eq_1, lead_four h (by omega), List.nil_append]
      rw [inside_more (by omega) (by split <;> omega) (by split <;> omega)]
      simp only [List.nil_append, Decoder.decode]
    · simp only [List.take_succ_cons, List.take_zero, decode_cons]
      rw [toNat_byte (by omega), toNat_byte (by omega), toNat_byte (by omega)]
      simp only [Decoder.next.eq_1, lead_four h (by omega), List.nil_append]
      rw [inside_more (by omega) (by split <;> omega) (by split <;> omega)]
      simp only [List.nil_append]
      rw [inside_more (by omega) (by omega) (by omega)]
      simp only [List.nil_append, Decoder.decode]

theorem decode_encode (text : List Char) (bytes : List UInt8) :
    Decoder.start.decode (encode text ++ bytes) = text ++ Decoder.start.decode bytes := by
  induction text with
  | nil => rfl
  | cons c text ih =>
    simp only [encode, List.flatMap_cons, List.append_assoc, decode_char, List.cons_append] at ih ⊢
    rw [ih]

/-- A prefix of a text's bytes ends between two characters or inside one. -/
theorem take_encode (text : List Char) (n : Nat) :
    (∃ pre post, text = pre ++ post ∧ (encode text).take n = encode pre ∧
      (encode text).drop n = encode post) ∨
    (∃ pre c post m, text = pre ++ c :: post ∧ 0 < m ∧ m < (String.utf8EncodeChar c).length ∧
      (encode text).take n = encode pre ++ (String.utf8EncodeChar c).take m ∧
      (encode text).drop n = (String.utf8EncodeChar c).drop m ++ encode post) := by
  induction text generalizing n with
  | nil => exact Or.inl ⟨[], [], rfl, by simp [encode], by simp [encode]⟩
  | cons c text ih =>
    have happ : encode (c :: text) = String.utf8EncodeChar c ++ encode text := rfl
    by_cases h0 : n = 0
    · exact Or.inl ⟨[], c :: text, rfl, by simp [h0, encode], by simp [h0]⟩
    by_cases hn : n < (String.utf8EncodeChar c).length
    · refine Or.inr ⟨[], c, text, n, rfl, by omega, hn, ?_, ?_⟩
      · rw [happ, List.take_append_of_le_length (by omega)]
        rfl
      · rw [happ, List.drop_append_of_le_length (by omega)]
    have hlen : (String.utf8EncodeChar c).length ≤ n := by omega
    obtain ⟨pre, post, rfl, ht, hd⟩ | ⟨pre, d, post, m, rfl, h0, hm, ht, hd⟩ :=
      ih (n - (String.utf8EncodeChar c).length)
    · refine Or.inl ⟨c :: pre, post, rfl, ?_, ?_⟩
      · rw [happ, List.take_append, List.take_of_length_le hlen, ht]
        rfl
      · rw [happ, List.drop_append, List.drop_eq_nil_of_le hlen, hd, List.nil_append]
    · refine Or.inr ⟨c :: pre, d, post, m, rfl, h0, hm, ?_, ?_⟩
      · rw [happ, List.take_append, List.take_of_length_le hlen, ht]
        simp [encode]
      · rw [happ, List.drop_append, List.drop_eq_nil_of_le hlen, hd, List.nil_append]

/-- Text read from the first `n` bytes: the text is cut between two characters, or inside one. -/
theorem lossy_take_encode (text : List Char) (n : Nat) :
    (∃ pre post, text = pre ++ post ∧ from_utf8_lossy ((encode text).take n) = pre ∧
      (encode text).drop n = encode post) ∨
    (∃ pre c post, text = pre ++ c :: post ∧ 128 ≤ c.toNat ∧
      from_utf8_lossy ((encode text).take n) = pre ++ [replacement] ∧
      ∃ b ∈ (encode text).drop n, 128 ≤ b.toNat) := by
  obtain ⟨pre, post, rfl, ht, hd⟩ | ⟨pre, c, post, m, rfl, h0, hm, ht, hd⟩ := take_encode text n
  · refine Or.inl ⟨pre, post, rfl, ?_, hd⟩
    have hpre := decode_encode pre []
    simpa [from_utf8_lossy, ht, Decoder.decode] using hpre
  · have hc : 128 ≤ c.toNat := by
      by_contra hlt
      rw [encodeChar_ascii (by omega), List.length_singleton] at hm
      omega
    refine Or.inr ⟨pre, c, post, rfl, hc, ?_, ?_⟩
    · rw [from_utf8_lossy, ht, decode_encode, decode_cut h0 hm]
    · obtain ⟨b, hb⟩ := List.exists_mem_of_length_pos
        (show 0 < ((String.utf8EncodeChar c).drop m).length by rw [List.length_drop]; omega)
      refine ⟨b, ?_, encodeChar_wide hc (List.mem_of_mem_drop hb)⟩
      rw [hd]
      exact List.mem_append_left _ hb

theorem lossy_encode (text : List Char) : from_utf8_lossy (encode text) = text := by
  simpa [from_utf8_lossy, Decoder.decode] using decode_encode text []

end Foundation.Utf8
