import Mathlib.Algebra.Order.Group.Nat

/-! Decimal numerals: the number a text of digits stands for, and how such texts compare. -/
namespace Foundation.Numeral

variable {text a b : List Char} {c d : Char} {n : Nat}

/-- Decimal digits only. -/
def Digits (text : List Char) : Prop :=
  ∀ c ∈ text, c.isDigit = true

def value (text : List Char) : Nat :=
  Nat.ofDigitChars 10 text 0

@[simp]
theorem digits_nil : Digits [] :=
  fun _ h => absurd h List.not_mem_nil

@[simp]
theorem digits_cons : Digits (c :: text) ↔ c.isDigit = true ∧ Digits text :=
  List.forall_mem_cons

@[simp]
theorem digits_append : Digits (a ++ b) ↔ Digits a ∧ Digits b :=
  List.forall_mem_append

theorem digits_replicate : Digits (List.replicate n '0') := by
  intro c hc
  obtain rfl := List.eq_of_mem_replicate hc
  rfl

theorem digits_toDigits : Digits (Nat.toDigits 10 n) :=
  fun _ hc => Nat.isDigit_of_mem_toDigits (by decide) (by decide) hc

@[simp]
theorem value_nil : value [] = 0 :=
  rfl

theorem value_append : value (a ++ b) = value a * 10 ^ b.length + value b := by
  unfold value
  rw [Nat.ofDigitChars_append, Nat.ofDigitChars_eq_ofDigitChars_zero, Nat.mul_comm]

theorem value_cons : value (c :: text) = (c.toNat - 48) * 10 ^ text.length + value text := by
  have h := value_append (a := [c]) (b := text)
  have hone : value [c] = c.toNat - 48 := Nat.zero_add _
  rwa [hone] at h

theorem value_toDigits : value (Nat.toDigits 10 n) = n :=
  Nat.ofDigitChars_ten_toDigits

theorem digit_bounds (h : c.isDigit = true) : 48 ≤ c.toNat ∧ c.toNat ≤ 57 :=
  Char.isDigit_iff_toNat.mp h

/-- So many digits stand for less than that power of ten. -/
theorem value_lt (h : Digits text) : value text < 10 ^ text.length := by
  induction text with
  | nil => exact Nat.one_pos
  | cons c text ih =>
    obtain ⟨hc, htext⟩ := digits_cons.mp h
    have hbounds := digit_bounds hc
    have hrest := ih htext
    have hdigit : (c.toNat - 48) * 10 ^ text.length ≤ 9 * 10 ^ text.length :=
      Nat.mul_le_mul_right _ (by omega)
    rw [value_cons, List.length_cons, pow_succ]
    omega

/-! ### Zeros -/

@[simp]
theorem value_replicate : value (List.replicate n '0') = 0 := by
  simp [value]

/-- Zeros in front change nothing. -/
theorem value_zeros_append : value (List.replicate n '0' ++ text) = value text := by
  rw [value_append, value_replicate, Nat.zero_mul, Nat.zero_add]

theorem value_append_zeros : value (text ++ List.replicate n '0') = value text * 10 ^ n := by
  rw [value_append, value_replicate, List.length_replicate, Nat.add_zero]

/-- A text begins with zeros, and what is left does not. -/
theorem zeros_dropWhile (text : List Char) :
    ∃ n, text = List.replicate n '0' ++ text.dropWhile (· == '0') := by
  induction text with
  | nil => exact ⟨0, rfl⟩
  | cons c text ih =>
    by_cases hc : c = '0'
    · obtain ⟨n, hn⟩ := ih
      subst hc
      refine ⟨n + 1, ?_⟩
      rw [List.dropWhile_cons_of_pos (by rfl), List.replicate_succ, List.cons_append, ← hn]
    · exact ⟨0, by rw [List.dropWhile_cons_of_neg (by simpa using hc)]; rfl⟩

theorem value_dropWhile (text : List Char) : value (text.dropWhile (· == '0')) = value text := by
  obtain ⟨n, hn⟩ := zeros_dropWhile text
  conv => rhs; rw [hn]
  rw [value_zeros_append]

theorem digits_dropWhile (h : Digits text) : Digits (text.dropWhile (· == '0')) :=
  fun _ hc => h _ ((List.dropWhile_suffix _).subset hc)

theorem head_dropWhile (text : List Char) : (text.dropWhile (· == '0')).head? ≠ some '0' := by
  intro h
  have hhead := List.head?_dropWhile_not (· == '0') text
  rw [h] at hhead
  exact absurd hhead (by decide)

/-- The numeral of a number has no zero in front, unless it is the numeral of zero. -/
theorem head_toDigits (h : (Nat.toDigits 10 n).head? = some '0') : Nat.toDigits 10 n = ['0'] := by
  cases hdigits : Nat.toDigits 10 n with
  | nil => exact absurd hdigits Nat.toDigits_ne_nil
  | cons c rest =>
    rw [hdigits] at h
    obtain rfl := Option.some.inj h
    cases rest with
    | nil => rfl
    | cons d rest =>
      have hdig := digits_toDigits (n := n)
      rw [hdigits] at hdig
      have hvalue := value_toDigits (n := n)
      rw [hdigits, value_cons] at hvalue
      have hlt := value_lt (digits_cons.mp hdig).2
      have hlength := Nat.length_toDigits_le_iff (b := 10) (n := n) (k := (d :: rest).length)
        (by decide) (Nat.succ_pos _)
      rw [hdigits] at hlength
      have hshort := hlength.mpr (by
        rw [← hvalue]
        simpa using hlt)
      exact absurd hshort (by simp)

/-! ### The order -/

/-- Whether the first text is not behind the second one, character by character. -/
def text_le : List Char → List Char → Bool
  | [], _ => true
  | _ :: _, [] => false
  | c :: a, d :: b => c.toNat < d.toNat || (c.toNat == d.toNat && text_le a b)

/-- Texts of one length compare, character by character, as their numbers do. -/
theorem text_le_iff_value_le (ha : Digits a) (hb : Digits b) (hlength : a.length = b.length) :
    text_le a b = true ↔ value a ≤ value b := by
  induction a generalizing b with
  | nil =>
    obtain rfl := List.length_eq_zero_iff.mp hlength.symm
    exact iff_of_true rfl (le_refl _)
  | cons c a ih =>
    cases b with
    | nil => exact absurd hlength (by simp)
    | cons d b =>
      obtain ⟨hc, ha⟩ := digits_cons.mp ha
      obtain ⟨hd, hb⟩ := digits_cons.mp hb
      have hlen : a.length = b.length := by simpa using hlength
      have hva := value_lt ha
      have hvb := value_lt hb
      have hcb := digit_bounds hc
      have hdb := digit_bounds hd
      simp only [text_le, Bool.or_eq_true, Bool.and_eq_true, decide_eq_true_eq, beq_iff_eq,
        ih ha hb hlen]
      rw [value_cons, value_cons, hlen]
      rw [hlen] at hva
      rcases Nat.lt_trichotomy c.toNat d.toNat with hlt | heq | hgt
      · have hmul : (c.toNat - 48 + 1) * 10 ^ b.length ≤ (d.toNat - 48) * 10 ^ b.length :=
          Nat.mul_le_mul_right _ (by omega)
        rw [Nat.add_mul, Nat.one_mul] at hmul
        exact iff_of_true (.inl hlt) (by omega)
      · rw [heq]
        simp
      · have hmul : (d.toNat - 48 + 1) * 10 ^ b.length ≤ (c.toNat - 48) * 10 ^ b.length :=
          Nat.mul_le_mul_right _ (by omega)
        rw [Nat.add_mul, Nat.one_mul] at hmul
        refine iff_of_false ?_ (by omega)
        rintro (hlt | ⟨heq, _⟩)
        · exact absurd hlt (by omega)
        · exact absurd heq (by omega)

/-- A longer text that does not begin with a zero stands for the greater number. -/
theorem value_lt_of_length_lt (ha : Digits a) (hb : Digits b) (hhead : b.head? ≠ some '0')
    (hlength : a.length < b.length) : value a < value b := by
  cases b with
  | nil => exact absurd hlength (Nat.not_lt_zero _)
  | cons d b =>
    obtain ⟨hd, _⟩ := digits_cons.mp hb
    have hdb := digit_bounds hd
    have hne : d.toNat ≠ 48 := by
      intro h
      have hzero : d = '0' := Char.toNat_inj.mp h
      exact hhead (congrArg some hzero)
    have hva := value_lt ha
    have hpow : 10 ^ a.length ≤ 10 ^ b.length :=
      Nat.pow_le_pow_right (by decide) (Nat.le_of_lt_succ hlength)
    have hmul : 1 * 10 ^ b.length ≤ (d.toNat - 48) * 10 ^ b.length :=
      Nat.mul_le_mul_right _ (by omega)
    rw [value_cons]
    omega

end Foundation.Numeral
