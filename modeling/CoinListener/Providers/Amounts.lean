import CoinListener.Foundation.Numeral
import CoinListener.Providers.Btc
import CoinListener.Providers.Tron
import Mathlib.Algebra.Field.Rat
import Mathlib.Data.Nat.Cast.Order.Field
import Mathlib.Tactic.FieldSimp

/-! Amounts with a decimal point: what they denote, and that there is one way to write each. -/
namespace CoinListener.Providers
open Foundation Numeral

/-! ### Decimal texts -/

/-- The number a decimal text denotes. -/
def read_decimal (text : String) : Option ℚ :=
  let integer := text.toList.takeWhile (· != '.')
  match text.toList.dropWhile (· != '.') with
  | [] => if Text.allDigits integer then some (value integer) else none
  | _ :: fraction =>
    if Text.allDigits integer ∧ Text.allDigits fraction then
      some (value integer + value fraction / 10 ^ fraction.length)
    else none

/-- An integer without superfluous zeros in front. -/
structure CanonicalInteger (integer : List Char) : Prop where
  digits : Digits integer
  not_empty : integer ≠ []
  no_zeros : integer.head? = some '0' → integer = ['0']

/-- A fraction without superfluous zeros at the end. -/
structure CanonicalFraction (fraction : List Char) : Prop where
  digits : Digits fraction
  not_empty : fraction ≠ []
  no_zeros : fraction.getLast? = some '0' → fraction = ['0']

/-- The text is an integer, and a fraction follows it where the amount has decimals. -/
def Canonical (decimals : Nat) (text : String) : Prop :=
  ∃ integer, CanonicalInteger integer ∧
    if decimals = 0 then text.toList = integer
    else ∃ fraction, CanonicalFraction fraction ∧ text.toList = integer ++ '.' :: fraction

theorem allDigits_iff {text : List Char} :
    Text.allDigits text = true ↔ text ≠ [] ∧ Digits text := by
  simp [Text.allDigits, Digits]

theorem digits_not_point {text : List Char} (h : Digits text) : ∀ c ∈ text, (c != '.') = true := by
  intro c hc
  have hdigit := h c hc
  by_cases hpoint : c = '.'
  · subst hpoint
    exact nomatch hdigit
  · simpa using hpoint

section
variable {integer fraction : List Char}

theorem read_integer (h : CanonicalInteger integer) :
    read_decimal (String.ofList integer) = some (value integer : ℚ) := by
  have hpoint := digits_not_point h.digits
  have htake : integer.takeWhile (· != '.') = integer := List.takeWhile_eq_self_iff.mpr hpoint
  have hdrop : integer.dropWhile (· != '.') = [] := List.dropWhile_eq_nil_iff.mpr hpoint
  have hall : Text.allDigits integer = true := allDigits_iff.mpr ⟨h.not_empty, h.digits⟩
  simp [read_decimal, htake, hdrop, hall]

theorem read_point (h : CanonicalInteger integer) (hfraction : CanonicalFraction fraction) :
    read_decimal (String.ofList (integer ++ '.' :: fraction)) =
      some (value integer + value fraction / 10 ^ fraction.length : ℚ) := by
  have hpoint := digits_not_point h.digits
  have htake : (integer ++ '.' :: fraction).takeWhile (· != '.') = integer := by
    rw [List.takeWhile_append_of_pos hpoint, List.takeWhile_cons_of_neg (by decide),
      List.append_nil]
  have hdrop : (integer ++ '.' :: fraction).dropWhile (· != '.') = '.' :: fraction := by
    rw [List.dropWhile_append_of_pos hpoint, List.dropWhile_cons_of_neg (by decide)]
  have hall : Text.allDigits integer = true := allDigits_iff.mpr ⟨h.not_empty, h.digits⟩
  have hall' : Text.allDigits fraction = true :=
    allDigits_iff.mpr ⟨hfraction.not_empty, hfraction.digits⟩
  simp [read_decimal, htake, hdrop, hall, hall']

end

/-! ### The decimal point -/

section
variable {raw : List Char} {decimals : Nat}

/-- The numeral with zeros in front, so that a digit stands before the point. -/
def padded (raw : List Char) (decimals : Nat) : List Char :=
  List.replicate (decimals + 1 - raw.length) '0' ++ raw

/-- Where the point is put. -/
def point (raw : List Char) (decimals : Nat) : Nat :=
  (padded raw decimals).length - decimals

theorem padded_length : (padded raw decimals).length = point raw decimals + decimals := by
  simp only [point, padded, List.length_append, List.length_replicate]
  omega

theorem padded_digits (h : Digits raw) : Digits (padded raw decimals) :=
  digits_append.mpr ⟨digits_replicate, h⟩

/-- Only zero itself has a zero before the point. -/
theorem integer_canonical (h : CanonicalInteger raw) (hdecimals : 0 < decimals) :
    CanonicalInteger ((padded raw decimals).take (point raw decimals)) := by
  have hdigits : Digits ((padded raw decimals).take (point raw decimals)) :=
    fun c hc => padded_digits h.digits c (List.mem_of_mem_take hc)
  by_cases hlong : decimals < raw.length
  · have hpadded : padded raw decimals = raw := by
      have hnone : decimals + 1 - raw.length = 0 := by omega
      rw [padded, hnone, List.replicate_zero, List.nil_append]
    have hpoint : 0 < point raw decimals := by
      rw [point, hpadded]
      omega
    obtain ⟨places, hplaces⟩ := Nat.exists_eq_succ_of_ne_zero (Nat.pos_iff_ne_zero.mp hpoint)
    rw [hpadded, hplaces] at hdigits ⊢
    cases hraw : raw with
    | nil => exact absurd hraw h.not_empty
    | cons c rest =>
      refine ⟨hraw ▸ hdigits, List.cons_ne_nil _ _, fun hzero => ?_⟩
      have hone := h.no_zeros (by
        rw [hraw]
        exact hzero)
      rw [hone, List.length_singleton] at hlong
      omega
  · have hfirst : (padded raw decimals).take (point raw decimals) = ['0'] := by
      have hpoint : point raw decimals = 1 := by
        simp only [point, padded, List.length_append, List.length_replicate]
        omega
      have hzeros : decimals + 1 - raw.length = decimals - raw.length + 1 := by omega
      rw [hpoint, padded, hzeros, List.replicate_succ]
      rfl
    rw [hfirst] at hdigits ⊢
    exact ⟨hdigits, List.cons_ne_nil _ _, fun _ => rfl⟩

/-- What stands behind the point, without the zeros at its end. -/
def places (raw : List Char) (decimals : Nat) : List Char :=
  (((padded raw decimals).drop (point raw decimals)).reverse.dropWhile (· == '0')).reverse

theorem places_zeros : ∃ n, (padded raw decimals).drop (point raw decimals) =
    places raw decimals ++ List.replicate n '0' := by
  obtain ⟨n, hn⟩ := zeros_dropWhile ((padded raw decimals).drop (point raw decimals)).reverse
  refine ⟨n, ?_⟩
  have hreverse := congrArg List.reverse hn
  rwa [List.reverse_reverse, List.reverse_append, List.reverse_replicate] at hreverse

theorem fraction_canonical (h : Digits raw) : CanonicalFraction
    (if (places raw decimals).isEmpty then ['0'] else places raw decimals) := by
  by_cases hempty : places raw decimals = []
  · rw [hempty]
    exact ⟨by simp [Digits], List.cons_ne_nil _ _, fun _ => rfl⟩
  · rw [if_neg (by simpa using hempty)]
    refine ⟨fun c hc => ?_, hempty, fun hzero => ?_⟩
    · have hsuffix := (List.dropWhile_suffix _).subset (List.mem_reverse.mp hc)
      exact padded_digits h c (List.mem_of_mem_drop (List.mem_reverse.mp hsuffix))
    · rw [places, List.getLast?_reverse] at hzero
      exact absurd hzero (head_dropWhile _)

/-- Zeros at the end of a fraction do not count. -/
theorem fraction_value {digits : List Char} (n : Nat) :
    (value (digits ++ List.replicate n '0') / 10 ^ (digits.length + n) : ℚ) =
      value digits / 10 ^ digits.length := by
  rw [value_append_zeros, Nat.cast_mul, Nat.cast_pow, pow_add]
  field_simp
  norm_cast

/-- Inserting the point into the numeral of a number gives a canonical text, and the point divides
the number by the power of ten. -/
theorem insert_point_spec (h : CanonicalInteger raw) (hdecimals : 0 < decimals) :
    ∃ integer fraction, insert_point raw decimals = integer ++ '.' :: fraction ∧
      CanonicalInteger integer ∧ CanonicalFraction fraction ∧
      (value integer + value fraction / 10 ^ fraction.length : ℚ) = value raw / 10 ^ decimals := by
  refine ⟨(padded raw decimals).take (point raw decimals),
    if (places raw decimals).isEmpty then ['0'] else places raw decimals, rfl,
    integer_canonical h hdecimals, fraction_canonical h.digits, ?_⟩
  obtain ⟨n, hn⟩ := @places_zeros raw decimals
  have hlength : (places raw decimals).length + n = decimals := by
    have hdrop := congrArg List.length hn
    rw [List.length_drop, padded_length, List.length_append, List.length_replicate] at hdrop
    omega
  have hplaces := @fraction_value (places raw decimals) n
  rw [hlength, ← hn] at hplaces
  have hfraction : (value (if (places raw decimals).isEmpty then ['0'] else places raw decimals) /
      10 ^ (if (places raw decimals).isEmpty then ['0'] else places raw decimals).length : ℚ) =
        value ((padded raw decimals).drop (point raw decimals)) / 10 ^ decimals := by
    rw [hplaces]
    by_cases hempty : places raw decimals = []
    · have hzero : value ['0'] = 0 := rfl
      simp [hempty, hzero]
    · rw [if_neg (by simpa using hempty)]
  have hvalue : value raw = value ((padded raw decimals).take (point raw decimals)) * 10 ^ decimals +
      value ((padded raw decimals).drop (point raw decimals)) := by
    have hpadded : value (padded raw decimals) = value raw := value_zeros_append
    have hsplit := value_append (a := (padded raw decimals).take (point raw decimals))
      (b := (padded raw decimals).drop (point raw decimals))
    rw [List.take_append_drop, hpadded, List.length_drop, padded_length, Nat.add_sub_cancel_left]
      at hsplit
    exact hsplit
  rw [hfraction, hvalue, Nat.cast_add, Nat.cast_mul, Nat.cast_pow, add_div]
  congr 1
  field_simp
  norm_cast

end

/-! ### The three copies -/

/-- The amount of so many units with that many decimals. -/
def amount_text (n decimals : Nat) : String :=
  if decimals = 0 then toString n
  else String.ofList (insert_point (Nat.toDigits 10 n) decimals)

section
variable (n decimals : Nat)

theorem numeral_canonical : CanonicalInteger (Nat.toDigits 10 n) :=
  ⟨digits_toDigits, Nat.toDigits_ne_nil, head_toDigits⟩

theorem decimal_string_numeral (label : String) :
    decimal_string label (toString n) decimals = .ok (amount_text n decimals) := by
  have hnonneg : ¬ (decimals : Int) < 0 := by omega
  have htext : (toString n).toList = Nat.toDigits 10 n := by simp
  simp only [decimal_string, hnonneg, if_false, big_uint_from_str_toString, htext, amount_text,
    Int.toNat_natCast, Int.natCast_eq_zero]
  split <;> rfl

theorem btc_decimal_string_numeral :
    Btc.raw_to_decimal_string (toString n) decimals = .ok (amount_text n decimals) := by
  have hnonneg : ¬ (decimals : Int) < 0 := by omega
  have hpositive : ¬ (n : Int) < 0 := by omega
  have htext : (toString n).toList = Nat.toDigits 10 n := by simp
  have hint : toString (n : Int) = toString n := rfl
  have htrim : Text.trim (toString n) = toString n := by
    apply Text.trim_of_no_space
    intro c hc
    rw [htext] at hc
    exact Text.isWhitespace_digit (digits_toDigits c hc)
  have hread := big_int_from_str_toString (n : Int)
  rw [hint] at hread
  simp only [Btc.raw_to_decimal_string, hnonneg, if_false, htrim, hread, hpositive, hint, htext,
    amount_text, Int.toNat_natCast, Int.natCast_eq_zero]
  split <;> rfl

theorem amount_text_spec : Canonical decimals (amount_text n decimals) ∧
    read_decimal (amount_text n decimals) = some (n / 10 ^ decimals : ℚ) := by
  by_cases hdecimals : decimals = 0
  · have htext : amount_text n decimals = String.ofList (Nat.toDigits 10 n) := if_pos hdecimals
    have hread := read_integer (numeral_canonical n)
    rw [value_toDigits] at hread
    rw [htext, hread, hdecimals, pow_zero, div_one]
    refine ⟨⟨_, numeral_canonical n, ?_⟩, rfl⟩
    rw [if_pos rfl, String.toList_ofList]
  · obtain ⟨integer, fraction, hinsert, hinteger, hfraction, hvalue⟩ :=
      insert_point_spec (numeral_canonical n) (Nat.pos_of_ne_zero hdecimals)
    have htext : amount_text n decimals = String.ofList (integer ++ '.' :: fraction) := by
      rw [amount_text, if_neg hdecimals, hinsert]
    rw [value_toDigits] at hvalue
    rw [htext, read_point hinteger hfraction, hvalue]
    refine ⟨⟨integer, hinteger, ?_⟩, rfl⟩
    rw [if_neg hdecimals, String.toList_ofList]
    exact ⟨fraction, hfraction, rfl⟩

end

example : amount_text 1500 6 = "0.0015" := by decide +kernel

end CoinListener.Providers
