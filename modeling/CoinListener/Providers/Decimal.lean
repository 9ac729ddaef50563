import CoinListener.Core.Common

/-! Integers written in decimal, and amounts with a decimal point. -/
namespace CoinListener.Providers
open Foundation

/-- The number of decimal digits that may be separated by underscores. -/
def decimal_digits (text : List Char) : Except String Nat :=
  if text.isEmpty then .error "cannot parse integer from empty string"
  else if text.head? = some '_' then .error "invalid digit found in string"
  else if text.all fun c => c.isDigit || c == '_' then
    .ok (Nat.ofDigitChars 10 (text.filter Char.isDigit) 0)
  else .error "invalid digit found in string"

/-- `BigUint::from_str`: a plus sign may stand in front. -/
def big_uint_from_str (text : String) : Except String Nat :=
  match text.toList with
  | '+' :: tail => decimal_digits (if tail.head? = some '+' then '+' :: tail else tail)
  | digits => decimal_digits digits

/-- `BigInt::from_str`: a minus sign may stand in front. -/
def big_int_from_str (text : String) : Except String Int :=
  match text.toList with
  | '-' :: tail =>
    (decimal_digits (if tail.head? = some '+' then '-' :: tail else tail)).map fun n => -(n : Int)
  | _ => (big_uint_from_str text).map fun n => (n : Int)

theorem decimal_digits_toDigits (n : Nat) : decimal_digits (Nat.toDigits 10 n) = .ok n := by
  have hdigit : ∀ c ∈ Nat.toDigits 10 n, c.isDigit = true :=
    fun c hc => Nat.isDigit_of_mem_toDigits (by decide) (by decide) hc
  have hfilter : (Nat.toDigits 10 n).filter Char.isDigit = Nat.toDigits 10 n :=
    List.filter_eq_self.mpr hdigit
  have hall : (Nat.toDigits 10 n).all (fun c => c.isDigit || c == '_') = true := by
    simp only [List.all_eq_true]
    intro c hc
    simp [hdigit c hc]
  have hhead : (Nat.toDigits 10 n).head? ≠ some '_' := by
    intro h
    have hc := hdigit '_' (List.mem_of_mem_head? h)
    exact nomatch hc
  simp [decimal_digits, Nat.toDigits_ne_nil, hhead, hall, hfilter]

/-- A number that was written is read back. -/
theorem big_uint_from_str_toString (n : Nat) : big_uint_from_str (toString n) = .ok n := by
  have htext : (toString n).toList = Nat.toDigits 10 n := by simp
  unfold big_uint_from_str
  rw [htext]
  split
  · next tail h =>
    have hc := Nat.isDigit_of_mem_toDigits (c := '+') (b := 10) (n := n) (by decide) (by decide)
      (h ▸ List.mem_cons_self ..)
    exact nomatch hc
  · exact decimal_digits_toDigits n

/-- An integer that was written is read back. -/
theorem big_int_from_str_toString (i : Int) : big_int_from_str (toString i) = .ok i := by
  by_cases hi : 0 ≤ i
  · have htext : toString i = toString i.toNat := by
      simp [Int.repr_eq_if, hi]
    rw [htext]
    unfold big_int_from_str
    split
    · next tail h =>
      have hc := Nat.isDigit_of_mem_toDigits (c := '-') (b := 10) (n := i.toNat) (by decide)
        (by decide) (by
          have htoList : (toString i.toNat).toList = Nat.toDigits 10 i.toNat := by simp
          rw [← htoList, h]
          exact List.mem_cons_self ..)
      exact nomatch hc
    · rw [big_uint_from_str_toString]
      exact congrArg Except.ok (Int.toNat_of_nonneg hi)
  · have htext : (toString i).toList = '-' :: Nat.toDigits 10 (-i).toNat := by
      simp [Int.repr_eq_if, hi, Nat.repr_eq_ofList_toDigits]
    unfold big_int_from_str
    rw [htext]
    have hhead : (Nat.toDigits 10 (-i).toNat).head? ≠ some '+' := by
      intro h
      have hc := Nat.isDigit_of_mem_toDigits (by decide) (by decide) (List.mem_of_mem_head? h)
      exact nomatch hc
    simp only [hhead, if_false, decimal_digits_toDigits, Except.map]
    apply congrArg Except.ok
    omega

/-- Inserts the decimal point and drops trailing zeros; at least one digit stands on either side. -/
def insert_point (raw : List Char) (decimals : Nat) : List Char :=
  let padded := List.replicate (decimals + 1 - raw.length) '0' ++ raw
  let split_at := padded.length - decimals
  let fraction := ((padded.drop split_at).reverse.dropWhile (· == '0')).reverse
  padded.take split_at ++ '.' :: (if fraction.isEmpty then ['0'] else fraction)

/-- An amount in the smallest unit as a decimal string; `label` names it in the error. -/
def decimal_string (label : String) (raw : String) (decimals : Int) : AppResult String :=
  if decimals < 0 then .error (.Validation "asset decimals cannot be negative")
  else match big_uint_from_str raw with
    | .error error => .error (.Validation ("invalid decimal " ++ label ++ " " ++ raw ++ ": " ++ error))
    | .ok _ =>
      if decimals = 0 then .ok raw
      else .ok (String.ofList (insert_point raw.toList decimals.toNat))

end CoinListener.Providers
