import CoinListener.Foundation.Numeral
import CoinListener.Notifier.Rules

/-! The minimum amount of a rule: numerals are compared as the numbers they stand for. -/
namespace CoinListener.Notifier
open Foundation Numeral

/-! ### Requests -/

/-- What is checked of a `CreateNotificationRuleRequest`. -/
structure CreateNotificationRuleRequest where
  name : String
  min_amount_raw : Option String
  direction : Option String
  channel_ids : Option (List Uuid)
deriving DecidableEq

def validate_min_amount_raw (min_amount_raw : Option String) : AppResult Unit :=
  match min_amount_raw with
  | none => .ok ()
  | some min_amount_raw => ensure (Text.allDigits min_amount_raw.toList)
    (.Validation "min_amount_raw must be a non-negative integer string")

def validate_notification_rule_request (request : CreateNotificationRuleRequest) :
    AppResult Unit := do
  ensure (Text.trim request.name != "") (.Validation "rule name is required")
  validate_min_amount_raw request.min_amount_raw
  ensure (request.direction.all fun direction =>
      direction == "in" || direction == "out" || direction == "self" || direction == "unknown")
    (.Validation "direction must be in, out, self, or unknown")
  ensure (request.channel_ids.all fun channel_ids =>
      channel_ids.dedup.length == channel_ids.length)
    (.Validation "channel_ids must be unique")

/-! ### Numerals -/

/-- One or more decimal digits. -/
def IsNumeral (text : String) : Prop :=
  text ≠ "" ∧ Digits text.toList

/-- The number the text stands for. -/
def amount (text : String) : Nat :=
  value text.toList

theorem isNumeral_iff {text : String} : Text.allDigits text.toList = true ↔ IsNumeral text := by
  simp [Text.allDigits, IsNumeral, Digits]

/-- What is compared: the digits without the zeros in front, and a zero where none are left. -/
structure Normalizes (text : String) (normalized : List Char) : Prop where
  numeral : IsNumeral text
  digits : Digits normalized
  denotes : value normalized = amount text
  not_empty : normalized ≠ []
  no_zeros : normalized.head? = some '0' → normalized = ['0']

section
variable {text small large : String} {normalized a b : List Char}

theorem normalize_some (h : normalize_non_negative_integer text = some normalized) :
    Normalizes text normalized := by
  unfold normalize_non_negative_integer at h
  by_cases hall : text.toList.isEmpty || !text.toList.all Char.isDigit
  · rw [if_pos hall] at h
    exact nomatch h
  · rw [if_neg hall] at h
    have hnumeral : IsNumeral text := by
      apply isNumeral_iff.mp
      simpa [Text.allDigits] using hall
    have hvalue := value_dropWhile text.toList
    have hdigits := digits_dropWhile hnumeral.2
    have hhead := head_dropWhile text.toList
    cases hdrop : text.toList.dropWhile (· == '0') with
    | nil =>
      rw [hdrop] at h hvalue
      obtain rfl := Option.some.inj h
      exact ⟨hnumeral, @digits_replicate 1, hvalue, List.cons_ne_nil _ _, fun _ => rfl⟩
    | cons c rest =>
      rw [hdrop] at h hvalue hdigits hhead
      obtain rfl := Option.some.inj h
      exact ⟨hnumeral, hdigits, hvalue, List.cons_ne_nil _ _, fun hzero => absurd hzero hhead⟩

theorem normalize_none (h : normalize_non_negative_integer text = none) : ¬ IsNumeral text := by
  intro hnumeral
  have hall := isNumeral_iff.mpr hnumeral
  unfold normalize_non_negative_integer at h
  rw [if_neg (by simpa [Text.allDigits] using hall)] at h
  split at h <;> exact nomatch h

/-- The longer of two such texts stands for the greater number. -/
theorem Normalizes.lt_of_length (ha : Normalizes small a) (hb : Normalizes large b)
    (hlength : a.length < b.length) : amount small < amount large := by
  have hhead : b.head? ≠ some '0' := by
    intro hzero
    rw [hb.no_zeros hzero, List.length_singleton, Nat.lt_one_iff] at hlength
    exact ha.not_empty (List.length_eq_zero_iff.mp hlength)
  rw [← ha.denotes, ← hb.denotes]
  exact value_lt_of_length_lt ha.digits hb.digits hhead hlength

theorem Normalizes.le_iff (ha : Normalizes small a) (hb : Normalizes large b)
    (hlength : a.length = b.length) : text_le a b = true ↔ amount small ≤ amount large := by
  rw [text_le_iff_value_le ha.digits hb.digits hlength, ha.denotes, hb.denotes]

end

/-! ### The filter -/

/-- An amount meets a minimum when both are numerals and the number is not smaller. -/
theorem meets_minimum_iff (amount_raw min_amount_raw : String) :
    amount_raw_meets_minimum (some amount_raw) (some min_amount_raw) = true ↔
      IsNumeral amount_raw ∧ IsNumeral min_amount_raw ∧
        amount min_amount_raw ≤ amount amount_raw := by
  simp only [amount_raw_meets_minimum]
  cases hamount : normalize_non_negative_integer amount_raw with
  | none => exact iff_of_false Bool.false_ne_true fun h => normalize_none hamount h.1
  | some a =>
    cases hminimum : normalize_non_negative_integer min_amount_raw with
    | none => exact iff_of_false Bool.false_ne_true fun h => normalize_none hminimum h.2.1
    | some b =>
      have ha := normalize_some hamount
      have hb := normalize_some hminimum
      simp only [ha.numeral, hb.numeral, true_and]
      rcases Nat.lt_trichotomy b.length a.length with hlonger | hequal | hshorter
      · have hlt := hb.lt_of_length ha hlonger
        rw [if_pos hlonger]
        exact iff_of_true rfl hlt.le
      · rw [if_neg (by omega), if_neg (by omega)]
        exact hb.le_iff ha hequal
      · have hlt := ha.lt_of_length hb hshorter
        rw [if_neg (by omega), if_pos hshorter]
        exact iff_of_false Bool.false_ne_true (Nat.not_le.mpr hlt)

/-- A rule that was accepted has a numeral as its minimum, or none. -/
theorem validated_minimum {request : CreateNotificationRuleRequest} {min_amount_raw : String}
    (h : validate_notification_rule_request request = .ok ())
    (hmin : request.min_amount_raw = some min_amount_raw) : IsNumeral min_amount_raw := by
  obtain ⟨_, _, h⟩ := bind_ok h
  obtain ⟨_, hminimum, _⟩ := bind_ok h
  rw [hmin] at hminimum
  exact isNumeral_iff.mp (ensure_ok.mp hminimum)

/-- The comparison of texts is the comparison of numbers, and under a minimum that was accepted a
greater amount passes wherever a smaller one does. -/
theorem minimum_amount_filter :
    (∀ amount_raw min_amount_raw : String,
      amount_raw_meets_minimum (some amount_raw) (some min_amount_raw) = true ↔
        IsNumeral amount_raw ∧ IsNumeral min_amount_raw ∧
          amount min_amount_raw ≤ amount amount_raw) ∧
    ∀ request : CreateNotificationRuleRequest,
      validate_notification_rule_request request = .ok () →
      (∀ min_amount_raw, request.min_amount_raw = some min_amount_raw → ∀ amount_raw : String,
        amount_raw_meets_minimum (some amount_raw) request.min_amount_raw = true ↔
          IsNumeral amount_raw ∧ amount min_amount_raw ≤ amount amount_raw) ∧
      ∀ smaller greater : String, IsNumeral smaller → IsNumeral greater →
        amount smaller ≤ amount greater →
        amount_raw_meets_minimum (some smaller) request.min_amount_raw = true →
          amount_raw_meets_minimum (some greater) request.min_amount_raw = true := by
  refine ⟨meets_minimum_iff, fun request hvalid => ⟨?_, ?_⟩⟩
  · intro min_amount_raw hmin amount_raw
    have hnumeral := validated_minimum hvalid hmin
    rw [hmin, meets_minimum_iff]
    simp only [hnumeral, true_and]
  · intro smaller greater _ hgreater hle hmeets
    cases hmin : request.min_amount_raw with
    | none => rfl
    | some min_amount_raw =>
      rw [hmin, meets_minimum_iff] at hmeets
      obtain ⟨_, hminimum, hmin_le⟩ := hmeets
      exact (meets_minimum_iff greater min_amount_raw).mpr ⟨hgreater, hminimum, hmin_le.trans hle⟩

end CoinListener.Notifier
