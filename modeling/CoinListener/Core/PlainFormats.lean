import CoinListener.Core.Wire
import Mathlib.Tactic.IntervalCases

/-! One way to write identifiers and times that satisfies what is asked of the formats. -/
namespace CoinListener.PlainFormats
open Foundation

def hex_number (digits : List Char) : Nat :=
  digits.foldl (fun n c => n * 16 + (Json.Reader.hexValue c).getD 0) 0

def uuid_number (text : String) : Uuid :=
  hex_number (text.toList.filter (· != '-'))

theorem hex_digit (d : Nat) (h : d < 16) :
    Json.Reader.hexValue (Nat.digitChar d) = some d ∧ Nat.digitChar d ≠ '-' := by
  interval_cases d <;> decide

theorem hex_number_low (id : Nat) (n : Nat) :
    hex_number ((List.range n).map fun i => Nat.digitChar (id / 16 ^ (n - 1 - i) % 16)) =
      id % 16 ^ n := by
  induction n generalizing id with
  | zero => simp [hex_number, Nat.mod_one]
  | succ n ih =>
    have hlast : ∀ i ∈ List.range n, Nat.digitChar (id / 16 ^ (n + 1 - 1 - i) % 16) =
        Nat.digitChar (id / 16 / 16 ^ (n - 1 - i) % 16) := by
      intro i hi
      have hin := List.mem_range.mp hi
      rw [Nat.div_div_eq_div_mul, ← Nat.pow_succ', show n + 1 - 1 - i = (n - 1 - i) + 1 by omega]
    have hdigit := (hex_digit (id % 16) (Nat.mod_lt _ (by decide))).1
    have hrest := ih (id / 16)
    unfold hex_number at hrest ⊢
    rw [List.range_succ, List.map_append, List.foldl_append, List.map_congr_left hlast, hrest]
    simp only [List.map_cons, List.map_nil, List.foldl_cons, List.foldl_nil, Nat.add_sub_cancel,
      Nat.sub_self, Nat.pow_zero, Nat.div_one, hdigit, Option.getD_some]
    rw [Nat.pow_succ', Nat.mod_mul]
    omega

theorem uuid_number_back (id : Uuid) (h : id < 2 ^ 128) : uuid_number (Uuid.to_string id) = id := by
  have hdigits : ∀ c ∈ (List.range 32).map fun i => Nat.digitChar (id / 16 ^ (31 - i) % 16),
      c ≠ '-' := by
    intro c hc
    obtain ⟨i, _, rfl⟩ := List.mem_map.mp hc
    exact (hex_digit _ (Nat.mod_lt _ (by decide))).2
  have hnumber := hex_number_low id 32
  rw [Nat.mod_eq_of_lt (by omega)] at hnumber
  generalize hlist : ((List.range 32).map fun i => Nat.digitChar (id / 16 ^ (31 - i) % 16)) = digits
    at hdigits hnumber
  have hkept : ∀ part : List Char, (∀ c ∈ part, c ∈ digits) →
      part.filter (· != '-') = part := by
    intro part hpart
    exact List.filter_eq_self.mpr fun c hc => by simpa using hdigits c (hpart c hc)
  have htake : ∀ n, ∀ c ∈ digits.take n, c ∈ digits := fun n c hc => List.mem_of_mem_take hc
  have hdrop : ∀ n, ∀ c ∈ digits.drop n, c ∈ digits := fun n c hc => List.mem_of_mem_drop hc
  have hgroup : ∀ n k, ∀ c ∈ (digits.drop n).take k, c ∈ digits :=
    fun n k c hc => hdrop n c (List.mem_of_mem_take hc)
  have htext : (Uuid.to_string id).toList.filter (· != '-') = digits.take 8 ++
      ((digits.drop 8).take 4 ++ ((digits.drop 12).take 4 ++ ((digits.drop 16).take 4 ++
        digits.drop 20))) := by
    rw [Uuid.to_string, hlist, String.toList_ofList]
    simp only [List.append_assoc, List.cons_append, List.filter_append, List.filter_cons,
      hkept _ (htake 8), hkept _ (hgroup 8 4), hkept _ (hgroup 12 4), hkept _ (hgroup 16 4),
      hkept _ (hdrop 20)]
    rfl
  have hjoin : digits.take 8 ++ ((digits.drop 8).take 4 ++ ((digits.drop 12).take 4 ++
      ((digits.drop 16).take 4 ++ digits.drop 20))) = digits := by
    rw [← List.drop_drop (i := 4) (j := 16), List.take_append_drop,
      ← List.drop_drop (i := 4) (j := 12), List.take_append_drop,
      ← List.drop_drop (i := 4) (j := 8), List.take_append_drop, List.take_append_drop]
  rw [uuid_number, htext, hjoin, hnumber]

/-- The time 0 is written as its date, any other by that many zeros. -/
def date_time (t : Int) : String :=
  if t = 0 then "1970-01-01T00:00:00Z"
  else String.ofList ((if t < 0 then '-' else '+') :: List.replicate t.natAbs '0')

def parse_date_time (text : String) : Option Int :=
  match text.toList with
  | '+' :: zeros => some zeros.length
  | '-' :: zeros => some (-zeros.length)
  | _ => some 0

theorem date_time_back (t : Int) : parse_date_time (date_time t) = some t := by
  unfold date_time parse_date_time
  by_cases hzero : t = 0
  · subst hzero
    rfl
  · rw [if_neg hzero, String.toList_ofList]
    by_cases hneg : t < 0
    · have habs : -(t.natAbs : Int) = t := by omega
      simp only [if_pos hneg, List.length_replicate, habs]
    · have habs : (t.natAbs : Int) = t := by omega
      simp only [if_neg hneg, List.length_replicate, habs]

def formats : WireFormats where
  date_time := date_time
  parse_date_time := parse_date_time
  parse_uuid text := some (uuid_number text)
  limits := .free
  date_time_back := date_time_back
  uuid_back id h := congrArg some (uuid_number_back id h)
  nests := ⟨rfl, rfl⟩
  numbers _ _ := rfl

end CoinListener.PlainFormats
