import CoinListener.Foundation.Json
import CoinListener.Foundation.Numeral
import Mathlib.Tactic.IntervalCases

/-! The text of a JSON value, written without blanks, and what a reader makes of it. -/
namespace Foundation.Json

/-! ### Writing -/

/-- A character inside a string. -/
def escape (c : Char) : List Char :=
  if c = '"' then ['\\', '"']
  else if c = '\\' then ['\\', '\\']
  else if c = '\x08' then ['\\', 'b']
  else if c = '\x0c' then ['\\', 'f']
  else if c = '\n' then ['\\', 'n']
  else if c = '\r' then ['\\', 'r']
  else if c = '\t' then ['\\', 't']
  else if c.toNat < 0x20 then
    ['\\', 'u', '0', '0', Nat.digitChar (c.toNat / 16), Nat.digitChar (c.toNat % 16)]
  else [c]

def quoted (s : String) : List Char :=
  '"' :: (s.toList.flatMap escape ++ ['"'])

mutual

def text : Json → List Char
  | .null => ['n', 'u', 'l', 'l']
  | .bool true => ['t', 'r', 'u', 'e']
  | .bool false => ['f', 'a', 'l', 's', 'e']
  | .num numeral => numeral.toList
  | .str s => quoted s
  | .arr [] => ['[', ']']
  | .arr (v :: items) => '[' :: (text v ++ more_items items)
  | .obj [] => ['{', '}']
  | .obj ((key, v) :: fields) => '{' :: (quoted key ++ ':' :: (text v ++ more_fields fields))

/-- The items behind the first one. -/
def more_items : List Json → List Char
  | [] => [']']
  | v :: items => ',' :: (text v ++ more_items items)

def more_fields : List (String × Json) → List Char
  | [] => ['}']
  | (key, v) :: fields => ',' :: (quoted key ++ ':' :: (text v ++ more_fields fields))

end

/-! ### Values within limits -/

namespace Reader

def open_numeral (c : Char) : Option Numeral :=
  if c = '-' then some .minus
  else if c = '0' then some .zero
  else if c.isDigit then some .int
  else none

def numeral_of : List Char → Option Numeral
  | [] => none
  | c :: rest => (open_numeral c).bind fun start => rest.foldlM moreNumeral start

end Reader

mutual

/-- Every number is a numeral the reader holds, and no container is nested too deep. -/
def fits (limits : Limits) (depth : Nat) : Json → Bool
  | .num numeral =>
    (Reader.numeral_of numeral.toList).any Reader.complete && limits.holds numeral.toList
  | .arr items => limits.nests depth && fits_items limits (depth + 1) items
  | .obj fields => limits.nests depth && fits_fields limits (depth + 1) fields
  | _ => true

def fits_items (limits : Limits) (depth : Nat) : List Json → Bool
  | [] => true
  | v :: items => fits limits depth v && fits_items limits depth items

def fits_fields (limits : Limits) (depth : Nat) : List (String × Json) → Bool
  | [] => true
  | (_, v) :: fields => fits limits depth v && fits_fields limits depth fields

end

/-! ### Reading what was written -/

namespace Reader

variable {limits : Limits} {stack : List Frame} {v : Json} {r : Reader} {numeral : Numeral}
  {keyOf : Option (List (String × Json))} {read : List Char}

theorem fold_control (n : Nat) (hn : n < 0x20) :
    (escape (Char.ofNat n)).foldl (step limits) ⟨stack, .string keyOf read .none⟩ =
      ⟨stack, .string keyOf (Char.ofNat n :: read) .none⟩ := by
  interval_cases n <;> rfl

theorem fold_escape (c : Char) :
    (escape c).foldl (step limits) ⟨stack, .string keyOf read .none⟩ =
      ⟨stack, .string keyOf (c :: read) .none⟩ := by
  by_cases hcontrol : c.toNat < 0x20
  · rw [← Char.ofNat_toNat c]
    exact fold_control c.toNat hcontrol
  · by_cases hquote : c = '"'
    · subst hquote
      rfl
    · by_cases hslash : c = '\\'
      · subst hslash
        rfl
      · have hne : ∀ d : Char, d.toNat < 0x20 → c ≠ d := by
          rintro d hd rfl
          exact hcontrol hd
        have hplain : escape c = [c] := by
          simp [escape, hquote, hslash, hcontrol, hne '\x08' (by decide), hne '\x0c' (by decide),
            hne '\n' (by decide), hne '\r' (by decide), hne '\t' (by decide)]
        simp [hplain, step, inString, hquote, hslash, hcontrol]

theorem fold_escapes (s : List Char) :
    (s.flatMap escape).foldl (step limits) ⟨stack, .string keyOf read .none⟩ =
      ⟨stack, .string keyOf (s.reverse ++ read) .none⟩ := by
  induction s generalizing read with
  | nil => rfl
  | cons c s ih =>
    simp only [List.flatMap_cons, List.foldl_append, fold_escape, ih]
    simp

/-- A string that has been opened is read to its end. -/
theorem fold_string_end (s : String) :
    (s.toList.flatMap escape ++ ['"']).foldl (step limits) ⟨stack, .string keyOf [] .none⟩ =
      endString stack keyOf s.toList.reverse := by
  simp only [List.foldl_append, fold_escapes, List.append_nil]
  rfl

theorem fold_quoted (s : String) :
    (quoted s).foldl (step limits) ⟨stack, .value⟩ = emit stack (.str s) := by
  refine (fold_string_end s).trans ?_
  simp [endString]

theorem fold_key (fields : List (String × Json)) (key : String) :
    (quoted key).foldl (step limits) ⟨stack, .key fields⟩ = ⟨stack, .colon fields key⟩ := by
  refine (fold_string_end key).trans ?_
  simp [endString]

theorem fold_first_key (key : String) :
    (quoted key).foldl (step limits) ⟨stack, .firstKey []⟩ = ⟨stack, .colon [] key⟩ := by
  refine (fold_string_end key).trans ?_
  simp [endString]

/-! ### Numerals -/

theorem digit_not_space {c : Char} (h : c.isDigit = true) : isSpace c = false := by
  cases hc : isSpace c with
  | false => rfl
  | true =>
    simp only [isSpace, Bool.or_eq_true, beq_iff_eq] at hc
    rcases hc with ((rfl | rfl) | rfl) | rfl <;> exact absurd h (by decide)

theorem open_numeral_step {c : Char} (h : open_numeral c = some numeral) :
    step limits ⟨stack, .value⟩ c = ⟨stack, .number [c] numeral⟩ ∧ isSpace c = false ∧ c ≠ ']' := by
  unfold open_numeral at h
  split at h
  · rename_i hc
    subst hc
    obtain rfl := Option.some.inj h
    exact ⟨rfl, rfl, by decide⟩
  split at h
  · rename_i hc
    subst hc
    obtain rfl := Option.some.inj h
    exact ⟨rfl, rfl, by decide⟩
  split at h
  · rename_i hminus hzero hdigit
    obtain rfl := Option.some.inj h
    have hspace := digit_not_space hdigit
    have hopen : openValue limits stack c = ⟨stack, .number [c] .int⟩ := by
      unfold openValue
      split <;> simp_all
    refine ⟨by simp [step, hspace, hopen], hspace, ?_⟩
    rintro rfl
    exact absurd hdigit (by decide)
  · cases h

theorem fold_more_numeral {rest : List Char} {start last : Numeral}
    (h : rest.foldlM moreNumeral start = some last) :
    rest.foldl (step limits) ⟨stack, .number read start⟩ =
      ⟨stack, .number (rest.reverse ++ read) last⟩ := by
  induction rest generalizing read start with
  | nil =>
    obtain rfl := Option.some.inj h
    rfl
  | cons c rest ih =>
    obtain ⟨next, hnext, hlast⟩ := Option.bind_eq_some_iff.mp h
    simp only [List.foldl_cons, step, hnext]
    refine (ih hlast).trans ?_
    simp

theorem fold_numeral {digits : List Char} (h : numeral_of digits = some numeral) :
    digits.foldl (step limits) ⟨stack, .value⟩ = ⟨stack, .number digits.reverse numeral⟩ := by
  cases digits with
  | nil => exact nomatch h
  | cons c rest =>
    obtain ⟨start, hstart, hrest⟩ := Option.bind_eq_some_iff.mp h
    rw [List.foldl_cons, (open_numeral_step hstart).1, fold_more_numeral hrest]
    simp

/-! ### Values -/

/-- The reader has read the value, as far as what comes next is concerned. -/
structure Holds (limits : Limits) (stack : List Frame) (v : Json) (r : Reader) : Prop where
  next : stack ≠ [] → ∀ c ∈ [',', ']', '}'], step limits r c = afterItem (emit stack v).stack c
  finish : stack = [] → r.finish limits = some v

theorem Holds.emit : Holds limits stack v (Reader.emit stack v) := by
  constructor
  · intro hstack c hc
    have hspace : isSpace c = false := by
      simp only [List.mem_cons, List.not_mem_nil, or_false] at hc
      rcases hc with rfl | rfl | rfl <;> rfl
    cases stack with
    | nil => exact absurd rfl hstack
    | cons frame below => cases frame <;> simp [Reader.emit, step, hspace]
  · rintro rfl
    rfl

theorem Holds.number {digits : List Char} (hcomplete : complete numeral = true)
    (hholds : limits.holds digits = true) :
    Holds limits stack (.num (String.ofList digits)) ⟨stack, .number digits.reverse numeral⟩ := by
  have hvalue : numberValue limits digits.reverse numeral = some (.num (String.ofList digits)) := by
    simp [numberValue, hcomplete, hholds]
  constructor
  · intro hstack c hc
    have hend : isSpace c = false ∧ moreNumeral numeral c = none := by
      simp only [List.mem_cons, List.not_mem_nil, or_false] at hc
      rcases hc with rfl | rfl | rfl <;> cases numeral <;> exact ⟨rfl, rfl⟩
    simp [step, hend.2, endNumber, hvalue, hend.1, hstack]
  · rintro rfl
    simpa [Reader.finish] using hvalue

/-- The text of a value opens it also as the first item of an array. -/
theorem text_head {depth : Nat} (h : fits limits depth v = true) :
    ∃ c rest, text v = c :: rest ∧ isSpace c = false ∧ c ≠ ']' := by
  cases v with
  | null => exact ⟨_, _, rfl, rfl, by decide⟩
  | bool b => cases b <;> exact ⟨_, _, rfl, rfl, by decide⟩
  | num digits =>
    rw [fits, Bool.and_eq_true] at h
    obtain ⟨numeral, hnumeral, _⟩ := (Option.any_eq_true _ _).mp h.1
    cases hdigits : digits.toList with
    | nil =>
      rw [hdigits] at hnumeral
      exact nomatch hnumeral
    | cons c rest =>
      rw [hdigits] at hnumeral
      obtain ⟨start, hstart, _⟩ := Option.bind_eq_some_iff.mp hnumeral
      obtain ⟨_, hspace, hclose⟩ : step limits ⟨[], .value⟩ c = ⟨[], .number [c] start⟩ ∧
          isSpace c = false ∧ c ≠ ']' := open_numeral_step hstart
      exact ⟨c, rest, by rw [text, hdigits], hspace, hclose⟩
  | str s => exact ⟨_, _, by rw [text, quoted], rfl, by decide⟩
  | arr items => cases items <;> exact ⟨_, _, by rw [text], rfl, by decide⟩
  | obj fields => cases fields <;> exact ⟨_, _, by rw [text], rfl, by decide⟩

theorem fold_first {depth : Nat} (h : fits limits depth v = true) :
    (text v).foldl (step limits) ⟨.arr [] :: stack, .first⟩ =
      (text v).foldl (step limits) ⟨.arr [] :: stack, .value⟩ := by
  obtain ⟨c, rest, htext, hspace, hclose⟩ := text_head h
  simp [htext, step, hspace, hclose]

mutual

/-- What is written of a value is read as that value. -/
theorem fold_text : ∀ (v : Json) (stack : List Frame), fits limits stack.length v = true →
    Holds limits stack v ((text v).foldl (step limits) ⟨stack, .value⟩)
  | .null, _, _ => .emit
  | .bool true, _, _ => .emit
  | .bool false, _, _ => .emit
  | .num digits, stack, h => by
    rw [fits, Bool.and_eq_true] at h
    obtain ⟨numeral, hnumeral, hcomplete⟩ := (Option.any_eq_true _ _).mp h.1
    rw [text, fold_numeral hnumeral]
    have hnumber : Holds limits stack _ _ := Holds.number hcomplete h.2
    rwa [String.ofList_toList] at hnumber
  | .str s, stack, _ => by
    rw [text, fold_quoted]
    exact .emit
  | .arr [], stack, h => by
    have hnests : limits.nests stack.length = true := (Bool.and_eq_true _ _ ▸ h).1
    have hread : (text (.arr [])).foldl (step limits) ⟨stack, .value⟩ = Reader.emit stack (.arr []) := by
      simp [text, step, isSpace, openValue, hnests]
    rw [hread]
    exact .emit
  | .arr (v :: items), stack, h => by
    rw [fits, fits_items, Bool.and_eq_true, Bool.and_eq_true] at h
    obtain ⟨hnests, hv, hitems⟩ := h
    have hopen : step limits ⟨stack, .value⟩ '[' = ⟨.arr [] :: stack, .first⟩ := by
      simp [step, isSpace, openValue, hnests]
    have hfirst := fold_text v (.arr [] :: stack) hv
    have hrest := fold_items items [] v stack _ hitems hfirst
    rw [text, List.foldl_cons, hopen, List.foldl_append, fold_first hv, hrest]
    exact .emit
  | .obj [], stack, h => by
    have hnests : limits.nests stack.length = true := (Bool.and_eq_true _ _ ▸ h).1
    have hread : (text (.obj [])).foldl (step limits) ⟨stack, .value⟩ = Reader.emit stack (.obj []) := by
      simp [text, step, isSpace, openValue, hnests]
    rw [hread]
    exact .emit
  | .obj ((key, v) :: fields), stack, h => by
    rw [fits, fits_fields, Bool.and_eq_true, Bool.and_eq_true] at h
    obtain ⟨hnests, hv, hfields⟩ := h
    have hopen : step limits ⟨stack, .value⟩ '{' = ⟨stack, .firstKey []⟩ := by
      simp [step, isSpace, openValue, hnests]
    have hfirst := fold_text v (.obj [] key :: stack) hv
    have hrest := fold_fields fields [] key v stack _ hfields hfirst
    rw [text, List.foldl_cons, hopen, List.foldl_append, fold_first_key, List.foldl_cons,
      List.foldl_append]
    change Holds limits stack _ ((more_fields fields).foldl (step limits)
      ((text v).foldl (step limits) ⟨.obj [] key :: stack, .value⟩))
    rw [hrest]
    exact .emit

theorem fold_items : ∀ (items acc : List Json) (v : Json) (stack : List Frame) (r : Reader),
    fits_items limits (stack.length + 1) items = true → Holds limits (.arr acc :: stack) v r →
      (more_items items).foldl (step limits) r = emit stack (.arr (acc.reverse ++ v :: items))
  | [], acc, v, stack, r, _, hr => by
    have hclose := hr.next nofun ']' (by simp)
    rw [more_items, List.foldl_cons, hclose]
    simp [Reader.emit, afterItem]
  | w :: items, acc, v, stack, r, h, hr => by
    rw [fits_items, Bool.and_eq_true] at h
    have hcomma := hr.next nofun ',' (by simp)
    have hw := fold_text w (.arr (v :: acc) :: stack) h.1
    have hrest := fold_items items (v :: acc) w stack _ h.2 hw
    rw [more_items, List.foldl_cons, hcomma, List.foldl_append]
    change (more_items items).foldl (step limits)
      ((text w).foldl (step limits) ⟨.arr (v :: acc) :: stack, .value⟩) = _
    rw [hrest]
    simp

theorem fold_fields : ∀ (fields acc : List (String × Json)) (key : String) (v : Json)
    (stack : List Frame) (r : Reader), fits_fields limits (stack.length + 1) fields = true →
      Holds limits (.obj acc key :: stack) v r →
        (more_fields fields).foldl (step limits) r =
          emit stack (.obj (acc.reverse ++ (key, v) :: fields))
  | [], acc, key, v, stack, r, _, hr => by
    have hclose := hr.next nofun '}' (by simp)
    rw [more_fields, List.foldl_cons, hclose]
    simp [Reader.emit, afterItem]
  | (name, w) :: fields, acc, key, v, stack, r, h, hr => by
    rw [fits_fields, Bool.and_eq_true] at h
    have hcomma := hr.next nofun ',' (by simp)
    have hw := fold_text w (.obj ((key, v) :: acc) name :: stack) h.1
    have hrest := fold_fields fields ((key, v) :: acc) name w stack _ h.2 hw
    rw [more_fields, List.foldl_cons, hcomma, List.foldl_append]
    change (List.foldl (step limits) ((quoted name).foldl (step limits)
      ⟨stack, .key ((key, v) :: acc)⟩) (':' :: (text w ++ more_fields fields))) = _
    rw [fold_key, List.foldl_cons, List.foldl_append]
    change (more_fields fields).foldl (step limits)
      ((text w).foldl (step limits) ⟨.obj ((key, v) :: acc) name :: stack, .value⟩) = _
    rw [hrest]
    simp

end

end Reader

/-- Reading takes back writing. -/
theorem parse_text {limits : Limits} {v : Json} (h : fits limits 0 v = true) :
    parse limits (text v) = some v :=
  (Reader.fold_text v [] h).finish rfl

/-! ### Natural numbers -/

theorem more_digits {digits : List Char} (h : Numeral.Digits digits) :
    digits.foldlM Reader.moreNumeral .int = some .int := by
  induction digits with
  | nil => rfl
  | cons c digits ih =>
    obtain ⟨hc, hdigits⟩ := Numeral.digits_cons.mp h
    simp [List.foldlM_cons, Reader.moreNumeral, hc, ih hdigits]

theorem numeral_of_nat (n : Nat) :
    (Reader.numeral_of (Nat.toDigits 10 n)).any Reader.complete = true := by
  have hall := Numeral.digits_toDigits (n := n)
  cases hdigits : Nat.toDigits 10 n with
  | nil => exact absurd hdigits Nat.toDigits_ne_nil
  | cons c rest =>
    by_cases hzero : c = '0'
    · subst hzero
      have hsingle := Numeral.head_toDigits (n := n) (by rw [hdigits]; rfl)
      rw [hdigits] at hsingle
      rw [hsingle]
      rfl
    · rw [hdigits] at hall
      obtain ⟨hc, hrest⟩ := Numeral.digits_cons.mp hall
      have hminus : c ≠ '-' := by
        rintro rfl
        exact absurd hc (by decide)
      simp [Reader.numeral_of, Reader.open_numeral, hminus, hzero, hc, more_digits hrest,
        Reader.complete]

theorem fits_nat {limits : Limits} {n : Nat} (depth : Nat)
    (h : limits.holds (Nat.toDigits 10 n) = true) :
    fits limits depth (.num (toString n)) = true := by
  have htext : (toString n).toList = Nat.toDigits 10 n := by simp
  rw [fits, htext, numeral_of_nat, h]
  rfl

theorem as_u64_nat {n : Nat} (h : n < 2 ^ 64) : (Json.num (toString n)).as_u64 = some n := by
  have htext : (toString n).toList = Nat.toDigits 10 n := by simp
  have hall : (Nat.toDigits 10 n).all Char.isDigit = true :=
    List.all_eq_true.mpr Numeral.digits_toDigits
  simp only [as_u64, htext, hall, Nat.ofDigitChars_ten_toDigits, Bool.true_and]
  rw [if_pos (by rw [decide_eq_true_eq]; omega)]

/-- Two values that are written alike are the same. -/
theorem text_injective {v w : Json} (hv : fits .free 0 v = true) (hw : fits .free 0 w = true)
    (h : text v = text w) : v = w := by
  have hread := parse_text hv
  rw [h, parse_text hw] at hread
  exact (Option.some.inj hread).symm

end Foundation.Json
