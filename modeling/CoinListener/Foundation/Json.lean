import Mathlib.Data.List.Basic
import Mathlib.Data.Int.Order.Basic

/-! JSON values and a parser that reads its text one character at a time.

The parser is a pushdown automaton: containers still open are on a stack, and the text is accepted
when the stack is empty again and only whitespace follows. -/
namespace Foundation

/-- A JSON value. A number keeps the numeral it was written with. -/
inductive Json where
  | null
  | bool (b : Bool)
  | num (numeral : String)
  | str (s : String)
  | arr (items : List Json)
  | obj (fields : List (String × Json))

namespace Json

/-- The member `key` of an object; where the key is repeated, the last one counts. -/
def get : Json → String → Option Json
  | .obj fields, key => (fields.reverse.find? (·.1 == key)).map (·.2)
  | _, _ => none

def as_bool : Json → Option Bool
  | .bool b => some b
  | _ => none

def as_str : Json → Option String
  | .str s => some s
  | _ => none

/-- The value of a numeral that is an integer: an optional sign and digits only. -/
def integer? (numeral : List Char) : Option Int :=
  match numeral with
  | '-' :: digits => if digits.all Char.isDigit then some (-(Nat.ofDigitChars 10 digits 0)) else none
  | digits => if digits.all Char.isDigit then some (Nat.ofDigitChars 10 digits 0) else none

/-- The value of a number that fits a signed 64-bit integer. The numeral `-0` is a negative zero,
which only a floating point number holds. -/
def as_i64 : Json → Option Int
  | .num numeral =>
    match integer? numeral.toList with
    | some i =>
      if i < -9223372036854775808 ∨ 9223372036854775807 < i then none
      else if i = 0 ∧ numeral.toList.head? = some '-' then none
      else some i
    | none => none
  | _ => none

/-- The value of a number that fits an unsigned 64-bit integer. -/
def as_u64 : Json → Option Nat
  | .num numeral =>
    let digits := numeral.toList
    if digits.all Char.isDigit && Nat.ofDigitChars 10 digits 0 ≤ 18446744073709551615 then
      some (Nat.ofDigitChars 10 digits 0)
    else none
  | _ => none

/-! ### Reading -/

def isSpace (c : Char) : Bool :=
  c == ' ' || c == '\n' || c == '\t' || c == '\r'

/-- A container whose closing bracket has not been read; its items are in reverse order. -/
inductive Frame where
  | arr (items : List Json)
  | obj (fields : List (String × Json)) (key : String)

/-- How far an escape inside a string has been read. A high surrogate waits for its partner. -/
inductive Escape where
  | none
  | slash
  | hex (left value : Nat) (high : Option Nat)
  | slash2 (high : Nat)
  | u2 (high : Nat)

/-- How far a numeral has been read. -/
inductive Numeral where
  | minus | zero | int | dot | frac | exp | expSign | expDigits

/-- The three words of the grammar. -/
inductive Word where
  | true | false | null

def Word.letters : Word → List Char
  | .true => ['t', 'r', 'u', 'e']
  | .false => ['f', 'a', 'l', 's', 'e']
  | .null => ['n', 'u', 'l', 'l']

def Word.value : Word → Json
  | .true => .bool Bool.true
  | .false => .bool Bool.false
  | .null => .null

/-- What the next character is read as. -/
inductive Mode where
  | value
  | first
  | firstKey (fields : List (String × Json))
  | key (fields : List (String × Json))
  | colon (fields : List (String × Json)) (key : String)
  | after
  | string (keyOf : Option (List (String × Json))) (text : List Char) (escape : Escape)
  | number (read : List Char) (numeral : Numeral)
  | literal (read : Nat) (word : Word)
  | finished (v : Json)
  | failed

structure Reader where
  stack : List Frame
  mode : Mode

/-- What a reader refuses besides the grammar: a container inside too many others, and a numeral
it cannot hold. -/
structure Limits where
  nests : Nat → Bool
  holds : List Char → Bool

/-- The grammar alone. -/
def Limits.free : Limits := ⟨fun _ => true, fun _ => true⟩

namespace Reader

def start : Reader := ⟨[], .value⟩

def fail : Reader := ⟨[], .failed⟩

/-- A value is complete: it is the whole text, or the next item of the innermost container. -/
def emit (stack : List Frame) (v : Json) : Reader :=
  match stack with
  | [] => ⟨[], .finished v⟩
  | .arr items :: below => ⟨.arr (v :: items) :: below, .after⟩
  | .obj fields key :: below => ⟨.obj ((key, v) :: fields) "" :: below, .after⟩

/-- A string is complete: it is a key or a value. -/
def endString (stack : List Frame) (keyOf : Option (List (String × Json))) (text : List Char) :
    Reader :=
  match keyOf with
  | some fields => ⟨stack, .colon fields (String.ofList text.reverse)⟩
  | none => emit stack (.str (String.ofList text.reverse))

/-- The first character of a value. -/
def openValue (limits : Limits) (stack : List Frame) (c : Char) : Reader :=
  match c with
  | '{' => if limits.nests stack.length then ⟨stack, .firstKey []⟩ else fail
  | '[' => if limits.nests stack.length then ⟨.arr [] :: stack, .first⟩ else fail
  | '"' => ⟨stack, .string none [] .none⟩
  | 't' => ⟨stack, .literal 1 .true⟩
  | 'f' => ⟨stack, .literal 1 .false⟩
  | 'n' => ⟨stack, .literal 1 .null⟩
  | '-' => ⟨stack, .number ['-'] .minus⟩
  | '0' => ⟨stack, .number ['0'] .zero⟩
  | c => if c.isDigit then ⟨stack, .number [c] .int⟩ else fail

/-- A character after a complete item of the innermost container. -/
def afterItem (stack : List Frame) (c : Char) : Reader :=
  match stack, c with
  | .arr items :: below, ',' => ⟨.arr items :: below, .value⟩
  | .arr items :: below, ']' => emit below (.arr items.reverse)
  | .obj fields _ :: below, ',' => ⟨below, .key fields⟩
  | .obj fields _ :: below, '}' => emit below (.obj fields.reverse)
  | _, _ => fail

def hexValue (c : Char) : Option Nat :=
  if c.isDigit then some (c.toNat - 48)
  else if 'a' ≤ c ∧ c ≤ 'f' then some (c.toNat - 87)
  else if 'A' ≤ c ∧ c ≤ 'F' then some (c.toNat - 55)
  else none

/-- The character a one-letter escape stands for. -/
def simpleEscape : Char → Option Char
  | '"' => some '"'
  | '\\' => some '\\'
  | '/' => some '/'
  | 'b' => some '\x08'
  | 'f' => some '\x0c'
  | 'n' => some '\n'
  | 'r' => some '\r'
  | 't' => some '\t'
  | _ => none

/-- Four hexadecimal digits are complete: a character, half of a surrogate pair, or an error. -/
def endHex (stack : List Frame) (keyOf : Option (List (String × Json))) (text : List Char)
    (value : Nat) (high : Option Nat) : Reader :=
  match high with
  | some h =>
    if 0xDC00 ≤ value ∧ value ≤ 0xDFFF then
      ⟨stack, .string keyOf
        (Char.ofNat (0x10000 + (h - 0xD800) * 0x400 + (value - 0xDC00)) :: text) .none⟩
    else fail
  | none =>
    if 0xD800 ≤ value ∧ value ≤ 0xDBFF then ⟨stack, .string keyOf text (.slash2 value)⟩
    else if 0xDC00 ≤ value ∧ value ≤ 0xDFFF then fail
    else ⟨stack, .string keyOf (Char.ofNat value :: text) .none⟩

/-- A character inside a string. -/
def inString (stack : List Frame) (keyOf : Option (List (String × Json))) (text : List Char)
    (escape : Escape) (c : Char) : Reader :=
  match escape with
  | .none =>
    if c = '"' then endString stack keyOf text
    else if c = '\\' then ⟨stack, .string keyOf text .slash⟩
    else if c.toNat < 0x20 then fail
    else ⟨stack, .string keyOf (c :: text) .none⟩
  | .slash =>
    if c = 'u' then ⟨stack, .string keyOf text (.hex 4 0 .none)⟩
    else match simpleEscape c with
      | some d => ⟨stack, .string keyOf (d :: text) .none⟩
      | none => fail
  | .hex left value high =>
    match hexValue c with
    | some d =>
      if left ≤ 1 then endHex stack keyOf text (value * 16 + d) high
      else ⟨stack, .string keyOf text (.hex (left - 1) (value * 16 + d) high)⟩
    | none => fail
  | .slash2 h => if c = '\\' then ⟨stack, .string keyOf text (.u2 h)⟩ else fail
  | .u2 h => if c = 'u' then ⟨stack, .string keyOf text (.hex 4 0 (some h))⟩ else fail

/-- A character that continues a numeral. -/
def moreNumeral (numeral : Numeral) (c : Char) : Option Numeral :=
  match numeral with
  | .minus => if c = '0' then some .zero else if c.isDigit then some .int else none
  | .zero => if c = '.' then some .dot else if c = 'e' ∨ c = 'E' then some .exp else none
  | .int =>
    if c.isDigit then some .int
    else if c = '.' then some .dot else if c = 'e' ∨ c = 'E' then some .exp else none
  | .dot => if c.isDigit then some .frac else none
  | .frac => if c.isDigit then some .frac else if c = 'e' ∨ c = 'E' then some .exp else none
  | .exp =>
    if c = '+' ∨ c = '-' then some .expSign else if c.isDigit then some .expDigits else none
  | .expSign => if c.isDigit then some .expDigits else none
  | .expDigits => if c.isDigit then some .expDigits else none

/-- A numeral may stop here. A leading zero is followed by no further digit. -/
def complete : Numeral → Bool
  | .zero | .int | .frac | .expDigits => true
  | _ => false

variable (limits : Limits)

/-- The number a complete numeral stands for. -/
def numberValue (read : List Char) (numeral : Numeral) : Option Json :=
  if complete numeral && limits.holds read.reverse then some (.num (String.ofList read.reverse)) else none

/-- A character after a number, which it ends. -/
def endNumber (stack : List Frame) (read : List Char) (numeral : Numeral) (c : Char) : Reader :=
  match numberValue limits read numeral with
  | none => fail
  | some v =>
    if isSpace c then emit stack v
    else if stack.isEmpty then fail
    else afterItem (emit stack v).stack c

def step (r : Reader) (c : Char) : Reader :=
  match r.mode with
  | .value => if isSpace c then r else openValue limits r.stack c
  | .first =>
    if isSpace c then r
    else if c = ']' then emit r.stack.tail (.arr []) else openValue limits r.stack c
  | .firstKey fields =>
    if isSpace c then r
    else if c = '}' then emit r.stack (.obj [])
    else if c = '"' then ⟨r.stack, .string (some fields) [] .none⟩ else fail
  | .key fields =>
    if isSpace c then r
    else if c = '"' then ⟨r.stack, .string (some fields) [] .none⟩ else fail
  | .colon fields key =>
    if isSpace c then r
    else if c = ':' then ⟨.obj fields key :: r.stack, .value⟩ else fail
  | .after => if isSpace c then r else afterItem r.stack c
  | .string keyOf text escape => inString r.stack keyOf text escape c
  | .number read numeral =>
    match moreNumeral numeral c with
    | some n => ⟨r.stack, .number (c :: read) n⟩
    | none => endNumber limits r.stack read numeral c
  | .literal read word =>
    if word.letters[read]? ≠ some c then fail
    else if read + 1 = word.letters.length then emit r.stack word.value
    else ⟨r.stack, .literal (read + 1) word⟩
  | .finished _ => if isSpace c then r else fail
  | .failed => r

def finish (r : Reader) : Option Json :=
  match r.mode, r.stack with
  | .finished v, _ => some v
  | .number read numeral, [] => numberValue limits read numeral
  | _, _ => none

end Reader

/-- The value a text denotes, or none. -/
def parse (limits : Limits) (text : List Char) : Option Json :=
  (text.foldl (Reader.step limits) Reader.start).finish limits

/-! ### A text cut short -/

namespace Reader

variable {limits : Limits} {r : Reader} {c : Char} {v : Json}
  {fields : List (String × Json)} {text rest : List Char}

theorem emit_mode (stack : List Frame) (v : Json) :
    (emit stack v).mode = .after ∨ (emit stack v).mode = .finished v := by
  unfold emit
  split <;> simp

theorem fold_failed (h : r.mode = .failed) (text : List Char) :
    (text.foldl (step limits) r).mode = .failed := by
  induction text generalizing r with
  | nil => exact h
  | cons c text ih => exact ih (by simp [step, h])

theorem fold_finished_space (h : r.mode = .finished v) (hs : text.all isSpace) :
    (text.foldl (step limits) r).mode = .finished v := by
  induction text generalizing r with
  | nil => exact h
  | cons c text ih =>
    simp only [List.all_cons, Bool.and_eq_true] at hs
    exact ih (by simp [step, h, hs.1]) hs.2

/-- After a complete value only whitespace may follow. -/
theorem fold_finished_other (h : r.mode = .finished v) (hs : ¬ text.all isSpace) :
    (text.foldl (step limits) r).mode = .failed := by
  induction text generalizing r with
  | nil => simp at hs
  | cons c text ih =>
    by_cases hc : isSpace c = true
    · refine ih (by simp [step, h, hc]) ?_
      simpa [hc] using hs
    · exact fold_failed (by simp [step, h, hc, fail]) text

theorem numberValue_num {read : List Char} {numeral : Numeral}
    (h : numberValue limits read numeral = some v) : ∃ n, v = .num n := by
  unfold numberValue at h
  split at h
  · exact ⟨_, (Option.some.inj h).symm⟩
  · exact nomatch h

theorem space_moreNumeral (hc : isSpace c = true) (numeral : Numeral) :
    moreNumeral numeral c = none := by
  simp only [isSpace, Bool.or_eq_true, beq_iff_eq] at hc
  rcases hc with ((rfl | rfl) | rfl) | rfl <;> cases numeral <;> rfl

theorem space_inString (hc : isSpace c = true) (stack : List Frame)
    (keyOf : Option (List (String × Json))) (text : List Char) (escape : Escape) :
    (inString stack keyOf text escape c).mode ≠ .finished v := by
  simp only [isSpace, Bool.or_eq_true, beq_iff_eq] at hc
  rcases hc with ((rfl | rfl) | rfl) | rfl <;> cases escape <;>
    simp [inString, simpleEscape, hexValue, fail, Char.isDigit]

/-- Whitespace completes a number at most; an object is completed by its bracket. -/
theorem step_space_object (hc : isSpace c = true)
    (h : (step limits r c).mode = .finished (.obj fields)) : r.mode = .finished (.obj fields) := by
  unfold step at h
  split at h
  case h_7 => exact absurd h (space_inString hc _ _ _ _)
  case h_8 read numeral hm =>
    simp only [space_moreNumeral hc, endNumber, hc, if_true] at h
    split at h
    · simp [fail] at h
    · next v hv =>
      obtain ⟨n, rfl⟩ := numberValue_num hv
      rcases emit_mode r.stack (.num n) with he | he <;> simp [he] at h
  case h_9 read word hm =>
    split at h
    · simp [fail] at h
    · split at h
      · rcases emit_mode r.stack word.value with he | he <;> rw [he] at h
        · simp at h
        · cases word <;> simp [Word.value] at h
      · simp at h
  all_goals simp_all

theorem fold_space_object (hs : text.all isSpace)
    (h : (text.foldl (step limits) r).mode = .finished (.obj fields)) :
    r.mode = .finished (.obj fields) := by
  induction text generalizing r with
  | nil => exact h
  | cons c text ih =>
    simp only [List.all_cons, Bool.and_eq_true] at hs
    exact step_space_object hs.1 (ih hs.2 h)

/-- A number at the top level is the whole text: what follows never makes it an object. -/
def Scalar (r : Reader) : Prop :=
  (∃ read numeral, r.mode = .number read numeral ∧ r.stack = []) ∨
    (∃ n, r.mode = .finished (.num n)) ∨ r.mode = .failed

theorem scalar_step (h : Scalar r) (c : Char) : Scalar (step limits r c) := by
  rcases h with ⟨read, numeral, hm, hs⟩ | ⟨n, hm⟩ | hm
  · simp only [step, hm, hs]
    split
    · exact Or.inl ⟨_, _, rfl, rfl⟩
    · unfold endNumber
      split
      · exact Or.inr (Or.inr rfl)
      · next v hv =>
        obtain ⟨n, rfl⟩ := numberValue_num hv
        split
        · exact Or.inr (Or.inl ⟨n, rfl⟩)
        · exact Or.inr (Or.inr rfl)
  · simp only [step, hm]
    split
    · exact Or.inr (Or.inl ⟨n, hm⟩)
    · exact Or.inr (Or.inr rfl)
  · exact Or.inr (Or.inr (by simp [step, hm]))

theorem scalar_fold (h : Scalar r) (text : List Char) : Scalar (text.foldl (step limits) r) := by
  induction text generalizing r with
  | nil => exact h
  | cons c text ih => exact ih (scalar_step h c)

theorem scalar_not_object (h : Scalar r) : r.mode ≠ .finished (.obj fields) := by
  rcases h with ⟨_, _, hm, _⟩ | ⟨n, hm⟩ | hm <;> simp [hm]

theorem finish_some (h : r.finish limits = some v) : r.mode = .finished v ∨ Scalar r := by
  unfold finish at h
  split at h
  · next hm => exact Or.inl (by rw [hm, Option.some.inj h])
  · next hm hs => exact Or.inr (Or.inl ⟨_, _, hm, hs⟩)
  · exact nomatch h

theorem finish_object (h : r.finish limits = some (.obj fields)) :
    r.mode = .finished (.obj fields) := by
  unfold finish at h
  split at h
  · next hm => rw [hm, Option.some.inj h]
  · obtain ⟨n, hn⟩ := numberValue_num h
    exact nomatch hn
  · exact nomatch h

theorem finish_of_finished (h : r.mode = .finished v) : r.finish limits = some v := by
  simp [finish, h]

theorem wide_ne (hc : 128 ≤ c.toNat) (d : Char) (hd : d.toNat < 128) : c ≠ d := by
  rintro rfl
  omega

theorem wide_isSpace (hc : 128 ≤ c.toNat) : isSpace c = false := by
  simp [isSpace, wide_ne hc ' ' (by decide), wide_ne hc '\n' (by decide),
    wide_ne hc '\t' (by decide), wide_ne hc '\r' (by decide)]

theorem wide_isDigit (hc : 128 ≤ c.toNat) : c.isDigit = false := by
  by_contra h
  simp only [Char.isDigit, Bool.not_eq_false, Bool.and_eq_true, decide_eq_true_eq,
    UInt32.le_iff_toNat_le] at h
  have h57 : c.toNat ≤ 57 := h.2
  omega

theorem wide_hexValue (hc : 128 ≤ c.toNat) : hexValue c = none := by
  have hf : ¬ c ≤ 'f' := fun h => absurd (show c.toNat ≤ 102 from h) (by omega)
  have hF : ¬ c ≤ 'F' := fun h => absurd (show c.toNat ≤ 70 from h) (by omega)
  simp [hexValue, wide_isDigit hc, hf, hF]

theorem wide_moreNumeral (hc : 128 ≤ c.toNat) (numeral : Numeral) :
    moreNumeral numeral c = none := by
  cases numeral <;> simp [moreNumeral, wide_isDigit hc, wide_ne hc '0' (by decide),
    wide_ne hc '.' (by decide), wide_ne hc 'e' (by decide),
    wide_ne hc 'E' (by decide), wide_ne hc '+' (by decide),
    wide_ne hc '-' (by decide)]

theorem wide_letters (hc : 128 ≤ c.toNat) (word : Word) (read : Nat) :
    word.letters[read]? ≠ some c := by
  intro h
  have hmem := List.mem_of_getElem? h
  cases word <;> simp only [Word.letters, List.mem_cons, List.not_mem_nil, or_false] at hmem <;>
    rcases hmem with rfl | rfl | rfl | rfl | rfl <;> exact absurd hc (by decide)

theorem wide_openValue (hc : 128 ≤ c.toNat) (stack : List Frame) : openValue limits stack c = fail := by
  unfold openValue
  split
  case h_9 => simp [wide_isDigit hc]
  all_goals exact absurd hc (by decide)

theorem wide_afterItem (hc : 128 ≤ c.toNat) (stack : List Frame) : afterItem stack c = fail := by
  unfold afterItem
  split
  case h_5 => rfl
  all_goals exact absurd hc (by decide)

/-- A character outside ASCII stands only inside a string. -/
theorem step_wide (hc : 128 ≤ c.toNat) (h : (step limits r c).mode ≠ .failed) :
    ∃ keyOf text, r.mode = .string keyOf text .none := by
  unfold step at h
  split at h
  case h_7 keyOf text escape hm =>
    cases escape with
    | none => exact ⟨keyOf, text, hm⟩
    | slash =>
      have hs : simpleEscape c = none := by
        unfold simpleEscape
        split <;> first | rfl | exact absurd hc (by decide)
      simp [inString, hs, wide_ne hc 'u' (by decide), fail] at h
    | hex left value high => simp [inString, wide_hexValue hc, fail] at h
    | slash2 high => simp [inString, wide_ne hc '\\' (by decide), fail] at h
    | u2 high => simp [inString, wide_ne hc 'u' (by decide), fail] at h
  case h_8 read numeral hm =>
    simp only [wide_moreNumeral hc, endNumber, wide_isSpace hc, wide_afterItem hc] at h
    split at h
    · simp [fail] at h
    · split at h <;> simp_all [fail]
  case h_9 read word hm =>
    rw [if_pos (wide_letters hc word read)] at h
    simp [fail] at h
  all_goals simp_all [wide_isSpace hc, wide_openValue hc, wide_afterItem hc, fail,
    wide_ne hc ']' (by decide), wide_ne hc '}' (by decide),
    wide_ne hc '"' (by decide), wide_ne hc ':' (by decide)]

theorem numberValue_free {read : List Char} {numeral : Numeral}
    (h : numberValue limits read numeral = some v) : numberValue .free read numeral = some v := by
  unfold numberValue at h ⊢
  split at h
  · next hn =>
    rw [if_pos (by simp_all [Limits.free])]
    exact h
  · exact nomatch h

theorem openValue_free (stack : List Frame) (h : (openValue limits stack c).mode ≠ .failed) :
    openValue .free stack c = openValue limits stack c := by
  unfold openValue at h ⊢
  split <;> simp_all [Limits.free, fail] <;> split at h <;> simp_all

/-- A step that the limits let pass is the step of the grammar. -/
theorem step_free (h : (step limits r c).mode ≠ .failed) :
    step .free r c = step limits r c := by
  obtain ⟨stack, mode⟩ := r
  cases mode with
  | value =>
    simp only [step] at h ⊢
    split
    · rfl
    · exact openValue_free _ (by simp_all)
  | first =>
    simp only [step] at h ⊢
    split
    · rfl
    · split
      · rfl
      · exact openValue_free _ (by simp_all)
  | number read numeral =>
    simp only [step] at h ⊢
    split
    · rfl
    · simp only [endNumber, *] at h ⊢
      split at h
      · exact absurd rfl h
      · next v hv => rw [numberValue_free hv]
  | _ => rfl

theorem finish_free (h : r.finish limits = some v) : r.finish .free = some v := by
  unfold finish at h ⊢
  split at h
  · exact h
  · exact numberValue_free h
  · exact nomatch h

end Reader

/-- A text read within limits is read the same without them. -/
theorem parse_free {limits : Limits} {text : List Char} {v : Json}
    (h : parse limits text = some v) : parse .free text = some v := by
  have hfold : ∀ (text : List Char) (r : Reader),
      (text.foldl (Reader.step limits) r).mode ≠ .failed →
      text.foldl (Reader.step .free) r = text.foldl (Reader.step limits) r := by
    intro text
    induction text with
    | nil => intro r _; rfl
    | cons c text ih =>
      intro r hr
      have hc : (Reader.step limits r c).mode ≠ .failed := fun hf => hr (Reader.fold_failed hf text)
      simp only [List.foldl_cons, Reader.step_free hc]
      exact ih _ hr
  unfold parse at h ⊢
  rw [hfold]
  · exact Reader.finish_free h
  · intro hf
    simp [Reader.finish, hf] at h

/-- The beginning of an object's text is no JSON text unless only whitespace was cut off. -/
theorem parse_prefix {limits : Limits} {text rest : List Char}
    {fields : List (String × Json)} (h : parse limits (text ++ rest) = some (.obj fields)) :
    parse limits text = if rest.all isSpace then some (.obj fields) else none := by
  have hm := Reader.finish_object h
  rw [List.foldl_append] at hm
  split
  · next hs => exact Reader.finish_of_finished (Reader.fold_space_object hs hm)
  · next hs =>
    by_contra hne
    obtain ⟨v, hv⟩ := Option.ne_none_iff_exists'.mp hne
    obtain hf | hn := Reader.finish_some hv
    · simp [Reader.fold_finished_other hf hs] at hm
    · exact Reader.scalar_not_object (Reader.scalar_fold hn rest) hm

theorem parse_extend {limits : Limits} {text rest : List Char} {fields : List (String × Json)}
    (h : parse limits text = some (.obj fields)) (hs : rest.all isSpace) :
    parse limits (text ++ rest) = some (.obj fields) := by
  have hm : (rest.foldl (Reader.step limits) _).mode = .finished (.obj fields) :=
    Reader.fold_finished_space (Reader.finish_object h) hs
  rw [← List.foldl_append] at hm
  exact Reader.finish_of_finished hm

theorem get_object {v : Json} {key : String} (h : (v.get key).isSome) :
    ∃ fields, v = .obj fields := by
  cases v with
  | obj fields => exact ⟨fields, rfl⟩
  | _ => exact nomatch h

/-- A text cut inside a character and closed with the replacement character is no JSON text. -/
theorem parse_cut {limits : Limits} {text rest : List Char} {c d : Char}
    {v : Json} (h : parse limits (text ++ c :: rest) = some v)
    (hc : 128 ≤ c.toNat) (hd : 128 ≤ d.toNat) : parse limits (text ++ [d]) = none := by
  simp only [parse, List.foldl_append, List.foldl_cons, List.foldl_nil] at h ⊢
  set r := text.foldl (Reader.step limits) Reader.start
  have hstep : (Reader.step limits r c).mode ≠ .failed := by
    intro hf
    have hfail : (rest.foldl (Reader.step limits) _).mode = .failed := Reader.fold_failed hf rest
    simp [Reader.finish, hfail] at h
  obtain ⟨keyOf, read, hm⟩ := Reader.step_wide hc hstep
  have hq : d ≠ '"' := Reader.wide_ne hd _ (by decide)
  have hb : d ≠ '\\' := Reader.wide_ne hd _ (by decide)
  have h20 : ¬ d.toNat < 0x20 := by omega
  simp [Reader.step, hm, Reader.inString, hq, hb, h20, Reader.finish]

end Json

end Foundation
