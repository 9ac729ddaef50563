import Mathlib.Algebra.Order.Ring.Int
import Mathlib.Data.List.DropRight

/-! Text operations on lists of characters, in the way the standard library of the source does them. -/
namespace Foundation.Text

/-- Unicode `White_Space`. -/
def isWhitespace (c : Char) : Bool :=
  let n := c.toNat
  (9 ≤ n && n ≤ 13) || n == 32 || n == 0x85 || n == 0xA0 || n == 0x1680 ||
    (0x2000 ≤ n && n ≤ 0x200A) || n == 0x2028 || n == 0x2029 || n == 0x202F || n == 0x205F ||
    n == 0x3000

def trimStart (text : List Char) : List Char :=
  text.dropWhile isWhitespace

def trimEnd (text : List Char) : List Char :=
  (text.reverse.dropWhile isWhitespace).reverse

def trim (text : String) : String :=
  String.ofList (trimEnd (trimStart text.toList))

/-- The text without any trailing `c`. -/
def trimEndMatches (c : Char) (text : String) : String :=
  String.ofList (text.toList.reverse.dropWhile (· == c)).reverse

def asciiLower (c : Char) : Char :=
  if 'A' ≤ c ∧ c ≤ 'Z' then Char.ofNat (c.toNat + 32) else c

def toAsciiLowercase (text : String) : String :=
  String.ofList (text.toList.map asciiLower)

theorem asciiLower_idem : asciiLower ∘ asciiLower = asciiLower := by
  funext c
  simp only [Function.comp_apply]
  by_cases h : 'A' ≤ c ∧ c ≤ 'Z'
  · have hletters : ∀ n : Fin 26, asciiLower (asciiLower (Char.ofNat (65 + n))) =
        asciiLower (Char.ofNat (65 + n)) := by decide
    have hlow : 65 ≤ c.toNat := h.1
    have hhigh : c.toNat ≤ 90 := h.2
    have hletter := hletters ⟨c.toNat - 65, by omega⟩
    have hnat : 65 + (c.toNat - 65) = c.toNat := by omega
    rw [hnat, Char.ofNat_toNat] at hletter
    exact hletter
  · have hsame : asciiLower c = c := if_neg h
    rw [hsame, hsame]

def asciiUpper (c : Char) : Char :=
  if 'a' ≤ c ∧ c ≤ 'z' then Char.ofNat (c.toNat - 32) else c

def toAsciiUppercase (text : String) : String :=
  String.ofList (text.toList.map asciiUpper)

/-- Equality up to the case of ASCII letters. -/
def eqIgnoreAsciiCase (a b : String) : Bool :=
  toAsciiLowercase a == toAsciiLowercase b

/-- The position of the first occurrence of `pattern`. -/
def find (pattern : List Char) : List Char → Option Nat
  | [] => if pattern.isEmpty then some 0 else none
  | c :: text =>
    if pattern.isPrefixOf (c :: text) then some 0 else (find pattern text).map (· + 1)

theorem find_kept {pattern text : List Char} {c : Char} (h : ¬ pattern <+: c :: text) :
    find pattern (c :: text) = (find pattern text).map (· + 1) := by
  rw [find, if_neg (by simpa using h)]

theorem find_nil {pattern : List Char} (h : pattern ≠ []) : find pattern [] = none :=
  if_neg (by simpa using h)

theorem find_hit {pattern text : List Char} (h : pattern ≠ []) :
    find pattern (pattern ++ text) = some 0 := by
  cases pattern with
  | nil => exact absurd rfl h
  | cons c rest => exact if_pos (by simp)

/-- A pattern whose first character has not come before is found. -/
theorem find_of_head {c : Char} {before : List Char} (h : c ∉ before) (pattern text : List Char) :
    find (c :: pattern) (before ++ (c :: pattern ++ text)) = some before.length := by
  induction before with
  | nil => exact find_hit (List.cons_ne_nil c pattern)
  | cons d before ih =>
    have hne : ¬ c :: pattern <+: d :: (before ++ (c :: pattern ++ text)) := fun hstarts =>
      h ((List.cons_prefix_cons.mp hstarts).1 ▸ List.mem_cons_self ..)
    rw [List.cons_append, find_kept hne, ih fun hmem => h (List.mem_cons_of_mem d hmem)]
    rfl

theorem takeWhile_until {c : Char} {a : List Char} (h : c ∉ a) (b : List Char) :
    (a ++ c :: b).takeWhile (· != c) = a := by
  have hall : ∀ d ∈ a, (d != c) = true := fun d hd => by
    simpa using fun heq : d = c => h (heq ▸ hd)
  rw [List.takeWhile_append_of_pos hall, List.takeWhile_cons_of_neg (by simp), List.append_nil]

theorem dropWhile_until {c : Char} {a : List Char} (h : c ∉ a) (b : List Char) :
    (a ++ c :: b).dropWhile (· != c) = c :: b := by
  have hall : ∀ d ∈ a, (d != c) = true := fun d hd => by
    simpa using fun heq : d = c => h (heq ▸ hd)
  rw [List.dropWhile_append_of_pos hall, List.dropWhile_cons_of_neg (by simp)]

theorem takeWhile_none {c : Char} {a : List Char} (h : c ∉ a) : a.takeWhile (· != c) = a :=
  List.takeWhile_eq_self_iff.mpr fun d hd => by simpa using fun heq : d = c => h (heq ▸ hd)

def stripPrefix (pattern text : String) : Option String :=
  if pattern.toList.isPrefixOf text.toList then
    some (String.ofList (text.toList.drop pattern.toList.length))
  else none

/-- The bytes of a character in UTF-8. -/
def width (c : Char) : Nat :=
  (String.utf8EncodeChar c).length

def byteLength (text : List Char) : Nat :=
  (text.map width).sum

/-- The longest prefix of whole characters that fits into so many bytes. -/
def takeBytes : Nat → List Char → List Char
  | _, [] => []
  | n, c :: text => if width c ≤ n then c :: takeBytes (n - width c) text else []

/-- Decimal digits only, at least one. -/
def allDigits (text : List Char) : Bool :=
  !text.isEmpty && text.all Char.isDigit

theorem takeBytes_length (n : Nat) (text : List Char) : byteLength (takeBytes n text) ≤ n := by
  induction text generalizing n with
  | nil => simp [takeBytes, byteLength]
  | cons c text ih =>
    unfold takeBytes
    split
    · next hw =>
      have htail := ih (n - width c)
      simp only [byteLength, List.map_cons, List.sum_cons] at htail ⊢
      omega
    · simp [byteLength]

theorem takeBytes_prefix (n : Nat) (text : List Char) : takeBytes n text <+: text := by
  induction text generalizing n with
  | nil => exact List.prefix_rfl
  | cons c text ih =>
    unfold takeBytes
    split
    · exact (List.prefix_cons_inj c).mpr (ih _)
    · exact List.nil_prefix

theorem dropWhile_none {p : Char → Bool} {text : List Char} (h : ∀ c ∈ text, p c = false) :
    text.dropWhile p = text := by
  cases text with
  | nil => rfl
  | cons c text => simp [h c (List.mem_cons_self ..)]

/-- A text without whitespace is its own trimmed text. -/
theorem trim_of_no_space {text : String} (h : ∀ c ∈ text.toList, isWhitespace c = false) :
    trim text = text := by
  have hend : (text.toList.reverse.dropWhile isWhitespace).reverse = text.toList := by
    rw [dropWhile_none fun c hc => h c (List.mem_reverse.mp hc), List.reverse_reverse]
  rw [trim, trimStart, dropWhile_none h, trimEnd, hend, String.ofList_toList]

theorem trim_trim (text : String) : trim (trim text) = trim text := by
  have hstart : trimStart (trimEnd (trimStart text.toList)) = trimEnd (trimStart text.toList) := by
    refine List.dropWhile_eq_self_iff.mpr fun hpos => ?_
    have hstarts : trimEnd (trimStart text.toList) <+: trimStart text.toList :=
      List.rdropWhile_prefix isWhitespace _
    have hlength := Nat.lt_of_lt_of_le hpos hstarts.length_le
    have hhead : ¬ isWhitespace (trimStart text.toList)[0] = true :=
      List.dropWhile_get_zero_not isWhitespace text.toList hlength
    rwa [hstarts.getElem hpos]
  have hend : trimEnd (trimEnd (trimStart text.toList)) = trimEnd (trimStart text.toList) :=
    List.rdropWhile_idempotent isWhitespace _
  rw [trim, trim, String.toList_ofList, hstart, hend]

/-- A text that does not begin with a space keeps its first letter. -/
theorem trim_head {text : String} {c : Char} {rest : List Char} (htext : text.toList = c :: rest)
    (hc : isWhitespace c = false) : ∃ rest', (trim text).toList = c :: rest' := by
  have hstart : trimStart text.toList = c :: rest := by
    rw [htext, trimStart, List.dropWhile_cons_of_neg (by simp [hc])]
  have hinitial : trimEnd (c :: rest) <+: c :: rest := List.rdropWhile_prefix isWhitespace _
  cases hend : trimEnd (c :: rest) with
  | nil =>
    have hall := List.rdropWhile_eq_nil_iff.mp hend c (List.mem_cons_self ..)
    exact absurd hall (by simp [hc])
  | cons d rest' =>
    rw [hend] at hinitial
    obtain rfl := (List.cons_prefix_cons.mp hinitial).1
    exact ⟨rest', by rw [trim, String.toList_ofList, hstart, hend]⟩

/-- Only what stands before the first character that is kept is trimmed at the start. -/
theorem trimStart_append {c : Char} (hc : isWhitespace c = false) (a b : List Char) :
    trimStart (a ++ c :: b) = trimStart a ++ c :: b := by
  induction a with
  | nil => exact List.dropWhile_cons_of_neg (by simp [hc])
  | cons d a ih =>
    unfold trimStart at ih ⊢
    rw [List.cons_append]
    by_cases hd : isWhitespace d = true
    · rw [List.dropWhile_cons_of_pos hd, List.dropWhile_cons_of_pos hd, ih]
    · rw [List.dropWhile_cons_of_neg hd, List.dropWhile_cons_of_neg hd, List.cons_append]

theorem trimEnd_append {c : Char} (hc : isWhitespace c = false) (a b : List Char) :
    trimEnd (a ++ c :: b) = a ++ c :: trimEnd b := by
  have hreverse : (a ++ c :: b).reverse = b.reverse ++ c :: a.reverse := by simp
  have hstart := trimStart_append hc b.reverse a.reverse
  unfold trimStart at hstart
  rw [trimEnd, hreverse, hstart]
  simp [trimEnd]

theorem not_space_of_bounds {c : Char} (hlo : 48 ≤ c.toNat) (hhi : c.toNat ≤ 127) :
    isWhitespace c = false := by
  simp only [isWhitespace, Bool.or_eq_false_iff, Bool.and_eq_false_iff, decide_eq_false_iff_not,
    beq_eq_false_iff_ne]
  omega

theorem isWhitespace_asciiLower (c : Char) : isWhitespace (asciiLower c) = isWhitespace c := by
  by_cases h : 'A' ≤ c ∧ c ≤ 'Z'
  · have hlow : 65 ≤ c.toNat := h.1
    have hhigh : c.toNat ≤ 90 := h.2
    have hletters : ∀ n : Fin 26, isWhitespace (asciiLower (Char.ofNat (65 + n))) = false := by decide
    have hletter := hletters ⟨c.toNat - 65, by omega⟩
    have hnat : 65 + (c.toNat - 65) = c.toNat := by omega
    rw [hnat, Char.ofNat_toNat] at hletter
    rw [hletter, not_space_of_bounds (by omega) (by omega)]
  · rw [asciiLower, if_neg h]

theorem trim_toAsciiLowercase (text : String) :
    trim (toAsciiLowercase text) = toAsciiLowercase (trim text) := by
  have hsame : isWhitespace ∘ asciiLower = isWhitespace := funext isWhitespace_asciiLower
  unfold trim trimEnd trimStart toAsciiLowercase
  rw [String.toList_ofList, String.toList_ofList, List.dropWhile_map, hsame, ← List.map_reverse,
    List.dropWhile_map, hsame, List.map_reverse]

theorem width_of_ascii {c : Char} (h : c.toNat ≤ 127) : width c = 1 := by
  simp [width, String.utf8EncodeChar, h]

/-- An ASCII text has a byte for each character. -/
theorem byteLength_of_ascii {text : List Char} (h : ∀ c ∈ text, c.toNat ≤ 127) :
    byteLength text = text.length := by
  induction text with
  | nil => rfl
  | cons c text ih =>
    have hhead := width_of_ascii (h c (List.mem_cons_self ..))
    have htail := ih fun d hd => h d (List.mem_cons_of_mem _ hd)
    unfold byteLength at htail ⊢
    rw [List.map_cons, List.sum_cons, hhead, htail, List.length_cons, Nat.add_comm]

theorem isWhitespace_digit {c : Char} (h : c.isDigit = true) : isWhitespace c = false := by
  simp only [Char.isDigit, Bool.and_eq_true, decide_eq_true_eq, ge_iff_le, UInt32.le_iff_toNat_le]
    at h
  obtain ⟨hlo, hhi⟩ := h
  change 48 ≤ c.toNat at hlo
  change c.toNat ≤ 57 at hhi
  exact not_space_of_bounds hlo (by omega)

end Foundation.Text
