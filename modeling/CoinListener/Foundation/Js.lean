import CoinListener.Foundation.Text

/-! Texts and numbers as the language of the frontend has them. -/
namespace Foundation.Js

/-! ### Texts -/

/-- White space and line ends. U+FEFF is one of them, U+0085 is not. -/
def isWhiteSpace (c : Char) : Bool :=
  let n := c.toNat
  (9 ≤ n && n ≤ 13) || n == 32 || n == 0xA0 || n == 0x1680 || (0x2000 ≤ n && n ≤ 0x200A) ||
    n == 0x2028 || n == 0x2029 || n == 0x202F || n == 0x205F || n == 0x3000 || n == 0xFEFF

def trim (text : List Char) : List Char :=
  (text.dropWhile isWhiteSpace).rdropWhile isWhiteSpace

/-- `text.split(separator)`. -/
def split (separator : Char) : List Char → List (List Char)
  | [] => [[]]
  | c :: text =>
    if c = separator then [] :: split separator text
    else match split separator text with
      | [] => [[c]]
      | piece :: pieces => (c :: piece) :: pieces

def drop_return (line : List Char) : List Char :=
  if line.getLast? = some '\r' then line.dropLast else line

/-- The return in front of a line end belongs to it. -/
def drop_returns : List (List Char) → List (List Char)
  | [] => []
  | [line] => [line]
  | line :: lines => drop_return line :: drop_returns lines

/-- `text.split(/\r?\n/)`. -/
def split_lines (text : List Char) : List (List Char) :=
  drop_returns (split '\n' text)

/-! ### Numbers -/

/-- A double: a mantissa times a power of two. -/
inductive Number where
  | nan
  | infinite
  | finite (negative : Bool) (mantissa : Nat) (unit : Int)
deriving DecidableEq

/-- The double nearest to a fraction; of two that are equally near, the even one. -/
def nearest (negative : Bool) (num den : Nat) : Number :=
  if num = 0 then .finite negative 0 0
  else
    let guess : Int := (Nat.log2 num : Int) - (Nat.log2 den : Int)
    let exponent :=
      if num * 2 ^ (-guess).toNat < den * 2 ^ guess.toNat then guess - 1 else guess
    let unit := (if exponent < -1022 then -1022 else exponent) - 52
    let scaled := num * 2 ^ (-unit).toNat
    let divisor := den * 2 ^ unit.toNat
    let quotient := scaled / divisor
    let rest := scaled % divisor
    let mantissa :=
      if 2 * rest < divisor then quotient
      else if divisor < 2 * rest then quotient + 1
      else quotient + quotient % 2
    if 2 ^ 1024 ≤ mantissa * 2 ^ unit.toNat then .infinite else .finite negative mantissa unit

def digit_value (c : Char) : Nat :=
  let n := c.toNat
  if 48 ≤ n ∧ n ≤ 57 then n - 48
  else if 97 ≤ n ∧ n ≤ 122 then n - 87
  else if 65 ≤ n ∧ n ≤ 90 then n - 55
  else 36

/-- The number that digits stand for, where there are any and no others. -/
def digits (base : Nat) (text : List Char) : Option Nat :=
  if text.isEmpty || text.any (base ≤ digit_value ·) then none
  else some (text.foldl (fun n c => n * base + digit_value c) 0)

def exponent_part : List Char → Option Int
  | [] => some 0
  | c :: text =>
    if c = 'e' ∨ c = 'E' then
      match text with
      | '+' :: text => (digits 10 text).map fun n => (n : Int)
      | '-' :: text => (digits 10 text).map fun n => -(n : Int)
      | text => (digits 10 text).map fun n => (n : Int)
    else none

def decimal (negative : Bool) (text : List Char) : Number :=
  if text = "Infinity".toList then .infinite
  else
    let whole := text.takeWhile Char.isDigit
    let rest := text.dropWhile Char.isDigit
    let fraction := match rest with
      | '.' :: rest => rest.takeWhile Char.isDigit
      | _ => []
    let rest := match rest with
      | '.' :: rest => rest.dropWhile Char.isDigit
      | rest => rest
    match digits 10 (whole ++ fraction), exponent_part rest with
    | some n, some exponent =>
      let exponent := exponent - (fraction.length : Int)
      nearest negative (n * 10 ^ exponent.toNat) (10 ^ (-exponent).toNat)
    | _, _ => .nan

def whole_number (base : Nat) (text : List Char) : Number :=
  match digits base text with
  | some n => nearest false n 1
  | none => .nan

/-- `Number(text)`. -/
def number (text : List Char) : Number :=
  match trim text with
  | [] => .finite false 0 0
  | '0' :: 'x' :: text => whole_number 16 text
  | '0' :: 'X' :: text => whole_number 16 text
  | '0' :: 'o' :: text => whole_number 8 text
  | '0' :: 'O' :: text => whole_number 8 text
  | '0' :: 'b' :: text => whole_number 2 text
  | '0' :: 'B' :: text => whole_number 2 text
  | '+' :: text => decimal false text
  | '-' :: text => decimal true text
  | text => decimal false text

def Number.isFinite : Number → Bool
  | .finite .. => true
  | _ => false

/-- The number as an integer, where it is one. -/
def Number.integer : Number → Option Int
  | .finite negative mantissa unit =>
    let scaled := mantissa * 2 ^ unit.toNat
    let divisor := 2 ^ (-unit).toNat
    if scaled % divisor = 0 then
      some (if negative then -((scaled / divisor : Nat) : Int) else ((scaled / divisor : Nat) : Int))
    else none
  | _ => none

example : (number "300".toList).integer = some 300 := by decide +kernel
example : (number " 1e3 ".toList).integer = some 1000 := by decide +kernel
example : (number "0.99999999999999999999".toList).integer = some 1 := by decide +kernel
example : (number "1.5".toList).integer = none := by decide +kernel
example : number "1e400".toList = .infinite := by decide +kernel

/-! ### Trimmed texts -/

variable {text : List Char}

theorem trim_trim (text : List Char) : trim (trim text) = trim text := by
  have hstart : (trim text).dropWhile isWhiteSpace = trim text := by
    refine List.dropWhile_eq_self_iff.mpr fun hpos => ?_
    have hstarts : trim text <+: text.dropWhile isWhiteSpace := List.rdropWhile_prefix ..
    have hlength := Nat.lt_of_lt_of_le hpos hstarts.length_le
    have hhead : ¬ isWhiteSpace (text.dropWhile isWhiteSpace)[0] = true :=
      List.dropWhile_get_zero_not isWhiteSpace text hlength
    rwa [hstarts.getElem hpos]
  have hend : (trim text).rdropWhile isWhiteSpace = trim text :=
    List.rdropWhile_idempotent isWhiteSpace _
  rw [trim, hstart, hend]

end Foundation.Js
