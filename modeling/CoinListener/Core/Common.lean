import CoinListener.Foundation.Text

/-! Errors, identifiers and the proxy setting shared by every crate. -/
namespace CoinListener
open Foundation

/-- `AppError`. -/
inductive AppError where
  | Config (message : String)
  | Database (message : String)
  | Redis (message : String)
  | ExternalNotification (message : String)
  | NotFound (message : String)
  | Validation (message : String)
  | Unauthorized
  | Forbidden
deriving DecidableEq

abbrev AppResult := Except AppError

/-- A computation that succeeds went through its first part. -/
theorem bind_ok {α β : Type} {x : AppResult α} {f : α → AppResult β} {b : β}
    (h : x >>= f = .ok b) : ∃ a, x = .ok a ∧ f a = .ok b := by
  cases x with
  | error e => exact nomatch h
  | ok a => exact ⟨a, rfl, h⟩

def ensure (condition : Bool) (error : AppError) : AppResult Unit :=
  if condition then .ok () else .error error

def required {α : Type} (value : Option α) (error : AppError) : AppResult α :=
  match value with
  | some value => .ok value
  | none => .error error

theorem ensure_ok {condition : Bool} {error : AppError} {u : Unit} :
    ensure condition error = .ok u ↔ condition = true := by
  cases condition <;> simp [ensure]

theorem required_ok {α : Type} {value : Option α} {error : AppError} {a : α} :
    required value error = .ok a ↔ value = some a := by
  cases value <;> simp [required]

/-- The text an error is displayed as. -/
def AppError.to_string : AppError → String
  | .Config message => "configuration error: " ++ message
  | .Database message => "database error: " ++ message
  | .Redis message => "redis error: " ++ message
  | .ExternalNotification message => "external notification error: " ++ message
  | .NotFound message => "not found: " ++ message
  | .Validation message => "validation error: " ++ message
  | .Unauthorized => "unauthorized"
  | .Forbidden => "forbidden"

/-- A 128-bit identifier. -/
abbrev Uuid := Nat

/-- The 64-bit result of an addition or subtraction, which wraps around. -/
def wrap_i64 (x : Int) : Int :=
  x.bmod 18446744073709551616

theorem wrap_i64_le {x : Int} (h : 0 ≤ x) : wrap_i64 x ≤ x := by
  unfold wrap_i64
  rw [Int.bmod_def]
  split <;> omega

theorem wrap_i64_lt (x : Int) : wrap_i64 x < 9223372036854775808 := by
  unfold wrap_i64
  rw [Int.bmod_def]
  split <;> omega

/-- The 64-bit integers. -/
def IsI64 (x : Int) : Prop :=
  -9223372036854775808 ≤ x ∧ x ≤ 9223372036854775807

instance (x : Int) : Decidable (IsI64 x) :=
  inferInstanceAs (Decidable (_ ∧ _))

/-- The exact result of an operation, which overflows when no 64-bit integer is equal to it. -/
def checked_i64 (x : Int) : Option Int :=
  if IsI64 x then some x else none

theorem checked_i64_some {x : Int} (h : IsI64 x) : checked_i64 x = some x :=
  if_pos h

theorem wrap_of_i64 {x : Int} (h : IsI64 x) : wrap_i64 x = x := by
  obtain ⟨hlow, hhigh⟩ := h
  unfold wrap_i64
  rw [Int.bmod_def]
  split <;> omega

/-- The value after this one is a 64-bit integer. -/
def HasNext (value : Int) : Prop :=
  IsI64 (value + 1)

instance (value : Int) : Decidable (HasNext value) :=
  inferInstanceAs (Decidable (IsI64 _))

theorem checked_next {value : Int} (h : HasNext value) :
    checked_i64 (value + 1) = some (wrap_i64 (value + 1)) :=
  (checked_i64_some h).trans (congrArg some (wrap_of_i64 h).symm)

theorem has_next_max {a b : Int} (ha : HasNext a) (hb : HasNext b) : HasNext (max a b) := by
  rcases Int.le_total a b with hle | hle
  · rwa [Int.max_eq_right hle]
  · rwa [Int.max_eq_left hle]

/-- A sum held at the ends of the 64-bit range. -/
def saturating_i64 (x : Int) : Int :=
  max (-9223372036854775808) (min x 9223372036854775807)

/-- Thirty-two hexadecimal digits in five groups. -/
def Uuid.to_string (id : Uuid) : String :=
  let digits := (List.range 32).map fun i => Nat.digitChar (id / 16 ^ (31 - i) % 16)
  String.ofList (digits.take 8 ++ '-' :: (digits.drop 8).take 4 ++ '-' :: (digits.drop 12).take 4 ++
    '-' :: (digits.drop 16).take 4 ++ '-' :: digits.drop 20)

def valid_proxy_url (value : String) : Bool :=
  let text := value.toList
  if text.any Text.isWhitespace then false
  else match Text.find "://".toList text with
    | none => false
    | some i =>
      let scheme := String.ofList (text.take i)
      let rest := text.drop (i + 3)
      let authority := rest.takeWhile (· != '/')
      let host_port := (authority.reverse.takeWhile (· != '@')).reverse
      (scheme == "http" || scheme == "https" || scheme == "socks5") && !rest.isEmpty &&
        rest.head? != some '/' && !host_port.isEmpty && host_port.head? != some ':'

def normalize_proxy_url (value : Option String) : AppResult (Option String) :=
  match (value.map Text.trim).filter (· ≠ "") with
  | none => .ok none
  | some value =>
    if valid_proxy_url value then .ok (some value)
    else .error (.Validation "proxy_url must use http, https, or socks5 with a host")

end CoinListener
