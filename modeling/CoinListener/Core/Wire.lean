import CoinListener.Core.Models
import CoinListener.Foundation.JsonText

/-! Identifiers, times and records as they are written and read as JSON. -/
namespace CoinListener
open Foundation

/-- How times and identifiers are written and read by the libraries that do it, how deep their reader
follows nested containers and which numbers it holds. -/
structure WireFormats where
  date_time : Timestamp → String
  parse_date_time : String → Option Timestamp
  parse_uuid : String → Option Uuid
  limits : Json.Limits
  date_time_back : ∀ t, parse_date_time (date_time t) = some t
  uuid_back : ∀ id < 2 ^ 128, parse_uuid (Uuid.to_string id) = some id
  nests : limits.nests 0 = true ∧ limits.nests 1 = true
  numbers : ∀ n < 2 ^ 64, limits.holds (Nat.toDigits 10 n) = true

namespace WireFormats
variable (formats : WireFormats)

/-! ### Writing -/

def nullable {α : Type} (write : α → Json) : Option α → Json
  | some a => write a
  | none => .null

def uuid_json (id : Uuid) : Json :=
  .str (Uuid.to_string id)

def time_json (t : Timestamp) : Json :=
  .str (formats.date_time t)

/-! ### Reading -/

def uuid_of (v : Json) : Option Uuid :=
  v.as_str.bind formats.parse_uuid

def time_of (v : Json) : Option Timestamp :=
  v.as_str.bind formats.parse_date_time

/-- A missing or null member is no value. -/
def optional {α : Type} (read : Json → Option α) : Option Json → Option (Option α)
  | none => some none
  | some .null => some none
  | some v => (read v).map some

/-- The members of a record with these keys. Unknown members are passed over; a known one that is
repeated is an error. An array holds the members in their order. -/
def record_members (keys : List String) : Json → Option (String → Option Json)
  | .obj fields =>
    if ((fields.map (·.1)).filter (keys.contains ·)).Nodup then
      some fun key => (fields.find? (·.1 == key)).map (·.2)
    else none
  | .arr items => if items.length = keys.length then some fun key => items[keys.idxOf key]? else none
  | _ => none

/-! ### Reading what was written -/

theorem uuid_of_json {id : Uuid} (h : id < 2 ^ 128) : formats.uuid_of (uuid_json id) = some id :=
  formats.uuid_back id h

theorem time_of_json (t : Timestamp) : formats.time_of (formats.time_json t) = some t :=
  formats.date_time_back t

theorem optional_nullable {α : Type} {read : Json → Option α} {write : α → Json} {value : Option α}
    (hback : ∀ a, value = some a → read (write a) = some a)
    (hstr : ∀ a, ∃ s, write a = .str s) :
    optional read (some (nullable write value)) = some value := by
  cases value with
  | none => rfl
  | some a =>
    obtain ⟨s, hs⟩ := hstr a
    have hread := hback a rfl
    rw [nullable, hs, optional, ← hs, hread]
    · rfl
    · exact nofun

theorem nullable_fits {α : Type} {write : α → Json} (limits : Json.Limits) (depth : Nat)
    (value : Option α) (hstr : ∀ a, ∃ s, write a = .str s) :
    Json.fits limits depth (nullable write value) = true := by
  cases value with
  | none => rfl
  | some a =>
    obtain ⟨s, hs⟩ := hstr a
    rw [nullable, hs]
    rfl

end WireFormats

end CoinListener
