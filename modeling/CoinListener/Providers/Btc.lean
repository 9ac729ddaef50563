import CoinListener.Core.Models
import CoinListener.Providers.Decimal
import CoinListener.Providers.Evm

/-! BTC balances, transaction pages and the transfers of a watched address. -/
namespace CoinListener.Providers.Btc
open Foundation

structure BtcVout where
  scriptpubkey_address : Option String
  value : Int
deriving DecidableEq

structure BtcVin where
  prevout : Option BtcVout
deriving DecidableEq

structure BtcTxStatus where
  confirmed : Bool
  block_height : Option Int
  block_hash : Option String
deriving DecidableEq

structure BtcTransaction where
  txid : String
  status : BtcTxStatus
  vin : List BtcVin
  vout : List BtcVout
deriving DecidableEq

structure BtcTransactionPage where
  transactions : List BtcTransaction
  next_last_seen_txid : Option String
deriving DecidableEq

structure BtcBalance where
  balance_raw : String
  balance_decimal : String
deriving DecidableEq

structure DecodedBtcTransfer where
  tx_hash : String
  block_number : Int
  block_hash : Option String
  direction : String
  amount_raw : String
  amount_decimal : String
  received_raw : String
  spent_raw : String
deriving DecidableEq

/-! ### Validation -/

def normalize_btc_address (address : String) : AppResult String :=
  let address := Text.trim address
  let has_supported_head := (Text.stripPrefix "bc1" address).isSome ||
    (Text.stripPrefix "tb1" address).isSome || (Text.stripPrefix "1" address).isSome ||
    (Text.stripPrefix "3" address).isSome
  if 14 ≤ address.length ∧ address.length ≤ 90 ∧ has_supported_head ∧
      address.toList.all Char.isAlphanum then .ok address
  else .error (.Validation ("invalid btc address " ++ address))

def validate_btc_hash (value field : String) : AppResult Unit :=
  if value.length = 64 ∧ value.toList.all Evm.is_ascii_hexdigit then .ok ()
  else .error (.Validation ("invalid btc transaction " ++ field ++ " " ++ value))

def validate_optional_btc_hash (value : Option String) (field : String) : AppResult Unit :=
  match value with
  | some value => validate_btc_hash value field
  | none => .ok ()

def validate_non_negative_sats (value : Int) (field : String) : AppResult Unit :=
  if 0 ≤ value then .ok ()
  else .error (.Validation
    ("invalid btc transaction " ++ field ++ " " ++ toString value ++ ": must be non-negative"))

def BTC_DECIMALS : Int := 8

def raw_to_decimal_string (raw : String) (decimals : Int) : AppResult String :=
  if decimals < 0 then
    .error (.Validation "invalid decimal scale: must be non-negative")
  else
    let raw := Text.trim raw
    match big_int_from_str raw with
    | .error error => .error (.Validation ("invalid btc amount " ++ raw ++ ": " ++ error))
    | .ok parsed =>
      if parsed < 0 then
        .error (.Validation ("invalid btc amount " ++ raw ++ ": must be non-negative"))
      else if decimals = 0 then .ok (toString parsed)
      else .ok (String.ofList (insert_point (toString parsed).toList decimals.toNat))

def sats_to_decimal_string (raw : String) : AppResult String :=
  raw_to_decimal_string raw BTC_DECIMALS

/-! ### The balance -/

/-- `number.to_string()`: a numeral no 64-bit integer holds is written as a floating point number,
which no integer parser accepts. -/
def json_bigint (value : Json) : Option (Except String Int) :=
  match value with
  | .num numeral =>
    match Json.integer? numeral.toList with
    | some i =>
      if i < -9223372036854775808 ∨ 18446744073709551615 < i ∨ numeral = "-0" then
        some (.error "invalid digit found in string")
      else some (.ok i)
    | none => some (.error "invalid digit found in string")
  | .str text => some (big_int_from_str (Text.trim text))
  | _ => none

def parse_non_negative_json_bigint (payload : Json) (section_name field : String) :
    AppResult Int :=
  let path := section_name ++ "." ++ field
  match (payload.get section_name).bind (·.get field) with
  | none => .error (.Validation ("invalid btc balance payload: missing " ++ path))
  | some value =>
    match json_bigint value with
    | none => .error (.Validation ("invalid btc balance payload: " ++ path ++ " must be an integer"))
    | some (.error error) =>
      .error (.Validation ("invalid btc balance payload " ++ path ++ ": " ++ error))
    | some (.ok parsed) =>
      if parsed < 0 then
        .error (.Validation ("invalid btc balance payload: " ++ path ++ " must be non-negative"))
      else .ok parsed

def decode_btc_confirmed_balance (payload : Json) : AppResult BtcBalance := do
  let funded ← parse_non_negative_json_bigint payload "chain_stats" "funded_txo_sum"
  let spent ← parse_non_negative_json_bigint payload "chain_stats" "spent_txo_sum"
  ensure (0 ≤ funded - spent)
    (.Validation "invalid btc confirmed balance: spent_txo_sum exceeds funded_txo_sum")
  let balance_raw := toString (funded - spent)
  let balance_decimal ← sats_to_decimal_string balance_raw
  return { balance_raw := balance_raw, balance_decimal := balance_decimal }

/-! ### Transactions -/

/-- The page that starts after the last transaction of this one is asked for next. -/
def decode_btc_transaction_page (transactions : Except String (List BtcTransaction)) :
    AppResult BtcTransactionPage := do
  let transactions ← transactions.mapError fun error =>
    AppError.Validation ("invalid BTC address transactions response json: " ++ error)
  let next_last_seen_txid := transactions.getLast?.map (·.txid)
  validate_optional_btc_hash next_last_seen_txid "last_seen_txid"
  return { transactions := transactions, next_last_seen_txid := next_last_seen_txid }

/-- The outputs paid to an address, each checked on the way. -/
def sum_sats (field address : String) : List BtcVout → AppResult Int
  | [] => .ok 0
  | output :: outputs => do
    validate_non_negative_sats output.value field
    let rest ← sum_sats field address outputs
    return (if output.scriptpubkey_address = some address then output.value else 0) + rest

def classify_btc_transaction (tx : BtcTransaction) (watched_address : String) :
    AppResult (Option DecodedBtcTransfer) := do
  let watched_address ← normalize_btc_address watched_address
  ensure tx.status.confirmed
    (.Validation "invalid btc transaction: status.confirmed must be true")
  let block_number ← required tx.status.block_height
    (.Validation "invalid btc transaction: missing block_height")
  ensure (0 ≤ block_number) (.Validation ("invalid btc transaction block_height " ++
    toString block_number ++ ": must be non-negative"))
  validate_btc_hash tx.txid "txid"
  validate_optional_btc_hash tx.status.block_hash "block_hash"
  let received ← sum_sats "vout.value" watched_address tx.vout
  let spent ← sum_sats "vin.prevout.value" watched_address (tx.vin.filterMap (·.prevout))
  if received = 0 ∧ spent = 0 then return none else
  let delta := received - spent
  let amount_raw := toString (if delta < 0 then -delta else delta)
  let amount_decimal ← sats_to_decimal_string amount_raw
  return some {
    tx_hash := tx.txid
    block_number := block_number
    block_hash := tx.status.block_hash
    direction := if 0 < delta then "in" else if delta < 0 then "out" else "self"
    amount_raw := amount_raw
    amount_decimal := amount_decimal
    received_raw := toString received
    spent_raw := toString spent }

/-! ### Well-formed transactions -/

def IsBtcHash (value : String) : Prop :=
  value.length = 64 ∧ value.toList.all Evm.is_ascii_hexdigit = true

/-- A confirmed transaction as the chain has it. -/
structure BtcTransaction.WellFormed (tx : BtcTransaction) : Prop where
  confirmed : tx.status.confirmed = true
  height : ∃ height, tx.status.block_height = some height ∧ 0 ≤ height
  txid : IsBtcHash tx.txid
  block_hash : ∀ block_hash, tx.status.block_hash = some block_hash → IsBtcHash block_hash
  vout : ∀ output ∈ tx.vout, 0 ≤ output.value
  vin : ∀ input ∈ tx.vin, ∀ output, input.prevout = some output → 0 ≤ output.value

theorem validate_btc_hash_ok {value : String} (h : IsBtcHash value) (field : String) :
    validate_btc_hash value field = .ok () :=
  if_pos h

theorem sum_sats_ok {outputs : List BtcVout} (h : ∀ output ∈ outputs, 0 ≤ output.value)
    (field address : String) : ∃ total, sum_sats field address outputs = .ok total := by
  induction outputs with
  | nil => exact ⟨0, rfl⟩
  | cons output outputs ih =>
    obtain ⟨rest, hrest⟩ := ih fun o ho => h o (List.mem_cons_of_mem _ ho)
    have hvalid : validate_non_negative_sats output.value field = .ok () :=
      if_pos (h output (List.mem_cons_self ..))
    exact ⟨_, by rw [sum_sats, hvalid, hrest]; rfl⟩

/-- An amount of satoshi can be written with a decimal point. -/
theorem sats_to_decimal_string_ok {sats : Int} (h : 0 ≤ sats) :
    ∃ text, sats_to_decimal_string (toString sats) = .ok text := by
  have htrim : Text.trim (toString sats) = toString sats := by
    apply Text.trim_of_no_space
    intro c hc
    have hdigits : (toString sats).toList = Nat.toDigits 10 sats.toNat := by
      simp [Int.repr_eq_if, h]
    rw [hdigits] at hc
    exact Text.isWhitespace_digit (Nat.isDigit_of_mem_toDigits (by decide) (by decide) hc)
  have hnot : ¬ sats < 0 := Int.not_lt.mpr h
  have hscale : ¬ BTC_DECIMALS < 0 := by decide
  have hpoint : BTC_DECIMALS ≠ 0 := by decide
  simp only [sats_to_decimal_string, raw_to_decimal_string, htrim, big_int_from_str_toString, hnot,
    hscale, hpoint, if_false]
  exact ⟨_, rfl⟩

/-- A well-formed transaction is classified, and a transfer lies at its height. -/
theorem classify_ok {tx : BtcTransaction} {address : String} (h : tx.WellFormed)
    (haddress : ∃ normalized, normalize_btc_address address = .ok normalized) :
    ∃ transfer, classify_btc_transaction tx address = .ok transfer := by
  obtain ⟨normalized, hnorm⟩ := haddress
  obtain ⟨height, hheight, hpos⟩ := h.height
  obtain ⟨received, hreceived⟩ := sum_sats_ok h.vout "vout.value" normalized
  have hvin : ∀ output ∈ tx.vin.filterMap (·.prevout), 0 ≤ output.value := by
    intro output houtput
    obtain ⟨input, hinput, hprevout⟩ := List.mem_filterMap.mp houtput
    exact h.vin input hinput output hprevout
  obtain ⟨spent, hspent⟩ := sum_sats_ok hvin "vin.prevout.value" normalized
  have hblock : validate_optional_btc_hash tx.status.block_hash "block_hash" = .ok () := by
    cases hhash : tx.status.block_hash with
    | none => rfl
    | some block_hash => exact validate_btc_hash_ok (h.block_hash block_hash hhash) _
  have hamount : 0 ≤ if received - spent < 0 then -(received - spent) else received - spent := by
    split <;> omega
  obtain ⟨text, htext⟩ := sats_to_decimal_string_ok hamount
  simp only [classify_btc_transaction, hnorm, h.confirmed, ensure, hheight, required, hpos,
    validate_btc_hash_ok h.txid, hblock, hreceived, hspent, htext, Except.bind, bind, decide_true,
    if_true]
  split <;> exact ⟨_, rfl⟩

theorem classify_height {tx : BtcTransaction} {address : String} {transfer : DecodedBtcTransfer}
    (h : classify_btc_transaction tx address = .ok (some transfer)) :
    tx.status.block_height = some transfer.block_number := by
  unfold classify_btc_transaction at h
  obtain ⟨_, _, h⟩ := bind_ok h
  obtain ⟨_, _, h⟩ := bind_ok h
  obtain ⟨height, hheight, h⟩ := bind_ok h
  obtain ⟨_, _, h⟩ := bind_ok h
  obtain ⟨_, _, h⟩ := bind_ok h
  obtain ⟨_, _, h⟩ := bind_ok h
  obtain ⟨_, _, h⟩ := bind_ok h
  obtain ⟨_, _, h⟩ := bind_ok h
  split at h
  · exact nomatch h
  · obtain ⟨_, _, h⟩ := bind_ok h
    obtain rfl := Option.some.inj (Except.ok.inj h)
    exact required_ok.mp hheight

theorem classify_nonneg {tx : BtcTransaction} {address : String} {transfer : DecodedBtcTransfer}
    (h : classify_btc_transaction tx address = .ok (some transfer)) :
    0 ≤ transfer.block_number := by
  have hheight := classify_height h
  unfold classify_btc_transaction at h
  obtain ⟨_, _, h⟩ := bind_ok h
  obtain ⟨_, _, h⟩ := bind_ok h
  obtain ⟨height, hrequired, h⟩ := bind_ok h
  obtain ⟨_, hnonneg, _⟩ := bind_ok h
  rw [required_ok, hheight] at hrequired
  rw [ensure_ok, decide_eq_true_eq] at hnonneg
  exact Option.some.inj hrequired ▸ hnonneg

def btc_transfer_event_draft (context : ScanAddressContext) (asset : Asset)
    (transfer : DecodedBtcTransfer) : AddressEventDraft :=
  { tenant_id := context.tenant_id
    chain_id := context.chain_id
    address_id := context.id
    asset_id := asset.id
    event_type := "transfer"
    direction := transfer.direction
    is_transfer := true
    tx_hash := some transfer.tx_hash
    log_index := none
    block_number := some transfer.block_number
    block_hash := transfer.block_hash
    confirmations := 0
    from_address := none
    to_address := none
    amount_raw := some transfer.amount_raw
    amount_decimal := some transfer.amount_decimal
    balance_before_raw := none
    balance_after_raw := none
    balance_delta_raw := none
    metadata := .obj [
      ("source", .str "btc_transaction"),
      ("received_raw", .str transfer.received_raw),
      ("spent_raw", .str transfer.spent_raw)] }

end CoinListener.Providers.Btc
