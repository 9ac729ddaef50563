import CoinListener.Core.Models
import CoinListener.Foundation.Sha256
import CoinListener.Foundation.Utf8
import CoinListener.Providers.Decimal

/-! TRON transfers: what is read from a page item, and the event made of it. -/
namespace CoinListener.Providers.Tron
open Foundation

structure DecodedTronTransfer where
  tx_hash : String
  cursor_value : Int
  block_number : Option Int
  log_index : Option Int
  from_address : String
  to_address : String
  amount_raw : String
  amount_decimal : String
  token_contract : Option String
deriving DecidableEq

structure Trc20TransferPayload where
  transaction_id : String
  block_number : Option Int
  block_timestamp : Option Int
  from_address : String
  to_address : String
  value : String
  token_address : String
deriving DecidableEq

structure TrxContract where
  contract_type : String
  owner_address : Option String
  to_address : Option String
  amount : Option Int
deriving DecidableEq

structure TrxTransferPayload where
  tx_id : String
  block_number : Int
  block_timestamp : Int
  contract : List TrxContract
deriving DecidableEq

/-- A page item is a payload, or does not have its shape. -/
abbrev Item (Payload : Type) := Except String Payload

structure TronPage (Payload : Type) where
  data : List (Item Payload)
  next_fingerprint : Option String

inductive TrxTransferDecode where
  | Transfer (transfer : DecodedTronTransfer)
  | Skip
deriving DecidableEq

/-! ### Validation -/

def is_base58_like_character (character : Char) : Bool :=
  character.isAlphanum && !(character == '0' || character == 'O' || character == 'I' ||
    character == 'l')

def normalize_tron_address (address : String) : AppResult String :=
  let address := Text.trim address
  if address.toList.head? = some 'T' ∧ 26 ≤ address.length ∧ address.length ≤ 36 ∧
      address.toList.all is_base58_like_character then .ok address
  else .error (.Validation ("invalid tron address " ++ address))

def validate_non_negative_i64 (value : Int) (field : String) : AppResult Int :=
  if 0 ≤ value then .ok value
  else .error (.Validation
    ("invalid tron " ++ field ++ " " ++ toString value ++ ": must be non-negative"))

def is_ascii_hexdigit (c : Char) : Bool :=
  c.isDigit || ('a' ≤ c && c ≤ 'f') || ('A' ≤ c && c ≤ 'F')

def validate_tx_hash (value field : String) : AppResult Unit :=
  if value.length = 64 ∧ value.toList.all is_ascii_hexdigit then .ok ()
  else .error (.Validation ("invalid tron " ++ field ++ " " ++ value))

def parse_non_negative_decimal_string (value field : String) : AppResult String :=
  let value := Text.trim value
  if value = "" ∨ value.toList.head? = some '-' then
    .error (.Validation ("invalid trc20 " ++ field ++ " " ++ value))
  else match big_uint_from_str value with
    | .error error =>
      .error (.Validation ("invalid trc20 " ++ field ++ " " ++ value ++ ": " ++ error))
    | .ok parsed => .ok (toString parsed)

def raw_to_decimal_string (raw : String) (decimals : Int) : AppResult String :=
  decimal_string "amount" raw decimals

/-! ### The log index -/

def bytes (text : String) : List Nat :=
  (Utf8.encode text.toList).map UInt8.toNat

/-- What is hashed: the fields of the transfer, then the fallback index as four bytes. -/
def log_index_preimage (tx_hash from_address to_address amount_raw : String)
    (token_contract : Option String) (fallback_log_index : Int) : List Nat :=
  bytes tx_hash ++ bytes from_address ++ bytes to_address ++ bytes amount_raw ++
    (token_contract.elim [] bytes) ++ Sha256.bytes32 (fallback_log_index % 0x100000000).toNat

/-- The first four bytes of a digest without the sign bit. -/
def low31 : List Nat → Int
  | a :: b :: c :: d :: _ => (a * 0x1000000 + b * 0x10000 + c * 0x100 + d) % 0x80000000
  | _ => 0

def tron_transfer_log_index (tx_hash from_address to_address amount_raw : String)
    (token_contract : Option String) (fallback_log_index : Int) : Int :=
  low31 (Sha256.digest
    (log_index_preimage tx_hash from_address to_address amount_raw token_contract
      fallback_log_index))

/-! ### Decoding -/

def decode_trc20_transfer_at_index (payload : Item Trc20TransferPayload)
    (expected_contract : String) (decimals fallback_log_index : Int) :
    AppResult DecodedTronTransfer := do
  let payload ← payload.mapError fun error =>
    AppError.Validation ("invalid trc20 transfer payload: " ++ error)
  validate_tx_hash payload.transaction_id "transaction_id"
  let expected_contract ← normalize_tron_address expected_contract
  let token_contract ← normalize_tron_address payload.token_address
  ensure (token_contract == expected_contract) (.Validation
    ("invalid trc20 contract " ++ token_contract ++ ": expected " ++ expected_contract))
  let block_number ← payload.block_number.mapM (validate_non_negative_i64 · "block_number")
  let block_timestamp ← required payload.block_timestamp
    (.Validation "invalid trc20 transfer: missing cursor")
  let cursor_value ← validate_non_negative_i64 block_timestamp "block_timestamp"
  let amount_raw ← parse_non_negative_decimal_string payload.value "value"
  let amount_decimal ← raw_to_decimal_string amount_raw decimals
  let from_address ← normalize_tron_address payload.from_address
  let to_address ← normalize_tron_address payload.to_address
  return {
    tx_hash := payload.transaction_id
    cursor_value := cursor_value
    block_number := block_number
    log_index := some (tron_transfer_log_index payload.transaction_id payload.from_address
      payload.to_address amount_raw (some token_contract) fallback_log_index)
    from_address := from_address
    to_address := to_address
    amount_raw := amount_raw
    amount_decimal := amount_decimal
    token_contract := some token_contract }

def try_decode_trx_transfer_at_index (payload : Item TrxTransferPayload)
    (decimals fallback_log_index : Int) : AppResult TrxTransferDecode := do
  let payload ← payload.mapError fun error =>
    AppError.Validation ("invalid trx transfer payload: " ++ error)
  validate_tx_hash payload.tx_id "txID"
  let block_number ← validate_non_negative_i64 payload.block_number "blockNumber"
  let cursor_value ← validate_non_negative_i64 payload.block_timestamp "block_timestamp"
  match payload.contract.find? (·.contract_type == "TransferContract") with
  | none => return .Skip
  | some transfer =>
    let owner_address ← required transfer.owner_address
      (.Validation "invalid trx transfer: missing owner_address")
    let owner_address ← normalize_tron_address owner_address
    let to_address ← required transfer.to_address
      (.Validation "invalid trx transfer: missing to_address")
    let to_address ← normalize_tron_address to_address
    let amount ← required transfer.amount (.Validation "invalid trx transfer: missing amount")
    ensure (0 ≤ amount) (.Validation
      ("invalid trx transfer amount " ++ toString amount ++ ": must be non-negative"))
    let amount_raw := toString amount
    let amount_decimal ← raw_to_decimal_string amount_raw decimals
    return .Transfer {
      tx_hash := payload.tx_id
      cursor_value := cursor_value
      block_number := some block_number
      log_index := some (tron_transfer_log_index payload.tx_id owner_address to_address amount_raw
        none fallback_log_index)
      from_address := owner_address
      to_address := to_address
      amount_raw := amount_raw
      amount_decimal := amount_decimal
      token_contract := none }

section Decoded
variable {decimals n : Int} {t : DecodedTronTransfer}

theorem validate_non_negative_i64_ok {value v : Int} {field : String}
    (h : validate_non_negative_i64 value field = .ok v) : v = value ∧ 0 ≤ value := by
  unfold validate_non_negative_i64 at h
  split at h
  · next hv => exact ⟨(Except.ok.inj h).symm, hv⟩
  · exact nomatch h

theorem mapError_ok {α : Type} {payload : Item α} {f : String → AppError} {p : α}
    (h : payload.mapError f = .ok p) : payload = .ok p := by
  cases payload with
  | ok q => exact congrArg Except.ok (Except.ok.inj h)
  | error e => exact nomatch h

/-- What a decoded token transfer takes from its payload. -/
theorem decode_trc20_ok {payload : Item Trc20TransferPayload} {contract : String}
    (h : decode_trc20_transfer_at_index payload contract decimals n = .ok t) :
    ∃ p token, payload = .ok p ∧ normalize_tron_address contract = .ok token ∧
      normalize_tron_address p.token_address = .ok token ∧
      parse_non_negative_decimal_string p.value "value" = .ok t.amount_raw ∧
      p.block_timestamp = some t.cursor_value ∧ 0 ≤ t.cursor_value ∧
      t.tx_hash = p.transaction_id ∧ t.token_contract = some token ∧
      t.log_index = some (tron_transfer_log_index p.transaction_id p.from_address p.to_address
        t.amount_raw (some token) n) := by
  unfold decode_trc20_transfer_at_index at h
  obtain ⟨p, hp, h⟩ := bind_ok h
  obtain ⟨_, _, h⟩ := bind_ok h
  obtain ⟨expected, hexpected, h⟩ := bind_ok h
  obtain ⟨token, htoken, h⟩ := bind_ok h
  obtain ⟨_, hsame, h⟩ := bind_ok h
  obtain ⟨_, _, h⟩ := bind_ok h
  obtain ⟨timestamp, htimestamp, h⟩ := bind_ok h
  obtain ⟨cursor, hcursor, h⟩ := bind_ok h
  obtain ⟨amount, hamount, h⟩ := bind_ok h
  obtain ⟨_, _, h⟩ := bind_ok h
  obtain ⟨_, _, h⟩ := bind_ok h
  obtain ⟨_, _, h⟩ := bind_ok h
  obtain rfl := Except.ok.inj h
  obtain rfl := beq_iff_eq.mp (ensure_ok.mp hsame)
  obtain ⟨rfl, hnonneg⟩ := validate_non_negative_i64_ok hcursor
  refine ⟨p, token, ?_, hexpected, htoken, hamount, required_ok.mp htimestamp, hnonneg, rfl, rfl,
    rfl⟩
  exact mapError_ok hp

/-- What a decoded native transfer takes from its payload. -/
theorem try_decode_trx_ok {payload : Item TrxTransferPayload}
    (h : try_decode_trx_transfer_at_index payload decimals n = .ok (.Transfer t)) :
    ∃ p c owner to_address amount, payload = .ok p ∧
      p.contract.find? (·.contract_type == "TransferContract") = some c ∧
      c.owner_address = some owner ∧ normalize_tron_address owner = .ok t.from_address ∧
      c.to_address = some to_address ∧ normalize_tron_address to_address = .ok t.to_address ∧
      c.amount = some amount ∧ t.amount_raw = toString amount ∧
      p.block_timestamp = t.cursor_value ∧ 0 ≤ t.cursor_value ∧
      t.tx_hash = p.tx_id ∧ t.token_contract = none ∧
      t.log_index = some (tron_transfer_log_index p.tx_id t.from_address t.to_address
        t.amount_raw none n) := by
  unfold try_decode_trx_transfer_at_index at h
  obtain ⟨p, hp, h⟩ := bind_ok h
  obtain ⟨_, _, h⟩ := bind_ok h
  obtain ⟨_, _, h⟩ := bind_ok h
  obtain ⟨cursor, hcursor, h⟩ := bind_ok h
  split at h
  · exact nomatch h
  · next c hc =>
    obtain ⟨owner, howner, h⟩ := bind_ok h
    obtain ⟨from_address, hfrom, h⟩ := bind_ok h
    obtain ⟨to_raw, hto_raw, h⟩ := bind_ok h
    obtain ⟨to_address, hto, h⟩ := bind_ok h
    obtain ⟨amount, hamount, h⟩ := bind_ok h
    obtain ⟨_, _, h⟩ := bind_ok h
    obtain ⟨_, _, h⟩ := bind_ok h
    obtain rfl := TrxTransferDecode.Transfer.inj (Except.ok.inj h)
    obtain ⟨rfl, hnonneg⟩ := validate_non_negative_i64_ok hcursor
    exact ⟨p, c, owner, to_raw, amount, mapError_ok hp, hc, required_ok.mp howner, hfrom,
      required_ok.mp hto_raw, hto, required_ok.mp hamount, rfl, rfl, hnonneg, rfl, rfl, rfl⟩

end Decoded

/-! ### The event -/

def tron_transfer_direction (from_address to_address watched : String) : String :=
  let from_address := Text.trim from_address
  let to_address := Text.trim to_address
  let watched := Text.trim watched
  if from_address = watched ∧ to_address = watched then "self"
  else if to_address = watched then "in"
  else if from_address = watched then "out"
  else "unknown"

def tron_transfer_event_draft (context : ScanAddressContext) (asset : Asset)
    (transfer : DecodedTronTransfer) : AddressEventDraft :=
  { tenant_id := context.tenant_id
    chain_id := context.chain_id
    address_id := context.id
    asset_id := asset.id
    event_type := "transfer"
    direction :=
      tron_transfer_direction transfer.from_address transfer.to_address context.address
    is_transfer := true
    tx_hash := some transfer.tx_hash
    log_index := transfer.log_index
    block_number := transfer.block_number
    block_hash := none
    confirmations := 0
    from_address := some transfer.from_address
    to_address := some transfer.to_address
    amount_raw := some transfer.amount_raw
    amount_decimal := some transfer.amount_decimal
    balance_before_raw := none
    balance_after_raw := none
    balance_delta_raw := none
    metadata := .obj [
      ("source", .str "tron_transfer"),
      ("cursor_value", .num (toString transfer.cursor_value)),
      ("token_contract", transfer.token_contract.elim .null .str)] }

end CoinListener.Providers.Tron
