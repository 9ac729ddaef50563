import CoinListener.Core.Models
import CoinListener.Providers.Decimal

/-! EVM quantities, transfer logs and balance changes. -/
namespace CoinListener.Providers.Evm
open Foundation

def TRANSFER_TOPIC0 : String :=
  "0xddf252ad1be2c89b69c2b068fc378daa952ba7f163c4a11628f55a4df523b3ef"

structure EvmLogFilter where
  address : String
  from_block : Int
  to_block : Int
  topics : List (Option String)
deriving DecidableEq

structure EvmLog where
  address : String
  topics : List String
  data : String
  transaction_hash : Option String
  log_index : Option String
  block_number : Option String
  block_hash : Option String
deriving DecidableEq

structure DecodedErc20Transfer where
  tx_hash : String
  log_index : Int
  block_number : Int
  block_hash : Option String
  from_address : String
  to_address : String
  amount_raw : String
  amount_decimal : String
  token_contract : Option String
deriving DecidableEq

/-- The checks made before a filter is sent. -/
def EvmLogFilter.to_rpc_params (filter : EvmLogFilter) : AppResult EvmLogFilter :=
  if filter.from_block < 0 then
    .error (.Validation ("invalid eth_getLogs fromBlock " ++ toString filter.from_block ++
      ": must be non-negative"))
  else if filter.to_block < 0 then
    .error (.Validation ("invalid eth_getLogs toBlock " ++ toString filter.to_block ++
      ": must be non-negative"))
  else if filter.to_block < filter.from_block then
    .error (.Validation ("invalid eth_getLogs range: fromBlock " ++ toString filter.from_block ++
      " exceeds toBlock " ++ toString filter.to_block))
  else .ok filter

/-! ### Hexadecimal -/

def hex_value (c : Char) : Option Nat :=
  if '0' ≤ c ∧ c ≤ '9' then some (c.toNat - 48)
  else if 'a' ≤ c ∧ c ≤ 'f' then some (c.toNat - 87)
  else if 'A' ≤ c ∧ c ≤ 'F' then some (c.toNat - 55)
  else none

def is_ascii_hexdigit (c : Char) : Bool :=
  (hex_value c).isSome

def hex_number (digits : List Char) : Nat :=
  digits.foldl (fun n c => n * 16 + (hex_value c).getD 0) 0

def hex_digits (hex : String) : AppResult (List Char) :=
  match hex.toList with
  | '0' :: 'x' :: digits =>
    if digits.isEmpty || !digits.all is_ascii_hexdigit then
      .error (.Validation ("invalid hex quantity " ++ hex))
    else .ok digits
  | _ => .error (.Validation ("invalid hex quantity " ++ hex ++ ": missing 0x prefix"))

def normalize_hex (value : String) (expected_len : Nat) (kind : String) : AppResult (List Char) :=
  match value.toList with
  | '0' :: 'x' :: digits =>
    if digits.length ≠ expected_len ∨ ¬ digits.all is_ascii_hexdigit then
      .error (.Validation ("invalid evm " ++ kind ++ " " ++ value))
    else .ok digits
  | _ => .error (.Validation ("invalid evm " ++ kind ++ " " ++ value ++ ": missing 0x prefix"))

def parse_hex_quantity_to_i64 (hex : String) : AppResult Int := do
  let digits ← hex_digits hex
  ensure (hex_number digits ≤ 9223372036854775807) (.Validation
    ("invalid hex quantity " ++ hex ++ ": number too large to fit in target type"))
  return hex_number digits

def parse_hex_u256_to_decimal_string (hex : String) : AppResult String := do
  let digits ← hex_digits hex
  return toString (hex_number digits)

def parse_abi_u256_to_decimal_string (hex field : String) : AppResult String := do
  let digits ← normalize_hex hex 64 field
  return toString (hex_number digits)

def wei_to_decimal_string (raw : String) (decimals : Int) : AppResult String :=
  decimal_string "balance" raw decimals

def address_to_topic (address : String) : AppResult String := do
  let digits ← normalize_hex address 40 "address"
  return "0x000000000000000000000000" ++ String.ofList (digits.map Text.asciiLower)

def topic_to_address (topic : String) : AppResult String := do
  let digits ← normalize_hex topic 64 "topic"
  ensure ((digits.take 24).all (· == '0')) (.Validation
    ("invalid evm address topic " ++ String.ofList digits ++ ": non-zero padding"))
  return "0x" ++ String.ofList (digits.drop 24)

def parse_required_hex_i64 (value : Option String) (field : String) : AppResult Int :=
  required value (.Validation ("invalid erc20 transfer log: missing " ++ field)) >>=
    parse_hex_quantity_to_i64

def parse_required_hex_i32 (value : Option String) (field : String) : AppResult Int := do
  let value ← parse_required_hex_i64 value field
  ensure (value ≤ 2147483647) (.Validation ("invalid erc20 transfer log " ++ field ++
    ": out of range integral type conversion attempted"))
  return value

/-! ### Transfer logs -/

/-- Topics are compared in lower case; the letters that matter are hexadecimal digits. -/
def decode_erc20_transfer_log (log : EvmLog) (token_decimals : Int) :
    AppResult DecodedErc20Transfer :=
  match log.topics with
  | topic0 :: topic1 :: topic2 :: _ => do
    ensure (Text.toAsciiLowercase topic0 == TRANSFER_TOPIC0)
      (.Validation "invalid erc20 transfer log topic0")
    let tx_hash ← required log.transaction_hash
      (.Validation "invalid erc20 transfer log: missing transactionHash")
    let _ ← normalize_hex tx_hash 64 "transactionHash"
    let _ ← log.block_hash.mapM (normalize_hex · 64 "blockHash")
    let log_index ← parse_required_hex_i32 log.log_index "logIndex"
    let block_number ← parse_required_hex_i64 log.block_number "blockNumber"
    let amount_raw ← parse_abi_u256_to_decimal_string log.data "data"
    let amount_decimal ← wei_to_decimal_string amount_raw token_decimals
    let token_contract ← normalize_hex log.address 40 "address"
    let from_address ← topic_to_address topic1
    let to_address ← topic_to_address topic2
    return {
      tx_hash := tx_hash
      log_index := log_index
      block_number := block_number
      block_hash := log.block_hash
      from_address := from_address
      to_address := to_address
      amount_raw := amount_raw
      amount_decimal := amount_decimal
      token_contract := some ("0x" ++ String.ofList (token_contract.map Text.asciiLower)) }
  | topics => .error (.Validation
      ("invalid erc20 transfer log topic count: " ++ toString topics.length))

def evm_transfer_direction (from_address to_address watched : String) : String :=
  if Text.eqIgnoreAsciiCase from_address watched ∧ Text.eqIgnoreAsciiCase to_address watched then
    "self"
  else if Text.eqIgnoreAsciiCase to_address watched then "in"
  else if Text.eqIgnoreAsciiCase from_address watched then "out"
  else "unknown"

def transfer_event_draft (context : ScanAddressContext) (asset : Asset)
    (transfer : DecodedErc20Transfer) : AddressEventDraft :=
  { tenant_id := context.tenant_id
    chain_id := context.chain_id
    address_id := context.id
    asset_id := asset.id
    event_type := "transfer"
    direction :=
      evm_transfer_direction transfer.from_address transfer.to_address context.address
    is_transfer := true
    tx_hash := some transfer.tx_hash
    log_index := some transfer.log_index
    block_number := some transfer.block_number
    block_hash := transfer.block_hash
    confirmations := 0
    from_address := some transfer.from_address
    to_address := some transfer.to_address
    amount_raw := some transfer.amount_raw
    amount_decimal := some transfer.amount_decimal
    balance_before_raw := none
    balance_after_raw := none
    balance_delta_raw := none
    metadata := .obj [
      ("source", .str "evm_erc20_transfer_log"),
      ("token_contract", transfer.token_contract.elim .null .str)] }

/-! ### Balance changes -/

def parse_decimal_bigint (raw : String) : AppResult Int :=
  (big_int_from_str raw).mapError fun error =>
    .Validation ("invalid decimal balance " ++ raw ++ ": " ++ error)

def evm_balance_change_event (context : ScanAddressContext) (asset : Asset)
    (previous current : BalanceSnapshot) (provider : Provider) : AppResult AddressEventDraft := do
  let previous_raw ← parse_decimal_bigint previous.balance_raw
  let current_raw ← parse_decimal_bigint current.balance_raw
  let delta := current_raw - previous_raw
  return {
    tenant_id := context.tenant_id
    chain_id := context.chain_id
    address_id := context.id
    asset_id := asset.id
    event_type := "balance_change"
    direction := if delta < 0 then "out" else "in"
    is_transfer := false
    tx_hash := none
    log_index := none
    block_number := current.block_number
    block_hash := current.block_hash
    confirmations := 0
    from_address := none
    to_address := none
    amount_raw := none
    amount_decimal := none
    balance_before_raw := some previous.balance_raw
    balance_after_raw := some current.balance_raw
    balance_delta_raw := some (toString delta)
    metadata := .obj [
      ("source", .str "evm_balance_snapshot"),
      ("provider_id", .str (Uuid.to_string provider.id)),
      ("provider_name", .str provider.name),
      ("previous_snapshot_id", .str (Uuid.to_string previous.id)),
      ("current_snapshot_id", .str (Uuid.to_string current.id)),
      ("source_provider_id", current.source_provider_id.elim .null (.str ∘ Uuid.to_string)),
      ("block_number", current.block_number.elim .null (.num ∘ toString))] }

end CoinListener.Providers.Evm
