import CoinListener.Providers.EvmRescan
import CoinListener.Storage.Scan

/-! The rescan of one EVM transaction. -/
namespace CoinListener.Api
open Foundation Storage Providers

/-! ### Statements -/

/-- A statement of the database, or a request to the provider. -/
inductive RescanStatement where
  | db (query : Query)
  | active_rpc_provider_for_chain (chain_id : Uuid)
  | rescan_watched_addresses_for_chain (tenant_id chain_id : Uuid)
  | assets_for_chain (chain_id : Uuid)
  | eth_get_transaction_by_hash (tx_hash : String)
  | eth_get_transaction_receipt (tx_hash : String)

abbrev RescanStatement.Answer : RescanStatement → Type
  | .db query => query.Answer
  | .active_rpc_provider_for_chain _ => Provider
  | .rescan_watched_addresses_for_chain .. => List WatchedAddress
  | .assets_for_chain _ => List Asset
  | .eth_get_transaction_by_hash _ => Evm.EvmTransaction
  | .eth_get_transaction_receipt _ => Evm.EvmTransactionReceipt

abbrev Rescan (α : Type) := Prog RescanStatement RescanStatement.Answer AppError α

/-! ### Checks -/

def validate_evm_tx_hash (tx_hash : String) : AppResult Unit :=
  match tx_hash.toList with
  | '0' :: 'x' :: digits =>
    ensure (digits.length == 64 && digits.all Evm.is_ascii_hexdigit)
      (.Validation "tx_hash must be 32-byte hex")
  | _ => .error (.Validation "tx_hash must start with 0x")

def provider_timeout_duration (provider : Provider) : AppResult Nat :=
  if provider.timeout_ms ≤ 0 then .error (.Validation "timeout_ms must be positive")
  else .ok provider.timeout_ms.toNat

def asset_selected (selected_assets : List Asset) (asset_id : Uuid) : Bool :=
  selected_assets.any (·.id == asset_id)

def optional_address_matches : Option String → Option String → Bool
  | some left, some right => Text.eqIgnoreAsciiCase left right
  | none, none => true
  | _, _ => false

def validate_evm_rescan_rpc_consistency (requested_tx_hash : String) (tx : Evm.EvmTransaction)
    (receipt : Evm.EvmTransactionReceipt) : AppResult Unit := do
  ensure (Text.eqIgnoreAsciiCase tx.hash requested_tx_hash)
    (.Validation "transaction hash does not match request")
  ensure (Text.eqIgnoreAsciiCase tx.hash receipt.transaction_hash)
    (.Validation "transaction hash does not match receipt")
  ensure (Text.eqIgnoreAsciiCase tx.from_address receipt.from_address &&
      optional_address_matches tx.to_address receipt.to_address)
    (.Validation "transaction endpoints do not match receipt")
  ensure (tx.block_number == receipt.block_number && tx.block_hash == receipt.block_hash)
    (.Validation "transaction block does not match receipt")

def evm_receipt_succeeded (receipt : Evm.EvmTransactionReceipt) : AppResult Bool :=
  match receipt.status with
  | none => .ok true
  | some status =>
    if status = "0x1" ∨ status = "0X1" then .ok true
    else if status = "0x0" ∨ status = "0X0" then .ok false
    else .error (.Validation ("unsupported transaction receipt status: " ++ status))

def mined_block (tx : Evm.EvmTransaction) : AppResult Int := do
  let block_number ← tx.block_number.mapM Evm.parse_hex_quantity_to_i64
  required block_number (.Validation "transaction is not mined")

def native_transfer_matches (tx : Evm.EvmTransaction) (watched_address : String) : Bool :=
  Text.eqIgnoreAsciiCase tx.from_address watched_address ||
    tx.to_address.any (Text.eqIgnoreAsciiCase · watched_address)

def should_insert_native_transfer_event (receipt_succeeded native_asset_is_selected : Bool)
    (native_value_raw : String) (tx : Evm.EvmTransaction) (watched_address : String) : Bool :=
  receipt_succeeded && native_asset_is_selected && native_value_raw != "0" &&
    native_transfer_matches tx watched_address

def should_insert_fee_only_event (receipt_succeeded native_asset_is_selected : Bool)
    (native_value_raw : String) (tx : Evm.EvmTransaction) (watched_address : String) : Bool :=
  native_asset_is_selected && Text.eqIgnoreAsciiCase tx.from_address watched_address &&
    (!receipt_succeeded || native_value_raw == "0")

def evm_native_transfer_event_draft (context : ScanAddressContext) (native_asset : Asset)
    (tx : Evm.EvmTransaction) (block_number : Int) (native_value_raw : String) :
    AppResult AddressEventDraft := do
  let amount_decimal ← Evm.wei_to_decimal_string native_value_raw native_asset.decimals
  return {
    tenant_id := context.tenant_id
    chain_id := context.chain_id
    address_id := context.id
    asset_id := native_asset.id
    event_type := "transfer"
    direction :=
      Evm.evm_transfer_direction tx.from_address (tx.to_address.getD "") context.address
    is_transfer := true
    tx_hash := some tx.hash
    log_index := some (-1)
    block_number := some block_number
    block_hash := tx.block_hash
    confirmations := 0
    from_address := some tx.from_address
    to_address := tx.to_address
    amount_raw := some native_value_raw
    amount_decimal := some amount_decimal
    balance_before_raw := none
    balance_after_raw := none
    balance_delta_raw := none
    metadata := .obj [
      ("source", .str "evm_tx_rescan"),
      ("native_value_raw", .str native_value_raw)] }

/-! ### The rescan -/

structure EvmTransactionRescanTransferSummary where
  asset_id : Uuid
  symbol : String
  token_contract : String
  from_address : String
  to_address : String
  amount_raw : String
  amount_decimal : String
  log_index : Int
deriving DecidableEq

def transfer_summary (decoded : Evm.DecodedRescanTokenTransfer) :
    EvmTransactionRescanTransferSummary :=
  { asset_id := decoded.asset.id
    symbol := decoded.asset.symbol
    token_contract :=
      decoded.transfer.token_contract.getD (decoded.asset.contract_address.getD "")
    from_address := decoded.transfer.from_address
    to_address := decoded.transfer.to_address
    amount_raw := decoded.transfer.amount_raw
    amount_decimal := decoded.transfer.amount_decimal
    log_index := decoded.transfer.log_index }

/-- The first summary of each asset and log index stays. -/
def dedupe_transfer_summaries (seen : List (Uuid × Int)) :
    List EvmTransactionRescanTransferSummary → List EvmTransactionRescanTransferSummary
  | [] => []
  | summary :: summaries =>
    if (summary.asset_id, summary.log_index) ∈ seen then dedupe_transfer_summaries seen summaries
    else summary ::
      dedupe_transfer_summaries ((summary.asset_id, summary.log_index) :: seen) summaries

/-- One event that was stored or known already, and its summary if it is a token transfer. -/
structure Rescanned where
  summary : Option EvmTransactionRescanTransferSummary
  event : Option AddressEvent

structure EvmTransactionRescanResponse where
  chain_id : Uuid
  tx_hash : String
  tx_from : String
  tx_to : Option String
  native_value_raw : String
  block_number : Int
  token_transfer_count : Nat
  inserted_event_count : Nat
  skipped_event_count : Nat
  token_transfers : List EvmTransactionRescanTransferSummary
  events : List AddressEvent

def scan_context (address : WatchedAddress) : ScanAddressContext :=
  { id := address.id
    tenant_id := address.tenant_id
    chain_id := address.chain_id
    address := address.address }

def insert_rescanned (summary : Option EvmTransactionRescanTransferSummary)
    (draft : AddressEventDraft) : Rescan (List Rescanned) := do
  let event ← Prog.perform (.db (.insert_event_and_outbox_if_not_exists draft) : RescanStatement)
  return [⟨summary, event⟩]

/-- The address sends or receives the transfer. -/
def is_party (watched_address : String) (decoded : Evm.DecodedRescanTokenTransfer) : Bool :=
  Text.eqIgnoreAsciiCase decoded.transfer.from_address watched_address ||
    Text.eqIgnoreAsciiCase decoded.transfer.to_address watched_address

def rescan_token_transfer (context : ScanAddressContext) (tx : Evm.EvmTransaction)
    (decoded : Evm.DecodedRescanTokenTransfer) : Rescan (List Rescanned) :=
  if !is_party context.address decoded then return []
  else do
    let draft ← Prog.lift (Evm.transfer_event_draft_with_source context decoded.asset
      decoded.transfer "evm_tx_rescan" tx)
    insert_rescanned (some (transfer_summary decoded)) draft

/-- What the rescan has found out before it looks at the addresses. -/
structure RescanFacts where
  tx : Evm.EvmTransaction
  receipt_succeeded : Bool
  block_number : Int
  native_value_raw : String
  native_asset : Asset
  token_transfers : List Evm.DecodedRescanTokenTransfer

def insert_if (condition : Bool) (draft : AppResult AddressEventDraft) : Rescan (List Rescanned) :=
  if condition then do
    let draft ← Prog.lift draft
    insert_rescanned none draft
  else return []

def rescan_tokens (facts : RescanFacts) (context : ScanAddressContext)
    (selected_assets : List Asset) : Rescan (List Rescanned) :=
  if facts.receipt_succeeded then
    Prog.forEach (rescan_token_transfer context facts.tx)
      (facts.token_transfers.filter (asset_selected selected_assets ·.asset.id))
  else return []

def rescan_address (facts : RescanFacts) (address : WatchedAddress) : Rescan (List Rescanned) := do
  let selected_assets ←
    Prog.perform (.db (.selected_assets_for_address address.id) : RescanStatement)
  let context := scan_context address
  let tokens ← rescan_tokens facts context selected_assets
  let native_asset_is_selected := asset_selected selected_assets facts.native_asset.id
  let native_event ←
    insert_if (should_insert_native_transfer_event facts.receipt_succeeded native_asset_is_selected
        facts.native_value_raw facts.tx address.address)
      (evm_native_transfer_event_draft context facts.native_asset facts.tx facts.block_number
        facts.native_value_raw)
  let fee ←
    insert_if (should_insert_fee_only_event facts.receipt_succeeded native_asset_is_selected
        facts.native_value_raw facts.tx address.address)
      (Evm.evm_fee_only_event_draft context facts.native_asset facts.tx "evm_tx_rescan")
  return tokens ++ native_event ++ fee

def rescan_response (chain_id : Uuid) (facts : RescanFacts) (rescanned : List Rescanned) :
    EvmTransactionRescanResponse :=
  let events := rescanned.filterMap (·.event)
  let token_transfers := dedupe_transfer_summaries [] (rescanned.filterMap (·.summary))
  { chain_id := chain_id
    tx_hash := facts.tx.hash
    tx_from := facts.tx.from_address
    tx_to := facts.tx.to_address
    native_value_raw := facts.native_value_raw
    block_number := facts.block_number
    token_transfer_count := token_transfers.length
    inserted_event_count := events.length
    skipped_event_count := (rescanned.filter (·.event.isNone)).length
    token_transfers := token_transfers
    events := events }

def rescan_addresses (chain_id : Uuid) (watched_addresses : List WatchedAddress)
    (facts : RescanFacts) : Rescan EvmTransactionRescanResponse := do
  let rescanned ← Prog.forEach (rescan_address facts) watched_addresses
  return rescan_response chain_id facts rescanned

def rescan_evm_transaction (tenant_id chain_id : Uuid) (tx_hash : String) :
    Rescan EvmTransactionRescanResponse := do
  Prog.lift (validate_evm_tx_hash tx_hash)
  let chain ← Prog.perform (.db (.chain_by_id chain_id) : RescanStatement)
  Prog.lift (ensure (chain.chain_type == "evm") (.Validation "rescan only supports evm chains"))
  let provider ← Prog.perform (.active_rpc_provider_for_chain chain_id : RescanStatement)
  let _ ← Prog.lift (provider_timeout_duration provider)
  let tx ← Prog.perform (.eth_get_transaction_by_hash tx_hash : RescanStatement)
  let receipt ← Prog.perform (.eth_get_transaction_receipt tx_hash : RescanStatement)
  Prog.lift (validate_evm_rescan_rpc_consistency tx_hash tx receipt)
  let receipt_succeeded ← Prog.lift (evm_receipt_succeeded receipt)
  let block_number ← Prog.lift (mined_block tx)
  let native_value_raw ← Prog.lift (Evm.parse_hex_u256_to_decimal_string tx.value)
  let watched_addresses ←
    Prog.perform (.rescan_watched_addresses_for_chain tenant_id chain_id : RescanStatement)
  let assets ← Prog.perform (.assets_for_chain chain_id : RescanStatement)
  let native_asset ←
    Prog.lift (required (assets.find? (·.asset_type == "native")) (.NotFound "native asset"))
  let token_transfers ← Prog.lift (Evm.decode_rescan_token_transfers receipt assets)
  rescan_addresses chain_id watched_addresses
    { tx, receipt_succeeded, block_number, native_value_raw, native_asset, token_transfers }

end CoinListener.Api
