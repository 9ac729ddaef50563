import CoinListener.Storage.Scan
import CoinListener.Providers.Evm
import CoinListener.Providers.Tron
import CoinListener.Providers.Btc

/-! What a scan is made of: database statements, provider requests, and the checks all chains share. -/
namespace CoinListener.Worker
open Foundation Storage Providers

/-! ### Statements -/

/-- A request to the provider. -/
inductive Call where
  | eth_block_number
  | eth_get_balance (address : String)
  | eth_get_logs (filter : Evm.EvmLogFilter)
  | tron_transactions (address : String) (min_timestamp : Int) (fingerprint : Option String)
  | tron_trc20_transfers (address contract_address : String) (min_timestamp : Int)
      (fingerprint : Option String)
  | btc_address (address : String)
  | btc_transactions (address : String) (last_seen_txid : Option String)

abbrev Call.Answer : Call → Type
  | .eth_block_number => String
  | .eth_get_balance _ => String
  | .eth_get_logs _ => List Evm.EvmLog
  | .tron_transactions .. => Tron.TronPage Tron.TrxTransferPayload
  | .tron_trc20_transfers .. => Tron.TronPage Tron.Trc20TransferPayload
  | .btc_address _ => Json
  | .btc_transactions .. => Except String (List Btc.BtcTransaction)

/-- A scan talks to the database and to one provider. -/
inductive Statement where
  | db (query : Query)
  | remote (call : Call)

abbrev Statement.Answer : Statement → Type
  | .db query => query.Answer
  | .remote call => call.Answer

abbrev Scan (α : Type) := Prog Statement Statement.Answer AppError α

def query (q : Query) : Scan q.Answer := Prog.perform (.db q : Statement)

def call (c : Call) : Scan c.Answer := Prog.perform (.remote c : Statement)

/-- Stores the event of a draft; the result is empty if it is known. -/
def insert_event (draft : AddressEventDraft) : Scan (List AddressEvent) := do
  let event ← query (.insert_event_and_outbox_if_not_exists draft)
  return event.toList

/-! ### Constants and checks -/

def EVM_ERC20_TRANSFER_CURSOR : String := "evm_erc20_transfer"
def EVM_TRANSFER_INITIAL_WINDOW_BLOCKS : Int := 1000
def EVM_LOG_MAX_BLOCK_SPAN : Int := EVM_TRANSFER_INITIAL_WINDOW_BLOCKS
def TRON_TRX_TRANSFER_CURSOR : String := "tron_trx_transfer"
def TRON_TRC20_TRANSFER_CURSOR : String := "tron_trc20_transfer"
def BTC_TRANSACTION_CURSOR : String := "btc_transaction"
def MAX_PROVIDER_PAGES_PER_SCAN : Nat := 10
def BTC_CURSOR_OVERLAP_BLOCKS : Int := 1
def PROVIDER_PAGE_LOG_INDEX_STRIDE : Nat := 10000

def ensure_provider_matches_context (provider : Provider) (context : ScanAddressContext) :
    AppResult Unit :=
  if provider.chain_id ≠ context.chain_id then
    .error (.Validation "provider chain_id does not match scan context")
  else .ok ()

def provider_timeout_duration (provider : Provider) : AppResult Nat :=
  if provider.timeout_ms ≤ 0 then .error (.Validation "timeout_ms must be positive")
  else .ok provider.timeout_ms.toNat

def native_asset_selected (selected_assets : List Asset) (native_asset : Asset) : Bool :=
  selected_assets.any (·.id == native_asset.id)

def selected_assets_by_type (selected_assets : List Asset) (asset_type : String) : List Asset :=
  sort_assets symbol_le (selected_assets.filter (·.asset_type == asset_type))

def ensure_provider_page_limit (label : String) (pages_processed : Nat) (has_next_page : Bool) :
    AppResult Unit :=
  if has_next_page && MAX_PROVIDER_PAGES_PER_SCAN ≤ pages_processed then
    .error (.Config (label ++ " pagination exceeded max page limit " ++
      toString MAX_PROVIDER_PAGES_PER_SCAN))
  else .ok ()

theorem ensure_page_ok {label : String} {pages : Nat} {has_next_page : Bool} {u : Unit}
    (h : ensure_provider_page_limit label pages has_next_page = .ok u)
    (hnext : has_next_page = true) : pages < MAX_PROVIDER_PAGES_PER_SCAN := by
  by_contra hlt
  have hle : MAX_PROVIDER_PAGES_PER_SCAN ≤ pages := Nat.le_of_not_lt hlt
  simp [ensure_provider_page_limit, hnext, hle] at h

/-- The position of an item among all pages. -/
def position (page_index item_index : Nat) : Nat :=
  page_index * PROVIDER_PAGE_LOG_INDEX_STRIDE + item_index

/-- The position, as long as it fits a signed 32-bit integer. -/
def paged_log_index (page_index item_index : Nat) : AppResult Int :=
  if position page_index item_index ≤ 2147483647 then .ok (position page_index item_index)
  else .error (.Validation "provider page item index overflow")

def balance_snapshot_request (context : ScanAddressContext) (asset : Asset) (provider : Provider)
    (block_number : Option Int) (balance_raw balance_decimal : String) :
    CreateBalanceSnapshotRequest :=
  { tenant_id := context.tenant_id
    chain_id := context.chain_id
    address_id := context.id
    asset_id := asset.id
    balance_raw := balance_raw
    balance_decimal := balance_decimal
    block_number := block_number
    block_hash := none
    source_provider_id := some provider.id }

def cursor_at (context : ScanAddressContext) (cursor_type : String) (value : Int) : ScanCursor :=
  { tenant_id := context.tenant_id
    chain_id := context.chain_id
    address_id := context.id
    cursor_type := cursor_type
    last_scanned_block := value }

def write_cursor (context : ScanAddressContext) (cursor_type : String) (value : Option Int) :
    Scan Unit :=
  match value with
  | some value => query (.upsert_scan_cursor (cursor_at context cursor_type value))
  | none => return ()

end CoinListener.Worker
