import CoinListener.Worker.Statement

/-! The EVM scan: the native balance and the ERC-20 transfers of an address. -/
namespace CoinListener.Worker
open Foundation Storage Providers

/-! ### EVM balances -/

def eth_block_number : Scan Int := do
  let value ← call .eth_block_number
  Prog.lift (Evm.parse_hex_quantity_to_i64 value)

def eth_get_logs (filter : Evm.EvmLogFilter) : Scan (List Evm.EvmLog) := do
  let filter ← Prog.lift filter.to_rpc_params
  call (.eth_get_logs filter)

def should_emit_balance_change (previous : Option BalanceSnapshot) (current : BalanceSnapshot) :
    Bool :=
  match previous with
  | some previous => previous.balance_raw != current.balance_raw
  | none => false

def scan_evm_native_balance_with_context (context : ScanAddressContext) (asset : Asset)
    (provider : Provider) (block_number : Int) : Scan (List AddressEvent) := do
  let balance_hex ← call (.eth_get_balance context.address)
  let balance_raw ← Prog.lift (Evm.parse_hex_u256_to_decimal_string balance_hex)
  let balance_decimal ← Prog.lift (Evm.wei_to_decimal_string balance_raw asset.decimals)
  let current ← query (.insert_balance_snapshot
    (balance_snapshot_request context asset provider (some block_number) balance_raw
      balance_decimal))
  let previous ← query (.latest_balance_snapshot context.id asset.id (some current.id))
  match previous with
  | some previous =>
    if should_emit_balance_change (some previous) current then do
      let draft ← Prog.lift (Evm.evm_balance_change_event context asset previous current provider)
      insert_event draft
    else pure []
  | none => return []

/-! ### EVM transfers -/

structure BlockRange where
  from_block : Int
  to_block : Int
deriving DecidableEq

/-- Each round covers at least one block, so as many rounds as there are blocks suffice. -/
def block_ranges (to_block max_block_span : Int) : Nat → Int → List BlockRange
  | 0, _ => []
  | rounds + 1, current_from =>
    if current_from ≤ to_block then
      let current_to := min (saturating_i64 (current_from + (max_block_span - 1))) to_block
      ⟨current_from, current_to⟩ ::
        if current_to = to_block then []
        else block_ranges to_block max_block_span rounds (current_to + 1)
    else []

def bounded_block_ranges (from_block to_block max_block_span : Int) : AppResult (List BlockRange) :=
  if max_block_span ≤ 0 then .error (.Validation "max block span must be positive")
  else if to_block < from_block then .ok []
  else .ok (block_ranges to_block max_block_span (to_block - from_block + 1).toNat from_block)

def evm_transfer_scan_range (cursor : Option ScanCursor) (latest_block default_confirmations : Int) :
    AppResult (Option (Int × Int)) :=
  if default_confirmations < 0 then
    .error (.Validation "default_confirmations cannot be negative")
  else
    let confirmed_to := wrap_i64 (latest_block - default_confirmations)
    if confirmed_to < 0 then .ok none
    else
      let from_block := match cursor with
        | some cursor => wrap_i64 (cursor.last_scanned_block + 1)
        | none => max (confirmed_to - EVM_TRANSFER_INITIAL_WINDOW_BLOCKS + 1) 0
      if confirmed_to < from_block then .ok none else .ok (some (from_block, confirmed_to))

def incoming (contract_address watched_topic : String) (range : BlockRange) : Evm.EvmLogFilter :=
  { address := contract_address
    from_block := range.from_block
    to_block := range.to_block
    topics := [some Evm.TRANSFER_TOPIC0, none, some watched_topic] }

def outgoing (contract_address watched_topic : String) (range : BlockRange) : Evm.EvmLogFilter :=
  { address := contract_address
    from_block := range.from_block
    to_block := range.to_block
    topics := [some Evm.TRANSFER_TOPIC0, some watched_topic, none] }

def scan_erc20_log (context : ScanAddressContext) (asset : Asset) (log : Evm.EvmLog) :
    Scan (List AddressEvent) := do
  let transfer ← Prog.lift (Evm.decode_erc20_transfer_log log asset.decimals)
  insert_event (Evm.transfer_event_draft context asset transfer)

def scan_erc20_filter (context : ScanAddressContext) (asset : Asset) (filter : Evm.EvmLogFilter) :
    Scan (List AddressEvent) := do
  let logs ← eth_get_logs filter
  Prog.forEach (scan_erc20_log context asset) logs

def scan_erc20_asset (context : ScanAddressContext) (watched_topic : String) (range : BlockRange)
    (asset : Asset) : Scan (List AddressEvent) :=
  match asset.contract_address with
  | none => return []
  | some contract_address =>
    Prog.forEach (scan_erc20_filter context asset)
      [incoming contract_address watched_topic range, outgoing contract_address watched_topic range]

def scan_erc20_range (context : ScanAddressContext) (watched_topic : String) (assets : List Asset)
    (range : BlockRange) : Scan (List AddressEvent) := do
  let events ← Prog.forEach (scan_erc20_asset context watched_topic range) assets
  query (.upsert_scan_cursor (cursor_at context EVM_ERC20_TRANSFER_CURSOR range.to_block))
  return events

def scan_evm_erc20_transfers (context : ScanAddressContext)
    (latest_block default_confirmations : Int) (selected_assets : List Asset) :
    Scan (List AddressEvent) := do
  let cursor ← query (.scan_cursor context.id EVM_ERC20_TRANSFER_CURSOR)
  let range ← Prog.lift (evm_transfer_scan_range cursor latest_block default_confirmations)
  match range with
  | none => return []
  | some (from_block, to_block) =>
    let assets := selected_assets_by_type selected_assets "erc20"
    if assets.isEmpty then return []
    else do
      let watched_topic ← Prog.lift (Evm.address_to_topic context.address)
      let ranges ← Prog.lift (bounded_block_ranges from_block to_block EVM_LOG_MAX_BLOCK_SPAN)
      Prog.forEach (scan_erc20_range context watched_topic assets) ranges

def scan_evm_address_with_provider (context : ScanAddressContext) (provider : Provider) :
    Scan (List AddressEvent) := do
  Prog.lift (ensure_provider_matches_context provider context)
  let chain ← query (.chain_by_id context.chain_id)
  let native_asset ← query (.native_asset_for_chain context.chain_id)
  let selected_assets ← query (.selected_assets_for_address context.id)
  let _ ← Prog.lift (provider_timeout_duration provider)
  let latest_block ← eth_block_number
  let events ←
    (if native_asset_selected selected_assets native_asset then
      scan_evm_native_balance_with_context context native_asset provider latest_block
    else .done [])
  let transfers ← scan_evm_erc20_transfers context latest_block chain.default_confirmations
    selected_assets
  return events ++ transfers

end CoinListener.Worker
