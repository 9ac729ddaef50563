import CoinListener.Worker.Statement

/-! The BTC scan: the balance, then the transaction pages from the newest on. -/
namespace CoinListener.Worker
open Foundation Storage Providers

def address_balance (address : String) : Scan Btc.BtcBalance := do
  let address ← Prog.lift (Btc.normalize_btc_address address)
  let body ← call (.btc_address address)
  Prog.lift (Btc.decode_btc_confirmed_balance body)

def address_transactions_page (address : String) (last_seen_txid : Option String) :
    Scan Btc.BtcTransactionPage := do
  let address ← Prog.lift (Btc.normalize_btc_address address)
  Prog.lift (Btc.validate_optional_btc_hash last_seen_txid "last_seen_txid")
  let body ← call (.btc_transactions address last_seen_txid)
  Prog.lift (Btc.decode_btc_transaction_page body)

def btc_cursor_value (transfers : List Btc.DecodedBtcTransfer) : Option Int :=
  (transfers.map (·.block_number)).max?

def btc_scan_from_block (cursor : Option ScanCursor) : Int :=
  match cursor with
  | some cursor => max (saturating_i64
      (cursor.last_scanned_block - saturating_i64 (BTC_CURSOR_OVERLAP_BLOCKS - 1))) 0
  | none => 0

def should_process_btc_transaction_page (pages_processed transaction_count : Nat) :
    AppResult Bool := do
  if transaction_count = 0 then return false
  if MAX_PROVIDER_PAGES_PER_SCAN ≤ pages_processed then
    ensure_provider_page_limit "BTC address transactions" pages_processed true
  return true

/-- The transfers of a page that are not below the first block of the scan. -/
def classify_btc_page (address : String) (from_block : Int) :
    List Btc.BtcTransaction → AppResult (List Btc.DecodedBtcTransfer)
  | [] => .ok []
  | tx :: transactions => do
    let transfer ← Btc.classify_btc_transaction tx address
    let rest ← classify_btc_page address from_block transactions
    match transfer with
    | none => return rest
    | some transfer =>
      if transfer.block_number < from_block then return rest else return transfer :: rest

/-- The pages of transactions, newest first. The limit ends the loop within the given rounds. -/
def btc_pages (address : String) (from_block : Int) :
    Nat → Nat → Option String → Scan (List Btc.DecodedBtcTransfer)
  | 0, _, _ => return []
  | rounds + 1, pages_processed, last_seen_txid => do
    let page ← address_transactions_page address last_seen_txid
    let process ← Prog.lift
      (should_process_btc_transaction_page pages_processed page.transactions.length)
    if !process then return []
    else do
      let transfers ← Prog.lift (classify_btc_page address from_block page.transactions)
      match page.next_last_seen_txid with
      | none => return transfers
      | some next => do
        let rest ← btc_pages address from_block rounds (pages_processed + 1) (some next)
        return transfers ++ rest

def insert_btc_transfer (context : ScanAddressContext) (native_asset : Asset)
    (transfer : Btc.DecodedBtcTransfer) : Scan (List AddressEvent) :=
  insert_event (Btc.btc_transfer_event_draft context native_asset transfer)

def scan_btc_address_with_provider (context : ScanAddressContext) (provider : Provider) :
    Scan (List AddressEvent) := do
  Prog.lift (ensure_provider_matches_context provider context)
  let native_asset ← query (.native_asset_for_chain context.chain_id)
  let selected_assets ← query (.selected_assets_for_address context.id)
  if !native_asset_selected selected_assets native_asset then return []
  else do
    let _ ← Prog.lift (provider_timeout_duration provider)
    let balance ← address_balance context.address
    let _ ← query (.insert_balance_snapshot (balance_snapshot_request context native_asset provider
      none balance.balance_raw balance.balance_decimal))
    let cursor ← query (.scan_cursor context.id BTC_TRANSACTION_CURSOR)
    let transfers ← btc_pages context.address (btc_scan_from_block cursor)
      (MAX_PROVIDER_PAGES_PER_SCAN + 1) 0 none
    let events ← Prog.forEach (insert_btc_transfer context native_asset) transfers
    write_cursor context BTC_TRANSACTION_CURSOR (btc_cursor_value transfers)
    return events

end CoinListener.Worker
