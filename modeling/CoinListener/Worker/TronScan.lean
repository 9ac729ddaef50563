import CoinListener.Worker.Statement

/-! The TRON scan: native transfers, then the transfers of each selected token. -/
namespace CoinListener.Worker
open Foundation Storage Providers

/-- A blank fingerprint is not sent. -/
def push_fingerprint (fingerprint : Option String) : Option String :=
  (fingerprint.map Text.trim).filter (· ≠ "")

def account_transactions_page (address : String) (min_timestamp : Int)
    (fingerprint : Option String) : Scan (Tron.TronPage Tron.TrxTransferPayload) := do
  let address ← Prog.lift (Tron.normalize_tron_address address)
  call (.tron_transactions address min_timestamp (push_fingerprint fingerprint))

def account_trc20_transfers_page (address contract_address : String) (min_timestamp : Int)
    (fingerprint : Option String) : Scan (Tron.TronPage Tron.Trc20TransferPayload) := do
  let address ← Prog.lift (Tron.normalize_tron_address address)
  let contract_address ← Prog.lift (Tron.normalize_tron_address contract_address)
  call (.tron_trc20_transfers address contract_address min_timestamp (push_fingerprint fingerprint))

def tron_cursor_value (transfers : List Tron.DecodedTronTransfer) : Option Int :=
  (transfers.map (·.cursor_value)).max?

def tron_transfer_should_scan (asset : Asset) (transfer : Tron.DecodedTronTransfer) : Bool :=
  match asset.contract_address, transfer.token_contract with
  | some asset_contract, some transfer_contract => asset_contract == transfer_contract
  | none, none => asset.asset_type == "native"
  | _, _ => false

/-- The TRC20 transfers gathered so far, and the greatest of their cursor values. -/
structure Collected where
  cursor_value : Option Int
  transfers : List (Asset × Tron.DecodedTronTransfer)

def collect_matching_tron_transfer (asset : Asset) (collected : Collected)
    (transfer : Tron.DecodedTronTransfer) : Collected :=
  if tron_transfer_should_scan asset transfer then
    { cursor_value := some (match collected.cursor_value with
        | some current => max current transfer.cursor_value
        | none => transfer.cursor_value)
      transfers := collected.transfers ++ [(asset, transfer)] }
  else collected

/-- The transfers of one page from the item at `index` on. -/
def decode_trx_items (native_asset : Asset) (page_index : Nat) :
    Nat → List (Tron.Item Tron.TrxTransferPayload) → AppResult (List Tron.DecodedTronTransfer)
  | _, [] => .ok []
  | index, payload :: items => do
    let log_index ← paged_log_index page_index index
    let decoded ← Tron.try_decode_trx_transfer_at_index payload native_asset.decimals log_index
    let rest ← decode_trx_items native_asset page_index (index + 1) items
    match decoded with
    | .Transfer transfer => return transfer :: rest
    | .Skip => return rest

def decode_trc20_items (asset : Asset) (contract_address : String) (page_index : Nat) :
    Nat → List (Tron.Item Tron.Trc20TransferPayload) → AppResult (List Tron.DecodedTronTransfer)
  | _, [] => .ok []
  | index, payload :: items => do
    let log_index ← paged_log_index page_index index
    let transfer ← Tron.decode_trc20_transfer_at_index payload contract_address asset.decimals
      log_index
    let rest ← decode_trc20_items asset contract_address page_index (index + 1) items
    return transfer :: rest

/-- Every transfer read from a page is an item of it. -/
theorem mem_decode_trx_items {native_asset : Asset} {page_index index : Nat}
    {items : List (Tron.Item Tron.TrxTransferPayload)} {ts : List Tron.DecodedTronTransfer}
    (h : decode_trx_items native_asset page_index index items = .ok ts) :
    ∀ t ∈ ts, ∃ item ∈ items, ∃ n,
      Tron.try_decode_trx_transfer_at_index item native_asset.decimals n = .ok (.Transfer t) := by
  induction items generalizing index ts with
  | nil =>
    obtain rfl := Except.ok.inj h
    exact nofun
  | cons item items ih =>
    obtain ⟨n, _, h⟩ := bind_ok h
    obtain ⟨decoded, hdecoded, h⟩ := bind_ok h
    obtain ⟨rest, hrest, h⟩ := bind_ok h
    have hlater : ∀ t ∈ rest, ∃ i ∈ item :: items, ∃ n,
        Tron.try_decode_trx_transfer_at_index i native_asset.decimals n = .ok (.Transfer t) := by
      intro t ht
      obtain ⟨i, hi, hdecode⟩ := ih hrest t ht
      exact ⟨i, List.mem_cons_of_mem _ hi, hdecode⟩
    cases decoded with
    | Skip =>
      obtain rfl := Except.ok.inj h
      exact hlater
    | Transfer transfer =>
      obtain rfl := Except.ok.inj h
      intro t ht
      rcases List.mem_cons.mp ht with rfl | ht
      · exact ⟨item, List.mem_cons_self .., n, hdecoded⟩
      · exact hlater t ht

/-- The pages of native transfers. The limit ends the loop within the given rounds. -/
def trx_pages (context : ScanAddressContext) (native_asset : Asset) (trx_from : Int) :
    Nat → Nat → Option String → Scan (List Tron.DecodedTronTransfer)
  | 0, _, _ => return []
  | rounds + 1, page_index, fingerprint => do
    let page ← account_transactions_page context.address trx_from fingerprint
    Prog.lift (ensure_provider_page_limit "TRON account transactions" (page_index + 1)
      page.next_fingerprint.isSome)
    let transfers ← Prog.lift (decode_trx_items native_asset page_index 0 page.data)
    match page.next_fingerprint with
    | none => return transfers
    | some next => do
      let rest ← trx_pages context native_asset trx_from rounds (page_index + 1) (some next)
      return transfers ++ rest

/-- The pages of one token's transfers. -/
def trc20_pages (context : ScanAddressContext) (asset : Asset) (contract_address : String)
    (trc20_from : Int) : Nat → Nat → Option String → Collected → Scan Collected
  | 0, _, _, collected => return collected
  | rounds + 1, page_index, fingerprint, collected => do
    let page ← account_trc20_transfers_page context.address contract_address trc20_from fingerprint
    Prog.lift (ensure_provider_page_limit "TRON TRC20 transfers" (page_index + 1)
      page.next_fingerprint.isSome)
    let transfers ← Prog.lift (decode_trc20_items asset contract_address page_index 0 page.data)
    let collected := transfers.foldl (collect_matching_tron_transfer asset) collected
    match page.next_fingerprint with
    | none => return collected
    | some next =>
      trc20_pages context asset contract_address trc20_from rounds (page_index + 1) (some next)
        collected

def trc20_assets_pages (context : ScanAddressContext) (trc20_from : Int) :
    List Asset → Collected → Scan Collected
  | [], collected => return collected
  | asset :: assets, collected =>
    match asset.contract_address with
    | none => trc20_assets_pages context trc20_from assets collected
    | some contract_address => do
      let collected ← trc20_pages context asset contract_address trc20_from
        MAX_PROVIDER_PAGES_PER_SCAN 0 none collected
      trc20_assets_pages context trc20_from assets collected

def next_after (cursor : Option ScanCursor) : Int :=
  match cursor with
  | some cursor => wrap_i64 (cursor.last_scanned_block + 1)
  | none => 0

def insert_tron_transfer (context : ScanAddressContext) (asset : Asset)
    (transfer : Tron.DecodedTronTransfer) : Scan (List AddressEvent) :=
  insert_event (Tron.tron_transfer_event_draft context asset transfer)

def scan_tron_address_with_provider (context : ScanAddressContext) (provider : Provider) :
    Scan (List AddressEvent) := do
  Prog.lift (ensure_provider_matches_context provider context)
  let native_asset ← query (.native_asset_for_chain context.chain_id)
  let selected_assets ← query (.selected_assets_for_address context.id)
  let _ ← Prog.lift (provider_timeout_duration provider)
  let trx_cursor ← query (.scan_cursor context.id TRON_TRX_TRANSFER_CURSOR)
  let trx_transfers ←
    (if native_asset_selected selected_assets native_asset then
      trx_pages context native_asset (next_after trx_cursor) MAX_PROVIDER_PAGES_PER_SCAN 0 none
    else .done [])
  let trc20_cursor ← query (.scan_cursor context.id TRON_TRC20_TRANSFER_CURSOR)
  let trc20 ← trc20_assets_pages context (next_after trc20_cursor)
    (selected_assets_by_type selected_assets "trc20") ⟨none, []⟩
  let trx_events ← Prog.forEach (insert_tron_transfer context native_asset)
    (trx_transfers.filter (tron_transfer_should_scan native_asset))
  let trc20_events ← Prog.forEach (fun t => insert_tron_transfer context t.1 t.2) trc20.transfers
  write_cursor context TRON_TRX_TRANSFER_CURSOR (tron_cursor_value trx_transfers)
  write_cursor context TRON_TRC20_TRANSFER_CURSOR trc20.cursor_value
  return trx_events ++ trc20_events

end CoinListener.Worker
