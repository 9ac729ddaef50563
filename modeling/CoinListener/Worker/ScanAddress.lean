import CoinListener.Worker.EvmScan
import CoinListener.Worker.TronScan
import CoinListener.Worker.BtcScan
import CoinListener.Foundation.Crew

/-! The scan of an address: one provider after the other until one is available. -/
namespace CoinListener.Worker
open Foundation Storage Providers

inductive ScanPlan where
  | EvmNativeBalance
  | Tron
  | Btc
  | Unsupported (chain_type : String)
deriving DecidableEq

def scan_plan_for_chain (chain_type : String) : ScanPlan :=
  match chain_type with
  | "evm" => .EvmNativeBalance
  | "tron" => .Tron
  | "utxo" => .Btc
  | other => .Unsupported other

def is_provider_availability_error : AppError → Bool
  | .Config message =>
    let text := message.toList
    (Text.find "request failed".toList text).isSome ||
      (Text.find "response body failed".toList text).isSome ||
      (Text.find "returned http".toList text).isSome ||
      "no active rpc provider capacity for chain ".toList.isPrefixOf text
  | _ => false

def provider_capacity_error (chain_id : Uuid) : AppError :=
  .Config ("no active rpc provider capacity for chain " ++ Uuid.to_string chain_id)

def provider_attempts_exhausted_error (chain_id : Uuid) (last_provider_error : Option AppError) :
    AppError :=
  last_provider_error.getD (provider_capacity_error chain_id)

/-- The loop all chains share, over the candidates that the rate limiter lets through. -/
def scan_candidates (chain_id : Uuid) (scan : Provider → Scan (List AddressEvent)) :
    List Provider → Option AppError → Scan (List AddressEvent)
  | [], last_provider_error =>
    Prog.fail (provider_attempts_exhausted_error chain_id last_provider_error)
  | provider :: candidates, _ => do
    let result ← (scan provider).attempt
    match result with
    | .ok events => return events
    | .error error =>
      if is_provider_availability_error error then
        scan_candidates chain_id scan candidates (some error)
      else Prog.fail error

def scan_evm_address (context : ScanAddressContext) (candidates : List Provider) :
    Scan (List AddressEvent) :=
  scan_candidates context.chain_id (scan_evm_address_with_provider context) candidates none

def scan_tron_address (context : ScanAddressContext) (candidates : List Provider) :
    Scan (List AddressEvent) :=
  scan_candidates context.chain_id (scan_tron_address_with_provider context) candidates none

def scan_btc_address (context : ScanAddressContext) (candidates : List Provider) :
    Scan (List AddressEvent) :=
  scan_candidates context.chain_id (scan_btc_address_with_provider context) candidates none

/-- Nothing is scanned on a chain of another type. -/
def scan_address (chain_type : String) (context : ScanAddressContext)
    (candidates : List Provider) : Scan (List AddressEvent) :=
  match scan_plan_for_chain chain_type with
  | .EvmNativeBalance => scan_evm_address context candidates
  | .Tron => scan_tron_address context candidates
  | .Btc => scan_btc_address context candidates
  | .Unsupported _ => return []

/-- The cursors a scan reads. -/
def cursor_types (chain_type : String) : List String :=
  match scan_plan_for_chain chain_type with
  | .EvmNativeBalance => [EVM_ERC20_TRANSFER_CURSOR]
  | .Tron => [TRON_TRX_TRANSFER_CURSOR, TRON_TRC20_TRANSFER_CURSOR]
  | .Btc => [BTC_TRANSACTION_CURSOR]
  | .Unsupported _ => []

/-! ### Reading from the provider -/

section Reading
open Prog
variable {context : ScanAddressContext} {S : Statement → Prop} (hremote : ∀ c, S (.remote c))
include hremote

theorem call_only (c : Call) : (call c).Only S :=
  Only.perform (hremote c)

theorem eth_get_logs_only (filter : Evm.EvmLogFilter) : (eth_get_logs filter).Only S :=
  Only.bind Only.lift fun _ => call_only hremote _

theorem account_transactions_only (address : String) (min_timestamp : Int)
    (fingerprint : Option String) :
    (account_transactions_page address min_timestamp fingerprint).Only S :=
  Only.bind Only.lift fun _ => call_only hremote _

theorem account_trc20_transfers_only (address contract_address : String) (min_timestamp : Int)
    (fingerprint : Option String) :
    (account_trc20_transfers_page address contract_address min_timestamp fingerprint).Only S :=
  Only.bind Only.lift fun _ => Only.bind Only.lift fun _ => call_only hremote _

theorem address_balance_only (address : String) :
    (address_balance address).Only S :=
  Only.bind Only.lift fun _ => Only.bind (call_only hremote _) fun _ => Only.lift

theorem address_transactions_only (address : String) (last_seen_txid : Option String) :
    (address_transactions_page address last_seen_txid).Only S :=
  Only.bind Only.lift fun _ => Only.bind Only.lift fun _ => Only.bind (call_only hremote _) fun _ =>
    Only.lift

theorem trx_pages_only (native_asset : Asset) (trx_from : Int) (rounds page_index : Nat)
    (fingerprint : Option String) :
    (trx_pages context native_asset trx_from rounds page_index fingerprint).Only S := by
  induction rounds generalizing page_index fingerprint with
  | zero => exact Only.done
  | succ rounds ih =>
    refine Only.bind (account_transactions_only hremote ..) fun page => Only.bind Only.lift fun _ => ?_
    refine Only.bind Only.lift fun transfers => ?_
    cases page.next_fingerprint with
    | none => exact Only.done
    | some next => exact Only.bind (ih _ _) fun _ => Only.done

theorem trc20_pages_only (asset : Asset) (contract_address : String) (trc20_from : Int)
    (rounds page_index : Nat) (fingerprint : Option String) (collected : Collected) :
    (trc20_pages context asset contract_address trc20_from rounds page_index fingerprint
      collected).Only S := by
  induction rounds generalizing page_index fingerprint collected with
  | zero => exact Only.done
  | succ rounds ih =>
    refine Only.bind (account_trc20_transfers_only hremote ..) fun page => ?_
    refine Only.bind Only.lift fun _ => Only.bind Only.lift fun transfers => ?_
    dsimp only
    cases page.next_fingerprint with
    | none => exact Only.done
    | some next => exact ih _ _ _

theorem trc20_assets_pages_only (trc20_from : Int) (assets : List Asset) (collected : Collected) :
    (trc20_assets_pages context trc20_from assets collected).Only S := by
  induction assets generalizing collected with
  | nil => exact Only.done
  | cons asset assets ih =>
    unfold trc20_assets_pages
    split
    · exact ih collected
    · exact Only.bind (trc20_pages_only hremote ..) fun _ => ih _

theorem btc_pages_only (address : String) (from_block : Int) (rounds pages_processed : Nat)
    (last_seen_txid : Option String) :
    (btc_pages address from_block rounds pages_processed last_seen_txid).Only S := by
  induction rounds generalizing pages_processed last_seen_txid with
  | zero => exact Only.done
  | succ rounds ih =>
    refine Only.bind (address_transactions_only hremote ..) fun page => ?_
    refine Only.bind Only.lift fun process => ?_
    split
    · exact Only.done
    · refine Only.bind Only.lift fun transfers => ?_
      cases page.next_last_seen_txid with
      | none => exact Only.done
      | some next => exact Only.bind (ih _ _) fun _ => Only.done

end Reading

/-! ### The statements of a scan -/

/-- Reads and writes that stay with the address and with the cursors of the chain type. Earlier
balances are not read. -/
def Local (context : ScanAddressContext) (chain_type : String) : Statement → Prop
  | .db (.scan_cursor address_id cursor_type) =>
    address_id = context.id ∧ cursor_type ∈ cursor_types chain_type
  | .db (.upsert_scan_cursor cursor) => cursor.address_id = context.id
  | .db (.insert_balance_snapshot request) => request.address_id = context.id
  | .db (.latest_balance_snapshot ..) => False
  | _ => True

section Local
open Prog
variable {context : ScanAddressContext} {chain_type : String}

theorem insert_event_local (draft : AddressEventDraft) :
    (insert_event draft).Only (Local context chain_type) :=
  Only.bind (Only.perform trivial) fun _ => Only.done

theorem write_cursor_local (cursor_type : String) (value : Option Int) :
    (write_cursor context cursor_type value).Only (Local context chain_type) := by
  cases value with
  | some value => exact Only.perform rfl
  | none => exact Only.done

theorem erc20_asset_local (watched_topic : String) (range : BlockRange) (asset : Asset) :
    (scan_erc20_asset context watched_topic range asset).Only (Local context chain_type) := by
  unfold scan_erc20_asset
  split
  · exact Only.done
  · refine Only.forEach fun filter _ => ?_
    refine Only.bind (eth_get_logs_only (fun _ => trivial) _) fun logs => ?_
    refine Only.forEach fun log _ => ?_
    exact Only.bind Only.lift fun _ => insert_event_local _

theorem erc20_transfers_local (latest_block default_confirmations : Int)
    (selected_assets : List Asset)
    (hcursor : EVM_ERC20_TRANSFER_CURSOR ∈ cursor_types chain_type) :
    (scan_evm_erc20_transfers context latest_block default_confirmations selected_assets).Only
      (Local context chain_type) := by
  refine Only.bind (Only.perform ⟨rfl, hcursor⟩) fun cursor => ?_
  refine Only.bind Only.lift fun range => ?_
  cases range with
  | none => exact Only.done
  | some range =>
    dsimp only
    split
    · exact Only.done
    · refine Only.bind Only.lift fun topic => Only.bind Only.lift fun ranges => ?_
      refine Only.forEach fun range _ => ?_
      refine Only.bind (Only.forEach fun asset _ => erc20_asset_local topic range asset) fun _ => ?_
      exact Only.bind (Only.perform rfl) fun _ => Only.done

theorem tron_local (provider : Provider)
    (htrx : TRON_TRX_TRANSFER_CURSOR ∈ cursor_types chain_type)
    (htrc20 : TRON_TRC20_TRANSFER_CURSOR ∈ cursor_types chain_type) :
    (scan_tron_address_with_provider context provider).Only (Local context chain_type) := by
  refine Only.bind Only.lift fun _ => Only.bind (Only.perform trivial) fun native_asset => ?_
  refine Only.bind (Only.perform trivial) fun selected_assets => Only.bind Only.lift fun _ => ?_
  refine Only.bind (Only.perform ⟨rfl, htrx⟩) fun trx_cursor => ?_
  refine Only.bind ?_ fun trx_transfers => ?_
  · split
    · exact trx_pages_only (fun _ => trivial) ..
    · exact Only.done
  refine Only.bind (Only.perform ⟨rfl, htrc20⟩) fun trc20_cursor => ?_
  refine Only.bind (trc20_assets_pages_only (fun _ => trivial) ..) fun trc20 => ?_
  refine Only.bind (Only.forEach fun _ _ => insert_event_local _) fun trx_events => ?_
  refine Only.bind (Only.forEach fun _ _ => insert_event_local _) fun trc20_events => ?_
  refine Only.bind (write_cursor_local ..) fun _ => ?_
  exact Only.bind (write_cursor_local ..) fun _ => Only.done

theorem btc_local (provider : Provider)
    (hcursor : BTC_TRANSACTION_CURSOR ∈ cursor_types chain_type) :
    (scan_btc_address_with_provider context provider).Only (Local context chain_type) := by
  refine Only.bind Only.lift fun _ => Only.bind (Only.perform trivial) fun native_asset => ?_
  refine Only.bind (Only.perform trivial) fun selected_assets => ?_
  split
  · exact Only.done
  refine Only.bind Only.lift fun _ => Only.bind (address_balance_only (fun _ => trivial) _)
    fun balance => ?_
  refine Only.bind (Only.perform rfl) fun _ => ?_
  refine Only.bind (Only.perform ⟨rfl, hcursor⟩) fun cursor => ?_
  refine Only.bind (btc_pages_only (fun _ => trivial) ..) fun transfers => ?_
  refine Only.bind (Only.forEach fun _ _ => insert_event_local _) fun events => ?_
  exact Only.bind (write_cursor_local ..) fun _ => Only.done

end Local

end CoinListener.Worker
