import CoinListener.Api.EvmRescan
import CoinListener.Foundation.Recording
import CoinListener.Worker.EvmCoverage

/-! What a scan and a rescan of the same logs insert. -/
namespace CoinListener.Api
open Foundation Storage Providers Worker

/-! ### What they are answered -/

/-- The tables and the node while nothing but events is written. -/
structure Answers where
  db : Db
  /-- the active assets of the chain, in the order they are listed -/
  assets : List Asset
  watched_addresses : List WatchedAddress
  provider : Provider
  tx : Evm.EvmTransaction
  receipt : Evm.EvmTransactionReceipt
  block_number : Int
  /-- the row an insert returns, if it returns one -/
  inserted : AddressEventDraft → Option AddressEvent

namespace Answers
variable (w : Answers)

/-- The drafts of the inserts are recorded. -/
def rescan_step (record : List AddressEventDraft) :
    (s : RescanStatement) → AppResult s.Answer × List AddressEventDraft
  | .db (.insert_event_and_outbox_if_not_exists draft) => (.ok (w.inserted draft), record ++ [draft])
  | .db q => ((q.run w.db).1, record)
  | .active_rpc_provider_for_chain _ => (.ok w.provider, record)
  | .rescan_watched_addresses_for_chain .. => (.ok w.watched_addresses, record)
  | .assets_for_chain _ => (.ok w.assets, record)
  | .eth_get_transaction_by_hash _ => (.ok w.tx, record)
  | .eth_get_transaction_receipt _ => (.ok w.receipt, record)

/-- A log of the receipt, as the chain holds it. -/
def on_chain (log : Evm.EvmLog) : ChainLog :=
  ⟨log, w.block_number⟩

/-- The logs of the receipt that match a filter. -/
def matching (filter : Evm.EvmLogFilter) : List Evm.EvmLog :=
  w.receipt.logs.filter fun log => (w.on_chain log).Matches filter

/-- The node returns the logs that match. -/
def scan_step (record : List AddressEventDraft) :
    (s : Statement) → AppResult s.Answer × List AddressEventDraft
  | .db (.insert_event_and_outbox_if_not_exists draft) => (.ok (w.inserted draft), record ++ [draft])
  | .db q => ((q.run w.db).1, record)
  | .remote (.eth_get_logs filter) => (.ok (w.matching filter), record)
  | .remote _ => (.error (.Config "not asked"), record)

end Answers

/-- What identifies a transfer, its amounts and its direction. -/
structure TransferFacts where
  key : Option TransferKey
  amount_raw : Option String
  amount_decimal : Option String
  direction : String
deriving DecidableEq

def transfer_facts (draft : AddressEventDraft) : TransferFacts :=
  { key := draft.unique_transfer
    amount_raw := draft.amount_raw
    amount_decimal := draft.amount_decimal
    direction := draft.direction }

section Agreement
variable (w : Answers) (address : WatchedAddress)

/-- The selected ERC-20 assets of the address. -/
def erc20_assets : List Asset :=
  selected_assets_by_type (w.db.selected_assets_for_address address.id) "erc20"

/-- The contract of the asset emitted the log, and the address is its sender or receiver. -/
def Concerns (asset : Asset) (log : Evm.EvmLog) : Prop :=
  Touches (scan_context address) asset ⟨w.block_number, w.block_number⟩ (w.on_chain log)

/-- The transfers that the logs hold for the address. -/
def Expected (facts : TransferFacts) : Prop :=
  ∃ asset ∈ erc20_assets w address, ∃ log ∈ w.receipt.logs, Concerns w address asset log ∧
    ∃ transfer, Evm.decode_erc20_transfer_log log asset.decimals = .ok transfer ∧
      transfer_facts (Evm.transfer_event_draft (scan_context address) asset transfer) = facts

/-- Among the inserts is one of an ERC-20 transfer of the address. -/
def Inserts (drafts : List AddressEventDraft) (facts : TransferFacts) : Prop :=
  ∃ draft ∈ drafts, draft.address_id = address.id ∧
    (∃ asset ∈ w.db.assets, asset.id = draft.asset_id ∧ asset.asset_type = "erc20") ∧
    transfer_facts draft = facts

/-- The scan and the rescan both come to their end and insert exactly the expected transfers. -/
def SameTransfers (tenant_id chain_id : Uuid) (tx_hash : String)
    (latest_block default_confirmations : Int) : Prop :=
  ∃ events scanned response rescanned,
    (scan_evm_erc20_transfers (scan_context address) latest_block default_confirmations
      (w.db.selected_assets_for_address address.id)).eval w.scan_step [] = (.ok events, scanned) ∧
    (rescan_evm_transaction tenant_id chain_id tx_hash).eval w.rescan_step [] =
      (.ok response, rescanned) ∧
    (∀ facts, Inserts w address scanned facts ↔ Expected w address facts) ∧
    ∀ facts, Inserts w address rescanned facts ↔ Expected w address facts

/-- For every log that concerns a selected asset, that asset is the first one listed for its
contract. -/
def FirstListed : Prop :=
  ∀ asset ∈ erc20_assets w address, ∀ log ∈ w.receipt.logs, Concerns w address asset log →
    Evm.Listed w.assets log asset

/-- The node can be asked for the address, if there is an asset to ask for. -/
def Askable : Prop :=
  erc20_assets w address = [] ∨ ∃ topic, Evm.address_to_topic address.address = .ok topic

/-- Every transfer log can be read as one of the asset listed for its contract. -/
def Legible : Prop :=
  ∀ log ∈ w.receipt.logs, Evm.is_transfer_log log = true → Evm.Readable w.assets log

end Agreement

/-- The rescan gets as far as the addresses, and the scan covers the block of the transaction. -/
structure Accepted (w : Answers) (address : WatchedAddress) (chain_id : Uuid) (hash : String)
    (latest_block default_confirmations : Int) : Prop where
  evm : ∃ chain, w.db.chain_by_id chain_id = .ok chain ∧ chain.chain_type = "evm"
  provider : 0 < w.provider.timeout_ms
  tx_hash : validate_evm_tx_hash hash = .ok ()
  consistent : validate_evm_rescan_rpc_consistency hash w.tx w.receipt = .ok ()
  succeeded : evm_receipt_succeeded w.receipt = .ok true
  mined : mined_block w.tx = .ok w.block_number
  native : ∃ native_asset value amount, w.assets.find? (·.asset_type == "native") =
    some native_asset ∧ Evm.parse_hex_u256_to_decimal_string w.tx.value = .ok value ∧
      Evm.wei_to_decimal_string value native_asset.decimals = .ok amount
  listed : ∀ asset, asset ∈ w.assets ↔ asset ∈ w.db.assets_for_chain chain_id
  asset_ids : (w.db.assets.map (·.id)).Nodup
  watched : address ∈ w.watched_addresses
  watched_ids : (w.watched_addresses.map (·.id)).Nodup
  selected : ∀ asset ∈ w.db.selected_assets_for_address address.id, asset.chain_id = chain_id
  range : ∃ from_block to_block, evm_transfer_scan_range
      (w.db.scan_cursor address.id EVM_ERC20_TRANSFER_CURSOR) latest_block default_confirmations =
        .ok (some (from_block, to_block)) ∧
      0 ≤ from_block ∧ from_block ≤ w.block_number ∧ w.block_number ≤ to_block

/-! ### The scan -/

section Scan
variable {w : Answers} {context : ScanAddressContext} {asset : Asset} {log : Evm.EvmLog}
  {topic : String} {range : BlockRange}

def scanned_drafts (context : ScanAddressContext) (asset : Asset) (log : Evm.EvmLog) :
    List AddressEventDraft :=
  match Evm.decode_erc20_transfer_log log asset.decimals with
  | .ok transfer => [Evm.transfer_event_draft context asset transfer]
  | .error _ => []

theorem mem_scanned_drafts {draft : AddressEventDraft} :
    draft ∈ scanned_drafts context asset log ↔ ∃ transfer,
      Evm.decode_erc20_transfer_log log asset.decimals = .ok transfer ∧
        Evm.transfer_event_draft context asset transfer = draft := by
  unfold scanned_drafts
  cases Evm.decode_erc20_transfer_log log asset.decimals with
  | ok transfer => simp [eq_comm]
  | error e => simp

/-- The log decodes for the asset. -/
abbrev Decodes (asset : Asset) (log : Evm.EvmLog) : Prop :=
  ∃ transfer, Evm.decode_erc20_transfer_log log asset.decimals = .ok transfer

theorem scan_erc20_log_records : Prog.Records w.scan_step (scan_erc20_log context asset log)
    (Decodes asset log) (scanned_drafts context asset log) := by
  have hinsert : ∀ draft, Prog.Records w.scan_step (insert_event draft) True [draft] := fun draft =>
    (Prog.Records.perform fun record => ⟨_, rfl⟩).bind_done _
  have hlog : Prog.Records w.scan_step (scan_erc20_log context asset log)
      (∃ transfer, Evm.decode_erc20_transfer_log log asset.decimals = .ok transfer ∧ True)
      (scanned_drafts context asset log) :=
    Prog.Records.bind_lift fun transfer h =>
      (hinsert _).congr Iff.rfl fun _ => by simp [scanned_drafts, h]
  exact hlog.congr (by simp) fun _ => rfl

/-- The filters a scan of the asset asks for. -/
def asked (topic : String) (range : BlockRange) (asset : Asset) : List Evm.EvmLogFilter :=
  match asset.contract_address with
  | none => []
  | some contract_address =>
    [incoming contract_address topic range, outgoing contract_address topic range]

/-- The logs it is answered. -/
def answered_logs (w : Answers) (topic : String) (range : BlockRange) (asset : Asset) :
    List Evm.EvmLog :=
  (asked topic range asset).flatMap w.matching

theorem mem_answered_logs (htopic : Evm.address_to_topic context.address = .ok topic) :
    log ∈ answered_logs w topic range asset ↔
      log ∈ w.receipt.logs ∧ Touches context asset range (w.on_chain log) := by
  simp only [answered_logs, asked, Touches, htopic]
  cases asset.contract_address with
  | none => simp
  | some contract =>
    simp only [List.flatMap_cons, List.flatMap_nil, List.append_nil, List.mem_append,
      Answers.matching, List.mem_filter, decide_eq_true_eq, ← and_or_left]
    refine and_congr_right fun _ => ⟨fun h => ⟨contract, topic, rfl, rfl, h⟩, ?_⟩
    rintro ⟨_, _, hcontract, htopic, h⟩
    obtain rfl := Option.some.inj hcontract
    obtain rfl := Except.ok.inj htopic
    exact h

theorem scan_erc20_filter_records {filter : Evm.EvmLogFilter} (hfrom : 0 ≤ filter.from_block)
    (hto : filter.from_block ≤ filter.to_block) :
    Prog.Records w.scan_step (scan_erc20_filter context asset filter)
      (∀ log ∈ w.matching filter, Decodes asset log)
      ((w.matching filter).flatMap (scanned_drafts context asset)) := by
  have hparams : filter.to_rpc_params = .ok filter := by
    simp only [Evm.EvmLogFilter.to_rpc_params]
    rw [if_neg (by omega), if_neg (by omega), if_neg (by omega)]
  simp only [scan_erc20_filter, eth_get_logs, hparams, Prog.bind_eq, Prog.lift_ok, Prog.done_bind]
  exact Prog.Records.read (fun _ => rfl) (Prog.Records.forEach fun log _ => scan_erc20_log_records)

theorem scan_erc20_asset_records (hfrom : 0 ≤ range.from_block)
    (hto : range.from_block ≤ range.to_block) :
    Prog.Records w.scan_step (scan_erc20_asset context topic range asset)
      (∀ log ∈ answered_logs w topic range asset, Decodes asset log)
      ((answered_logs w topic range asset).flatMap (scanned_drafts context asset)) := by
  have hprogram : scan_erc20_asset context topic range asset =
      Prog.forEach (scan_erc20_filter context asset) (asked topic range asset) := by
    simp only [scan_erc20_asset, asked]
    cases asset.contract_address <;> rfl
  have hbounds : ∀ filter ∈ asked topic range asset,
      filter.from_block = range.from_block ∧ filter.to_block = range.to_block := by
    intro filter hfilter
    simp only [asked] at hfilter
    cases hcontract : asset.contract_address with
    | none => simp [hcontract] at hfilter
    | some contract =>
      simp only [hcontract, List.mem_cons, List.not_mem_nil, or_false] at hfilter
      rcases hfilter with rfl | rfl <;> exact ⟨rfl, rfl⟩
  have hfilters : ∀ filter ∈ asked topic range asset,
      Prog.Records w.scan_step (scan_erc20_filter context asset filter)
        (∀ log ∈ w.matching filter, Decodes asset log)
        ((w.matching filter).flatMap (scanned_drafts context asset)) := by
    intro filter hfilter
    obtain ⟨hfirst, hlast⟩ := hbounds filter hfilter
    exact scan_erc20_filter_records (hfirst ▸ hfrom) (hfirst ▸ hlast ▸ hto)
  rw [hprogram]
  refine (Prog.Records.forEach hfilters).congr ?_ fun _ => ?_
  · simp only [answered_logs, List.mem_flatMap, forall_exists_index, and_imp]
    exact ⟨fun h log filter hfilter hlog => h filter hfilter log hlog,
      fun h filter hfilter log hlog => h log filter hfilter hlog⟩
  · exact (List.flatMap_assoc ..).symm

theorem scan_erc20_range_records {assets : List Asset} (hfrom : 0 ≤ range.from_block)
    (hto : range.from_block ≤ range.to_block) :
    Prog.Records w.scan_step (scan_erc20_range context topic assets range)
      (∀ asset ∈ assets, ∀ log ∈ answered_logs w topic range asset, Decodes asset log)
      (assets.flatMap fun asset =>
        (answered_logs w topic range asset).flatMap (scanned_drafts context asset)) := by
  have hcursor : ∀ events : List AddressEvent, Prog.Records w.scan_step
      ((query (.upsert_scan_cursor
        (cursor_at context EVM_ERC20_TRANSFER_CURSOR range.to_block))).bind fun _ =>
          Prog.done events) True [] := fun events =>
    Prog.Records.read (fun _ => rfl) (Prog.Records.done events)
  have hassets : Prog.Records w.scan_step
      (Prog.forEach (scan_erc20_asset context topic range) assets) _ _ :=
    Prog.Records.forEach fun asset _ => scan_erc20_asset_records hfrom hto
  exact (hassets.bind hcursor).congr (and_iff_left trivial) fun _ => List.append_nil _

/-- The ranges lie between the first and the last block, and every block is in one. -/
theorem block_ranges_cover {to_block span : Int} (hspan : 0 < span)
    (hto : to_block < 9223372036854775808) (rounds : Nat) (from_block : Int) :
    (∀ r ∈ block_ranges to_block span rounds from_block,
        from_block ≤ r.from_block ∧ r.from_block ≤ r.to_block) ∧
      ∀ block, from_block ≤ block → block ≤ to_block → to_block - from_block < rounds →
        ∃ r ∈ block_ranges to_block span rounds from_block,
          r.from_block ≤ block ∧ block ≤ r.to_block := by
  induction rounds generalizing from_block with
  | zero =>
    refine ⟨fun r hr => absurd hr List.not_mem_nil, fun block hlow hhigh hrounds => ?_⟩
    omega
  | succ rounds ih =>
    simp only [block_ranges]
    by_cases hle : from_block ≤ to_block
    swap
    · rw [if_neg hle]
      exact ⟨fun r hr => absurd hr List.not_mem_nil, fun block hlow hhigh _ => by omega⟩
    rw [if_pos hle]
    have hfirst : from_block ≤ min (saturating_i64 (from_block + (span - 1))) to_block := by
      simp only [saturating_i64]
      omega
    have hlast := min_le_right (saturating_i64 (from_block + (span - 1))) to_block
    generalize min (saturating_i64 (from_block + (span - 1))) to_block = current_to at hfirst hlast
    obtain ⟨hinside, hcover⟩ := ih (current_to + 1)
    split
    · next hend =>
      refine ⟨fun r hr => ?_, fun block hlow hhigh _ => ?_⟩
      · obtain rfl := List.mem_singleton.mp hr
        exact ⟨le_refl _, hfirst⟩
      · exact ⟨_, List.mem_singleton_self _, hlow, hend ▸ hhigh⟩
    · refine ⟨fun r hr => ?_, fun block hlow hhigh hrounds => ?_⟩
      · rcases List.mem_cons.mp hr with rfl | hr
        · exact ⟨le_refl _, hfirst⟩
        · obtain ⟨hnext, hr⟩ := hinside r hr
          exact ⟨by omega, hr⟩
      · by_cases hnow : block ≤ current_to
        · exact ⟨_, List.mem_cons_self .., hlow, hnow⟩
        · obtain ⟨r, hr, hblock⟩ := hcover block (by omega) hhigh (by omega)
          exact ⟨r, List.mem_cons_of_mem _ hr, hblock⟩

/-- All ranges of a scan together, as far as the logs of the receipt go. -/
theorem scan_ranges_records {assets : List Asset} {from_block to_block : Int}
    {ranges : List BlockRange} (htopic : Evm.address_to_topic context.address = .ok topic)
    (hranges : bounded_block_ranges from_block to_block EVM_LOG_MAX_BLOCK_SPAN = .ok ranges)
    (hto : to_block < 9223372036854775808) (hnonneg : 0 ≤ from_block)
    (hfirst : from_block ≤ w.block_number) (hlast : w.block_number ≤ to_block) :
    ∃ drafts, Prog.Records w.scan_step
        (Prog.forEach (scan_erc20_range context topic assets) ranges)
        (∀ asset ∈ assets, ∀ log ∈ w.receipt.logs,
          Touches context asset ⟨w.block_number, w.block_number⟩ (w.on_chain log) →
            Decodes asset log) drafts ∧
      ∀ draft, draft ∈ drafts ↔ ∃ asset ∈ assets, ∃ log ∈ w.receipt.logs,
        Touches context asset ⟨w.block_number, w.block_number⟩ (w.on_chain log) ∧
          draft ∈ scanned_drafts context asset log := by
  have hcover := block_ranges_cover (show 0 < EVM_LOG_MAX_BLOCK_SPAN by decide) hto
    (to_block - from_block + 1).toNat from_block
  have hlist : ranges = block_ranges to_block EVM_LOG_MAX_BLOCK_SPAN
      (to_block - from_block + 1).toNat from_block := by
    simp only [bounded_block_ranges] at hranges
    rw [if_neg (by decide), if_neg (by omega)] at hranges
    exact (Except.ok.inj hranges).symm
  rw [← hlist] at hcover
  obtain ⟨hinside, hcover⟩ := hcover
  obtain ⟨here, hhere, hlow, hhigh⟩ := hcover _ hfirst hlast (by omega)
  have hlogs : ∀ range asset log, log ∈ answered_logs w topic range asset →
      log ∈ w.receipt.logs ∧
        Touches context asset ⟨w.block_number, w.block_number⟩ (w.on_chain log) := by
    intro range asset log hlog
    obtain ⟨hmem, htouches⟩ := (mem_answered_logs htopic).mp hlog
    exact ⟨hmem, htouches.narrow (le_refl _) (le_refl _)⟩
  have hasked : ∀ asset, ∀ log ∈ w.receipt.logs,
      Touches context asset ⟨w.block_number, w.block_number⟩ (w.on_chain log) →
        log ∈ answered_logs w topic here asset :=
    fun asset log hlog htouches => (mem_answered_logs htopic).mpr ⟨hlog, htouches.narrow hlow hhigh⟩
  refine ⟨_, (Prog.Records.forEach fun range hrange => scan_erc20_range_records
    (le_trans hnonneg (hinside range hrange).1) (hinside range hrange).2).congr ?_ fun _ => rfl, ?_⟩
  · constructor
    · exact fun h asset hasset log hlog htouches =>
        h here hhere asset hasset log (hasked asset log hlog htouches)
    · intro h range _ asset hasset log hlog
      obtain ⟨hmem, htouches⟩ := hlogs range asset log hlog
      exact h asset hasset log hmem htouches
  · intro draft
    simp only [List.mem_flatMap]
    constructor
    · rintro ⟨range, _, asset, hasset, log, hlog, hdraft⟩
      obtain ⟨hmem, htouches⟩ := hlogs range asset log hlog
      exact ⟨asset, hasset, log, hmem, htouches, hdraft⟩
    · rintro ⟨asset, hasset, log, hlog, htouches, hdraft⟩
      exact ⟨here, hhere, asset, hasset, log, hasked asset log hlog htouches, hdraft⟩

/-- A scan whose range covers the block ends well if every log it is answered decodes, and it
inserts a transfer for each. -/
theorem scan_records {address : WatchedAddress} {chain_id : Uuid} {hash : String}
    {latest_block default_confirmations : Int}
    (h : Accepted w address chain_id hash latest_block default_confirmations) :
    ∃ drafts, Prog.Records w.scan_step
        (scan_evm_erc20_transfers (scan_context address) latest_block default_confirmations
          (w.db.selected_assets_for_address address.id))
        (Askable w address ∧ ∀ asset ∈ erc20_assets w address, ∀ log ∈ w.receipt.logs,
          Concerns w address asset log → Decodes asset log) drafts ∧
      (Askable w address → ∀ draft, draft ∈ drafts ↔ ∃ asset ∈ erc20_assets w address,
        ∃ log ∈ w.receipt.logs, Concerns w address asset log ∧
          draft ∈ scanned_drafts (scan_context address) asset log) := by
  obtain ⟨from_block, to_block, hrange, hnonneg, hfirst, hlast⟩ := h.range
  have hto := (evm_transfer_scan_range_ok hrange).1
  have hread : ∀ record, w.scan_step record
      (.db (.scan_cursor address.id EVM_ERC20_TRANSFER_CURSOR)) =
        (.ok (w.db.scan_cursor address.id EVM_ERC20_TRANSFER_CURSOR), record) := fun _ => rfl
  by_cases hnone : erc20_assets w address = []
  · have hempty : (selected_assets_by_type (w.db.selected_assets_for_address address.id)
        "erc20").isEmpty = true := List.isEmpty_iff.mpr hnone
    refine ⟨[], (Prog.Records.read hread ?_).congr (iff_of_true trivial ⟨Or.inl hnone, ?_⟩)
      fun _ => rfl, fun _ draft => ?_⟩
    · simp only [hrange, Prog.lift_ok, Prog.bind_eq, Prog.done_bind, hempty, if_true]
      exact Prog.Records.done []
    · simp [hnone]
    · simp [hnone]
  have hsome : ¬ (selected_assets_by_type (w.db.selected_assets_for_address address.id)
      "erc20").isEmpty = true := fun he => hnone (List.isEmpty_iff.mp he)
  cases htopic : Evm.address_to_topic address.address with
  | error e =>
    have hnot : ¬ Askable w address := by
      rintro (he | ⟨topic, he⟩)
      · exact hnone he
      · exact nomatch htopic.symm.trans he
    refine ⟨[], (Prog.Records.read hread (?_ : Prog.Records _ _ False [])).congr
      (iff_of_false id fun h => hnot h.1) fun _ => rfl, fun h => absurd h hnot⟩
    simp only [hrange, Prog.lift_ok, Prog.bind_eq, Prog.done_bind, hsome, scan_context, htopic,
      Prog.lift_error, Prog.fail_bind]
    exact ⟨False.elim, fun _ record => ⟨e, record, rfl⟩⟩
  | ok topic =>
    obtain ⟨ranges, hranges⟩ : ∃ ranges,
        bounded_block_ranges from_block to_block EVM_LOG_MAX_BLOCK_SPAN = .ok ranges := by
      simp only [bounded_block_ranges]
      rw [if_neg (by decide), if_neg (by omega)]
      exact ⟨_, rfl⟩
    obtain ⟨drafts, hrecords, hmem⟩ := @scan_ranges_records w (scan_context address) topic
      (erc20_assets w address) from_block to_block ranges htopic hranges hto hnonneg hfirst hlast
    refine ⟨drafts, (Prog.Records.read hread (?_ : Prog.Records _ _ _ drafts)).congr
      (and_iff_right (Or.inr ⟨topic, htopic⟩)).symm fun _ => rfl, fun _ => hmem⟩
    have hcontext : Evm.address_to_topic (scan_context address).address = .ok topic := htopic
    simp only [hrange, Prog.lift_ok, Prog.bind_eq, Prog.done_bind, hsome, hcontext, hranges]
    exact hrecords

end Scan

/-! ### The rescan -/

section Rescanning
variable {w : Answers} {context : ScanAddressContext} {facts : RescanFacts}
  {decoded : Evm.DecodedRescanTokenTransfer} {value : String}

theorem insert_rescanned_records (summary : Option EvmTransactionRescanTransferSummary)
    (draft : AddressEventDraft) :
    Prog.Records w.rescan_step (insert_rescanned summary draft) True [draft] := by
  have hinsert : Prog.Records w.rescan_step
      (Prog.perform (.db (.insert_event_and_outbox_if_not_exists draft) : RescanStatement)) True
      [draft] :=
    Prog.Records.perform fun record => ⟨_, rfl⟩
  exact hinsert.bind_done _

theorem insert_if_records {draft : AddressEventDraft} {result : AppResult AddressEventDraft}
    (condition : Bool) (h : result = .ok draft) :
    Prog.Records w.rescan_step (insert_if condition result) True
      (if condition then [draft] else []) := by
  cases condition with
  | false => exact Prog.Records.done []
  | true =>
    simp only [insert_if, h, Prog.bind_eq, Prog.lift_ok, Prog.done_bind, if_true]
    exact insert_rescanned_records none draft

/-- The draft of a transfer whose transaction has a value. -/
def rescanned_draft (context : ScanAddressContext) (tx : Evm.EvmTransaction) (value : String)
    (decoded : Evm.DecodedRescanTokenTransfer) : AddressEventDraft :=
  Evm.transfer_event_draft_with_metadata context decoded.asset decoded.transfer [
    ("source", .str "evm_tx_rescan"),
    ("tx_from", .str tx.from_address),
    ("tx_to", tx.to_address.elim .null .str),
    ("native_value_raw", .str value)]

/-- Apart from the metadata it is the draft of a scan. -/
theorem rescanned_draft_facts (tx : Evm.EvmTransaction) :
    transfer_facts (rescanned_draft context tx value decoded) =
      transfer_facts (Evm.transfer_event_draft context decoded.asset decoded.transfer) :=
  rfl

theorem rescan_token_transfer_records {tx : Evm.EvmTransaction}
    (hvalue : Evm.parse_hex_u256_to_decimal_string tx.value = .ok value) :
    Prog.Records w.rescan_step (rescan_token_transfer context tx decoded) True
      (if is_party context.address decoded then [rescanned_draft context tx value decoded]
        else []) := by
  unfold rescan_token_transfer
  cases is_party context.address decoded with
  | false => exact Prog.Records.done []
  | true =>
    have hdraft : Evm.transfer_event_draft_with_source context decoded.asset decoded.transfer
        "evm_tx_rescan" tx = .ok (rescanned_draft context tx value decoded) := by
      simp only [Evm.transfer_event_draft_with_source, hvalue]
      rfl
    simp only [Bool.not_true, Bool.false_eq_true, if_false, hdraft, Prog.bind_eq, Prog.lift_ok,
      Prog.done_bind, if_true]
    exact insert_rescanned_records ..

/-- The token transfers a rescan inserts for an address. -/
def token_drafts (w : Answers) (facts : RescanFacts) (address : WatchedAddress) :
    List AddressEventDraft :=
  (facts.token_transfers.filter (asset_selected (w.db.selected_assets_for_address address.id)
    ·.asset.id)).flatMap fun decoded =>
      if is_party address.address decoded then
        [rescanned_draft (scan_context address) facts.tx facts.native_value_raw decoded]
      else []

/-- What is inserted besides is of the native asset. -/
theorem rescan_address_records (address : WatchedAddress)
    (hvalue : Evm.parse_hex_u256_to_decimal_string facts.tx.value = .ok facts.native_value_raw)
    (hamount : ∃ amount, Evm.wei_to_decimal_string facts.native_value_raw
      facts.native_asset.decimals = .ok amount)
    (hblock : mined_block facts.tx = .ok facts.block_number)
    (hsucceeded : facts.receipt_succeeded = true) :
    ∃ others, (∀ draft ∈ others, draft.asset_id = facts.native_asset.id) ∧
      Prog.Records w.rescan_step (rescan_address facts address) True
        (token_drafts w facts address ++ others) := by
  obtain ⟨amount, hamount⟩ := hamount
  have hnative : ∃ draft, evm_native_transfer_event_draft (scan_context address)
      facts.native_asset facts.tx facts.block_number facts.native_value_raw = .ok draft ∧
        draft.asset_id = facts.native_asset.id := by
    simp only [evm_native_transfer_event_draft, hamount]
    exact ⟨_, rfl, rfl⟩
  have hfee : ∃ draft, Evm.evm_fee_only_event_draft (scan_context address) facts.native_asset
      facts.tx "evm_tx_rescan" = .ok draft ∧ draft.asset_id = facts.native_asset.id := by
    obtain ⟨block_number, hblock, _⟩ := bind_ok hblock
    simp only [Evm.evm_fee_only_event_draft, hvalue, hblock]
    exact ⟨_, rfl, rfl⟩
  obtain ⟨native_draft, hnative, hnative_asset⟩ := hnative
  obtain ⟨fee_draft, hfee, hfee_asset⟩ := hfee
  have hread : ∀ record, w.rescan_step record (.db (.selected_assets_for_address address.id)) =
      (.ok (w.db.selected_assets_for_address address.id), record) := fun _ => rfl
  let selected := asset_selected (w.db.selected_assets_for_address address.id) facts.native_asset.id
  let inserts_native := should_insert_native_transfer_event facts.receipt_succeeded selected
    facts.native_value_raw facts.tx address.address
  let inserts_fee := should_insert_fee_only_event facts.receipt_succeeded selected
    facts.native_value_raw facts.tx address.address
  refine ⟨(if inserts_native then [native_draft] else []) ++ (if inserts_fee then [fee_draft] else []),
    fun draft hdraft => ?_, ?_⟩
  · rcases List.mem_append.mp hdraft with hdraft | hdraft
    · obtain ⟨_, rfl⟩ := List.mem_ite_nil_right.mp hdraft |>.imp_right List.mem_singleton.mp
      exact hnative_asset
    · obtain ⟨_, rfl⟩ := List.mem_ite_nil_right.mp hdraft |>.imp_right List.mem_singleton.mp
      exact hfee_asset
  · have htokens : Prog.Records w.rescan_step
        (rescan_tokens facts (scan_context address)
          (w.db.selected_assets_for_address address.id)) True (token_drafts w facts address) := by
      simp only [rescan_tokens, hsucceeded, if_true]
      exact (Prog.Records.forEach fun decoded _ => rescan_token_transfer_records hvalue).congr
        (iff_of_true (fun _ _ => trivial) trivial) fun _ => rfl
    have hrest := fun tokens => (insert_if_records (w := w) inserts_native hnative).bind
      fun native_event => (insert_if_records (w := w) inserts_fee hfee).bind_done
        fun fee => tokens ++ native_event ++ fee
    exact (Prog.Records.read hread (htokens.bind hrest)).congr
      (iff_of_true ⟨trivial, trivial, trivial⟩ trivial) fun _ => rfl

section Whole
variable {address : WatchedAddress} {chain_id : Uuid} {hash : String}
  {latest_block default_confirmations : Int}

/-- Two assets of one identifier are one asset. -/
theorem Accepted.asset_unique {a b : Asset}
    (h : Accepted w address chain_id hash latest_block default_confirmations)
    (ha : a ∈ w.db.assets) (hb : b ∈ w.db.assets) (hid : a.id = b.id) : a = b :=
  List.inj_on_of_nodup_map h.asset_ids ha hb hid

theorem Accepted.of_listed {a : Asset}
    (h : Accepted w address chain_id hash latest_block default_confirmations)
    (ha : a ∈ w.assets) : a ∈ w.db.assets := by
  have hlisted := (h.listed a).mp ha
  rw [Db.assets_for_chain, mem_sort_assets] at hlisted
  exact (List.mem_filter.mp hlisted).1

/-- Everything before the transfers of the receipt succeeds and inserts nothing. -/
theorem Accepted.rescan_records {native_asset : Asset} {succeeds : Prop}
    {added : List AddressEventDraft}
    (h : Accepted w address chain_id hash latest_block default_confirmations) (tenant_id : Uuid)
    (hnative : w.assets.find? (·.asset_type == "native") = some native_asset)
    (hvalue : Evm.parse_hex_u256_to_decimal_string w.tx.value = .ok value)
    (hrest : Prog.Records w.rescan_step
      ((Prog.lift (Evm.decode_rescan_token_transfers w.receipt w.assets)).bind
        fun token_transfers => rescan_addresses chain_id w.watched_addresses
          { tx := w.tx
            receipt_succeeded := true
            block_number := w.block_number
            native_value_raw := value
            native_asset := native_asset
            token_transfers := token_transfers }) succeeds added) :
    Prog.Records w.rescan_step (rescan_evm_transaction tenant_id chain_id hash) succeeds added := by
  obtain ⟨chain, hchain, htype⟩ := h.evm
  have hread : ∀ record, w.rescan_step record (.db (.chain_by_id chain_id)) = (.ok chain, record) :=
    fun record => Prod.ext hchain rfl
  have hevm : ensure (chain.chain_type == "evm")
      (.Validation "rescan only supports evm chains") = .ok () :=
    ensure_ok.mpr (beq_iff_eq.mpr htype)
  have htimeout : provider_timeout_duration w.provider = .ok w.provider.timeout_ms.toNat :=
    if_neg (not_le.mpr h.provider)
  simp only [rescan_evm_transaction, Prog.bind_eq, h.tx_hash, Prog.lift_ok, Prog.done_bind]
  refine Prog.Records.read hread ?_
  simp only [hevm, Prog.lift_ok, Prog.done_bind]
  refine Prog.Records.read (fun _ => rfl) ?_
  simp only [htimeout, Prog.lift_ok, Prog.done_bind]
  refine Prog.Records.read (fun _ => rfl) (Prog.Records.read (fun _ => rfl) ?_)
  simp only [h.consistent, h.succeeded, h.mined, hvalue, Prog.lift_ok, Prog.done_bind]
  refine Prog.Records.read (fun _ => rfl) (Prog.Records.read (fun _ => rfl) ?_)
  simp only [hnative, required, Prog.lift_ok, Prog.done_bind]
  exact hrest

theorem mem_erc20_assets {asset : Asset} : asset ∈ erc20_assets w address ↔
    asset ∈ w.db.selected_assets_for_address address.id ∧ asset.asset_type = "erc20" := by
  rw [erc20_assets, selected_assets_by_type, mem_sort_assets, List.mem_filter, beq_iff_eq]

theorem selected_in_db {asset : Asset}
    (h : asset ∈ w.db.selected_assets_for_address address.id) : asset ∈ w.db.assets := by
  rw [Db.selected_assets_for_address, mem_sort_assets] at h
  obtain ⟨_, _, h⟩ := List.mem_flatMap.mp h
  exact (List.mem_filter.mp h).1

/-- The asset listed for a log is selected by identifier. -/
theorem Accepted.selected_iff {log : Evm.EvmLog} {asset : Asset}
    (h : Accepted w address chain_id hash latest_block default_confirmations)
    (hlisted : Evm.Listed w.assets log asset) :
    asset_selected (w.db.selected_assets_for_address address.id) asset.id = true ↔
      asset ∈ erc20_assets w address := by
  obtain ⟨contract, _, hfound⟩ := hlisted
  have herc20 := (Evm.emits_iff.mp (List.find?_some hfound)).1
  have hasset := h.of_listed (List.mem_of_find?_eq_some hfound)
  rw [mem_erc20_assets, and_iff_left herc20, asset_selected, List.any_eq_true]
  constructor
  · rintro ⟨selected, hselected, hid⟩
    obtain rfl := h.asset_unique (selected_in_db hselected) hasset (beq_iff_eq.mp hid)
    exact hselected
  · exact fun hselected => ⟨asset, hselected, beq_iff_eq.mpr rfl⟩

/-- A transfer of the receipt that a rescan inserts for the address. -/
def Picked (w : Answers) (address : WatchedAddress) (facts : TransferFacts) : Prop :=
  ∃ asset ∈ erc20_assets w address, ∃ log ∈ w.receipt.logs, Evm.Listed w.assets log asset ∧
    ∃ transfer, Evm.decode_erc20_transfer_log log asset.decimals = .ok transfer ∧
      is_party address.address ⟨asset, transfer⟩ = true ∧
      transfer_facts (Evm.transfer_event_draft (scan_context address) asset transfer) = facts

/-- The token transfers for the address, as far as they count. -/
theorem Accepted.token_drafts_iff {facts : RescanFacts} {t : TransferFacts}
    (h : Accepted w address chain_id hash latest_block default_confirmations)
    (hdecoded : Evm.decode_rescan_token_transfers w.receipt w.assets = .ok facts.token_transfers) :
    (∃ draft ∈ token_drafts w facts address, transfer_facts draft = t) ↔ Picked w address t := by
  simp only [token_drafts, List.mem_flatMap, List.mem_filter, List.mem_ite_nil_right,
    List.mem_singleton, Evm.mem_decode_rescan_logs hdecoded]
  constructor
  · rintro ⟨_, ⟨decoded, ⟨⟨log, hlog, hlisted, hlog_decoded⟩, hselected⟩, hparty, rfl⟩, rfl⟩
    exact ⟨decoded.asset, (h.selected_iff hlisted).mp hselected, log, hlog, hlisted,
      decoded.transfer, hlog_decoded, hparty, rfl⟩
  · rintro ⟨asset, hasset, log, hlog, hlisted, transfer, hlog_decoded, hparty, rfl⟩
    exact ⟨_, ⟨⟨asset, transfer⟩, ⟨⟨log, hlog, hlisted, hlog_decoded⟩,
      (h.selected_iff hlisted).mpr hasset⟩, hparty, rfl⟩, rfl⟩

/-- A rescan ends well if the transfer logs can be read, and it inserts what it picks. -/
theorem rescan_transfers_records (tenant_id : Uuid)
    (h : Accepted w address chain_id hash latest_block default_confirmations) :
    ∃ drafts, Prog.Records w.rescan_step (rescan_evm_transaction tenant_id chain_id hash)
        (Legible w) drafts ∧
      (Legible w → ∀ t, Inserts w address drafts t ↔ Picked w address t) := by
  obtain ⟨native_asset, value, amount, hnative, hvalue, hamount⟩ := h.native
  have hnative_db : native_asset ∈ w.db.assets :=
    h.of_listed (List.mem_of_find?_eq_some hnative)
  have hnative_type : native_asset.asset_type = "native" := by
    simpa using List.find?_some hnative
  have hlegible : (∃ ts, Evm.decode_rescan_token_transfers w.receipt w.assets = .ok ts) ↔
      Legible w := Evm.decode_rescan_logs_ok_iff w.receipt.logs
  cases hdecoded : Evm.decode_rescan_token_transfers w.receipt w.assets with
  | error e =>
    have hnot : ¬ Legible w := fun hl => by
      obtain ⟨ts, hts⟩ := hlegible.mpr hl
      exact nomatch hdecoded.symm.trans hts
    refine ⟨[], (h.rescan_records tenant_id hnative hvalue
      (?_ : Prog.Records _ _ False [])).congr (iff_of_false id hnot) fun _ => rfl,
      fun hl => absurd hl hnot⟩
    rw [hdecoded]
    exact ⟨False.elim, fun _ record => ⟨e, record, rfl⟩⟩
  | ok token_transfers =>
    let facts : RescanFacts :=
      { tx := w.tx
        receipt_succeeded := true
        block_number := w.block_number
        native_value_raw := value
        native_asset := native_asset
        token_transfers := token_transfers }
    have haddresses : ∀ a : WatchedAddress, ∃ others : List AddressEventDraft,
        (∀ draft ∈ others, draft.asset_id = native_asset.id) ∧
          Prog.Records w.rescan_step (rescan_address facts a) True
            (token_drafts w facts a ++ others) :=
      fun a => @rescan_address_records w facts a hvalue ⟨amount, hamount⟩ h.mined rfl
    choose others hothers hrecords using haddresses
    have hall : Prog.Records w.rescan_step
        (Prog.forEach (rescan_address facts) w.watched_addresses) True
        (w.watched_addresses.flatMap fun a => token_drafts w facts a ++ others a) :=
      (Prog.Records.forEach fun a _ => hrecords a).congr
        (iff_of_true (fun _ _ => trivial) trivial) fun _ => rfl
    refine ⟨w.watched_addresses.flatMap fun a => token_drafts w facts a ++ others a, ?_, ?_⟩
    · refine (h.rescan_records tenant_id hnative hvalue (?_ : Prog.Records _ _ True _)).congr
        (iff_of_true trivial (hlegible.mp ⟨_, hdecoded⟩)) fun _ => rfl
      rw [hdecoded]
      exact hall.bind_done (rescan_response chain_id facts)
    · intro _ t
      rw [← @Accepted.token_drafts_iff w address chain_id hash latest_block default_confirmations
        facts t h hdecoded]
      constructor
      · rintro ⟨draft, hdraft, haddress, ⟨asset, hasset, hid, herc20⟩, hfacts⟩
        obtain ⟨a, ha, hdraft⟩ := List.mem_flatMap.mp hdraft
        rcases List.mem_append.mp hdraft with hdraft | hdraft
        · have hown : draft.address_id = a.id := by
            simp only [token_drafts, List.mem_flatMap, List.mem_ite_nil_right,
              List.mem_singleton] at hdraft
            obtain ⟨_, _, _, rfl⟩ := hdraft
            rfl
          obtain rfl := List.inj_on_of_nodup_map h.watched_ids ha h.watched
            (hown.symm.trans haddress)
          exact ⟨draft, hdraft, hfacts⟩
        · obtain rfl := h.asset_unique hasset hnative_db (hid.trans (hothers a draft hdraft))
          exact absurd (hnative_type.symm.trans herc20) (by decide)
      · rintro ⟨draft, hdraft, hfacts⟩
        refine ⟨draft, List.mem_flatMap.mpr ⟨address, h.watched, List.mem_append_left _ hdraft⟩,
          ?_, ?_, hfacts⟩
        all_goals
          simp only [token_drafts, List.mem_flatMap, List.mem_filter, List.mem_ite_nil_right,
            List.mem_singleton] at hdraft
          obtain ⟨decoded, ⟨hmem, _⟩, _, rfl⟩ := hdraft
        · rfl
        · obtain ⟨log, _, ⟨contract, _, hfound⟩, _⟩ := (Evm.mem_decode_rescan_logs hdecoded).mp hmem
          exact ⟨decoded.asset, h.of_listed (List.mem_of_find?_eq_some hfound), rfl,
            (Evm.emits_iff.mp (List.find?_some hfound)).1⟩

end Whole
end Rescanning

end CoinListener.Api
