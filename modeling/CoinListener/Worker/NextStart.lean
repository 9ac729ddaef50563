import CoinListener.Foundation.Given
import CoinListener.Worker.BtcCoverage
import CoinListener.Worker.ScanAddress
import CoinListener.Worker.TronCursor
import CoinListener.Worker.TronIdentity

/-! Where the next scan starts, up to the end of the 64-bit range. -/
namespace CoinListener.Worker
open Foundation Storage Providers

/-! ### Starts -/

def confirmed_cursor_range (cursor : Option ScanCursor)
    (latest_value confirmations initial_window : Int) (label : String) :
    AppResult (Option (Int × Int)) :=
  if confirmations < 0 then .error (.Validation (label ++ " confirmations cannot be negative"))
  else if initial_window ≤ 0 then .error (.Validation "initial_window must be positive")
  else
    let confirmed_to := wrap_i64 (latest_value - confirmations)
    if confirmed_to < 0 then .ok none
    else
      let from_value := match cursor with
        | some cursor => wrap_i64 (cursor.last_scanned_block + 1)
        | none => max (confirmed_to - initial_window + 1) 0
      if confirmed_to < from_value then .ok none else .ok (some (from_value, confirmed_to))

namespace Checked

/-- From the value after the cursor, or the first of the initial window. -/
def first_value (cursor : Option ScanCursor) (confirmed_to initial_window : Int) : Option Int :=
  match cursor with
  | some cursor => checked_i64 (cursor.last_scanned_block + 1)
  | none => do
    let before_window ← checked_i64 (confirmed_to - initial_window)
    let first ← checked_i64 (before_window + 1)
    return max first 0

/-- The part both ranges have in common. -/
def confirmed_range (cursor : Option ScanCursor) (latest_value confirmations initial_window : Int) :
    Option (AppResult (Option (Int × Int))) := do
  let confirmed_to ← checked_i64 (latest_value - confirmations)
  if confirmed_to < 0 then return .ok none
  else do
    let first ← first_value cursor confirmed_to initial_window
    return if confirmed_to < first then .ok none else .ok (some (first, confirmed_to))

/-- Nothing is returned where a sum or a difference overflows; so it is below. -/
def evm_transfer_scan_range (cursor : Option ScanCursor)
    (latest_block default_confirmations : Int) : Option (AppResult (Option (Int × Int))) :=
  if default_confirmations < 0 then
    some (.error (.Validation "default_confirmations cannot be negative"))
  else confirmed_range cursor latest_block default_confirmations EVM_TRANSFER_INITIAL_WINDOW_BLOCKS

def confirmed_cursor_range (cursor : Option ScanCursor)
    (latest_value confirmations initial_window : Int) (label : String) :
    Option (AppResult (Option (Int × Int))) :=
  if confirmations < 0 then
    some (.error (.Validation (label ++ " confirmations cannot be negative")))
  else if initial_window ≤ 0 then
    some (.error (.Validation "initial_window must be positive"))
  else confirmed_range cursor latest_value confirmations initial_window

def next_after (cursor : Option ScanCursor) : Option Int :=
  match cursor with
  | some cursor => checked_i64 (cursor.last_scanned_block + 1)
  | none => some 0

end Checked

/-- No start from this cursor overflows: every one is the exact value, for every latest value a
reply can give. -/
structure StartsFit (cursor : Option ScanCursor) : Prop where
  evm : ∀ {value latest_block default_confirmations},
    Evm.parse_hex_quantity_to_i64 value = .ok latest_block → IsI64 default_confirmations →
      Checked.evm_transfer_scan_range cursor latest_block default_confirmations =
        some (evm_transfer_scan_range cursor latest_block default_confirmations)
  confirmed : ∀ {latest_value confirmations initial_window label},
    0 ≤ latest_value → IsI64 latest_value → IsI64 confirmations → IsI64 initial_window →
      Checked.confirmed_cursor_range cursor latest_value confirmations initial_window label =
        some (confirmed_cursor_range cursor latest_value confirmations initial_window label)
  tron : Checked.next_after cursor = some (next_after cursor)

section Starts
variable {cursor : Option ScanCursor} {latest_value confirmations initial_window : Int}

theorem parse_hex_quantity_bounds {value : String} {latest_block : Int}
    (h : Evm.parse_hex_quantity_to_i64 value = .ok latest_block) :
    0 ≤ latest_block ∧ latest_block ≤ 9223372036854775807 := by
  obtain ⟨digits, _, h⟩ := bind_ok h
  obtain ⟨_, hle, h⟩ := bind_ok h
  obtain rfl := Except.ok.inj h
  have hbound := of_decide_eq_true (ensure_ok.mp hle)
  omega

/-- The first value as it wraps around. -/
def wrapped_first (cursor : Option ScanCursor) (confirmed_to initial_window : Int) : Int :=
  match cursor with
  | some cursor => wrap_i64 (cursor.last_scanned_block + 1)
  | none => max (confirmed_to - initial_window + 1) 0

theorem first_value_exact (hcursor : ∀ c, cursor = some c → HasNext c.last_scanned_block)
    {confirmed_to : Int} (hto : 0 ≤ confirmed_to) (hto' : IsI64 confirmed_to)
    (hwindow : 0 < initial_window) (hwindow' : IsI64 initial_window) :
    Checked.first_value cursor confirmed_to initial_window =
      some (wrapped_first cursor confirmed_to initial_window) := by
  cases cursor with
  | some c => exact checked_next (hcursor c rfl)
  | none =>
    obtain ⟨_, hto'⟩ := hto'
    obtain ⟨_, hwindow'⟩ := hwindow'
    have hbefore : IsI64 (confirmed_to - initial_window) := by
      constructor <;> omega
    have hfirst : IsI64 (confirmed_to - initial_window + 1) := by
      constructor <;> omega
    simp only [Checked.first_value, checked_i64_some hbefore, Option.bind_eq_bind,
      Option.bind_some, checked_i64_some hfirst]
    rfl

theorem confirmed_range_exact (hcursor : ∀ c, cursor = some c → HasNext c.last_scanned_block)
    (hlatest : 0 ≤ latest_value) (hlatest' : IsI64 latest_value) (hconf : 0 ≤ confirmations)
    (hconf' : IsI64 confirmations) (hwindow : 0 < initial_window)
    (hwindow' : IsI64 initial_window) :
    Checked.confirmed_range cursor latest_value confirmations initial_window =
      some (if wrap_i64 (latest_value - confirmations) < 0 then .ok none
        else if wrap_i64 (latest_value - confirmations) <
          wrapped_first cursor (wrap_i64 (latest_value - confirmations)) initial_window then .ok none
        else .ok (some (wrapped_first cursor (wrap_i64 (latest_value - confirmations))
          initial_window, wrap_i64 (latest_value - confirmations)))) := by
  obtain ⟨_, hlatest'⟩ := hlatest'
  obtain ⟨_, hconf'⟩ := hconf'
  have hto : IsI64 (latest_value - confirmations) := by
    constructor <;> omega
  rw [Checked.confirmed_range, checked_i64_some hto, wrap_of_i64 hto]
  dsimp only [Option.bind_eq_bind, Option.bind_some]
  by_cases hneg : latest_value - confirmations < 0
  · rw [if_pos hneg, if_pos hneg]
    rfl
  · rw [if_neg hneg, if_neg hneg, first_value_exact hcursor (by omega) hto hwindow hwindow']
    rfl

/-- A stored value that has a next one is never a problem. -/
theorem starts_fit (h : ∀ c, cursor = some c → HasNext c.last_scanned_block) :
    StartsFit cursor := by
  constructor
  · intro value latest_block default_confirmations hparse hconf
    obtain ⟨hlow, hhigh⟩ := parse_hex_quantity_bounds hparse
    unfold Checked.evm_transfer_scan_range evm_transfer_scan_range
    by_cases hneg : default_confirmations < 0
    · rw [if_pos hneg, if_pos hneg]
    · rw [if_neg hneg, if_neg hneg]
      refine (confirmed_range_exact h hlow ⟨by omega, hhigh⟩ (by omega) hconf (by decide)
        (by decide)).trans ?_
      cases cursor <;> rfl
  · intro latest_value confirmations initial_window label hlow hlatest hconf hwindow
    unfold Checked.confirmed_cursor_range confirmed_cursor_range
    by_cases hneg : confirmations < 0
    · rw [if_pos hneg, if_pos hneg]
    · rw [if_neg hneg, if_neg hneg]
      by_cases hzero : initial_window ≤ 0
      · rw [if_pos hzero, if_pos hzero]
      · rw [if_neg hzero, if_neg hzero]
        refine (confirmed_range_exact h hlow hlatest (by omega) hconf (by omega) hwindow).trans ?_
        cases cursor <;> rfl
  · cases cursor with
    | none => rfl
    | some c => exact checked_next (h c rfl)

/-- The last 64-bit integer as a stored value: the start wraps to the first. -/
example : (Checked.next_after (some ⟨1, 1, 1, TRON_TRX_TRANSFER_CURSOR, 9223372036854775807⟩),
    next_after (some ⟨1, 1, 1, TRON_TRX_TRANSFER_CURSOR, 9223372036854775807⟩)) =
      (none, -9223372036854775808) := by decide

end Starts

/-! ### Replies -/

/-- The integers of a payload are 64-bit integers. -/
def WellTyped : (c : Call) → c.Answer → Prop
  | .tron_transactions .., page => ∀ p, .ok p ∈ page.data → IsI64 p.block_timestamp
  | .tron_trc20_transfers .., page =>
    ∀ p, .ok p ∈ page.data → ∀ timestamp, p.block_timestamp = some timestamp → IsI64 timestamp
  | .btc_transactions .., .ok transactions =>
    ∀ tx ∈ transactions, ∀ height, tx.status.block_height = some height → IsI64 height
  | _, _ => True

/-- Nothing in the reply is the last 64-bit integer: neither the latest block less the confirmations
of the chain, nor the timestamp of a transfer, nor the height of a transaction. -/
def BelowLast (chains : List Chain) (context : ScanAddressContext) : (c : Call) → c.Answer → Prop
  | .eth_block_number, value => ∀ latest_block,
      Evm.parse_hex_quantity_to_i64 value = .ok latest_block →
        ∀ chain, chains.find? (·.id == context.chain_id) = some chain →
          latest_block - chain.default_confirmations ≠ 9223372036854775807
  | .tron_transactions .., page => ∀ item ∈ page.data, ∀ decimals n t,
      Tron.try_decode_trx_transfer_at_index item decimals n = .ok (.Transfer t) →
        t.cursor_value ≠ 9223372036854775807
  | .tron_trc20_transfers _ contract_address _ _, page => ∀ item ∈ page.data, ∀ decimals n t,
      Tron.decode_trc20_transfer_at_index item contract_address decimals n = .ok t →
        t.cursor_value ≠ 9223372036854775807
  | .btc_transactions .., .ok transactions => ∀ tx ∈ transactions, ∀ t,
      Btc.classify_btc_transaction tx context.address = .ok (some t) →
        t.block_number ≠ 9223372036854775807
  | _, _ => True

/-- What a scan of the address hears: the chains as they are, and such replies. -/
def Heard (chains : List Chain) (context : ScanAddressContext) : (s : Statement) → s.Answer → Prop
  | .db (.chain_by_id chain_id), chain => chains.find? (·.id == chain_id) = some chain
  | .db _, _ => True
  | .remote c, a => WellTyped c a ∧ BelowLast chains context c a

/-- A cursor is only taken to a value that has a next one. -/
def StoresNext : Statement → Prop
  | .db (.upsert_scan_cursor cursor) => HasNext cursor.last_scanned_block
  | _ => True

section Stores
open Prog
variable {chains : List Chain} {context : ScanAddressContext}

theorem query_given {A : (s : Statement) → s.Answer → Prop} (q : Query) (h : StoresNext (.db q)) :
    (query q).Given A StoresNext (A (.db q)) :=
  Given.perform h

theorem call_given {A : (s : Statement) → s.Answer → Prop} (c : Call) :
    (call c).Given A StoresNext (A (.remote c)) :=
  Given.perform trivial

theorem has_next {value : Int} (hlow : 0 ≤ value) (h : IsI64 value)
    (hne : value ≠ 9223372036854775807) : HasNext value := by
  obtain ⟨_, hhigh⟩ := h
  constructor <;> omega

theorem write_cursor_stores (cursor_type : String) {value : Option Int}
    (h : ∀ v, value = some v → HasNext v) :
    (write_cursor context cursor_type value).Only StoresNext := by
  cases value with
  | some v => exact Only.perform (h v rfl)
  | none => exact Only.done

theorem insert_event_stores (draft : AddressEventDraft) : (insert_event draft).Only StoresNext :=
  Only.bind (Only.perform trivial) fun _ => Only.done

theorem max?_has_next {values : List Int} (h : ∀ v ∈ values, HasNext v) :
    ∀ v, values.max? = some v → HasNext v :=
  fun v hv => h v (List.max?_mem hv)

/-! ### The EVM scan -/

theorem block_range_end {to_block max_block_span : Int} {rounds : Nat} {from_block : Int}
    (hto : 0 ≤ to_block) {range : BlockRange}
    (h : range ∈ block_ranges to_block max_block_span rounds from_block) :
    -9223372036854775808 ≤ range.to_block ∧ range.to_block ≤ to_block := by
  induction rounds generalizing from_block with
  | zero => exact absurd h List.not_mem_nil
  | succ rounds ih =>
    rw [block_ranges] at h
    split at h
    · rcases List.mem_cons.mp h with rfl | hrest
      · simp only [saturating_i64]
        omega
      · split at hrest
        · exact absurd hrest List.not_mem_nil
        · exact ih hrest
    · exact absurd h List.not_mem_nil

theorem scan_erc20_range_stores (watched_topic : String) (assets : List Asset) {range : BlockRange}
    (h : HasNext range.to_block) :
    (scan_erc20_range context watched_topic assets range).Only StoresNext := by
  refine Only.bind (Only.forEach fun asset _ => ?_) fun _ => ?_
  · unfold scan_erc20_asset
    split
    · exact Only.done
    · refine Only.forEach fun filter _ => ?_
      refine Only.bind (eth_get_logs_only (fun _ => trivial) _) fun logs => ?_
      exact Only.forEach fun log _ => Only.bind Only.lift fun _ => insert_event_stores _
  · exact Only.bind (Only.perform h) fun _ => Only.done

/-- The last block of a scan is the latest one less the confirmations. -/
theorem evm_range_end {cursor : Option ScanCursor}
    {latest_block default_confirmations from_block to_block : Int}
    (h : evm_transfer_scan_range cursor latest_block default_confirmations =
      .ok (some (from_block, to_block))) :
    0 ≤ default_confirmations ∧ 0 ≤ to_block ∧
      to_block = wrap_i64 (latest_block - default_confirmations) := by
  simp only [evm_transfer_scan_range] at h
  split at h
  · exact nomatch h
  next hconf =>
  split at h
  · exact nomatch h
  next hto =>
  cases cursor with
  | none =>
    dsimp only at h
    split at h
    · exact nomatch h
    obtain ⟨_, rfl⟩ := Prod.mk.inj (Option.some.inj (Except.ok.inj h))
    exact ⟨Int.not_lt.mp hconf, Int.not_lt.mp hto, rfl⟩
  | some c =>
    dsimp only at h
    split at h
    · exact nomatch h
    obtain ⟨_, rfl⟩ := Prod.mk.inj (Option.some.inj (Except.ok.inj h))
    exact ⟨Int.not_lt.mp hconf, Int.not_lt.mp hto, rfl⟩

theorem bounded_block_ranges_next {from_block to_block max_block_span : Int}
    {ranges : List BlockRange} (hto : 0 ≤ to_block) (hlast : to_block < 9223372036854775807)
    (h : bounded_block_ranges from_block to_block max_block_span = .ok ranges) :
    ∀ range ∈ ranges, HasNext range.to_block := by
  unfold bounded_block_ranges at h
  split at h
  · exact nomatch h
  split at h
  · obtain rfl := Except.ok.inj h
    exact nofun
  · obtain rfl := Except.ok.inj h
    intro range hrange
    obtain ⟨hlow, hle⟩ := block_range_end hto hrange
    constructor <;> omega

theorem scan_evm_erc20_transfers_stores {A : (s : Statement) → s.Answer → Prop}
    {latest_block default_confirmations : Int} (selected_assets : List Asset)
    (hlow : 0 ≤ latest_block) (hhigh : IsI64 latest_block) (hconf : IsI64 default_confirmations)
    (hne : latest_block - default_confirmations ≠ 9223372036854775807) :
    (scan_evm_erc20_transfers context latest_block default_confirmations selected_assets).Given A
      StoresNext fun _ => True := by
  refine Given.bind (query_given (.scan_cursor ..) trivial) fun cursor _ => ?_
  refine Given.bind (Given.lift fun _ h => h) fun range hrange => ?_
  cases range with
  | none => exact Given.done trivial
  | some range =>
    obtain ⟨from_block, to_block⟩ := range
    obtain ⟨hnonneg, hto, hend⟩ := evm_range_end hrange
    have hlast : to_block < 9223372036854775807 := by
      obtain ⟨_, hhigh⟩ := hhigh
      obtain ⟨_, hconf⟩ := hconf
      rw [hend, wrap_of_i64 (by constructor <;> omega)]
      omega
    dsimp only
    split
    · exact Given.done trivial
    refine Given.bind_only Only.lift fun topic => ?_
    refine Given.bind (Given.lift fun _ h => h) fun ranges hranges => ?_
    refine Given.of_only (Only.forEach fun range hmem => scan_erc20_range_stores topic _ ?_)
    exact bounded_block_ranges_next hto hlast hranges range hmem

theorem eth_block_number_given :
    eth_block_number.Given (Heard chains context) StoresNext fun latest_block =>
      ∃ value, Evm.parse_hex_quantity_to_i64 value = .ok latest_block ∧
        ∀ chain, chains.find? (·.id == context.chain_id) = some chain →
          latest_block - chain.default_confirmations ≠ 9223372036854775807 := by
  refine Given.bind (call_given .eth_block_number) fun value hvalue => ?_
  exact Given.lift fun latest_block hparse => ⟨value, hparse, hvalue.2 latest_block hparse⟩

theorem scan_evm_stores (hchains : ∀ chain ∈ chains, IsI64 chain.default_confirmations)
    (provider : Provider) :
    (scan_evm_address_with_provider context provider).Given (Heard chains context) StoresNext
      fun _ => True := by
  refine Given.bind_only Only.lift fun _ => ?_
  refine Given.bind (query_given (.chain_by_id _) trivial) fun chain hchain => ?_
  refine Given.bind (query_given (.native_asset_for_chain _) trivial) fun native_asset _ => ?_
  refine Given.bind (query_given (.selected_assets_for_address _) trivial) fun selected_assets _ => ?_
  refine Given.bind_only Only.lift fun _ => ?_
  refine Given.bind eth_block_number_given fun latest_block hlatest => ?_
  refine Given.bind_only ?_ fun events => ?_
  · split
    · refine Only.bind (call_only (fun _ => trivial) _) fun balance_hex => ?_
      refine Only.bind Only.lift fun balance_raw => Only.bind Only.lift fun balance_decimal => ?_
      refine Only.bind (Only.perform trivial) fun current => ?_
      refine Only.bind (Only.perform trivial) fun previous => ?_
      cases previous with
      | none => exact Only.done
      | some previous =>
        dsimp only
        split
        · exact Only.bind Only.lift fun draft => insert_event_stores draft
        · exact Only.done
    · exact Only.done
  · obtain ⟨value, hparse, hbelow⟩ := hlatest
    obtain ⟨hlow, hhigh⟩ := parse_hex_quantity_bounds hparse
    refine Given.bind (scan_evm_erc20_transfers_stores selected_assets hlow ⟨by omega, hhigh⟩
      (hchains chain (List.mem_of_find?_eq_some hchain)) (hbelow chain hchain)) fun _ _ => ?_
    exact Given.done trivial

/-! ### The TRON scan -/

theorem trx_page_next {address : String} {min_timestamp : Int} {fingerprint : Option String}
    {page : Tron.TronPage Tron.TrxTransferPayload} {native_asset : Asset} {page_index : Nat}
    {transfers : List Tron.DecodedTronTransfer}
    (hpage : Heard chains context (.remote (.tron_transactions address min_timestamp fingerprint))
      page) (h : decode_trx_items native_asset page_index 0 page.data = .ok transfers) :
    ∀ t ∈ transfers, HasNext t.cursor_value := by
  intro t ht
  obtain ⟨item, hitem, n, hdecode⟩ := mem_decode_trx_items h t ht
  obtain ⟨p, _, _, _, _, rfl, _, _, _, _, _, _, _, htimestamp, hnonneg, _⟩ :=
    Tron.try_decode_trx_ok hdecode
  have htyped : IsI64 p.block_timestamp := hpage.1 p hitem
  rw [htimestamp] at htyped
  exact has_next hnonneg htyped (hpage.2 _ hitem _ n t hdecode)

theorem account_transactions_given (address : String) (min_timestamp : Int)
    (fingerprint : Option String) :
    (account_transactions_page address min_timestamp fingerprint).Given (Heard chains context)
      StoresNext fun page => ∃ sent, Heard chains context
        (.remote (.tron_transactions sent min_timestamp (push_fingerprint fingerprint))) page := by
  refine Given.bind_only Only.lift fun sent => ?_
  exact Given.mono (call_given _) fun page hpage => ⟨sent, hpage⟩

theorem account_trc20_transfers_given (address contract_address : String) (min_timestamp : Int)
    (fingerprint : Option String) :
    (account_trc20_transfers_page address contract_address min_timestamp fingerprint).Given
      (Heard chains context) StoresNext fun page => ∃ sent_to sent,
        Tron.normalize_tron_address contract_address = .ok sent ∧ Heard chains context
          (.remote (.tron_trc20_transfers sent_to sent min_timestamp
            (push_fingerprint fingerprint))) page := by
  refine Given.bind_only Only.lift fun sent_to => ?_
  refine Given.bind (Given.lift fun _ h => h) fun sent hsent => ?_
  exact Given.mono (call_given _) fun page hpage => ⟨sent_to, sent, hsent, hpage⟩

theorem trx_pages_given {native_asset : Asset} {trx_from : Int} (rounds page_index : Nat)
    (fingerprint : Option String) :
    (trx_pages context native_asset trx_from rounds page_index fingerprint).Given
      (Heard chains context) StoresNext fun transfers => ∀ t ∈ transfers, HasNext t.cursor_value := by
  induction rounds generalizing page_index fingerprint with
  | zero => exact Given.done nofun
  | succ rounds ih =>
    refine Given.bind (account_transactions_given ..) fun page hpage => ?_
    obtain ⟨sent, hpage⟩ := hpage
    refine Given.bind_only Only.lift fun _ => ?_
    refine Given.bind (Given.lift fun transfers h => trx_page_next hpage h) fun transfers hnew => ?_
    cases page.next_fingerprint with
    | none => exact Given.done hnew
    | some next =>
      refine Given.bind (ih _ _) fun rest hrest => Given.done fun t ht => ?_
      rcases List.mem_append.mp ht with ht | ht
      · exact hnew t ht
      · exact hrest t ht

/-- What has been collected can be stored. -/
def CollectsNext (collected : Collected) : Prop :=
  ∀ value, collected.cursor_value = some value → HasNext value

theorem CollectsNext.collect {asset : Asset} {collected : Collected}
    {ts : List Tron.DecodedTronTransfer} (h : CollectsNext collected)
    (hts : ∀ t ∈ ts, tron_transfer_should_scan asset t = true → HasNext t.cursor_value) :
    CollectsNext (ts.foldl (collect_matching_tron_transfer asset) collected) := by
  induction ts generalizing collected with
  | nil => exact h
  | cons t ts ih =>
    refine ih (fun value hvalue => ?_) fun u hu => hts u (List.mem_cons_of_mem _ hu)
    unfold collect_matching_tron_transfer at hvalue
    split at hvalue
    next hscan =>
      have hnext := hts t (List.mem_cons_self ..) hscan
      obtain rfl := Option.some.inj hvalue
      cases hcurrent : collected.cursor_value with
      | none => exact hnext
      | some current => exact has_next_max (h current hcurrent) hnext
    · exact h value hvalue

/-- Only a contract that is written as it is sent is matched. -/
theorem trc20_page_next {asset : Asset} {contract_address sent address : String}
    {min_timestamp : Int} {fingerprint : Option String}
    {page : Tron.TronPage Tron.Trc20TransferPayload} {page_index : Nat}
    {transfers : List Tron.DecodedTronTransfer} (hasset : asset.contract_address = some contract_address)
    (hsent : Tron.normalize_tron_address contract_address = .ok sent)
    (hpage : Heard chains context
      (.remote (.tron_trc20_transfers address sent min_timestamp fingerprint)) page)
    (h : decode_trc20_items asset contract_address page_index 0 page.data = .ok transfers) :
    ∀ t ∈ transfers, tron_transfer_should_scan asset t = true → HasNext t.cursor_value := by
  intro t ht hscan
  obtain ⟨item, hitem, n, hdecode⟩ := (mem_decode_trc20_items h).2 t ht
  obtain ⟨p, token, rfl, hnormalized, _, _, htimestamp, hnonneg, _, htoken, _⟩ :=
    Tron.decode_trc20_ok hdecode
  obtain rfl := Except.ok.inj (hsent.symm.trans hnormalized)
  have hsame : contract_address = sent := by
    simpa [tron_transfer_should_scan, hasset, htoken] using hscan
  rw [hsame] at hdecode
  exact has_next hnonneg (hpage.1 p hitem _ htimestamp) (hpage.2 _ hitem _ n t hdecode)

theorem trc20_pages_given {asset : Asset} {contract_address : String} {trc20_from : Int}
    (hasset : asset.contract_address = some contract_address) (rounds page_index : Nat)
    (fingerprint : Option String) {collected : Collected} (h : CollectsNext collected) :
    (trc20_pages context asset contract_address trc20_from rounds page_index fingerprint
      collected).Given (Heard chains context) StoresNext CollectsNext := by
  induction rounds generalizing page_index fingerprint collected with
  | zero => exact Given.done h
  | succ rounds ih =>
    refine Given.bind (account_trc20_transfers_given ..) fun page hpage => ?_
    obtain ⟨sent_to, sent, hsent, hpage⟩ := hpage
    refine Given.bind_only Only.lift fun _ => ?_
    refine Given.bind (Given.lift fun transfers h => trc20_page_next hasset hsent hpage h)
      fun transfers hnew => ?_
    dsimp only
    cases page.next_fingerprint with
    | none => exact Given.done (h.collect hnew)
    | some next => exact ih _ _ (h.collect hnew)

theorem trc20_assets_pages_given {trc20_from : Int} (assets : List Asset) {collected : Collected}
    (h : CollectsNext collected) :
    (trc20_assets_pages context trc20_from assets collected).Given (Heard chains context) StoresNext
      CollectsNext := by
  induction assets generalizing collected with
  | nil => exact Given.done h
  | cons asset assets ih =>
    unfold trc20_assets_pages
    split
    · exact ih h
    · next contract_address hasset =>
      exact Given.bind (trc20_pages_given hasset _ _ _ h) fun collected hnew => ih hnew

theorem scan_tron_stores (provider : Provider) :
    (scan_tron_address_with_provider context provider).Given (Heard chains context) StoresNext
      fun _ => True := by
  refine Given.bind_only Only.lift fun _ => ?_
  refine Given.bind (query_given (.native_asset_for_chain _) trivial) fun native_asset _ => ?_
  refine Given.bind (query_given (.selected_assets_for_address _) trivial) fun selected_assets _ => ?_
  refine Given.bind_only Only.lift fun _ => ?_
  refine Given.bind (query_given (.scan_cursor ..) trivial) fun trx_cursor _ => ?_
  have htrx : (if native_asset_selected selected_assets native_asset then
      trx_pages context native_asset (next_after trx_cursor) MAX_PROVIDER_PAGES_PER_SCAN 0 none
    else .done []).Given (Heard chains context) StoresNext
      fun transfers => ∀ t ∈ transfers, HasNext t.cursor_value := by
    split
    · exact trx_pages_given ..
    · exact Given.done nofun
  refine Given.bind htrx fun trx_transfers htransfers => ?_
  refine Given.bind (query_given (.scan_cursor ..) trivial) fun trc20_cursor _ => ?_
  refine Given.bind (trc20_assets_pages_given _ nofun) fun trc20 htrc20 => ?_
  refine Given.of_only ?_
  refine Only.bind (Only.forEach fun _ _ => insert_event_stores _) fun trx_events => ?_
  refine Only.bind (Only.forEach fun _ _ => insert_event_stores _) fun trc20_events => ?_
  refine Only.bind (write_cursor_stores _ (max?_has_next fun v hv => ?_)) fun _ => ?_
  · obtain ⟨t, ht, rfl⟩ := List.mem_map.mp hv
    exact htransfers t ht
  · exact Only.bind (write_cursor_stores _ htrc20) fun _ => Only.done

/-! ### The BTC scan -/

theorem address_transactions_given (address : String) (last_seen_txid : Option String) :
    (address_transactions_page address last_seen_txid).Given (Heard chains context) StoresNext
      fun page => ∃ sent, Heard chains context (.remote (.btc_transactions sent last_seen_txid))
        (.ok page.transactions) := by
  refine Given.bind_only Only.lift fun sent => Given.bind_only Only.lift fun _ => ?_
  refine Given.bind (call_given (.btc_transactions sent last_seen_txid)) fun body hbody => ?_
  refine Given.lift fun page hpage => ⟨sent, ?_⟩
  obtain ⟨transactions, htransactions, hpage⟩ := bind_ok hpage
  obtain ⟨_, _, hpage⟩ := bind_ok hpage
  obtain rfl := Except.ok.inj hpage
  cases body with
  | error e => exact nomatch htransactions
  | ok body =>
    obtain rfl := Except.ok.inj htransactions
    exact hbody

theorem btc_page_next {sent : String} {last_seen_txid : Option String} {from_block : Int}
    {transactions : List Btc.BtcTransaction} {transfers : List Btc.DecodedBtcTransfer}
    (hpage : Heard chains context (.remote (.btc_transactions sent last_seen_txid))
      (.ok transactions))
    (h : classify_btc_page context.address from_block transactions = .ok transfers) :
    ∀ t ∈ transfers, HasNext t.block_number := by
  obtain rfl := BtcWorld.classify_btc_page_transfers h
  intro t ht
  obtain ⟨tx, htx, hclassify, _⟩ := mem_new_transfers.mp ht
  have htyped := hpage.1 tx htx _ (Btc.classify_height hclassify)
  exact has_next (Btc.classify_nonneg hclassify) htyped (hpage.2 tx htx t hclassify)

theorem btc_pages_given {from_block : Int} (rounds pages_processed : Nat)
    (last_seen_txid : Option String) :
    (btc_pages context.address from_block rounds pages_processed last_seen_txid).Given
      (Heard chains context) StoresNext fun transfers => ∀ t ∈ transfers, HasNext t.block_number := by
  induction rounds generalizing pages_processed last_seen_txid with
  | zero => exact Given.done nofun
  | succ rounds ih =>
    refine Given.bind (address_transactions_given ..) fun page hpage => ?_
    obtain ⟨sent, hpage⟩ := hpage
    refine Given.bind_only Only.lift fun process => ?_
    split
    · exact Given.done nofun
    refine Given.bind (Given.lift fun transfers h => btc_page_next hpage h) fun transfers hnew => ?_
    cases page.next_last_seen_txid with
    | none => exact Given.done hnew
    | some next =>
      refine Given.bind (ih _ _) fun rest hrest => Given.done fun t ht => ?_
      rcases List.mem_append.mp ht with ht | ht
      · exact hnew t ht
      · exact hrest t ht

theorem scan_btc_stores (provider : Provider) :
    (scan_btc_address_with_provider context provider).Given (Heard chains context) StoresNext
      fun _ => True := by
  refine Given.bind_only Only.lift fun _ => ?_
  refine Given.bind (query_given (.native_asset_for_chain _) trivial) fun native_asset _ => ?_
  refine Given.bind (query_given (.selected_assets_for_address _) trivial) fun selected_assets _ => ?_
  split
  · exact Given.done trivial
  refine Given.bind_only Only.lift fun _ => ?_
  refine Given.bind_only (address_balance_only (fun _ => trivial) _) fun balance => ?_
  refine Given.bind (query_given (.insert_balance_snapshot _) trivial) fun snapshot _ => ?_
  refine Given.bind (query_given (.scan_cursor ..) trivial) fun cursor _ => ?_
  refine Given.bind (btc_pages_given ..) fun transfers htransfers => ?_
  refine Given.of_only (Only.bind (Only.forEach fun _ _ => insert_event_stores _) fun events => ?_)
  refine Only.bind (write_cursor_stores _ (max?_has_next fun v hv => ?_)) fun _ => Only.done
  obtain ⟨t, ht, rfl⟩ := List.mem_map.mp hv
  exact htransfers t ht

/-! ### Any scan -/

theorem scan_candidates_stores {chain_id : Uuid} {scan : Provider → Scan (List AddressEvent)}
    (h : ∀ provider, (scan provider).Given (Heard chains context) StoresNext fun _ => True)
    (candidates : List Provider) (last_provider_error : Option AppError) :
    (scan_candidates chain_id scan candidates last_provider_error).Given (Heard chains context)
      StoresNext fun _ => True := by
  induction candidates generalizing last_provider_error with
  | nil => exact Given.fail
  | cons provider candidates ih =>
    refine Given.bind (h provider).attempt fun result _ => ?_
    cases result with
    | ok events => exact Given.done trivial
    | error error =>
      dsimp only
      split
      · exact ih _
      · exact Given.fail

theorem scan_address_stores (hchains : ∀ chain ∈ chains, IsI64 chain.default_confirmations)
    (chain_type : String) (candidates : List Provider) :
    (scan_address chain_type context candidates).Given (Heard chains context) StoresNext
      fun _ => True := by
  unfold scan_address
  split
  · exact scan_candidates_stores (scan_evm_stores hchains) ..
  · exact scan_candidates_stores scan_tron_stores ..
  · exact scan_candidates_stores scan_btc_stores ..
  · exact Given.done trivial

end Stores

/-! ### Workers -/

/-- The database, and the address each worker scans. -/
structure ScanWorld (W : Type) where
  db : Db
  context : W → ScanAddressContext

/-- What may become of a worker's statement, under a condition on the replies. -/
inductive ScanCarried {W : Type} (C : List Chain → ScanAddressContext → (c : Call) → c.Answer → Prop)
    (w : W) (s : ScanWorld W) : (op : Statement) → AppResult op.Answer → ScanWorld W → Prop where
  | db {q r db} (h : Query.Fate s.db q r db) : ScanCarried C w s (.db q) r { s with db := db }
  | replied {c a} (htyped : WellTyped c a) (h : C s.db.chains (s.context w) c a) :
      ScanCarried C w s (.remote c) (.ok a) s
  | failed {c e} : ScanCarried C w s (.remote c) (.error e) s

/-- Any address is scanned at any time, with any candidates. -/
inductive ScanLaunch {W : Type} [DecidableEq W] (w : W) (s : ScanWorld W) :
    Scan (List AddressEvent) → ScanWorld W → Prop where
  | scan (context : ScanAddressContext) (chain_type : String) (candidates : List Provider) :
      ScanLaunch w s (scan_address chain_type context candidates)
        { s with context := Function.update s.context w context }

/-- Others may do anything but write cursors. Chains come with the schema. -/
structure ScanOthers {W : Type} (s t : ScanWorld W) : Prop where
  cursors : t.db.scan_cursors ⊆ s.db.scan_cursors
  chains : t.db.chains = s.db.chains
  context : t.context = s.context

abbrev ScanStep {W : Type} [DecidableEq W]
    (C : List Chain → ScanAddressContext → (c : Call) → c.Answer → Prop) :
    ScanWorld W × (W → Scan (List AddressEvent)) → ScanWorld W × (W → Scan (List AddressEvent)) →
      Prop :=
  Prog.Crew (ScanCarried C) ScanOthers ScanLaunch

/-- Nothing has been scanned, and the confirmations of a chain are 64-bit integers. -/
structure ScanStart {W : Type} (c : ScanWorld W × (W → Scan (List AddressEvent))) : Prop where
  cursors : c.1.db.scan_cursors = []
  chains : ∀ chain ∈ c.1.db.chains, IsI64 chain.default_confirmations
  idle : ∀ w, c.2 w = .done []

/-- Every stored cursor has a next value. -/
structure CursorsNext {W : Type} (chains : List Chain) (s : ScanWorld W) : Prop where
  cursors : ∀ cursor ∈ s.db.scan_cursors, HasNext cursor.last_scanned_block
  chains : s.db.chains = chains

section Workers
variable {W : Type} {chains : List Chain} {s t : ScanWorld W} {w : W}

theorem upsert_cursor_next {cursor : ScanCursor} (hcursor : HasNext cursor.last_scanned_block)
    {cursors : List ScanCursor} (h : ∀ c ∈ cursors, HasNext c.last_scanned_block) :
    ∀ c ∈ upsert_cursor cursor cursors, HasNext c.last_scanned_block := by
  induction cursors with
  | nil =>
    intro c hc
    obtain rfl := List.mem_singleton.mp hc
    exact hcursor
  | cons stored cursors ih =>
    have hstored := h stored (List.mem_cons_self ..)
    have hrest : ∀ c ∈ cursors, HasNext c.last_scanned_block :=
      fun c hc => h c (List.mem_cons_of_mem _ hc)
    unfold upsert_cursor
    split
    · intro c hc
      rcases List.mem_cons.mp hc with rfl | hc
      · exact has_next_max hstored hcursor
      · exact hrest c hc
    · intro c hc
      rcases List.mem_cons.mp hc with rfl | hc
      · exact hstored
      · exact ih hrest c hc

theorem CursorsNext.query (h : CursorsNext chains s) {q : Query} (hq : StoresNext (.db q)) :
    CursorsNext chains { s with db := (q.run s.db).2 } := by
  cases q with
  | upsert_scan_cursor cursor => exact ⟨upsert_cursor_next hq h.cursors, h.chains⟩
  | _ => exact ⟨h.cursors, h.chains⟩

theorem chain_by_id_ok {db : Db} {chain_id : Uuid} {chain : Chain}
    (h : db.chain_by_id chain_id = .ok chain) : db.chains.find? (·.id == chain_id) = some chain := by
  unfold Db.chain_by_id at h
  split at h
  · next found hfound => rw [hfound, Except.ok.inj h]
  · exact nomatch h

theorem CursorsNext.carried (h : CursorsNext chains s) {op : Statement} {r : AppResult op.Answer}
    (hop : StoresNext op) (hcarried : ScanCarried BelowLast w s op r t) :
    CursorsNext chains t ∧ t.context = s.context ∧
      ∀ a, r = .ok a → Heard chains (s.context w) op a := by
  cases hcarried with
  | @db q r db hfate =>
    refine ⟨?_, rfl, fun a ha => ?_⟩
    · rcases hfate.state with rfl | rfl
      · exact h
      · exact h.query hop
    · subst ha
      have hanswer := (Fate.answer _ _ _ hfate).1
      cases q with
      | chain_by_id chain_id =>
        rw [← h.chains]
        exact chain_by_id_ok hanswer
      | _ => trivial
  | replied htyped hbelow =>
    refine ⟨h, rfl, fun a ha => ?_⟩
    obtain rfl := Except.ok.inj ha
    rw [h.chains] at hbelow
    exact ⟨htyped, hbelow⟩
  | failed => exact ⟨h, rfl, nofun⟩

/-- The induction over a run. -/
theorem cursors_next_run [DecidableEq W] {c d : ScanWorld W × (W → Scan (List AddressEvent))}
    (hstart : ScanStart c) (hrun : Relation.ReflTransGen (ScanStep BelowLast) c d) :
    CursorsNext c.1.db.chains d.1 := by
  have hgiven : CursorsNext c.1.db.chains d.1 ∧ ∀ w, (d.2 w).Given
      (Heard c.1.db.chains (d.1.context w)) StoresNext fun _ => True := by
    refine Prog.Crew.given_run (fun h hl => ?_) (fun h hop hcarried => h.carried hop hcarried)
      (fun h he => ?_) ⟨⟨?_, rfl⟩, fun w => ?_⟩ hrun
    · cases hl with
      | scan context chain_type candidates =>
        refine ⟨⟨h.cursors, h.chains⟩, fun v hv => Function.update_of_ne hv .., ?_⟩
        dsimp only
        rw [Function.update_self]
        exact scan_address_stores hstart.chains chain_type candidates
    · exact ⟨⟨fun cursor hcursor => h.cursors cursor (he.cursors hcursor),
        he.chains.trans h.chains⟩, he.context⟩
    · rw [hstart.cursors]
      exact nofun
    · rw [hstart.idle]
      exact Prog.Given.done trivial
  exact hgiven.1

theorem stored_starts_fit [DecidableEq W] {c d : ScanWorld W × (W → Scan (List AddressEvent))}
    (hstart : ScanStart c) (hrun : Relation.ReflTransGen (ScanStep BelowLast) c d)
    (address_id : Uuid) (cursor_type : String) :
    StartsFit (d.1.db.scan_cursor address_id cursor_type) :=
  starts_fit fun _ hcursor =>
    (cursors_next_run hstart hrun).cursors _ (List.mem_of_find?_eq_some hcursor)

end Workers

/-! ### A payment at a given time -/

section Payment
variable (timestamp : Int)

def payment_page : Tron.TronPage Tron.TrxTransferPayload :=
  ⟨[trx_payment 'a' timestamp], none⟩

/-- A provider with one native payment. -/
def payment_step (s : ScanWorld Unit) : (op : Statement) → AppResult op.Answer × ScanWorld Unit
  | .db q => ((q.run s.db).1, { s with db := (q.run s.db).2 })
  | .remote (.tron_transactions ..) => (.ok (payment_page timestamp), s)
  | .remote _ => (.error (.Config "no answer"), s)

/-- The world after the first scan. -/
def payment_scanned : ScanWorld Unit :=
  (Prog.eval (payment_step timestamp) (scan_address "tron" watched_tron [tron_provider])
    ⟨scripted_start.db, fun _ => watched_tron⟩).2

variable {C : List Chain → ScanAddressContext → (c : Call) → c.Answer → Prop}

theorem payment_run (htyped : IsI64 timestamp)
    (hC : ∀ chains context address min_timestamp fingerprint,
      C chains context (.tron_transactions address min_timestamp fingerprint)
        (payment_page timestamp)) :
    ∃ c d : ScanWorld Unit × (Unit → Scan (List AddressEvent)), ScanStart c ∧
      Relation.ReflTransGen (ScanStep C) c d ∧ d.1 = payment_scanned timestamp := by
  have hstep : ∀ s op, true = true → ScanCarried C () s op (payment_step timestamp s op).1
      (payment_step timestamp s op).2 := by
    intro s op _
    cases op with
    | db q => exact .db .answered
    | remote c =>
      cases c with
      | tron_transactions address min_timestamp fingerprint =>
        refine .replied (fun p hp => ?_) (hC ..)
        obtain rfl := Except.ok.inj (List.mem_singleton.mp hp)
        exact htyped
      | _ => exact .failed
  have hscan : ∃ qs, Relation.ReflTransGen (ScanStep C) (⟨scripted_start.db, fun _ => watched_tron⟩,
      Function.update (fun _ => .done []) () (scan_address "tron" watched_tron [tron_provider]))
        (payment_scanned timestamp, qs) :=
    (Prog.Crew.of_eval hstep _ (Prog.along_true ..) _ (Function.update_self ..)).imp fun _ h => h.1
  obtain ⟨qs, hrun⟩ := hscan
  have hlaunch : ScanLaunch () ⟨scripted_start.db, fun _ => watched_tron⟩
      (scan_address "tron" watched_tron [tron_provider])
      ⟨scripted_start.db, Function.update (fun _ => watched_tron) () watched_tron⟩ :=
    .scan watched_tron "tron" [tron_provider]
  rw [Function.update_eq_self] at hlaunch
  exact ⟨(⟨scripted_start.db, fun _ => watched_tron⟩, fun _ => .done []), (_, qs),
    ⟨rfl, nofun, fun _ => rfl⟩, .head (.launch () hlaunch) hrun, rfl⟩

end Payment

end CoinListener.Worker
