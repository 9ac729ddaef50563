import CoinListener.Worker.EvmScan
import CoinListener.Worker.Hosts

/-! The ERC-20 cursor: what lies between the first scanned block and the cursor is stored once. -/
namespace CoinListener.Worker
open Foundation Storage Providers

/-! ### The ranges of a scan -/

/-- The block after the ranges done. -/
def next_block (from_block : Int) (done : List BlockRange) : Int :=
  done.foldl (fun _ range => range.to_block + 1) from_block

/-- No block is left out: a range starts where the ranges before it end. -/
theorem block_ranges_contiguous {to_block span : Int} (hspan : 0 < span)
    (hto : to_block < 9223372036854775808) (rounds : Nat) (from_block : Int)
    {pre post : List BlockRange} {range : BlockRange}
    (h : block_ranges to_block span rounds from_block = pre ++ range :: post) :
    range.from_block = next_block from_block pre ∧ range.from_block ≤ range.to_block := by
  induction rounds generalizing from_block pre with
  | zero =>
    cases pre <;> exact nomatch h
  | succ rounds ih =>
    simp only [block_ranges] at h
    split at h
    · next hle =>
      have hfirst : from_block ≤ min (saturating_i64 (from_block + (span - 1))) to_block := by
        simp only [saturating_i64]
        omega
      cases pre with
      | nil =>
        obtain rfl := (List.cons.inj h).1
        exact ⟨rfl, hfirst⟩
      | cons first pre =>
        obtain ⟨rfl, hrest⟩ := List.cons.inj h
        split at hrest
        · cases pre <;> exact nomatch hrest
        · have hnext := ih _ hrest
          exact hnext
    · cases pre <;> exact nomatch h

/-- Where a scan starts and ends: right after the cursor, or at most a window below the end. -/
theorem evm_transfer_scan_range_ok {cursor : Option ScanCursor}
    {latest_block default_confirmations from_block to_block : Int}
    (h : evm_transfer_scan_range cursor latest_block default_confirmations =
      .ok (some (from_block, to_block))) :
    to_block < 9223372036854775808 ∧ (cursor = none → 0 ≤ from_block) ∧
      ∀ c, cursor = some c → from_block = wrap_i64 (c.last_scanned_block + 1) := by
  simp only [evm_transfer_scan_range] at h
  split at h
  · exact nomatch h
  split at h
  · exact nomatch h
  cases cursor with
  | none =>
    dsimp only at h
    split at h
    · exact nomatch h
    obtain ⟨rfl, rfl⟩ := Prod.mk.inj (Option.some.inj (Except.ok.inj h))
    exact ⟨wrap_i64_lt _, fun _ => le_max_right .., nofun⟩
  | some c =>
    dsimp only at h
    split at h
    · exact nomatch h
    obtain ⟨rfl, rfl⟩ := Prod.mk.inj (Option.some.inj (Except.ok.inj h))
    refine ⟨wrap_i64_lt _, nofun, fun c' hc => ?_⟩
    rw [Option.some.inj hc]

/-! ### The chain and its filters -/

/-- A log as the chain holds it: the text every provider gives of it, and its block. -/
structure ChainLog where
  log : Evm.EvmLog
  block : Int

/-- Topics match in their positions, and an empty position matches any topic. -/
def topics_match : List (Option String) → List String → Bool
  | [], _ => true
  | _ :: _, [] => false
  | none :: filters, _ :: topics => topics_match filters topics
  | some filter :: filters, topic :: topics =>
    Text.eqIgnoreAsciiCase topic filter && topics_match filters topics

def ChainLog.Matches (l : ChainLog) (filter : Evm.EvmLogFilter) : Prop :=
  Text.eqIgnoreAsciiCase l.log.address filter.address = true ∧
    topics_match filter.topics l.log.topics = true ∧
    filter.from_block ≤ l.block ∧ l.block ≤ filter.to_block

instance (l : ChainLog) (filter : Evm.EvmLogFilter) : Decidable (l.Matches filter) :=
  inferInstanceAs (Decidable (_ ∧ _))

/-- A transfer of the asset to or from the watched address, in a range of blocks. -/
def Touches (context : ScanAddressContext) (asset : Asset) (range : BlockRange) (l : ChainLog) :
    Prop :=
  ∃ contract topic, asset.contract_address = some contract ∧
    Evm.address_to_topic context.address = .ok topic ∧
    (l.Matches (incoming contract topic range) ∨ l.Matches (outgoing contract topic range))

theorem Touches.block {context : ScanAddressContext} {asset : Asset} {range : BlockRange}
    {l : ChainLog} (h : Touches context asset range l) :
    range.from_block ≤ l.block ∧ l.block ≤ range.to_block := by
  obtain ⟨_, _, _, _, h | h⟩ := h <;> exact h.2.2

/-- Only the block of a log decides in which ranges it is. -/
theorem Touches.narrow {context : ScanAddressContext} {asset : Asset} {range range' : BlockRange}
    {l : ChainLog} (h : Touches context asset range l) (hfrom : range'.from_block ≤ l.block)
    (hto : l.block ≤ range'.to_block) : Touches context asset range' l := by
  obtain ⟨contract, topic, hcontract, htopic, h | h⟩ := h
  · exact ⟨contract, topic, hcontract, htopic, Or.inl ⟨h.1, h.2.1, hfrom, hto⟩⟩
  · exact ⟨contract, topic, hcontract, htopic, Or.inr ⟨h.1, h.2.1, hfrom, hto⟩⟩

/-! ### Runs -/

/-- The database; where the scan at work starts, and where the first scan that wrote the cursor
started. -/
structure EvmWorld where
  db : Db
  from_block : Option Int
  first_from : Option Int

section Runs
variable (context : ScanAddressContext)

/-- The start of the scan at work is remembered when the cursor first appears. -/
def EvmWorld.store (w : EvmWorld) (db : Db) : EvmWorld :=
  { w with
    db := db
    first_from :=
      if (w.db.scan_cursor context.id EVM_ERC20_TRANSFER_CURSOR).isNone &&
          (db.scan_cursor context.id EVM_ERC20_TRANSFER_CURSOR).isSome then w.from_block
      else w.first_from }

/-- The statements of a scan: the provider returns exactly the logs that match, and everything may
fail. -/
inductive EvmStep (history : ChainLog → Prop) :
    EvmWorld → (s : Statement) → AppResult s.Answer → EvmWorld → Prop where
  | db {w q r db} (h : Query.Fate w.db q r db) : EvmStep history w (.db q) r (w.store context db)
  | logs {w filter logs}
      (h : ∀ log, log ∈ logs ↔ ∃ l, history l ∧ l.Matches filter ∧ l.log = log) :
      EvmStep history w (.remote (.eth_get_logs filter)) (.ok logs) w
  | failed {w c e} : EvmStep history w (.remote c) (.error e) w
  | other {w c a} (h : ∀ filter, c ≠ .eth_get_logs filter) :
      EvmStep history w (.remote c) (.ok a) w

/-- The first block of a scan, if there is one. -/
def start_block (cursor : Option ScanCursor) (latest_block default_confirmations : Int) :
    Option Int :=
  match evm_transfer_scan_range cursor latest_block default_confirmations with
  | .ok (some (from_block, _)) => some from_block
  | _ => none

/-- A scan starts with any latest block, also a lower one than before. -/
inductive EvmLaunches (selected : List Asset) :
    EvmWorld → Scan (List AddressEvent) → EvmWorld → Prop where
  | scan {w} (latest_block default_confirmations : Int) : EvmLaunches selected w
      (scan_evm_erc20_transfers context latest_block default_confirmations selected)
      { w with
        from_block := start_block (w.db.scan_cursor context.id EVM_ERC20_TRANSFER_CURSOR)
          latest_block default_confirmations }

/-- Scans of one address, one after another. -/
abbrev EvmRun (history : ChainLog → Prop) (selected : List Asset) :
    EvmWorld × Scan (List AddressEvent) → EvmWorld × Scan (List AddressEvent) → Prop :=
  Relation.ReflTransGen
    (Prog.Turn (EvmStep context history) (fun _ _ => False) (EvmLaunches context selected))

/-- The log is decoded, and an event of its transfer is stored for the asset. -/
def LogStored (tables : EventTables) (asset : Asset) (log : Evm.EvmLog) : Prop :=
  ∃ t key, Evm.decode_erc20_transfer_log log asset.decimals = .ok t ∧
    (Evm.transfer_event_draft context asset t).unique_transfer = some key ∧ tables.HasEvent key

/-- The log has one event for the asset, and that event has one outbox row. -/
def StoredOnce (tables : EventTables) (asset : Asset) (log : Evm.EvmLog) : Prop :=
  ∃ t key, Evm.decode_erc20_transfer_log log asset.decimals = .ok t ∧
    (Evm.transfer_event_draft context asset t).unique_transfer = some key ∧
    ∃ e, tables.address_events.filter (·.unique_transfer == some key) = [e] ∧
      ∃ o, tables.notification_outbox.filter (·.event_id == e.id) = [o]

/-- What the cursor promises of every log from the first block on. -/
def CursorPromise (history : ChainLog → Prop) (selected : List Asset)
    (stored : EventTables → Asset → Evm.EvmLog → Prop) (w : EvmWorld) : Prop :=
  ∀ cursor, w.db.scan_cursor context.id EVM_ERC20_TRANSFER_CURSOR = some cursor →
    ∃ first, w.first_from = some first ∧
      ∀ asset ∈ selected_assets_by_type selected "erc20", ∀ l, history l →
        Touches context asset ⟨first, cursor.last_scanned_block⟩ l →
          stored w.db.events asset l.log

/-- The cursor of the second world is no lower. -/
def CursorAdvances (w t : EvmWorld) : Prop :=
  ∀ cursor, w.db.scan_cursor context.id EVM_ERC20_TRANSFER_CURSOR = some cursor →
    ∃ cursor', t.db.scan_cursor context.id EVM_ERC20_TRANSFER_CURSOR = some cursor' ∧
      cursor.last_scanned_block ≤ cursor'.last_scanned_block

structure EvmInv (history : ChainLog → Prop) (selected : List Asset) (w : EvmWorld) : Prop where
  outboxed : w.db.events.Outboxed
  nonneg : ∀ cursor, w.db.scan_cursor context.id EVM_ERC20_TRANSFER_CURSOR = some cursor →
    0 ≤ cursor.last_scanned_block
  promise : CursorPromise context history selected (LogStored context) w

end Runs

section Steps
variable {context : ScanAddressContext} {history : ChainLog → Prop} {selected : List Asset}
  {w t : EvmWorld}

theorem store_same_cursor {db : Db}
    (h : db.scan_cursor context.id EVM_ERC20_TRANSFER_CURSOR =
      w.db.scan_cursor context.id EVM_ERC20_TRANSFER_CURSOR) :
    w.store context db = { w with db := db } := by
  unfold EvmWorld.store
  rw [h]
  cases w.db.scan_cursor context.id EVM_ERC20_TRANSFER_CURSOR <;> rfl

theorem evm_hosts : Hosts (EvmStep context history) EvmWorld.db (EvmWorld.store context) where
  same := fun w => store_same_cursor rfl
  fate := fun h => by
    cases h with
    | db h => exact ⟨_, h, rfl⟩

theorem LogStored.once {tables : EventTables} {asset : Asset} {log : Evm.EvmLog}
    (h : LogStored context tables asset log) (hout : tables.Outboxed) :
    StoredOnce context tables asset log := by
  obtain ⟨t, key, hdecode, hkey, hevent⟩ := h
  obtain ⟨e, he, hone⟩ := hevent.once
  exact ⟨t, key, hdecode, hkey, e, hone, hout.once he⟩

theorem LogStored.insert {tables : EventTables} {asset : Asset} {log : Evm.EvmLog}
    (h : LogStored context tables asset log) (draft : AddressEventDraft) :
    LogStored context (tables.insert_event_and_outbox_if_not_exists draft).2 asset log := by
  obtain ⟨t, key, hdecode, hkey, hevent⟩ := h
  exact ⟨t, key, hdecode, hkey, hevent.insert⟩

theorem EvmInv.insert (h : EvmInv context history selected w) (draft : AddressEventDraft) :
    EvmInv context history selected
      { w with db := (w.db.insert_event_and_outbox_if_not_exists draft).2 } := by
  refine ⟨h.outboxed.insert, h.nonneg, fun cursor hcursor => ?_⟩
  obtain ⟨first, hfirst, hstored⟩ := h.promise cursor hcursor
  exact ⟨first, hfirst, fun asset hasset l hl htouches =>
    (hstored asset hasset l hl htouches).insert draft⟩

/-- Anywhere in a run. -/
def evm_anywhere (context : ScanAddressContext) (history : ChainLog → Prop)
    (selected : List Asset) : Prog.Assn Eq (EvmInv context history selected) where
  holds := EvmInv context history selected
  stable := fun h he => he ▸ h
  good := id

/-- In a scan that goes on at `next`: everything below is covered, and the logs named by `S` are
stored. -/
structure Going (context : ScanAddressContext) (history : ChainLog → Prop) (selected : List Asset)
    (next : Int) (S : Asset → Evm.EvmLog → Prop) (w : EvmWorld) : Prop where
  inv : EvmInv context history selected w
  first : w.db.scan_cursor context.id EVM_ERC20_TRANSFER_CURSOR = none →
    w.from_block = some next ∧ 0 ≤ next
  adjacent : ∀ cursor, w.db.scan_cursor context.id EVM_ERC20_TRANSFER_CURSOR = some cursor →
    next ≤ cursor.last_scanned_block + 1
  stored : ∀ asset log, S asset log → LogStored context w.db.events asset log

def going (context : ScanAddressContext) (history : ChainLog → Prop) (selected : List Asset)
    (next : Int) (S : Asset → Evm.EvmLog → Prop) :
    Prog.Assn Eq (EvmInv context history selected) where
  holds := Going context history selected next S
  stable := fun h he => he ▸ h
  good := fun h => h.inv

variable {next : Int} {S : Asset → Evm.EvmLog → Prop}

theorem Going.weaken {S' : Asset → Evm.EvmLog → Prop} (h : Going context history selected next S w)
    (hS : ∀ asset log, S' asset log → S asset log) : Going context history selected next S' w :=
  ⟨h.inv, h.first, h.adjacent, fun asset log hs => h.stored asset log (hS asset log hs)⟩

theorem scan_erc20_log_triple (asset : Asset) (log : Evm.EvmLog) :
    Prog.Triple Prog.Any (EvmStep context history) (going context history selected next S)
      (scan_erc20_log context asset log)
      (fun _ => going context history selected next fun a l => S a l ∨ (a = asset ∧ l = log))
      fun _ => evm_anywhere context history selected := by
  refine Prog.Triple.bind_lift (fun transfer hdecode => ?_) fun _ _ _ hw => hw.inv
  refine Prog.Triple.bind (fun _ => rfl) (evm_hosts.perform (fun _ _ h => h) fun w hw => ?_)
    fun _ => Prog.Triple.done fun _ h => h
  have hsame : w.store context (Query.run w.db (.insert_event_and_outbox_if_not_exists
      (Evm.transfer_event_draft context asset transfer))).2 = _ := store_same_cursor rfl
  rw [hsame]
  refine ⟨hw.inv.insert _, hw.first, hw.adjacent, fun a l hs => ?_⟩
  rcases hs with hs | ⟨rfl, rfl⟩
  · exact (hw.stored a l hs).insert _
  · exact ⟨transfer, _, hdecode, rfl, EventTables.insert_hasEvent rfl⟩

theorem to_rpc_params_ok {filter sent : Evm.EvmLogFilter} (h : filter.to_rpc_params = .ok sent) :
    filter = sent := by
  unfold Evm.EvmLogFilter.to_rpc_params at h
  split at h
  · exact nomatch h
  split at h
  · exact nomatch h
  split at h
  · exact nomatch h
  exact Except.ok.inj h

/-- A filter stores all logs that match it. -/
theorem scan_erc20_filter_triple (asset : Asset) (filter : Evm.EvmLogFilter) :
    Prog.Triple Prog.Any (EvmStep context history) (going context history selected next S)
      (scan_erc20_filter context asset filter)
      (fun _ => going context history selected next fun a log => S a log ∨
        (a = asset ∧ ∃ l, history l ∧ l.Matches filter ∧ l.log = log))
      fun _ => evm_anywhere context history selected := by
  cases hparams : filter.to_rpc_params with
  | error e =>
    have hfails : scan_erc20_filter context asset filter = .fail e := by
      simp [scan_erc20_filter, eth_get_logs, hparams]
    rw [hfails]
    exact Prog.Triple.fail fun w hw => hw.inv
  | ok sent =>
    obtain rfl := to_rpc_params_ok hparams
    have hcall : scan_erc20_filter context asset filter =
        (call (.eth_get_logs filter)).bind fun logs =>
          Prog.forEach (scan_erc20_log context asset) logs := by
      simp [scan_erc20_filter, eth_get_logs, hparams]
    rw [hcall]
    refine Prog.Triple.bind_perform (fun _ _ => trivial) fun w hw r t ht => ?_
    cases ht with
    | failed => exact hw.inv
    | other hother => exact absurd rfl (hother filter)
    | @logs _ logs hanswer =>
      refine ⟨_, hw, ?_⟩
      have hloop := Prog.Triple.forEach (A := Prog.Any) (H := EvmStep context history)
        (E := fun _ => evm_anywhere context history selected)
        (f := scan_erc20_log context asset)
        (J := fun done => going context history selected next fun a l =>
          S a l ∨ (a = asset ∧ l ∈ done)) (fun _ => rfl) [] logs
        fun pre log post _ => (scan_erc20_log_triple asset log).consequence (fun _ h => h)
          (fun _ t h => Going.weaken h fun a l hs => by
            simpa [or_assoc, and_or_left] using hs)
          fun _ _ h => h
      refine hloop.consequence (fun t h => Going.weaken h fun a l hs => by simpa using hs)
        (fun _ t h => Going.weaken h fun a log hs => ?_) fun _ _ h => h
      rcases hs with hs | ⟨ha, hl⟩
      · exact Or.inl hs
      · exact Or.inr ⟨ha, (hanswer log).mpr hl⟩

/-- An asset stores its transfers in the range, both ways. -/
theorem scan_erc20_asset_triple {topic : String} {range : BlockRange}
    (htopic : Evm.address_to_topic context.address = .ok topic) (asset : Asset) :
    Prog.Triple Prog.Any (EvmStep context history) (going context history selected next S)
      (scan_erc20_asset context topic range asset)
      (fun _ => going context history selected next fun a log => S a log ∨
        (a = asset ∧ ∃ l, history l ∧ Touches context asset range l ∧ l.log = log))
      fun _ => evm_anywhere context history selected := by
  unfold scan_erc20_asset
  cases hcontract : asset.contract_address with
  | none =>
    refine Prog.Triple.done fun t h => Going.weaken h fun a log hs => ?_
    rcases hs with hs | ⟨_, l, _, ⟨contract, _, hcontract', _⟩, _⟩
    · exact hs
    · exact nomatch hcontract.symm.trans hcontract'
  | some contract =>
    have hfilters := Prog.Triple.forEach (A := Prog.Any) (H := EvmStep context history)
      (E := fun _ => evm_anywhere context history selected)
      (f := scan_erc20_filter context asset)
      (J := fun done => going context history selected next fun a log => S a log ∨
        (a = asset ∧ ∃ filter ∈ done, ∃ l, history l ∧ l.Matches filter ∧ l.log = log))
      (fun _ => rfl) [] [incoming contract topic range, outgoing contract topic range]
      fun pre filter post _ => (scan_erc20_filter_triple asset filter).consequence (fun _ h => h)
        (fun _ t h => Going.weaken h fun a log hs => by
          rcases hs with hs | ⟨ha, filter', hfilter, hl⟩
          · exact Or.inl (Or.inl hs)
          · rcases List.mem_append.mp hfilter with hfilter | hfilter
            · exact Or.inl (Or.inr ⟨ha, filter', hfilter, hl⟩)
            · obtain rfl := List.mem_singleton.mp hfilter
              exact Or.inr ⟨ha, hl⟩)
        fun _ _ h => h
    refine hfilters.consequence (fun t h => Going.weaken h fun a l hs => by simpa using hs)
      (fun _ t h => Going.weaken h fun a log hs => ?_) fun _ _ h => h
    rcases hs with hs | ⟨ha, l, hl, ⟨contract', topic', hcontract', htopic', hmatch⟩, hlog⟩
    · exact Or.inl hs
    · obtain rfl := Option.some.inj (hcontract.symm.trans hcontract')
      obtain rfl := Except.ok.inj (htopic.symm.trans htopic')
      rcases hmatch with hin | hout
      · exact Or.inr ⟨ha, _, List.mem_cons_self .., l, hl, hin, hlog⟩
      · exact Or.inr ⟨ha, _, List.mem_cons_of_mem _ (List.mem_singleton_self _), l, hl, hout, hlog⟩

/-- The transfers of the range by one of the assets. -/
def InRange (context : ScanAddressContext) (history : ChainLog → Prop) (assets : List Asset)
    (range : BlockRange) (asset : Asset) (log : Evm.EvmLog) : Prop :=
  asset ∈ assets ∧ ∃ l, history l ∧ Touches context asset range l ∧ l.log = log

/-- The cursor moves to the end of a range whose transfers are stored. -/
theorem Going.write {range : BlockRange}
    (h : Going context history selected range.from_block
      (InRange context history (selected_assets_by_type selected "erc20") range) w)
    (hrange : range.from_block ≤ range.to_block) :
    Going context history selected (range.to_block + 1) (fun _ _ => False)
      (w.store context (w.db.upsert_scan_cursor
        (cursor_at context EVM_ERC20_TRANSFER_CURSOR range.to_block))) := by
  obtain ⟨written, hwritten, hlast⟩ :=
    w.db.scan_cursor_upsert (cursor_at context EVM_ERC20_TRANSFER_CURSOR range.to_block)
  change (w.db.upsert_scan_cursor (cursor_at context EVM_ERC20_TRANSFER_CURSOR
    range.to_block)).scan_cursor context.id EVM_ERC20_TRANSFER_CURSOR = some written at hwritten
  have hcursor : ∀ cursor, (w.store context (w.db.upsert_scan_cursor
      (cursor_at context EVM_ERC20_TRANSFER_CURSOR range.to_block))).db.scan_cursor context.id
        EVM_ERC20_TRANSFER_CURSOR = some cursor → cursor = written :=
    fun cursor hc => (Option.some.inj (hwritten.symm.trans hc)).symm
  -- what lies in the range is stored already
  have hnew : ∀ asset ∈ selected_assets_by_type selected "erc20", ∀ l, history l → ∀ around,
      Touches context asset around l → range.from_block ≤ l.block → l.block ≤ range.to_block →
        LogStored context w.db.events asset l.log := by
    intro asset hasset l hl around htouches hfrom hto
    exact h.stored asset l.log ⟨hasset, l, hl, htouches.narrow hfrom hto, rfl⟩
  cases hold : w.db.scan_cursor context.id EVM_ERC20_TRANSFER_CURSOR with
  | none =>
    obtain ⟨hfrom, hpos⟩ := h.first hold
    have hlast : written.last_scanned_block = range.to_block := by
      simpa only [cursor_at, hold] using hlast
    have hfirst : (w.store context (w.db.upsert_scan_cursor
        (cursor_at context EVM_ERC20_TRANSFER_CURSOR range.to_block))).first_from =
          some range.from_block := by
      simp [EvmWorld.store, hold, hwritten, hfrom]
    refine ⟨⟨h.inv.outboxed, ?_, ?_⟩, ?_, ?_, nofun⟩
    · intro cursor hc
      rw [hcursor cursor hc]
      omega
    · intro cursor hc
      refine ⟨range.from_block, hfirst, fun asset hasset l hl htouches => ?_⟩
      have hblock := htouches.block
      rw [hcursor cursor hc] at hblock
      simp only at hblock
      exact hnew asset hasset l hl _ htouches hblock.1 (by omega)
    · intro hnone
      exact nomatch hwritten.symm.trans hnone
    · intro cursor hc
      rw [hcursor cursor hc]
      omega
  | some old =>
    have hlast : written.last_scanned_block = max old.last_scanned_block range.to_block := by
      simpa only [cursor_at, hold] using hlast
    obtain ⟨first, hfirst, hstored⟩ := h.inv.promise old hold
    have hpos := h.inv.nonneg old hold
    have hadjacent := h.adjacent old hold
    have hkept : (w.store context (w.db.upsert_scan_cursor
        (cursor_at context EVM_ERC20_TRANSFER_CURSOR range.to_block))).first_from = some first := by
      simp [EvmWorld.store, hold, hfirst]
    refine ⟨⟨h.inv.outboxed, ?_, ?_⟩, ?_, ?_, nofun⟩
    · intro cursor hc
      rw [hcursor cursor hc]
      omega
    · intro cursor hc
      refine ⟨first, hkept, fun asset hasset l hl htouches => ?_⟩
      have hblock := htouches.block
      rw [hcursor cursor hc] at hblock
      simp only at hblock
      by_cases hbelow : l.block ≤ old.last_scanned_block
      · exact hstored asset hasset l hl (htouches.narrow hblock.1 hbelow)
      · exact hnew asset hasset l hl _ htouches (by omega) (by omega)
    · intro hnone
      exact nomatch hwritten.symm.trans hnone
    · intro cursor hc
      rw [hcursor cursor hc]
      omega

/-- A range is scanned for every asset, then the cursor moves to its end. -/
theorem scan_erc20_range_triple {topic : String} {range : BlockRange}
    (htopic : Evm.address_to_topic context.address = .ok topic)
    (hrange : range.from_block ≤ range.to_block) :
    Prog.Triple Prog.Any (EvmStep context history)
      (going context history selected range.from_block fun _ _ => False)
      (scan_erc20_range context topic (selected_assets_by_type selected "erc20") range)
      (fun _ => going context history selected (range.to_block + 1) fun _ _ => False)
      fun _ => evm_anywhere context history selected := by
  have hassets := Prog.Triple.forEach (A := Prog.Any) (H := EvmStep context history)
    (E := fun _ => evm_anywhere context history selected)
    (f := scan_erc20_asset context topic range)
    (J := fun done => going context history selected range.from_block
      (InRange context history done range)) (fun _ => rfl) []
    (selected_assets_by_type selected "erc20")
    fun pre asset post _ => (scan_erc20_asset_triple htopic asset).consequence (fun _ h => h)
      (fun _ t h => Going.weaken h fun a log ⟨ha, hlog⟩ => by
        rcases List.mem_append.mp ha with ha | ha
        · exact Or.inl ⟨ha, hlog⟩
        · obtain rfl := List.mem_singleton.mp ha
          exact Or.inr ⟨rfl, hlog⟩)
      fun _ _ h => h
  refine Prog.Triple.bind (fun _ => rfl) (hassets.consequence
    (fun _ h => Going.weaken h fun a log hs => nomatch hs.1) (fun _ _ h => h) fun _ _ h => h)
    fun events => ?_
  exact Prog.Triple.bind (fun _ => rfl)
    (evm_hosts.perform (fun _ _ h => h) fun w hw => Going.write hw hrange)
    fun _ => Prog.Triple.done fun _ h => h

/-- A scan was launched and has not read the cursor yet. -/
def launched (context : ScanAddressContext) (history : ChainLog → Prop) (selected : List Asset)
    (latest_block default_confirmations : Int) :
    Prog.Assn Eq (EvmInv context history selected) where
  holds := fun w => EvmInv context history selected w ∧
    w.from_block = start_block (w.db.scan_cursor context.id EVM_ERC20_TRANSFER_CURSOR)
      latest_block default_confirmations
  stable := fun h he => he ▸ h
  good := fun h => h.1

theorem Going.start {cursor : Option ScanCursor}
    {latest_block default_confirmations from_block to_block : Int}
    (hinv : EvmInv context history selected w)
    (hcursor : w.db.scan_cursor context.id EVM_ERC20_TRANSFER_CURSOR = cursor)
    (hfrom : w.from_block = start_block cursor latest_block default_confirmations)
    (hrange : evm_transfer_scan_range cursor latest_block default_confirmations =
      .ok (some (from_block, to_block))) :
    Going context history selected from_block (fun _ _ => False) w := by
  obtain ⟨_, hfirst, hnext⟩ := evm_transfer_scan_range_ok hrange
  refine ⟨hinv, fun hnone => ⟨?_, hfirst (hcursor.symm.trans hnone)⟩, fun c hc => ?_, nofun⟩
  · rw [hfrom, start_block, hrange]
  · have hpos := hinv.nonneg c hc
    rw [hnext c (hcursor.symm.trans hc)]
    exact wrap_i64_le (by omega)

/-- A whole scan. -/
theorem scan_evm_erc20_transfers_triple (latest_block default_confirmations : Int) :
    Prog.Triple Prog.Any (EvmStep context history)
      (launched context history selected latest_block default_confirmations)
      (scan_evm_erc20_transfers context latest_block default_confirmations selected)
      (fun _ => evm_anywhere context history selected)
      fun _ => evm_anywhere context history selected := by
  simp only [scan_evm_erc20_transfers, Prog.bind_eq, Prog.pure_eq]
  refine evm_hosts.bind_read (fun _ => rfl) (fun _ _ h => h) fun w cursor hw hcursor => ?_
  replace hcursor : w.db.scan_cursor context.id EVM_ERC20_TRANSFER_CURSOR = cursor :=
    Except.ok.inj hcursor
  cases hrange : evm_transfer_scan_range cursor latest_block default_confirmations with
  | error e => exact ⟨_, hw, Prog.Triple.fail fun _ h => h.1⟩
  | ok range =>
    cases range with
    | none => exact ⟨_, hw, Prog.Triple.done fun _ h => h.1⟩
    | some range =>
      obtain ⟨from_block, to_block⟩ := range
      have hstart := Going.start hw.1 hcursor (hcursor ▸ hw.2) hrange
      refine ⟨going context history selected from_block fun _ _ => False, hstart, ?_⟩
      simp only [Prog.lift_ok, Prog.done_bind]
      split
      · exact Prog.Triple.done fun _ h => h.inv
      refine Prog.Triple.bind_lift (fun topic htopic => ?_) fun _ _ _ h => h.inv
      refine Prog.Triple.bind_lift (fun ranges hranges => ?_) fun _ _ _ h => h.inv
      have hcontiguous : ∀ pre range post, ranges = pre ++ range :: post →
          range.from_block = next_block from_block pre ∧ range.from_block ≤ range.to_block := by
        intro pre range post hsplit
        rw [hsplit] at hranges
        simp only [bounded_block_ranges] at hranges
        split at hranges
        · exact nomatch hranges
        split at hranges
        · cases pre <;> exact nomatch hranges
        exact block_ranges_contiguous (by decide) (evm_transfer_scan_range_ok hrange).1 _ _
          (Except.ok.inj hranges)
      refine (Prog.Triple.forEach (J := fun done => going context history selected
        (next_block from_block done) fun _ _ => False) (fun _ => rfl) [] ranges
        fun pre range post hsplit => ?_).consequence (fun _ h => h) (fun _ _ h => h.inv)
        fun _ _ h => h
      obtain ⟨hfrom, hle⟩ := hcontiguous pre range post hsplit
      have hone := @scan_erc20_range_triple context history selected topic range htopic hle
      simp only [List.nil_append, next_block, List.foldl_append, List.foldl_cons, List.foldl_nil]
      rw [hfrom] at hone
      exact hone

theorem EvmStep.advances {s : Statement} {r : AppResult s.Answer}
    (h : EvmStep context history w s r t) : CursorAdvances context w t := by
  cases s with
  | db q =>
    rcases evm_hosts.query_cases h with ⟨rfl, _⟩ | ⟨rfl, _⟩
    · exact fun c hc => q.run_scan_cursor hc
    · exact fun c hc => ⟨c, hc, le_refl _⟩
  | remote c => cases h <;> exact fun c hc => ⟨c, hc, le_refl _⟩

theorem evm_run_advances {p q : Scan (List AddressEvent)}
    (h : EvmRun context history selected (w, p) (t, q)) : CursorAdvances context w t := by
  have hrun : ∀ c d, EvmRun context history selected c d → CursorAdvances context c.1 d.1 := by
    intro c d h
    induction h with
    | refl => exact fun c hc => ⟨c, hc, le_refl _⟩
    | tail _ hstep ih =>
      intro cursor hcursor
      obtain ⟨mid, hmid, hle⟩ := ih cursor hcursor
      cases hstep with
      | launch hl =>
        cases hl with
        | scan => exact ⟨mid, hmid, hle⟩
      | statement hs =>
        obtain ⟨last, hlast, hle'⟩ := hs.advances mid hmid
        exact ⟨last, hlast, le_trans hle hle'⟩
      | others he => exact he.elim
  exact hrun _ _ h

end Steps

def watched_evm : ScanAddressContext :=
  { id := 1, tenant_id := 2, chain_id := 3, address := "0xaaaaaaaaaaaaaaaaaaaaaaaaaaaaaaaaaaaaaaaa" }

def usdc : Asset :=
  { id := 4, chain_id := 3, asset_type := "erc20", symbol := "USDC", name := "USD Coin",
    contract_address := some "0xcccccccccccccccccccccccccccccccccccccccc", decimals := 6,
    status := "active" }

/-- A transfer of the address to itself, which both filters return. -/
def self_transfer : ChainLog where
  log :=
    { address := "0xcccccccccccccccccccccccccccccccccccccccc"
      topics := [Evm.TRANSFER_TOPIC0,
        "0x000000000000000000000000aaaaaaaaaaaaaaaaaaaaaaaaaaaaaaaaaaaaaaaa",
        "0x000000000000000000000000aaaaaaaaaaaaaaaaaaaaaaaaaaaaaaaaaaaaaaaa"]
      data := "0x00000000000000000000000000000000000000000000000000000000000f4240"
      transaction_hash := some
        "0x1111111111111111111111111111111111111111111111111111111111111111"
      log_index := some "0x0"
      block_number := some "0x5"
      block_hash := none }
  block := 5

def answering_step (logs : List ChainLog) (w : EvmWorld) :
    (s : Statement) → AppResult s.Answer × EvmWorld
  | .db q => ((q.run w.db).1, w.store watched_evm (q.run w.db).2)
  | .remote (.eth_get_logs filter) => (.ok ((logs.filter (·.Matches filter)).map (·.log)), w)
  | .remote _ => (.error (.Config "no answer"), w)

theorem answering_step_runs (logs : List ChainLog) (w : EvmWorld) (s : Statement) :
    EvmStep watched_evm (· ∈ logs) w s (answering_step logs w s).1 (answering_step logs w s).2 := by
  cases s with
  | db q => exact .db .answered
  | remote c =>
    cases c with
    | eth_get_logs filter =>
      refine .logs fun log => ?_
      simp only [List.mem_map, List.mem_filter, decide_eq_true_eq, and_assoc]
    | _ => exact .failed

/-- The world after a scan with the latest block. -/
def after_scan (logs : List ChainLog) (latest_block : Int) (w : EvmWorld) : EvmWorld :=
  ((scan_evm_erc20_transfers watched_evm latest_block 2 [usdc]).eval (answering_step logs)
    { w with
      from_block := start_block (w.db.scan_cursor watched_evm.id EVM_ERC20_TRANSFER_CURSOR)
        latest_block 2 }).2

theorem after_scan_runs (logs : List ChainLog) (latest_block : Int) (w : EvmWorld)
    (p : Scan (List AddressEvent)) :
    ∃ q, EvmRun watched_evm (· ∈ logs) [usdc] (w, p) (after_scan logs latest_block w, q) := by
  have hrun : ∃ q, EvmRun watched_evm (· ∈ logs) [usdc]
      ({ w with
        from_block := start_block (w.db.scan_cursor watched_evm.id EVM_ERC20_TRANSFER_CURSOR)
          latest_block 2 }, scan_evm_erc20_transfers watched_evm latest_block 2 [usdc])
      (after_scan logs latest_block w, q) :=
    Prog.Turn.of_eval (fun w s => ⟨w, Or.inl rfl, answering_step_runs logs w s⟩) _ _
  obtain ⟨q, hrun⟩ := hrun
  exact ⟨q, .head (.launch (.scan latest_block 2)) hrun⟩

def evm_start : EvmWorld where
  db := { chains := [], assets := [usdc], watched_address_assets := [(1, 4)], scan_cursors := [],
          balance_snapshots := [], clock := 0, events := .empty }
  from_block := none
  first_from := none

end CoinListener.Worker
