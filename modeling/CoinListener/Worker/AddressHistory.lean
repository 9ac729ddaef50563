import CoinListener.Worker.ScanAddress
import CoinListener.Storage.AddressWrites

/-! Whose history a scan goes on with: cursors and earlier balances are found by the row alone. -/
namespace CoinListener.Worker
open Foundation Storage

/-- What a scan is told by the cursors or by the earlier balance it reads: who wrote them. -/
structure HistoryRead where
  reader : Origin
  writers : List Origin
deriving DecidableEq

/-- Only scans of the same address on the same chain have written it. -/
def HistoryRead.Own (read : HistoryRead) : Prop :=
  read.writers ≠ [] ∧ ∀ writer ∈ read.writers, writer = read.reader

instance (read : HistoryRead) : Decidable read.Own :=
  inferInstanceAs (Decidable (_ ∧ _))

/-- The tables, and what each worker is scanning. `cursor_writers` and `snapshot_writers` tell whose
scans have written a cursor or a snapshot, `reads` what scans have read of them. -/
structure HistoryState (W : Type) where
  tables : AddressTables
  db : Db
  busy : W → Bool
  scanning : W → ScanAddressContext
  cursor_writers : List ((Uuid × String) × Origin)
  snapshot_writers : List (Uuid × Origin)
  reads : List HistoryRead

def context_origin (context : ScanAddressContext) : Origin :=
  ⟨context.address, context.chain_id⟩

def scan_context (row : WatchedAddress) : ScanAddressContext :=
  { id := row.id, tenant_id := row.tenant_id, chain_id := row.chain_id, address := row.address }

/-- The cursors a statement writes. -/
def written_cursors : Query → List (Uuid × String)
  | .upsert_scan_cursor cursor => [(cursor.address_id, cursor.cursor_type)]
  | _ => []

/-- The snapshots a statement writes. -/
def written_snapshots (db : Db) : Query → List Uuid
  | .insert_balance_snapshot _ => [db.clock]
  | _ => []

namespace HistoryState
variable {W : Type} (s : HistoryState W) (w : W)

def cursor_origins (address_id : Uuid) (cursor_type : String) : List Origin :=
  (s.cursor_writers.filter (·.1 == (address_id, cursor_type))).map (·.2)

def snapshot_origins (snapshot_id : Uuid) : List Origin :=
  (s.snapshot_writers.filter (·.1 == snapshot_id)).map (·.2)

/-- Who wrote what the statement finds. -/
def found : Query → Option (List Origin)
  | .scan_cursor address_id cursor_type =>
    (s.db.scan_cursor address_id cursor_type).map fun _ => s.cursor_origins address_id cursor_type
  | .latest_balance_snapshot address_id asset_id except_id =>
    (s.db.latest_balance_snapshot address_id asset_id except_id).map fun snapshot =>
      s.snapshot_origins snapshot.id
  | _ => none

/-- A statement of a scan carried out. -/
def query (q : Query) : AppResult q.Answer × HistoryState W :=
  ((q.run s.db).1, { s with
    db := (q.run s.db).2
    cursor_writers := s.cursor_writers ++
      (written_cursors q).map (·, context_origin (s.scanning w))
    snapshot_writers := s.snapshot_writers ++
      (written_snapshots s.db q).map (·, context_origin (s.scanning w))
    reads := s.reads ++ (s.found q).toList.map (⟨context_origin (s.scanning w), ·⟩) })

/-- The rows and the selection of assets after a call. -/
def write (op : AddressWrite) : HistoryState W :=
  { s with
    tables := s.tables.write op
    db := { s.db with watched_address_assets := (s.tables.write op).watched_address_assets } }

/-- No scan of the row is running, and all that a scan would find for it was written for the same
address and chain. -/
structure Unread (row : WatchedAddress) : Prop where
  idle : ∀ w, s.busy w = true → (s.scanning w).id ≠ row.id
  cursors : ∀ cursor_type ∈ cursor_types (s.tables.chain_type row.chain_id),
    ∀ writer ∈ s.cursor_origins row.id cursor_type, writer = origin row
  snapshots : scan_plan_for_chain (s.tables.chain_type row.chain_id) = .EvmNativeBalance →
    ∀ asset, s.db.native_asset_for_chain row.chain_id = .ok asset →
      ∀ snapshot ∈ s.db.balance_snapshots, snapshot.address_id = row.id →
        snapshot.asset_id = asset.id →
          ∀ writer ∈ s.snapshot_origins snapshot.id, writer = origin row

/-- Where the call changes the address or the chain of a row, it is unread. -/
def MovesUnread (op : AddressWrite) : Prop :=
  ∀ old ∈ s.tables.watched_addresses, ∀ row ∈ (s.tables.write op).watched_addresses,
    row.id = old.id → origin row ≠ origin old → s.Unread row

end HistoryState

/-- What may become of a statement. Requests may be answered in any way. -/
inductive HistoryCarried {W : Type} (w : W) (s : HistoryState W) :
    (op : Statement) → AppResult op.Answer → HistoryState W → Prop where
  | db {q r t} (h : Fate AppError.Database s (s.query w q) r t) : HistoryCarried w s (.db q) r t
  | remote {c} (r : AppResult c.Answer) : HistoryCarried w s (.remote c) r s

/-- Watched addresses are created, updated, imported and assigned, under a condition. -/
inductive HistoryOthers {W : Type} (C : HistoryState W → AddressWrite → Prop) :
    HistoryState W → HistoryState W → Prop where
  | write {s} (op : AddressWrite) (hC : C s op) : HistoryOthers C s (s.write op)

/-- A worker starts to scan an active row, or its scan is over. -/
inductive HistoryLaunch {W : Type} [DecidableEq W] (w : W) (s : HistoryState W) :
    Scan (List AddressEvent) → HistoryState W → Prop where
  | scan (row : WatchedAddress) (candidates : List Provider)
      (hrow : row ∈ s.tables.watched_addresses) (hactive : row.status = "active") :
      HistoryLaunch w s
        (scan_address (s.tables.chain_type row.chain_id) (scan_context row) candidates)
        { s with
          busy := Function.update s.busy w true
          scanning := Function.update s.scanning w (scan_context row) }
  | ended : HistoryLaunch w s (.done []) { s with busy := Function.update s.busy w false }

abbrev HistoryStep {W : Type} [DecidableEq W] (C : HistoryState W → AddressWrite → Prop) :
    HistoryState W × (W → Scan (List AddressEvent)) →
      HistoryState W × (W → Scan (List AddressEvent)) → Prop :=
  Prog.Crew HistoryCarried (HistoryOthers C) HistoryLaunch

/-- No address watched and no scan made yet. -/
def history_start {W : Type} (chains : List Chain) (assets : List Asset) :
    HistoryState W × (W → Scan (List AddressEvent)) :=
  ({ tables := unwatched chains assets
     db := { chains := chains, assets := assets, watched_address_assets := [], scan_cursors := [],
             balance_snapshots := [], clock := 0, events := .empty }
     busy := fun _ => false
     scanning := fun _ => { id := 0, tenant_id := 0, chain_id := 0, address := "" }
     cursor_writers := [], snapshot_writers := [], reads := [] }, fun _ => .done [])

/-! ### The invariant -/

/-- Every row stands for what has been written for it, and every running scan for a row. -/
structure OriginInvariant {W : Type} (s : HistoryState W) : Prop where
  ids : RowIds s.tables
  current : ∀ w, s.busy w = true → ∃ row ∈ s.tables.watched_addresses,
    row.id = (s.scanning w).id ∧ origin row = context_origin (s.scanning w)
  cursor_lt : ∀ address_id cursor_type writer, writer ∈ s.cursor_origins address_id cursor_type →
    address_id < s.tables.next_id
  snapshot_lt : ∀ snapshot ∈ s.db.balance_snapshots,
    snapshot.id < s.db.clock ∧ snapshot.address_id < s.tables.next_id
  writer_lt : ∀ id writer, writer ∈ s.snapshot_origins id → id < s.db.clock
  cursor_written : ∀ address_id cursor_type cursor,
    s.db.scan_cursor address_id cursor_type = some cursor →
      s.cursor_origins address_id cursor_type ≠ []
  snapshot_written : ∀ snapshot ∈ s.db.balance_snapshots, s.snapshot_origins snapshot.id ≠ []
  cursors : ∀ row ∈ s.tables.watched_addresses,
    ∀ cursor_type ∈ cursor_types (s.tables.chain_type row.chain_id),
      ∀ writer ∈ s.cursor_origins row.id cursor_type, writer = origin row
  snapshots : ∀ row ∈ s.tables.watched_addresses,
    scan_plan_for_chain (s.tables.chain_type row.chain_id) = .EvmNativeBalance →
      ∀ asset, s.db.native_asset_for_chain row.chain_id = .ok asset →
        ∀ snapshot ∈ s.db.balance_snapshots, snapshot.address_id = row.id →
          snapshot.asset_id = asset.id →
            ∀ writer ∈ s.snapshot_origins snapshot.id, writer = origin row
  reads : ∀ read ∈ s.reads, read.Own

/-- A scan keeps to its row, and reads only what its chain type has cursors and assets for. -/
def origin_permitted {W : Type} (w : W) (s : HistoryState W) : Statement → Prop
  | .db (.scan_cursor address_id cursor_type) => s.busy w = true ∧
    address_id = (s.scanning w).id ∧
      cursor_type ∈ cursor_types (s.tables.chain_type (s.scanning w).chain_id)
  | .db (.upsert_scan_cursor cursor) => s.busy w = true ∧ cursor.address_id = (s.scanning w).id
  | .db (.insert_balance_snapshot request) =>
    s.busy w = true ∧ request.address_id = (s.scanning w).id
  | .db (.latest_balance_snapshot address_id asset_id _) => s.busy w = true ∧
    address_id = (s.scanning w).id ∧
      scan_plan_for_chain (s.tables.chain_type (s.scanning w).chain_id) = .EvmNativeBalance ∧
        ∃ asset, s.db.native_asset_for_chain (s.scanning w).chain_id = .ok asset ∧
          asset_id = asset.id
  | _ => True

section Invariant
variable {W : Type} {s t : HistoryState W} {w : W} {q : Query} {writer : Origin}
  {address_id : Uuid} {cursor_type : String}

theorem mem_cursor_origins_query :
    writer ∈ (s.query w q).2.cursor_origins address_id cursor_type ↔
      writer ∈ s.cursor_origins address_id cursor_type ∨
        (address_id, cursor_type) ∈ written_cursors q ∧
          writer = context_origin (s.scanning w) := by
  simp only [HistoryState.cursor_origins, HistoryState.query, List.filter_append, List.map_append,
    List.mem_append]
  refine or_congr_right ?_
  simp only [List.mem_map, List.mem_filter, beq_iff_eq]
  constructor
  · rintro ⟨entry, ⟨⟨key, hkey, rfl⟩, rfl⟩, rfl⟩
    exact ⟨hkey, rfl⟩
  · rintro ⟨hkey, rfl⟩
    exact ⟨_, ⟨⟨_, hkey, rfl⟩, rfl⟩, rfl⟩

theorem mem_snapshot_origins_query {id : Uuid} :
    writer ∈ (s.query w q).2.snapshot_origins id ↔ writer ∈ s.snapshot_origins id ∨
      id ∈ written_snapshots s.db q ∧ writer = context_origin (s.scanning w) := by
  simp only [HistoryState.snapshot_origins, HistoryState.query, List.filter_append,
    List.map_append, List.mem_append]
  refine or_congr_right ?_
  simp only [List.mem_map, List.mem_filter, beq_iff_eq]
  constructor
  · rintro ⟨entry, ⟨⟨key, hkey, rfl⟩, rfl⟩, rfl⟩
    exact ⟨hkey, rfl⟩
  · rintro ⟨hkey, rfl⟩
    exact ⟨_, ⟨⟨_, hkey, rfl⟩, rfl⟩, rfl⟩

theorem run_assets (q : Query) (db : Db) : (q.run db).2.assets = db.assets := by
  cases q <;> rfl

theorem run_native_asset (q : Query) (db : Db) (chain_id : Uuid) :
    (q.run db).2.native_asset_for_chain chain_id = db.native_asset_for_chain chain_id := by
  unfold Db.native_asset_for_chain
  rw [run_assets]

/-- The snapshots after a statement: at most one is new. -/
theorem run_snapshots (q : Query) (db : Db) {snapshot : BalanceSnapshot}
    (h : snapshot ∈ (q.run db).2.balance_snapshots) : snapshot ∈ db.balance_snapshots ∨
      ∃ request, q = .insert_balance_snapshot request ∧ snapshot.id = db.clock ∧
        snapshot.address_id = request.address_id := by
  cases q with
  | insert_balance_snapshot request =>
    rcases List.mem_append.mp h with hold | hnew
    · exact .inl hold
    · rw [List.mem_singleton.mp hnew]
      exact .inr ⟨request, rfl, rfl, rfl⟩
  | _ => exact .inl h

theorem run_clock (q : Query) (db : Db) : db.clock ≤ (q.run db).2.clock := by
  cases q with
  | insert_balance_snapshot request => exact Nat.le_succ _
  | _ => exact Nat.le_refl _

/-- A cursor is new only where the statement has written it. -/
theorem run_cursor (q : Query) (db : Db) {cursor : ScanCursor}
    (h : (q.run db).2.scan_cursor address_id cursor_type = some cursor) :
    (∃ old, db.scan_cursor address_id cursor_type = some old) ∨
      (address_id, cursor_type) ∈ written_cursors q := by
  cases q with
  | upsert_scan_cursor written =>
    by_cases hkey : written.address_id = address_id ∧ written.cursor_type = cursor_type
    · obtain ⟨rfl, rfl⟩ := hkey
      exact .inr (List.mem_singleton_self _)
    · have hother : written.address_id ≠ address_id ∨ written.cursor_type ≠ cursor_type := by
        rwa [not_and_or] at hkey
      exact .inl ⟨cursor, (db.scan_cursor_upsert_other hother).symm.trans h⟩
  | _ => exact .inl ⟨cursor, h⟩

/-- The row a running scan is about. -/
theorem OriginInvariant.row_of (h : OriginInvariant s) (hbusy : s.busy w = true)
    {row : WatchedAddress} (hrow : row ∈ s.tables.watched_addresses)
    (hid : row.id = (s.scanning w).id) : origin row = context_origin (s.scanning w) := by
  obtain ⟨found, hfound, hsame, horigin⟩ := h.current w hbusy
  rwa [List.inj_on_of_nodup_map h.ids.unique_id hrow hfound (hid.trans hsame.symm)]

theorem OriginInvariant.scan_lt (h : OriginInvariant s) (hbusy : s.busy w = true) :
    (s.scanning w).id < s.tables.next_id := by
  obtain ⟨row, hrow, hid, _⟩ := h.current w hbusy
  exact hid ▸ h.ids.id_lt row hrow

/-- What a scan writes a cursor for is its own row. -/
theorem writes_cursor (hA : origin_permitted w s (.db q))
    (hkey : (address_id, cursor_type) ∈ written_cursors q) :
    s.busy w = true ∧ address_id = (s.scanning w).id := by
  cases q with
  | upsert_scan_cursor cursor =>
    obtain ⟨rfl, rfl⟩ := Prod.mk.inj (List.mem_singleton.mp hkey)
    exact hA
  | _ => exact nomatch hkey

/-- What a permitted read finds has been written for the row of the scan. -/
theorem OriginInvariant.found_own (h : OriginInvariant s) (hA : origin_permitted w s (.db q))
    {writers : List Origin} (hfound : s.found q = some writers) :
    HistoryRead.Own ⟨context_origin (s.scanning w), writers⟩ := by
  cases q with
  | scan_cursor address_id cursor_type =>
    obtain ⟨cursor, hcursor, rfl⟩ := Option.map_eq_some_iff.mp hfound
    obtain ⟨hbusy, rfl, htype⟩ := hA
    obtain ⟨row, hrow, hid, horigin⟩ := h.current w hbusy
    have hchain : row.chain_id = (s.scanning w).chain_id := congrArg Origin.chain_id horigin
    refine ⟨h.cursor_written _ _ cursor hcursor, fun writer hwriter => ?_⟩
    rw [← horigin]
    exact h.cursors row hrow cursor_type (hchain ▸ htype) writer (hid ▸ hwriter)
  | latest_balance_snapshot address_id asset_id except_id =>
    obtain ⟨snapshot, hsnapshot, rfl⟩ := Option.map_eq_some_iff.mp hfound
    obtain ⟨hbusy, rfl, hplan, asset, hasset, rfl⟩ := hA
    obtain ⟨row, hrow, hid, horigin⟩ := h.current w hbusy
    have hchain : row.chain_id = (s.scanning w).chain_id := congrArg Origin.chain_id horigin
    obtain ⟨hmem, haddress, hsame⟩ := Db.latest_balance_snapshot_some hsnapshot
    refine ⟨h.snapshot_written snapshot hmem, fun writer hwriter => ?_⟩
    rw [← horigin]
    exact h.snapshots row hrow (hchain ▸ hplan) asset (hchain ▸ hasset) snapshot hmem
      (haddress.trans hid.symm) hsame writer hwriter
  | _ => exact nomatch hfound

theorem writes_snapshot {id : Uuid} (hid : id ∈ written_snapshots s.db q) :
    (∃ request, q = .insert_balance_snapshot request) ∧ id = s.db.clock := by
  cases q with
  | insert_balance_snapshot request => exact ⟨⟨request, rfl⟩, List.mem_singleton.mp hid⟩
  | _ => exact nomatch hid

theorem OriginInvariant.query (h : OriginInvariant s) (hA : origin_permitted w s (.db q)) :
    OriginInvariant (s.query w q).2 := by
  constructor
  · exact h.ids
  · exact h.current
  · intro address_id cursor_type writer hwriter
    rcases mem_cursor_origins_query.mp hwriter with hold | ⟨hkey, _⟩
    · exact h.cursor_lt _ _ _ hold
    · obtain ⟨hbusy, rfl⟩ := writes_cursor hA hkey
      exact h.scan_lt hbusy
  · intro snapshot hsnapshot
    rcases run_snapshots q s.db hsnapshot with hold | ⟨request, rfl, hid, haddress⟩
    · obtain ⟨hlt, haddress⟩ := h.snapshot_lt snapshot hold
      exact ⟨Nat.lt_of_lt_of_le hlt (run_clock q s.db), haddress⟩
    · obtain ⟨hbusy, hown⟩ := hA
      refine ⟨hid ▸ Nat.lt_succ_self _, ?_⟩
      rw [haddress, hown]
      exact h.scan_lt hbusy
  · intro id writer hwriter
    rcases mem_snapshot_origins_query.mp hwriter with hold | ⟨hid, _⟩
    · exact Nat.lt_of_lt_of_le (h.writer_lt id writer hold) (run_clock q s.db)
    · obtain ⟨⟨request, rfl⟩, rfl⟩ := writes_snapshot hid
      exact Nat.lt_succ_self _
  · intro address_id cursor_type cursor hcursor
    rcases run_cursor q s.db hcursor with ⟨old, hold⟩ | hkey
    · obtain ⟨writer, hwriter⟩ := List.exists_mem_of_ne_nil _ (h.cursor_written _ _ old hold)
      exact List.ne_nil_of_mem (mem_cursor_origins_query.mpr (.inl hwriter))
    · exact List.ne_nil_of_mem (mem_cursor_origins_query.mpr (.inr ⟨hkey, rfl⟩))
  · intro snapshot hsnapshot
    rcases run_snapshots q s.db hsnapshot with hold | ⟨request, rfl, hid, _⟩
    · obtain ⟨writer, hwriter⟩ := List.exists_mem_of_ne_nil _ (h.snapshot_written snapshot hold)
      exact List.ne_nil_of_mem (mem_snapshot_origins_query.mpr (.inl hwriter))
    · exact List.ne_nil_of_mem
        (mem_snapshot_origins_query.mpr (.inr ⟨List.mem_singleton.mpr hid, rfl⟩))
  · intro row hrow cursor_type htype writer hwriter
    rcases mem_cursor_origins_query.mp hwriter with hold | ⟨hkey, rfl⟩
    · exact h.cursors row hrow cursor_type htype writer hold
    · obtain ⟨hbusy, hid⟩ := writes_cursor hA hkey
      exact (h.row_of hbusy hrow hid).symm
  · intro row hrow hplan asset hasset snapshot hsnapshot haddress hsame writer hwriter
    have hnative : s.db.native_asset_for_chain row.chain_id = .ok asset :=
      (run_native_asset q s.db row.chain_id).symm.trans hasset
    rcases run_snapshots q s.db hsnapshot with hold | ⟨request, rfl, hid, hrequest⟩
    · rcases mem_snapshot_origins_query.mp hwriter with hwriter | ⟨hid, _⟩
      · exact h.snapshots row hrow hplan asset hnative snapshot hold haddress hsame writer hwriter
      · exact absurd (writes_snapshot hid).2 (Nat.ne_of_lt (h.snapshot_lt snapshot hold).1)
    · rcases mem_snapshot_origins_query.mp hwriter with hwriter | ⟨_, rfl⟩
      · exact absurd hid (Nat.ne_of_lt (h.writer_lt _ _ hwriter))
      · obtain ⟨hbusy, hown⟩ := hA
        exact (h.row_of hbusy hrow (haddress.symm.trans (hrequest.trans hown))).symm
  · intro read hread
    rcases List.mem_append.mp hread with hold | hnew
    · exact h.reads read hold
    · obtain ⟨writers, hfound, rfl⟩ := List.mem_map.mp hnew
      exact h.found_own hA (Option.mem_toList.mp hfound)

theorem OriginInvariant.write (h : OriginInvariant s) {op : AddressWrite}
    (hmoves : s.MovesUnread op) : OriginInvariant (s.write op) := by
  have hrows := write_rows s.tables op
  have htype : ∀ chain_id, (s.tables.write op).chain_type chain_id = s.tables.chain_type chain_id := by
    intro chain_id
    unfold AddressTables.chain_type
    rw [hrows.chains]
  constructor
  · exact hrows.ids h.ids
  · intro w hbusy
    obtain ⟨old, hold, hid, horigin⟩ := h.current w hbusy
    obtain ⟨row, hrow, hsame⟩ := hrows.after old hold
    refine ⟨row, hrow, hsame.trans hid, ?_⟩
    by_contra hmoved
    have hunread := hmoves old hold row hrow hsame fun heq => hmoved (heq.trans horigin)
    exact hunread.idle w hbusy (hid.symm.trans hsame.symm)
  · exact fun _ _ _ hwriter => Nat.lt_of_lt_of_le (h.cursor_lt _ _ _ hwriter) hrows.next_le
  · intro snapshot hsnapshot
    obtain ⟨hlt, haddress⟩ := h.snapshot_lt snapshot hsnapshot
    exact ⟨hlt, Nat.lt_of_lt_of_le haddress hrows.next_le⟩
  · exact h.writer_lt
  · exact h.cursor_written
  · exact h.snapshot_written
  · intro row hrow cursor_type hcursor writer hwriter
    have hcursor' : cursor_type ∈ cursor_types (s.tables.chain_type row.chain_id) :=
      htype row.chain_id ▸ hcursor
    rcases hrows.before row hrow with hnew | ⟨old, hold, hid⟩
    · exact absurd (h.cursor_lt _ _ _ hwriter) (Nat.not_lt.mpr hnew)
    · by_cases hmoved : origin row = origin old
      · have hchain : row.chain_id = old.chain_id := congrArg Origin.chain_id hmoved
        rw [hmoved]
        exact h.cursors old hold cursor_type (hchain ▸ hcursor') writer (hid ▸ hwriter)
      · exact (hmoves old hold row hrow hid hmoved).cursors cursor_type hcursor' writer hwriter
  · intro row hrow hplan asset hasset snapshot hsnapshot haddress hsame writer hwriter
    have hplan' : scan_plan_for_chain (s.tables.chain_type row.chain_id) = .EvmNativeBalance :=
      htype row.chain_id ▸ hplan
    rcases hrows.before row hrow with hnew | ⟨old, hold, hid⟩
    · have hlt := (h.snapshot_lt snapshot hsnapshot).2
      rw [haddress] at hlt
      exact absurd hlt (Nat.not_lt.mpr hnew)
    · by_cases hmoved : origin row = origin old
      · have hchain : row.chain_id = old.chain_id := congrArg Origin.chain_id hmoved
        rw [hmoved]
        exact h.snapshots old hold (hchain ▸ hplan') asset (hchain ▸ hasset) snapshot hsnapshot
          (haddress.trans hid) hsame writer hwriter
      · exact (hmoves old hold row hrow hid hmoved).snapshots hplan' asset hasset snapshot
          hsnapshot haddress hsame writer hwriter
  · exact h.reads

end Invariant

/-! ### The scan -/

/-- What a worker knows of its scan. -/
inductive ScanPhase where
  | idle
  | scanning (context : ScanAddressContext) (chain_type : String)
  | native (context : ScanAddressContext) (chain_type : String) (asset : Asset)

section Scan
open Prog
variable {W : Type} {s t : HistoryState W} {w : W} {context : ScanAddressContext}
  {chain_type : String} {asset : Asset}

def scan_known (w : W) : ScanPhase → HistoryState W → Prop
  | .idle, _ => True
  | .scanning context chain_type, s => s.busy w = true ∧ s.scanning w = context ∧
    s.tables.chain_type context.chain_id = chain_type
  | .native context chain_type asset, s => (s.busy w = true ∧ s.scanning w = context ∧
    s.tables.chain_type context.chain_id = chain_type) ∧
      s.db.native_asset_for_chain context.chain_id = .ok asset

/-- What others leave alone. -/
structure SameScan (w : W) (s t : HistoryState W) : Prop where
  busy : t.busy w = s.busy w
  scanning : t.scanning w = s.scanning w
  chains : t.tables.chains = s.tables.chains
  assets : t.db.assets = s.db.assets

theorem SameScan.keeps (h : SameScan w s t) : Keeps (scan_known w) s t := by
  have htype : ∀ chain_id, t.tables.chain_type chain_id = s.tables.chain_type chain_id := by
    intro chain_id
    unfold AddressTables.chain_type
    rw [h.chains]
  have hscan : ∀ {context chain_type}, scan_known w (.scanning context chain_type) s →
      scan_known w (.scanning context chain_type) t := by
    rintro context chain_type ⟨hbusy, hscanning, hchain⟩
    exact ⟨h.busy.trans hbusy, h.scanning.trans hscanning, (htype _).trans hchain⟩
  intro phase hs
  cases phase with
  | idle => trivial
  | scanning => exact hscan hs
  | native context chain_type asset =>
    have hnative := hs.2
    unfold Db.native_asset_for_chain at hnative
    rw [← h.assets] at hnative
    exact ⟨hscan hs.1, hnative⟩

/-- A statement of a scan changes neither what is scanned nor chains nor assets. -/
theorem same_scan {op : Statement} {r : AppResult op.Answer} (v : W)
    (h : HistoryCarried w s op r t) : SameScan v s t := by
  cases h with
  | remote r => exact ⟨rfl, rfl, rfl, rfl⟩
  | @db q _ _ h =>
    rcases h.state with rfl | rfl
    · exact ⟨rfl, rfl, rfl, rfl⟩
    · exact ⟨rfl, rfl, rfl, run_assets q s.db⟩

/-- A part of a scan, from one phase to another. -/
abbrev ScanTriple (w : W) {α : Type} (i : ScanPhase) (p : Scan α) (j : α → ScanPhase)
    (k : ScanPhase) : Prop :=
  Triple (origin_permitted w) (Within OriginInvariant (HistoryCarried w))
    (Assn.of (scan_known w) i) p (fun a => Assn.of (scan_known w) (j a))
    fun _ => Assn.of (scan_known w) k

/-- While the row is being scanned, its own reads and writes are permitted. -/
theorem local_permitted {op : Statement} (hop : Local context chain_type op)
    (hs : scan_known w (.scanning context chain_type) s) : origin_permitted w s op := by
  obtain ⟨hbusy, rfl, rfl⟩ := hs
  cases op with
  | remote c => trivial
  | db q =>
    cases q with
    | scan_cursor => exact ⟨hbusy, hop⟩
    | upsert_scan_cursor => exact ⟨hbusy, hop⟩
    | insert_balance_snapshot => exact ⟨hbusy, hop⟩
    | latest_balance_snapshot => exact hop.elim
    | _ => trivial

theorem local_phase {α : Type} {p : Scan α} {i : ScanPhase} (hp : p.Only (Local context chain_type))
    (hi : ∀ s, scan_known w i s → scan_known w (.scanning context chain_type) s) :
    ScanTriple w i p (fun _ => i) i := by
  refine .of_only hp (fun op hop s hs => local_permitted hop (hi s hs)) ?_
  exact fun op _ s hs r t ht => (same_scan w ht.2.1).keeps _ hs

theorem native_scanning (s : HistoryState W) (h : scan_known w (.native context chain_type asset) s) :
    scan_known w (.scanning context chain_type) s :=
  h.1

theorem native_local {α : Type} {p : Scan α} (hp : p.Only (Local context chain_type)) :
    ScanTriple w (.native context chain_type asset) p (fun _ => .native context chain_type asset)
      (.native context chain_type asset) :=
  local_phase hp native_scanning

/-- The balance is compared with an earlier one of the same row and asset. -/
theorem balance_phase (provider : Provider) (block_number : Int)
    (hplan : scan_plan_for_chain chain_type = .EvmNativeBalance) :
    ScanTriple w (.native context chain_type asset)
      (scan_evm_native_balance_with_context context asset provider block_number)
      (fun _ => .native context chain_type asset) (.native context chain_type asset) := by
  refine .bind Keeps.refl (native_local (call_only (fun _ => trivial) _)) fun balance_hex => ?_
  refine .bind_lift (fun balance_raw _ => ?_) fun _ _ _ h => h
  refine .bind_lift (fun balance_decimal _ => ?_) fun _ _ _ h => h
  refine .bind Keeps.refl (native_local (Only.perform rfl)) fun current => ?_
  refine .bind Keeps.refl (Q := fun _ => Assn.of (scan_known w) (.native context chain_type asset))
    ?_ fun previous => ?_
  · refine .perform (fun s hs => ?_) fun s hs r t ht => ?_
    · obtain ⟨⟨hbusy, rfl, rfl⟩, hnative⟩ := hs
      exact ⟨hbusy, rfl, hplan, asset, hnative, rfl⟩
    · have hkept := (same_scan w ht.2.1).keeps (.native context chain_type asset) hs
      cases r with
      | ok a => exact hkept
      | error e => exact hkept
  · cases previous with
    | none => exact .done fun _ h => h
    | some previous =>
      dsimp only
      split
      · refine .bind_lift (fun draft _ => ?_) fun _ _ _ h => h
        exact native_local (insert_event_local draft)
      · exact .done fun _ h => h

theorem evm_phase (provider : Provider)
    (hplan : scan_plan_for_chain chain_type = .EvmNativeBalance) :
    ScanTriple w (.scanning context chain_type) (scan_evm_address_with_provider context provider)
      (fun _ => .scanning context chain_type) (.scanning context chain_type) := by
  have hcursor : EVM_ERC20_TRANSFER_CURSOR ∈ cursor_types chain_type := by
    unfold cursor_types
    rw [hplan]
    exact List.mem_singleton_self _
  refine .bind_lift (fun _ _ => ?_) fun _ _ _ h => h
  refine .bind Keeps.refl (local_phase (Only.perform trivial) fun _ h => h) fun chain => ?_
  refine .bind Keeps.refl
    (Q := fun asset => Assn.of (scan_known w) (.native context chain_type asset)) ?_ fun asset => ?_
  · refine .perform (fun s hs => trivial) fun s hs r t ht => ?_
    have hkept := (same_scan w ht.2.1).keeps (.scanning context chain_type) hs
    cases r with
    | error e => exact hkept
    | ok a =>
      obtain ⟨_, hcarried, _⟩ := ht
      cases hcarried with
      | db h =>
        obtain ⟨hanswer, rfl⟩ := h.answer
        exact ⟨hkept, hanswer⟩
  have hrest : ScanTriple w (.native context chain_type asset) (do
      let selected_assets ← query (.selected_assets_for_address context.id)
      let _ ← Prog.lift (provider_timeout_duration provider)
      let latest_block ← eth_block_number
      let events ←
        (if native_asset_selected selected_assets asset then
          scan_evm_native_balance_with_context context asset provider latest_block
        else .done [])
      let transfers ← scan_evm_erc20_transfers context latest_block chain.default_confirmations
        selected_assets
      return events ++ transfers) (fun _ => .native context chain_type asset)
      (.native context chain_type asset) := by
    refine .bind Keeps.refl (native_local (Only.perform trivial)) fun selected_assets => ?_
    refine .bind_lift (fun _ _ => ?_) fun _ _ _ h => h
    refine .bind Keeps.refl
      (native_local (Only.bind (call_only (fun _ => trivial) _) fun _ => Only.lift))
      fun latest_block => ?_
    refine .bind Keeps.refl
      (Q := fun _ => Assn.of (scan_known w) (.native context chain_type asset)) ?_ fun events => ?_
    · split
      · exact balance_phase provider latest_block hplan
      · exact .done fun _ h => h
    · refine .bind Keeps.refl (native_local (erc20_transfers_local _ _ _ hcursor)) fun _ => ?_
      exact .done fun _ h => h
  exact hrest.consequence (fun _ h => h) (fun _ => native_scanning) fun _ => native_scanning

theorem candidates_phase {scan : Provider → Scan (List AddressEvent)} {i : ScanPhase}
    (hscan : ∀ provider, ScanTriple w i (scan provider) (fun _ => i) i) (chain_id : Uuid)
    (candidates : List Provider) (last : Option AppError) :
    ScanTriple w i (scan_candidates chain_id scan candidates last) (fun _ => i) i := by
  induction candidates generalizing last with
  | nil => exact .fail fun _ h => h
  | cons provider candidates ih =>
    refine .bind Keeps.refl (Q := fun _ => Assn.of (scan_known w) i) ?_ fun result => ?_
    · exact .attempt (hscan provider) (fun _ _ h => h) fun _ _ h => h
    · cases result with
      | ok events => exact .done fun _ h => h
      | error error =>
        dsimp only
        split
        · exact ih (some error)
        · exact .fail fun _ h => h

theorem address_phase (context : ScanAddressContext) (chain_type : String)
    (candidates : List Provider) :
    ScanTriple w (.scanning context chain_type) (scan_address chain_type context candidates)
      (fun _ => .scanning context chain_type) (.scanning context chain_type) := by
  unfold scan_address
  cases hplan : scan_plan_for_chain chain_type with
  | EvmNativeBalance => exact candidates_phase (fun provider => evm_phase provider hplan) _ _ _
  | Tron =>
    refine candidates_phase (fun provider => local_phase (tron_local provider ?_ ?_) fun _ h => h) ..
    · simp [cursor_types, hplan]
    · simp [cursor_types, hplan]
  | Btc =>
    refine candidates_phase (fun provider => local_phase (btc_local provider ?_) fun _ h => h) ..
    simp [cursor_types, hplan]
  | Unsupported other => exact .done fun _ h => h

end Scan

/-! ### The system -/

section System
variable {W : Type} [DecidableEq W]

theorem launch_origins {w : W} {s t : HistoryState W} {p : Scan (List AddressEvent)}
    (h : OriginInvariant s) (hlaunch : HistoryLaunch w s p t) : OriginInvariant t := by
  have hrest : ∀ {busy : W → Bool} {scanning : W → ScanAddressContext},
      (∀ v, busy v = true →
        ∃ row ∈ s.tables.watched_addresses, row.id = (scanning v).id ∧
          origin row = context_origin (scanning v)) →
      OriginInvariant { s with busy := busy, scanning := scanning } := fun hcurrent =>
    ⟨h.ids, hcurrent, h.cursor_lt, h.snapshot_lt, h.writer_lt, h.cursor_written, h.snapshot_written,
      h.cursors, h.snapshots, h.reads⟩
  cases hlaunch with
  | scan row candidates hrow hactive =>
    refine hrest fun v hbusy => ?_
    by_cases hv : v = w
    · subst v
      exact ⟨row, hrow, by simp [scan_context], by simp [context_origin, scan_context, origin]⟩
    · rw [Function.update_of_ne hv] at hbusy ⊢
      exact h.current v hbusy
  | ended =>
    refine hrest fun v hbusy => ?_
    by_cases hv : v = w
    · subst v
      simp at hbusy
    · rw [Function.update_of_ne hv] at hbusy
      exact h.current v hbusy

theorem origin_rules : Prog.Crew.Rules (HistoryCarried (W := W))
    (HistoryOthers HistoryState.MovesUnread) HistoryLaunch OriginInvariant origin_permitted
    (fun w => Prog.Keeps (scan_known w)) fun _ _ _ => True where
  refl _ := Prog.Keeps.refl
  trans _ := Prog.Keeps.trans
  launch_inv := launch_origins
  launch_safe := by
    intro w s p t h hlaunch
    cases hlaunch with
    | scan row candidates hrow hactive =>
      have hscan := address_phase (w := w) (scan_context row) (s.tables.chain_type row.chain_id)
        candidates
      refine (hscan.safe _ ?_).mono fun _ _ _ _ => trivial
      exact ⟨by simp, by simp, rfl⟩
    | ended => exact fun _ _ => ⟨trivial, trivial⟩
  launch_others := by
    intro w v s p t _ hlaunch hv
    refine SameScan.keeps ?_
    cases hlaunch with
    | scan => exact ⟨by simp [hv], by simp [hv], rfl, rfl⟩
    | ended => exact ⟨by simp [hv], rfl, rfl, rfl⟩
  statement_inv := by
    intro w s op r t h hA hs
    cases hs with
    | remote => exact h
    | db hfate =>
      rcases hfate.state with rfl | rfl
      · exact h
      · exact h.query hA
  statement_others _ _ hs _ := (same_scan _ hs).keeps
  others_inv := by
    intro s t h ho
    cases ho with
    | write op hC => exact h.write hC
  others := by
    intro w s t _ ho
    cases ho with
    | write op => exact SameScan.keeps ⟨rfl, rfl, (write_rows s.tables op).chains, rfl⟩

omit [DecidableEq W] in
theorem OriginInvariant.start (chains : List Chain) (assets : List Asset) :
    OriginInvariant (history_start (W := W) chains assets).1 := by
  constructor
  · exact .unwatched chains assets
  all_goals
    simp [history_start, unwatched, HistoryState.cursor_origins, HistoryState.snapshot_origins,
      Db.scan_cursor]

end System

/-! ### Two scans of one row -/

def mainnet : Chain :=
  { id := 1, key := "ethereum", chain_type := "evm", default_confirmations := 12 }

def mainnet_ether : Asset :=
  { id := 5, chain_id := 1, asset_type := "native", symbol := "ETH", name := "Ether",
    contract_address := none, decimals := 18, status := "active" }

def endpoint : Provider :=
  { id := 7, chain_id := 1, name := "endpoint", base_url := "https://example.org",
    timeout_ms := 1000 }

def watch_request (address : String) : CreateWatchedAddressRequest :=
  { tenant_id := some 3, chain_id := 1, address := address, label := none, priority := "normal",
    scan_interval_seconds := 60, transfer_filter_enabled := true,
    balance_change_filter_enabled := true, status := "active", asset_ids := [5] }

def first_address : String := "0xaaaaaaaaaaaaaaaaaaaaaaaaaaaaaaaaaaaaaaaa"

def second_address : String := "0xbbbbbbbbbbbbbbbbbbbbbbbbbbbbbbbbbbbbbbbb"

/-- Every statement is answered, and the provider reports a balance. -/
def history_answered (s : HistoryState Unit) : (op : Statement) →
    AppResult op.Answer × HistoryState Unit
  | .db q => s.query () q
  | .remote (.eth_block_number) => (.ok "0x10", s)
  | .remote (.eth_get_balance _) => (.ok "0x1", s)
  | .remote _ => (.error (.Config "request failed"), s)

/-- The only worker scans the row. -/
def scanning_row (row : WatchedAddress) (s : HistoryState Unit) : HistoryState Unit :=
  { s with
    busy := Function.update s.busy () true
    scanning := Function.update s.scanning () (scan_context row) }

/-- The scan and its end. -/
def scanned_row (row : WatchedAddress) (s : HistoryState Unit) : HistoryState Unit :=
  let after := (Prog.eval history_answered
    (scan_address (s.tables.chain_type row.chain_id) (scan_context row) [endpoint])
    (scanning_row row s)).2
  { after with busy := Function.update after.busy () false }

theorem history_answered_carried (s : HistoryState Unit) (op : Statement) :
    HistoryCarried () s op (history_answered s op).1 (history_answered s op).2 := by
  cases op with
  | db q => exact .db .answered
  | remote c =>
    cases c <;> exact .remote _

theorem scanned_row_run {C : HistoryState Unit → AddressWrite → Prop} {row : WatchedAddress}
    {s : HistoryState Unit} {ps : Unit → Scan (List AddressEvent)}
    (hrow : row ∈ s.tables.watched_addresses) (hactive : row.status = "active") :
    ∃ qs, Relation.ReflTransGen (HistoryStep C) (s, ps) (scanned_row row s, qs) := by
  obtain ⟨qs, hqs, _⟩ := Prog.Crew.of_eval (H := HistoryCarried) (E := HistoryOthers C)
    (w := ()) (fun s op _ => history_answered_carried s op) (scanning_row row s)
    (Prog.along_true history_answered
      (scan_address (s.tables.chain_type row.chain_id) (scan_context row) [endpoint]) _)
    (Function.update ps ()
      (scan_address (s.tables.chain_type row.chain_id) (scan_context row) [endpoint])) (by simp)
  exact ⟨_, .head (.launch () (.scan row [endpoint] hrow hactive))
    (.tail hqs (.launch () .ended))⟩

def first_row : WatchedAddress :=
  { id := 0, tenant_id := 3, chain_id := 1, address := first_address, label := none,
    priority := "normal", scan_interval_seconds := 60, transfer_filter_enabled := true,
    balance_change_filter_enabled := true, status := "active" }

def second_row : WatchedAddress :=
  { first_row with address := second_address }

def created : HistoryState Unit :=
  (history_start [mainnet] [mainnet_ether]).1.write
    (.create_watched_address (watch_request first_address))

theorem first_row_scanned {C : HistoryState Unit → AddressWrite → Prop}
    (hC : C (history_start [mainnet] [mainnet_ether]).1
      (.create_watched_address (watch_request first_address))) :
    ∃ qs, Relation.ReflTransGen (HistoryStep C) (history_start [mainnet] [mainnet_ether])
      (scanned_row first_row created, qs) := by
  have hcreate : HistoryStep C (history_start [mainnet] [mainnet_ether])
      (created, fun _ => .done []) := .others (.write _ hC)
  have hrow : first_row ∈ created.tables.watched_addresses := by decide +kernel
  obtain ⟨qs, hqs⟩ := scanned_row_run hrow rfl
  exact ⟨qs, .head hcreate hqs⟩

def replaced : HistoryState Unit :=
  (scanned_row first_row created).write
    (.update_watched_address 3 0 (watch_request second_address))

end CoinListener.Worker
