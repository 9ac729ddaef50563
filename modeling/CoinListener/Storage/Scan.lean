import CoinListener.Storage.Events
import CoinListener.Foundation.Program
import Mathlib.Data.List.Sort

/-! The statements a scan issues against the database. -/
namespace CoinListener.Storage
open Foundation

/-- The rows a scan touches. The clock moves on with every statement that reads it. -/
structure Db where
  chains : List Chain
  assets : List Asset
  watched_address_assets : List (Uuid × Uuid)
  scan_cursors : List ScanCursor
  balance_snapshots : List BalanceSnapshot
  clock : Nat
  events : EventTables

/-- One cursor for each address and cursor type. -/
def ScanCursor.isFor (cursor : ScanCursor) (address_id : Uuid) (cursor_type : String) : Bool :=
  cursor.address_id == address_id && cursor.cursor_type == cursor_type

/-- Insert, or move the stored cursor forward: it never goes back. -/
def upsert_cursor (cursor : ScanCursor) : List ScanCursor → List ScanCursor
  | [] => [cursor]
  | stored :: cursors =>
    if ScanCursor.isFor stored cursor.address_id cursor.cursor_type then
      { stored with
        last_scanned_block := max stored.last_scanned_block cursor.last_scanned_block } :: cursors
    else stored :: upsert_cursor cursor cursors

section Cursor
variable {cursor stored : ScanCursor} {cursors : List ScanCursor} {address_id : Uuid}
  {cursor_type : String}

theorem ScanCursor.isFor_self (cursor : ScanCursor) :
    ScanCursor.isFor cursor cursor.address_id cursor.cursor_type = true := by
  simp [ScanCursor.isFor]

/-- The cursor written is at least the one asked for, and no less than the one stored. -/
theorem find_upsert_cursor (cursor : ScanCursor) (cursors : List ScanCursor) :
    ∃ c, (upsert_cursor cursor cursors).find?
        (ScanCursor.isFor · cursor.address_id cursor.cursor_type) = some c ∧
      c.last_scanned_block =
        match cursors.find? (ScanCursor.isFor · cursor.address_id cursor.cursor_type) with
        | some old => max old.last_scanned_block cursor.last_scanned_block
        | none => cursor.last_scanned_block := by
  induction cursors with
  | nil => exact ⟨cursor, by simp [upsert_cursor, ScanCursor.isFor], rfl⟩
  | cons stored cursors ih =>
    by_cases h : ScanCursor.isFor stored cursor.address_id cursor.cursor_type = true
    · have hnew : ∀ v, ScanCursor.isFor { stored with last_scanned_block := v }
          cursor.address_id cursor.cursor_type = true := fun v => h
      simp only [upsert_cursor, h, if_true, List.find?_cons, hnew]
      exact ⟨_, rfl, rfl⟩
    · obtain ⟨c, hc, hlast⟩ := ih
      simp only [upsert_cursor, h, if_false, List.find?_cons, Bool.false_eq_true]
      exact ⟨c, hc, hlast⟩

/-- Other cursors stay as they are. -/
theorem find_upsert_cursor_other (cursor : ScanCursor) (cursors : List ScanCursor)
    (h : cursor.address_id ≠ address_id ∨ cursor.cursor_type ≠ cursor_type) :
    (upsert_cursor cursor cursors).find? (ScanCursor.isFor · address_id cursor_type) =
      cursors.find? (ScanCursor.isFor · address_id cursor_type) := by
  have hother : ∀ c : ScanCursor, ScanCursor.isFor c cursor.address_id cursor.cursor_type = true →
      ScanCursor.isFor c address_id cursor_type = false := by
    intro c hc
    simp only [ScanCursor.isFor, Bool.and_eq_true, beq_iff_eq, Bool.and_eq_false_iff,
      beq_eq_false_iff_ne] at hc ⊢
    rw [hc.1, hc.2]
    exact h
  induction cursors with
  | nil =>
    have hself := hother cursor (ScanCursor.isFor_self cursor)
    simp [upsert_cursor, hself]
  | cons stored cursors ih =>
    by_cases hs : ScanCursor.isFor stored cursor.address_id cursor.cursor_type = true
    · have hnew : ∀ v, ScanCursor.isFor { stored with last_scanned_block := v } address_id
          cursor_type = false := fun v => hother stored hs
      simp only [upsert_cursor, hs, if_true, List.find?_cons, hnew]
    · simp only [upsert_cursor, hs, if_false, List.find?_cons, ih, Bool.false_eq_true]

end Cursor

/-- `left.cmp(right)` on a pair of texts. -/
def symbol_le (left right : Asset) : Bool :=
  left.symbol < right.symbol || (left.symbol == right.symbol && left.name ≤ right.name)

/-- A stable sort, as `sort_by` is. -/
def sort_assets (le : Asset → Asset → Bool) (assets : List Asset) : List Asset :=
  assets.insertionSort fun a b => le a b = true

theorem mem_sort_assets {le : Asset → Asset → Bool} {assets : List Asset} {a : Asset} :
    a ∈ sort_assets le assets ↔ a ∈ assets :=
  List.mem_insertionSort _

namespace Db

def native_asset_for_chain (db : Db) (chain_id : Uuid) : AppResult Asset :=
  match db.assets.find? fun a => a.chain_id == chain_id && a.asset_type == "native" with
  | some asset => .ok asset
  | none => .error (.NotFound "native asset")

def chain_by_id (db : Db) (id : Uuid) : AppResult Chain :=
  match db.chains.find? (·.id == id) with
  | some chain => .ok chain
  | none => .error (.NotFound "chain")

def selected_assets_for_address (db : Db) (address_id : Uuid) : List Asset :=
  let selected := db.watched_address_assets.filter (·.1 == address_id)
  sort_assets (fun a b => a.asset_type < b.asset_type ||
      (a.asset_type == b.asset_type && symbol_le a b))
    (selected.flatMap fun waa => db.assets.filter fun a => a.id == waa.2 && a.status == "active")

/-- The active assets of a chain; the first ones listed win in a search. -/
def assets_for_chain (db : Db) (chain_id : Uuid) : List Asset :=
  sort_assets (fun a b => a.asset_type < b.asset_type ||
      (a.asset_type == b.asset_type && symbol_le a b))
    (db.assets.filter fun a => a.chain_id == chain_id && a.status == "active")

def scan_cursor (db : Db) (address_id : Uuid) (cursor_type : String) : Option ScanCursor :=
  db.scan_cursors.find? (ScanCursor.isFor · address_id cursor_type)

def upsert_scan_cursor (db : Db) (cursor : ScanCursor) : Db :=
  { db with scan_cursors := upsert_cursor cursor db.scan_cursors }

/-- The latest snapshot of an address and asset, other than the one with this identifier. -/
def latest_balance_snapshot (db : Db) (address_id asset_id : Uuid) (except_id : Option Uuid) :
    Option BalanceSnapshot :=
  (db.balance_snapshots.filter fun s =>
    s.address_id == address_id && s.asset_id == asset_id && some s.id != except_id).foldl
      (fun best s => match best with
        | none => some s
        | some b => if b.observed_at < s.observed_at then some s else some b) none

def insert_balance_snapshot (db : Db) (request : CreateBalanceSnapshotRequest) :
    BalanceSnapshot × Db :=
  let snapshot : BalanceSnapshot :=
    { toCreateBalanceSnapshotRequest := request
      id := db.clock
      observed_at := db.clock }
  (snapshot, { db with
    balance_snapshots := db.balance_snapshots ++ [snapshot]
    clock := db.clock + 1 })

/-- The snapshot found is one of the address and asset. -/
theorem latest_balance_snapshot_some {db : Db} {address_id asset_id : Uuid}
    {except_id : Option Uuid} {snapshot : BalanceSnapshot}
    (h : db.latest_balance_snapshot address_id asset_id except_id = some snapshot) :
    snapshot ∈ db.balance_snapshots ∧ snapshot.address_id = address_id ∧
      snapshot.asset_id = asset_id := by
  have hfold : ∀ (rows : List BalanceSnapshot) (best : Option BalanceSnapshot),
      rows.foldl (fun best s => match best with
        | none => some s
        | some b => if b.observed_at < s.observed_at then some s else some b) best =
          some snapshot → best = some snapshot ∨ snapshot ∈ rows := by
    intro rows
    induction rows with
    | nil => exact fun best hbest => .inl hbest
    | cons row rows ih =>
      intro best hbest
      rcases ih _ hbest with hfirst | hrest
      · cases best with
        | none => exact .inr (Option.some.inj hfirst ▸ List.mem_cons_self ..)
        | some b =>
          dsimp only at hfirst
          split at hfirst
          · exact .inr (Option.some.inj hfirst ▸ List.mem_cons_self ..)
          · exact .inl hfirst
      · exact .inr (List.mem_cons_of_mem _ hrest)
  rcases hfold _ _ h with hnone | hmem
  · exact nomatch hnone
  · have hfound := List.mem_filter.mp hmem
    simp only [Bool.and_eq_true, beq_iff_eq] at hfound
    exact ⟨hfound.1, hfound.2.1.1, hfound.2.1.2⟩

theorem scan_cursor_upsert (db : Db) (cursor : ScanCursor) :
    ∃ c, (db.upsert_scan_cursor cursor).scan_cursor cursor.address_id cursor.cursor_type = some c ∧
      c.last_scanned_block = match db.scan_cursor cursor.address_id cursor.cursor_type with
        | some old => max old.last_scanned_block cursor.last_scanned_block
        | none => cursor.last_scanned_block :=
  find_upsert_cursor cursor db.scan_cursors

theorem scan_cursor_upsert_other (db : Db) {cursor : ScanCursor} {address_id : Uuid}
    {cursor_type : String} (h : cursor.address_id ≠ address_id ∨ cursor.cursor_type ≠ cursor_type) :
    (db.upsert_scan_cursor cursor).scan_cursor address_id cursor_type =
      db.scan_cursor address_id cursor_type :=
  find_upsert_cursor_other cursor db.scan_cursors h

def insert_event_and_outbox_if_not_exists (db : Db) (draft : AddressEventDraft) :
    Option AddressEvent × Db :=
  ((db.events.insert_event_and_outbox_if_not_exists draft).1,
    { db with events := (db.events.insert_event_and_outbox_if_not_exists draft).2 })

end Db

/-- A statement against the database. -/
inductive Query where
  | native_asset_for_chain (chain_id : Uuid)
  | chain_by_id (chain_id : Uuid)
  | selected_assets_for_address (address_id : Uuid)
  | scan_cursor (address_id : Uuid) (cursor_type : String)
  | upsert_scan_cursor (cursor : ScanCursor)
  | latest_balance_snapshot (address_id asset_id : Uuid) (except_id : Option Uuid)
  | insert_balance_snapshot (request : CreateBalanceSnapshotRequest)
  | insert_event_and_outbox_if_not_exists (draft : AddressEventDraft)

namespace Query

abbrev Answer : Query → Type
  | .native_asset_for_chain _ => Asset
  | .chain_by_id _ => Chain
  | .selected_assets_for_address _ => List Asset
  | .scan_cursor .. => Option ScanCursor
  | .upsert_scan_cursor _ => Unit
  | .latest_balance_snapshot .. => Option BalanceSnapshot
  | .insert_balance_snapshot _ => BalanceSnapshot
  | .insert_event_and_outbox_if_not_exists _ => Option AddressEvent

/-- The statement carried out. -/
def run (db : Db) : (q : Query) → AppResult q.Answer × Db
  | .native_asset_for_chain chain_id => (db.native_asset_for_chain chain_id, db)
  | .chain_by_id chain_id => (db.chain_by_id chain_id, db)
  | .selected_assets_for_address address_id => (.ok (db.selected_assets_for_address address_id), db)
  | .scan_cursor address_id cursor_type => (.ok (db.scan_cursor address_id cursor_type), db)
  | .upsert_scan_cursor cursor => (.ok (), db.upsert_scan_cursor cursor)
  | .latest_balance_snapshot address_id asset_id except_id =>
    (.ok (db.latest_balance_snapshot address_id asset_id except_id), db)
  | .insert_balance_snapshot request =>
    (.ok (db.insert_balance_snapshot request).1, (db.insert_balance_snapshot request).2)
  | .insert_event_and_outbox_if_not_exists draft =>
    (.ok (db.insert_event_and_outbox_if_not_exists draft).1,
      (db.insert_event_and_outbox_if_not_exists draft).2)

/-- No statement takes a cursor back. -/
theorem run_scan_cursor (q : Query) {db : Db} {address_id : Uuid} {cursor_type : String}
    {c : ScanCursor} (h : db.scan_cursor address_id cursor_type = some c) :
    ∃ c', (q.run db).2.scan_cursor address_id cursor_type = some c' ∧
      c.last_scanned_block ≤ c'.last_scanned_block := by
  cases q with
  | upsert_scan_cursor cursor =>
    by_cases hsame : cursor.address_id = address_id ∧ cursor.cursor_type = cursor_type
    · obtain ⟨rfl, rfl⟩ := hsame
      obtain ⟨c', hc', hlast⟩ := db.scan_cursor_upsert cursor
      rw [h] at hlast
      refine ⟨c', hc', ?_⟩
      rw [hlast]
      exact le_max_left ..
    · have hother : cursor.address_id ≠ address_id ∨ cursor.cursor_type ≠ cursor_type := by
        by_cases ha : cursor.address_id = address_id
        · exact Or.inr fun ht => hsame ⟨ha, ht⟩
        · exact Or.inl ha
      exact ⟨c, (db.scan_cursor_upsert_other hother).trans h, le_refl _⟩
  | _ => exact ⟨c, h, le_refl _⟩

/-- The statement is carried out and answered, refused, or carried out without an answer. -/
abbrev Fate (db : Db) (q : Query) : AppResult q.Answer → Db → Prop :=
  Foundation.Fate AppError.Database db (q.run db)

/-- The statement with the fate chosen for it. -/
abbrev attempt (choice : Outcome) (db : Db) (q : Query) : AppResult q.Answer × Db :=
  choice.apply AppError.Database db (q.run db)

end Query

end CoinListener.Storage
