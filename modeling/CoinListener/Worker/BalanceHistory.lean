import CoinListener.Worker.EvmScan
import Mathlib.Data.List.Induction

/-! Native balance scans one after another: the snapshots, and the events of the changes between. -/
namespace CoinListener.Worker
open Foundation Storage Providers

/-- The inputs of one scan: the provider, the block it is at, its answer to the balance request, and
what becomes of each database statement. -/
structure BalanceScan where
  provider : Provider
  block_number : Int
  reply : AppResult String
  snapshot : Outcome
  latest : Outcome
  event : Outcome

def BalanceScan.step (scan : BalanceScan) (db : Db) : (s : Statement) → AppResult s.Answer × Db
  | .db (.insert_balance_snapshot request) =>
    Query.attempt scan.snapshot db (.insert_balance_snapshot request)
  | .db (.latest_balance_snapshot address_id asset_id except_id) =>
    Query.attempt scan.latest db (.latest_balance_snapshot address_id asset_id except_id)
  | .db (.insert_event_and_outbox_if_not_exists draft) =>
    Query.attempt scan.event db (.insert_event_and_outbox_if_not_exists draft)
  | .db q => q.run db
  | .remote (.eth_get_balance _) => (scan.reply, db)
  | .remote _ => (.error (.Config "no answer"), db)

/-- The choices cover everything that may become of a statement. -/
theorem BalanceScan.step_fate (scan : BalanceScan) (db : Db) (q : Query) :
    Query.Fate db q (scan.step db (.db q)).1 (scan.step db (.db q)).2 := by
  cases q with
  | insert_balance_snapshot request => exact scan.snapshot.fate AppError.Database db _
  | latest_balance_snapshot address_id asset_id except_id => exact scan.latest.fate AppError.Database db _
  | insert_event_and_outbox_if_not_exists draft => exact scan.event.fate AppError.Database db _
  | _ => exact .answered

section History
variable (context : ScanAddressContext) (asset : Asset)

/-- The database after a scan, however it ended. -/
def after_balance_scan (db : Db) (scan : BalanceScan) : Db :=
  ((scan_evm_native_balance_with_context context asset scan.provider scan.block_number).eval
    scan.step db).2

/-- The database after scans one after another. -/
def after_balance_scans (db : Db) (scans : List BalanceScan) : Db :=
  scans.foldl (after_balance_scan context asset) db

/-- The snapshots of the address and asset, the oldest first. -/
def own_snapshots (db : Db) : List BalanceSnapshot :=
  db.balance_snapshots.filter fun s => s.address_id == context.id && s.asset_id == asset.id

/-- The balance changes reported for the address and asset, the oldest first. -/
def own_changes (db : Db) : List AddressEvent :=
  db.events.address_events.filter fun e =>
    e.address_id == context.id && e.asset_id == asset.id && e.event_type == "balance_change"

/-- Consecutive snapshots with different balances. -/
def changed_pairs : List BalanceSnapshot → List (BalanceSnapshot × BalanceSnapshot)
  | a :: b :: rest =>
    if a.balance_raw = b.balance_raw then changed_pairs (b :: rest)
    else (a, b) :: changed_pairs (b :: rest)
  | _ => []

/-- The event reports the change from one snapshot to the next. -/
def Reports (e : AddressEvent) (pair : BalanceSnapshot × BalanceSnapshot) : Prop :=
  e.balance_before_raw = some pair.1.balance_raw ∧ e.balance_after_raw = some pair.2.balance_raw ∧
    ∃ before after, big_int_from_str pair.1.balance_raw = .ok before ∧
      big_int_from_str pair.2.balance_raw = .ok after ∧
      e.balance_delta_raw = some (toString (after - before))

/-- The difference an event states. -/
def stated_delta (e : AddressEvent) : Int :=
  match e.balance_delta_raw.map big_int_from_str with
  | some (.ok delta) => delta
  | _ => 0

/-- The events are those of the changed pairs, one for each and no other, and their differences add
up to the last balance less the first. -/
structure CoversChanges (db : Db) : Prop where
  one_each : List.Forall₂ Reports (own_changes context asset db)
    (changed_pairs (own_snapshots context asset db))
  telescopes : ∀ first last, (own_snapshots context asset db).head? = some first →
    (own_snapshots context asset db).getLast? = some last → ∃ before after,
      big_int_from_str first.balance_raw = .ok before ∧
      big_int_from_str last.balance_raw = .ok after ∧
      ((own_changes context asset db).map stated_delta).sum = after - before

/-- The balance a scan reads, raw and as a decimal. -/
def BalanceScan.balance (scan : BalanceScan) : AppResult (String × String) := do
  let balance_hex ← scan.reply
  let balance_raw ← Evm.parse_hex_u256_to_decimal_string balance_hex
  let balance_decimal ← Evm.wei_to_decimal_string balance_raw asset.decimals
  return (balance_raw, balance_decimal)

/-- The scan stores a balance that differs from the last one, and fails before its event is stored. -/
def Loses (db : Db) (scan : BalanceScan) : Prop :=
  ∃ raw decimal previous, scan.balance asset = .ok (raw, decimal) ∧
    (own_snapshots context asset db).getLast? = some previous ∧ previous.balance_raw ≠ raw ∧
    scan.snapshot.commits = true ∧
    ¬ (scan.snapshot = .answered ∧ scan.latest = .answered ∧ scan.event.commits = true)

end History

/-! ### Changed pairs -/

theorem changed_pairs_append (snapshots : List BalanceSnapshot) (s : BalanceSnapshot) :
    changed_pairs (snapshots ++ [s]) = changed_pairs snapshots ++
      match snapshots.getLast? with
      | some last => if last.balance_raw = s.balance_raw then [] else [(last, s)]
      | none => [] := by
  induction snapshots with
  | nil => rfl
  | cons a snapshots ih =>
    cases snapshots with
    | nil =>
      by_cases h : a.balance_raw = s.balance_raw <;> simp [changed_pairs, h]
    | cons b rest =>
      rw [List.getLast?_cons_cons]
      by_cases h : a.balance_raw = b.balance_raw
      · simpa [changed_pairs, h] using ih
      · simpa [changed_pairs, h] using ih

/-- The differences of the changed pairs add up. -/
theorem deltas_telescope {events : List AddressEvent} (snapshots : List BalanceSnapshot)
    (hnumeral : ∀ s ∈ snapshots, ∃ n, big_int_from_str s.balance_raw = .ok n)
    (h : List.Forall₂ Reports events (changed_pairs snapshots)) {first last : BalanceSnapshot}
    (hfirst : snapshots.head? = some first) (hlast : snapshots.getLast? = some last) :
    ∃ before after, big_int_from_str first.balance_raw = .ok before ∧
      big_int_from_str last.balance_raw = .ok after ∧
      (events.map stated_delta).sum = after - before := by
  induction snapshots generalizing events first with
  | nil => exact nomatch hfirst
  | cons a snapshots ih =>
    obtain rfl := Option.some.inj hfirst
    obtain ⟨before, hbefore⟩ := hnumeral a (List.mem_cons_self ..)
    cases snapshots with
    | nil =>
      obtain rfl := Option.some.inj hlast
      cases h
      exact ⟨before, before, hbefore, hbefore, by simp⟩
    | cons b rest =>
      rw [List.getLast?_cons_cons] at hlast
      have htail := fun events h => @ih events
        (fun s hs => hnumeral s (List.mem_cons_of_mem _ hs)) h b rfl hlast
      by_cases hsame : a.balance_raw = b.balance_raw
      · simp only [changed_pairs, hsame, if_true] at h
        rw [hsame]
        exact htail events h
      · simp only [changed_pairs, hsame, if_false] at h
        cases h with
        | @cons e _ events _ hreport h =>
          obtain ⟨middle, after, hmiddle, hafter, hsum⟩ := htail events h
          obtain ⟨_, _, x, y, hx, hy, hdelta⟩ := hreport
          obtain rfl := Except.ok.inj (hbefore.symm.trans hx)
          obtain rfl := Except.ok.inj (hmiddle.symm.trans hy)
          refine ⟨before, after, hbefore, hafter, ?_⟩
          have hstated : stated_delta e = middle - before := by
            simp only [stated_delta, hdelta, Option.map_some, big_int_from_str_toString]
          rw [List.map_cons, List.sum_cons, hsum, hstated]
          omega

/-! ### One scan -/

section Scan
variable {context : ScanAddressContext} {asset : Asset} {db : Db} {scan : BalanceScan}

/-- The snapshots were taken one after another, and hold numbers. -/
structure Ordered (context : ScanAddressContext) (asset : Asset) (db : Db) : Prop where
  increasing : (own_snapshots context asset db).Pairwise (·.observed_at < ·.observed_at)
  past : ∀ s ∈ own_snapshots context asset db, s.observed_at < db.clock ∧ s.id < db.clock
  numeral : ∀ s ∈ own_snapshots context asset db, ∃ n, big_int_from_str s.balance_raw = .ok n

/-- The latest of increasing snapshots is the last one. -/
theorem latest_of_increasing {snapshots : List BalanceSnapshot}
    (h : snapshots.Pairwise (·.observed_at < ·.observed_at)) :
    snapshots.foldl (fun best s => match best with
      | none => some s
      | some b => if b.observed_at < s.observed_at then some s else some b) none =
        snapshots.getLast? := by
  induction snapshots using List.reverseRecOn with
  | nil => rfl
  | append_singleton snapshots s ih =>
    obtain ⟨hinit, _, hlt⟩ := List.pairwise_append.mp h
    rw [List.foldl_append, ih hinit, List.getLast?_concat]
    cases hlast : snapshots.getLast? with
    | none => rfl
    | some b =>
      have hb := hlt b (List.mem_of_mem_getLast? hlast) s (List.mem_singleton_self _)
      simp [hb]

/-- The snapshot a scan inserts. -/
def new_snapshot (context : ScanAddressContext) (asset : Asset) (scan : BalanceScan) (db : Db)
    (raw decimal : String) : BalanceSnapshot :=
  { toCreateBalanceSnapshotRequest := balance_snapshot_request context asset scan.provider
      (some scan.block_number) raw decimal
    id := db.clock
    observed_at := db.clock }

/-- The database with that snapshot. -/
def with_snapshot (context : ScanAddressContext) (asset : Asset) (scan : BalanceScan) (db : Db)
    (raw decimal : String) : Db :=
  { db with
    balance_snapshots := db.balance_snapshots ++ [new_snapshot context asset scan db raw decimal]
    clock := db.clock + 1 }

theorem own_with_snapshot (raw decimal : String) :
    own_snapshots context asset (with_snapshot context asset scan db raw decimal) =
      own_snapshots context asset db ++ [new_snapshot context asset scan db raw decimal] := by
  simp [own_snapshots, with_snapshot, new_snapshot, balance_snapshot_request]

theorem Ordered.with_snapshot {raw : String} {n : Int} (h : Ordered context asset db)
    (scan : BalanceScan) (decimal : String) (hn : big_int_from_str raw = .ok n) :
    Ordered context asset (with_snapshot context asset scan db raw decimal) := by
  refine ⟨?_, ?_, ?_⟩
  · rw [own_with_snapshot]
    refine List.pairwise_append.mpr ⟨h.increasing, List.pairwise_singleton .., fun s hs t ht => ?_⟩
    obtain rfl := List.mem_singleton.mp ht
    exact (h.past s hs).1
  · intro s hs
    rw [own_with_snapshot] at hs
    rcases List.mem_append.mp hs with hs | hs
    · exact ⟨Nat.lt_succ_of_lt (h.past s hs).1, Nat.lt_succ_of_lt (h.past s hs).2⟩
    · obtain rfl := List.mem_singleton.mp hs
      exact ⟨Nat.lt_succ_self _, Nat.lt_succ_self _⟩
  · intro s hs
    rw [own_with_snapshot] at hs
    rcases List.mem_append.mp hs with hs | hs
    · exact h.numeral s hs
    · obtain rfl := List.mem_singleton.mp hs
      exact ⟨n, hn⟩

/-- The scan compares with the snapshot before its own. -/
theorem latest_with_snapshot (h : Ordered context asset db) (raw decimal : String) :
    (with_snapshot context asset scan db raw decimal).latest_balance_snapshot context.id asset.id
        (some db.clock) = (own_snapshots context asset db).getLast? := by
  have hothers : (with_snapshot context asset scan db raw decimal).balance_snapshots.filter
      (fun s => s.address_id == context.id && s.asset_id == asset.id && some s.id != some db.clock) =
        own_snapshots context asset db := by
    have hold : db.balance_snapshots.filter (fun s => s.address_id == context.id &&
        s.asset_id == asset.id && some s.id != some db.clock) = own_snapshots context asset db := by
      apply List.filter_congr
      intro s hs
      by_cases hown : (s.address_id == context.id && s.asset_id == asset.id) = true
      · have hid := (h.past s (List.mem_filter.mpr ⟨hs, hown⟩)).2
        have hne : s.id ≠ db.clock := Nat.ne_of_lt hid
        simp [hown, hne]
      · simp [hown]
    simp [with_snapshot, new_snapshot, hold]
  rw [Db.latest_balance_snapshot, hothers]
  exact latest_of_increasing h.increasing

/-- What a scan does to the database. -/
theorem after_balance_scan_eq (h : Ordered context asset db) :
    after_balance_scan context asset db scan = match scan.balance asset with
      | .error _ => db
      | .ok (raw, decimal) =>
        let stored := with_snapshot context asset scan db raw decimal
        if scan.snapshot.commits = false then db
        else if scan.snapshot = .answered ∧ scan.latest = .answered then
          match (own_snapshots context asset db).getLast? with
          | none => stored
          | some previous =>
            if previous.balance_raw = raw then stored
            else match Evm.evm_balance_change_event context asset previous
                (new_snapshot context asset scan db raw decimal) scan.provider with
              | .error _ => stored
              | .ok draft =>
                if scan.event.commits then (stored.insert_event_and_outbox_if_not_exists draft).2
                else stored
        else stored := by
  have hcall : ∀ {β : Type} (f : String → Scan β), ((call (.eth_get_balance context.address)).bind
      f).eval scan.step db = ((Prog.lift scan.reply).bind f).eval scan.step db := fun _ => rfl
  simp only [after_balance_scan, scan_evm_native_balance_with_context, Prog.bind_eq, hcall]
  cases hreply : scan.reply with
  | error e => simp [BalanceScan.balance, hreply, bind, Except.bind]
  | ok hex =>
    cases hraw : Evm.parse_hex_u256_to_decimal_string hex with
    | error e => simp [BalanceScan.balance, hreply, hraw, bind, Except.bind]
    | ok raw =>
      cases hdecimal : Evm.wei_to_decimal_string raw asset.decimals with
      | error e => simp [BalanceScan.balance, hreply, hraw, hdecimal, bind, Except.bind]
      | ok decimal =>
        have hbalance : scan.balance asset = .ok (raw, decimal) := by
          simp [BalanceScan.balance, hreply, hraw, hdecimal, bind, Except.bind, pure, Except.pure]
        let request := balance_snapshot_request context asset scan.provider
          (some scan.block_number) raw decimal
        have hinsert : ∀ {β : Type} (f : BalanceSnapshot → Scan β),
            ((query (.insert_balance_snapshot request)).bind f).eval scan.step db =
              ((Prog.lift
                (Query.attempt scan.snapshot db (.insert_balance_snapshot request)).1).bind f).eval
                scan.step (Query.attempt scan.snapshot db (.insert_balance_snapshot request)).2 :=
          fun _ => rfl
        simp only [hbalance, hraw, hdecimal, Prog.lift_ok, Prog.done_bind]
        rw [hinsert]
        cases hsnapshot : scan.snapshot with
        | refused message => simp [Query.attempt, Outcome.apply, Outcome.commits]
        | unacknowledged message =>
          simp only [Query.attempt, Outcome.apply, Outcome.commits, Prog.lift_error, Prog.fail_bind,
            Prog.eval_fail,
            reduceCtorEq, false_and, if_false]
          rfl
        | answered =>
          let current := new_snapshot context asset scan db raw decimal
          let stored := with_snapshot context asset scan db raw decimal
          have hlatest : ∀ {β : Type} (f : Option BalanceSnapshot → Scan β),
              ((query (.latest_balance_snapshot context.id asset.id (some current.id))).bind f).eval
                scan.step stored = ((Prog.lift (Query.attempt scan.latest stored (.latest_balance_snapshot
                  context.id asset.id (some current.id))).1).bind f).eval scan.step
                (Query.attempt scan.latest stored (.latest_balance_snapshot context.id asset.id
                  (some current.id))).2 := fun _ => rfl
          have hfound : stored.latest_balance_snapshot context.id asset.id (some current.id) =
              (own_snapshots context asset db).getLast? := latest_with_snapshot h raw decimal
          change (Prog.eval scan.step ((query (.latest_balance_snapshot context.id asset.id
            (some current.id))).bind _) stored).2 = _
          rw [hlatest]
          cases hread : scan.latest with
          | refused message =>
            simp [Query.attempt, Outcome.apply, Outcome.commits, stored]
          | unacknowledged message =>
            simp [Query.attempt, Outcome.apply, Outcome.commits, stored, Query.run]
          | answered =>
            have hcurrent : (db.insert_balance_snapshot request).1 = current := rfl
            simp only [Query.attempt, Outcome.apply, Query.run, hfound, hcurrent, Prog.lift_ok,
              Prog.done_bind]
            cases (own_snapshots context asset db).getLast? with
            | none => simp [Outcome.commits, stored]
            | some previous =>
              have hemit : should_emit_balance_change (some previous) current =
                  (previous.balance_raw != raw) := rfl
              by_cases hsame : previous.balance_raw = raw
              · simp [hemit, hsame, Outcome.commits, stored]
              · have hdiffers : (previous.balance_raw != raw) = true := by simpa using hsame
                simp only [hemit, hdiffers, if_true, hsame, if_false, Outcome.commits,
                  reduceCtorEq, and_self]
                change (Prog.eval scan.step ((Prog.lift (Evm.evm_balance_change_event context asset
                  previous current scan.provider)).bind fun draft => insert_event draft) stored).2 = _
                cases Evm.evm_balance_change_event context asset previous current scan.provider with
                | error e => rfl
                | ok draft =>
                  change (Prog.eval scan.step ((Prog.lift (Query.attempt scan.event stored
                    (.insert_event_and_outbox_if_not_exists draft)).1).bind fun event =>
                      .done event.toList) (Query.attempt scan.event stored
                        (.insert_event_and_outbox_if_not_exists draft)).2).2 = _
                  cases scan.event <;> rfl

theorem balance_numeral {raw decimal : String} (h : scan.balance asset = .ok (raw, decimal)) :
    ∃ n, big_int_from_str raw = .ok n := by
  obtain ⟨hex, _, h⟩ := bind_ok h
  obtain ⟨raw', hraw, h⟩ := bind_ok h
  obtain ⟨decimal', _, h⟩ := bind_ok h
  obtain ⟨rfl, rfl⟩ := Prod.mk.inj (Except.ok.inj h)
  obtain ⟨digits, _, hraw⟩ := bind_ok hraw
  obtain rfl := Except.ok.inj hraw
  exact ⟨_, big_int_from_str_toString (Evm.hex_number digits)⟩

/-- The event of a change, and that it is stored and counted. -/
theorem change_stored {previous current : BalanceSnapshot} {provider : Provider} {x y : Int}
    (hx : big_int_from_str previous.balance_raw = .ok x)
    (hy : big_int_from_str current.balance_raw = .ok y) :
    ∃ draft e, Evm.evm_balance_change_event context asset previous current provider = .ok draft ∧
      Reports e (previous, current) ∧
      own_changes context asset (db.insert_event_and_outbox_if_not_exists draft).2 =
        own_changes context asset db ++ [e] := by
  have hdraft : ∃ draft, Evm.evm_balance_change_event context asset previous current provider =
      .ok draft ∧ draft.address_id = context.id ∧ draft.asset_id = asset.id ∧
      draft.event_type = "balance_change" ∧ draft.tx_hash = none ∧
      draft.balance_before_raw = some previous.balance_raw ∧
      draft.balance_after_raw = some current.balance_raw ∧
      draft.balance_delta_raw = some (toString (y - x)) := by
    simp only [Evm.evm_balance_change_event, Evm.parse_decimal_bigint, hx, hy, Except.mapError]
    exact ⟨_, rfl, rfl, rfl, rfl, rfl, rfl, rfl, rfl⟩
  obtain ⟨draft, hdraft, haddress, hasset, htype, htx, hbefore, hafter, hdelta⟩ := hdraft
  refine ⟨draft, db.events.new_event draft, hdraft, ⟨hbefore, hafter, x, y, hx, hy, hdelta⟩, ?_⟩
  have hkey : draft.unique_transfer = none := by
    simp [AddressEventDraft.unique_transfer, htx]
  simp [own_changes, Db.insert_event_and_outbox_if_not_exists,
    EventTables.insert_without_transfer hkey, EventTables.new_event, haddress, hasset, htype]

/-- What a scan adds: nothing; a snapshot and what reports its change; or a change without its
event. -/
theorem balance_scan_cases (h : Ordered context asset db) :
    let after := after_balance_scan context asset db scan
    Ordered context asset after ∧
      ((¬ Loses context asset db scan ∧ ∃ events pairs, List.Forall₂ Reports events pairs ∧
          own_changes context asset after = own_changes context asset db ++ events ∧
          changed_pairs (own_snapshots context asset after) =
            changed_pairs (own_snapshots context asset db) ++ pairs) ∨
        (Loses context asset db scan ∧
          own_changes context asset after = own_changes context asset db ∧ ∃ pair,
          changed_pairs (own_snapshots context asset after) =
            changed_pairs (own_snapshots context asset db) ++ [pair])) := by
  intro after
  have hafter : after = _ := after_balance_scan_eq h
  cases hbalance : scan.balance asset with
  | error e =>
    rw [hbalance] at hafter
    have hkeeps : ¬ Loses context asset db scan := by
      rintro ⟨raw, decimal, _, hread, _⟩
      exact nomatch hbalance.symm.trans hread
    rw [hafter]
    exact ⟨h, Or.inl ⟨hkeeps, [], [], .nil, by simp, by simp⟩⟩
  | ok read =>
    obtain ⟨raw, decimal⟩ := read
    rw [hbalance] at hafter
    simp only at hafter
    by_cases hcommits : scan.snapshot.commits = false
    · rw [if_pos hcommits] at hafter
      have hkeeps : ¬ Loses context asset db scan := by
        rintro ⟨_, _, _, _, _, _, hcommitted, _⟩
        exact nomatch hcommitted.symm.trans hcommits
      rw [hafter]
      exact ⟨h, Or.inl ⟨hkeeps, [], [], .nil, by simp, by simp⟩⟩
    · rw [if_neg hcommits] at hafter
      replace hcommits : scan.snapshot.commits = true := by simpa using hcommits
      obtain ⟨n, hn⟩ := balance_numeral hbalance
      have hordered := h.with_snapshot scan decimal hn
      have hpairs := changed_pairs_append (own_snapshots context asset db)
        (new_snapshot context asset scan db raw decimal)
      rw [← own_with_snapshot] at hpairs
      cases hlast : (own_snapshots context asset db).getLast? with
      | none =>
        simp only [hlast, ite_self] at hafter hpairs
        have hkeeps : ¬ Loses context asset db scan := by
          rintro ⟨_, _, _, _, hprevious, _⟩
          exact nomatch hlast.symm.trans hprevious
        rw [hafter]
        exact ⟨hordered, Or.inl ⟨hkeeps, [], [], .nil, by rw [List.append_nil]; rfl, hpairs⟩⟩
      | some previous =>
        simp only [hlast] at hafter hpairs
        by_cases hsame : previous.balance_raw = raw
        · rw [if_pos hsame, ite_self] at hafter
          rw [if_pos (show previous.balance_raw = (new_snapshot context asset scan db raw
            decimal).balance_raw from hsame)] at hpairs
          have hkeeps : ¬ Loses context asset db scan := by
            rintro ⟨_, _, _, hread, hprevious, hdiffers, _⟩
            obtain ⟨rfl, rfl⟩ := Prod.mk.inj (Except.ok.inj (hbalance.symm.trans hread))
            obtain rfl := Option.some.inj (hlast.symm.trans hprevious)
            exact hdiffers hsame
          rw [hafter]
          exact ⟨hordered, Or.inl ⟨hkeeps, [], [], .nil, by rw [List.append_nil]; rfl, hpairs⟩⟩
        · rw [if_neg hsame] at hafter
          rw [if_neg (show ¬ previous.balance_raw = (new_snapshot context asset scan db raw
            decimal).balance_raw from hsame)] at hpairs
          obtain ⟨m, hm⟩ := h.numeral previous (List.mem_of_mem_getLast? hlast)
          obtain ⟨draft, e, hdraft, hreports, hstored⟩ := @change_stored context asset
            (with_snapshot context asset scan db raw decimal) previous
            (new_snapshot context asset scan db raw decimal) scan.provider m n hm hn
          simp only [hdraft] at hafter
          by_cases hgood : scan.snapshot = .answered ∧ scan.latest = .answered ∧
              scan.event.commits = true
          · rw [if_pos ⟨hgood.1, hgood.2.1⟩, if_pos hgood.2.2] at hafter
            have hkeeps : ¬ Loses context asset db scan := by
              rintro ⟨_, _, _, _, _, _, _, hfails⟩
              exact hfails hgood
            rw [hafter]
            exact ⟨⟨hordered.increasing, hordered.past, hordered.numeral⟩, Or.inl ⟨hkeeps, [e], _,
              .cons hreports .nil, hstored, hpairs⟩⟩
          · have hlost : after = with_snapshot context asset scan db raw decimal := by
              rw [hafter]
              by_cases hread : scan.snapshot = .answered ∧ scan.latest = .answered
              · have hrefused : ¬ scan.event.commits = true :=
                  fun hevent => hgood ⟨hread.1, hread.2, hevent⟩
                rw [if_pos hread, if_neg hrefused]
              · exact if_neg hread
            rw [hlost]
            exact ⟨hordered, Or.inr ⟨⟨raw, decimal, previous, hbalance, hlast, hsame, hcommits,
              hgood⟩, rfl, _, hpairs⟩⟩

end Scan

/-! ### All scans -/

section Runs
variable {context : ScanAddressContext} {asset : Asset} {db : Db}

/-- No scan loses its event. -/
def NoneLoses (context : ScanAddressContext) (asset : Asset) (db : Db) (scans : List BalanceScan) :
    Prop :=
  ∀ before scan after, scans = before ++ scan :: after →
    ¬ Loses context asset (after_balance_scans context asset db before) scan

theorem noneLoses_append (scans : List BalanceScan) (scan : BalanceScan) :
    NoneLoses context asset db (scans ++ [scan]) ↔ NoneLoses context asset db scans ∧
      ¬ Loses context asset (after_balance_scans context asset db scans) scan := by
  constructor
  · intro h
    refine ⟨fun before s after hsplit => ?_, h scans scan [] rfl⟩
    exact h before s (after ++ [scan]) (by rw [hsplit]; simp)
  · rintro ⟨hinit, hlast⟩ before s after hsplit
    rcases List.eq_nil_or_concat after with rfl | ⟨after, last, rfl⟩
    · obtain ⟨rfl, hs⟩ := List.append_inj' hsplit rfl
      obtain rfl := (List.cons.inj hs).1
      exact hlast
    · rw [List.concat_eq_append, ← List.cons_append, ← List.append_assoc] at hsplit
      exact hinit before s after (List.append_inj' hsplit rfl).1

/-- Either no event was lost and every change is reported, or there are fewer events than changes. -/
theorem balance_run (h : Ordered context asset db)
    (hstart : List.Forall₂ Reports (own_changes context asset db)
      (changed_pairs (own_snapshots context asset db))) (scans : List BalanceScan) :
    let after := after_balance_scans context asset db scans
    Ordered context asset after ∧
      ((NoneLoses context asset db scans ∧ List.Forall₂ Reports (own_changes context asset after)
          (changed_pairs (own_snapshots context asset after))) ∨
        (¬ NoneLoses context asset db scans ∧ (own_changes context asset after).length <
          (changed_pairs (own_snapshots context asset after)).length)) := by
  induction scans using List.reverseRecOn with
  | nil =>
    refine ⟨h, Or.inl ⟨fun before scan after hsplit => ?_, hstart⟩⟩
    cases before <;> exact nomatch hsplit
  | append_singleton scans scan ih =>
    obtain ⟨hordered, hcases⟩ := ih
    have hlast : after_balance_scans context asset db (scans ++ [scan]) =
        after_balance_scan context asset (after_balance_scans context asset db scans) scan := by
      simp [after_balance_scans]
    obtain ⟨hnext, hscan⟩ := @balance_scan_cases context asset _ scan hordered
    rw [hlast, noneLoses_append]
    refine ⟨hnext, ?_⟩
    rcases hscan with ⟨hkeeps, events, pairs, hreports, hevents, hpairs⟩ | ⟨hloses, hevents, pair,
      hpairs⟩
    · rw [hevents, hpairs]
      rcases hcases with ⟨hnone, hall⟩ | ⟨hsome, hfewer⟩
      · exact Or.inl ⟨⟨hnone, hkeeps⟩, List.rel_append hall hreports⟩
      · refine Or.inr ⟨fun hboth => hsome hboth.1, ?_⟩
        have hlength := hreports.length_eq
        simp only [List.length_append]
        omega
    · rw [hevents, hpairs]
      refine Or.inr ⟨fun hboth => hboth.2 hloses, ?_⟩
      rw [List.length_append, List.length_singleton]
      rcases hcases with ⟨_, hall⟩ | ⟨_, hfewer⟩
      · exact Nat.lt_succ_of_le (le_of_eq hall.length_eq)
      · exact Nat.lt_succ_of_lt hfewer

end Runs

/-- The events cover the changes between the snapshots exactly when no scan stores a changed balance
and then fails before its event is stored. -/
theorem changes_covered_iff {context : ScanAddressContext} {asset : Asset} {db : Db}
    (hsnapshots : own_snapshots context asset db = []) (hchanges : own_changes context asset db = [])
    (scans : List BalanceScan) :
    CoversChanges context asset (after_balance_scans context asset db scans) ↔
      NoneLoses context asset db scans := by
  have hordered : Ordered context asset db := by
    refine ⟨?_, ?_, ?_⟩ <;> rw [hsnapshots]
    · exact List.Pairwise.nil
    · exact nofun
    · exact nofun
  have hstart : List.Forall₂ Reports (own_changes context asset db)
      (changed_pairs (own_snapshots context asset db)) := by
    rw [hsnapshots, hchanges]
    exact .nil
  obtain ⟨hlast, hrun⟩ := balance_run hordered hstart scans
  constructor
  · intro hcovers
    rcases hrun with ⟨hnone, _⟩ | ⟨_, hfewer⟩
    · exact hnone
    · have hlength := hcovers.one_each.length_eq
      omega
  · intro hnone
    rcases hrun with ⟨_, hall⟩ | ⟨hsome, _⟩
    · exact ⟨hall, fun first last hfirst hend =>
        deltas_telescope _ hlast.numeral hall hfirst hend⟩
    · exact absurd hnone hsome

/-! ### Two balances -/

def watched_balance : ScanAddressContext :=
  { id := 1, tenant_id := 2, chain_id := 3, address := "0xaaaaaaaaaaaaaaaaaaaaaaaaaaaaaaaaaaaaaaaa" }

def eth : Asset :=
  { id := 4, chain_id := 3, asset_type := "native", symbol := "ETH", name := "Ether",
    contract_address := none, decimals := 18, status := "active" }

/-- A scan that reads the balance, with the fate of its event. -/
def balance_read (hex : String) (event : Outcome) : BalanceScan :=
  { provider := { id := 5, chain_id := 3, name := "node", base_url := "https://node.example",
                  timeout_ms := 5000 }
    block_number := 7
    reply := .ok hex
    snapshot := .answered
    latest := .answered
    event := event }

def no_balances : Db :=
  { chains := [], assets := [eth], watched_address_assets := [(1, 4)], scan_cursors := [],
    balance_snapshots := [], clock := 0, events := .empty }

theorem answered_scan_keeps (db : Db) (hex : String) :
    ¬ Loses watched_balance eth db (balance_read hex .answered) := by
  rintro ⟨_, _, _, _, _, _, _, hfails⟩
  exact hfails ⟨rfl, rfl, rfl⟩

theorem two_balances_covered : CoversChanges watched_balance eth
    (after_balance_scans watched_balance eth no_balances
      [balance_read "0x5" .answered, balance_read "0x3" .answered]) := by
  refine (changes_covered_iff rfl rfl _).mpr fun before scan after hsplit => ?_
  have hscan : scan ∈ [balance_read "0x5" .answered, balance_read "0x3" .answered] := by
    rw [hsplit]
    exact List.mem_append_right _ (List.mem_cons_self ..)
  rcases List.mem_cons.mp hscan with rfl | hscan
  · exact answered_scan_keeps _ _
  · obtain rfl := List.mem_singleton.mp hscan
    exact answered_scan_keeps _ _

/-- The second scan stores its snapshot, its event is refused, and a third scan sees no change. -/
theorem refused_change_lost : ¬ CoversChanges watched_balance eth
    (after_balance_scans watched_balance eth no_balances
      [balance_read "0x5" .answered, balance_read "0x3" (.refused "connection closed"),
        balance_read "0x3" .answered]) := by
  intro hcovers
  exact absurd hcovers.one_each.length_eq (by decide +kernel)

end CoinListener.Worker
