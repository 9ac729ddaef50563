import CoinListener.Worker.BtcScan
import Mathlib.Order.Bounds.Basic

/-! A BTC scan over a whole history: what the page limit lets through. -/
namespace CoinListener.Worker
open Foundation Storage Providers

/-- The confirmed transactions of an address in pages, the newest first. -/
structure PagedHistory where
  pages : List (List Btc.BtcTransaction)
  filled : ∀ page ∈ pages, page ≠ []
  well_formed : ∀ tx ∈ pages.flatten, tx.WellFormed
  distinct : (pages.flatten.map (·.txid)).Nodup
  newest_first : pages.flatten.Pairwise fun a b =>
    b.status.block_height.getD 0 ≤ a.status.block_height.getD 0

/-- The page that starts after a transaction, which is the last one of a page. -/
def page_after : List (List Btc.BtcTransaction) → Option String → List Btc.BtcTransaction
  | pages, none => pages.headD []
  | [], some _ => []
  | page :: pages, some txid =>
    if page.getLast?.map (·.txid) = some txid then pages.headD [] else page_after pages (some txid)

/-- A provider that answers every request from the pages, and a database that carries out every
statement. -/
def history_step (pages : List (List Btc.BtcTransaction)) (balance : Json) (db : Db) :
    (s : Statement) → AppResult s.Answer × Db
  | .db q => q.run db
  | .remote (.btc_address _) => (.ok balance, db)
  | .remote (.btc_transactions _ last_seen_txid) => (.ok (.ok (page_after pages last_seen_txid)), db)
  | .remote _ => (.error (.Config "no answer"), db)

/-- The transfers a scan keeps: those not below its first block. -/
def new_transfers (address : String) (from_block : Int) (transactions : List Btc.BtcTransaction) :
    List Btc.DecodedBtcTransfer :=
  transactions.filterMap fun tx =>
    match Btc.classify_btc_transaction tx address with
    | .ok (some transfer) => if transfer.block_number < from_block then none else some transfer
    | _ => none

theorem mem_new_transfers {address : String} {from_block : Int}
    {transactions : List Btc.BtcTransaction} {transfer : Btc.DecodedBtcTransfer} :
    transfer ∈ new_transfers address from_block transactions ↔ ∃ tx ∈ transactions,
      Btc.classify_btc_transaction tx address = .ok (some transfer) ∧
        from_block ≤ transfer.block_number := by
  simp only [new_transfers, List.mem_filterMap]
  constructor
  · rintro ⟨tx, htx, h⟩
    split at h
    · next t hclassify =>
      split at h
      · exact nomatch h
      · obtain rfl := Option.some.inj h
        exact ⟨tx, htx, hclassify, by omega⟩
    · exact nomatch h
  · rintro ⟨tx, htx, hclassify, hfrom⟩
    refine ⟨tx, htx, ?_⟩
    simp only [hclassify]
    exact if_neg (by omega)

theorem new_transfers_append (address : String) (from_block : Int)
    (a b : List Btc.BtcTransaction) : new_transfers address from_block (a ++ b) =
      new_transfers address from_block a ++ new_transfers address from_block b :=
  List.filterMap_append

theorem classify_btc_page_ok {address : String} {from_block : Int}
    {transactions : List Btc.BtcTransaction}
    (h : ∀ tx ∈ transactions, ∃ transfer, Btc.classify_btc_transaction tx address = .ok transfer) :
    classify_btc_page address from_block transactions =
      .ok (new_transfers address from_block transactions) := by
  induction transactions with
  | nil => rfl
  | cons tx transactions ih =>
    obtain ⟨transfer, htransfer⟩ := h tx (List.mem_cons_self ..)
    have hrest := ih fun t ht => h t (List.mem_cons_of_mem _ ht)
    rw [classify_btc_page, htransfer, hrest]
    cases transfer with
    | none => simp [new_transfers, htransfer, bind, Except.bind, pure, Except.pure]
    | some transfer =>
      by_cases hfrom : transfer.block_number < from_block
      · simp [new_transfers, htransfer, bind, Except.bind, pure, Except.pure, hfrom]
      · simp [new_transfers, htransfer, bind, Except.bind, pure, Except.pure, hfrom]

/-! ### The pages -/

section Pages
variable {history : PagedHistory} {balance : Json} {address : String} {from_block : Int} {db : Db}

/-- The last transaction of the pages read so far. -/
def last_txid (before : List (List Btc.BtcTransaction)) : Option String :=
  (before.getLast?.bind (·.getLast?)).map (·.txid)

/-- Asking after the last transaction read gives the next page. -/
theorem page_after_last {before rest : List (List Btc.BtcTransaction)}
    (hfilled : ∀ page ∈ before, page ≠ [])
    (hdistinct : (before.flatten.map (·.txid)).Nodup) :
    page_after (before ++ rest) (last_txid before) = rest.headD [] := by
  induction before with
  | nil => simp [last_txid, page_after]
  | cons page before ih =>
    obtain ⟨last, hlast⟩ : ∃ last, page.getLast? = some last := by
      cases h : page.getLast? with
      | none => exact absurd (List.getLast?_eq_none_iff.mp h) (hfilled page (List.mem_cons_self ..))
      | some last => exact ⟨last, rfl⟩
    cases before with
    | nil => simp [last_txid, page_after, hlast]
    | cons next before =>
      have hrest := ih (fun p hp => hfilled p (List.mem_cons_of_mem _ hp))
        (by
          rw [List.flatten_cons, List.map_append] at hdistinct
          exact (List.nodup_append.mp hdistinct).2.1)
      have hsame : last_txid (page :: next :: before) = last_txid (next :: before) := by
        simp [last_txid, List.getLast?_cons_cons]
      rw [hsame]
      cases htxid : last_txid (next :: before) with
      | none =>
        -- every page has a last transaction
        obtain ⟨p, hp⟩ : ∃ p, (next :: before).getLast? = some p :=
          ⟨_, List.getLast?_eq_some_getLast (List.cons_ne_nil next before)⟩
        have hmem := List.mem_of_mem_getLast? hp
        have hne := hfilled p (List.mem_cons_of_mem _ hmem)
        simp [last_txid, hp, hne] at htxid
      | some txid =>
        rw [htxid] at hrest
        have hother : page.getLast?.map (·.txid) ≠ some txid := by
          intro h
          rw [hlast] at h
          obtain rfl := Option.some.inj h
          obtain ⟨p, hp, tx, htx, heq⟩ : ∃ p ∈ next :: before, ∃ tx ∈ p, tx.txid = last.txid := by
            simp only [last_txid, Option.map_eq_some_iff, Option.bind_eq_some_iff] at htxid
            obtain ⟨tx, ⟨p, hp, htx⟩, heq⟩ := htxid
            exact ⟨p, List.mem_of_mem_getLast? hp, tx, List.mem_of_mem_getLast? htx, heq⟩
          rw [List.flatten_cons, List.map_append] at hdistinct
          refine (List.nodup_append.mp hdistinct).2.2 last.txid
            (List.mem_map_of_mem (List.mem_of_mem_getLast? hlast)) tx.txid
            (List.mem_map_of_mem (List.mem_flatten.mpr ⟨p, hp, htx⟩)) heq.symm
        rw [List.cons_append, page_after, if_neg hother]
        exact hrest

/-- A request is answered with the next page, and the transaction to go on after. -/
theorem address_transactions_page_eval {pages : List (List Btc.BtcTransaction)}
    {last_seen_txid : Option String} {page : List Btc.BtcTransaction}
    (haddress : ∃ normalized, Btc.normalize_btc_address address = .ok normalized)
    (hseen : Btc.validate_optional_btc_hash last_seen_txid "last_seen_txid" = .ok ())
    (hpage : page_after pages last_seen_txid = page) (hwell : ∀ tx ∈ page, tx.WellFormed) :
    (address_transactions_page address last_seen_txid).eval (history_step pages balance) db =
      (.ok ⟨page, page.getLast?.map (·.txid)⟩, db) := by
  obtain ⟨normalized, hnorm⟩ := haddress
  have hnext : Btc.validate_optional_btc_hash (page.getLast?.map (·.txid)) "last_seen_txid" =
      .ok () := by
    cases hlast : page.getLast? with
    | none => rfl
    | some tx =>
      exact Btc.validate_btc_hash_ok (hwell tx (List.mem_of_mem_getLast? hlast)).txid _
  have hdecode : Btc.decode_btc_transaction_page (.ok page) =
      .ok ⟨page, page.getLast?.map (·.txid)⟩ := by
    simp only [Btc.decode_btc_transaction_page, Except.mapError, bind, Except.bind, hnext]
    rfl
  simp only [address_transactions_page, hnorm, hseen, Prog.bind_eq, Prog.lift_ok, Prog.done_bind]
  change Prog.eval _ (Prog.bind (Prog.perform (Statement.remote (.btc_transactions normalized
    last_seen_txid))) _) db = _
  simp only [Prog.perform, Prog.ask_bind, Prog.eval_ask, history_step, hpage, Prog.lift_ok,
    Prog.done_bind, hdecode, Prog.eval_done]

theorem last_txid_append (before : List (List Btc.BtcTransaction)) (page : List Btc.BtcTransaction) :
    last_txid (before ++ [page]) = page.getLast?.map (·.txid) := by
  simp [last_txid]

theorem last_txid_valid {before : List (List Btc.BtcTransaction)}
    (hwell : ∀ tx ∈ before.flatten, tx.WellFormed) :
    Btc.validate_optional_btc_hash (last_txid before) "last_seen_txid" = .ok () := by
  cases htxid : last_txid before with
  | none => rfl
  | some txid =>
    simp only [last_txid, Option.map_eq_some_iff, Option.bind_eq_some_iff] at htxid
    obtain ⟨tx, ⟨page, hpage, htx⟩, rfl⟩ := htxid
    have hmem : tx ∈ before.flatten :=
      List.mem_flatten.mpr ⟨page, List.mem_of_mem_getLast? hpage, List.mem_of_mem_getLast? htx⟩
    exact Btc.validate_btc_hash_ok (hwell tx hmem).txid _

/-- What the page loop comes to. -/
def pages_outcome (address : String) (from_block : Int)
    (pages rest : List (List Btc.BtcTransaction)) : AppResult (List Btc.DecodedBtcTransfer) :=
  if pages.length ≤ MAX_PROVIDER_PAGES_PER_SCAN then
    .ok (new_transfers address from_block rest.flatten)
  else (ensure_provider_page_limit "BTC address transactions" MAX_PROVIDER_PAGES_PER_SCAN
    true).map fun _ => []

/-- The loop reads the pages one by one; the first page beyond the limit ends it. -/
theorem btc_pages_eval
    (haddress : ∃ normalized, Btc.normalize_btc_address address = .ok normalized)
    (rounds : Nat) (before rest : List (List Btc.BtcTransaction))
    (hpages : history.pages = before ++ rest)
    (hbefore : before.length ≤ MAX_PROVIDER_PAGES_PER_SCAN)
    (hrounds : rounds + before.length = MAX_PROVIDER_PAGES_PER_SCAN + 1) :
    (btc_pages address from_block rounds before.length (last_txid before)).eval
        (history_step history.pages balance) db =
      (pages_outcome address from_block history.pages rest, db) := by
  induction rounds generalizing before rest with
  | zero => omega
  | succ rounds ih =>
    have hwell := history.well_formed
    have hdistinct := history.distinct
    have hfilled := history.filled
    rw [hpages] at hwell hdistinct hfilled
    have hwell_before : ∀ tx ∈ before.flatten, tx.WellFormed := fun tx htx =>
      hwell tx (by rw [List.flatten_append]; exact List.mem_append_left _ htx)
    have hdistinct_before : (before.flatten.map (·.txid)).Nodup := by
      rw [List.flatten_append, List.map_append] at hdistinct
      exact (List.nodup_append.mp hdistinct).1
    have hpage : page_after history.pages (last_txid before) = rest.headD [] := by
      rw [hpages]
      exact page_after_last (fun p hp => hfilled p (List.mem_append_left _ hp)) hdistinct_before
    have hwell_page : ∀ tx ∈ rest.headD [], tx.WellFormed := by
      cases rest with
      | nil => exact nofun
      | cons page rest =>
        intro tx htx
        apply hwell
        rw [List.flatten_append, List.flatten_cons]
        exact List.mem_append_right _ (List.mem_append_left _ htx)
    simp only [btc_pages, Prog.bind_eq, Prog.pure_eq]
    rw [Prog.eval_bind_ok _ (address_transactions_page_eval haddress
      (last_txid_valid hwell_before) hpage hwell_page)]
    cases rest with
    | nil =>
      rw [List.append_nil] at hpages
      have hshort : history.pages.length ≤ MAX_PROVIDER_PAGES_PER_SCAN := by rw [hpages]; exact hbefore
      simp [should_process_btc_transaction_page, pages_outcome, hshort, new_transfers, pure,
        Except.pure]
    | cons page rest =>
      have hne : page ≠ [] := hfilled page (List.mem_append_right _ (List.mem_cons_self ..))
      have hcount : page.length ≠ 0 := fun h => hne (List.eq_nil_of_length_eq_zero h)
      have hlength : history.pages.length = before.length + (rest.length + 1) := by
        rw [hpages, List.length_append, List.length_cons]
      by_cases hlimit : MAX_PROVIDER_PAGES_PER_SCAN ≤ before.length
      · -- the page beyond the limit is not empty
        have hexact : before.length = MAX_PROVIDER_PAGES_PER_SCAN := Nat.le_antisymm hbefore hlimit
        have hlong : ¬ history.pages.length ≤ MAX_PROVIDER_PAGES_PER_SCAN := by omega
        simp [should_process_btc_transaction_page, pages_outcome, hlong, hcount, hexact,
          ensure_provider_page_limit, bind, Except.bind, Except.map]
      · have hprocess : should_process_btc_transaction_page before.length page.length = .ok true := by
          simp [should_process_btc_transaction_page, hcount, hlimit, pure, Except.pure]
        have hclassify : classify_btc_page address from_block page =
            .ok (new_transfers address from_block page) :=
          classify_btc_page_ok fun tx htx => Btc.classify_ok (hwell_page tx htx) haddress
        obtain ⟨last, hlast⟩ : ∃ last, page.getLast? = some last :=
          ⟨_, List.getLast?_eq_some_getLast hne⟩
        have hnext := ih (before ++ [page]) rest (by rw [hpages]; simp)
          (by rw [List.length_append]; simp; omega) (by rw [List.length_append]; simp; omega)
        rw [last_txid_append, List.length_append, List.length_singleton, hlast,
          Option.map_some] at hnext
        simp only [List.headD_cons, hprocess, Prog.lift_ok, Prog.done_bind, Bool.not_true,
          Bool.false_eq_true, if_false, hclassify, hlast, Option.map_some]
        rw [Prog.eval_bind, hnext]
        by_cases hfits : history.pages.length ≤ MAX_PROVIDER_PAGES_PER_SCAN
        · simp [pages_outcome, hfits, new_transfers_append]
        · simp [pages_outcome, hfits, ensure_provider_page_limit, Except.map]

end Pages

/-! ### The events -/

/-- Every draft is stored, and nothing but events is written. -/
theorem insert_all_eval {α : Type} {pages : List (List Btc.BtcTransaction)} {balance : Json}
    (draft : α → AddressEventDraft) (items : List α) (db : Db) :
    ∃ events after, (Prog.forEach (fun a => insert_event (draft a)) items).eval
        (history_step pages balance) db = (.ok events, after) ∧
      (∀ a ∈ items, ∀ key, (draft a).unique_transfer = some key → after.events.HasEvent key) ∧
      (∀ key, db.events.HasEvent key → after.events.HasEvent key) ∧
      after.scan_cursors = db.scan_cursors := by
  induction items generalizing db with
  | nil => exact ⟨[], db, rfl, nofun, fun _ h => h, rfl⟩
  | cons a items ih =>
    obtain ⟨events, after, heval, hstored, hkept, hcursors⟩ :=
      ih (db.insert_event_and_outbox_if_not_exists (draft a)).2
    refine ⟨(db.insert_event_and_outbox_if_not_exists (draft a)).1.toList ++ events, after, ?_, ?_,
      fun key h => hkept key h.insert, hcursors⟩
    · have hfirst : (insert_event (draft a)).eval (history_step pages balance) db =
          (.ok (db.insert_event_and_outbox_if_not_exists (draft a)).1.toList,
            (db.insert_event_and_outbox_if_not_exists (draft a)).2) := rfl
      rw [Prog.forEach, Prog.eval_bind_ok _ hfirst, Prog.eval_bind_ok _ heval]
      rfl
    · intro b hb key hkey
      rcases List.mem_cons.mp hb with rfl | hb
      · exact hkept key (EventTables.insert_hasEvent hkey)
      · exact hstored b hb key hkey

/-! ### The whole scan -/

/-- Everything a scan needs besides the transactions: a provider of the chain, the native asset
selected, a readable balance, and a cursor that fits its column. -/
structure ScanReady (context : ScanAddressContext) (provider : Provider) (native_asset : Asset)
    (balance : Json) (db : Db) : Prop where
  chain : provider.chain_id = context.chain_id
  timeout : 0 < provider.timeout_ms
  asset : db.native_asset_for_chain context.chain_id = .ok native_asset
  selected : native_asset_selected (db.selected_assets_for_address context.id) native_asset = true
  address : ∃ normalized, Btc.normalize_btc_address context.address = .ok normalized
  balance : ∃ decoded, Btc.decode_btc_confirmed_balance balance = .ok decoded
  cursor : ∀ cursor, db.scan_cursor context.id BTC_TRANSACTION_CURSOR = some cursor →
    cursor.last_scanned_block < 9223372036854775808

section Outcome
variable {context : ScanAddressContext} {provider : Provider} {native_asset : Asset}
  {balance : Json} {db : Db}

/-- The cursor does not lie above the first block of the scan it starts. -/
theorem cursor_le_from {cursor : ScanCursor} (h : cursor.last_scanned_block < 9223372036854775808) :
    cursor.last_scanned_block ≤ btc_scan_from_block (some cursor) := by
  simp only [btc_scan_from_block, BTC_CURSOR_OVERLAP_BLOCKS, saturating_i64]
  omega

/-- The database once the balance is stored; the rest of the scan is left. -/
theorem scan_btc_eval (h : ScanReady context provider native_asset balance db)
    (history : PagedHistory) :
    ∃ snapshots clock, (scan_btc_address_with_provider context provider).eval
        (history_step history.pages balance) db =
      match pages_outcome context.address
          (btc_scan_from_block (db.scan_cursor context.id BTC_TRANSACTION_CURSOR)) history.pages
          history.pages with
      | .ok transfers => ((Prog.forEach (insert_btc_transfer context native_asset) transfers).bind
          fun events => (write_cursor context BTC_TRANSACTION_CURSOR
            (btc_cursor_value transfers)).bind fun _ => .done events).eval
          (history_step history.pages balance)
          { db with balance_snapshots := snapshots, clock := clock }
      | .error e => (.error e, { db with balance_snapshots := snapshots, clock := clock }) := by
  obtain ⟨normalized, hnorm⟩ := h.address
  obtain ⟨decoded, hdecoded⟩ := h.balance
  have htimeout : provider_timeout_duration provider = .ok provider.timeout_ms.toNat :=
    if_neg (Int.not_le.mpr h.timeout)
  have hmatches : ensure_provider_matches_context provider context = .ok () :=
    if_neg (fun hne => hne h.chain)
  have hbalance : ∀ d, (address_balance context.address).eval
      (history_step history.pages balance) d = (.ok decoded, d) := by
    intro d
    simp only [address_balance, hnorm, Prog.bind_eq, Prog.lift_ok, Prog.done_bind]
    change Prog.eval _ (Prog.bind (Prog.perform (Statement.remote (.btc_address normalized))) _) d = _
    simp only [Prog.perform, Prog.ask_bind, Prog.eval_ask, history_step, Prog.lift_ok,
      Prog.done_bind, hdecoded, Prog.eval_done]
  have hquery : ∀ (q : Query) {β : Type} (f : q.Answer → Scan β) (d : Db) (a : q.Answer),
      (q.run d).1 = .ok a → ((query q).bind f).eval (history_step history.pages balance) d =
        (f a).eval (history_step history.pages balance) (q.run d).2 := by
    intro q β f d a ha
    change Prog.eval _ (Prog.bind (Prog.lift (q.run d).1) f) (q.run d).2 = _
    rw [ha]
    rfl
  let request := balance_snapshot_request context native_asset provider none decoded.balance_raw
    decoded.balance_decimal
  let stored := (db.insert_balance_snapshot request).2
  refine ⟨stored.balance_snapshots, stored.clock, ?_⟩
  simp only [scan_btc_address_with_provider, hmatches, Prog.bind_eq, Prog.pure_eq, Prog.lift_ok,
    Prog.done_bind]
  rw [hquery (.native_asset_for_chain context.chain_id) _ db native_asset h.asset]
  simp only [Query.run]
  rw [hquery (.selected_assets_for_address context.id) _ db _ rfl]
  simp only [Query.run, h.selected, Bool.not_true, Bool.false_eq_true, if_false, htimeout,
    Prog.lift_ok, Prog.done_bind]
  rw [Prog.eval_bind_ok _ (hbalance db), hquery (.insert_balance_snapshot request) _ db _ rfl]
  simp only [Query.run]
  rw [hquery (.scan_cursor context.id BTC_TRANSACTION_CURSOR) _ stored _ rfl]
  simp only [Query.run]
  have hpages : (btc_pages context.address
      (btc_scan_from_block (db.scan_cursor context.id BTC_TRANSACTION_CURSOR))
      (MAX_PROVIDER_PAGES_PER_SCAN + 1) 0 none).eval (history_step history.pages balance) stored =
        (pages_outcome context.address
          (btc_scan_from_block (db.scan_cursor context.id BTC_TRANSACTION_CURSOR)) history.pages
          history.pages, stored) :=
    btc_pages_eval h.address _ [] _ rfl (Nat.zero_le _) rfl
  have hcursor : stored.scan_cursor context.id BTC_TRANSACTION_CURSOR =
      db.scan_cursor context.id BTC_TRANSACTION_CURSOR := rfl
  rw [hcursor, Prog.eval_bind, hpages]
  cases pages_outcome context.address
    (btc_scan_from_block (db.scan_cursor context.id BTC_TRANSACTION_CURSOR)) history.pages
    history.pages with
  | ok transfers => rfl
  | error e => rfl

/-- The transaction is a transfer of the address, and not below the first block of the scan. -/
def IsNew (context : ScanAddressContext) (db : Db) (history : PagedHistory)
    (tx : Btc.BtcTransaction) (transfer : Btc.DecodedBtcTransfer) : Prop :=
  tx ∈ history.pages.flatten ∧
    Btc.classify_btc_transaction tx context.address = .ok (some transfer) ∧
    btc_scan_from_block (db.scan_cursor context.id BTC_TRANSACTION_CURSOR) ≤ transfer.block_number

/-- The heights of the new transfers. -/
def new_heights (context : ScanAddressContext) (db : Db) (history : PagedHistory) : Set Int :=
  {height | ∃ tx transfer, IsNew context db history tx transfer ∧ transfer.block_number = height}

theorem btc_cursor_value_some {transfers : List Btc.DecodedBtcTransfer} {value : Int}
    (h : btc_cursor_value transfers = some value) :
    IsGreatest {height | ∃ transfer ∈ transfers, transfer.block_number = height} value := by
  obtain ⟨hmem, hmax⟩ := List.max?_eq_some_iff.mp h
  constructor
  · exact List.mem_map.mp hmem
  · rintro height ⟨transfer, htransfer, rfl⟩
    exact hmax _ (List.mem_map_of_mem htransfer)

/-- The whole history fits: every new transfer has its event, and the cursor stands at the highest. -/
theorem scan_btc_fits (h : ScanReady context provider native_asset balance db)
    (history : PagedHistory) (hfits : history.pages.length ≤ MAX_PROVIDER_PAGES_PER_SCAN) :
    ∃ events after, (scan_btc_address_with_provider context provider).eval
        (history_step history.pages balance) db = (.ok events, after) ∧
      (∀ tx transfer, IsNew context db history tx transfer → ∃ key,
        (Btc.btc_transfer_event_draft context native_asset transfer).unique_transfer = some key ∧
          after.events.HasEvent key) ∧
      (new_heights context db history = ∅ →
        after.scan_cursor context.id BTC_TRANSACTION_CURSOR =
          db.scan_cursor context.id BTC_TRANSACTION_CURSOR) ∧
      ∀ height, IsGreatest (new_heights context db history) height → ∃ cursor,
        after.scan_cursor context.id BTC_TRANSACTION_CURSOR = some cursor ∧
          cursor.last_scanned_block = height := by
  obtain ⟨snapshots, clock, heval⟩ := scan_btc_eval h history
  let from_block := btc_scan_from_block (db.scan_cursor context.id BTC_TRANSACTION_CURSOR)
  let transfers := new_transfers context.address from_block history.pages.flatten
  have houtcome : pages_outcome context.address from_block history.pages history.pages =
      .ok transfers := if_pos hfits
  rw [houtcome] at heval
  obtain ⟨events, stored, hinsert, hevents, _, hcursors⟩ :=
    @insert_all_eval _ history.pages balance (Btc.btc_transfer_event_draft context native_asset)
      transfers { db with balance_snapshots := snapshots, clock := clock }
  have hwrite := Prog.eval_bind_ok (history_step history.pages balance) hinsert
    (f := fun events => (write_cursor context BTC_TRANSACTION_CURSOR
      (btc_cursor_value transfers)).bind fun _ => .done events)
  have hnew : ∀ {transfer}, transfer ∈ transfers ↔
      ∃ tx, IsNew context db history tx transfer := fun {transfer} => mem_new_transfers
  have hstored : stored.scan_cursor context.id BTC_TRANSACTION_CURSOR =
      db.scan_cursor context.id BTC_TRANSACTION_CURSOR := by
    simp only [Db.scan_cursor, hcursors]
  have hkeys : ∀ tx transfer, IsNew context db history tx transfer → ∃ key,
      (Btc.btc_transfer_event_draft context native_asset transfer).unique_transfer = some key ∧
        stored.events.HasEvent key :=
    fun tx transfer htx => ⟨_, rfl, hevents transfer (hnew.mpr ⟨tx, htx⟩) _ rfl⟩
  cases hvalue : btc_cursor_value transfers with
  | none =>
    rw [hvalue] at hwrite
    simp only [hvalue] at heval
    refine ⟨events, stored, heval.trans hwrite, hkeys, fun _ => hstored, fun height hgreatest => ?_⟩
    obtain ⟨tx, transfer, htx, _⟩ := hgreatest.1
    have hempty : transfers.map (·.block_number) = [] := List.max?_eq_none_iff.mp hvalue
    have hmem := List.mem_map_of_mem (f := (·.block_number)) (hnew.mpr ⟨tx, htx⟩)
    rw [hempty] at hmem
    cases hmem
  | some value =>
    rw [hvalue] at hwrite
    simp only [hvalue] at heval
    have hgreatest := btc_cursor_value_some hvalue
    have hheights : new_heights context db history =
        {height | ∃ transfer ∈ transfers, transfer.block_number = height} := by
      ext height
      constructor
      · rintro ⟨tx, transfer, htx, rfl⟩
        exact ⟨transfer, hnew.mpr ⟨tx, htx⟩, rfl⟩
      · rintro ⟨transfer, htransfer, rfl⟩
        obtain ⟨tx, htx⟩ := hnew.mp htransfer
        exact ⟨tx, transfer, htx, rfl⟩
    refine ⟨events, stored.upsert_scan_cursor (cursor_at context BTC_TRANSACTION_CURSOR value),
      heval.trans hwrite, hkeys, fun hempty => ?_, fun height hheight => ?_⟩
    · rw [← hheights, hempty] at hgreatest
      exact hgreatest.1.elim
    · rw [hheights] at hheight
      obtain rfl := hheight.unique hgreatest
      obtain ⟨cursor, hcursor, hlast⟩ :=
        stored.scan_cursor_upsert (cursor_at context BTC_TRANSACTION_CURSOR height)
      refine ⟨cursor, hcursor, ?_⟩
      have hbefore : stored.scan_cursor (cursor_at context BTC_TRANSACTION_CURSOR height).address_id
          (cursor_at context BTC_TRANSACTION_CURSOR height).cursor_type =
          db.scan_cursor context.id BTC_TRANSACTION_CURSOR := hstored
      rw [hlast, hbefore]
      cases hold : db.scan_cursor context.id BTC_TRANSACTION_CURSOR with
      | none => rfl
      | some old =>
        -- a new transfer is not below the old cursor
        obtain ⟨transfer, htransfer, rfl⟩ := hgreatest.1
        obtain ⟨tx, _, _, hfrom⟩ := hnew.mp htransfer
        rw [hold] at hfrom
        exact max_eq_right (le_trans (cursor_le_from (h.cursor old hold)) hfrom)

/-- A page beyond the limit: the scan stops, without an event or a new cursor. -/
theorem scan_btc_beyond_limit (h : ScanReady context provider native_asset balance db)
    (history : PagedHistory) (hlong : MAX_PROVIDER_PAGES_PER_SCAN < history.pages.length) :
    ∃ after, (scan_btc_address_with_provider context provider).eval
        (history_step history.pages balance) db =
          (.error (.Config ("BTC address transactions pagination exceeded max page limit " ++
            toString MAX_PROVIDER_PAGES_PER_SCAN)), after) ∧
      after.events = db.events ∧ after.scan_cursors = db.scan_cursors := by
  obtain ⟨snapshots, clock, heval⟩ := scan_btc_eval h history
  have hlong : ¬ history.pages.length ≤ MAX_PROVIDER_PAGES_PER_SCAN := Nat.not_le.mpr hlong
  simp only [pages_outcome, hlong, if_false] at heval
  exact ⟨_, heval, rfl, rfl⟩

end Outcome

def watched_btc : ScanAddressContext :=
  { id := 1, tenant_id := 2, chain_id := 3, address := "1AAAAAAAAAAAAAAAAAAAAAAAAAAAAAAAAA" }

def btc_asset : Asset :=
  { id := 4, chain_id := 3, asset_type := "native", symbol := "BTC", name := "Bitcoin",
    contract_address := none, decimals := 8, status := "active" }

def btc_provider : Provider :=
  { id := 5, chain_id := 3, name := "esplora", base_url := "https://blockstream.info/api",
    timeout_ms := 5000 }

def btc_payment (digit : Nat) (height : Nat) : Btc.BtcTransaction :=
  { txid := String.ofList (List.replicate 64 (Nat.digitChar digit))
    status := { confirmed := true, block_height := some height, block_hash := none }
    vin := []
    vout := [{ scriptpubkey_address := some watched_btc.address, value := 1000 }] }

theorem btc_payment_well_formed (digit height : Nat)
    (h : Evm.is_ascii_hexdigit (Nat.digitChar digit) = true) :
    (btc_payment digit height).WellFormed := by
  refine ⟨rfl, ⟨height, rfl, Int.natCast_nonneg _⟩, ?_, nofun, ?_, nofun⟩
  · simp [btc_payment, Btc.IsBtcHash, h]
  · intro output houtput
    obtain rfl := List.mem_singleton.mp houtput
    decide

/-- So many pages of one payment each, the oldest in block 100. -/
def one_a_page : Nat → List (List Btc.BtcTransaction)
  | 0 => []
  | n + 1 => [btc_payment n (100 + n)] :: one_a_page n

theorem mem_one_a_page {n : Nat} {tx : Btc.BtcTransaction} (h : tx ∈ (one_a_page n).flatten) :
    ∃ i < n, tx = btc_payment i (100 + i) := by
  induction n with
  | zero => exact nomatch h
  | succ n ih =>
    rw [one_a_page, List.flatten_cons, List.singleton_append] at h
    rcases List.mem_cons.mp h with rfl | h
    · exact ⟨n, Nat.lt_succ_self n, rfl⟩
    · obtain ⟨i, hi, rfl⟩ := ih h
      exact ⟨i, Nat.lt_succ_of_lt hi, rfl⟩

def eleven_pages : PagedHistory where
  pages := one_a_page 11
  filled := by decide
  well_formed := by
    intro tx htx
    obtain ⟨i, hi, rfl⟩ := mem_one_a_page htx
    apply btc_payment_well_formed
    have hdigits : ∀ j < 11, Evm.is_ascii_hexdigit (Nat.digitChar j) = true := by decide
    exact hdigits i hi
  distinct := by decide +kernel
  newest_first := by decide +kernel

def two_pages : PagedHistory where
  pages := one_a_page 2
  filled := by decide
  well_formed := by
    intro tx htx
    obtain ⟨i, hi, rfl⟩ := mem_one_a_page htx
    apply btc_payment_well_formed
    have hdigits : ∀ j < 2, Evm.is_ascii_hexdigit (Nat.digitChar j) = true := by decide
    exact hdigits i hi
  distinct := by decide +kernel
  newest_first := by decide +kernel

def btc_balance : Json :=
  .obj [("chain_stats", .obj [("funded_txo_sum", .num "2000"), ("spent_txo_sum", .num "0")])]

/-- The cursor stands in the block of the given height. -/
def btc_db (height : Int) : Db :=
  { chains := [], assets := [btc_asset], watched_address_assets := [(1, 4)],
    scan_cursors := [cursor_at watched_btc BTC_TRANSACTION_CURSOR height], balance_snapshots := [],
    clock := 0, events := .empty }

theorem btc_ready (height : Int) (h : height < 9223372036854775808) :
    ScanReady watched_btc btc_provider btc_asset btc_balance (btc_db height) where
  chain := rfl
  timeout := by decide
  asset := rfl
  selected := rfl
  address := ⟨watched_btc.address, by decide⟩
  balance := ⟨⟨"2000", "0.00002"⟩, by decide +kernel⟩
  cursor := by
    intro cursor hcursor
    have hstored : some (cursor_at watched_btc BTC_TRANSACTION_CURSOR height) = some cursor :=
      hcursor
    obtain rfl := Option.some.inj hstored
    exact h

end CoinListener.Worker
