import CoinListener.Worker.BtcScan
import CoinListener.Worker.Hosts
import CoinListener.Worker.TronIdentity

/-! A TRON or BTC scan writes nothing before all it asked for is read, and a cursor last. -/
namespace CoinListener.Worker
open Foundation Storage Providers

/-- What a scan has heard and whether it has written. -/
structure ScanLog where
  native_asset : Option Asset
  selected_assets : Option (List Asset)
  /-- the cursor read last -/
  cursor : Option (Option ScanCursor)
  trx_pages : List (AppResult (Tron.TronPage Tron.TrxTransferPayload))
  trc20_pages : List (AppResult (Tron.TronPage Tron.Trc20TransferPayload))
  btc_pages : List (AppResult (Except String (List Btc.BtcTransaction)))
  wrote : Bool
  /-- a write was refused, or not confirmed -/
  write_failed : Bool

namespace ScanLog

def empty : ScanLog :=
  { native_asset := none, selected_assets := none, cursor := none, trx_pages := [],
    trc20_pages := [], btc_pages := [], wrote := false, write_failed := false }

def write {α : Type} (log : ScanLog) (result : AppResult α) : ScanLog :=
  { log with wrote := true, write_failed := log.write_failed || !result.isOk }

theorem write_ok {α : Type} (log : ScanLog) (a : α) :
    log.write (.ok a) = { log with wrote := true } := by
  simp [write, Except.isOk, Except.toBool]

theorem write_error_failed {α : Type} (log : ScanLog) (e : AppError) :
    (log.write (.error e : AppResult α)).write_failed = true := by
  simp [write, Except.isOk, Except.toBool]

def hear (log : ScanLog) : (s : Statement) → AppResult s.Answer → ScanLog
  | .db (.native_asset_for_chain _), .ok asset => { log with native_asset := some asset }
  | .db (.selected_assets_for_address _), .ok assets => { log with selected_assets := some assets }
  | .db (.scan_cursor ..), .ok cursor => { log with cursor := some cursor }
  | .db (.insert_event_and_outbox_if_not_exists _), result => log.write result
  | .db (.upsert_scan_cursor _), result => log.write result
  | .remote (.tron_transactions ..), page => { log with trx_pages := log.trx_pages ++ [page] }
  | .remote (.tron_trc20_transfers ..), page =>
    { log with trc20_pages := log.trc20_pages ++ [page] }
  | .remote (.btc_transactions ..), page => { log with btc_pages := log.btc_pages ++ [page] }
  | _, _ => log

/-! ### The transfers of the pages -/

/-- One more native page: how many there are, and their transfers. -/
def trx_page (native_asset : Asset) (read : Nat × List Tron.DecodedTronTransfer)
    (page : AppResult (Tron.TronPage Tron.TrxTransferPayload)) :
    AppResult (Nat × List Tron.DecodedTronTransfer) := do
  let page ← page
  ensure_provider_page_limit "TRON account transactions" (read.1 + 1) page.next_fingerprint.isSome
  let transfers ← decode_trx_items native_asset read.1 0 page.data
  return (read.1 + 1, read.2 ++ transfers)

/-- The tokens to go on with, the pages read of the first of them, and all transfers. -/
structure TokensRead where
  assets : List Asset
  page_index : Nat
  transfers : List (Asset × Tron.DecodedTronTransfer)

/-- One more page of the first token; the last page ends the token. -/
def trc20_page (read : TokensRead)
    (page : AppResult (Tron.TronPage Tron.Trc20TransferPayload)) : AppResult TokensRead := do
  let page ← page
  match read.assets with
  | [] => return read
  | asset :: assets =>
    ensure_provider_page_limit "TRON TRC20 transfers" (read.page_index + 1)
      page.next_fingerprint.isSome
    let transfers ← decode_trc20_items asset (asset.contract_address.getD "") read.page_index 0
      page.data
    let transfers := read.transfers ++
      (transfers.filter (tron_transfer_should_scan asset)).map fun t => (asset, t)
    if page.next_fingerprint.isSome then return ⟨asset :: assets, read.page_index + 1, transfers⟩
    else return ⟨assets, 0, transfers⟩

/-- One more page of transactions; an empty one is the end. -/
def btc_page (address : String) (from_block : Int) (read : Nat × List Btc.DecodedBtcTransfer)
    (page : AppResult (Except String (List Btc.BtcTransaction))) :
    AppResult (Nat × List Btc.DecodedBtcTransfer) := do
  let body ← page
  let page ← Btc.decode_btc_transaction_page body
  let process ← should_process_btc_transaction_page read.1 page.transactions.length
  if !process then return read
  else do
    let transfers ← classify_btc_page address from_block page.transactions
    return (read.1 + 1, read.2 ++ transfers)

/-- The tokens a scan asks for. -/
def tokens (selected_assets : List Asset) : List Asset :=
  (selected_assets_by_type selected_assets "trc20").filter (·.contract_address.isSome)

/-- What was collected for a cursor from all pages so far, each with its cursor value, or why a page
fails. -/
inductive Collects (context : ScanAddressContext) (log : ScanLog) :
    String → AppResult (List (AddressEventDraft × Int)) → Prop where
  | trx {native_asset} (h : log.native_asset = some native_asset) :
    Collects context log TRON_TRX_TRANSFER_CURSOR
      ((log.trx_pages.foldlM (trx_page native_asset) (0, [])).map fun read => read.2.map fun t =>
        (Tron.tron_transfer_event_draft context native_asset t, t.cursor_value))
  | trc20 {selected_assets} (h : log.selected_assets = some selected_assets) :
    Collects context log TRON_TRC20_TRANSFER_CURSOR
      ((log.trc20_pages.foldlM trc20_page ⟨tokens selected_assets, 0, []⟩).map fun read =>
        read.transfers.map fun t =>
          (Tron.tron_transfer_event_draft context t.1 t.2, t.2.cursor_value))
  | btc {native_asset cursor} (h : log.native_asset = some native_asset)
      (hcursor : log.cursor = some cursor) :
    Collects context log BTC_TRANSACTION_CURSOR
      ((log.btc_pages.foldlM (btc_page context.address (btc_scan_from_block cursor)) (0, [])).map
        fun read => read.2.map fun t =>
          (Btc.btc_transfer_event_draft context native_asset t, t.block_number))

/-- No page failed. -/
def Readable (context : ScanAddressContext) (log : ScanLog) : Prop :=
  ∀ cursor_type collected, Collects context log cursor_type collected →
    ∃ items, collected = .ok items

/-- What is collected does not depend on what is written. -/
theorem Collects.written {context : ScanAddressContext} {log : ScanLog} {wrote write_failed : Bool}
    {cursor_type : String} {collected : AppResult (List (AddressEventDraft × Int))} :
    Collects context { log with wrote := wrote, write_failed := write_failed } cursor_type collected ↔
      Collects context log cursor_type collected := by
  constructor
  all_goals
    intro h
    cases h with
    | trx h => exact .trx h
    | trc20 h => exact .trc20 h
    | btc h hcursor => exact .btc h hcursor

theorem Readable.written {context : ScanAddressContext} {log : ScanLog} {wrote write_failed : Bool}
    (h : log.Readable context) :
    Readable context { log with wrote := wrote, write_failed := write_failed } :=
  fun cursor_type collected hcollected => h cursor_type collected (Collects.written.mp hcollected)

end ScanLog

/-- The database, and the scan at work on it. -/
structure RecordedScan where
  db : Db
  log : ScanLog

namespace RecordedScan

/-- Each statement may be carried out, refused or not confirmed; a provider answers anything. -/
inductive Step : RecordedScan → (s : Statement) → AppResult s.Answer → RecordedScan → Prop where
  | db {w q r db} (h : Query.Fate w.db q r db) : Step w (.db q) r ⟨db, w.log.hear (.db q) r⟩
  | remote {w c r} : Step w (.remote c) r ⟨w.db, w.log.hear (.remote c) r⟩

/-- Others change the database as they like, but no event goes away. -/
inductive Others : RecordedScan → RecordedScan → Prop where
  | change {w db} (h : ∀ key, w.db.events.HasEvent key → db.events.HasEvent key) :
    Others w { w with db := db }

/-- A scan for transfers from beginning to end. -/
inductive TransferScan where
  | tron
  | btc

def TransferScan.program (context : ScanAddressContext) (provider : Provider) :
    TransferScan → Scan (List AddressEvent)
  | .tron => scan_tron_address_with_provider context provider
  | .btc => scan_btc_address_with_provider context provider

/-- The native asset of a TRON chain is listed without a contract, as the migrations list it. -/
def TransferScan.Listed : TransferScan → ScanLog → Prop
  | .tron, log => ∀ native_asset, log.native_asset = some native_asset →
    native_asset.contract_address = none
  | .btc, _ => True

/-- The event of the draft is stored. -/
def DraftStored (tables : EventTables) (draft : AddressEventDraft) : Prop :=
  ∃ key, draft.unique_transfer = some key ∧ tables.HasEvent key

/-- The scan about to move a cursor: everything collected for it is stored, and the cursor becomes
the greatest value collected if the stored one is not above. -/
def Moves (context : ScanAddressContext) (w : RecordedScan) (cursor : ScanCursor) : Prop :=
  ∃ items, w.log.Collects context cursor.cursor_type (.ok items) ∧
    (∀ item ∈ items, DraftStored w.db.events item.1) ∧
      ∃ greatest, (items.map (·.2)).max? = some greatest ∧
        ((w.db.upsert_scan_cursor cursor).scan_cursor context.id cursor.cursor_type).map
            (·.last_scanned_block) =
          some (((w.db.scan_cursor context.id cursor.cursor_type).map (·.last_scanned_block)).elim
            greatest (max · greatest))

/-- In a state of a scan: a page that fails keeps it from writing, a failure other than that of a
write comes before all writes, and a cursor is moved last. -/
structure Ordered (context : ScanAddressContext) (w : RecordedScan)
    (p : Scan (List AddressEvent)) : Prop where
  readable : w.log.wrote = true → w.log.Readable context
  failed : ∀ e, p = .fail e → w.log.wrote = true → w.log.write_failed = true
  moves : ∀ cursor rest, p = .ask (.db (.upsert_scan_cursor cursor)) rest → Moves context w cursor

/-! ### One scan, step by step -/

def Later (w t : RecordedScan) : Prop :=
  t.log = w.log ∧ ∀ key, w.db.events.HasEvent key → t.db.events.HasEvent key

theorem later_refl (w : RecordedScan) : Later w w :=
  ⟨rfl, fun _ h => h⟩

theorem later_trans {a b c : RecordedScan} (hab : Later a b) (hbc : Later b c) : Later a c :=
  ⟨hbc.1.trans hab.1, fun key h => hbc.2 key (hab.2 key h)⟩

theorem later_of_others {w t : RecordedScan} (h : Others w t) : Later w t := by
  cases h with
  | change h => exact ⟨rfl, h⟩

/-- What holds in every state of a scan. -/
def WritesReadable (context : ScanAddressContext) (w : RecordedScan) : Prop :=
  w.log.wrote = true → w.log.Readable context

/-- A cursor moves only where it may. -/
def Allowed (kind : TransferScan) (context : ScanAddressContext) (w : RecordedScan)
    (s : Statement) : Prop :=
  ∀ cursor, s = .db (.upsert_scan_cursor cursor) → kind.Listed w.log → Moves context w cursor

section Order
variable {kind : TransferScan} {context : ScanAddressContext} {native_asset : Asset}
  {w t : RecordedScan} {log : ScanLog} {β : Type}

/-- Nothing is written, and the log is known. -/
def reading (context : ScanAddressContext) (log : ScanLog) :
    Prog.Assn Later (WritesReadable context) where
  holds := fun w => w.log = log ∧ log.wrote = false
  stable := fun h hl => ⟨hl.1.trans h.1, h.2⟩
  good := fun {w} h hwrote => by
    rw [h.1, h.2] at hwrote
    exact nomatch hwrote

/-- The scan failed: either nothing is written, or a write failed. -/
def stopped (context : ScanAddressContext) : Prog.Assn Later (WritesReadable context) where
  holds := fun w => WritesReadable context w ∧ (w.log.wrote = true → w.log.write_failed = true)
  stable := fun {w t} h hl => by
    rw [WritesReadable, hl.1]
    exact h
  good := fun h => h.1

theorem stopped_of_unwritten (h : w.log.wrote = false) : (stopped context).holds w := by
  constructor <;> intro hwrote <;> rw [h] at hwrote <;> exact nomatch hwrote

theorem reading_stopped (h : (reading context log).holds w) : (stopped context).holds w :=
  stopped_of_unwritten (h.1 ▸ h.2)

/-- A statement that writes nothing: the rest of the scan has heard its answer. -/
theorem bind_read {s : Statement} {f : s.Answer → Scan β}
    {Q : β → Prog.Assn Later (WritesReadable context)}
    (hmoves : ∀ cursor, s ≠ .db (.upsert_scan_cursor cursor))
    (hwrote : ∀ r, (log.hear s r).wrote = log.wrote)
    (h : ∀ a, Prog.Triple (Allowed kind context) Step (reading context (log.hear s (.ok a))) (f a) Q
      fun _ => stopped context) :
    Prog.Triple (Allowed kind context) Step (reading context log) ((Prog.perform s).bind f) Q
      fun _ => stopped context := by
  refine Prog.Triple.bind_perform (fun _ _ cursor hs => absurd hs (hmoves cursor)) ?_
  intro w hw r t ht
  have hlog : t.log = log.hear s r := by
    rw [← hw.1]
    cases ht <;> rfl
  have hunwritten : (log.hear s r).wrote = false := (hwrote r).trans hw.2
  cases r with
  | ok a => exact ⟨reading context (log.hear s (.ok a)), ⟨hlog, hunwritten⟩, h a⟩
  | error e => exact stopped_of_unwritten (hlog ▸ hunwritten)

theorem bind_check {α : Type} {x : AppResult α} {f : α → Scan β}
    {Q : β → Prog.Assn Later (WritesReadable context)}
    (h : ∀ a, x = .ok a → Prog.Triple (Allowed kind context) Step (reading context log) (f a) Q
      fun _ => stopped context) :
    Prog.Triple (Allowed kind context) Step (reading context log) ((Prog.lift x).bind f) Q
      fun _ => stopped context :=
  Prog.Triple.bind_lift h fun _ _ _ hw => reading_stopped hw

/-- The native pages are read on. -/
theorem trx_pages_triple {trx_from : Int} {native_asset : Asset}
    {f : List Tron.DecodedTronTransfer → Scan β}
    {Q : β → Prog.Assn Later (WritesReadable context)} (rounds n : Nat)
    (fingerprint : Option String) (collected : List Tron.DecodedTronTransfer)
    (hread : log.trx_pages.foldlM (ScanLog.trx_page native_asset) (0, []) = .ok (n, collected))
    (h : ∀ more n pages,
      pages.foldlM (ScanLog.trx_page native_asset) (0, []) = .ok (n, collected ++ more) →
      Prog.Triple (Allowed kind context) Step (reading context { log with trx_pages := pages }) (f more) Q
        fun _ => stopped context) :
    Prog.Triple (Allowed kind context) Step (reading context log)
      ((trx_pages context native_asset trx_from rounds n fingerprint).bind f) Q
      fun _ => stopped context := by
  induction rounds generalizing n fingerprint collected log f with
  | zero =>
    refine h [] n log.trx_pages ?_
    rw [List.append_nil]
    exact hread
  | succ rounds ih =>
    simp only [trx_pages, account_transactions_page, Prog.bind_eq, Prog.bind_assoc]
    refine bind_check fun address _ => bind_read nofun (fun _ => rfl) fun page => ?_
    refine bind_check fun _ hlimit => bind_check fun transfers htransfers => ?_
    have hpages : (log.trx_pages ++ [Except.ok page]).foldlM (ScanLog.trx_page native_asset)
        (0, []) = .ok (n + 1, collected ++ transfers) := by
      rw [List.foldlM_append, hread]
      simp [ScanLog.trx_page, hlimit, htransfers, bind, Except.bind, pure, Except.pure]
    cases page.next_fingerprint with
    | none => exact h transfers (n + 1) _ hpages
    | some next =>
      dsimp only
      rw [Prog.bind_assoc]
      refine ih (n + 1) (some next) (collected ++ transfers) hpages fun more n' pages hmore => ?_
      refine h (transfers ++ more) n' pages ?_
      rw [← List.append_assoc]
      exact hmore

/-- What was gathered, with the greatest of its cursor values. -/
def Gathered (collected : Collected) (transfers : List (Asset × Tron.DecodedTronTransfer)) : Prop :=
  collected.transfers = transfers ∧
    collected.cursor_value = (transfers.map (·.2.cursor_value)).max?

theorem max?_concat (values : List Int) (last : Int) : (values ++ [last]).max? =
    some (match values.max? with
      | some current => max current last
      | none => last) := by
  cases values with
  | nil => rfl
  | cons first values =>
    rw [List.cons_append, List.max?_cons', List.max?_cons', List.foldl_append]
    rfl

theorem Gathered.collect {asset : Asset} (ts : List Tron.DecodedTronTransfer) {collected : Collected}
    {transfers : List (Asset × Tron.DecodedTronTransfer)} (h : Gathered collected transfers) :
    Gathered (ts.foldl (collect_matching_tron_transfer asset) collected)
      (transfers ++ (ts.filter (tron_transfer_should_scan asset)).map fun t => (asset, t)) := by
  induction ts generalizing collected transfers with
  | nil => simpa using h
  | cons t ts ih =>
    by_cases hscan : tron_transfer_should_scan asset t = true
    · have hgathered : Gathered (collect_matching_tron_transfer asset collected t)
          (transfers ++ [(asset, t)]) := by
        rw [collect_matching_tron_transfer, if_pos hscan]
        refine ⟨by rw [h.1], ?_⟩
        rw [List.map_append, List.map_singleton, max?_concat]
        exact congrArg (fun cursor_value : Option Int => some (match cursor_value with
          | some current => max current t.cursor_value
          | none => t.cursor_value)) h.2
      have hrest := ih hgathered
      rw [List.append_assoc] at hrest
      rw [List.filter_cons_of_pos hscan]
      exact hrest
    · have hskip : collect_matching_tron_transfer asset collected t = collected := if_neg hscan
      rw [List.foldl_cons, hskip, List.filter_cons_of_neg hscan]
      exact ih h

/-- The pages of a token are read on, up to its last. -/
theorem trc20_pages_triple {trc20_from : Int} {selected_assets : List Asset} {asset : Asset}
    {contract_address : String} {assets : List Asset} {f : Collected → Scan β}
    {Q : β → Prog.Assn Later (WritesReadable context)}
    (hcontract : asset.contract_address = some contract_address) (rounds n : Nat)
    (hrounds : n + rounds = MAX_PROVIDER_PAGES_PER_SCAN) (hpos : 0 < rounds)
    (fingerprint : Option String) (collected : Collected)
    (transfers : List (Asset × Tron.DecodedTronTransfer)) (hgathered : Gathered collected transfers)
    (hread : log.trc20_pages.foldlM ScanLog.trc20_page ⟨ScanLog.tokens selected_assets, 0, []⟩ =
      .ok ⟨asset :: assets, n, transfers⟩)
    (h : ∀ collected transfers pages, Gathered collected transfers →
      pages.foldlM ScanLog.trc20_page ⟨ScanLog.tokens selected_assets, 0, []⟩ =
        .ok ⟨assets, 0, transfers⟩ →
      Prog.Triple (Allowed kind context) Step (reading context { log with trc20_pages := pages })
        (f collected) Q fun _ => stopped context) :
    Prog.Triple (Allowed kind context) Step (reading context log)
      ((trc20_pages context asset contract_address trc20_from rounds n fingerprint collected).bind f)
      Q fun _ => stopped context := by
  induction rounds generalizing n fingerprint collected transfers log with
  | zero => exact absurd hpos (Nat.lt_irrefl 0)
  | succ rounds ih =>
    simp only [trc20_pages, account_trc20_transfers_page, Prog.bind_eq, Prog.bind_assoc]
    refine bind_check fun address _ => bind_check fun contract _ => ?_
    refine bind_read nofun (fun _ => rfl) fun page => ?_
    refine bind_check fun _ hlimit => bind_check fun ts hts => ?_
    have hpages : (log.trc20_pages ++ [Except.ok page]).foldlM ScanLog.trc20_page
          ⟨ScanLog.tokens selected_assets, 0, []⟩ =
        .ok (if page.next_fingerprint.isSome then
          ⟨asset :: assets, n + 1,
            transfers ++ (ts.filter (tron_transfer_should_scan asset)).map fun t => (asset, t)⟩
        else ⟨assets, 0,
            transfers ++ (ts.filter (tron_transfer_should_scan asset)).map fun t => (asset, t)⟩) := by
      rw [List.foldlM_append, hread]
      simp only [List.foldlM_cons, List.foldlM_nil, ScanLog.trc20_page, hlimit, hcontract,
        Option.getD_some, hts, bind, Except.bind, pure, Except.pure]
      cases page.next_fingerprint.isSome <;> rfl
    have hgather : Gathered (ts.foldl (collect_matching_tron_transfer asset) collected) _ :=
      hgathered.collect ts
    cases hnext : page.next_fingerprint with
    | none =>
      rw [hnext] at hpages
      exact h _ _ _ hgather hpages
    | some next =>
      rw [hnext] at hpages hlimit
      have hmore := ensure_page_ok hlimit rfl
      exact ih (n + 1) (by omega) (by omega) (some next) _ _ hgather hpages h

/-- One token after the other. -/
theorem trc20_assets_pages_triple {trc20_from : Int} {f : Collected → Scan β}
    {Q : β → Prog.Assn Later (WritesReadable context)}
    (selected_assets assets : List Asset) (collected : Collected)
    (transfers : List (Asset × Tron.DecodedTronTransfer)) (hgathered : Gathered collected transfers)
    (hread : log.trc20_pages.foldlM ScanLog.trc20_page ⟨ScanLog.tokens selected_assets, 0, []⟩ =
      .ok ⟨assets.filter (·.contract_address.isSome), 0, transfers⟩)
    (h : ∀ collected transfers pages, Gathered collected transfers →
      pages.foldlM ScanLog.trc20_page ⟨ScanLog.tokens selected_assets, 0, []⟩ =
        .ok ⟨[], 0, transfers⟩ →
      Prog.Triple (Allowed kind context) Step (reading context { log with trc20_pages := pages })
        (f collected) Q fun _ => stopped context) :
    Prog.Triple (Allowed kind context) Step (reading context log)
      ((trc20_assets_pages context trc20_from assets collected).bind f) Q
      fun _ => stopped context := by
  induction assets generalizing collected transfers log with
  | nil => exact h collected transfers log.trc20_pages hgathered hread
  | cons asset assets ih =>
    unfold trc20_assets_pages
    cases hcontract : asset.contract_address with
    | none =>
      rw [List.filter_cons_of_neg (by simp [hcontract])] at hread
      exact ih collected transfers hgathered hread h
    | some contract_address =>
      rw [List.filter_cons_of_pos (by simp [hcontract])] at hread
      simp only [Prog.bind_eq, Prog.bind_assoc]
      refine trc20_pages_triple hcontract _ 0 rfl (by decide) none collected transfers hgathered
        hread fun collected transfers pages hgathered hpages => ?_
      exact ih collected transfers hgathered hpages h

/-- The pages of transactions are read on, up to an empty one or the last. -/
theorem btc_pages_triple {from_block : Int} {f : List Btc.DecodedBtcTransfer → Scan β}
    {Q : β → Prog.Assn Later (WritesReadable context)} (rounds n : Nat)
    (last_seen_txid : Option String) (collected : List Btc.DecodedBtcTransfer)
    (hread : log.btc_pages.foldlM (ScanLog.btc_page context.address from_block) (0, []) =
      .ok (n, collected))
    (h : ∀ more n pages,
      pages.foldlM (ScanLog.btc_page context.address from_block) (0, []) =
        .ok (n, collected ++ more) →
      Prog.Triple (Allowed kind context) Step (reading context { log with btc_pages := pages })
        (f more) Q fun _ => stopped context) :
    Prog.Triple (Allowed kind context) Step (reading context log)
      ((btc_pages context.address from_block rounds n last_seen_txid).bind f) Q
      fun _ => stopped context := by
  induction rounds generalizing n last_seen_txid collected log f with
  | zero =>
    refine h [] n log.btc_pages ?_
    rw [List.append_nil]
    exact hread
  | succ rounds ih =>
    simp only [btc_pages, address_transactions_page, Prog.bind_eq, Prog.bind_assoc]
    refine bind_check fun address _ => bind_check fun _ _ => ?_
    refine bind_read nofun (fun _ => rfl) fun body => bind_check fun page hpage => ?_
    refine bind_check fun process hprocess => ?_
    cases process with
    | false =>
      refine h [] n (log.btc_pages ++ [Except.ok body]) ?_
      rw [List.foldlM_append, hread, List.append_nil]
      simp [ScanLog.btc_page, hpage, hprocess, bind, Except.bind, pure, Except.pure]
    | true =>
      simp only [Bool.not_true, Bool.false_eq_true, if_false, Prog.bind_assoc]
      refine bind_check fun transfers htransfers => ?_
      have hpages : (log.btc_pages ++ [Except.ok body]).foldlM
          (ScanLog.btc_page context.address from_block) (0, []) =
            .ok (n + 1, collected ++ transfers) := by
        rw [List.foldlM_append, hread]
        simp [ScanLog.btc_page, hpage, hprocess, htransfers, bind, Except.bind, pure, Except.pure]
      cases page.next_last_seen_txid with
      | none => exact h transfers (n + 1) _ hpages
      | some next =>
        dsimp only
        rw [Prog.bind_assoc]
        refine ih (n + 1) (some next) (collected ++ transfers) hpages fun more n' pages hmore => ?_
        refine h (transfers ++ more) n' pages ?_
        rw [← List.append_assoc]
        exact hmore

/-! ### The writes -/

/-- Everything is read, and some of the drafts are stored. -/
def storing (context : ScanAddressContext) (log : ScanLog) (stored : List AddressEventDraft) :
    Prog.Assn Later (WritesReadable context) where
  holds := fun w => (∃ wrote, w.log = { log with wrote := wrote }) ∧ log.write_failed = false ∧
    log.Readable context ∧ ∀ draft ∈ stored, DraftStored w.db.events draft
  stable := fun ⟨⟨wrote, hlog⟩, hfailed, hreadable, hstored⟩ hl =>
    ⟨⟨wrote, hl.1.trans hlog⟩, hfailed, hreadable, fun draft hdraft => by
      obtain ⟨key, hkey, hevent⟩ := hstored draft hdraft
      exact ⟨key, hkey, hl.2 key hevent⟩⟩
  good := fun {w} ⟨⟨wrote, hlog⟩, _, hreadable, _⟩ _ => by
    rw [hlog]
    exact hreadable.written

theorem insert_event_triple {stored : List AddressEventDraft} {draft : AddressEventDraft}
    (htransfer : draft.unique_transfer.isSome) :
    Prog.Triple (Allowed kind context) Step (storing context log stored) (insert_event draft)
      (fun _ => storing context log (stored ++ [draft])) fun _ => stopped context := by
  refine Prog.Triple.bind_perform (fun _ _ cursor hs => nomatch hs) fun w hw r t ht => ?_
  obtain ⟨⟨wrote, hlog⟩, hfailed, hreadable, hstored⟩ := hw
  cases ht with
  | @db _ _ db hfate =>
    rw [hlog]
    cases r with
    | error e => exact ⟨fun _ => hreadable.written, fun _ => ScanLog.write_error_failed _ e⟩
    | ok event =>
      have hdb : db = (w.db.insert_event_and_outbox_if_not_exists draft).2 := by
        cases hfate
        rfl
      refine ⟨storing context log (stored ++ [draft]), ⟨⟨true, ?_⟩, hfailed, hreadable, ?_⟩,
        Prog.Triple.done fun _ h => h⟩
      · exact ScanLog.write_ok _ event
      · intro other hother
        rw [hdb]
        rcases List.mem_append.mp hother with hold | hnew
        · obtain ⟨key, hkey, hevent⟩ := hstored other hold
          exact ⟨key, hkey, hevent.insert⟩
        · obtain rfl := List.mem_singleton.mp hnew
          obtain ⟨key, hkey⟩ := Option.isSome_iff_exists.mp htransfer
          exact ⟨key, hkey, EventTables.insert_hasEvent hkey⟩

/-- All items are stored, one after the other. -/
theorem insert_all_triple {α : Type} {draft : α → AddressEventDraft}
    {stored : List AddressEventDraft} (htransfer : ∀ a, (draft a).unique_transfer.isSome)
    (items : List α) :
    Prog.Triple (Allowed kind context) Step (storing context log stored)
      (Prog.forEach (fun a => insert_event (draft a)) items)
      (fun _ => storing context log (stored ++ items.map draft)) fun _ => stopped context := by
  have hone : ∀ (done : List α) a, Prog.Triple (Allowed kind context) Step
      (storing context log (stored ++ done.map draft)) (insert_event (draft a))
      (fun _ => storing context log (stored ++ (done ++ [a]).map draft))
      fun _ => stopped context := by
    intro done a
    rw [List.map_append, ← List.append_assoc]
    exact insert_event_triple (htransfer a)
  have hall := Prog.Triple.forEach (J := fun done => storing context log (stored ++ done.map draft))
    later_refl [] items fun pre a _ _ => hone ([] ++ pre) a
  rw [List.map_nil, List.append_nil] at hall
  exact hall

/-- The cursor is moved where everything collected for it is stored. -/
theorem write_cursor_triple {stored : List AddressEventDraft} {cursor_type : String}
    {items : List (AddressEventDraft × Int)} {value : Option Int}
    (hcollects : log.Collects context cursor_type (.ok items))
    (hvalue : value = (items.map (·.2)).max?)
    (hstored : kind.Listed log → ∀ item ∈ items, item.1 ∈ stored) :
    Prog.Triple (Allowed kind context) Step (storing context log stored)
      (write_cursor context cursor_type value) (fun _ => storing context log stored)
      fun _ => stopped context := by
  cases value with
  | none => exact Prog.Triple.done fun _ h => h
  | some value =>
    refine Prog.Triple.perform (fun w hw cursor hcursor hlisted => ?_) fun w hw r t ht => ?_
    · obtain ⟨⟨wrote, hlog⟩, _, _, hevents⟩ := hw
      obtain rfl := Query.upsert_scan_cursor.inj (Statement.db.inj hcursor)
      have hlisted' : kind.Listed log := by
        rw [hlog] at hlisted
        cases kind <;> exact hlisted
      obtain ⟨c, hc, hlast⟩ := w.db.scan_cursor_upsert (cursor_at context cursor_type value)
      refine ⟨items, hlog ▸ ScanLog.Collects.written.mpr hcollects, fun item hitem => ?_, value,
        hvalue.symm, ?_⟩
      · exact hevents _ (hstored hlisted' item hitem)
      · have hc' : (w.db.upsert_scan_cursor (cursor_at context cursor_type value)).scan_cursor
            context.id cursor_type = some c := hc
        change Option.map _ (Db.scan_cursor _ context.id cursor_type) =
          some ((Option.map _ (w.db.scan_cursor context.id cursor_type)).elim _ _)
        rw [hc', Option.map_some, hlast]
        have hbefore : w.db.scan_cursor (cursor_at context cursor_type value).address_id
            (cursor_at context cursor_type value).cursor_type =
            w.db.scan_cursor context.id cursor_type := rfl
        rw [hbefore]
        cases w.db.scan_cursor context.id cursor_type <;> rfl
    · obtain ⟨⟨wrote, hlog⟩, hfailed, hreadable, hevents⟩ := hw
      cases ht with
      | db hfate =>
        rw [hlog]
        cases r with
        | error e => exact ⟨fun _ => hreadable.written, fun _ => ScanLog.write_error_failed _ e⟩
        | ok u =>
          refine ⟨⟨true, ?_⟩, hfailed, hreadable, fun draft hdraft => ?_⟩
          · exact ScanLog.write_ok _ u
          · cases hfate
            exact hevents draft hdraft

/-! ### Whole scans -/

/-- The native asset of a chain is found by its type. -/
theorem bind_native {chain_id : Uuid} {f : Asset → Scan β}
    {Q : β → Prog.Assn Later (WritesReadable context)} (hwrote : log.wrote = false)
    (h : ∀ native_asset, native_asset.asset_type = "native" →
      Prog.Triple (Allowed kind context) Step
        (reading context { log with native_asset := some native_asset }) (f native_asset) Q
        fun _ => stopped context) :
    Prog.Triple (Allowed kind context) Step (reading context log)
      ((query (.native_asset_for_chain chain_id)).bind f) Q fun _ => stopped context := by
  refine Prog.Triple.bind_perform (fun _ _ cursor hs => by cases hs) fun w hw r t ht => ?_
  cases ht with
  | db hfate =>
    cases r with
    | error e => exact stopped_of_unwritten ((congrArg ScanLog.wrote hw.1).trans hwrote)
    | ok native_asset =>
      refine ⟨reading context { log with native_asset := some native_asset }, ⟨?_, hwrote⟩,
        h native_asset ?_⟩
      · rw [hw.1]
        rfl
      · have hfound : w.db.native_asset_for_chain chain_id = .ok native_asset := by
          generalize hr : (Except.ok native_asset : AppResult Asset) = r at hfate
          cases hfate with
          | answered => rfl
          | refused => cases hr
          | unacknowledged => cases hr
        unfold Db.native_asset_for_chain at hfound
        split at hfound
        · rename_i asset hfind
          obtain rfl := Except.ok.inj hfound
          have hmatch := List.find?_some hfind
          simp only [Bool.and_eq_true, beq_iff_eq] at hmatch
          exact hmatch.2
        · cases hfound

/-- Native transfers carry no contract. -/
theorem trx_read_without_contract
    {pages : List (AppResult (Tron.TronPage Tron.TrxTransferPayload))} {n m : Nat}
    {before after : List Tron.DecodedTronTransfer}
    (h : pages.foldlM (ScanLog.trx_page native_asset) (n, before) = .ok (m, after))
    (hbefore : ∀ t ∈ before, t.token_contract = none) : ∀ t ∈ after, t.token_contract = none := by
  have hitems : ∀ (items : List (Tron.Item Tron.TrxTransferPayload)) (page_index index : Nat)
      (ts : List Tron.DecodedTronTransfer),
      decode_trx_items native_asset page_index index items = .ok ts →
        ∀ t ∈ ts, t.token_contract = none := by
    intro items page_index index ts hts t ht
    obtain ⟨item, _, log_index, hdecoded⟩ := mem_decode_trx_items hts t ht
    obtain ⟨_, _, _, _, _, _, _, _, _, _, _, _, _, _, _, _, hnone, _⟩ := Tron.try_decode_trx_ok hdecoded
    exact hnone
  induction pages generalizing n before with
  | nil =>
    obtain ⟨rfl, rfl⟩ := Prod.mk.inj (Except.ok.inj h)
    exact hbefore
  | cons page pages ih =>
    rw [List.foldlM_cons] at h
    obtain ⟨⟨n', between⟩, hpage, h⟩ := bind_ok h
    refine ih h fun t ht => ?_
    obtain ⟨body, _, hpage⟩ := bind_ok hpage
    obtain ⟨_, _, hpage⟩ := bind_ok hpage
    obtain ⟨ts, hts, hpage⟩ := bind_ok hpage
    obtain ⟨rfl, rfl⟩ := Prod.mk.inj (Except.ok.inj hpage)
    rcases List.mem_append.mp ht with ht | ht
    · exact hbefore t ht
    · exact hitems _ _ _ _ hts t ht

theorem filter_native {transfers : List Tron.DecodedTronTransfer}
    (htype : native_asset.asset_type = "native") (hlisted : native_asset.contract_address = none)
    (hnone : ∀ t ∈ transfers, t.token_contract = none) :
    transfers.filter (tron_transfer_should_scan native_asset) = transfers := by
  refine List.filter_eq_self.mpr fun t ht => ?_
  simp [tron_transfer_should_scan, hlisted, hnone t ht, htype]

theorem done_reading {p : Scan β} {Q : β → Prog.Assn Later (WritesReadable context)}
    (hfailed : log.write_failed = false) (hreadable : log.Readable context)
    (h : Prog.Triple (Allowed kind context) Step (storing context log []) p Q
      fun _ => stopped context) :
    Prog.Triple (Allowed kind context) Step (reading context log) p Q fun _ => stopped context := by
  refine h.consequence (fun w hw => ⟨⟨log.wrote, hw.1⟩, hfailed, hreadable, ?_⟩) (fun _ _ h => h)
    fun _ _ h => h
  intro draft hdraft
  exact absurd hdraft List.not_mem_nil

/-- A finished scan. -/
def finished (context : ScanAddressContext) : Prog.Assn Later (WritesReadable context) where
  holds := fun w => WritesReadable context w
  stable := fun {w t} h hl hwrote => by
    rw [hl.1] at hwrote ⊢
    exact h hwrote
  good := fun h => h

/-- The native pages are only asked for where the native asset is selected. -/
theorem selected_trx_pages_triple {trx_from : Int} {f : List Tron.DecodedTronTransfer → Scan β}
    {Q : β → Prog.Assn Later (WritesReadable context)} {selected : Bool} {rounds : Nat}
    (hlog : log.trx_pages = [])
    (h : ∀ transfers n pages,
      pages.foldlM (ScanLog.trx_page native_asset) (0, []) = .ok (n, transfers) →
      Prog.Triple (Allowed kind context) Step (reading context { log with trx_pages := pages })
        (f transfers) Q fun _ => stopped context) :
    Prog.Triple (Allowed kind context) Step (reading context log)
      ((if selected then trx_pages context native_asset trx_from rounds 0 none else .done []).bind f)
      Q fun _ => stopped context := by
  have hread : log.trx_pages.foldlM (ScanLog.trx_page native_asset) (0, []) = .ok (0, []) := by
    rw [hlog]
    rfl
  cases selected with
  | true => exact trx_pages_triple rounds 0 none [] hread h
  | false => exact h [] 0 log.trx_pages hread

/-- All pages are read: the events, then the cursors. -/
theorem tron_writes_triple {selected_assets : List Asset} {n : Nat}
    {trx_transfers : List Tron.DecodedTronTransfer} {trc20 : Collected}
    {transfers : List (Asset × Tron.DecodedTronTransfer)}
    (htype : native_asset.asset_type = "native") (hnative : log.native_asset = some native_asset)
    (hselected : log.selected_assets = some selected_assets) (hbtc : log.btc_pages = [])
    (hfailed : log.write_failed = false)
    (htrx : log.trx_pages.foldlM (ScanLog.trx_page native_asset) (0, []) = .ok (n, trx_transfers))
    (htrc20 : log.trc20_pages.foldlM ScanLog.trc20_page ⟨ScanLog.tokens selected_assets, 0, []⟩ =
      .ok ⟨[], 0, transfers⟩)
    (hgathered : Gathered trc20 transfers) :
    Prog.Triple (Allowed .tron context) Step (reading context log)
      ((Prog.forEach (insert_tron_transfer context native_asset)
          (trx_transfers.filter (tron_transfer_should_scan native_asset))).bind fun trx_events =>
        (Prog.forEach (fun t => insert_tron_transfer context t.1 t.2) trc20.transfers).bind
          fun trc20_events =>
        (write_cursor context TRON_TRX_TRANSFER_CURSOR (tron_cursor_value trx_transfers)).bind
          fun _ =>
        (write_cursor context TRON_TRC20_TRANSFER_CURSOR trc20.cursor_value).bind fun _ =>
          .done (trx_events ++ trc20_events))
      (fun _ => finished context) fun _ => stopped context := by
  have htrx_collected : log.Collects context _ _ := .trx hnative
  have htrc20_collected : log.Collects context _ _ := .trc20 hselected
  rw [htrx] at htrx_collected
  rw [htrc20] at htrc20_collected
  obtain ⟨rfl, hvalue⟩ := hgathered
  refine done_reading hfailed ?_ ?_
  · intro cursor_type collected hcollected
    cases hcollected with
    | trx h =>
      obtain rfl := Option.some.inj (hnative.symm.trans h)
      rw [htrx]
      exact ⟨_, rfl⟩
    | trc20 h =>
      obtain rfl := Option.some.inj (hselected.symm.trans h)
      rw [htrc20]
      exact ⟨_, rfl⟩
    | btc h hcursor =>
      rw [hbtc]
      exact ⟨_, rfl⟩
  · refine Prog.Triple.bind later_refl (insert_all_triple (fun _ => rfl) _) fun trx_events => ?_
    refine Prog.Triple.bind later_refl (insert_all_triple (fun _ => rfl) _) fun trc20_events => ?_
    refine Prog.Triple.bind later_refl (write_cursor_triple htrx_collected ?_ ?_) fun _ => ?_
    · rw [List.map_map]
      rfl
    · intro hlisted item hitem
      obtain ⟨t, ht, rfl⟩ := List.mem_map.mp hitem
      refine List.mem_append_left _ (List.mem_append_right _ (List.mem_map.mpr ⟨t, ?_, rfl⟩))
      rw [filter_native htype (hlisted native_asset hnative)
        (trx_read_without_contract htrx fun _ h => absurd h List.not_mem_nil)]
      exact ht
    refine Prog.Triple.bind later_refl (write_cursor_triple htrc20_collected ?_ ?_) fun _ => ?_
    · rw [List.map_map]
      exact hvalue
    · intro _ item hitem
      obtain ⟨t, ht, rfl⟩ := List.mem_map.mp hitem
      exact List.mem_append_right _ (List.mem_map.mpr ⟨t, ht, rfl⟩)
    exact Prog.Triple.done fun w hw => Prog.Assn.good _ hw

theorem btc_writes_triple {cursor : Option ScanCursor} {n : Nat}
    {transfers : List Btc.DecodedBtcTransfer} (hnative : log.native_asset = some native_asset)
    (hcursor : log.cursor = some cursor)
    (htrx : log.trx_pages = []) (htrc20 : log.trc20_pages = []) (hfailed : log.write_failed = false)
    (hbtc : log.btc_pages.foldlM (ScanLog.btc_page context.address (btc_scan_from_block cursor))
      (0, []) = .ok (n, transfers)) :
    Prog.Triple (Allowed .btc context) Step (reading context log)
      ((Prog.forEach (insert_btc_transfer context native_asset) transfers).bind fun events =>
        (write_cursor context BTC_TRANSACTION_CURSOR (btc_cursor_value transfers)).bind fun _ =>
          .done events)
      (fun _ => finished context) fun _ => stopped context := by
  have hcollected : log.Collects context _ _ := .btc hnative hcursor
  rw [hbtc] at hcollected
  refine done_reading hfailed ?_ ?_
  · intro cursor_type collected hcollected
    cases hcollected with
    | trx h =>
      rw [htrx]
      exact ⟨_, rfl⟩
    | trc20 h =>
      rw [htrc20]
      exact ⟨_, rfl⟩
    | btc h hother =>
      obtain rfl := Option.some.inj (hcursor.symm.trans hother)
      rw [hbtc]
      exact ⟨_, rfl⟩
  · refine Prog.Triple.bind later_refl (insert_all_triple (fun _ => rfl) _) fun events => ?_
    refine Prog.Triple.bind later_refl (write_cursor_triple hcollected ?_ ?_) fun _ => ?_
    · rw [List.map_map]
      rfl
    · intro _ item hitem
      obtain ⟨t, ht, rfl⟩ := List.mem_map.mp hitem
      exact List.mem_append_right _ (List.mem_map.mpr ⟨t, ht, rfl⟩)
    exact Prog.Triple.done fun w hw => Prog.Assn.good _ hw

theorem tron_scan_triple (provider : Provider) :
    Prog.Triple (Allowed .tron context) Step (reading context ScanLog.empty)
      (scan_tron_address_with_provider context provider) (fun _ => finished context)
      fun _ => stopped context := by
  simp only [scan_tron_address_with_provider, Prog.bind_eq, Prog.pure_eq]
  refine bind_check fun _ _ => bind_native rfl fun native_asset htype => ?_
  refine bind_read nofun (by intro r; cases r <;> rfl) fun selected_assets => ?_
  refine bind_check fun _ _ => bind_read nofun (by intro r; cases r <;> rfl) fun trx_cursor => ?_
  refine selected_trx_pages_triple rfl fun trx_transfers n trx_read htrx => ?_
  refine bind_read nofun (by intro r; cases r <;> rfl) fun trc20_cursor => ?_
  refine trc20_assets_pages_triple selected_assets _ ⟨none, []⟩ [] ⟨rfl, rfl⟩ rfl
    fun trc20 transfers trc20_read hgathered htrc20 => ?_
  exact tron_writes_triple htype rfl rfl rfl rfl htrx htrc20 hgathered

theorem btc_scan_triple (provider : Provider) :
    Prog.Triple (Allowed .btc context) Step (reading context ScanLog.empty)
      (scan_btc_address_with_provider context provider) (fun _ => finished context)
      fun _ => stopped context := by
  simp only [scan_btc_address_with_provider, Prog.bind_eq, Prog.pure_eq]
  refine bind_check fun _ _ => bind_native rfl fun native_asset htype => ?_
  refine bind_read nofun (by intro r; cases r <;> rfl) fun selected_assets => ?_
  split
  · exact Prog.Triple.done fun w hw => Prog.Assn.good _ hw
  refine bind_check fun _ _ => ?_
  simp only [address_balance, Prog.bind_eq, Prog.bind_assoc]
  refine bind_check fun _ _ => bind_read nofun (fun _ => rfl) fun body => bind_check fun balance _ => ?_
  refine bind_read nofun (fun _ => rfl) fun snapshot => ?_
  refine bind_read nofun (by intro r; cases r <;> rfl) fun cursor => ?_
  refine btc_pages_triple _ 0 none [] rfl fun transfers n pages hpages => ?_
  exact btc_writes_triple rfl rfl rfl rfl rfl hpages

/-- A whole scan. -/
theorem scan_triple (kind : TransferScan) (provider : Provider) :
    Prog.Triple (Allowed kind context) Step (reading context ScanLog.empty)
      (kind.program context provider) (fun _ => finished context) fun _ => stopped context := by
  cases kind with
  | tron => exact tron_scan_triple provider
  | btc => exact btc_scan_triple provider

end Order

end RecordedScan

namespace RecordedScan

/-- A provider with one native payment, and a database where everything succeeds. -/
def one_payment_step (w : RecordedScan) : (s : Statement) → AppResult s.Answer × RecordedScan
  | .db q => ((q.run w.db).1, ⟨(q.run w.db).2, w.log.hear (.db q) (q.run w.db).1⟩)
  | .remote (.tron_transactions address min_timestamp fingerprint) =>
    (.ok ⟨[trx_payment 'a' 1000], none⟩, ⟨w.db, w.log.hear
      (.remote (.tron_transactions address min_timestamp fingerprint))
      (.ok ⟨[trx_payment 'a' 1000], none⟩)⟩)
  | .remote c =>
    (.error (.Config "no answer"), ⟨w.db, w.log.hear (.remote c) (.error (.Config "no answer"))⟩)

theorem one_payment_step_runs (w : RecordedScan) (s : Statement) :
    Step w s (one_payment_step w s).1 (one_payment_step w s).2 := by
  cases s with
  | db q => exact .db .answered
  | remote c => cases c <;> exact .remote

/-- The scan after some statements, with the native asset as listed. -/
def paid_scan (native_asset : Asset) (statements : Nat) :
    Scan (List AddressEvent) × RecordedScan :=
  Prog.advance one_payment_step statements (TransferScan.tron.program watched_tron tron_provider)
    ⟨{ scripted_start.db with assets := [native_asset] }, ScanLog.empty⟩

theorem paid_scan_runs (native_asset : Asset) (statements : Nat) :
    Relation.ReflTransGen (Prog.Turn Step RecordedScan.Others fun _ _ _ => False)
      (⟨{ scripted_start.db with assets := [native_asset] }, ScanLog.empty⟩,
        TransferScan.tron.program watched_tron tron_provider)
      ((paid_scan native_asset statements).2, (paid_scan native_asset statements).1) :=
  Prog.Turn.of_advance one_payment_step_runs ..

/-- The cursor about to be written. -/
def cursor_next : Scan (List AddressEvent) → Option ScanCursor
  | .ask (.db (.upsert_scan_cursor cursor)) _ => some cursor
  | _ => none

theorem cursor_next_some {p : Scan (List AddressEvent)} {cursor : ScanCursor}
    (h : cursor_next p = some cursor) :
    ∃ rest, p = .ask (.db (.upsert_scan_cursor cursor)) rest := by
  unfold cursor_next at h
  split at h
  · obtain rfl := Option.some.inj h
    exact ⟨_, rfl⟩
  · exact nomatch h

end RecordedScan

def trx_asset_with_contract : Asset :=
  { trx_asset with contract_address := some "TCCCCCCCCCCCCCCCCCCCCCCCCCCCCCCCCC" }

end CoinListener.Worker
