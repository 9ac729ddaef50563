import CoinListener.Worker.BtcHistory
import CoinListener.Worker.Hosts

/-! The BTC cursor over a history that grows: every transfer up to it has its event.

Blocks arrive between the requests of a scan. They come before everything read so far, so the pages
that follow are those of the history at the first request. -/
namespace CoinListener.Worker
open Foundation Storage Providers

/-- The database, and the confirmed transactions of the address, the newest first. -/
structure BtcWorld where
  db : Db
  history : List Btc.BtcTransaction

namespace BtcWorld

def height (tx : Btc.BtcTransaction) : Int :=
  tx.status.block_height.getD 0

/-- The transactions that come after one, or all. -/
def following (history : List Btc.BtcTransaction) : Option String → List Btc.BtcTransaction
  | none => history
  | some txid => (history.dropWhile (·.txid != txid)).tail

/-- A page starts right after the transaction, and is empty only at the end. -/
def PageOf (history : List Btc.BtcTransaction) (last_seen_txid : Option String)
    (page : List Btc.BtcTransaction) : Prop :=
  ∃ rest, following history last_seen_txid = page ++ rest ∧ (page = [] → rest = [])

/-- The statements of a scan. Each of them may fail, and a page may be unreadable. -/
inductive Step : BtcWorld → (s : Statement) → AppResult s.Answer → BtcWorld → Prop where
  | db {w q r db} (h : Query.Fate w.db q r db) : Step w (.db q) r { w with db := db }
  | page {w address last_seen_txid page} (h : PageOf w.history last_seen_txid page) :
    Step w (.remote (.btc_transactions address last_seen_txid)) (.ok (.ok page)) w
  | unreadable {w address last_seen_txid error} :
    Step w (.remote (.btc_transactions address last_seen_txid)) (.ok (.error error)) w
  | failed {w c e} : Step w (.remote c) (.error e) w
  | other {w c a} (h : ∀ address last_seen_txid, c ≠ .btc_transactions address last_seen_txid) :
    Step w (.remote c) (.ok a) w

/-- New transactions are confirmed, above all there are. -/
inductive Grows : BtcWorld → BtcWorld → Prop where
  | block {w} (new : List Btc.BtcTransaction)
      (hnew : ∀ a ∈ new, ∀ b ∈ w.history, height b < height a)
      (hdistinct : ((new ++ w.history).map (·.txid)).Nodup) :
    Grows w { w with history := new ++ w.history }

/-- A scan of the address starts, with any provider. -/
inductive Launches (context : ScanAddressContext) :
    BtcWorld → Scan (List AddressEvent) → BtcWorld → Prop where
  | scan {w} (provider : Provider) :
    Launches context w (scan_btc_address_with_provider context provider) w

/-- Any number of blocks. -/
def Later (w t : BtcWorld) : Prop :=
  t.db = w.db ∧ ∃ new, t.history = new ++ w.history ∧
    (∀ a ∈ new, ∀ b ∈ w.history, height b < height a) ∧
    ((w.history.map (·.txid)).Nodup → (t.history.map (·.txid)).Nodup)

theorem later_refl (w : BtcWorld) : Later w w :=
  ⟨rfl, [], rfl, by simp, id⟩

theorem later_trans {a b c : BtcWorld} (hab : Later a b) (hbc : Later b c) : Later a c := by
  obtain ⟨hdb, new, hnew, habove, hnodup⟩ := hab
  obtain ⟨hdb', new', hnew', habove', hnodup'⟩ := hbc
  refine ⟨hdb'.trans hdb, new' ++ new, by rw [hnew', hnew, List.append_assoc], ?_, hnodup' ∘ hnodup⟩
  intro x hx y hy
  rcases List.mem_append.mp hx with hx | hx
  · refine habove' x hx y ?_
    rw [hnew]
    exact List.mem_append_right _ hy
  · exact habove x hx y hy

theorem later_of_grows {w t : BtcWorld} (h : Grows w t) : Later w t := by
  cases h with
  | block new hnew hdistinct => exact ⟨rfl, new, rfl, hnew, fun _ => hdistinct⟩

/-! ### What the cursor promises -/

/-- The transaction is a transfer of the address. -/
def Transfers (context : ScanAddressContext) (tx : Btc.BtcTransaction)
    (transfer : Btc.DecodedBtcTransfer) : Prop :=
  Btc.classify_btc_transaction tx context.address = .ok (some transfer)

def Stored (context : ScanAddressContext) (native_asset : Asset) (tables : EventTables)
    (transfer : Btc.DecodedBtcTransfer) : Prop :=
  ∃ key, (Btc.btc_transfer_event_draft context native_asset transfer).unique_transfer = some key ∧
    tables.HasEvent key

/-- Every transfer up to the cursor has its event. -/
def Covered (context : ScanAddressContext) (native_asset : Asset) (w : BtcWorld) : Prop :=
  ∀ cursor, w.db.scan_cursor context.id BTC_TRANSACTION_CURSOR = some cursor →
    ∀ tx ∈ w.history, ∀ transfer, Transfers context tx transfer →
      transfer.block_number ≤ cursor.last_scanned_block →
        Stored context native_asset w.db.events transfer

structure Inv (context : ScanAddressContext) (native_asset : Asset) (w : BtcWorld) : Prop where
  native : w.db.native_asset_for_chain context.chain_id = .ok native_asset
  distinct : (w.history.map (·.txid)).Nodup
  outboxed : w.db.events.Outboxed
  covered : Covered context native_asset w
  bounded : ∀ cursor, w.db.scan_cursor context.id BTC_TRANSACTION_CURSOR = some cursor →
    ∃ tx ∈ w.history, cursor.last_scanned_block ≤ height tx

/-- The scan has read `seen`, whose last transaction it goes on after; what came since lies above.
The transfers among them are those collected. -/
structure Read (context : ScanAddressContext) (from_block : Int)
    (seen rest : List Btc.BtcTransaction) (collected : List Btc.DecodedBtcTransfer)
    (w : BtcWorld) : Prop where
  history : ∃ newer, w.history = newer ++ (seen ++ rest) ∧
    ∀ a ∈ newer, ∀ b ∈ seen ++ rest, height b < height a
  collected : new_transfers context.address from_block seen = collected
  from_some : ∀ cursor, w.db.scan_cursor context.id BTC_TRANSACTION_CURSOR = some cursor →
    from_block ≤ max cursor.last_scanned_block 0
  from_none : w.db.scan_cursor context.id BTC_TRANSACTION_CURSOR = none → from_block ≤ 0

section Invariant
variable {context : ScanAddressContext} {native_asset : Asset} {w t : BtcWorld} {from_block : Int}
  {seen rest : List Btc.BtcTransaction} {collected : List Btc.DecodedBtcTransfer}
  {last_seen_txid : Option String}

theorem transfers_height {tx : Btc.BtcTransaction} {transfer : Btc.DecodedBtcTransfer}
    (h : Transfers context tx transfer) : height tx = transfer.block_number := by
  rw [height, Btc.classify_height h]
  rfl

theorem Inv.later (h : Inv context native_asset w) (hl : Later w t) :
    Inv context native_asset t := by
  obtain ⟨hdb, new, hnew, habove, hnodup⟩ := hl
  refine ⟨hdb ▸ h.native, hnodup h.distinct, hdb ▸ h.outboxed, ?_, ?_⟩
  · intro cursor hcursor tx htx transfer htransfer hbelow
    rw [hdb] at hcursor ⊢
    rw [hnew] at htx
    rcases List.mem_append.mp htx with hnewer | hold
    · obtain ⟨top, htop, hle⟩ := h.bounded cursor hcursor
      have hlt := habove tx hnewer top htop
      rw [transfers_height htransfer] at hlt
      omega
    · exact h.covered cursor hcursor tx hold transfer htransfer hbelow
  · intro cursor hcursor
    rw [hdb] at hcursor
    obtain ⟨top, htop, hle⟩ := h.bounded cursor hcursor
    refine ⟨top, ?_, hle⟩
    rw [hnew]
    exact List.mem_append_right _ htop

/-- Growth goes above what was read. -/
theorem Read.later (h : Read context from_block seen rest collected w) (hl : Later w t) :
    Read context from_block seen rest collected t := by
  obtain ⟨hdb, new, hnew, habove, _⟩ := hl
  obtain ⟨newer, hhistory, hstrict⟩ := h.history
  refine ⟨⟨new ++ newer, ?_, ?_⟩, h.collected, ?_, ?_⟩
  · rw [hnew, hhistory, List.append_assoc]
  · intro a ha b hb
    rcases List.mem_append.mp ha with ha | ha
    · refine habove a ha b ?_
      rw [hhistory]
      exact List.mem_append_right _ hb
    · exact hstrict a ha b hb
  · rw [hdb]
    exact h.from_some
  · rw [hdb]
    exact h.from_none

/-- Other statements against the database. -/
theorem Inv.frame {db : Db} (h : Inv context native_asset w)
    (hnative : db.native_asset_for_chain context.chain_id = .ok native_asset)
    (hcursor : db.scan_cursor context.id BTC_TRANSACTION_CURSOR =
      w.db.scan_cursor context.id BTC_TRANSACTION_CURSOR)
    (hevents : ∀ key, w.db.events.HasEvent key → db.events.HasEvent key)
    (houtboxed : db.events.Outboxed) : Inv context native_asset { w with db := db } := by
  refine ⟨hnative, h.distinct, houtboxed, ?_, ?_⟩
  · intro cursor hc tx htx transfer htransfer hbelow
    obtain ⟨key, hkey, hevent⟩ := h.covered cursor (hcursor ▸ hc) tx htx transfer htransfer hbelow
    exact ⟨key, hkey, hevents key hevent⟩
  · intro cursor hc
    exact h.bounded cursor (hcursor ▸ hc)

theorem Read.frame {db : Db} (h : Read context from_block seen rest collected w)
    (hcursor : db.scan_cursor context.id BTC_TRANSACTION_CURSOR =
      w.db.scan_cursor context.id BTC_TRANSACTION_CURSOR) :
    Read context from_block seen rest collected { w with db := db } := by
  refine ⟨h.history, h.collected, ?_, ?_⟩
  · intro cursor hc
    exact h.from_some cursor (hcursor ▸ hc)
  · intro hnone
    exact h.from_none (hcursor ▸ hnone)

/-! ### Pages -/

/-- What follows the last transaction that was read. -/
theorem following_last {newer : List Btc.BtcTransaction} {last : Btc.BtcTransaction}
    (hdistinct : ((newer ++ (seen ++ last :: rest)).map (·.txid)).Nodup) :
    following (newer ++ (seen ++ last :: rest)) (some last.txid) = rest := by
  have hbefore : ∀ tx ∈ newer ++ seen, (tx.txid != last.txid) = true := by
    intro tx htx
    rw [← List.append_assoc, List.map_append, List.nodup_append] at hdistinct
    have hne := hdistinct.2.2 tx.txid (List.mem_map_of_mem htx) last.txid
      (List.mem_map_of_mem (List.mem_cons_self ..))
    simpa using hne
  rw [following, ← List.append_assoc, List.dropWhile_append_of_pos hbefore]
  simp

theorem classify_btc_page_transfers {address : String} {transactions : List Btc.BtcTransaction}
    {transfers : List Btc.DecodedBtcTransfer}
    (h : classify_btc_page address from_block transactions = .ok transfers) :
    transfers = new_transfers address from_block transactions := by
  induction transactions generalizing transfers with
  | nil => exact (Except.ok.inj h).symm
  | cons tx transactions ih =>
    obtain ⟨transfer, htransfer, h⟩ := bind_ok h
    obtain ⟨others, hothers, h⟩ := bind_ok h
    have hrest := ih hothers
    cases transfer with
    | none =>
      obtain rfl := Except.ok.inj h
      rw [hrest]
      simp [new_transfers, htransfer]
    | some transfer =>
      dsimp only at h
      split at h
      · rename_i hbelow
        obtain rfl := Except.ok.inj h
        rw [hrest]
        simp [new_transfers, htransfer, hbelow]
      · rename_i hfrom
        obtain rfl := Except.ok.inj h
        rw [hrest]
        simp [new_transfers, htransfer, hfrom]

/-- A page takes the reading on. -/
theorem Read.page {page more : List Btc.BtcTransaction}
    (h : Read context from_block seen (page ++ more) collected w) :
    Read context from_block (seen ++ page) more
      (collected ++ new_transfers context.address from_block page) w := by
  obtain ⟨newer, hhistory, hstrict⟩ := h.history
  rw [← List.append_assoc seen page more] at hhistory hstrict
  refine ⟨⟨newer, hhistory, hstrict⟩, ?_, h.from_some, h.from_none⟩
  rw [new_transfers_append, h.collected]

/-! ### The scan -/

/-- Between two scans, or where nothing is known but the invariant. -/
def anywhere (context : ScanAddressContext) (native_asset : Asset) :
    Prog.Assn Later (Inv context native_asset) where
  holds := Inv context native_asset
  stable := Inv.later
  good := id

/-- Before a request that goes on after the transaction. -/
def reading (context : ScanAddressContext) (native_asset : Asset) (from_block : Int)
    (last_seen_txid : Option String) (collected : List Btc.DecodedBtcTransfer) :
    Prog.Assn Later (Inv context native_asset) where
  holds := fun w => Inv context native_asset w ∧ ∃ seen rest,
    Read context from_block seen rest collected w ∧
      last_seen_txid = seen.getLast?.map (·.txid) ∧ (seen = [] → rest = w.history)
  stable := fun {w t} ⟨hinv, seen, rest, hread, hlast, hfirst⟩ hl => by
    refine ⟨hinv.later hl, ?_⟩
    by_cases hseen : seen = []
    · subst hseen
      have hlater := hread.later hl
      refine ⟨[], t.history, ⟨⟨[], rfl, by simp⟩, hlater.collected, hlater.from_some,
        hlater.from_none⟩, hlast, fun _ => rfl⟩
    · exact ⟨seen, rest, hread.later hl, hlast, fun h => absurd h hseen⟩
  good := fun h => h.1

/-- Everything that was there is read, and some of the transfers have their events. -/
def storing (context : ScanAddressContext) (native_asset : Asset) (from_block : Int)
    (collected stored : List Btc.DecodedBtcTransfer) :
    Prog.Assn Later (Inv context native_asset) where
  holds := fun w => Inv context native_asset w ∧
    (∃ seen, Read context from_block seen [] collected w) ∧
    ∀ transfer ∈ stored, Stored context native_asset w.db.events transfer
  stable := fun ⟨hinv, ⟨seen, hread⟩, hstored⟩ hl =>
    ⟨hinv.later hl, ⟨seen, hread.later hl⟩, hl.1 ▸ hstored⟩
  good := fun h => h.1

theorem hosts_db : Hosts Step BtcWorld.db fun w db => { w with db := db } where
  same := fun _ => rfl
  fate := fun h => by
    cases h with
    | db h => exact ⟨_, h, rfl⟩

/-- A page: the end, or more transactions. -/
theorem read_page (h : (reading context native_asset from_block last_seen_txid collected).holds w)
    {page : List Btc.BtcTransaction} (hpage : PageOf w.history last_seen_txid page) :
    (page = [] ∧ (storing context native_asset from_block collected []).holds w) ∨
    (page ≠ [] ∧ (reading context native_asset from_block (page.getLast?.map (·.txid))
      (collected ++ new_transfers context.address from_block page)).holds w) := by
  obtain ⟨hinv, seen, rest, hread, hlast, hfirst⟩ := h
  obtain ⟨more, hmore, hend⟩ := hpage
  have hrest : rest = page ++ more := by
    rcases List.eq_nil_or_concat seen with hnil | ⟨before, last, hconcat⟩
    · subst hnil
      rw [hlast] at hmore
      exact (hfirst rfl).trans hmore
    · obtain ⟨newer, hhistory, _⟩ := hread.history
      rw [hconcat] at hhistory hlast
      have hdistinct := hinv.distinct
      rw [hhistory] at hdistinct hmore
      have hlast' : last_seen_txid = some last.txid := by simpa using hlast
      rw [hlast'] at hmore
      simp only [List.concat_eq_append, List.append_assoc, List.singleton_append]
        at hdistinct hmore
      rw [following_last hdistinct] at hmore
      exact hmore
  subst hrest
  have hgo := hread.page
  by_cases hpage : page = []
  · left
    subst hpage
    obtain rfl := hend rfl
    exact ⟨rfl, hinv, ⟨seen, hread⟩, by simp⟩
  · right
    refine ⟨hpage, hinv, seen ++ page, more, hgo, ?_, fun hnil => ?_⟩
    · rw [List.getLast?_append_of_ne_nil _ hpage]
    · exact absurd (List.append_eq_nil_iff.mp hnil).2 hpage

/-- The rest of the scan goes on with the page that was returned. -/
theorem address_transactions_page_triple {address : String} {β : Type}
    {f : Btc.BtcTransactionPage → Scan β} {Q : β → Prog.Assn Later (Inv context native_asset)}
    (hempty : ∀ next, Prog.Triple Prog.Any Step
      (storing context native_asset from_block collected []) (f ⟨[], next⟩) Q
      fun _ => anywhere context native_asset)
    (hmore : ∀ page, page ≠ [] → Prog.Triple Prog.Any Step
      (reading context native_asset from_block (page.getLast?.map (·.txid))
        (collected ++ new_transfers context.address from_block page))
      (f ⟨page, page.getLast?.map (·.txid)⟩) Q fun _ => anywhere context native_asset) :
    Prog.Triple Prog.Any Step (reading context native_asset from_block last_seen_txid collected)
      ((address_transactions_page address last_seen_txid).bind f) Q
      fun _ => anywhere context native_asset := by
  cases hnorm : Btc.normalize_btc_address address with
  | error e =>
    have hfails : address_transactions_page address last_seen_txid = .fail e := by
      simp [address_transactions_page, hnorm]
    rw [hfails]
    exact .fail fun w hw => hw.1
  | ok normalized =>
    cases hseen : Btc.validate_optional_btc_hash last_seen_txid "last_seen_txid" with
    | error e =>
      have hfails : address_transactions_page address last_seen_txid = .fail e := by
        simp [address_transactions_page, hnorm, hseen]
      rw [hfails]
      exact .fail fun w hw => hw.1
    | ok u =>
      have hcall : (address_transactions_page address last_seen_txid).bind f =
          (call (.btc_transactions normalized last_seen_txid)).bind fun body =>
            (Prog.lift (Btc.decode_btc_transaction_page body)).bind f := by
        simp only [address_transactions_page, hnorm, hseen, Prog.lift_ok, Prog.bind_eq,
          Prog.done_bind]
        exact Prog.bind_assoc _ _ f
      rw [hcall]
      refine Prog.Triple.bind_perform (fun _ _ => trivial) fun w hw r t ht => ?_
      cases ht with
      | failed => exact hw.1
      | other hother => exact absurd rfl (hother _ _)
      | unreadable => exact ⟨anywhere context native_asset, hw.1, .fail fun _ h => h⟩
      | @page _ _ page hpage =>
        have hdecode : Btc.decode_btc_transaction_page (.ok page) =
            (Btc.validate_optional_btc_hash (page.getLast?.map (·.txid)) "last_seen_txid").bind
              fun _ => .ok ⟨page, page.getLast?.map (·.txid)⟩ := rfl
        dsimp only
        rw [hdecode]
        cases Btc.validate_optional_btc_hash (page.getLast?.map (·.txid)) "last_seen_txid" with
        | error e => exact ⟨anywhere context native_asset, hw.1, .fail fun _ h => h⟩
        | ok u =>
          rcases read_page hw hpage with ⟨rfl, hdone⟩ | ⟨hne, hgo⟩
          · exact ⟨_, hdone, hempty _⟩
          · exact ⟨_, hgo, hmore page hne⟩

/-- The pages come to all transfers there were. The page limit ends the loop before the rounds do. -/
theorem btc_pages_triple (rounds pages_processed : Nat)
    (hrounds : pages_processed + rounds = MAX_PROVIDER_PAGES_PER_SCAN + 1) (hpos : 0 < rounds)
    (last_seen_txid : Option String) (collected : List Btc.DecodedBtcTransfer) :
    Prog.Triple Prog.Any Step (reading context native_asset from_block last_seen_txid collected)
      (btc_pages context.address from_block rounds pages_processed last_seen_txid)
      (fun transfers => storing context native_asset from_block (collected ++ transfers) [])
      fun _ => anywhere context native_asset := by
  induction rounds generalizing pages_processed last_seen_txid collected with
  | zero => exact absurd hpos (Nat.lt_irrefl 0)
  | succ rounds ih =>
    simp only [btc_pages, Prog.bind_eq, Prog.pure_eq]
    refine address_transactions_page_triple (fun next => ?_) fun page hne => ?_
    · refine Prog.Triple.done fun w hw => ?_
      rw [List.append_nil]
      exact hw
    · have hcount : page.length ≠ 0 := fun h => hne (List.eq_nil_of_length_eq_zero h)
      refine Prog.Triple.bind_lift (fun process hprocess => ?_) fun _ _ w hw => hw.1
      have hlimit : pages_processed < MAX_PROVIDER_PAGES_PER_SCAN ∧ process = true := by
        unfold should_process_btc_transaction_page at hprocess
        rw [if_neg hcount] at hprocess
        by_cases hmax : MAX_PROVIDER_PAGES_PER_SCAN ≤ pages_processed
        · simp [hmax, ensure_provider_page_limit, bind, Except.bind] at hprocess
        · simp only [hmax, if_false] at hprocess
          exact ⟨Nat.lt_of_not_le hmax, (Except.ok.inj hprocess).symm⟩
      obtain ⟨hlimit, rfl⟩ := hlimit
      obtain ⟨last, hlast⟩ : ∃ last, page.getLast? = some last :=
        ⟨_, List.getLast?_eq_some_getLast hne⟩
      simp only [hlast, Option.map_some, Bool.not_true, Bool.false_eq_true, if_false]
      refine Prog.Triple.bind_lift (fun transfers htransfers => ?_) fun _ _ w hw => hw.1
      obtain rfl := classify_btc_page_transfers htransfers
      refine Prog.Triple.bind (fun w => later_refl w)
        (ih (pages_processed + 1) (by omega) (by omega) (some last.txid) _) fun rest => ?_
      refine Prog.Triple.done fun w hw => ?_
      rw [List.append_assoc] at hw
      exact hw

theorem insert_btc_transfer_triple {stored : List Btc.DecodedBtcTransfer}
    (transfer : Btc.DecodedBtcTransfer) :
    Prog.Triple Prog.Any Step (storing context native_asset from_block collected stored)
      (insert_btc_transfer context native_asset transfer)
      (fun _ => storing context native_asset from_block collected (stored ++ [transfer]))
      fun _ => anywhere context native_asset := by
  refine Prog.Triple.bind (fun w => later_refl w) (hosts_db.perform (fun _ _ h => h)
    fun w hw => ?_) fun _ => Prog.Triple.done fun _ h => h
  obtain ⟨hinv, ⟨seen, hread⟩, hstored⟩ := hw
  refine ⟨hinv.frame hinv.native rfl (fun _ hevent => hevent.insert) hinv.outboxed.insert,
    ⟨seen, hread.frame rfl⟩, fun other hother => ?_⟩
  rcases List.mem_append.mp hother with hold | hnew
  · obtain ⟨key, hkey, hevent⟩ := hstored other hold
    exact ⟨key, hkey, hevent.insert⟩
  · obtain rfl := List.mem_singleton.mp hnew
    exact ⟨_, rfl, EventTables.insert_hasEvent rfl⟩

/-- The cursor moves to the highest transfer collected: a transfer below is among those collected, or
it lay below the old cursor. -/
theorem Inv.write {value : Int}
    (h : (storing context native_asset from_block collected collected).holds w)
    (hvalue : btc_cursor_value collected = some value) :
    Inv context native_asset { w with
      db := w.db.upsert_scan_cursor (cursor_at context BTC_TRANSACTION_CURSOR value) } := by
  obtain ⟨hinv, ⟨seen, hread⟩, hstored⟩ := h
  obtain ⟨written, hwritten, hlast⟩ :=
    w.db.scan_cursor_upsert (cursor_at context BTC_TRANSACTION_CURSOR value)
  obtain ⟨newer, hhistory, hstrict⟩ := hread.history
  rw [List.append_nil] at hhistory hstrict
  -- the transfer that gives the value
  obtain ⟨⟨greatest, hgreatest, hheight⟩, _⟩ := btc_cursor_value_some hvalue
  rw [← hread.collected, mem_new_transfers] at hgreatest
  obtain ⟨top, htop, htransfers, _⟩ := hgreatest
  have htopheight : height top = value := (transfers_height htransfers).trans hheight
  have hcollected : ∀ tx ∈ w.history, ∀ transfer, Transfers context tx transfer →
      transfer.block_number ≤ value → from_block ≤ transfer.block_number →
        Stored context native_asset w.db.events transfer := by
    intro tx htx transfer htransfer hbelow hfrom
    rw [hhistory] at htx
    rcases List.mem_append.mp htx with hnewer | hseen
    · have hlt := hstrict tx hnewer top htop
      rw [transfers_height htransfer] at hlt
      omega
    · refine hstored transfer ?_
      rw [← hread.collected]
      exact mem_new_transfers.mpr ⟨tx, hseen, htransfer, hfrom⟩
  refine ⟨hinv.native, hinv.distinct, hinv.outboxed, ?_, ?_⟩
  · intro cursor hcursor tx htx transfer htransfer hbelow
    obtain rfl := Option.some.inj (hwritten.symm.trans hcursor)
    have hpos := Btc.classify_nonneg htransfer
    cases hold : w.db.scan_cursor context.id BTC_TRANSACTION_CURSOR with
    | none =>
      simp only [cursor_at, hold] at hlast
      have hfrom := hread.from_none hold
      exact hcollected tx htx transfer htransfer (by omega) (by omega)
    | some old =>
      have hlast : written.last_scanned_block = max old.last_scanned_block value := by
        simpa only [cursor_at, hold] using hlast
      have hfrom := hread.from_some old hold
      by_cases hcovered : transfer.block_number ≤ old.last_scanned_block
      · exact hinv.covered old hold tx htx transfer htransfer hcovered
      · exact hcollected tx htx transfer htransfer (by omega) (by omega)
  · intro cursor hcursor
    obtain rfl := Option.some.inj (hwritten.symm.trans hcursor)
    have htopmem : top ∈ w.history := hhistory ▸ List.mem_append_right _ htop
    cases hold : w.db.scan_cursor context.id BTC_TRANSACTION_CURSOR with
    | none =>
      simp only [cursor_at, hold] at hlast
      exact ⟨top, htopmem, by omega⟩
    | some old =>
      have hlast : written.last_scanned_block = max old.last_scanned_block value := by
        simpa only [cursor_at, hold] using hlast
      obtain ⟨highest, hhighest, hle⟩ := hinv.bounded old hold
      by_cases hmax : old.last_scanned_block ≤ value
      · exact ⟨top, htopmem, by omega⟩
      · exact ⟨highest, hhighest, by omega⟩

theorem write_btc_cursor_triple :
    Prog.Triple Prog.Any Step (storing context native_asset from_block collected collected)
      (write_cursor context BTC_TRANSACTION_CURSOR (btc_cursor_value collected))
      (fun _ => anywhere context native_asset) fun _ => anywhere context native_asset := by
  cases hvalue : btc_cursor_value collected with
  | none => exact Prog.Triple.done fun _ h => h.1
  | some value => exact hosts_db.perform (fun _ _ h => h) fun w hw => Inv.write hw hvalue

/-- The first block of a scan is not above the cursor. -/
theorem Read.start (w : BtcWorld) : Read context
    (btc_scan_from_block (w.db.scan_cursor context.id BTC_TRANSACTION_CURSOR)) [] w.history [] w := by
  refine ⟨⟨[], rfl, by simp⟩, rfl, fun cursor hcursor => ?_, fun hnone => ?_⟩
  · rw [hcursor]
    simp only [btc_scan_from_block, BTC_CURSOR_OVERLAP_BLOCKS, saturating_i64]
    omega
  · rw [hnone]
    exact le_refl _

/-- A whole scan, from one state between scans to the next. -/
theorem scan_triple (provider : Provider) :
    Prog.Triple Prog.Any Step (anywhere context native_asset)
      (scan_btc_address_with_provider context provider) (fun _ => anywhere context native_asset)
      fun _ => anywhere context native_asset := by
  have hR := fun w : BtcWorld => later_refl w
  simp only [scan_btc_address_with_provider, Prog.bind_eq, Prog.pure_eq]
  refine Prog.Triple.bind_lift (fun _ _ => ?_) fun _ _ _ hw => hw
  refine hosts_db.bind_read (fun _ => rfl) (fun _ _ h => h) fun w found hw hnative => ⟨_, hw, ?_⟩
  obtain rfl := Except.ok.inj (hw.native.symm.trans hnative)
  refine hosts_db.bind_read (fun _ => rfl) (fun _ _ h => h) fun w selected hw _ => ⟨_, hw, ?_⟩
  split
  · exact Prog.Triple.done fun _ h => h
  refine Prog.Triple.bind_lift (fun _ _ => ?_) fun _ _ _ hw => hw
  have hbalance : Prog.Triple Prog.Any Step (anywhere context native_asset)
      (address_balance context.address) (fun _ => anywhere context native_asset)
      fun _ => anywhere context native_asset := by
    refine Prog.Triple.bind_lift (fun _ _ => ?_) fun _ _ _ hw => hw
    refine Prog.Triple.bind_perform (fun _ _ => trivial) fun w hw r t ht => ?_
    cases ht with
    | failed => exact hw
    | other =>
      refine ⟨anywhere context native_asset, hw, ?_⟩
      exact Prog.Triple.lift (fun _ _ _ h => h) fun _ _ _ h => h
  refine Prog.Triple.bind hR hbalance fun balance => ?_
  refine Prog.Triple.bind hR (Q := fun _ => anywhere context native_asset) ?_ fun _ => ?_
  · exact hosts_db.perform (fun _ _ h => h) fun w hw =>
      hw.frame hw.native rfl (fun _ h => h) hw.outboxed
  refine hosts_db.bind_read (fun _ => rfl) (fun _ _ h => h) fun w cursor hw hcursor => ?_
  obtain rfl := Except.ok.inj hcursor
  refine ⟨reading context native_asset _ none [], ⟨hw, [], w.history, Read.start w, rfl,
    fun _ => rfl⟩, ?_⟩
  refine Prog.Triple.bind hR (btc_pages_triple _ 0 rfl (by decide) none []) fun transfers => ?_
  have hinsert := Prog.Triple.forEach (J := storing context native_asset
      (btc_scan_from_block (w.db.scan_cursor context.id BTC_TRANSACTION_CURSOR)) ([] ++ transfers))
    hR [] transfers fun _ transfer _ _ => insert_btc_transfer_triple transfer
  refine Prog.Triple.bind hR hinsert fun events => ?_
  exact Prog.Triple.bind hR write_btc_cursor_triple fun _ => Prog.Triple.done fun _ h => h

end Invariant

/-- A transfer up to the cursor has one event and one outbox row. -/
def CoveredOnce (context : ScanAddressContext) (native_asset : Asset) (w : BtcWorld) : Prop :=
  ∀ cursor, w.db.scan_cursor context.id BTC_TRANSACTION_CURSOR = some cursor →
    ∀ tx ∈ w.history, ∀ transfer, Transfers context tx transfer →
      height tx ≤ cursor.last_scanned_block → ∃ key event row,
        (Btc.btc_transfer_event_draft context native_asset transfer).unique_transfer = some key ∧
          w.db.events.address_events.filter (·.unique_transfer == some key) = [event] ∧
            w.db.events.notification_outbox.filter (·.event_id == event.id) = [row]

end BtcWorld

namespace BtcWorld

/-- A provider with one page for everything. -/
def one_page_step (w : BtcWorld) : (s : Statement) → AppResult s.Answer × BtcWorld
  | .db q => ((q.run w.db).1, { w with db := (q.run w.db).2 })
  | .remote (.btc_address _) => (.ok btc_balance, w)
  | .remote (.btc_transactions _ last_seen_txid) =>
    (.ok (.ok (following w.history last_seen_txid)), w)
  | .remote _ => (.error (.Config "no answer"), w)

theorem one_page_step_runs (w : BtcWorld) (s : Statement) :
    Step w s (one_page_step w s).1 (one_page_step w s).2 := by
  cases s with
  | db q => exact .db .answered
  | remote c =>
    cases c with
    | btc_address => exact .other fun _ _ h => nomatch h
    | btc_transactions address last_seen_txid =>
      exact .page ⟨[], (List.append_nil _).symm, fun _ => rfl⟩
    | _ => exact .failed

def nothing_scanned : BtcWorld :=
  { db := { btc_db 0 with scan_cursors := [] }, history := [] }

def two_payments : BtcWorld :=
  { nothing_scanned with history := [btc_payment 1 101, btc_payment 0 100] }

def payments_scanned : BtcWorld :=
  ((scan_btc_address_with_provider watched_btc btc_provider).eval one_page_step two_payments).2

end BtcWorld

end CoinListener.Worker
