import CoinListener.Worker.TronScan

/-! The shared TRC20 cursor: which transfers lie below it.

Blocks become visible between the requests of a scan. A scan asks for one token after the other, so
a block that arrives in between is seen for the later tokens only. -/
namespace CoinListener.Worker
open Foundation Storage Providers

/-- A confirmed token transfer of the watched address. -/
structure TokenTransfer where
  payload : Tron.Trc20TransferPayload
  timestamp : Int
  dated : payload.block_timestamp = some timestamp
  nonneg : 0 ≤ timestamp
deriving DecidableEq

/-- The database, the transfers visible at the provider, and for each token loop of the current scan
what was visible at its last request, the newest loop first. -/
structure TronWorld where
  db : Db
  visible : List TokenTransfer
  requested : List (String × List TokenTransfer)

namespace TronWorld

/-- The loops before the one a request belongs to: a request with a fingerprint goes on with the
loop that was last. -/
def earlier (w : TronWorld) (fingerprint : Option String) : List (String × List TokenTransfer) :=
  match fingerprint with
  | none => w.requested
  | some _ => w.requested.tail

/-- The transfer answers a request for a contract from a timestamp on. -/
def Matches (contract : String) (min_timestamp : Int) (x : TokenTransfer) : Prop :=
  x.payload.token_address = contract ∧ min_timestamp ≤ x.timestamp

/-- A page holds all visible transfers that match, and a fingerprint is never blank. -/
structure Answers (w : TronWorld) (contract : String) (min_timestamp : Int)
    (page : Tron.TronPage Tron.Trc20TransferPayload) : Prop where
  fingerprint : push_fingerprint page.next_fingerprint = page.next_fingerprint
  items : ∀ item, item ∈ page.data ↔
    ∃ x ∈ w.visible, Matches contract min_timestamp x ∧ item = .ok x.payload

/-- No earlier token is overtaken: what became visible for it after its last request is newer than
everything this request returns. -/
def NotOvertaken (w : TronWorld) (contract : String) (min_timestamp : Int)
    (fingerprint : Option String) : Prop :=
  ∀ a snapshot, (a, snapshot) ∈ w.earlier fingerprint →
    ∀ x ∈ w.visible, x.payload.token_address = a → x ∉ snapshot →
      ∀ y ∈ w.visible, Matches contract min_timestamp y → y.timestamp < x.timestamp

/-- The statements of a scan. Every request and every database statement may fail; `allowed`
restricts the token requests that are answered. -/
inductive Step (allowed : TronWorld → String → Int → Option String → Prop) :
    TronWorld → (s : Statement) → AppResult s.Answer → TronWorld → Prop where
  | db {w q r db} (h : Query.Fate w.db q r db) : Step allowed w (.db q) r { w with db := db }
  | page {w address contract min_timestamp fingerprint page}
      (h : w.Answers contract min_timestamp page)
      (hallowed : allowed w contract min_timestamp fingerprint) :
      Step allowed w (.remote (.tron_trc20_transfers address contract min_timestamp fingerprint))
        (.ok page) { w with requested := (contract, w.visible) :: w.earlier fingerprint }
  | failed {w c e} : Step allowed w (.remote c) (.error e) w
  | other {w c a} (h : ∀ address contract min_timestamp fingerprint,
      c ≠ .tron_trc20_transfers address contract min_timestamp fingerprint) :
      Step allowed w (.remote c) (.ok a) w

/-- A new block becomes visible as a whole, later than all before. -/
inductive Grows : TronWorld → TronWorld → Prop where
  | block {w} (block : List TokenTransfer) (timestamp : Int)
      (hblock : ∀ x ∈ block, x.timestamp = timestamp)
      (hnew : ∀ y ∈ w.visible, y.timestamp < timestamp) :
      Grows w { w with visible := w.visible ++ block }

/-- A scan of the address starts, with any provider. -/
inductive Launches (context : ScanAddressContext) :
    TronWorld → Scan (List AddressEvent) → TronWorld → Prop where
  | scan {w} (provider : Provider) : Launches context w
      (scan_tron_address_with_provider context provider) { w with requested := [] }

/-- Any number of blocks. -/
def Later (w t : TronWorld) : Prop :=
  t.db = w.db ∧ t.requested = w.requested ∧ ∃ new, t.visible = w.visible ++ new ∧
    ∀ x ∈ new, ∀ y ∈ w.visible, y.timestamp < x.timestamp

theorem later_refl (w : TronWorld) : Later w w :=
  ⟨rfl, rfl, [], (List.append_nil _).symm, nofun⟩

theorem later_trans {a b c : TronWorld} (hab : Later a b) (hbc : Later b c) : Later a c := by
  obtain ⟨hdb, hreq, new, hnew, hlt⟩ := hab
  obtain ⟨hdb', hreq', new', hnew', hlt'⟩ := hbc
  refine ⟨hdb'.trans hdb, hreq'.trans hreq, new ++ new', by rw [hnew', hnew, List.append_assoc], ?_⟩
  intro x hx y hy
  rcases List.mem_append.mp hx with hx | hx
  · exact hlt x hx y hy
  · exact hlt' x hx y (by rw [hnew]; exact List.mem_append_left _ hy)

theorem later_of_grows {w t : TronWorld} (h : Grows w t) : Later w t := by
  cases h with
  | block block timestamp hblock hnew =>
    refine ⟨rfl, rfl, block, rfl, fun x hx y hy => ?_⟩
    rw [hblock x hx]
    exact hnew y hy

end TronWorld

open TronWorld

/-! ### What the cursor promises -/

section Promise
variable (context : ScanAddressContext)

/-- The transfer is one of the asset's contract. -/
def Owned (asset : Asset) (x : TokenTransfer) : Prop :=
  ∃ contract, asset.contract_address = some contract ∧
    Tron.normalize_tron_address contract = .ok x.payload.token_address

/-- What a scan makes of the transfer for the asset, at some position. -/
def Decodes (asset : Asset) (x : TokenTransfer) (t : Tron.DecodedTronTransfer) : Prop :=
  ∃ contract n, asset.contract_address = some contract ∧
    Tron.decode_trc20_transfer_at_index (.ok x.payload) contract asset.decimals n = .ok t

def Stored (tables : EventTables) (asset : Asset) (t : Tron.DecodedTronTransfer) : Prop :=
  ∃ key, (Tron.tron_transfer_event_draft context asset t).unique_transfer = some key ∧
    tables.HasEvent key

/-- Every transfer of a selected token up to the cursor has its event. -/
def Covered (w : TronWorld) : Prop :=
  ∀ cursor, w.db.scan_cursor context.id TRON_TRC20_TRANSFER_CURSOR = some cursor →
    ∀ asset ∈ selected_assets_by_type (w.db.selected_assets_for_address context.id) "trc20",
      ∀ x ∈ w.visible, Owned asset x → x.timestamp ≤ cursor.last_scanned_block →
        ∃ t, Decodes asset x t ∧ Stored context w.db.events asset t

/-- The selected contract addresses are stored without surrounding whitespace. -/
def Trimmed (db : Db) : Prop :=
  ∀ asset ∈ selected_assets_by_type (db.selected_assets_for_address context.id) "trc20",
    ∀ contract contract', asset.contract_address = some contract →
      Tron.normalize_tron_address contract = .ok contract' → contract' = contract

/-- The invariant: the promise, and a visible transfer that is no older than the cursor. -/
structure Inv (selected : List Asset) (w : TronWorld) : Prop where
  selection : w.db.selected_assets_for_address context.id = selected
  covered : Covered context w
  bounded : ∀ cursor, w.db.scan_cursor context.id TRON_TRC20_TRANSFER_CURSOR = some cursor →
    0 ≤ cursor.last_scanned_block ∧ ∃ y ∈ w.visible, cursor.last_scanned_block ≤ y.timestamp

/-- What holds in the middle of a scan: `requested` are the loops of the tokens already done, and a
transfer of such a token is collected or newer than everything collected. -/
structure Mid (selected : List Asset) (trc20_from : Int)
    (requested : List (String × List TokenTransfer)) (before : List Asset) (collected : Collected)
    (w : TronWorld) : Prop where
  inv : Inv context selected w
  from_none : w.db.scan_cursor context.id TRON_TRC20_TRANSFER_CURSOR = none → trc20_from ≤ 0
  from_some : ∀ cursor, w.db.scan_cursor context.id TRON_TRC20_TRANSFER_CURSOR = some cursor →
    trc20_from ≤ cursor.last_scanned_block + 1
  snapshots : ∀ loop ∈ requested, ∀ x ∈ loop.2, x ∈ w.visible
  known : ∀ asset ∈ before, ∀ contract contract', asset.contract_address = some contract →
    Tron.normalize_tron_address contract = .ok contract' →
    ∃ snapshot, (contract', snapshot) ∈ requested ∧
      ∀ x ∈ w.visible, Matches contract' trc20_from x →
        (x ∈ snapshot → ∃ t, Decodes asset x t ∧ (asset, t) ∈ collected.transfers) ∧
        (x ∉ snapshot → ∀ c, collected.cursor_value = some c → c < x.timestamp)
  value : ∀ c, collected.cursor_value = some c → 0 ≤ c ∧ ∃ y ∈ w.visible, c ≤ y.timestamp

variable {context} {selected : List Asset} {w t : TronWorld}

/-- A new block lies above the cursor. -/
theorem Inv.later (h : Inv context selected w) (hl : Later w t) : Inv context selected t := by
  obtain ⟨hdb, _, new, hnew, hlt⟩ := hl
  refine ⟨by rw [hdb]; exact h.selection, ?_, ?_⟩
  · intro cursor hcursor asset hasset x hx howned hle
    rw [hdb] at hcursor hasset ⊢
    rw [hnew] at hx
    rcases List.mem_append.mp hx with hx | hx
    · exact h.covered cursor hcursor asset hasset x hx howned hle
    · obtain ⟨_, y, hy, hley⟩ := h.bounded cursor hcursor
      have hxy := hlt x hx y hy
      omega
  · intro cursor hcursor
    rw [hdb] at hcursor
    obtain ⟨hpos, y, hy, hle⟩ := h.bounded cursor hcursor
    exact ⟨hpos, y, by rw [hnew]; exact List.mem_append_left _ hy, hle⟩

/-- Events are added and other parts of the database may change, the cursor stays. -/
theorem Inv.frame {db : Db} (h : Inv context selected w)
    (hselection : db.selected_assets_for_address context.id =
      w.db.selected_assets_for_address context.id)
    (hcursor : db.scan_cursor context.id TRON_TRC20_TRANSFER_CURSOR =
      w.db.scan_cursor context.id TRON_TRC20_TRANSFER_CURSOR)
    (hevents : ∀ key, w.db.events.HasEvent key → db.events.HasEvent key) :
    Inv context selected { w with db := db } := by
  refine ⟨hselection.trans h.selection, ?_, ?_⟩
  · intro cursor hc asset hasset x hx howned hle
    rw [hcursor] at hc
    rw [hselection] at hasset
    obtain ⟨t, ht, key, hkey, hstored⟩ := h.covered cursor hc asset hasset x hx howned hle
    exact ⟨t, ht, key, hkey, hevents key hstored⟩
  · intro cursor hc
    rw [hcursor] at hc
    exact h.bounded cursor hc

variable {trc20_from : Int} {requested : List (String × List TokenTransfer)}
  {before : List Asset} {collected : Collected}

/-- New blocks are newer than everything collected. -/
theorem Mid.later (h : Mid context selected trc20_from requested before collected w)
    (hl : Later w t) : Mid context selected trc20_from requested before collected t := by
  have hinv := h.inv.later hl
  obtain ⟨hdb, _, new, hnew, hlt⟩ := hl
  have hold : ∀ x ∈ w.visible, x ∈ t.visible := fun x hx => by
    rw [hnew]
    exact List.mem_append_left _ hx
  refine ⟨hinv, by rw [hdb]; exact h.from_none, by rw [hdb]; exact h.from_some,
    fun loop hloop x hx => hold x (h.snapshots loop hloop x hx), ?_, ?_⟩
  · intro asset hasset contract contract' hcontract hnorm
    obtain ⟨snapshot, hsnapshot, hknown⟩ := h.known asset hasset contract contract' hcontract hnorm
    refine ⟨snapshot, hsnapshot, fun x hx hmatch => ?_⟩
    rw [hnew] at hx
    rcases List.mem_append.mp hx with hx | hx
    · exact hknown x hx hmatch
    · refine ⟨fun hin => ?_, fun _ c hc => ?_⟩
      · have hxx := hlt x hx x (h.snapshots _ hsnapshot x hin)
        omega
      · obtain ⟨_, y, hy, hley⟩ := h.value c hc
        have hxy := hlt x hx y hy
        omega
  · intro c hc
    obtain ⟨hpos, y, hy, hle⟩ := h.value c hc
    exact ⟨hpos, y, hold y hy, hle⟩

/-- Storing an event keeps everything that is known. -/
theorem Mid.insert (h : Mid context selected trc20_from requested before collected w)
    (draft : AddressEventDraft) :
    Mid context selected trc20_from requested before collected
      { w with db := (w.db.insert_event_and_outbox_if_not_exists draft).2 } :=
  ⟨h.inv.frame rfl rfl fun _ hkey => hkey.insert, h.from_none, h.from_some, h.snapshots, h.known,
    h.value⟩

/-- Every item of a page is decoded, and nothing else comes out. -/
theorem mem_decode_trc20_items {asset : Asset} {contract : String} {page_index index : Nat}
    {items : List (Tron.Item Tron.Trc20TransferPayload)} {ts : List Tron.DecodedTronTransfer}
    (h : decode_trc20_items asset contract page_index index items = .ok ts) :
    (∀ item ∈ items, ∃ n, ∃ t ∈ ts,
        Tron.decode_trc20_transfer_at_index item contract asset.decimals n = .ok t) ∧
      ∀ t ∈ ts, ∃ item ∈ items, ∃ n,
        Tron.decode_trc20_transfer_at_index item contract asset.decimals n = .ok t := by
  induction items generalizing index ts with
  | nil =>
    obtain rfl := Except.ok.inj h
    exact ⟨nofun, nofun⟩
  | cons item items ih =>
    obtain ⟨n, _, h⟩ := bind_ok h
    obtain ⟨t, ht, h⟩ := bind_ok h
    obtain ⟨rest, hrest, h⟩ := bind_ok h
    obtain rfl := Except.ok.inj h
    obtain ⟨hall, honly⟩ := ih hrest
    constructor
    · intro i hi
      rcases List.mem_cons.mp hi with rfl | hi
      · exact ⟨n, t, List.mem_cons_self .., ht⟩
      · obtain ⟨m, u, hu, hdecode⟩ := hall i hi
        exact ⟨m, u, List.mem_cons_of_mem _ hu, hdecode⟩
    · intro u hu
      rcases List.mem_cons.mp hu with rfl | hu
      · exact ⟨item, List.mem_cons_self .., n, ht⟩
      · obtain ⟨i, hi, m, hdecode⟩ := honly u hu
        exact ⟨i, List.mem_cons_of_mem _ hi, m, hdecode⟩

/-- Transfers of the asset's own contract are all collected, and the cursor value is one of theirs
or the one before. -/
theorem collect_all {asset : Asset} (ts : List Tron.DecodedTronTransfer) (collected : Collected)
    (hall : ∀ t ∈ ts, tron_transfer_should_scan asset t = true) :
    (∀ p ∈ collected.transfers,
        p ∈ (ts.foldl (collect_matching_tron_transfer asset) collected).transfers) ∧
      (∀ t ∈ ts, (asset, t) ∈ (ts.foldl (collect_matching_tron_transfer asset) collected).transfers) ∧
      ∀ c, (ts.foldl (collect_matching_tron_transfer asset) collected).cursor_value = some c →
        collected.cursor_value = some c ∨ ∃ t ∈ ts, t.cursor_value = c := by
  induction ts generalizing collected with
  | nil => exact ⟨fun _ h => h, fun _ h => absurd h List.not_mem_nil, fun _ h => Or.inl h⟩
  | cons t ts ih =>
    have hstep : collect_matching_tron_transfer asset collected t =
        { cursor_value := some (collected.cursor_value.elim t.cursor_value
            fun current => max current t.cursor_value)
          transfers := collected.transfers ++ [(asset, t)] } := by
      rw [collect_matching_tron_transfer, if_pos (hall t (List.mem_cons_self ..))]
      cases collected.cursor_value <;> rfl
    obtain ⟨hkeep, hnew, hvalue⟩ := ih (collect_matching_tron_transfer asset collected t)
      fun u hu => hall u (List.mem_cons_of_mem _ hu)
    refine ⟨fun p hp => hkeep p ?_, fun u hu => ?_, fun c hc => ?_⟩
    · rw [hstep]
      exact List.mem_append_left _ hp
    · rcases List.mem_cons.mp hu with rfl | hu
      · refine hkeep _ ?_
        rw [hstep]
        exact List.mem_append_right _ (List.mem_singleton_self _)
      · exact hnew u hu
    · rcases hvalue c hc with hc | ⟨u, hu, rfl⟩
      · rw [hstep] at hc
        have hc := Option.some.inj hc
        cases hold : collected.cursor_value with
        | none =>
          rw [hold] at hc
          exact Or.inr ⟨t, List.mem_cons_self .., hc⟩
        | some current =>
          rw [hold] at hc
          simp only [Option.elim_some] at hc
          have hmax : current = c ∨ t.cursor_value = c := by omega
          rcases hmax with rfl | ht
          · exact Or.inl rfl
          · exact Or.inr ⟨t, List.mem_cons_self .., ht⟩
      · exact Or.inr ⟨u, List.mem_cons_of_mem _ hu, rfl⟩

/-- After a page: what the request saw, and what it returned. -/
structure Asked (trc20_from : Int) (contract : String)
    (page : Tron.TronPage Tron.Trc20TransferPayload) (snapshot : List TokenTransfer)
    (requested : List (String × List TokenTransfer)) (collected : Collected) (w : TronWorld) :
    Prop where
  seen : ∀ x ∈ snapshot, x ∈ w.visible
  fresh : ∀ x ∈ w.visible, x ∉ snapshot → ∀ y ∈ snapshot, y.timestamp < x.timestamp
  items : ∀ item, item ∈ page.data ↔
    ∃ x ∈ snapshot, Matches contract trc20_from x ∧ item = .ok x.payload
  newer : ∀ a seen, (a, seen) ∈ requested → ∀ x ∈ w.visible, x.payload.token_address = a →
    x ∉ seen → ∀ y ∈ snapshot, Matches contract trc20_from y → y.timestamp < x.timestamp
  below : ∀ c, collected.cursor_value = some c → ∃ y ∈ snapshot, c ≤ y.timestamp

theorem Asked.later {contract : String} {page : Tron.TronPage Tron.Trc20TransferPayload}
    {snapshot : List TokenTransfer}
    (h : Asked trc20_from contract page snapshot requested collected w) (hl : Later w t) :
    Asked trc20_from contract page snapshot requested collected t := by
  obtain ⟨_, _, new, hnew, hlt⟩ := hl
  refine ⟨fun x hx => ?_, fun x hx hnot y hy => ?_, h.items, ?_, h.below⟩
  · rw [hnew]
    exact List.mem_append_left _ (h.seen x hx)
  · rw [hnew] at hx
    rcases List.mem_append.mp hx with hx | hx
    · exact h.fresh x hx hnot y hy
    · exact hlt x hx y (h.seen y hy)
  · intro a seen hseen x hx ha hnot y hy hmatch
    rw [hnew] at hx
    rcases List.mem_append.mp hx with hx | hx
    · exact h.newer a seen hseen x hx ha hnot y hy hmatch
    · exact hlt x hx y (h.seen y hy)

/-- A decoded page keeps what is known of the tokens before, and makes this token known. -/
theorem Mid.collect {asset : Asset} {contract : String} {page_index : Nat}
    {page : Tron.TronPage Tron.Trc20TransferPayload} {snapshot : List TokenTransfer}
    {ts : List Tron.DecodedTronTransfer}
    (h : Mid context selected trc20_from requested before collected w)
    (ha : Asked trc20_from contract page snapshot requested collected w)
    (hcontract : asset.contract_address = some contract)
    (hnorm : Tron.normalize_tron_address contract = .ok contract)
    (hts : decode_trc20_items asset contract page_index 0 page.data = .ok ts) :
    let collected' := ts.foldl (collect_matching_tron_transfer asset) collected
    Mid context selected trc20_from requested before collected' w ∧
      Mid context selected trc20_from ((contract, snapshot) :: requested) (before ++ [asset])
        collected' w := by
  obtain ⟨hall, honly⟩ := mem_decode_trc20_items hts
  -- every decoded transfer is one of this contract, seen by the request
  have horigin : ∀ u ∈ ts, tron_transfer_should_scan asset u = true ∧
      ∃ y ∈ snapshot, Matches contract trc20_from y ∧ u.cursor_value = y.timestamp := by
    intro u hu
    obtain ⟨item, hitem, n, hdecode⟩ := honly u hu
    obtain ⟨y, hy, hmatch, rfl⟩ := (ha.items item).mp hitem
    obtain ⟨p, token, hp, htoken, _, _, htime, _, _, hut, _⟩ := Tron.decode_trc20_ok hdecode
    obtain rfl := Except.ok.inj hp
    obtain rfl := Except.ok.inj (htoken.symm.trans hnorm)
    refine ⟨by simp [tron_transfer_should_scan, hcontract, hut], y, hy, hmatch, ?_⟩
    exact (Option.some.inj (y.dated.symm.trans htime)).symm
  obtain ⟨hkeep, hnew, hvalue⟩ := collect_all ts collected fun u hu => (horigin u hu).1
  have hvalue' : ∀ c, (ts.foldl (collect_matching_tron_transfer asset) collected).cursor_value =
      some c → collected.cursor_value = some c ∨
        ∃ y ∈ snapshot, Matches contract trc20_from y ∧ y.timestamp = c := by
    intro c hc
    rcases hvalue c hc with hc | ⟨u, hu, rfl⟩
    · exact Or.inl hc
    · obtain ⟨_, y, hy, hmatch, htime⟩ := horigin u hu
      exact Or.inr ⟨y, hy, hmatch, htime.symm⟩
  have hbound : ∀ c, (ts.foldl (collect_matching_tron_transfer asset) collected).cursor_value =
      some c → 0 ≤ c ∧ ∃ y ∈ w.visible, c ≤ y.timestamp := by
    intro c hc
    rcases hvalue' c hc with hc | ⟨y, hy, _, rfl⟩
    · exact h.value c hc
    · exact ⟨y.nonneg, y, ha.seen y hy, le_refl _⟩
  have hold : ∀ a ∈ before, ∀ k k', a.contract_address = some k →
      Tron.normalize_tron_address k = .ok k' → ∃ seen, (k', seen) ∈ requested ∧
        ∀ x ∈ w.visible, Matches k' trc20_from x →
          (x ∈ seen → ∃ u, Decodes a x u ∧
            (a, u) ∈ (ts.foldl (collect_matching_tron_transfer asset) collected).transfers) ∧
          (x ∉ seen → ∀ c, (ts.foldl (collect_matching_tron_transfer asset)
            collected).cursor_value = some c → c < x.timestamp) := by
    intro a hamem k k' hk hk'
    obtain ⟨seen, hseen, hknown⟩ := h.known a hamem k k' hk hk'
    refine ⟨seen, hseen, fun x hx hmatch => ⟨fun hin => ?_, fun hnot c hc => ?_⟩⟩
    · obtain ⟨u, hu, hmem⟩ := (hknown x hx hmatch).1 hin
      exact ⟨u, hu, hkeep _ hmem⟩
    · rcases hvalue' c hc with hc | ⟨y, hy, hmatchy, rfl⟩
      · exact (hknown x hx hmatch).2 hnot c hc
      · exact ha.newer k' seen hseen x hx hmatch.1 hnot y hy hmatchy
  refine ⟨⟨h.inv, h.from_none, h.from_some, h.snapshots, hold, hbound⟩,
    ⟨h.inv, h.from_none, h.from_some, ?_, ?_, hbound⟩⟩
  · intro loop hloop x hx
    rcases List.mem_cons.mp hloop with rfl | hloop
    · exact ha.seen x hx
    · exact h.snapshots loop hloop x hx
  · intro a hamem k k' hk hk'
    rcases List.mem_append.mp hamem with hamem | hamem
    · obtain ⟨seen, hseen, hknown⟩ := hold a hamem k k' hk hk'
      exact ⟨seen, List.mem_cons_of_mem _ hseen, hknown⟩
    · obtain rfl := List.mem_singleton.mp hamem
      obtain rfl := Option.some.inj (hcontract.symm.trans hk)
      obtain rfl := Except.ok.inj (hnorm.symm.trans hk')
      refine ⟨snapshot, List.mem_cons_self .., fun x hx hmatch => ⟨fun hin => ?_, fun hnot c hc => ?_⟩⟩
      · obtain ⟨n, u, hu, hdecode⟩ := hall _ ((ha.items _).mpr ⟨x, hin, hmatch, rfl⟩)
        exact ⟨u, ⟨_, n, hcontract, hdecode⟩, hnew u hu⟩
      · rcases hvalue' c hc with hc | ⟨y, hy, _, rfl⟩
        · obtain ⟨y, hy, hle⟩ := ha.below c hc
          have hlt := ha.fresh x hx hnot y hy
          omega
        · exact ha.fresh x hx hnot y hy

end Promise

end CoinListener.Worker
