import CoinListener.Worker.Hosts
import CoinListener.Worker.TronCursor
import CoinListener.Worker.TronIdentity

/-! Every statement of a TRON scan keeps the promise of the TRC20 cursor. -/
namespace CoinListener.Worker
open Foundation Storage Providers TronWorld

section Coverage
variable {context : ScanAddressContext} {selected : List Asset} {trc20_from : Int}

/-- Between two scans, or where nothing is known but the invariant. -/
def anywhere (context : ScanAddressContext) (selected : List Asset) :
    Prog.Assn Later (Inv context selected) where
  holds := Inv context selected
  stable := Inv.later
  good := id

/-- Before a request with the fingerprint. -/
def between (context : ScanAddressContext) (selected : List Asset) (trc20_from : Int)
    (fingerprint : Option String) (before : List Asset) (collected : Collected) :
    Prog.Assn Later (Inv context selected) where
  holds := fun w =>
    Mid context selected trc20_from (w.earlier fingerprint) before collected w
  stable := fun {w t} h hl => by
    have hsame : t.earlier fingerprint = w.earlier fingerprint := by
      cases fingerprint <;> simp [earlier, hl.2.1]
    rw [hsame]
    exact h.later hl
  good := fun h => h.inv

/-- After a page of the contract was answered. -/
def asked (context : ScanAddressContext) (selected : List Asset) (trc20_from : Int)
    (contract : String) (page : Tron.TronPage Tron.Trc20TransferPayload) (before : List Asset)
    (collected : Collected) : Prog.Assn Later (Inv context selected) where
  holds := fun w => ∃ snapshot others, w.requested = (contract, snapshot) :: others ∧
    Mid context selected trc20_from others before collected w ∧
    Asked trc20_from contract page snapshot others collected w
  stable := fun ⟨snapshot, others, hreq, hmid, hasked⟩ hl =>
    ⟨snapshot, others, hl.2.1.trans hreq, hmid.later hl, hasked.later hl⟩
  good := fun ⟨_, _, _, hmid, _⟩ => hmid.inv

variable {P : Prog.Assn Later (Inv context selected)} {w t : TronWorld}

theorem hosts_db (allowed : TronWorld → String → Int → Option String → Prop) :
    Hosts (Step allowed) TronWorld.db fun w db => { w with db := db } where
  same := fun _ => rfl
  fate := fun h => by
    cases h with
    | db h => exact ⟨_, h, rfl⟩

/-- The page of a token: what it returns is what is visible now. -/
theorem account_trc20_transfers_page_triple {contract : String} {fingerprint : Option String}
    {before : List Asset} {collected : Collected}
    (htrimmed : ∀ contract', Tron.normalize_tron_address contract = .ok contract' →
      contract' = contract)
    (hfingerprint : push_fingerprint fingerprint = fingerprint) {β : Type}
    {f : Tron.TronPage Tron.Trc20TransferPayload → Scan β}
    {Q : β → Prog.Assn Later (Inv context selected)}
    (h : ∀ page, push_fingerprint page.next_fingerprint = page.next_fingerprint →
      Tron.normalize_tron_address contract = .ok contract →
      Prog.Triple Prog.Any (Step NotOvertaken)
        (asked context selected trc20_from contract page before collected) (f page) Q
        fun _ => anywhere context selected) :
    Prog.Triple Prog.Any (Step NotOvertaken)
      (between context selected trc20_from fingerprint before collected)
      ((account_trc20_transfers_page context.address contract trc20_from fingerprint).bind f) Q
      fun _ => anywhere context selected := by
  cases haddress : Tron.normalize_tron_address context.address with
  | error e =>
    have hfails : account_trc20_transfers_page context.address contract trc20_from fingerprint =
        .fail e := by simp [account_trc20_transfers_page, haddress]
    rw [hfails]
    exact Prog.Triple.fail fun w hw => hw.inv
  | ok address =>
    cases hnorm : Tron.normalize_tron_address contract with
    | error e =>
      have hfails : account_trc20_transfers_page context.address contract trc20_from fingerprint =
          .fail e := by simp [account_trc20_transfers_page, haddress, hnorm]
      rw [hfails]
      exact Prog.Triple.fail fun w hw => hw.inv
    | ok contract' =>
      obtain rfl := htrimmed contract' hnorm
      have hcall : account_trc20_transfers_page context.address contract' trc20_from fingerprint =
          call (.tron_trc20_transfers address contract' trc20_from fingerprint) := by
        simp only [account_trc20_transfers_page, haddress, hnorm, Prog.lift_ok, Prog.bind_eq,
          Prog.done_bind]
        rw [hfingerprint]
      rw [hcall]
      refine Prog.Triple.bind_perform (fun _ _ => trivial) fun w hw r t ht => ?_
      have hmid : Mid context selected trc20_from (w.earlier fingerprint) before collected w := hw
      cases ht with
      | failed => exact hmid.inv
      | other hother => exact absurd rfl (hother _ _ _ _)
      | page hanswers hallowed =>
        refine ⟨asked context selected trc20_from contract' _ before collected,
          ⟨w.visible, w.earlier fingerprint, rfl, ?_, ?_⟩, h _ hanswers.fingerprint hnorm⟩
        · exact ⟨⟨hmid.inv.selection, hmid.inv.covered, hmid.inv.bounded⟩, hmid.from_none,
            hmid.from_some, hmid.snapshots, hmid.known, hmid.value⟩
        · refine ⟨fun x hx => hx, fun x hx hnot => absurd hx hnot, hanswers.items, ?_, ?_⟩
          · intro a seen hseen x hx ha hnot y hy hmatch
            exact hallowed a seen hseen x hx ha hnot y hy hmatch
          · intro c hc
            exact (hmid.value c hc).2

/-- The pages of a token make it known. The page limit ends the loop before the rounds do. -/
theorem trc20_pages_triple {asset : Asset} {contract : String} {before : List Asset}
    (hcontract : asset.contract_address = some contract)
    (htrimmed : ∀ contract', Tron.normalize_tron_address contract = .ok contract' →
      contract' = contract)
    (rounds page_index : Nat) (hrounds : page_index + rounds = MAX_PROVIDER_PAGES_PER_SCAN)
    (hpos : 0 < rounds) (fingerprint : Option String)
    (hfingerprint : push_fingerprint fingerprint = fingerprint) (collected : Collected) :
    Prog.Triple Prog.Any (Step NotOvertaken)
      (between context selected trc20_from fingerprint before collected)
      (trc20_pages context asset contract trc20_from rounds page_index fingerprint collected)
      (fun collected => between context selected trc20_from none (before ++ [asset]) collected)
      fun _ => anywhere context selected := by
  induction rounds generalizing page_index fingerprint collected with
  | zero => exact absurd hpos (Nat.lt_irrefl 0)
  | succ rounds ih =>
    simp only [trc20_pages, Prog.bind_eq]
    refine account_trc20_transfers_page_triple htrimmed hfingerprint fun page hnext hnorm => ?_
    refine Prog.Triple.bind_lift (fun _ hlimit => ?_) fun _ _ w hw => Prog.Assn.good _ hw
    refine Prog.Triple.bind_lift (fun ts hts => ?_) fun _ _ w hw => Prog.Assn.good _ hw
    cases hpage : page.next_fingerprint with
    | none =>
      refine Prog.Triple.done fun w hw => ?_
      obtain ⟨snapshot, others, hreq, hmid, hasked⟩ := hw
      have hdone := (hmid.collect hasked hcontract hnorm hts).2
      rw [← hreq] at hdone
      exact hdone
    | some next =>
      have hmore := ensure_page_ok hlimit (by rw [hpage]; rfl)
      rw [hpage] at hnext
      refine (ih (page_index + 1) (by omega) (by omega) (some next) hnext _).consequence
        (fun w hw => ?_) (fun _ _ h => h) fun _ _ h => h
      obtain ⟨snapshot, others, hreq, hmid, hasked⟩ := hw
      have hgo := (hmid.collect hasked hcontract hnorm hts).1
      have htail : w.earlier (some next) = others := by simp [earlier, hreq]
      rw [← htail] at hgo
      exact hgo

/-- One token after the other. -/
theorem trc20_assets_pages_triple (assets before : List Asset)
    (htrimmed : ∀ asset ∈ assets, ∀ contract contract', asset.contract_address = some contract →
      Tron.normalize_tron_address contract = .ok contract' → contract' = contract)
    (collected : Collected) :
    Prog.Triple Prog.Any (Step NotOvertaken) (between context selected trc20_from none before collected)
      (trc20_assets_pages context trc20_from assets collected)
      (fun collected => between context selected trc20_from none (before ++ assets) collected)
      fun _ => anywhere context selected := by
  induction assets generalizing before collected with
  | nil =>
    refine Prog.Triple.done fun w hw => ?_
    rw [List.append_nil]
    exact hw
  | cons asset assets ih =>
    have hrest := fun collected => ih (before ++ [asset])
      (fun a ha => htrimmed a (List.mem_cons_of_mem _ ha)) collected
    simp only [List.append_assoc, List.singleton_append] at hrest
    unfold trc20_assets_pages
    cases hcontract : asset.contract_address with
    | none =>
      refine (hrest collected).consequence (fun w hw => ?_) (fun _ _ h => h) fun _ _ h => h
      have hmid : Mid context selected trc20_from (w.earlier none) before collected w := hw
      refine ⟨hmid.inv, hmid.from_none, hmid.from_some, hmid.snapshots, ?_, hmid.value⟩
      intro a ha contract contract' hc hc'
      rcases List.mem_append.mp ha with ha | ha
      · exact hmid.known a ha contract contract' hc hc'
      · obtain rfl := List.mem_singleton.mp ha
        exact nomatch hcontract.symm.trans hc
    | some contract =>
      refine Prog.Triple.bind (fun w => later_refl w) ?_ hrest
      exact trc20_pages_triple hcontract
        (htrimmed asset (List.mem_cons_self ..) contract · hcontract) _ 0 rfl (by decide) none rfl
        collected

/-- The native pages change nothing. -/
theorem trx_pages_triple {native_asset : Asset} {trx_from : Int} (rounds page_index : Nat)
    (fingerprint : Option String) :
    Prog.Triple Prog.Any (Step NotOvertaken) P
      (trx_pages context native_asset trx_from rounds page_index fingerprint) (fun _ => P)
      fun _ => anywhere context selected := by
  induction rounds generalizing page_index fingerprint with
  | zero => exact Prog.Triple.done fun _ h => h
  | succ rounds ih =>
    have hpage : Prog.Triple Prog.Any (Step NotOvertaken) P
        (account_transactions_page context.address trx_from fingerprint) (fun _ => P)
        fun _ => anywhere context selected := by
      refine Prog.Triple.bind_lift (fun address _ => ?_) fun _ _ w hw => P.good hw
      refine Prog.Triple.perform (fun _ _ => trivial) fun w hw r t ht => ?_
      cases ht with
      | failed => exact P.good hw
      | other _ => exact hw
    refine Prog.Triple.bind (fun w => later_refl w) hpage fun page => ?_
    refine Prog.Triple.bind_lift (fun _ _ => ?_) fun _ _ w hw => P.good hw
    refine Prog.Triple.bind_lift (fun ts _ => ?_) fun _ _ w hw => P.good hw
    cases page.next_fingerprint with
    | none => exact Prog.Triple.done fun _ h => h
    | some next =>
      refine Prog.Triple.bind (fun w => later_refl w) (ih (page_index + 1) (some next)) ?_
      intro rest
      exact Prog.Triple.done fun _ h => h

/-- All pages are read, and the transfers done so far have their events. -/
def storing (context : ScanAddressContext) (selected : List Asset) (trc20_from : Int)
    (before : List Asset) (collected : Collected) (stored : List (Asset × Tron.DecodedTronTransfer)) :
    Prog.Assn Later (Inv context selected) where
  holds := fun w => Mid context selected trc20_from w.requested before collected w ∧
    ∀ p ∈ stored, Stored context w.db.events p.1 p.2
  stable := fun ⟨hmid, hstored⟩ hl => by
    refine ⟨?_, ?_⟩
    · rw [hl.2.1]
      exact hmid.later hl
    · rw [hl.1]
      exact hstored
  good := fun h => h.1.inv

theorem insert_tron_transfer_triple {before : List Asset} {collected : Collected}
    {stored : List (Asset × Tron.DecodedTronTransfer)} (asset : Asset)
    (transfer : Tron.DecodedTronTransfer) :
    Prog.Triple Prog.Any (Step NotOvertaken)
      (storing context selected trc20_from before collected stored)
      (insert_tron_transfer context asset transfer)
      (fun _ => storing context selected trc20_from before collected (stored ++ [(asset, transfer)]))
      fun _ => anywhere context selected := by
  refine Prog.Triple.bind (fun w => later_refl w) ((hosts_db _).perform (fun _ _ h => h) fun w hw => ?_)
    fun _ => Prog.Triple.done fun _ h => h
  obtain ⟨hmid, hstored⟩ := hw
  refine ⟨hmid.insert (Tron.tron_transfer_event_draft context asset transfer), fun p hp => ?_⟩
  rcases List.mem_append.mp hp with hp | hp
  · obtain ⟨key, hkey, hevent⟩ := hstored p hp
    exact ⟨key, hkey, hevent.insert⟩
  · obtain rfl := List.mem_singleton.mp hp
    exact ⟨_, rfl, EventTables.insert_hasEvent rfl⟩

/-- The cursor of the native transfers is another one. -/
theorem write_trx_cursor_triple {before : List Asset} {collected : Collected}
    {stored : List (Asset × Tron.DecodedTronTransfer)} (value : Option Int) :
    Prog.Triple Prog.Any (Step NotOvertaken)
      (storing context selected trc20_from before collected stored)
      (write_cursor context TRON_TRX_TRANSFER_CURSOR value)
      (fun _ => storing context selected trc20_from before collected stored)
      fun _ => anywhere context selected := by
  cases value with
  | none => exact Prog.Triple.done fun _ h => h
  | some value =>
    refine (hosts_db _).perform (fun _ _ h => h) fun w hw => ?_
    obtain ⟨hmid, hstored⟩ := hw
    have hother : (w.db.upsert_scan_cursor
        (cursor_at context TRON_TRX_TRANSFER_CURSOR value)).scan_cursor context.id
          TRON_TRC20_TRANSFER_CURSOR = w.db.scan_cursor context.id TRON_TRC20_TRANSFER_CURSOR :=
      w.db.scan_cursor_upsert_other (Or.inr (show TRON_TRX_TRANSFER_CURSOR ≠ _ by decide))
    refine ⟨⟨hmid.inv.frame rfl hother fun _ h => h, ?_, ?_, hmid.snapshots, hmid.known,
      hmid.value⟩, hstored⟩
    · intro hnone
      exact hmid.from_none (hother.symm.trans hnone)
    · intro c hc
      exact hmid.from_some c (hother.symm.trans hc)

/-- The cursor moves to the newest transfer collected: a transfer below is collected and stored, or
it lay below the old cursor. -/
theorem Inv.write {before : List Asset} {collected : Collected} {value : Int}
    (hmid : Mid context selected trc20_from w.requested before collected w)
    (hbefore : before = selected_assets_by_type selected "trc20")
    (hstored : ∀ p ∈ collected.transfers, Stored context w.db.events p.1 p.2)
    (hvalue : collected.cursor_value = some value) :
    Inv context selected { w with
      db := w.db.upsert_scan_cursor (cursor_at context TRON_TRC20_TRANSFER_CURSOR value) } := by
  obtain ⟨written, hwritten, hlast⟩ :=
    w.db.scan_cursor_upsert (cursor_at context TRON_TRC20_TRANSFER_CURSOR value)
  obtain ⟨hpos, newest, hnewest, hle⟩ := hmid.value value hvalue
  refine ⟨hmid.inv.selection, ?_, ?_⟩
  · intro cursor hcursor asset hasset x hx howned hbelow
    obtain rfl := Option.some.inj (hwritten.symm.trans hcursor)
    obtain ⟨contract, hcontract, hnorm⟩ := howned
    have hselected : asset ∈ before := by
      rw [hbefore, ← hmid.inv.selection]
      exact hasset
    obtain ⟨snapshot, _, hknown⟩ := hmid.known asset hselected contract _ hcontract hnorm
    -- a transfer from `trc20_from` on and up to the new value was collected
    have hcollected : trc20_from ≤ x.timestamp → x.timestamp ≤ value →
        ∃ t, Decodes asset x t ∧ Stored context w.db.events asset t := by
      intro hfrom hto
      obtain ⟨hseen, hnot⟩ := hknown x hx ⟨rfl, hfrom⟩
      by_cases hin : x ∈ snapshot
      · obtain ⟨u, hdecodes, hmem⟩ := hseen hin
        exact ⟨u, hdecodes, hstored _ hmem⟩
      · have hlt := hnot hin value hvalue
        omega
    cases hold : w.db.scan_cursor context.id TRON_TRC20_TRANSFER_CURSOR with
    | none =>
      simp only [cursor_at, hold] at hlast
      have hfrom := hmid.from_none hold
      have hnonneg := x.nonneg
      exact hcollected (by omega) (by omega)
    | some old =>
      have hlast : written.last_scanned_block = max old.last_scanned_block value := by
        simpa only [cursor_at, hold] using hlast
      have hfrom := hmid.from_some old hold
      by_cases hcovered : x.timestamp ≤ old.last_scanned_block
      · exact hmid.inv.covered old hold asset hasset x hx ⟨contract, hcontract, hnorm⟩ hcovered
      · exact hcollected (by omega) (by omega)
  · intro cursor hcursor
    obtain rfl := Option.some.inj (hwritten.symm.trans hcursor)
    cases hold : w.db.scan_cursor context.id TRON_TRC20_TRANSFER_CURSOR with
    | none =>
      simp only [cursor_at, hold] at hlast
      exact ⟨by omega, newest, hnewest, by omega⟩
    | some old =>
      have hlast : written.last_scanned_block = max old.last_scanned_block value := by
        simpa only [cursor_at, hold] using hlast
      obtain ⟨holdpos, y, hy, hley⟩ := hmid.inv.bounded old hold
      refine ⟨by omega, ?_⟩
      by_cases hmax : old.last_scanned_block ≤ value
      · exact ⟨newest, hnewest, by omega⟩
      · exact ⟨y, hy, by omega⟩

theorem write_trc20_cursor_triple {before : List Asset} {collected : Collected}
    (hbefore : before = selected_assets_by_type selected "trc20") :
    Prog.Triple Prog.Any (Step NotOvertaken)
      (storing context selected trc20_from before collected collected.transfers)
      (write_cursor context TRON_TRC20_TRANSFER_CURSOR collected.cursor_value)
      (fun _ => anywhere context selected) fun _ => anywhere context selected := by
  cases hvalue : collected.cursor_value with
  | none => exact Prog.Triple.done fun _ h => h.1.inv
  | some value =>
    exact (hosts_db _).perform (fun _ _ h => h) fun w hw => Inv.write hw.1 hbefore hw.2 hvalue

/-- The first request of a scan starts right after the cursor. -/
theorem Mid.start (h : Inv context selected w) (hrequested : w.requested = []) :
    Mid context selected
      (next_after (w.db.scan_cursor context.id TRON_TRC20_TRANSFER_CURSOR))
      w.requested [] ⟨none, []⟩ w := by
  rw [hrequested]
  refine ⟨h, fun hnone => ?_, fun cursor hcursor => ?_, nofun, nofun, nofun⟩
  · rw [hnone]
    exact le_refl _
  · rw [hcursor]
    have hpos := (h.bounded cursor hcursor).1
    exact wrap_i64_le (by omega)

/-- No request of this scan was answered yet. -/
def fresh (context : ScanAddressContext) (selected : List Asset) :
    Prog.Assn Later (Inv context selected) where
  holds := fun w => Inv context selected w ∧ w.requested = []
  stable := fun h hl => ⟨h.1.later hl, hl.2.1.trans h.2⟩
  good := fun h => h.1

/-- A whole scan, from one state between scans to the next. -/
theorem scan_triple (provider : Provider)
    (htrimmed : ∀ asset ∈ selected_assets_by_type selected "trc20", ∀ contract contract',
      asset.contract_address = some contract →
      Tron.normalize_tron_address contract = .ok contract' → contract' = contract) :
    Prog.Triple Prog.Any (Step NotOvertaken) (fresh context selected)
      (scan_tron_address_with_provider context provider) (fun _ => anywhere context selected)
      fun _ => anywhere context selected := by
  have hR := fun w : TronWorld => later_refl w
  have hnone : ∀ {P : Asset × Tron.DecodedTronTransfer → Prop}, ∀ p ∈ [], P p :=
    fun _ hp => absurd hp List.not_mem_nil
  simp only [scan_tron_address_with_provider, Prog.bind_eq, Prog.pure_eq]
  refine Prog.Triple.bind_lift (fun _ _ => ?_) fun _ _ _ hw => hw.1
  refine (hosts_db _).bind_read (fun _ => rfl) (fun _ _ h => h) fun w native_asset hw _ => ⟨_, hw, ?_⟩
  refine (hosts_db _).bind_read (fun _ => rfl) (fun _ _ h => h)
    fun w selected_assets hw hselected => ⟨_, hw, ?_⟩
  obtain rfl : selected = selected_assets := by
    rw [← hw.1.selection]
    exact Except.ok.inj hselected
  refine Prog.Triple.bind_lift (fun _ _ => ?_) fun _ _ _ hw => hw.1
  refine (hosts_db _).bind_read (fun _ => rfl) (fun _ _ h => h) fun w trx_cursor hw _ => ⟨_, hw, ?_⟩
  have hnative : Prog.Triple Prog.Any (Step NotOvertaken) (fresh context selected)
      (if native_asset_selected selected native_asset then
        trx_pages context native_asset (next_after trx_cursor) MAX_PROVIDER_PAGES_PER_SCAN 0 none
        else .done []) (fun _ => fresh context selected) fun _ => anywhere context selected := by
    split
    · exact trx_pages_triple _ 0 none
    · exact Prog.Triple.done fun _ h => h
  refine Prog.Triple.bind hR hnative fun trx_transfers => ?_
  refine (hosts_db _).bind_read (fun _ => rfl) (fun _ _ h => h) fun w trc20_cursor hw hcursor => ?_
  obtain rfl := Except.ok.inj hcursor
  refine ⟨between context selected _ none [] ⟨none, []⟩, Mid.start hw.1 hw.2, ?_⟩
  refine Prog.Triple.bind hR (trc20_assets_pages_triple _ [] htrimmed _) fun trc20 => ?_
  have htrx := Prog.Triple.forEach (J := fun _ => storing context selected
      (next_after (w.db.scan_cursor context.id TRON_TRC20_TRANSFER_CURSOR))
      ([] ++ selected_assets_by_type selected "trc20") trc20 []) hR []
    (trx_transfers.filter (tron_transfer_should_scan native_asset))
    fun _ transfer _ _ => (insert_tron_transfer_triple native_asset transfer).consequence
      (fun _ h => h) (fun _ _ h => ⟨h.1, hnone⟩) fun _ _ h => h
  refine Prog.Triple.bind hR (htrx.consequence (fun _ h => ⟨h, hnone⟩) (fun _ _ h => h)
    fun _ _ h => h) fun trx_events => ?_
  have htrc20 := Prog.Triple.forEach (J := storing context selected
      (next_after (w.db.scan_cursor context.id TRON_TRC20_TRANSFER_CURSOR))
      ([] ++ selected_assets_by_type selected "trc20") trc20) hR [] trc20.transfers
    fun _ transfer _ _ => insert_tron_transfer_triple transfer.1 transfer.2
  refine Prog.Triple.bind hR htrc20 fun trc20_events => ?_
  refine Prog.Triple.bind hR (write_trx_cursor_triple _) fun _ => ?_
  refine Prog.Triple.bind hR (write_trc20_cursor_triple rfl) fun _ => ?_
  exact Prog.Triple.done fun _ h => h

end Coverage

/-- The only page of a contract: all that is visible. -/
def visible_page (w : TronWorld) (contract : String) (min_timestamp : Int) :
    Tron.TronPage Tron.Trc20TransferPayload :=
  { data := (w.visible.filter fun x =>
      x.payload.token_address == contract && min_timestamp ≤ x.timestamp).map (.ok ·.payload)
    next_fingerprint := none }

theorem visible_page_answers (w : TronWorld) (contract : String) (min_timestamp : Int) :
    w.Answers contract min_timestamp (visible_page w contract min_timestamp) := by
  refine ⟨rfl, fun item => ?_⟩
  simp only [visible_page, List.mem_map, List.mem_filter, Bool.and_eq_true, beq_iff_eq,
    decide_eq_true_eq, Matches, and_assoc]
  constructor
  · rintro ⟨x, hx, hcontract, htime, rfl⟩
    exact ⟨x, hx, hcontract, htime, rfl⟩
  · rintro ⟨x, hx, hcontract, htime, rfl⟩
    exact ⟨x, hx, hcontract, htime, rfl⟩

/-- A provider without growth that answers the requests of the first token of a scan. -/
def quiet_step (w : TronWorld) : (s : Statement) → AppResult s.Answer × TronWorld
  | .db q => ((q.run w.db).1, { w with db := (q.run w.db).2 })
  | .remote (.tron_trc20_transfers _ contract min_timestamp fingerprint) =>
    if w.earlier fingerprint = [] then
      (.ok (visible_page w contract min_timestamp), { w with requested := [(contract, w.visible)] })
    else (.error (.Config "TRON TRC20 transfers request failed: timeout"), w)
  | .remote _ => (.error (.Config "no answer"), w)

theorem quiet_step_allowed (w : TronWorld) (s : Statement) :
    Step NotOvertaken w s (quiet_step w s).1 (quiet_step w s).2 := by
  cases s with
  | db q => exact .db .answered
  | remote c =>
    cases c with
    | tron_trc20_transfers address contract min_timestamp fingerprint =>
      by_cases h : w.earlier fingerprint = []
      · have hallowed : NotOvertaken w contract min_timestamp fingerprint := by
          rw [NotOvertaken, h]
          exact nofun
        have hstep := @Step.page _ w address _ _ _ _
          (visible_page_answers w contract min_timestamp) hallowed
        rw [h] at hstep
        simpa only [quiet_step, h, if_true] using hstep
      · simpa only [quiet_step, h, if_false] using Step.failed
    | _ => exact .failed

def trc20_asset (id : Uuid) (symbol contract : String) : Asset :=
  { id := id, chain_id := 3, asset_type := "trc20", symbol := symbol, name := symbol,
    contract_address := some contract, decimals := 6, status := "active" }

def usdd : Asset := trc20_asset 6 "USDD" "TDDDDDDDDDDDDDDDDDDDDDDDDDDDDDDDDD"

def usdt : Asset := trc20_asset 7 "USDT" "TUUUUUUUUUUUUUUUUUUUUUUUUUUUUUUUUU"

def token_payment (digit : Char) (contract : String) (timestamp : Nat) : TokenTransfer where
  payload :=
    { transaction_id := String.ofList (List.replicate 64 digit)
      block_number := some 7
      block_timestamp := some timestamp
      from_address := "TBBBBBBBBBBBBBBBBBBBBBBBBBBBBBBBBB"
      to_address := watched_tron.address
      value := "1000000"
      token_address := contract }
  timestamp := timestamp
  dated := rfl
  nonneg := Int.natCast_nonneg _

def tokens_selected (visible : List TokenTransfer) : TronWorld where
  db := { chains := [], assets := [trx_asset, usdd, usdt],
          watched_address_assets := [(1, 6), (1, 7)], scan_cursors := [], balance_snapshots := [],
          clock := 0, events := .empty }
  visible := visible
  requested := []

/-- The world after a scan. -/
def scanned (step : TronWorld → (s : Statement) → AppResult s.Answer × TronWorld) (w : TronWorld) :
    TronWorld :=
  ((scan_tron_address_with_provider watched_tron tron_provider).eval step
    { w with requested := [] }).2

theorem scanned_runs {allowed : TronWorld → String → Int → Option String → Prop}
    {step : TronWorld → (s : Statement) → AppResult s.Answer × TronWorld}
    (hstep : ∀ w s, ∃ u, (u = w ∨ Grows w u) ∧ Step allowed u s (step w s).1 (step w s).2)
    (w : TronWorld) : ∃ q, Relation.ReflTransGen
      (Prog.Turn (Step allowed) Grows (Launches watched_tron)) (w, .done [])
      (scanned step w, q) := by
  have hrun : ∃ q, Relation.ReflTransGen (Prog.Turn (Step allowed) Grows (Launches watched_tron))
      ({ w with requested := [] }, scan_tron_address_with_provider watched_tron tron_provider)
      (scanned step w, q) := Prog.Turn.of_eval hstep _ _
  obtain ⟨q, hrun⟩ := hrun
  exact ⟨q, .head (.launch (.scan tron_provider)) hrun⟩

/-- With one token watched, a scan takes the cursor to its payment. -/
def one_token : TronWorld :=
  let w := tokens_selected [token_payment 'a' "TDDDDDDDDDDDDDDDDDDDDDDDDDDDDDDDDD" 1000]
  { w with db := { w.db with watched_address_assets := [(1, 6)] } }

/-- A block with a payment of either token. -/
def block : List TokenTransfer :=
  [token_payment 'c' "TDDDDDDDDDDDDDDDDDDDDDDDDDDDDDDDDD" 3000,
    token_payment 'd' "TUUUUUUUUUUUUUUUUUUUUUUUUUUUUUUUUU" 3000]

/-- The block arrives once the first token was asked for. -/
def arrival (w : TronWorld) : TronWorld :=
  if w.requested ≠ [] ∧ w.visible = [] then { w with visible := w.visible ++ block } else w

theorem arrival_grows (w : TronWorld) : arrival w = w ∨ Grows w (arrival w) := by
  by_cases h : w.requested ≠ [] ∧ w.visible = []
  · right
    rw [arrival, if_pos h]
    refine .block block 3000 (by decide) ?_
    rw [h.2]
    exact nofun
  · exact Or.inl (if_neg h)

def growing_step (w : TronWorld) : (s : Statement) → AppResult s.Answer × TronWorld
  | .db q => ((q.run w.db).1, { w with db := (q.run w.db).2 })
  | .remote (.tron_trc20_transfers _ contract min_timestamp fingerprint) =>
    let w := arrival w
    (.ok (visible_page w contract min_timestamp),
      { w with requested := (contract, w.visible) :: w.earlier fingerprint })
  | .remote _ => (.error (.Config "no answer"), w)

theorem growing_step_runs (w : TronWorld) (s : Statement) :
    ∃ u, (u = w ∨ Grows w u) ∧
      Step (fun _ _ _ _ => True) u s (growing_step w s).1 (growing_step w s).2 := by
  cases s with
  | db q => exact ⟨w, Or.inl rfl, .db .answered⟩
  | remote c =>
    cases c with
    | tron_trc20_transfers address contract min_timestamp fingerprint =>
      exact ⟨arrival w, arrival_grows w, .page (visible_page_answers _ _ _) trivial⟩
    | _ => exact ⟨w, Or.inl rfl, .failed⟩

/-- After the scan: the cursor stands at the block, and the first token's payment has no event. -/
theorem scanned_growing :
    let w := scanned growing_step (tokens_selected [])
    w.db.scan_cursor watched_tron.id TRON_TRC20_TRANSFER_CURSOR =
        some (cursor_at watched_tron TRON_TRC20_TRANSFER_CURSOR 3000) ∧
      usdd ∈ selected_assets_by_type (w.db.selected_assets_for_address watched_tron.id) "trc20" ∧
      token_payment 'c' "TDDDDDDDDDDDDDDDDDDDDDDDDDDDDDDDDD" 3000 ∈ w.visible ∧
      ∀ e ∈ w.db.events.address_events,
        e.tx_hash ≠ some (String.ofList (List.replicate 64 'c')) := by
  decide +kernel

end CoinListener.Worker
