import CoinListener.Worker.TronScan

/-! The identity of a TRON transfer across scans. -/
namespace CoinListener.Worker
open Foundation Storage Providers

/-- An item of a page of native transfers, or of the transfers of one contract. -/
inductive TronItem where
  | trx (payload : Tron.Item Tron.TrxTransferPayload)
  | trc20 (payload : Tron.Item Tron.Trc20TransferPayload) (contract_address : String)

/-- What a scan makes of an item at a position of its pages. -/
def scanned_transfer (asset : Asset) (item : TronItem) (page_index index : Nat) :
    AppResult (Option Tron.DecodedTronTransfer) := do
  let log_index ← paged_log_index page_index index
  match item with
  | .trx payload =>
    match ← Tron.try_decode_trx_transfer_at_index payload asset.decimals log_index with
    | .Transfer transfer => return some transfer
    | .Skip => return none
  | .trc20 payload contract_address =>
    let transfer ← Tron.decode_trc20_transfer_at_index payload contract_address asset.decimals
      log_index
    return some transfer

/-- The text of a successful check. -/
def text_of (checked : AppResult String) : String :=
  match checked with
  | .ok text => text
  | .error _ => ""

/-- What is hashed for an item under a fallback index. -/
def TronItem.preimage (item : TronItem) (log_index : Int) : List Nat :=
  match item with
  | .trc20 (.ok payload) _ =>
    Tron.log_index_preimage payload.transaction_id payload.from_address payload.to_address
      (text_of (Tron.parse_non_negative_decimal_string payload.value "value"))
      (some (text_of (Tron.normalize_tron_address payload.token_address))) log_index
  | .trx (.ok payload) =>
    match payload.contract.find? (·.contract_type == "TransferContract") with
    | some contract =>
      Tron.log_index_preimage payload.tx_id
        (text_of (Tron.normalize_tron_address (contract.owner_address.getD "")))
        (text_of (Tron.normalize_tron_address (contract.to_address.getD "")))
        (toString (contract.amount.getD 0)) none log_index
    | none => []
  | _ => []

/-- Two different messages whose digests agree in the bits a log index keeps. -/
def Collide (a b : List Nat) : Prop :=
  a ≠ b ∧ Tron.low31 (Sha256.digest a) = Tron.low31 (Sha256.digest b)

instance (a b : List Nat) : Decidable (Collide a b) :=
  inferInstanceAs (Decidable (_ ∧ _))

section Identity
variable {asset : Asset} {item : TronItem} {page_index index page_index' index' : Nat}
  {t t' : Tron.DecodedTronTransfer}

def TronItem.tx_hash : TronItem → String
  | .trc20 (.ok payload) _ => payload.transaction_id
  | .trx (.ok payload) => payload.tx_id
  | _ => ""

theorem paged_log_index_ok {n : Int} (h : paged_log_index page_index index = .ok n) :
    n = position page_index index ∧ position page_index index ≤ 2147483647 := by
  unfold paged_log_index at h
  split at h
  · next hle => exact ⟨(Except.ok.inj h).symm, hle⟩
  · exact nomatch h

/-- The transfer keeps the hash of its item; its log index is hashed with the position. -/
theorem scanned_transfer_ok (h : scanned_transfer asset item page_index index = .ok (some t)) :
    t.tx_hash = item.tx_hash ∧ position page_index index ≤ 2147483647 ∧
      t.log_index = some (Tron.low31 (Sha256.digest
        (item.preimage (position page_index index)))) := by
  obtain ⟨n, hn, h⟩ := bind_ok h
  obtain ⟨rfl, hle⟩ := paged_log_index_ok hn
  cases item with
  | trx payload =>
    obtain ⟨decoded, hdecoded, h⟩ := bind_ok h
    cases decoded with
    | Skip => exact nomatch h
    | Transfer transfer =>
      obtain rfl := Option.some.inj (Except.ok.inj h)
      obtain ⟨p, c, owner, to_address, amount, rfl, hc, howner, hfrom, hto_address, hto, hamount,
        hraw, _, _, htx, _, hindex⟩ := Tron.try_decode_trx_ok hdecoded
      refine ⟨htx, hle, ?_⟩
      rw [hindex]
      simp [TronItem.preimage, Tron.tron_transfer_log_index, hc, howner, hto_address, hamount,
        hfrom, hto, hraw, text_of]
  | trc20 payload contract_address =>
    obtain ⟨transfer, htransfer, h⟩ := bind_ok h
    obtain rfl := Option.some.inj (Except.ok.inj h)
    obtain ⟨p, token, rfl, _, htoken, hamount, _, _, htx, _, hindex⟩ :=
      Tron.decode_trc20_ok htransfer
    refine ⟨htx, hle, ?_⟩
    rw [hindex]
    simp [TronItem.preimage, Tron.tron_transfer_log_index, htoken, hamount, text_of]

theorem bytes32_injective {m n : Nat} (hm : m < 0x100000000) (hn : n < 0x100000000)
    (h : Sha256.bytes32 m = Sha256.bytes32 n) : m = n := by
  simp only [Sha256.bytes32, List.cons.injEq, and_true] at h
  omega

/-- The position stands at the end of what is hashed. -/
theorem preimage_form (h : scanned_transfer asset item page_index index = .ok (some t)) :
    ∃ fields, ∀ n : Int, item.preimage n = fields ++ Sha256.bytes32 (n % 0x100000000).toNat := by
  obtain ⟨n, hn, h⟩ := bind_ok h
  cases item with
  | trx payload =>
    obtain ⟨decoded, hdecoded, h⟩ := bind_ok h
    cases decoded with
    | Skip => exact nomatch h
    | Transfer transfer =>
      obtain ⟨p, c, owner, to_address, amount, rfl, hc, _⟩ := Tron.try_decode_trx_ok hdecoded
      simp only [TronItem.preimage, hc]
      exact ⟨_, fun n => rfl⟩
  | trc20 payload contract_address =>
    obtain ⟨transfer, htransfer, h⟩ := bind_ok h
    obtain ⟨p, token, rfl, _⟩ := Tron.decode_trc20_ok htransfer
    exact ⟨_, fun n => rfl⟩

/-- Different positions are hashed differently. -/
theorem preimage_injective (h : scanned_transfer asset item page_index index = .ok (some t))
    {m n : Nat} (hm : m ≤ 2147483647) (hn : n ≤ 2147483647)
    (heq : item.preimage m = item.preimage n) : m = n := by
  obtain ⟨fields, hfields⟩ := preimage_form h
  rw [hfields, hfields] at heq
  have hbytes := bytes32_injective (by omega) (by omega) (List.append_cancel_left heq)
  omega

/-- The columns of the unique index are those of the transfer. -/
theorem tron_draft_key (context : ScanAddressContext) (asset : Asset)
    (t : Tron.DecodedTronTransfer) :
    (Tron.tron_transfer_event_draft context asset t).unique_transfer =
      some ⟨context.chain_id, t.tx_hash, t.log_index.getD (-1), context.id, asset.id, "transfer"⟩ :=
  rfl

/-- Two transfers are one event: they have one identity, and storing the second after the first
adds neither an event nor an outbox row. -/
def SameEvent (context : ScanAddressContext) (asset : Asset) (t t' : Tron.DecodedTronTransfer) :
    Prop :=
  (Tron.tron_transfer_event_draft context asset t).unique_transfer =
      (Tron.tron_transfer_event_draft context asset t').unique_transfer ∧
    ∀ tables : EventTables,
      let after := (tables.insert_event_and_outbox_if_not_exists
        (Tron.tron_transfer_event_draft context asset t)).2
      (after.insert_event_and_outbox_if_not_exists
        (Tron.tron_transfer_event_draft context asset t')).2 = after

/-- A transfer that two scans return at two positions is one event exactly when the positions are
equal or their hashes happen to collide. -/
theorem rescan_same_identity_iff (context : ScanAddressContext)
    (h : scanned_transfer asset item page_index index = .ok (some t))
    (h' : scanned_transfer asset item page_index' index' = .ok (some t')) :
    SameEvent context asset t t' ↔
      position page_index index = position page_index' index' ∨
        Collide (item.preimage (position page_index index))
          (item.preimage (position page_index' index')) := by
  obtain ⟨htx, hle, hindex⟩ := scanned_transfer_ok h
  obtain ⟨htx', hle', hindex'⟩ := scanned_transfer_ok h'
  have hkey := tron_draft_key context asset t
  have hkey' := tron_draft_key context asset t'
  constructor
  · rintro ⟨hsame, _⟩
    rw [hkey, hkey', hindex, hindex'] at hsame
    simp only [Option.some.injEq, TransferKey.mk.injEq, Option.getD_some, true_and] at hsame
    by_cases hp : position page_index index = position page_index' index'
    · exact Or.inl hp
    · exact Or.inr ⟨fun heq => hp (preimage_injective h hle hle' heq), hsame.2.1⟩
  · intro hcases
    have hdigest : Tron.low31 (Sha256.digest (item.preimage (position page_index index))) =
        Tron.low31 (Sha256.digest (item.preimage (position page_index' index'))) := by
      rcases hcases with hp | hc
      · rw [hp]
      · exact hc.2
    have hsame : (Tron.tron_transfer_event_draft context asset t).unique_transfer =
        (Tron.tron_transfer_event_draft context asset t').unique_transfer := by
      rw [hkey, hkey', hindex, hindex', htx, htx', hdigest]
    refine ⟨hsame, fun tables => ?_⟩
    have hstored := EventTables.insert_hasEvent (t := tables) hkey
    have hknown := EventTables.insert_known (hsame.symm.trans hkey) hstored
    simp only [hknown]

end Identity

/-! ### Two scans of one transfer -/

/-- A provider that answers from a list of pages, and a database that may refuse one cursor write. -/
structure Scripted where
  db : Db
  pages : List (Tron.TronPage Tron.TrxTransferPayload)
  refuses : Bool

def Scripted.step (w : Scripted) : (s : Statement) → AppResult s.Answer × Scripted
  | .db (.upsert_scan_cursor cursor) =>
    if w.refuses then (.error (.Database "connection closed"), { w with refuses := false })
    else (.ok (), { w with db := w.db.upsert_scan_cursor cursor })
  | .db q => ((q.run w.db).1, { w with db := (q.run w.db).2 })
  | .remote (.tron_transactions ..) =>
    match w.pages with
    | [] => (.error (.Config "TRON account transactions request failed: timeout"), w)
    | page :: pages => (.ok page, { w with pages := pages })
  | .remote _ => (.error (.Config "no answer"), w)

def watched_tron : ScanAddressContext :=
  { id := 1, tenant_id := 2, chain_id := 3, address := "TAAAAAAAAAAAAAAAAAAAAAAAAAAAAAAAAA" }

def trx_asset : Asset :=
  { id := 4, chain_id := 3, asset_type := "native", symbol := "TRX", name := "TRON",
    contract_address := none, decimals := 6, status := "active" }

def tron_provider : Provider :=
  { id := 5, chain_id := 3, name := "trongrid", base_url := "https://api.trongrid.io",
    timeout_ms := 5000 }

def trx_payment (digit : Char) (timestamp : Int) : Tron.Item Tron.TrxTransferPayload :=
  .ok { tx_id := String.ofList (List.replicate 64 digit)
        block_number := 7
        block_timestamp := timestamp
        contract := [{ contract_type := "TransferContract"
                       owner_address := some "TBBBBBBBBBBBBBBBBBBBBBBBBBBBBBBBBB"
                       to_address := some watched_tron.address
                       amount := some 1000000 }] }

/-- The payment as the scan decodes it at an item of the first page. -/
def decoded_payment (index : Nat) : Tron.DecodedTronTransfer :=
  { tx_hash := String.ofList (List.replicate 64 'a')
    cursor_value := 1000
    block_number := some 7
    log_index := some (Tron.low31 (Sha256.digest
      ((TronItem.trx (trx_payment 'a' 1000)).preimage (position 0 index))))
    from_address := "TBBBBBBBBBBBBBBBBBBBBBBBBBBBBBBBBB"
    to_address := watched_tron.address
    amount_raw := "1000000"
    amount_decimal := "1.0"
    token_contract := none }

theorem moved_payment_not_same :
    ¬ SameEvent watched_tron trx_asset (decoded_payment 0) (decoded_payment 1) := by
  have h : scanned_transfer trx_asset (.trx (trx_payment 'a' 1000)) 0 0 =
      .ok (some (decoded_payment 0)) := by decide +kernel
  have h' : scanned_transfer trx_asset (.trx (trx_payment 'a' 1000)) 0 1 =
      .ok (some (decoded_payment 1)) := by decide +kernel
  exact (rescan_same_identity_iff watched_tron h h').not.mpr (by decide +kernel)

/-- The first scan sees one payment and its cursor is not written; before the second a newer payment
arrives. -/
def scripted_start : Scripted where
  db := { chains := [], assets := [trx_asset], watched_address_assets := [(1, 4)], scan_cursors := [],
          balance_snapshots := [], clock := 0, events := .empty }
  pages := [⟨[trx_payment 'a' 1000], none⟩, ⟨[trx_payment 'b' 2000, trx_payment 'a' 1000], none⟩]
  refuses := true

def scan_scripted (w : Scripted) : Scripted :=
  ((scan_tron_address_with_provider watched_tron tron_provider).eval Scripted.step w).2

/-- The older payment is stored twice, with an outbox row for either event. -/
theorem rescan_inserts_again :
    let tables := (scan_scripted (scan_scripted scripted_start)).db.events
    let events := tables.address_events.filter
      (·.tx_hash == some (String.ofList (List.replicate 64 'a')))
    events.length = 2 ∧ ∀ e ∈ events, ∃ o ∈ tables.notification_outbox, o.event_id = e.id := by
  decide +kernel

end CoinListener.Worker
