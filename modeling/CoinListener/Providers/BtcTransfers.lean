import CoinListener.Providers.Btc
import Mathlib.Algebra.BigOperators.Group.List.Basic

/-! What a BTC transaction means for a watched address: the sums of what it receives and spends. -/
namespace CoinListener.Providers.Btc
open Foundation

/-- The outputs paid to an address. -/
def paid_to (address : String) (outputs : List BtcVout) : List BtcVout :=
  outputs.filter fun output => output.scriptpubkey_address == some address

def total (outputs : List BtcVout) : Int :=
  (outputs.map (·.value)).sum

/-- The inputs that spend an output paid to an address. -/
def spent_from (address : String) (inputs : List BtcVin) : List BtcVin :=
  inputs.filter fun input =>
    input.prevout.any fun prevout => prevout.scriptpubkey_address == some address

def prevouts (inputs : List BtcVin) : List BtcVout :=
  inputs.filterMap (·.prevout)

section
variable {tx tx' : BtcTransaction} {watched_address address field : String} {block_number : Int}
  {outputs : List BtcVout} {inputs : List BtcVin} {n : Int} {result : Option DecodedBtcTransfer}

theorem validate_non_negative_sats_ok {u : Unit} :
    validate_non_negative_sats n field = .ok u ↔ 0 ≤ n := by
  unfold validate_non_negative_sats
  by_cases hn : 0 ≤ n
  · simp [hn]
  · simp [hn]

/-- The sum is taken when no output has a negative value, whoever it is paid to. -/
theorem sum_sats_iff : sum_sats field address outputs = .ok n ↔
    (∀ output ∈ outputs, 0 ≤ output.value) ∧ n = total (paid_to address outputs) := by
  induction outputs generalizing n with
  | nil => simp [sum_sats, paid_to, total, eq_comm]
  | cons output outputs ih =>
    have htotal : total (paid_to address (output :: outputs)) =
        (if output.scriptpubkey_address = some address then output.value else 0) +
          total (paid_to address outputs) := by
      by_cases hpaid : output.scriptpubkey_address = some address
      · simp [paid_to, total, hpaid]
      · simp [paid_to, total, hpaid]
    rw [List.forall_mem_cons, htotal]
    constructor
    · intro h
      obtain ⟨_, hvalid, h⟩ := bind_ok h
      obtain ⟨rest, hrest, h⟩ := bind_ok h
      obtain ⟨hall, rfl⟩ := ih.mp hrest
      exact ⟨⟨validate_non_negative_sats_ok.mp hvalid, hall⟩, (Except.ok.inj h).symm⟩
    · rintro ⟨⟨hvalid, hall⟩, rfl⟩
      have hrest := ih.mpr ⟨hall, rfl⟩
      have hhead : validate_non_negative_sats output.value field = .ok () :=
        validate_non_negative_sats_ok.mpr hvalid
      rw [sum_sats, hhead, hrest]
      rfl

theorem prevouts_paid : paid_to address (prevouts inputs) = prevouts (spent_from address inputs) := by
  induction inputs with
  | nil => rfl
  | cons input inputs ih =>
    unfold paid_to prevouts spent_from at ih ⊢
    cases hprevout : input.prevout with
    | none => simpa [hprevout] using ih
    | some prevout =>
      by_cases hpaid : prevout.scriptpubkey_address = some address
      · simpa [hprevout, hpaid] using ih
      · simpa [hprevout, hpaid] using ih

/-! ### Accepted transactions -/

/-- The checks on a transaction that do not look at its inputs and outputs. -/
structure Header (tx : BtcTransaction) (watched_address address : String) (block_number : Int) :
    Prop where
  address : normalize_btc_address watched_address = .ok address
  confirmed : tx.status.confirmed = true
  height : tx.status.block_height = some block_number
  nonneg : 0 ≤ block_number
  txid : validate_btc_hash tx.txid "txid" = .ok ()
  block_hash : validate_optional_btc_hash tx.status.block_hash "block_hash" = .ok ()

/-- No input or output has a negative value. -/
def NonNegative (tx : BtcTransaction) : Prop :=
  (∀ output ∈ tx.vout, 0 ≤ output.value) ∧ ∀ output ∈ prevouts tx.vin, 0 ≤ output.value

def received (tx : BtcTransaction) (address : String) : Int :=
  total (paid_to address tx.vout)

def spent (tx : BtcTransaction) (address : String) : Int :=
  total (prevouts (spent_from address tx.vin))

/-- The direction of a signed amount. -/
def direction (delta : Int) : String :=
  if 0 < delta then "in" else if delta < 0 then "out" else "self"

/-- The transfer made of the two sums. -/
def Transfers (tx : BtcTransaction) (block_number received spent : Int)
    (t : DecodedBtcTransfer) : Prop :=
  ∃ amount_decimal,
    sats_to_decimal_string (toString ((received - spent).natAbs : Int)) = .ok amount_decimal ∧
    t = {
      tx_hash := tx.txid
      block_number := block_number
      block_hash := tx.status.block_hash
      direction := direction (received - spent)
      amount_raw := toString ((received - spent).natAbs : Int)
      amount_decimal := amount_decimal
      received_raw := toString received
      spent_raw := toString spent }

/-- What is made of the two sums. -/
def Outcome (tx : BtcTransaction) (block_number received spent : Int) :
    Option DecodedBtcTransfer → Prop
  | none => received = 0 ∧ spent = 0
  | some t => ¬ (received = 0 ∧ spent = 0) ∧ Transfers tx block_number received spent t

theorem abs_amount (delta : Int) : (if delta < 0 then -delta else delta) = (delta.natAbs : Int) := by
  split <;> omega

/-- A transaction is classified when its header and its values are accepted, and only the two sums
decide on the result. -/
theorem classify_iff : classify_btc_transaction tx watched_address = .ok result ↔
    ∃ address block_number, Header tx watched_address address block_number ∧ NonNegative tx ∧
      Outcome tx block_number (received tx address) (spent tx address) result := by
  constructor
  · intro h
    unfold classify_btc_transaction at h
    obtain ⟨address, haddress, h⟩ := bind_ok h
    obtain ⟨_, hconfirmed, h⟩ := bind_ok h
    obtain ⟨block_number, hheight, h⟩ := bind_ok h
    obtain ⟨_, hnonneg, h⟩ := bind_ok h
    obtain ⟨_, htxid, h⟩ := bind_ok h
    obtain ⟨_, hblock_hash, h⟩ := bind_ok h
    obtain ⟨got, hgot, h⟩ := bind_ok h
    obtain ⟨paid, hpaid, h⟩ := bind_ok h
    obtain ⟨hvout, rfl⟩ := sum_sats_iff.mp hgot
    obtain ⟨hvin, rfl⟩ := sum_sats_iff.mp hpaid
    refine ⟨address, block_number, ⟨haddress, ensure_ok.mp hconfirmed, required_ok.mp hheight,
      of_decide_eq_true (ensure_ok.mp hnonneg), htxid, hblock_hash⟩, ⟨hvout, hvin⟩, ?_⟩
    have hspent : total (paid_to address (tx.vin.filterMap (·.prevout))) = spent tx address :=
      congrArg total prevouts_paid
    rw [hspent] at h
    split at h
    · next hnothing =>
      obtain rfl := Except.ok.inj h
      exact hnothing
    · next hsome =>
      obtain ⟨amount_decimal, hamount, h⟩ := bind_ok h
      rw [abs_amount] at hamount
      obtain rfl := Except.ok.inj h
      refine ⟨hsome, amount_decimal, hamount, ?_⟩
      rw [abs_amount]
      rfl
  · rintro ⟨address, block_number, hheader, ⟨hvout, hvin⟩, houtcome⟩
    have hspent : total (paid_to address (tx.vin.filterMap (·.prevout))) = spent tx address :=
      congrArg total prevouts_paid
    have hgot : sum_sats "vout.value" address tx.vout = .ok (received tx address) :=
      sum_sats_iff.mpr ⟨hvout, rfl⟩
    have hpaid : sum_sats "vin.prevout.value" address (tx.vin.filterMap (·.prevout)) =
        .ok (spent tx address) := sum_sats_iff.mpr ⟨hvin, hspent.symm⟩
    simp only [classify_btc_transaction, hheader.address, hheader.confirmed, ensure, hheader.height,
      required, hheader.nonneg, hheader.txid, hheader.block_hash, hgot, hpaid, Except.bind, bind,
      decide_true, if_true]
    cases result with
    | none =>
      have hnothing : received tx address = 0 ∧ spent tx address = 0 := houtcome
      rw [if_pos hnothing]
      rfl
    | some t =>
      obtain ⟨hsome, amount_decimal, hamount, rfl⟩ := houtcome
      rw [if_neg hsome, abs_amount, hamount]
      rfl

/-! ### Other transactions -/

/-- Two transactions with the same header, and the same inputs and outputs of an address in some
order, whatever else they have. -/
structure SameFor (address : String) (tx tx' : BtcTransaction) : Prop where
  txid : tx'.txid = tx.txid
  status : tx'.status = tx.status
  vout : (paid_to address tx'.vout).Perm (paid_to address tx.vout)
  vin : (spent_from address tx'.vin).Perm (spent_from address tx.vin)

theorem total_perm {a b : List BtcVout} (h : a.Perm b) : total a = total b :=
  (h.map _).sum_eq

theorem SameFor.outcome (h : SameFor address tx tx') :
    Outcome tx' block_number (received tx' address) (spent tx' address) result ↔
      Outcome tx block_number (received tx address) (spent tx address) result := by
  have hreceived : received tx' address = received tx address := total_perm h.vout
  have hspent : spent tx' address = spent tx address := total_perm (h.vin.filterMap _)
  rw [hreceived, hspent]
  cases result with
  | none => exact Iff.rfl
  | some t => simp only [Outcome, Transfers, h.txid, h.status]

theorem SameFor.header (h : SameFor address tx tx') :
    Header tx' watched_address address block_number ↔
      Header tx watched_address address block_number := by
  obtain ⟨htxid, hstatus, _, _⟩ := h
  constructor
  · rintro ⟨haddress, hconfirmed, hheight, hnonneg, hid, hhash⟩
    rw [htxid] at hid
    rw [hstatus] at hconfirmed hheight hhash
    exact ⟨haddress, hconfirmed, hheight, hnonneg, hid, hhash⟩
  · rintro ⟨haddress, hconfirmed, hheight, hnonneg, hid, hhash⟩
    rw [← htxid] at hid
    rw [← hstatus] at hconfirmed hheight hhash
    exact ⟨haddress, hconfirmed, hheight, hnonneg, hid, hhash⟩

/-- Inputs and outputs of others do not change the result, as long as their values are accepted. -/
theorem classify_same (h : classify_btc_transaction tx watched_address = .ok result)
    (haddress : normalize_btc_address watched_address = .ok address) (hsame : SameFor address tx tx')
    (hvalues : NonNegative tx') : classify_btc_transaction tx' watched_address = .ok result := by
  obtain ⟨address', block_number, hheader, _, houtcome⟩ := classify_iff.mp h
  obtain rfl : address' = address := Except.ok.inj (hheader.address.symm.trans haddress)
  exact classify_iff.mpr ⟨address', block_number, hsame.header.mpr hheader, hvalues,
    hsame.outcome.mpr houtcome⟩

theorem NonNegative.perm (h : NonNegative tx) (hvout : tx'.vout.Perm tx.vout)
    (hvin : tx'.vin.Perm tx.vin) : NonNegative tx' :=
  ⟨fun output houtput => h.1 output (hvout.subset houtput),
    fun output houtput => h.2 output ((hvin.filterMap _).subset houtput)⟩

end

/-- The signed amount as direction and absolute value. -/
def Encodes (direction amount_raw : String) (delta : Int) : Prop :=
  amount_raw = toString (delta.natAbs : Int) ∧
    (direction = "in" ∧ 0 < delta ∨ direction = "out" ∧ delta < 0 ∨ direction = "self" ∧ delta = 0)

theorem direction_encodes (delta : Int) :
    Encodes (direction delta) (toString (delta.natAbs : Int)) delta := by
  refine ⟨rfl, ?_⟩
  unfold direction
  rcases Int.lt_trichotomy delta 0 with hout | hself | hin
  · rw [if_neg (by omega), if_pos hout]
    exact .inr (.inl ⟨rfl, hout⟩)
  · rw [if_neg (by omega), if_neg (by omega)]
    exact .inr (.inr ⟨rfl, hself⟩)
  · rw [if_pos hin]
    exact .inl ⟨rfl, hin⟩

/-- The result of a classification is the exact difference of what the address receives and what it
spends; nothing else in the inputs and outputs counts, and no order. -/
theorem classify_exact {tx : BtcTransaction} {watched_address : String}
    {result : Option DecodedBtcTransfer}
    (h : classify_btc_transaction tx watched_address = .ok result) :
    ∃ address, normalize_btc_address watched_address = .ok address ∧
      (result = none ↔ received tx address = 0 ∧ spent tx address = 0) ∧
      (∀ t, result = some t →
        Encodes t.direction t.amount_raw (received tx address - spent tx address) ∧
        t.received_raw = toString (received tx address) ∧
        t.spent_raw = toString (spent tx address)) ∧
      (∀ vout vin, vout.Perm tx.vout → vin.Perm tx.vin →
        classify_btc_transaction { tx with vout := vout, vin := vin } watched_address =
          .ok result) ∧
      ∀ tx', SameFor address tx tx' →
        (NonNegative tx' → classify_btc_transaction tx' watched_address = .ok result) ∧
        ∀ result', classify_btc_transaction tx' watched_address = .ok result' →
          result' = result := by
  obtain ⟨address, block_number, hheader, hvalues, houtcome⟩ := classify_iff.mp h
  have hsame : ∀ tx', SameFor address tx tx' → NonNegative tx' →
      classify_btc_transaction tx' watched_address = .ok result :=
    fun tx' hsame hvalues' => classify_same h hheader.address hsame hvalues'
  refine ⟨address, hheader.address, ?_, ?_, ?_, fun tx' htx' => ⟨hsame tx' htx', ?_⟩⟩
  · cases result with
    | none => exact iff_of_true rfl houtcome
    | some t => exact iff_of_false (Option.some_ne_none t) houtcome.1
  · rintro t rfl
    obtain ⟨_, amount_decimal, _, rfl⟩ := houtcome
    exact ⟨direction_encodes _, rfl, rfl⟩
  · intro vout vin hvout hvin
    have hperm : SameFor address tx { tx with vout := vout, vin := vin } :=
      ⟨rfl, rfl, hvout.filter _, hvin.filter _⟩
    exact hsame _ hperm (hvalues.perm hvout hvin)
  · intro result' h'
    obtain ⟨_, _, _, hvalues', _⟩ := classify_iff.mp h'
    exact Except.ok.inj (h'.symm.trans (hsame tx' htx' hvalues'))

/-- An address spends an output of seven and gets five back, beside an output of another. -/
def spending_tx : BtcTransaction :=
  { txid := String.ofList (List.replicate 64 'a')
    status := { confirmed := true, block_height := some 1, block_hash := none }
    vin := [⟨some ⟨some "1aaaaaaaaaaaaa", 7⟩⟩]
    vout := [⟨some "1bbbbbbbbbbbbb", 1⟩, ⟨some "1aaaaaaaaaaaaa", 5⟩] }

theorem classify_exact_spending : ∃ t,
    classify_btc_transaction spending_tx "1aaaaaaaaaaaaa" = .ok (some t) ∧
      Encodes t.direction t.amount_raw (-2) ∧
      classify_btc_transaction { spending_tx with vout := spending_tx.vout.reverse }
        "1aaaaaaaaaaaaa" = .ok (some t) := by
  have h : classify_btc_transaction spending_tx "1aaaaaaaaaaaaa" = .ok (some {
      tx_hash := String.ofList (List.replicate 64 'a')
      block_number := 1
      block_hash := none
      direction := "out"
      amount_raw := "2"
      amount_decimal := "0.00000002"
      received_raw := "5"
      spent_raw := "7" }) := by rfl
  obtain ⟨address, haddress, _, hexact, hperm, _⟩ := classify_exact h
  have hnormal : normalize_btc_address "1aaaaaaaaaaaaa" = .ok "1aaaaaaaaaaaaa" := by rfl
  obtain rfl := Except.ok.inj (hnormal.symm.trans haddress)
  exact ⟨_, h, (hexact _ rfl).1, hperm _ _ (List.reverse_perm _) (List.Perm.refl _)⟩

end CoinListener.Providers.Btc
