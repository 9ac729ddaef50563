import CoinListener.Storage.AddressWrites
import CoinListener.Providers.Tron
import CoinListener.Providers.Btc

/-! Which of the addresses that may be stored the scanner of their chain can read. -/
namespace CoinListener.Storage
open Foundation Providers AddressTables

/-- The first thing the scanner of the chain does with the stored text. -/
def scanner_accepts (chain_type address : String) : Bool :=
  match chain_type with
  | "evm" => (Evm.address_to_topic address).isOk
  | "tron" => (Tron.normalize_tron_address address).isOk
  | "utxo" => (Btc.normalize_btc_address address).isOk
  | _ => false

/-- What a stored address needs beyond the check that let it in: an EVM address no whitespace around
it, a TRON address only characters of its alphabet, a BTC address letters and digits in number. -/
def scannable (chain_type address : String) : Bool :=
  match chain_type with
  | "evm" => Text.trim address == address
  | "tron" => (Text.trim address).toList.all Tron.is_base58_like_character
  | "utxo" => 14 ≤ (Text.trim address).length && (Text.trim address).length ≤ 90 &&
      (Text.trim address).toList.all Char.isAlphanum
  | _ => false

section Scans
variable {chain : Chain} {address : String}

/-- Only these chains have a check that can pass, and this is what it asks for. -/
theorem accepted_cases (h : validate_address_for_chain chain address = .ok ()) :
    (chain.chain_type = "evm" ∧ Text.byteLength (Text.trim address).toList = 42 ∧
      "0x".toList <+: (Text.trim address).toList ∧
      ((Text.trim address).toList.drop 2).all Evm.is_ascii_hexdigit = true) ∨
    (chain.chain_type = "tron" ∧ "T".toList <+: (Text.trim address).toList ∧
      26 ≤ Text.byteLength (Text.trim address).toList ∧
      Text.byteLength (Text.trim address).toList ≤ 36) ∨
    (chain.chain_type = "utxo" ∧ ∃ head ∈ ["bc1", "tb1", "1", "3"],
      head.toList.isPrefixOf (Text.trim address).toList = true) := by
  unfold validate_address_for_chain at h
  dsimp only at h
  split at h
  · exact nomatch h
  · split at h
    · rename_i hevm
      rw [ensure_ok, Bool.and_eq_true, Bool.and_eq_true, decide_eq_true_eq,
        List.isPrefixOf_iff_prefix] at h
      exact .inl ⟨hevm, h.1.1, h.1.2, h.2⟩
    · rename_i htron
      rw [ensure_ok, Bool.and_eq_true, Bool.and_eq_true, decide_eq_true_eq, decide_eq_true_eq,
        List.isPrefixOf_iff_prefix] at h
      exact .inr (.inl ⟨htron, h.1.1, h.1.2, h.2⟩)
    · rename_i hutxo
      rw [ensure_ok, Bool.or_eq_true, Bool.or_eq_true, Bool.or_eq_true] at h
      refine .inr (.inr ⟨hutxo, ?_⟩)
      rcases h with ((hbc | hone) | hthree) | htb
      · exact ⟨"bc1", by simp, hbc⟩
      · exact ⟨"1", by simp, hone⟩
      · exact ⟨"3", by simp, hthree⟩
      · exact ⟨"tb1", by simp, htb⟩
    · exact nomatch h

theorem evm_hexdigit_bounds {c : Char} (h : Evm.is_ascii_hexdigit c = true) :
    48 ≤ c.toNat ∧ c.toNat ≤ 102 := by
  unfold Evm.is_ascii_hexdigit Evm.hex_value at h
  split at h
  · rename_i hdigit
    have hlo : 48 ≤ c.toNat := hdigit.1
    have hhi : c.toNat ≤ 57 := hdigit.2
    omega
  · split at h
    · rename_i hlower
      have hlo : 97 ≤ c.toNat := hlower.1
      have hhi : c.toNat ≤ 102 := hlower.2
      omega
    · split at h
      · rename_i hupper
        have hlo : 65 ≤ c.toNat := hupper.1
        have hhi : c.toNat ≤ 70 := hupper.2
        omega
      · exact nomatch h

theorem alphanum_ascii {c : Char} (h : c.isAlphanum = true) : c.toNat ≤ 127 := by
  change (decide (65 ≤ c.val ∧ c.val ≤ 90) || decide (97 ≤ c.val) && decide (c.val ≤ 122) ||
    decide (48 ≤ c.val) && decide (c.val ≤ 57)) = true at h
  simp only [Bool.or_eq_true, Bool.and_eq_true, decide_eq_true_eq, UInt32.le_iff_toNat_le] at h
  change ((65 ≤ c.toNat ∧ c.toNat ≤ 90) ∨ (97 ≤ c.toNat ∧ c.toNat ≤ 122)) ∨
    (48 ≤ c.toNat ∧ c.toNat ≤ 57) at h
  omega

/-- A text of hexadecimal digits behind a marker has nothing to trim. -/
theorem trim_of_hex {address : String} {digits : List Char}
    (haddress : address.toList = '0' :: 'x' :: digits)
    (hdigits : digits.all Evm.is_ascii_hexdigit = true) : Text.trim address = address := by
  refine Text.trim_of_no_space fun c hc => ?_
  rw [haddress] at hc
  rcases List.mem_cons.mp hc with rfl | hc
  · rfl
  · rcases List.mem_cons.mp hc with rfl | hc
    · rfl
    · obtain ⟨hlo, hhi⟩ := evm_hexdigit_bounds (List.all_eq_true.mp hdigits c hc)
      exact Text.not_space_of_bounds hlo (by omega)

theorem address_to_topic_ok (address : String) :
    (Evm.address_to_topic address).isOk = true ↔ ∃ digits, address.toList = '0' :: 'x' :: digits ∧
      digits.length = 40 ∧ digits.all Evm.is_ascii_hexdigit = true := by
  unfold Evm.address_to_topic Evm.normalize_hex
  split
  · rename_i digits hlist
    split
    · rename_i hbad
      constructor
      · intro h
        exact nomatch h
      · rintro ⟨other, hother, hlength, hall⟩
        obtain rfl : digits = other := by simpa using hlist.symm.trans hother
        exact absurd hbad (by simp [hlength, hall])
    · rename_i hgood
      rw [not_or, not_not, not_not] at hgood
      exact ⟨fun _ => ⟨digits, hlist, hgood⟩, fun _ => rfl⟩
  · rename_i hlist
    constructor
    · intro h
      exact nomatch h
    · rintro ⟨other, hother, _⟩
      exact absurd hother (hlist other)

theorem evm_scans (hlength : Text.byteLength (Text.trim address).toList = 42)
    (hstarts : "0x".toList <+: (Text.trim address).toList)
    (hall : ((Text.trim address).toList.drop 2).all Evm.is_ascii_hexdigit = true) :
    (Evm.address_to_topic address).isOk = true ↔ Text.trim address = address := by
  rw [address_to_topic_ok]
  constructor
  · rintro ⟨digits, hlist, _, hdigits⟩
    exact trim_of_hex hlist hdigits
  · intro htrim
    rw [htrim] at hlength hstarts hall
    obtain ⟨digits, hdigits⟩ := hstarts
    have hlist : address.toList = '0' :: 'x' :: digits := hdigits.symm
    rw [hlist] at hall hlength
    refine ⟨digits, hlist, ?_, hall⟩
    rw [Text.byteLength_of_ascii] at hlength
    · simpa using hlength
    · intro c hc
      rcases List.mem_cons.mp hc with rfl | hc
      · decide
      · rcases List.mem_cons.mp hc with rfl | hc
        · decide
        · have hbounds := evm_hexdigit_bounds (List.all_eq_true.mp hall c hc)
          omega

theorem tron_scans (hstarts : "T".toList <+: (Text.trim address).toList)
    (hlo : 26 ≤ Text.byteLength (Text.trim address).toList)
    (hhi : Text.byteLength (Text.trim address).toList ≤ 36) :
    (Tron.normalize_tron_address address).isOk = true ↔
      (Text.trim address).toList.all Tron.is_base58_like_character = true := by
  unfold Tron.normalize_tron_address
  dsimp only
  constructor
  · intro hok
    split at hok
    · rename_i hshape
      exact hshape.2.2.2
    · exact nomatch hok
  · intro hall
    have hascii : Text.byteLength (Text.trim address).toList = (Text.trim address).length := by
      refine Text.byteLength_of_ascii fun c hc => ?_
      have hbase := List.all_eq_true.mp hall c hc
      rw [Tron.is_base58_like_character, Bool.and_eq_true] at hbase
      exact alphanum_ascii hbase.1
    obtain ⟨rest, hrest⟩ := hstarts
    have hhead : (Text.trim address).toList.head? = some 'T' := by
      rw [← hrest]
      rfl
    rw [if_pos ⟨hhead, hascii ▸ hlo, hascii ▸ hhi, hall⟩]
    rfl

theorem btc_scans {head : String} (hhead : head ∈ ["bc1", "tb1", "1", "3"])
    (hstarts : head.toList.isPrefixOf (Text.trim address).toList = true) :
    (Btc.normalize_btc_address address).isOk = true ↔
      14 ≤ (Text.trim address).length ∧ (Text.trim address).length ≤ 90 ∧
        (Text.trim address).toList.all Char.isAlphanum = true := by
  unfold Btc.normalize_btc_address
  dsimp only
  constructor
  · intro hok
    split at hok
    · rename_i hshape
      exact ⟨hshape.1, hshape.2.1, hshape.2.2.2⟩
    · exact nomatch hok
  · rintro ⟨hlo, hhi, hall⟩
    have hstrip : (Text.stripPrefix head (Text.trim address)).isSome = true := by
      simp [Text.stripPrefix, hstarts]
    have hsupported : ((Text.stripPrefix "bc1" (Text.trim address)).isSome ||
        (Text.stripPrefix "tb1" (Text.trim address)).isSome ||
        (Text.stripPrefix "1" (Text.trim address)).isSome ||
        (Text.stripPrefix "3" (Text.trim address)).isSome) = true := by
      simp only [List.mem_cons, List.not_mem_nil, or_false] at hhead
      rcases hhead with rfl | rfl | rfl | rfl <;> simp [hstrip]
    rw [if_pos ⟨hlo, hhi, hsupported, hall⟩]
    rfl

theorem accepted_scans (h : validate_address_for_chain chain address = .ok ()) :
    scanner_accepts chain.chain_type address = true ↔ scannable chain.chain_type address = true := by
  rcases accepted_cases h with ⟨hevm, hlength, hstarts, hall⟩ | ⟨htron, hstarts, hlo, hhi⟩ |
    ⟨hutxo, head, hhead, hstarts⟩
  · simp only [scanner_accepts, scannable, hevm]
    rw [evm_scans hlength hstarts hall, beq_iff_eq]
  · simp only [scanner_accepts, scannable, htron]
    exact tron_scans hstarts hlo hhi
  · simp only [scanner_accepts, scannable, hutxo]
    rw [btc_scans hhead hstarts, Bool.and_eq_true, Bool.and_eq_true, decide_eq_true_eq,
      decide_eq_true_eq, and_assoc]

end Scans

/-! ### Stored addresses -/

section Stored
variable {s t : AddressTables} {request : CreateWatchedAddressRequest}
  {response : WatchedAddressResponse}

theorem create_stores (h : s.create_watched_address request = .ok (response, t)) :
    response.toWatchedAddress ∈ t.watched_addresses ∧ response.address = request.address := by
  obtain ⟨asset_ids, _, hcreate⟩ := bind_ok h
  obtain ⟨_, _, _, hrows⟩ := create_in_transaction_ok hcreate
  obtain ⟨result, hinsert, hcreate⟩ := bind_ok hcreate
  obtain ⟨_, rfl⟩ := insert_ok hinsert
  obtain ⟨rfl, _⟩ := Prod.mk.inj (Except.ok.inj hcreate)
  exact ⟨hrows ▸ List.mem_append_right _ (List.mem_singleton_self _), rfl⟩

theorem update_stores {tenant_id id : Uuid}
    (h : s.update_watched_address tenant_id id request = .ok (response, t)) :
    response.toWatchedAddress ∈ t.watched_addresses ∧ response.address = request.address := by
  obtain ⟨asset_ids, _, h⟩ := bind_ok h
  obtain ⟨result, hset, h⟩ := bind_ok h
  obtain ⟨rfl, rfl⟩ := Prod.mk.inj (Except.ok.inj h)
  obtain ⟨row, hrow, hset⟩ := bind_ok hset
  obtain ⟨_, _, hset⟩ := bind_ok hset
  obtain rfl := Except.ok.inj hset
  rw [required_ok] at hrow
  refine ⟨Table.mem_update.mpr ⟨row, List.mem_of_find?_eq_some hrow, ?_⟩, rfl⟩
  exact Table.revise_of_true (List.find?_some hrow)

/-- An address that was created or updated is one the scanner of its chain can read just where it has
what the check on the way in does not ask for. -/
theorem stored_address_scans {chain : Chain}
    (hstored : s.create_watched_address request = .ok (response, t) ∨
      ∃ tenant_id id, s.update_watched_address tenant_id id request = .ok (response, t))
    (hchain : s.get_chain request.chain_id = .ok chain) :
    response.toWatchedAddress ∈ t.watched_addresses ∧
      (scanner_accepts chain.chain_type response.address = true ↔
        scannable chain.chain_type request.address = true) := by
  have hvalid : ∃ asset_ids, s.validate_watched_address_create_request request = .ok asset_ids := by
    rcases hstored with hcreate | ⟨tenant_id, id, hupdate⟩
    · obtain ⟨asset_ids, hvalid, _⟩ := bind_ok hcreate
      exact ⟨asset_ids, hvalid⟩
    · obtain ⟨asset_ids, hvalid, _⟩ := bind_ok hupdate
      exact ⟨asset_ids, hvalid⟩
  have hrow : response.toWatchedAddress ∈ t.watched_addresses ∧
      response.address = request.address := by
    rcases hstored with hcreate | ⟨tenant_id, id, hupdate⟩
    · exact create_stores hcreate
    · exact update_stores hupdate
  obtain ⟨asset_ids, hvalid⟩ := hvalid
  obtain ⟨found, hfound, hvalid⟩ := bind_ok hvalid
  obtain rfl := Except.ok.inj (hfound.symm.trans hchain)
  obtain ⟨_, haddress, _⟩ := bind_ok hvalid
  rw [hrow.2]
  exact ⟨hrow.1, accepted_scans haddress⟩

/-- A chain of this type with its coin. -/
def one_chain (chain_type : String) : AddressTables :=
  unwatched [{ id := 1, key := chain_type, chain_type := chain_type, default_confirmations := 12 }]
    [{ id := 5, chain_id := 1, asset_type := "native", symbol := "COIN", name := "Coin",
       contract_address := none, decimals := 8, status := "active" }]

def watch_request (address : String) : CreateWatchedAddressRequest :=
  { tenant_id := some 3, chain_id := 1, address := address, label := none, priority := "normal",
    scan_interval_seconds := 60, transfer_filter_enabled := true,
    balance_change_filter_enabled := true, status := "active", asset_ids := [5] }

/-- The address is stored, and the scanner accepts it or not. -/
def stored_accepts (chain_type address : String) : Option Bool :=
  match (one_chain chain_type).create_watched_address (watch_request address) with
  | .ok (response, _) => some (scanner_accepts chain_type response.address)
  | .error _ => none

theorem stored_address_scans_tron :
    stored_accepts "tron" "TJRyWwFs9wTFGZg3JbrVriFbNfCug5tDeC" = some true := by
  unfold stored_accepts
  cases hcreate : (one_chain "tron").create_watched_address
      (watch_request "TJRyWwFs9wTFGZg3JbrVriFbNfCug5tDeC") with
  | ok result =>
    obtain ⟨response, t⟩ := result
    have hscans := (stored_address_scans (.inl hcreate) rfl).2.mpr (by decide +kernel)
    exact congrArg some hscans
  | error e =>
    have hok : ((one_chain "tron").create_watched_address
      (watch_request "TJRyWwFs9wTFGZg3JbrVriFbNfCug5tDeC")).isOk = true := by decide +kernel
    rw [hcreate] at hok
    exact nomatch hok

/-- On each of the chains an address is stored that its scanner never reads: one with a blank before
it, one with characters outside the alphabet, one of a single digit. -/
theorem stored_address_never_scans :
    stored_accepts "evm" " 0xaaaaaaaaaaaaaaaaaaaaaaaaaaaaaaaaaaaaaaaa" = some false ∧
      stored_accepts "tron" "T0000000000000000000000000000000000" = some false ∧
      stored_accepts "utxo" "1" = some false := by
  decide +kernel

end Stored

end CoinListener.Storage
