import CoinListener.Storage.AddressWrites
import Mathlib.Logic.Relation

/-! No address is watched twice, as long as each is always spelled in one way. -/
namespace CoinListener.Storage
open Foundation

namespace AddressTables
variable (s : AddressTables)

/-- What a text stands for on a chain. -/
def denoted (chain_id : Uuid) (address : String) : String :=
  normalize_custody_address_for_chain (s.chain_type chain_id) address

/-- The row stands for this address of the tenant on the chain. -/
def Denotes (tenant_id chain_id : Uuid) (address : String) (row : WatchedAddress) : Prop :=
  row.tenant_id = tenant_id ∧ row.chain_id = chain_id ∧
    s.denoted chain_id row.address = s.denoted chain_id address

/-- The rows that stand for the address of the request are spelled like it. -/
def Spelled (request : CreateWatchedAddressRequest) (tenant_id : Uuid) (row : WatchedAddress) :
    Prop :=
  s.Denotes tenant_id request.chain_id request.address row → row.address = request.address

/-- Nobody passes another spelling of an address that is stored already. Custody assignments find
the stored spelling, unless it has surrounding whitespace. -/
def OneSpelling : AddressWrite → Prop
  | .create_watched_address request =>
    ∀ row ∈ s.watched_addresses, s.Spelled request request.tenant row
  | .update_watched_address tenant_id id request =>
    ∀ row ∈ s.watched_addresses, row.id ≠ id → s.Spelled request tenant_id row
  | .create_watched_address_for_import_attempt request _ =>
    ∀ row ∈ s.watched_addresses, s.Spelled request request.tenant row
  | .assign_custody_account tenant_id requested _ configs =>
    ∀ config ∈ configs, ∀ row ∈ s.watched_addresses,
      s.Denotes tenant_id config.chain_id requested row → Text.trim row.address = row.address

end AddressTables
open AddressTables

/-- Identifiers are unique, and so are the addresses that the rows stand for. -/
structure AddressInvariant (s : AddressTables) : Prop where
  ids : RowIds s
  distinct : ∀ a ∈ s.watched_addresses, ∀ b ∈ s.watched_addresses,
    s.Denotes a.tenant_id a.chain_id a.address b → b.id = a.id

section Write
variable {s t : AddressTables} {request : CreateWatchedAddressRequest} {row : WatchedAddress}
  {tenant_id chain_id id : Uuid} {address : String} {a b : WatchedAddress}

theorem denoted_of_chains (h : t.chains = s.chains) (chain_id : Uuid) (address : String) :
    t.denoted chain_id address = s.denoted chain_id address := by
  unfold denoted chain_type
  rw [h]

theorem Denotes.of_chains (h : t.chains = s.chains) (hrow : t.Denotes tenant_id chain_id address row) :
    s.Denotes tenant_id chain_id address row := by
  obtain ⟨htenant, hchain, hdenoted⟩ := hrow
  rw [denoted_of_chains h, denoted_of_chains h] at hdenoted
  exact ⟨htenant, hchain, hdenoted⟩

theorem denoted_trim (s : AddressTables) (chain_id : Uuid) (address : String) :
    s.denoted chain_id (Text.trim address) = s.denoted chain_id address := by
  simp only [denoted, normalize_custody_address_for_chain, Text.trim_trim]

/-- The invariant is about these columns only. -/
theorem AddressInvariant.of_identity (h : AddressInvariant s) (hchains : t.chains = s.chains)
    (hnext : t.next_id = s.next_id)
    (hrows : t.watched_addresses.map identity = s.watched_addresses.map identity) :
    AddressInvariant t := by
  constructor
  · exact h.ids.of_identity hnext hrows
  · intro a ha b hb hdenotes
    obtain ⟨old, hmem, hsame⟩ := mem_of_identity hrows ha
    obtain ⟨old', hmem', hsame'⟩ := mem_of_identity hrows hb
    simp only [identity, Prod.mk.injEq] at hsame hsame'
    obtain ⟨hid, htenant, hchain, haddress⟩ := hsame
    obtain ⟨hid', htenant', hchain', haddress'⟩ := hsame'
    have hbefore := Denotes.of_chains hchains hdenotes
    unfold Denotes at hbefore
    rw [← htenant, ← hchain, ← haddress, ← htenant', ← hchain', ← haddress'] at hbefore
    rw [← hid, ← hid']
    exact h.distinct old hmem old' hmem' hbefore

/-- A new row whose address is watched nowhere else. -/
theorem AddressInvariant.insert (h : AddressInvariant s)
    (hnew : ∀ row ∈ s.watched_addresses,
      ¬ s.Denotes request.tenant request.chain_id request.address row) :
    AddressInvariant { s with
      watched_addresses := s.watched_addresses ++ [s.new_watched_address request]
      next_id := s.next_id + 1 } := by
  constructor
  · exact h.ids.insert
  · intro a ha b hb hdenotes
    have hbefore : s.Denotes a.tenant_id a.chain_id a.address b := hdenotes
    rcases List.mem_append.mp ha with ha | ha
    · rcases List.mem_append.mp hb with hb | hb
      · exact h.distinct a ha b hb hbefore
      · rw [List.mem_singleton.mp hb] at hbefore
        obtain ⟨htenant, hchain, hdenoted⟩ := hbefore
        refine absurd ⟨htenant.symm, hchain.symm, ?_⟩ (hnew a ha)
        rw [← hchain] at hdenoted
        exact hdenoted.symm
    · rcases List.mem_append.mp hb with hb | hb
      · rw [List.mem_singleton.mp ha] at hbefore
        exact absurd hbefore (hnew b hb)
      · rw [List.mem_singleton.mp ha, List.mem_singleton.mp hb]

theorem Denotes.symm (h : s.Denotes a.tenant_id a.chain_id a.address b) :
    s.Denotes b.tenant_id b.chain_id b.address a := by
  obtain ⟨htenant, hchain, hdenoted⟩ := h
  rw [← hchain] at hdenoted
  exact ⟨htenant.symm, hchain.symm, hdenoted.symm⟩

/-- An update to an address that is watched nowhere else. -/
theorem AddressInvariant.update (h : AddressInvariant s)
    (hother : ∀ row ∈ s.watched_addresses, is_row tenant_id id row = false →
      ¬ s.Denotes tenant_id request.chain_id request.address row) :
    AddressInvariant { s with
      watched_addresses := Table.update (is_row tenant_id id) (updated_watched_address request)
        s.watched_addresses } := by
  have hid : ∀ row, (updated_watched_address request row).id = row.id := fun _ => rfl
  constructor
  · exact h.ids.update
  · intro a' ha b' hb hdenotes
    obtain ⟨a, hamem, rfl⟩ := Table.mem_update.mp ha
    obtain ⟨b, hbmem, rfl⟩ := Table.mem_update.mp hb
    have hbefore := Denotes.of_chains (s := s) rfl hdenotes
    rw [Table.revise_column hid a, Table.revise_column hid b]
    cases hrow : is_row tenant_id id a with
    | true =>
      obtain ⟨haid, hatenant⟩ := is_row_iff.mp hrow
      rw [Table.revise_of_true hrow] at hbefore
      cases hrow' : is_row tenant_id id b with
      | true => exact (is_row_iff.mp hrow').1.trans haid.symm
      | false =>
        rw [Table.revise_of_false hrow'] at hbefore
        exact absurd (hatenant ▸ hbefore) (hother b hbmem hrow')
    | false =>
      rw [Table.revise_of_false hrow] at hbefore
      cases hrow' : is_row tenant_id id b with
      | true =>
        obtain ⟨hbid, hbtenant⟩ := is_row_iff.mp hrow'
        rw [Table.revise_of_true hrow'] at hbefore
        exact absurd (hbtenant ▸ Denotes.symm hbefore) (hother a hamem hrow)
      | false =>
        rw [Table.revise_of_false hrow'] at hbefore
        exact h.distinct a hamem b hbmem hbefore

/-! ### Calls -/

/-- A stored row that stands for the address and is spelled like it is a conflict. -/
theorem not_denotes (hspelled : s.Spelled request tenant_id row)
    (hconflict : conflicts tenant_id request.chain_id request.address row = false) :
    ¬ s.Denotes tenant_id request.chain_id request.address row := by
  intro hdenotes
  have haddress := hspelled hdenotes
  simp [conflicts, hdenotes.1, hdenotes.2.1, haddress] at hconflict

theorem AddressInvariant.create_in_transaction {asset_ids : List Uuid}
    {response : WatchedAddressResponse} (h : AddressInvariant s)
    (hspelled : ∀ row ∈ s.watched_addresses, s.Spelled request request.tenant row)
    (hcreate : s.create_watched_address_in_transaction request asset_ids = .ok (response, t)) :
    AddressInvariant t := by
  obtain ⟨hinsert, hchains, hnext, hrows⟩ := create_in_transaction_ok hcreate
  have hadded := h.insert fun row hrow =>
    not_denotes (hspelled row hrow) ((insert_ok hinsert).1 row hrow)
  exact hadded.of_identity hchains hnext (by rw [hrows])

theorem AddressInvariant.set {result : WatchedAddress × AddressTables} (h : AddressInvariant s)
    (hspelled : ∀ row ∈ s.watched_addresses, row.id ≠ id → s.Spelled request tenant_id row)
    (hset : s.set_watched_address tenant_id id request = .ok result) :
    AddressInvariant result.2 ∧ result.2.chains = s.chains := by
  obtain ⟨⟨found, hmem, hfound⟩, hfree, hresult⟩ := set_ok hset
  rw [hresult]
  refine ⟨h.update fun row hrow hother => ?_, rfl⟩
  refine not_denotes (hspelled row hrow fun hid => ?_) (hfree row hrow hother)
  have hsame := List.inj_on_of_nodup_map h.ids.unique_id hrow hmem
    (hid.trans (is_row_iff.mp hfound).1.symm)
  rw [hsame, hfound] at hother
  exact nomatch hother

/-! ### Custody -/

theorem chain_type_of_get {chain : Chain} (h : s.get_chain chain_id = .ok chain) :
    s.chain_type chain_id = chain.chain_type := by
  simp [chain_type, required_ok.mp h]

/-- A chain whose addresses are compared in lower case is spelled in lower case itself. -/
theorem evm_of_valid {chain : Chain} (h : validate_address_for_chain chain address = .ok ()) :
    Text.toAsciiLowercase chain.chain_type = "evm" → chain.chain_type = "evm" := by
  unfold validate_address_for_chain at h
  split at h
  · rename_i hevm
    exact fun _ => hevm
  · rename_i htron
    rw [htron]
    exact fun hlower => absurd hlower (by decide +kernel)
  · rename_i hutxo
    rw [hutxo]
    exact fun hlower => absurd hlower (by decide +kernel)
  · dsimp only at h
    split at h
    · exact nomatch h
    · exact nomatch h

/-- The lookup finds every trimmed row that stands for the address. -/
theorem select_none {chain : Chain} {requested : String}
    (hchain : s.get_chain chain_id = .ok chain)
    (hvalid : validate_address_for_chain chain (Text.trim requested) = .ok ())
    (hnone : s.ensure_watched_address_select tenant_id chain_id
      (normalize_custody_address_for_chain chain.chain_type (Text.trim requested))
      chain.chain_type = none)
    (hrow : row ∈ s.watched_addresses) (htrimmed : Text.trim row.address = row.address) :
    ¬ s.Denotes tenant_id chain_id requested row := by
  rintro ⟨htenant, hrchain, hdenoted⟩
  have hmiss := List.find?_eq_none.mp hnone row hrow
  unfold denoted at hdenoted
  rw [chain_type_of_get hchain] at hdenoted
  unfold normalize_custody_address_for_chain at hdenoted hmiss
  rw [htrimmed] at hdenoted
  rw [Text.trim_trim] at hmiss
  refine hmiss ?_
  by_cases hevm : chain.chain_type = "evm"
  · rw [if_pos hevm, if_pos hevm] at hdenoted
    have hlower : Text.toAsciiLowercase "evm" = "evm" := by decide +kernel
    simp [htenant, hrchain, hevm, hlower, hdenoted]
  · rw [if_neg hevm, if_neg hevm] at hdenoted
    have hlower : Text.toAsciiLowercase chain.chain_type ≠ "evm" := fun hlower =>
      hevm (evm_of_valid hvalid hlower)
    simp [htenant, hrchain, hevm, hlower, hdenoted]

theorem normalized_ok {chain : Chain} {result : String × String}
    (hchain : s.get_chain chain_id = .ok chain)
    (h : s.custody_address_normalized_for_chain_id chain_id address = .ok result) :
    result = (normalize_custody_address_for_chain chain.chain_type address, chain.chain_type) := by
  obtain ⟨found, hfound, h⟩ := bind_ok h
  have hsame := (required_ok.mp hfound).symm.trans (required_ok.mp hchain)
  obtain rfl := Option.some.inj hsame
  exact (Except.ok.inj h).symm

/-- What a custody assignment does for one chain. -/
structure Ensured (s t : AddressTables) (address : String) : Prop where
  inv : AddressInvariant t
  chains : t.chains = s.chains
  rows : ∀ row ∈ t.watched_addresses, row.address = address ∨
    ∃ old ∈ s.watched_addresses, identity old = identity row

theorem Ensured.of_identity {u : AddressTables} (h : AddressInvariant s)
    (hchains : u.chains = s.chains) (hnext : u.next_id = s.next_id)
    (hrows : u.watched_addresses.map identity = s.watched_addresses.map identity) :
    Ensured s u address := by
  refine ⟨h.of_identity hchains hnext hrows, hchains, fun row hrow => .inr ?_⟩
  exact List.mem_map.mp (hrows ▸ List.mem_map_of_mem hrow)

theorem ensure_config {chain : Chain} {requested business_ref : String} {asset_ids : List Uuid}
    (h : AddressInvariant s) (hchain : s.get_chain chain_id = .ok chain)
    (hvalid : validate_address_for_chain chain (Text.trim requested) = .ok ())
    (htrimmed : ∀ row ∈ s.watched_addresses, s.Denotes tenant_id chain_id requested row →
      Text.trim row.address = row.address)
    (hensure : s.ensure_watched_address_for_chain_config tenant_id chain_id (Text.trim requested)
      business_ref asset_ids = .ok (id, t)) : Ensured s t (Text.trim requested) := by
  obtain ⟨_, _, hensure⟩ := bind_ok hensure
  obtain ⟨result, hnormalized, hensure⟩ := bind_ok hensure
  obtain rfl := normalized_ok hchain hnormalized
  dsimp only at hensure
  split at hensure
  · rename_i existing _
    obtain ⟨_, rfl⟩ := Prod.mk.inj (Except.ok.inj hensure)
    split
    · exact .of_identity h rfl rfl rfl
    · exact .of_identity h rfl rfl (activate_identity tenant_id existing.id)
  · rename_i hnone
    obtain ⟨created, hcreate, hensure⟩ := bind_ok hensure
    obtain ⟨_, rfl⟩ := Prod.mk.inj (Except.ok.inj hensure)
    have hspelled : ∀ row ∈ s.watched_addresses, s.Spelled
        (custody_watched_address_request tenant_id chain_id (Text.trim requested) business_ref
          asset_ids) tenant_id row := by
      intro row hrow hdenotes
      obtain ⟨htenant, hrchain, hdenoted⟩ := hdenotes
      have hsame : s.Denotes tenant_id chain_id requested row :=
        ⟨htenant, hrchain, hdenoted.trans (denoted_trim s chain_id requested)⟩
      exact absurd hsame (select_none hchain hvalid hnone hrow (htrimmed row hrow hsame))
    have hinv := h.create_in_transaction hspelled hcreate
    obtain ⟨_, hchains, _, hrows⟩ := create_in_transaction_ok hcreate
    refine ⟨hinv.of_identity rfl rfl rfl, hchains, fun row hrow => ?_⟩
    have hmem : row ∈ created.2.watched_addresses := hrow
    rw [hrows] at hmem
    rcases List.mem_append.mp hmem with hold | hadded
    · exact .inr ⟨row, hold, rfl⟩
    · exact .inl (congrArg WatchedAddress.address (List.mem_singleton.mp hadded))

theorem ensure_configs {requested business_ref : String} {ids : List Uuid}
    (configs : List CustodyAccountChainConfig) (h : AddressInvariant s)
    (htrimmed : ∀ config ∈ configs, ∀ row ∈ s.watched_addresses,
      s.Denotes tenant_id config.chain_id requested row → Text.trim row.address = row.address)
    (hensure : ensure_watched_addresses_for_custody_account tenant_id (Text.trim requested)
      business_ref configs s = .ok (ids, t)) : AddressInvariant t ∧ t.chains = s.chains := by
  induction configs generalizing s ids with
  | nil =>
    obtain ⟨_, rfl⟩ := Prod.mk.inj (Except.ok.inj hensure)
    exact ⟨h, rfl⟩
  | cons config configs ih =>
    obtain ⟨_, _, hensure⟩ := bind_ok hensure
    obtain ⟨chain, hchain, hensure⟩ := bind_ok hensure
    obtain ⟨_, hvalid, hensure⟩ := bind_ok hensure
    obtain ⟨⟨id, u⟩, hone, hensure⟩ := bind_ok hensure
    obtain ⟨⟨rest, v⟩, hrest, hensure⟩ := bind_ok hensure
    obtain ⟨_, rfl⟩ := Prod.mk.inj (Except.ok.inj hensure)
    have hfirst := ensure_config h hchain hvalid (htrimmed config (List.mem_cons_self ..)) hone
    have hrest_trimmed : ∀ other ∈ configs, ∀ row ∈ u.watched_addresses,
        u.Denotes tenant_id other.chain_id requested row → Text.trim row.address = row.address := by
      intro other hother row hrow hdenotes
      rcases hfirst.rows row hrow with haddress | ⟨old, hold, hsame⟩
      · rw [haddress]
        exact Text.trim_trim requested
      · simp only [identity, Prod.mk.injEq] at hsame
        obtain ⟨_, htenant, hchain', haddress⟩ := hsame
        have hbefore := Denotes.of_chains hfirst.chains hdenotes
        unfold Denotes at hbefore
        rw [← htenant, ← hchain', ← haddress] at hbefore
        rw [← haddress]
        exact htrimmed other (List.mem_cons_of_mem _ hother) old hold hbefore
    obtain ⟨hinv, hchains⟩ := ih hfirst.inv hrest_trimmed hrest
    exact ⟨hinv, hchains.trans hfirst.chains⟩

/-! ### Runs -/

theorem AddressInvariant.committed {α : Type} {result : AppResult (α × AddressTables)}
    (h : AddressInvariant s)
    (hok : ∀ a t, result = .ok (a, t) → AddressInvariant t ∧ t.chains = s.chains) :
    AddressInvariant (s.committed result) ∧ (s.committed result).chains = s.chains := by
  cases result with
  | ok result => exact hok result.1 result.2 rfl
  | error e => exact ⟨h, rfl⟩

theorem AddressInvariant.write (h : AddressInvariant s) (op : AddressWrite)
    (hspelling : s.OneSpelling op) :
    AddressInvariant (s.write op) ∧ (s.write op).chains = s.chains := by
  have hcreated : ∀ {request : CreateWatchedAddressRequest} {asset_ids response t},
      (∀ row ∈ s.watched_addresses, s.Spelled request request.tenant row) →
      s.create_watched_address_in_transaction request asset_ids = .ok (response, t) →
      AddressInvariant t ∧ t.chains = s.chains := fun hspelled hcreate =>
    ⟨h.create_in_transaction hspelled hcreate, (create_in_transaction_ok hcreate).2.1⟩
  cases op with
  | create_watched_address request =>
    refine h.committed fun response t hok => ?_
    obtain ⟨_, _, hcreate⟩ := bind_ok hok
    exact hcreated hspelling hcreate
  | update_watched_address tenant_id id request =>
    refine h.committed fun response t hok => ?_
    obtain ⟨_, _, hok⟩ := bind_ok hok
    obtain ⟨result, hset, hok⟩ := bind_ok hok
    obtain ⟨_, rfl⟩ := Prod.mk.inj (Except.ok.inj hok)
    obtain ⟨hinv, hchains⟩ := h.set hspelling hset
    exact ⟨hinv.of_identity rfl rfl rfl, hchains⟩
  | create_watched_address_for_import_attempt request updated =>
    refine h.committed fun response t hok => ?_
    obtain ⟨_, _, hok⟩ := bind_ok hok
    obtain ⟨result, hcreate, hok⟩ := bind_ok hok
    obtain ⟨_, _, hok⟩ := bind_ok hok
    obtain rfl := Except.ok.inj hok
    exact hcreated hspelling hcreate
  | assign_custody_account tenant_id requested business_ref configs =>
    exact h.committed fun ids t hok => ensure_configs configs h hspelling hok

end Write

theorem AddressInvariant.run {s t : AddressTables} (h : AddressInvariant s)
    (hrun : Relation.ReflTransGen (AddressStep OneSpelling) s t) :
    AddressInvariant t ∧ t.chains = s.chains := by
  induction hrun with
  | refl => exact ⟨h, rfl⟩
  | tail _ hstep ih =>
    cases hstep with
    | write op hC =>
      obtain ⟨hinv, hchains⟩ := ih.1.write op hC
      exact ⟨hinv, hchains.trans ih.2⟩

/-- No two rows of a tenant and chain stand for the same address. -/
def DistinctAddresses (s : AddressTables) : Prop :=
  s.watched_addresses.Pairwise fun a b => ¬ (a.tenant_id = b.tenant_id ∧ a.chain_id = b.chain_id ∧
    s.denoted a.chain_id a.address = s.denoted b.chain_id b.address)

def evm_chain : Chain :=
  { id := 1, key := "ethereum", chain_type := "evm", default_confirmations := 12 }

def ether : Asset :=
  { id := 5, chain_id := 1, asset_type := "native", symbol := "ETH", name := "Ether",
    contract_address := none, decimals := 18, status := "active" }

def watch (address : String) : AddressWrite :=
  .create_watched_address
    { tenant_id := some 3, chain_id := 1, address := address, label := none, priority := "normal",
      scan_interval_seconds := 60, transfer_filter_enabled := true,
      balance_change_filter_enabled := true, status := "active", asset_ids := [5] }

def checksummed : String := "0xAAAAAAAAAAAAAAAAAAAAAAAAAAAAAAAAAAAAAAAA"

def lowercase : String := "0xaaaaaaaaaaaaaaaaaaaaaaaaaaaaaaaaaaaaaaaa"

def watched_once : AddressTables :=
  (unwatched [evm_chain] [ether]).write (watch checksummed)

end CoinListener.Storage
