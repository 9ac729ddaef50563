import CoinListener.Storage.Addresses
import Mathlib.Logic.Relation

/-! What the calls that write watched addresses do to the rows. -/
namespace CoinListener.Storage
open Foundation

/-- An address on a chain. -/
structure Origin where
  address : String
  chain_id : Uuid
deriving DecidableEq

/-- A call that writes watched addresses. The address of a custody account was trimmed when the
account was created. -/
inductive AddressWrite where
  | create_watched_address (request : CreateWatchedAddressRequest)
  | update_watched_address (tenant_id id : Uuid) (request : CreateWatchedAddressRequest)
  | create_watched_address_for_import_attempt (request : CreateWatchedAddressRequest)
      (updated : Bool)
  | assign_custody_account (tenant_id : Uuid) (requested business_ref : String)
      (configs : List CustodyAccountChainConfig)

namespace AddressTables
variable (s : AddressTables)

/-- A transaction that fails is rolled back. -/
def committed {α : Type} (result : AppResult (α × AddressTables)) : AddressTables :=
  match result with
  | .ok (_, t) => t
  | .error _ => s

def write : AddressWrite → AddressTables
  | .create_watched_address request => s.committed (s.create_watched_address request)
  | .update_watched_address tenant_id id request =>
    s.committed (s.update_watched_address tenant_id id request)
  | .create_watched_address_for_import_attempt request updated =>
    s.committed (s.create_watched_address_for_import_attempt request updated)
  | .assign_custody_account tenant_id requested business_ref configs =>
    s.committed (ensure_watched_addresses_for_custody_account tenant_id (Text.trim requested)
      business_ref configs s)

def chain_type (chain_id : Uuid) : String :=
  ((s.chains.find? (·.id == chain_id)).map (·.chain_type)).getD ""

end AddressTables
open AddressTables

/-- No address is watched yet. -/
def unwatched (chains : List Chain) (assets : List Asset) : AddressTables :=
  { chains := chains, assets := assets, watched_addresses := [], watched_address_assets := [],
    next_id := 0 }

/-- A call under a condition. A transaction that fails changes nothing. -/
inductive AddressStep (C : AddressTables → AddressWrite → Prop) :
    AddressTables → AddressTables → Prop where
  | write {s} (op : AddressWrite) (hC : C s op) : AddressStep C s (s.write op)

def origin (row : WatchedAddress) : Origin :=
  ⟨row.address, row.chain_id⟩

/-- The columns that tell which address of whom a row stands for. -/
def identity (row : WatchedAddress) : Uuid × Uuid × Uuid × String :=
  (row.id, row.tenant_id, row.chain_id, row.address)

/-- Identifiers are unique, and the next one is new. -/
structure RowIds (s : AddressTables) : Prop where
  id_lt : ∀ row ∈ s.watched_addresses, row.id < s.next_id
  unique_id : (s.watched_addresses.map (·.id)).Nodup

/-- Rows stay, and others may be added. -/
structure RowsMove (s t : AddressTables) : Prop where
  chains : t.chains = s.chains
  next_le : s.next_id ≤ t.next_id
  ids : RowIds s → RowIds t
  before : ∀ row ∈ t.watched_addresses, s.next_id ≤ row.id ∨
    ∃ old ∈ s.watched_addresses, row.id = old.id
  after : ∀ old ∈ s.watched_addresses, ∃ row ∈ t.watched_addresses, row.id = old.id

section Rows
variable {s t u : AddressTables} {request : CreateWatchedAddressRequest} {row : WatchedAddress}
  {tenant_id chain_id id : Uuid} {address : String}

theorem mem_of_identity (hrows : t.watched_addresses.map identity = s.watched_addresses.map identity)
    (hrow : row ∈ t.watched_addresses) : ∃ old ∈ s.watched_addresses, identity old = identity row :=
  List.mem_map.mp (hrows ▸ List.mem_map_of_mem hrow)

theorem RowIds.of_identity (h : RowIds s) (hnext : t.next_id = s.next_id)
    (hrows : t.watched_addresses.map identity = s.watched_addresses.map identity) : RowIds t := by
  have hids : t.watched_addresses.map (·.id) = s.watched_addresses.map (·.id) := by
    have hfst := congrArg (List.map Prod.fst) hrows
    simpa [identity, Function.comp_def] using hfst
  constructor
  · intro row hrow
    obtain ⟨old, hmem, hsame⟩ := mem_of_identity hrows hrow
    obtain ⟨hid, -⟩ := Prod.mk.inj hsame
    rw [hnext, ← hid]
    exact h.id_lt old hmem
  · rw [hids]
    exact h.unique_id

theorem RowIds.unwatched (chains : List Chain) (assets : List Asset) :
    RowIds (unwatched chains assets) :=
  ⟨fun _ hrow => (nomatch hrow), List.nodup_nil⟩

theorem RowIds.insert (h : RowIds s) : RowIds { s with
    watched_addresses := s.watched_addresses ++ [s.new_watched_address request]
    next_id := s.next_id + 1 } := by
  constructor
  · intro row hrow
    rcases List.mem_append.mp hrow with hold | hadded
    · exact Nat.lt_succ_of_lt (h.id_lt row hold)
    · rw [List.mem_singleton.mp hadded]
      exact Nat.lt_succ_self s.next_id
  · rw [List.map_append, List.nodup_append]
    refine ⟨h.unique_id, List.nodup_singleton _, ?_⟩
    intro a ha b hb hab
    obtain ⟨row, hrow, rfl⟩ := List.mem_map.mp ha
    rw [List.mem_singleton.mp hb] at hab
    exact Nat.ne_of_lt (h.id_lt row hrow) hab

theorem RowIds.update {p : WatchedAddress → Bool} (h : RowIds s) : RowIds { s with
    watched_addresses := Table.update p (updated_watched_address request) s.watched_addresses } := by
  have hid : ∀ row, (updated_watched_address request row).id = row.id := fun _ => rfl
  constructor
  · intro row hrow
    obtain ⟨old, hold, rfl⟩ := Table.mem_update.mp hrow
    rw [Table.revise_column hid old]
    exact h.id_lt old hold
  · rw [Table.update_column hid]
    exact h.unique_id

theorem id_of_identity {old : WatchedAddress} (h : identity old = identity row) :
    row.id = old.id :=
  (congrArg Prod.fst h).symm

theorem RowsMove.of_identity (hchains : t.chains = s.chains) (hnext : t.next_id = s.next_id)
    (hrows : t.watched_addresses.map identity = s.watched_addresses.map identity) :
    RowsMove s t := by
  refine ⟨hchains, hnext.ge, fun h => h.of_identity hnext hrows, fun row hrow => ?_,
    fun old hold => ?_⟩
  · obtain ⟨old, hold, hsame⟩ := mem_of_identity hrows hrow
    exact .inr ⟨old, hold, id_of_identity hsame⟩
  · obtain ⟨row, hrow, hsame⟩ := mem_of_identity hrows.symm hold
    exact ⟨row, hrow, id_of_identity hsame.symm⟩

theorem RowsMove.trans (hst : RowsMove s t) (htu : RowsMove t u) : RowsMove s u := by
  refine ⟨htu.chains.trans hst.chains, hst.next_le.trans htu.next_le, fun h => htu.ids (hst.ids h),
    fun row hrow => ?_, fun old hold => ?_⟩
  · rcases htu.before row hrow with hnew | ⟨mid, hmid, hid⟩
    · exact .inl (hst.next_le.trans hnew)
    · rcases hst.before mid hmid with hnew | ⟨old, hold, hid'⟩
      · exact .inl (hid ▸ hnew)
      · exact .inr ⟨old, hold, hid.trans hid'⟩
  · obtain ⟨mid, hmid, hid⟩ := hst.after old hold
    obtain ⟨row, hrow, hid'⟩ := htu.after mid hmid
    exact ⟨row, hrow, hid'.trans hid⟩

/-! ### Single statements -/

theorem is_row_iff : is_row tenant_id id row = true ↔ row.id = id ∧ row.tenant_id = tenant_id := by
  simp [is_row]

theorem insert_ok {result : WatchedAddress × AddressTables}
    (h : s.insert_watched_address request = .ok result) :
    (∀ row ∈ s.watched_addresses,
      conflicts request.tenant request.chain_id request.address row = false) ∧
    result = (s.new_watched_address request, { s with
      watched_addresses := s.watched_addresses ++ [s.new_watched_address request]
      next_id := s.next_id + 1 }) := by
  unfold insert_watched_address at h
  split at h
  · exact nomatch h
  · rename_i hnone
    refine ⟨fun row hrow => ?_, (Except.ok.inj h).symm⟩
    rw [Bool.not_eq_true, List.any_eq_false] at hnone
    exact Bool.eq_false_iff.mpr (hnone row hrow)

theorem create_in_transaction_ok {asset_ids : List Uuid} {response : WatchedAddressResponse}
    (h : s.create_watched_address_in_transaction request asset_ids = .ok (response, t)) :
    s.insert_watched_address request = .ok (s.new_watched_address request, { s with
      watched_addresses := s.watched_addresses ++ [s.new_watched_address request]
      next_id := s.next_id + 1 }) ∧
    t.chains = s.chains ∧ t.next_id = s.next_id + 1 ∧
      t.watched_addresses = s.watched_addresses ++ [s.new_watched_address request] := by
  obtain ⟨result, hinsert, h⟩ := bind_ok h
  obtain ⟨_, rfl⟩ := insert_ok hinsert
  obtain ⟨_, rfl⟩ := Prod.mk.inj (Except.ok.inj h)
  exact ⟨hinsert, rfl, rfl, rfl⟩

theorem activate_identity (tenant_id id : Uuid) :
    (s.activate_watched_address tenant_id id).watched_addresses.map identity =
      s.watched_addresses.map identity :=
  Table.update_column fun _ => rfl

theorem set_ok {result : WatchedAddress × AddressTables}
    (h : s.set_watched_address tenant_id id request = .ok result) :
    (∃ row ∈ s.watched_addresses, is_row tenant_id id row = true) ∧
    (∀ row ∈ s.watched_addresses, is_row tenant_id id row = false →
      conflicts tenant_id request.chain_id request.address row = false) ∧
    result.2 = { s with
      watched_addresses := Table.update (is_row tenant_id id) (updated_watched_address request)
        s.watched_addresses } := by
  obtain ⟨found, hfound, h⟩ := bind_ok h
  obtain ⟨_, hconflict, h⟩ := bind_ok h
  obtain rfl := Except.ok.inj h
  refine ⟨⟨found, List.mem_of_find?_eq_some (required_ok.mp hfound),
    List.find?_some (required_ok.mp hfound)⟩, fun row hrow hother => ?_, rfl⟩
  rw [ensure_ok, Bool.not_eq_true', List.any_eq_false] at hconflict
  simpa [hother] using hconflict row hrow

/-! ### Calls -/

theorem create_in_transaction_rows {asset_ids : List Uuid} {response : WatchedAddressResponse}
    (h : s.create_watched_address_in_transaction request asset_ids = .ok (response, t)) :
    RowsMove s t := by
  obtain ⟨_, hchains, hnext, hrows⟩ := create_in_transaction_ok h
  refine ⟨hchains, hnext ▸ Nat.le_succ _, fun h => ?_, fun row hrow => ?_, fun old hold => ?_⟩
  · have hadded : RowIds { s with
        watched_addresses := s.watched_addresses ++ [s.new_watched_address request]
        next_id := s.next_id + 1 } := h.insert
    exact ⟨by rw [hrows, hnext]; exact hadded.id_lt, by rw [hrows]; exact hadded.unique_id⟩
  · rw [hrows] at hrow
    rcases List.mem_append.mp hrow with hold | hadded
    · exact .inr ⟨row, hold, rfl⟩
    · rw [List.mem_singleton.mp hadded]
      exact .inl (Nat.le_refl s.next_id)
  · rw [hrows]
    exact ⟨old, List.mem_append_left _ hold, rfl⟩

theorem set_rows {result : WatchedAddress × AddressTables}
    (h : s.set_watched_address tenant_id id request = .ok result) :
    RowsMove s result.2 := by
  obtain ⟨_, _, hresult⟩ := set_ok h
  rw [hresult]
  have hid : ∀ row, (Table.revise (is_row tenant_id id) (updated_watched_address request) row).id =
      row.id := Table.revise_column fun _ => rfl
  refine ⟨rfl, Nat.le_refl _, fun h => h.update, fun row hrow => ?_, fun old hold => ?_⟩
  · obtain ⟨old, hold, rfl⟩ := Table.mem_update.mp hrow
    exact .inr ⟨old, hold, hid old⟩
  · exact ⟨_, Table.mem_update.mpr ⟨old, hold, rfl⟩, hid old⟩

theorem ensure_config_rows {business_ref : String} {asset_ids : List Uuid}
    (h : s.ensure_watched_address_for_chain_config tenant_id chain_id address business_ref
      asset_ids = .ok (id, t)) : RowsMove s t := by
  obtain ⟨_, _, h⟩ := bind_ok h
  obtain ⟨_, _, h⟩ := bind_ok h
  dsimp only at h
  split at h
  · rename_i existing _
    obtain ⟨_, rfl⟩ := Prod.mk.inj (Except.ok.inj h)
    split
    · exact .of_identity rfl rfl rfl
    · exact .of_identity rfl rfl (activate_identity tenant_id existing.id)
  · obtain ⟨created, hcreate, h⟩ := bind_ok h
    obtain ⟨_, rfl⟩ := Prod.mk.inj (Except.ok.inj h)
    exact (create_in_transaction_rows hcreate).trans (.of_identity rfl rfl rfl)

theorem ensure_configs_rows {business_ref : String} {ids : List Uuid}
    (configs : List CustodyAccountChainConfig)
    (h : ensure_watched_addresses_for_custody_account tenant_id address business_ref configs s =
      .ok (ids, t)) : RowsMove s t := by
  induction configs generalizing s ids with
  | nil =>
    obtain ⟨_, rfl⟩ := Prod.mk.inj (Except.ok.inj h)
    exact .of_identity rfl rfl rfl
  | cons config configs ih =>
    obtain ⟨_, _, h⟩ := bind_ok h
    obtain ⟨_, _, h⟩ := bind_ok h
    obtain ⟨_, _, h⟩ := bind_ok h
    obtain ⟨⟨id, u⟩, hone, h⟩ := bind_ok h
    obtain ⟨⟨rest, v⟩, hrest, h⟩ := bind_ok h
    obtain ⟨_, rfl⟩ := Prod.mk.inj (Except.ok.inj h)
    exact (ensure_config_rows hone).trans (ih hrest)

theorem committed_rows {α : Type} {result : AppResult (α × AddressTables)}
    (hok : ∀ a t, result = .ok (a, t) → RowsMove s t) : RowsMove s (s.committed result) := by
  cases result with
  | ok result => exact hok result.1 result.2 rfl
  | error e => exact .of_identity rfl rfl rfl

/-- The rows after a call. -/
theorem write_rows (s : AddressTables) (op : AddressWrite) : RowsMove s (s.write op) := by
  cases op with
  | create_watched_address request =>
    refine committed_rows fun response t hok => ?_
    obtain ⟨_, _, hcreate⟩ := bind_ok hok
    exact create_in_transaction_rows hcreate
  | update_watched_address tenant_id id request =>
    refine committed_rows fun response t hok => ?_
    obtain ⟨_, _, hok⟩ := bind_ok hok
    obtain ⟨result, hset, hok⟩ := bind_ok hok
    obtain ⟨_, rfl⟩ := Prod.mk.inj (Except.ok.inj hok)
    have hmove := set_rows hset
    exact ⟨hmove.chains, hmove.next_le, fun h => (hmove.ids h).of_identity rfl rfl, hmove.before,
      hmove.after⟩
  | create_watched_address_for_import_attempt request updated =>
    refine committed_rows fun response t hok => ?_
    obtain ⟨_, _, hok⟩ := bind_ok hok
    obtain ⟨result, hcreate, hok⟩ := bind_ok hok
    obtain ⟨_, _, hok⟩ := bind_ok hok
    obtain rfl := Except.ok.inj hok
    exact create_in_transaction_rows hcreate
  | assign_custody_account tenant_id requested business_ref configs =>
    exact committed_rows fun ids t hok => ensure_configs_rows configs hok

end Rows

end CoinListener.Storage
