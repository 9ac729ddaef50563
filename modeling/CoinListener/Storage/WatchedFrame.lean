import CoinListener.Storage.AddressSpelling
import CoinListener.Storage.CustodySteps

/-! How the watched addresses go on when some of them are watched again or added. -/
namespace CoinListener.Storage
open Foundation

/-! ### Rows -/

/-- An address that is watched again; nothing else about it changes. -/
def reactivated (row : WatchedAddress) : WatchedAddress :=
  { row with status := "active" }

@[simp] theorem reactivated_reactivated (row : WatchedAddress) :
    reactivated (reactivated row) = reactivated row := rfl

namespace CustodyTables
variable (t : CustodyTables)

def Denotes (tenant_id chain_id : Uuid) (address : String) (row : WatchedAddress) : Prop :=
  (t.address_tables 0).Denotes tenant_id chain_id address row

/-- The address is watched on the chain, with these assets at least. -/
def Watched (tenant_id chain_id : Uuid) (address : String) (asset_ids : List Uuid) : Prop :=
  ∃ row ∈ t.watched_addresses, row.status = "active" ∧ t.Denotes tenant_id chain_id address row ∧
    ∀ asset_id ∈ asset_ids, (row.id, asset_id) ∈ t.watched_address_assets

/-- All but the watched addresses. -/
def without_addresses : CustodyTables :=
  { t with watched_addresses := [], watched_address_assets := [] }

end CustodyTables

/-- Identifiers are unique, and the next one is not that of a watched address. -/
structure CustodyIds (t : CustodyTables) (next_id : Uuid) : Prop where
  accounts : (t.custody_accounts.map (·.id)).Nodup
  addresses : (t.watched_addresses.map (·.id)).Nodup
  below : ∀ row ∈ t.watched_addresses, row.id < next_id

/-! ### Changes -/

namespace CustodyChange

/-- Changes of the watched addresses and their assets. -/
def addressed : CustodyChange → Bool
  | .watched_address _ => true
  | .watched_address_asset .. => true
  | .no_watched_address_asset .. => true
  | _ => false

/-- Links between watched addresses and assets. -/
def linking : CustodyChange → Bool
  | .watched_address_asset .. => true
  | .no_watched_address_asset .. => true
  | _ => false

variable {t : CustodyTables} {c : CustodyChange} {log : List CustodyChange} {n m : Uuid}

theorem replay_without_addresses (h : ∀ c ∈ log, c.addressed = true) :
    (replay log t).without_addresses = t.without_addresses := by
  induction log generalizing t with
  | nil => rfl
  | cons c log ih =>
    have hc := h c (List.mem_cons_self ..)
    refine (ih fun d hd => h d (List.mem_cons_of_mem _ hd)).trans ?_
    cases c with
    | watched_address => rfl
    | watched_address_asset => rfl
    | no_watched_address_asset => rfl
    | _ => exact nomatch hc

theorem replay_address_tables (h : ∀ c ∈ log, c.addressed = false) :
    (replay log t).address_tables 0 = t.address_tables 0 := by
  induction log generalizing t with
  | nil => rfl
  | cons c log ih =>
    have hc := h c (List.mem_cons_self ..)
    refine (ih fun d hd => h d (List.mem_cons_of_mem _ hd)).trans ?_
    cases c with
    | watched_address => exact nomatch hc
    | watched_address_asset => exact nomatch hc
    | no_watched_address_asset => exact nomatch hc
    | _ => rfl

theorem replay_linking (h : ∀ c ∈ log, c.linking = true) :
    (replay log t).watched_addresses = t.watched_addresses := by
  induction log generalizing t with
  | nil => rfl
  | cons c log ih =>
    have hc := h c (List.mem_cons_self ..)
    refine (ih fun d hd => h d (List.mem_cons_of_mem _ hd)).trans ?_
    cases c with
    | watched_address_asset => rfl
    | no_watched_address_asset => rfl
    | _ => exact nomatch hc

/-- What links become. -/
theorem mem_replay_links {address_id : Uuid} {asset_ids : List Uuid} {link : Uuid × Uuid} :
    link ∈ (replay (asset_ids.map (.watched_address_asset address_id)) t).watched_address_assets ↔
      link ∈ t.watched_address_assets ∨ (link.1 = address_id ∧ link.2 ∈ asset_ids) := by
  induction asset_ids generalizing t with
  | nil => simp [replay]
  | cons asset_id asset_ids ih =>
    have hput : link ∈ (apply (.watched_address_asset address_id asset_id) t).watched_address_assets ↔
        link = (address_id, asset_id) ∨ link ∈ t.watched_address_assets := by
      refine Table.mem_put.trans ?_
      by_cases heq : link = (address_id, asset_id)
      · simp [heq]
      · simp [heq]
    have hnext := ih (t := apply (.watched_address_asset address_id asset_id) t)
    rw [hput] at hnext
    refine hnext.trans ?_
    rw [List.mem_cons, Prod.ext_iff]
    grind

/-- Only the links that are listed are removed. -/
theorem mem_replay_no_links {links : List (Uuid × Uuid)} {link : Uuid × Uuid} :
    link ∈ (replay (links.map fun l => .no_watched_address_asset l.1 l.2) t).watched_address_assets ↔
      link ∈ t.watched_address_assets ∧ link ∉ links := by
  induction links generalizing t with
  | nil => simp [replay]
  | cons removed links ih =>
    have hfilter : link ∈
        (apply (.no_watched_address_asset removed.1 removed.2) t).watched_address_assets ↔
          link ∈ t.watched_address_assets ∧ link ≠ removed := by
      simp [apply]
    have hnext := ih (t := apply (.no_watched_address_asset removed.1 removed.2) t)
    rw [hfilter] at hnext
    refine hnext.trans ?_
    rw [List.mem_cons, not_or, and_assoc]

end CustodyChange

/-! ### Identifiers -/

namespace CustodyIds
variable {t : CustodyTables} {log : List CustodyChange} {n m : Uuid} {row : WatchedAddress}

theorem mono (h : CustodyIds t n) (hle : n ≤ m) : CustodyIds t m :=
  ⟨h.accounts, h.addresses, fun row hrow => Nat.lt_of_lt_of_le (h.below row hrow) hle⟩

theorem put (h : CustodyIds t n) (hrow : row.id < n) :
    CustodyIds (CustodyChange.apply (.watched_address row) t) n := by
  refine ⟨h.accounts, Table.put_nodup h.addresses, fun other hother => ?_⟩
  rcases Table.mem_put.mp hother with rfl | ⟨hold, _⟩
  · exact hrow
  · exact h.below other hold

theorem replay_linking (h : CustodyIds t n) (hlog : ∀ c ∈ log, c.linking = true) :
    CustodyIds (CustodyChange.replay log t) n := by
  have haddressed : ∀ c ∈ log, c.addressed = true := by
    intro c hc
    have hlinking := hlog c hc
    cases c with
    | watched_address_asset => rfl
    | no_watched_address_asset => rfl
    | _ => exact nomatch hlinking
  have haccounts : (CustodyChange.replay log t).custody_accounts = t.custody_accounts :=
    congrArg (·.custody_accounts) (CustodyChange.replay_without_addresses haddressed)
  constructor
  · rw [haccounts]
    exact h.accounts
  · rw [CustodyChange.replay_linking hlog]
    exact h.addresses
  · rw [CustodyChange.replay_linking hlog]
    exact h.below

/-- Other changes of the tables. -/
theorem replay_aside (h : CustodyIds t n) (hlog : ∀ c ∈ log, c.addressed = false) :
    CustodyIds (CustodyChange.replay log t) n := by
  induction log generalizing t with
  | nil => exact h
  | cons c log ih =>
    have hc := hlog c (List.mem_cons_self ..)
    refine ih ?_ fun d hd => hlog d (List.mem_cons_of_mem _ hd)
    cases c with
    | account row => exact ⟨Table.put_nodup h.accounts, h.addresses, h.below⟩
    | assignment => exact ⟨h.accounts, h.addresses, h.below⟩
    | chain_config => exact ⟨h.accounts, h.addresses, h.below⟩
    | chain_config_asset => exact ⟨h.accounts, h.addresses, h.below⟩
    | _ => exact nomatch hc

theorem address_eq (h : CustodyIds t n) {other : WatchedAddress} (hrow : row ∈ t.watched_addresses)
    (hother : other ∈ t.watched_addresses) (hid : row.id = other.id) : row = other :=
  List.inj_on_of_nodup_map h.addresses hrow hother hid

end CustodyIds

/-! ### The frame -/

/-- From `t` to `u` some watched addresses are watched again and some are added, with identifiers
from `n` on, and they get further assets; all of these are among the addresses that `about` tells. -/
structure Watching (about : WatchedAddress → Prop) (n : Uuid) (t u : CustodyTables) : Prop where
  rest : u.without_addresses = t.without_addresses
  kept : ∀ row ∈ t.watched_addresses, row ∈ u.watched_addresses ∨
    (about row ∧ reactivated row ∈ u.watched_addresses)
  rows : ∀ row ∈ u.watched_addresses, row ∈ t.watched_addresses ∨
    (about row ∧ ((∃ old ∈ t.watched_addresses, row = reactivated old) ∨ n ≤ row.id))
  links : ∀ link ∈ t.watched_address_assets, link.1 < n → link ∈ u.watched_address_assets
  new_links : ∀ link ∈ u.watched_address_assets, link ∈ t.watched_address_assets ∨
    ∃ row ∈ u.watched_addresses, about row ∧ row.id = link.1

namespace Watching
variable {about : WatchedAddress → Prop} {n m next_id : Uuid} {t u v : CustodyTables}
  {log : List CustodyChange} {row : WatchedAddress} {tenant_id chain_id : Uuid} {address : String}
  {asset_ids : List Uuid}

theorem refl : Watching about n t t :=
  ⟨rfl, fun _ h => .inl h, fun _ h => .inl h, fun _ h _ => h, fun _ h => .inl h⟩

theorem mono (h : Watching about m t u) (hle : n ≤ m) : Watching about n t u := by
  refine ⟨h.rest, h.kept, fun row hrow => ?_, fun link hlink hbelow =>
    h.links link hlink (Nat.lt_of_lt_of_le hbelow hle), h.new_links⟩
  rcases h.rows row hrow with hold | ⟨habout, hreactivated | hnew⟩
  · exact .inl hold
  · exact .inr ⟨habout, .inl hreactivated⟩
  · exact .inr ⟨habout, .inr (Nat.le_trans hle hnew)⟩

theorem trans (habout : ∀ row, about row → about (reactivated row)) (h : Watching about n t u)
    (h' : Watching about n u v) : Watching about n t v := by
  refine ⟨h'.rest.trans h.rest, fun row hrow => ?_, fun row hrow => ?_,
    fun link hlink hbelow => h'.links link (h.links link hlink hbelow) hbelow, fun link hlink => ?_⟩
  · rcases h.kept row hrow with hsame | ⟨hrow_about, hagain⟩
    · exact h'.kept row hsame
    · rcases h'.kept _ hagain with hagain' | ⟨_, hagain'⟩
      · exact .inr ⟨hrow_about, hagain'⟩
      · exact .inr ⟨hrow_about, hagain'⟩
  · rcases h'.rows row hrow with hmiddle | ⟨hrow_about, ⟨old, hold, rfl⟩ | hnew⟩
    · exact h.rows row hmiddle
    · rcases h.rows old hold with hfirst | ⟨_, ⟨older, holder, rfl⟩ | hnew⟩
      · exact .inr ⟨hrow_about, .inl ⟨old, hfirst, rfl⟩⟩
      · exact .inr ⟨hrow_about, .inl ⟨older, holder, rfl⟩⟩
      · exact .inr ⟨hrow_about, .inr hnew⟩
    · exact .inr ⟨hrow_about, .inr hnew⟩
  · rcases h'.new_links link hlink with hmiddle | hnew
    · rcases h.new_links link hmiddle with hold | ⟨row, hrow, hrow_about, hid⟩
      · exact .inl hold
      · rcases h'.kept row hrow with hsame | ⟨_, hagain⟩
        · exact .inr ⟨row, hsame, hrow_about, hid⟩
        · exact .inr ⟨reactivated row, hagain, habout row hrow_about, hid⟩
    · exact .inr hnew

theorem chains (h : Watching about n t u) : u.chains = t.chains :=
  congrArg (·.chains) h.rest

theorem denotes (h : Watching about n t u) :
    u.Denotes tenant_id chain_id address row ↔ t.Denotes tenant_id chain_id address row :=
  ⟨fun hrow => Denotes.of_chains (s := t.address_tables 0) (t := u.address_tables 0) h.chains hrow,
    fun hrow => Denotes.of_chains (s := u.address_tables 0) (t := t.address_tables 0) h.chains.symm
      hrow⟩

/-- What is watched stays watched. -/
theorem watched (h : Watching about n t u) (hids : CustodyIds t n)
    (hwatched : t.Watched tenant_id chain_id address asset_ids) :
    u.Watched tenant_id chain_id address asset_ids := by
  obtain ⟨row, hrow, hactive, hdenotes, hlinks⟩ := hwatched
  have hmore : ∀ asset_id ∈ asset_ids, (row.id, asset_id) ∈ u.watched_address_assets :=
    fun asset_id hasset => h.links _ (hlinks asset_id hasset) (hids.below row hrow)
  rcases h.kept row hrow with hsame | ⟨_, hagain⟩
  · exact ⟨row, hsame, hactive, h.denotes.mpr hdenotes, hmore⟩
  · exact ⟨reactivated row, hagain, rfl, h.denotes.mpr hdenotes, hmore⟩

/-- An address is watched again. -/
theorem reactivate (hids : CustodyIds t n) (hrow : row ∈ t.watched_addresses) (habout : about row)
    (hagain : about (reactivated row)) :
    Watching about n t (CustodyChange.apply (.watched_address (reactivated row)) t) := by
  refine ⟨rfl, fun other hother => ?_, fun other hother => ?_, fun _ h _ => h, fun _ h => .inl h⟩
  · by_cases hid : other.id = row.id
    · obtain rfl := hids.address_eq hother hrow hid
      exact .inr ⟨habout, Table.put_self ..⟩
    · exact .inl (Table.mem_put.mpr (.inr ⟨hother, hid⟩))
  · rcases Table.mem_put.mp hother with rfl | ⟨hold, _⟩
    · exact .inr ⟨hagain, .inl ⟨row, hrow, rfl⟩⟩
    · exact .inl hold

/-- An address is added. -/
theorem add (hids : CustodyIds t n) (hid : row.id = n) (habout : about row) :
    Watching about n t (CustodyChange.apply (.watched_address row) t) := by
  refine ⟨rfl, fun other hother => ?_, fun other hother => ?_, fun _ h _ => h, fun _ h => .inl h⟩
  · have hbelow := hids.below other hother
    refine .inl (Table.mem_put.mpr (.inr ⟨hother, fun heq => ?_⟩))
    rw [heq, hid] at hbelow
    exact Nat.lt_irrefl n hbelow
  · rcases Table.mem_put.mp hother with rfl | ⟨hold, _⟩
    · exact .inr ⟨habout, .inr (Nat.le_of_eq hid.symm)⟩
    · exact .inl hold

/-- Links of a new address are removed. -/
theorem unlink {links : List (Uuid × Uuid)} (hlinks : ∀ link ∈ links, n ≤ link.1) :
    Watching about n t
      (CustodyChange.replay (links.map fun l => .no_watched_address_asset l.1 l.2) t) := by
  have hlinking : ∀ c ∈ links.map fun l => CustodyChange.no_watched_address_asset l.1 l.2,
      c.linking = true := by
    intro c hc
    obtain ⟨link, _, rfl⟩ := List.mem_map.mp hc
    rfl
  have hrows := CustodyChange.replay_linking (t := t) hlinking
  refine ⟨CustodyChange.replay_without_addresses fun c hc => ?_, fun row hrow => .inl ?_,
    fun row hrow => .inl ?_, fun link hlink hbelow => ?_, fun link hlink => .inl ?_⟩
  · obtain ⟨link, _, rfl⟩ := List.mem_map.mp hc
    rfl
  · rw [hrows]
    exact hrow
  · rw [hrows] at hrow
    exact hrow
  · refine CustodyChange.mem_replay_no_links.mpr ⟨hlink, fun hmem => ?_⟩
    exact Nat.lt_irrefl n (Nat.lt_of_le_of_lt (hlinks link hmem) hbelow)
  · exact (CustodyChange.mem_replay_no_links.mp hlink).1

/-- An address gets assets. -/
theorem link (hrow : row ∈ t.watched_addresses) (habout : about row) :
    Watching about n t
      (CustodyChange.replay (asset_ids.map (.watched_address_asset row.id)) t) := by
  have hlinking : ∀ c ∈ asset_ids.map (CustodyChange.watched_address_asset row.id),
      c.linking = true := by
    intro c hc
    obtain ⟨asset_id, _, rfl⟩ := List.mem_map.mp hc
    rfl
  have hrows := CustodyChange.replay_linking (t := t) hlinking
  refine ⟨CustodyChange.replay_without_addresses fun c hc => ?_, fun other hother => .inl ?_,
    fun other hother => .inl ?_, fun link hlink _ => ?_, fun link hlink => ?_⟩
  · obtain ⟨asset_id, _, rfl⟩ := List.mem_map.mp hc
    rfl
  · rw [hrows]
    exact hother
  · rw [hrows] at hother
    exact hother
  · exact CustodyChange.mem_replay_links.mpr (.inl hlink)
  · rcases CustodyChange.mem_replay_links.mp hlink with hold | ⟨hid, _⟩
    · exact .inl hold
    · exact .inr ⟨row, hrows.symm ▸ hrow, habout, hid.symm⟩

end Watching

end CoinListener.Storage
