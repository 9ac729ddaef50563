import CoinListener.Storage.CustodyCalls
import CoinListener.Storage.CustodyOrder

/-! What a client knows about accounts and assignments while it holds their locks, and what each
statement adds to it. -/
namespace CoinListener.Storage
open Foundation Transaction

set_option linter.unusedSectionVars false

/-! ### Facts -/

inductive CustodyFact where
  | account (id tenant_id : Uuid)
  | no_account (id : Uuid)
  | active (id tenant_id custody_account_id : Uuid) (business_ref : String)
  | no_assignment (id : Uuid)
  | unused (tenant_id : Uuid) (business_ref : String)
  | vacant (custody_account_id : Uuid)

namespace CustodyFact

def holds : CustodyFact → CustodyTables → Prop
  | .account id tenant_id, t => ∃ row ∈ t.custody_accounts, row.id = id ∧ row.tenant_id = tenant_id
  | .no_account id, t => ∀ row ∈ t.custody_accounts, row.id ≠ id
  | .active id tenant_id custody_account_id business_ref, t =>
    ∃ a ∈ t.custody_account_assignments, a.id = id ∧ a.tenant_id = tenant_id ∧
      a.custody_account_id = custody_account_id ∧ a.business_ref = business_ref ∧
      a.status = .active
  | .no_assignment id, t => ∀ a ∈ t.custody_account_assignments, a.id ≠ id
  | .unused tenant_id business_ref, t => ∀ a ∈ t.custody_account_assignments,
    a.tenant_id = tenant_id → a.business_ref ≠ business_ref
  | .vacant custody_account_id, t => ∀ a ∈ t.custody_account_assignments,
    a.custody_account_id = custody_account_id → a.status ≠ .active

def keys : CustodyFact → List CustodyKey
  | .account id _ => [.account id]
  | .no_account id => [.account id]
  | .active id _ _ _ => [.assignment id]
  | .no_assignment id => [.assignment id]
  | .unused tenant_id business_ref => [.business_ref tenant_id business_ref]
  | .vacant custody_account_id => [.active_assignment custody_account_id]

variable {t u : CustodyTables} {f : CustodyFact}

/-- A version of an account is of no concern to facts about others. -/
theorem kept_account {row : CustodyAccountRow} (hkey : CustodyKey.account row.id ∉ f.keys)
    (h : f.holds t) : f.holds (CustodyChange.apply (.account row) t) := by
  cases f with
  | account id tenant_id =>
    obtain ⟨r, hr, hid, htenant⟩ := h
    have hne : row.id ≠ id := fun heq => hkey (List.mem_singleton.mpr (congrArg _ heq))
    exact ⟨r, Table.mem_put.mpr (.inr ⟨hr, fun heq => hne (heq.symm.trans hid)⟩), hid, htenant⟩
  | no_account id =>
    intro r hr
    rcases Table.mem_put.mp hr with rfl | ⟨hr, _⟩
    · exact fun heq => hkey (List.mem_singleton.mpr (congrArg _ heq))
    · exact h r hr
  | active => exact h
  | no_assignment => exact h
  | unused => exact h
  | vacant => exact h

theorem kept_assignment {a : CustodyAssignmentRow}
    (hkey : ∀ k ∈ CustodyChange.keys (.assignment a), k ∉ f.keys) (h : f.holds t) :
    f.holds (CustodyChange.apply (.assignment a) t) := by
  have hid := hkey _ (List.mem_cons_self ..)
  have href := hkey _ (List.mem_cons_of_mem _ (List.mem_cons_self ..))
  have hactive := hkey _ (List.mem_cons_of_mem _ (List.mem_cons_of_mem _ (List.mem_cons_self ..)))
  cases f with
  | account => exact h
  | no_account => exact h
  | active id tenant_id custody_account_id business_ref =>
    obtain ⟨b, hb, hbid, hrest⟩ := h
    have hne : a.id ≠ id := fun heq => hid (List.mem_singleton.mpr (congrArg _ heq))
    exact ⟨b, Table.mem_put.mpr (.inr ⟨hb, fun heq => hne (heq.symm.trans hbid)⟩), hbid, hrest⟩
  | no_assignment id =>
    intro b hb
    rcases Table.mem_put.mp hb with rfl | ⟨hb, _⟩
    · exact fun heq => hid (List.mem_singleton.mpr (congrArg _ heq))
    · exact h b hb
  | unused tenant_id business_ref =>
    intro b hb htenant hsame
    rcases Table.mem_put.mp hb with rfl | ⟨hb, _⟩
    · subst htenant hsame
      exact href (List.mem_singleton.mpr rfl)
    · exact h b hb htenant hsame
  | vacant custody_account_id =>
    intro b hb haccount
    rcases Table.mem_put.mp hb with rfl | ⟨hb, _⟩
    · subst haccount
      exact absurd (List.mem_singleton.mpr rfl) hactive
    · exact h b hb haccount

theorem kept {c : CustodyChange} (hkeys : ∀ k ∈ c.keys, k ∉ f.keys) (h : f.holds t) :
    f.holds (c.apply t) := by
  cases c with
  | account row => exact kept_account (hkeys _ (List.mem_cons_self ..)) h
  | assignment a => exact kept_assignment hkeys h
  | chain_config => cases f <;> exact h
  | chain_config_asset => cases f <;> exact h
  | watched_address => cases f <;> exact h
  | watched_address_asset => cases f <;> exact h
  | no_watched_address_asset => cases f <;> exact h

open CustodyAccountRow CustodyAssignmentRow in
theorem edited (hedit : CustodyEdit t u) (h : f.holds t) : f.holds u := by
  cases f with
  | account id tenant_id =>
    obtain ⟨row, hrow, hid, htenant⟩ := h
    obtain ⟨row', hrow', heq⟩ := hedit.account hrow
    exact ⟨row', hrow', (detached_id heq).trans hid, (detached_tenant heq).trans htenant⟩
  | no_account id =>
    intro row' hrow' hid
    obtain ⟨row, hrow, heq⟩ := hedit.symm.account hrow'
    exact h row hrow ((detached_id heq).trans hid)
  | active id tenant_id custody_account_id business_ref =>
    obtain ⟨a, ha, hid, htenant, haccount, href, hactive⟩ := h
    obtain ⟨a', ha', heq⟩ := hedit.assignment ha
    have huse := detached_use heq
    exact ⟨a', ha', huse.id.trans hid, huse.tenant_id.trans htenant,
      huse.custody_account_id.trans haccount, huse.business_ref.trans href,
      (CustodyAssignmentRow.detached_status heq).trans hactive⟩
  | no_assignment id =>
    intro a' ha' hid
    obtain ⟨a, ha, heq⟩ := hedit.symm.assignment ha'
    exact h a ha ((detached_use heq).id.trans hid)
  | unused tenant_id business_ref =>
    intro a' ha' htenant href
    obtain ⟨a, ha, heq⟩ := hedit.symm.assignment ha'
    have huse := detached_use heq
    exact h a ha (huse.tenant_id.trans htenant) (huse.business_ref.trans href)
  | vacant custody_account_id =>
    intro a' ha' haccount hactive
    obtain ⟨a, ha, heq⟩ := hedit.symm.assignment ha'
    exact h a ha ((detached_use heq).custody_account_id.trans haccount)
      ((CustodyAssignmentRow.detached_status heq).trans hactive)

end CustodyFact

abbrev custody_facts (lower : String → String) : Facts (custody_schema lower) CustodyEdit where
  Fact := CustodyFact
  holds := CustodyFact.holds
  keys := CustodyFact.keys
  kept := CustodyFact.kept
  edited := CustodyFact.edited

/-! ### The tables a transaction sees -/

/-- The same accounts and assignments. -/
structure SameCustody (t u : CustodyTables) : Prop where
  accounts : t.custody_accounts = u.custody_accounts
  assignments : t.custody_account_assignments = u.custody_account_assignments

namespace CustodyChange
variable {t u : CustodyTables} {c : CustodyChange}

def replay (changes : List CustodyChange) (t : CustodyTables) : CustodyTables :=
  changes.foldl (fun t c => c.apply t) t

theorem apply_same (h : SameCustody t u) : SameCustody (c.apply t) (c.apply u) := by
  cases c with
  | account row => exact ⟨congrArg (Table.put _ row) h.accounts, h.assignments⟩
  | assignment a => exact ⟨h.accounts, congrArg (Table.put _ a) h.assignments⟩
  | chain_config => exact ⟨h.accounts, h.assignments⟩
  | chain_config_asset => exact ⟨h.accounts, h.assignments⟩
  | watched_address => exact ⟨h.accounts, h.assignments⟩
  | watched_address_asset => exact ⟨h.accounts, h.assignments⟩
  | no_watched_address_asset => exact ⟨h.accounts, h.assignments⟩

theorem apply_quiet (hc : c.custodial = false) : SameCustody (c.apply t) t := by
  cases c with
  | account => exact nomatch hc
  | assignment => exact nomatch hc
  | chain_config => exact ⟨rfl, rfl⟩
  | chain_config_asset => exact ⟨rfl, rfl⟩
  | watched_address => exact ⟨rfl, rfl⟩
  | watched_address_asset => exact ⟨rfl, rfl⟩
  | no_watched_address_asset => exact ⟨rfl, rfl⟩

/-- The other changes leave the accounts and the assignments alone. -/
theorem replay_custodial (log : List CustodyChange) (h : SameCustody t u) :
    SameCustody (replay log t) (replay (log.filter (·.custodial)) u) := by
  induction log generalizing t u with
  | nil => exact h
  | cons c log ih =>
    cases hc : c.custodial with
    | true =>
      rw [List.filter_cons_of_pos hc]
      exact ih (apply_same h)
    | false =>
      have hquiet : SameCustody (c.apply t) t := apply_quiet hc
      rw [List.filter_cons_of_neg (by simp [hc])]
      exact ih ⟨hquiet.accounts.trans h.accounts, hquiet.assignments.trans h.assignments⟩

/-- The identifier of a changed account or assignment is one of those given out. -/
def Below (n : Uuid) : CustodyChange → Prop
  | .account row => row.id < n
  | .assignment a => a.id < n
  | _ => True

theorem below_of_quiet {n : Uuid} (hc : c.custodial = false) : c.Below n := by
  cases c with
  | account => exact nomatch hc
  | assignment => exact nomatch hc
  | _ => exact trivial

theorem Below.mono {m n : Uuid} (h : c.Below m) (hmn : m ≤ n) : c.Below n := by
  cases c with
  | account => exact Nat.lt_of_lt_of_le h hmn
  | assignment => exact Nat.lt_of_lt_of_le h hmn
  | _ => exact trivial

end CustodyChange

structure CustodyTables.Below (t : CustodyTables) (n : Uuid) : Prop where
  accounts : ∀ row ∈ t.custody_accounts, row.id < n
  assignments : ∀ a ∈ t.custody_account_assignments, a.id < n

namespace CustodyTables.Below
variable {t u : CustodyTables} {m n : Uuid}

theorem mono (h : t.Below m) (hmn : m ≤ n) : t.Below n :=
  ⟨fun row hrow => Nat.lt_of_lt_of_le (h.accounts row hrow) hmn,
    fun a ha => Nat.lt_of_lt_of_le (h.assignments a ha) hmn⟩

theorem of_same (h : t.Below n) (hsame : SameCustody u t) : u.Below n :=
  ⟨hsame.accounts ▸ h.accounts, hsame.assignments ▸ h.assignments⟩

theorem apply {c : CustodyChange} (h : t.Below n) (hc : c.Below n) : (c.apply t).Below n := by
  cases c with
  | account row =>
    refine ⟨fun r hr => ?_, h.assignments⟩
    rcases Table.mem_put.mp hr with rfl | ⟨hr, _⟩
    · exact hc
    · exact h.accounts r hr
  | assignment a =>
    refine ⟨h.accounts, fun b hb => ?_⟩
    rcases Table.mem_put.mp hb with rfl | ⟨hb, _⟩
    · exact hc
    · exact h.assignments b hb
  | chain_config => exact ⟨h.accounts, h.assignments⟩
  | chain_config_asset => exact ⟨h.accounts, h.assignments⟩
  | watched_address => exact ⟨h.accounts, h.assignments⟩
  | watched_address_asset => exact ⟨h.accounts, h.assignments⟩
  | no_watched_address_asset => exact ⟨h.accounts, h.assignments⟩

theorem replay {log : List CustodyChange} (h : t.Below n) (hlog : ∀ c ∈ log, c.Below n) :
    (CustodyChange.replay log t).Below n := by
  induction log generalizing t with
  | nil => exact h
  | cons c log ih =>
    exact ih (h.apply (hlog c (List.mem_cons_self ..)))
      fun d hd => hlog d (List.mem_cons_of_mem _ hd)

theorem edited (h : t.Below n) (hedit : CustodyEdit t u) : u.Below n := by
  refine ⟨fun row hrow => ?_, fun a ha => ?_⟩
  · obtain ⟨row₀, hrow₀, heq⟩ := hedit.symm.account hrow
    exact CustodyAccountRow.detached_id heq ▸ h.accounts row₀ hrow₀
  · obtain ⟨a₀, ha₀, heq⟩ := hedit.symm.assignment ha
    exact (CustodyAssignmentRow.detached_use heq).id ▸ h.assignments a₀ ha₀

end CustodyTables.Below

end CoinListener.Storage
