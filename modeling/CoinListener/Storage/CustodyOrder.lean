import CoinListener.Storage.CustodyStatements

/-! What custody accounts and assignments satisfy together, and how each transaction keeps it. -/
namespace CoinListener.Storage
open Foundation Transaction

/-- What the two tables satisfy. An account from the pool that is marked as assigned without an
assignment has never had one. -/
structure Custodial (accounts : List CustodyAccountRow) (assignments : List CustodyAssignmentRow) :
    Prop where
  account_ids : (accounts.map (·.id)).Nodup
  assignment_ids : (assignments.map (·.id)).Nodup
  one_use : ∀ a ∈ assignments, ∀ b ∈ assignments, a.tenant_id = b.tenant_id →
    a.business_ref = b.business_ref → a.id = b.id
  one_active : ∀ a ∈ assignments, ∀ b ∈ assignments, a.custody_account_id = b.custody_account_id →
    a.status = .active → b.status = .active → a.id = b.id
  placed : ∀ a ∈ assignments, ∃ row ∈ accounts, row.id = a.custody_account_id ∧
    row.tenant_id = a.tenant_id ∧ (a.status = .active → row.status = .assigned)
  pooled : ∀ row ∈ accounts, row.source = .pool → row.status = .assigned →
    (∃ a ∈ assignments, a.custody_account_id = row.id ∧ a.status = .active) ∨
      ∀ a ∈ assignments, a.custody_account_id ≠ row.id

/-- The same use of an account, whatever has become of it. -/
structure SameUse (a b : CustodyAssignmentRow) : Prop where
  id : b.id = a.id
  tenant_id : b.tenant_id = a.tenant_id
  custody_account_id : b.custody_account_id = a.custody_account_id
  business_ref : b.business_ref = a.business_ref

theorem SameUse.refl (a : CustodyAssignmentRow) : SameUse a a :=
  ⟨rfl, rfl, rfl, rfl⟩

theorem SameUse.trans {a b c : CustodyAssignmentRow} (hab : SameUse a b) (hbc : SameUse b c) :
    SameUse a c :=
  ⟨hbc.id.trans hab.id, hbc.tenant_id.trans hab.tenant_id,
    hbc.custody_account_id.trans hab.custody_account_id, hbc.business_ref.trans hab.business_ref⟩

/-- No use is forgotten. -/
def CustodyKept (t u : CustodyTables) : Prop :=
  ∀ a ∈ t.custody_account_assignments, ∃ b ∈ u.custody_account_assignments, SameUse a b

theorem CustodyKept.refl (t : CustodyTables) : CustodyKept t t :=
  fun a ha => ⟨a, ha, .refl a⟩

theorem CustodyKept.trans {t u v : CustodyTables} (htu : CustodyKept t u) (huv : CustodyKept u v) :
    CustodyKept t v := by
  intro a ha
  obtain ⟨b, hb, hab⟩ := htu a ha
  obtain ⟨c, hc, hbc⟩ := huv b hb
  exact ⟨c, hc, hab.trans hbc⟩

namespace Custodial
variable {accounts : List CustodyAccountRow} {assignments : List CustodyAssignmentRow}
  {row row' : CustodyAccountRow} {a a' : CustodyAssignmentRow}

theorem empty : Custodial [] [] where
  account_ids := List.nodup_nil
  assignment_ids := List.nodup_nil
  one_use _ ha := absurd ha List.not_mem_nil
  one_active _ ha := absurd ha List.not_mem_nil
  placed _ ha := absurd ha List.not_mem_nil
  pooled _ hrow := absurd hrow List.not_mem_nil

/-- No assignment refers to an account that is new. -/
theorem insert (h : Custodial accounts assignments) (hnew : ∀ r ∈ accounts, r.id ≠ row.id) :
    Custodial (Table.put (·.id) row accounts) assignments where
  account_ids := Table.put_nodup h.account_ids
  assignment_ids := h.assignment_ids
  one_use := h.one_use
  one_active := h.one_active
  placed a ha := by
    obtain ⟨r, hr, hid, hrest⟩ := h.placed a ha
    exact ⟨r, Table.mem_put.mpr (.inr ⟨hr, hnew r hr⟩), hid, hrest⟩
  pooled r hr hpool hassigned := by
    rcases Table.mem_put.mp hr with rfl | ⟨hold, _⟩
    · right
      intro a ha hrefers
      obtain ⟨other, hother, hid, _⟩ := h.placed a ha
      exact hnew other hother (hid.trans hrefers)
    · exact h.pooled r hold hpool hassigned

/-- A new assignment of an account without an active one. -/
theorem assign (h : Custodial accounts assignments) (hrow : row ∈ accounts) (hid : row'.id = row.id)
    (htenant : row'.tenant_id = row.tenant_id) (hassigned : row'.status = .assigned)
    (haccount : a.custody_account_id = row.id) (hatenant : a.tenant_id = row.tenant_id)
    (hactive : a.status = .active) (hnew : ∀ b ∈ assignments, b.id ≠ a.id)
    (hunused : ∀ b ∈ assignments, b.tenant_id = a.tenant_id → b.business_ref ≠ a.business_ref)
    (hvacant : ∀ b ∈ assignments, b.custody_account_id = a.custody_account_id →
      b.status ≠ .active) :
    Custodial (Table.put (·.id) row' accounts) (Table.put (·.id) a assignments) where
  account_ids := Table.put_nodup h.account_ids
  assignment_ids := Table.put_nodup h.assignment_ids
  one_use b hb c hc ht href := by
    rcases Table.mem_put.mp hb with rfl | ⟨hbo, _⟩ <;> rcases Table.mem_put.mp hc with rfl | ⟨hco, _⟩
    · rfl
    · exact absurd href.symm (hunused c hco ht.symm)
    · exact absurd href (hunused b hbo ht)
    · exact h.one_use b hbo c hco ht href
  one_active b hb c hc hsame hbactive hcactive := by
    rcases Table.mem_put.mp hb with rfl | ⟨hbo, _⟩ <;> rcases Table.mem_put.mp hc with rfl | ⟨hco, _⟩
    · rfl
    · exact absurd hcactive (hvacant c hco hsame.symm)
    · exact absurd hbactive (hvacant b hbo hsame)
    · exact h.one_active b hbo c hco hsame hbactive hcactive
  placed b hb := by
    rcases Table.mem_put.mp hb with rfl | ⟨hb, _⟩
    · exact ⟨row', Table.put_self .., hid.trans haccount.symm, htenant.trans hatenant.symm,
        fun _ => hassigned⟩
    obtain ⟨r, hr, hrid, hrtenant, hrest⟩ := h.placed b hb
    by_cases hsame : r.id = row'.id
    · have heq : r = row := List.inj_on_of_nodup_map h.account_ids hr hrow (hsame.trans hid)
      subst r
      exact ⟨row', Table.put_self .., hid.trans hrid, htenant.trans hrtenant, fun _ => hassigned⟩
    · exact ⟨r, Table.mem_put.mpr (.inr ⟨hr, hsame⟩), hrid, hrtenant, hrest⟩
  pooled r hr hpool hrassigned := by
    rcases Table.mem_put.mp hr with rfl | ⟨hr, hne⟩
    · exact .inl ⟨a, Table.put_self .., haccount.trans hid.symm, hactive⟩
    rcases h.pooled r hr hpool hrassigned with ⟨b, hb, hbaccount, hbactive⟩ | hnever
    · exact .inl ⟨b, Table.mem_put.mpr (.inr ⟨hb, hnew b hb⟩), hbaccount, hbactive⟩
    · right
      intro b hb hbaccount
      rcases Table.mem_put.mp hb with rfl | ⟨hb, _⟩
      · exact hne (hbaccount.symm.trans (haccount.trans hid.symm))
      · exact hnever b hb hbaccount

/-- The only active assignment of an account ends. -/
theorem release (h : Custodial accounts assignments) (hrow : row ∈ accounts) (hid : row'.id = row.id)
    (htenant : row'.tenant_id = row.tenant_id)
    (havailable : row'.source = .pool → row'.status = .available) (ha : a ∈ assignments)
    (huse : SameUse a a') (hactive : a.status = .active) (hreleased : a'.status = .released)
    (haccount : a.custody_account_id = row.id) :
    Custodial (Table.put (·.id) row' accounts) (Table.put (·.id) a' assignments) where
  account_ids := Table.put_nodup h.account_ids
  assignment_ids := Table.put_nodup h.assignment_ids
  one_use b hb c hc ht href := by
    rcases Table.mem_put.mp hb with rfl | ⟨hbo, _⟩ <;> rcases Table.mem_put.mp hc with rfl | ⟨hco, _⟩
    · rfl
    · exact huse.id.trans (h.one_use a ha c hco (huse.tenant_id.symm.trans ht)
        (huse.business_ref.symm.trans href))
    · exact (h.one_use b hbo a ha (ht.trans huse.tenant_id) (href.trans huse.business_ref)).trans
        huse.id.symm
    · exact h.one_use b hbo c hco ht href
  one_active b hb c hc hsame hbactive hcactive := by
    rcases Table.mem_put.mp hb with rfl | ⟨hb, _⟩
    · exact nomatch hbactive.symm.trans hreleased
    rcases Table.mem_put.mp hc with rfl | ⟨hc, _⟩
    · exact nomatch hcactive.symm.trans hreleased
    exact h.one_active b hb c hc hsame hbactive hcactive
  placed b hb := by
    rcases Table.mem_put.mp hb with rfl | ⟨hb, hne⟩
    · obtain ⟨r, hr, hrid, hrtenant, _⟩ := h.placed a ha
      have heq : r = row := List.inj_on_of_nodup_map h.account_ids hr hrow (hrid.trans haccount)
      subst r
      exact ⟨row', Table.put_self .., hid.trans (hrid.trans huse.custody_account_id.symm),
        htenant.trans (hrtenant.trans huse.tenant_id.symm),
        fun hb => nomatch hb.symm.trans hreleased⟩
    obtain ⟨r, hr, hrid, hrtenant, hrest⟩ := h.placed b hb
    by_cases hsame : r.id = row'.id
    · have heq : r = row := List.inj_on_of_nodup_map h.account_ids hr hrow (hsame.trans hid)
      subst r
      refine ⟨row', Table.put_self .., hid.trans hrid, htenant.trans hrtenant, fun hbactive => ?_⟩
      have hba := h.one_active b hb a ha (hrid.symm.trans haccount.symm) hbactive hactive
      exact absurd (hba.trans huse.id.symm) hne
    · exact ⟨r, Table.mem_put.mpr (.inr ⟨hr, hsame⟩), hrid, hrtenant, hrest⟩
  pooled r hr hpool hrassigned := by
    rcases Table.mem_put.mp hr with rfl | ⟨hr, hne⟩
    · exact nomatch hrassigned.symm.trans (havailable hpool)
    rcases h.pooled r hr hpool hrassigned with ⟨b, hb, hbaccount, hbactive⟩ | hnever
    · refine .inl ⟨b, Table.mem_put.mpr (.inr ⟨hb, fun hba => ?_⟩), hbaccount, hbactive⟩
      have hbaeq : b = a :=
        List.inj_on_of_nodup_map h.assignment_ids hb ha (hba.trans huse.id)
      subst b
      exact hne (hbaccount.symm.trans (haccount.trans hid.symm))
    · right
      intro b hb hbaccount
      rcases Table.mem_put.mp hb with rfl | ⟨hb, _⟩
      · exact hne (hbaccount.symm.trans (huse.custody_account_id.trans (haccount.trans hid.symm)))
      · exact hnever b hb hbaccount

end Custodial

/-! ### Other parts of the system -/

def CustodyAccountRow.detached (row : CustodyAccountRow) : CustodyAccountRow :=
  { row with watched_address_id := none }

def CustodyAssignmentRow.detached (row : CustodyAssignmentRow) : CustodyAssignmentRow :=
  { row with watched_address_id := none }

/-- Chains, assets, watched addresses and chain configs are edited at will. The accounts and the
assignments stay, in whatever order, but they lose a watched address that is deleted. -/
structure CustodyEdit (t u : CustodyTables) : Prop where
  accounts : (u.custody_accounts.map (·.detached)).Perm (t.custody_accounts.map (·.detached))
  assignments : (u.custody_account_assignments.map (·.detached)).Perm
    (t.custody_account_assignments.map (·.detached))

namespace CustodyEdit
variable {t u : CustodyTables}

theorem symm (h : CustodyEdit t u) : CustodyEdit u t :=
  ⟨h.accounts.symm, h.assignments.symm⟩

theorem account (h : CustodyEdit t u) {row : CustodyAccountRow} (hrow : row ∈ t.custody_accounts) :
    ∃ row' ∈ u.custody_accounts, row'.detached = row.detached :=
  List.mem_map.mp (h.accounts.symm.subset (List.mem_map_of_mem hrow))

theorem assignment (h : CustodyEdit t u) {a : CustodyAssignmentRow}
    (ha : a ∈ t.custody_account_assignments) :
    ∃ a' ∈ u.custody_account_assignments, a'.detached = a.detached :=
  List.mem_map.mp (h.assignments.symm.subset (List.mem_map_of_mem ha))

end CustodyEdit

theorem CustodyAccountRow.detached_id {row row' : CustodyAccountRow}
    (h : row'.detached = row.detached) : row'.id = row.id :=
  congrArg (·.id) h

theorem CustodyAccountRow.detached_tenant {row row' : CustodyAccountRow}
    (h : row'.detached = row.detached) : row'.tenant_id = row.tenant_id :=
  congrArg (·.tenant_id) h

theorem CustodyAccountRow.detached_source {row row' : CustodyAccountRow}
    (h : row'.detached = row.detached) : row'.source = row.source :=
  congrArg (·.source) h

theorem CustodyAccountRow.detached_status {row row' : CustodyAccountRow}
    (h : row'.detached = row.detached) : row'.status = row.status :=
  congrArg (·.status) h

theorem CustodyAssignmentRow.detached_use {a a' : CustodyAssignmentRow}
    (h : a'.detached = a.detached) : SameUse a a' :=
  ⟨congrArg (·.id) h, congrArg (·.tenant_id) h, congrArg (·.custody_account_id) h,
    congrArg (·.business_ref) h⟩

theorem CustodyAssignmentRow.detached_status {a a' : CustodyAssignmentRow}
    (h : a'.detached = a.detached) : a'.status = a.status :=
  congrArg (·.status) h

theorem CustodyEdit.kept {t u : CustodyTables} (h : CustodyEdit t u) : CustodyKept t u := by
  intro a ha
  obtain ⟨a', ha', heq⟩ := h.assignment ha
  exact ⟨a', ha', CustodyAssignmentRow.detached_use heq⟩

open CustodyAccountRow CustodyAssignmentRow in
theorem Custodial.edited {t u : CustodyTables}
    (h : Custodial t.custody_accounts t.custody_account_assignments) (hedit : CustodyEdit t u) :
    Custodial u.custody_accounts u.custody_account_assignments where
  account_ids := by
    have hids := (hedit.accounts.map (·.id)).nodup_iff
    simp only [List.map_map] at hids
    exact hids.mpr h.account_ids
  assignment_ids := by
    have hids := (hedit.assignments.map (·.id)).nodup_iff
    simp only [List.map_map] at hids
    exact hids.mpr h.assignment_ids
  one_use a ha b hb ht href := by
    obtain ⟨a₀, ha₀, hae⟩ := hedit.symm.assignment ha
    obtain ⟨b₀, hb₀, hbe⟩ := hedit.symm.assignment hb
    have hau := detached_use hae
    have hbu := detached_use hbe
    have hid := h.one_use a₀ ha₀ b₀ hb₀ (hau.tenant_id.trans (ht.trans hbu.tenant_id.symm))
      (hau.business_ref.trans (href.trans hbu.business_ref.symm))
    exact hau.id.symm.trans (hid.trans hbu.id)
  one_active a ha b hb hsame hactive hbactive := by
    obtain ⟨a₀, ha₀, hae⟩ := hedit.symm.assignment ha
    obtain ⟨b₀, hb₀, hbe⟩ := hedit.symm.assignment hb
    have hau := detached_use hae
    have hbu := detached_use hbe
    have hid := h.one_active a₀ ha₀ b₀ hb₀
      (hau.custody_account_id.trans (hsame.trans hbu.custody_account_id.symm))
      ((CustodyAssignmentRow.detached_status hae).trans hactive)
      ((CustodyAssignmentRow.detached_status hbe).trans hbactive)
    exact hau.id.symm.trans (hid.trans hbu.id)
  placed a ha := by
    obtain ⟨a₀, ha₀, hae⟩ := hedit.symm.assignment ha
    obtain ⟨row₀, hrow₀, hid, htenant, hstatus⟩ := h.placed a₀ ha₀
    obtain ⟨row, hrow, hre⟩ := hedit.account hrow₀
    have hau := detached_use hae
    refine ⟨row, hrow, (detached_id hre).trans (hid.trans hau.custody_account_id),
      (detached_tenant hre).trans (htenant.trans hau.tenant_id), fun hactive => ?_⟩
    exact (CustodyAccountRow.detached_status hre).trans
      (hstatus ((CustodyAssignmentRow.detached_status hae).trans hactive))
  pooled row hrow hpool hassigned := by
    obtain ⟨row₀, hrow₀, hre⟩ := hedit.symm.account hrow
    rcases h.pooled row₀ hrow₀ ((detached_source hre).trans hpool)
      ((CustodyAccountRow.detached_status hre).trans hassigned) with ⟨a₀, ha₀, haccount, hactive⟩ | hnever
    · obtain ⟨a, ha, hae⟩ := hedit.assignment ha₀
      exact .inl ⟨a, ha, (detached_use hae).custody_account_id.trans
        (haccount.trans (detached_id hre)),
        (CustodyAssignmentRow.detached_status hae).trans hactive⟩
    · right
      intro a ha haccount
      obtain ⟨a₀, ha₀, hae⟩ := hedit.symm.assignment ha
      exact hnever a₀ ha₀ ((detached_use hae).custody_account_id.trans
        (haccount.trans (detached_id hre).symm))

end CoinListener.Storage
