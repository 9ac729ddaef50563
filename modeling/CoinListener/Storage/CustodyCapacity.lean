import CoinListener.Storage.CustodyRuns

/-! The accounts of the pool, counted: available, disabled, assigned, or marked as assigned when they
were created. -/
namespace CoinListener.Storage
open Foundation Transaction

namespace CustodyTables
variable (tables : CustodyTables)

def pool_accounts : List CustodyAccountRow :=
  tables.custody_accounts.filter (·.source = .pool)

def available_pool_accounts : List CustodyAccountRow :=
  tables.pool_accounts.filter (·.status = .available)

def disabled_pool_accounts : List CustodyAccountRow :=
  tables.pool_accounts.filter (·.status = .disabled)

/-- The active assignments of accounts from the pool. -/
def pool_assignments : List CustodyAssignmentRow :=
  tables.custody_account_assignments.filter fun a =>
    a.status = .active ∧ ∃ row ∈ tables.pool_accounts, row.id = a.custody_account_id

def never_assigned (row : CustodyAccountRow) : Bool :=
  row.status = .assigned ∧ ∀ a ∈ tables.custody_account_assignments, a.custody_account_id ≠ row.id

/-- Marked as assigned, though nothing was ever assigned to them. -/
def stranded_pool_accounts : List CustodyAccountRow :=
  tables.pool_accounts.filter tables.never_assigned

def held (row : CustodyAccountRow) : Bool :=
  ∃ a ∈ tables.custody_account_assignments, a.custody_account_id = row.id ∧ a.status = .active

/-- With an assignment that can be released. -/
def held_pool_accounts : List CustodyAccountRow :=
  tables.pool_accounts.filter tables.held

end CustodyTables

namespace Custodial
variable {tables : CustodyTables}
  (h : Custodial tables.custody_accounts tables.custody_account_assignments)
include h

theorem pool_ids : (tables.pool_accounts.map (·.id)).Nodup :=
  h.account_ids.sublist (List.filter_sublist.map _)

/-- Accounts from the pool with an active assignment, and the active assignments. -/
theorem held_pool_length : tables.held_pool_accounts.length = tables.pool_assignments.length := by
  have hperm : (tables.held_pool_accounts.map (·.id)).Perm
      (tables.pool_assignments.map (·.custody_account_id)) := by
    refine (List.perm_ext_iff_of_nodup (h.pool_ids.sublist (List.filter_sublist.map _)) ?_).mpr
      fun id => ?_
    · refine List.Nodup.map_on (fun a ha b hb haccount => ?_)
        ((h.assignment_ids.of_map _).filter _)
      obtain ⟨ha, hakeep⟩ := List.mem_filter.mp ha
      obtain ⟨hb, hbkeep⟩ := List.mem_filter.mp hb
      have hid := h.one_active a ha b hb haccount (of_decide_eq_true hakeep).1
        (of_decide_eq_true hbkeep).1
      exact List.inj_on_of_nodup_map h.assignment_ids ha hb hid
    · constructor
      · intro hid
        obtain ⟨row, hrow, rfl⟩ := List.mem_map.mp hid
        obtain ⟨hpool, hheld⟩ := List.mem_filter.mp hrow
        obtain ⟨a, ha, haccount, hactive⟩ := of_decide_eq_true hheld
        exact List.mem_map.mpr ⟨a, List.mem_filter.mpr ⟨ha, decide_eq_true
          ⟨hactive, row, hpool, haccount.symm⟩⟩, haccount⟩
      · intro hid
        obtain ⟨a, ha, rfl⟩ := List.mem_map.mp hid
        obtain ⟨ha, hkeep⟩ := List.mem_filter.mp ha
        obtain ⟨hactive, row, hpool, hrow⟩ := of_decide_eq_true hkeep
        exact List.mem_map.mpr ⟨row, List.mem_filter.mpr ⟨hpool, decide_eq_true
          ⟨a, ha, hrow.symm, hactive⟩⟩, hrow⟩
  simpa using hperm.length_eq

theorem held_assigned {row : CustodyAccountRow} (hrow : row ∈ tables.custody_accounts)
    (hheld : tables.held row = true) : row.status = .assigned := by
  obtain ⟨a, ha, haccount, hactive⟩ := of_decide_eq_true hheld
  refine h.active_account hrow (List.ne_nil_of_mem (a := a) ?_)
  exact List.mem_filter.mpr ⟨ha, decide_eq_true ⟨haccount, hactive⟩⟩

theorem held_or_never {row : CustodyAccountRow} (hrow : row ∈ tables.pool_accounts)
    (hassigned : row.status = .assigned) :
    tables.held row = !tables.never_assigned row := by
  obtain ⟨hmem, hpool⟩ := List.mem_filter.mp hrow
  rcases h.pooled row hmem (of_decide_eq_true hpool) hassigned with ⟨a, ha, haccount, hactive⟩ | hnever
  · have hheld : tables.held row = true := decide_eq_true ⟨a, ha, haccount, hactive⟩
    have hsome : tables.never_assigned row = false :=
      decide_eq_false fun hnever => hnever.2 a ha haccount
    rw [hheld, hsome]
    rfl
  · have hnone : tables.held row = false :=
      decide_eq_false fun ⟨a, ha, haccount, _⟩ => hnever a ha haccount
    have hstranded : tables.never_assigned row = true := decide_eq_true ⟨hassigned, hnever⟩
    rw [hnone, hstranded]
    rfl

/-- Each account from the pool is in one of four states. -/
theorem pool_states {row : CustodyAccountRow} (hrow : row ∈ tables.pool_accounts) :
    (decide (row.status = .available)).toNat + (decide (row.status = .disabled)).toNat +
      (tables.held row).toNat + (tables.never_assigned row).toNat = 1 := by
  have hmem : row ∈ tables.custody_accounts := List.mem_of_mem_filter hrow
  have hheld : tables.held row = true → row.status = .assigned := h.held_assigned hmem
  have hnever : tables.never_assigned row = true → row.status = .assigned :=
    fun hnever => (of_decide_eq_true hnever).1
  cases hstatus : row.status with
  | available =>
    have hnotheld : tables.held row = false :=
      Bool.eq_false_iff.mpr fun hrow => nomatch hstatus.symm.trans (hheld hrow)
    have hnotnever : tables.never_assigned row = false :=
      Bool.eq_false_iff.mpr fun hrow => nomatch hstatus.symm.trans (hnever hrow)
    rw [hnotheld, hnotnever]
    rfl
  | disabled =>
    have hnotheld : tables.held row = false :=
      Bool.eq_false_iff.mpr fun hrow => nomatch hstatus.symm.trans (hheld hrow)
    have hnotnever : tables.never_assigned row = false :=
      Bool.eq_false_iff.mpr fun hrow => nomatch hstatus.symm.trans (hnever hrow)
    rw [hnotheld, hnotnever]
    rfl
  | assigned =>
    rw [h.held_or_never hrow hstatus]
    cases tables.never_assigned row <;> rfl

end Custodial

/-- A list split into four parts. -/
theorem length_of_parts {α : Type} {p q r v : α → Bool} {rows : List α}
    (h : ∀ a ∈ rows, (p a).toNat + (q a).toNat + (r a).toNat + (v a).toNat = 1) :
    rows.length = (rows.filter p).length + (rows.filter q).length + (rows.filter r).length +
      (rows.filter v).length := by
  induction rows with
  | nil => rfl
  | cons a rows ih =>
    have hrest := ih fun b hb => h b (List.mem_cons_of_mem _ hb)
    have hfirst := h a (List.mem_cons_self ..)
    have hlength : ∀ f : α → Bool,
        ((a :: rows).filter f).length = (f a).toNat + (rows.filter f).length := by
      intro f
      cases hf : f a <;> simp [hf, Nat.add_comm]
    rw [hlength, hlength, hlength, hlength, List.length_cons, hrest]
    omega

theorem Custodial.pool_length {tables : CustodyTables}
    (h : Custodial tables.custody_accounts tables.custody_account_assignments) :
    tables.pool_accounts.length = tables.available_pool_accounts.length +
      tables.disabled_pool_accounts.length + tables.pool_assignments.length +
      tables.stranded_pool_accounts.length := by
  rw [← h.held_pool_length]
  exact length_of_parts fun row hrow => h.pool_states hrow

/-! ### Releases -/

/-- The only assignment that a release can find. -/
theorem Custodial.release_found {tables : CustodyTables} {a : CustodyAssignmentRow}
    (h : Custodial tables.custody_accounts tables.custody_account_assignments)
    (ha : a ∈ tables.custody_account_assignments) (hactive : a.status = .active) :
    (tables.custody_account_assignments.find? fun row => row.id == a.id &&
      row.tenant_id == a.tenant_id && row.status = .active) = some a := by
  have hsome : (tables.custody_account_assignments.find? fun row => row.id == a.id &&
      row.tenant_id == a.tenant_id && row.status = .active).isSome = true :=
    List.find?_isSome.mpr ⟨a, ha, by simp [hactive]⟩
  obtain ⟨b, hb⟩ := Option.isSome_iff_exists.mp hsome
  have hmatches := List.find?_some hb
  simp only [Bool.and_eq_true, beq_iff_eq] at hmatches
  have heq : b = a := List.inj_on_of_nodup_map h.assignment_ids (List.mem_of_find?_eq_some hb) ha
    hmatches.1.1
  exact heq ▸ hb

theorem Custodial.account_found {tables : CustodyTables} {row : CustodyAccountRow}
    (h : Custodial tables.custody_accounts tables.custody_account_assignments)
    (hrow : row ∈ tables.custody_accounts) :
    tables.find_account row.id row.tenant_id = some row := by
  obtain ⟨found, hfound⟩ := find_account_of_mem hrow
  obtain ⟨hmem, hid, _⟩ := find_account_mem hfound
  have heq : found = row := List.inj_on_of_nodup_map h.account_ids hmem hrow hid
  exact heq ▸ hfound

/-- A client that releases while nobody else is at work. -/
def released_world (lower : String → String) (tables : CustodyTables) (next_id tenant_id id : Uuid) :
    AppResult Unit × CustodyWorld Unit :=
  Prog.eval (World.alone (custody_schema lower) ())
    (CustodyCall.release_custody_assignment tenant_id id) (quiet_world tables next_id)

theorem released_world_tables {lower : String → String} {tables : CustodyTables}
    {next_id : Uuid} {a : CustodyAssignmentRow} {row : CustodyAccountRow}
    (ha : (tables.custody_account_assignments.find? fun row => row.id == a.id &&
      row.tenant_id == a.tenant_id && row.status = .active) = some a)
    (hrow : tables.find_account a.custody_account_id a.tenant_id = some row) :
    (released_world lower tables next_id a.tenant_id a.id).1 = .ok () ∧
      (released_world lower tables next_id a.tenant_id a.id).2.tables =
        CustodyChange.replay [.assignment (CustodyTables.released_assignment 0 a),
          .account (CustodyTables.released_account 0 row)] tables := by
  have haccount : ∀ rows, ({ tables with custody_account_assignments := rows } :
      CustodyTables).find_account a.custody_account_id a.tenant_id = some row := fun _ => hrow
  -- The call is followed statement by statement.
  simp [released_world, CustodyCall.release_custody_assignment, transaction, Prog.perform,
    CustodyCall.release_assignment, CustodyCall.ask, Prog.attempt, Prog.bind, Prog.lift, World.alone,
    World.effect, World.view, World.start, quiet_world, custody_schema, CustodyTables.effect,
    CustodyTables.release_custody_assignment, ha, World.perform, World.commit, World.abandon,
    required, CustodyTables.mark_released_pool_account_available, CustodyChange.apply, haccount,
    CustodyChange.replay]

/-- Once its assignment is released an account from the pool can be claimed. -/
theorem Custodial.release_claimable {lower : String → String} {tables : CustodyTables}
    {next_id : Uuid} {a : CustodyAssignmentRow} {row : CustodyAccountRow}
    (h : Custodial tables.custody_accounts tables.custody_account_assignments)
    (hrow : row ∈ tables.pool_accounts) (ha : a ∈ tables.custody_account_assignments)
    (haccount : a.custody_account_id = row.id) (hactive : a.status = .active) :
    a.tenant_id = row.tenant_id ∧
      (released_world lower tables next_id a.tenant_id a.id).1 = .ok () ∧
      ∃ row' ∈ (released_world lower tables next_id a.tenant_id a.id).2.tables.custody_accounts,
        row'.id = row.id ∧ CustodyTables.claimable row.tenant_id row' = true := by
  obtain ⟨hmem, hpool⟩ := List.mem_filter.mp hrow
  obtain ⟨other, hother, hid, htenant, _⟩ := h.placed a ha
  have heq : other = row :=
    List.inj_on_of_nodup_map h.account_ids hother hmem (hid.trans haccount)
  subst heq
  have hfound := h.account_found hother
  rw [hid, htenant] at hfound
  have hreleased : (released_world lower tables next_id a.tenant_id a.id).1 = .ok () ∧ _ :=
    released_world_tables (h.release_found ha hactive) hfound
  obtain ⟨hok, htables⟩ := hreleased
  refine ⟨htenant.symm, hok, CustodyTables.released_account 0 other, ?_, rfl, ?_⟩
  · rw [htables]
    exact Table.put_self ..
  · simp [CustodyTables.claimable, CustodyTables.released_account, of_decide_eq_true hpool]

/-! ### The pool in every run -/

/-- In every state of a run the accounts of the pool are the available ones, the disabled ones, those
with an active assignment and those that were marked as assigned when they were created. Of the rest
each is available, or one release makes it so. -/
theorem pool_capacity {W : Type} [DecidableEq W] {lower to_lowercase : String → String}
    {s t : CustodyWorld W} {ps qs : W → CustodyCall Unit} (hstart : CustodyStart s ps)
    (hrun : Relation.ReflTransGen (CustodyStep lower to_lowercase) (s, ps) (t, qs)) :
    t.tables.pool_accounts.length = t.tables.available_pool_accounts.length +
        t.tables.disabled_pool_accounts.length + t.tables.pool_assignments.length +
        t.tables.stranded_pool_accounts.length ∧
      ∀ row ∈ t.tables.pool_accounts, row.status ≠ .disabled →
        row ∉ t.tables.stranded_pool_accounts →
          CustodyTables.claimable row.tenant_id row = true ∨
          ∃ a, t.tables.active_assignments row.id = [a] ∧ a.tenant_id = row.tenant_id ∧
            (released_world lower t.tables t.next_id a.tenant_id a.id).1 = .ok () ∧
            ∃ row' ∈ (released_world lower t.tables t.next_id a.tenant_id
                a.id).2.tables.custody_accounts,
              row'.id = row.id ∧ CustodyTables.claimable row.tenant_id row' = true := by
  have horder := hstart.good.order hrun
  refine ⟨horder.pool_length, fun row hrow henabled hplaced => ?_⟩
  obtain ⟨hmem, hpool⟩ := List.mem_filter.mp hrow
  cases hstatus : row.status with
  | available =>
    left
    simp [CustodyTables.claimable, hstatus, of_decide_eq_true hpool]
  | disabled => exact absurd hstatus henabled
  | assigned =>
    right
    have hnever : t.tables.never_assigned row = false :=
      Bool.eq_false_iff.mpr fun hnever => hplaced (List.mem_filter.mpr ⟨hrow, hnever⟩)
    have hheld : t.tables.held row = true := by
      rw [horder.held_or_never hrow hstatus, hnever]
      rfl
    obtain ⟨a, ha, haccount, hactive⟩ := of_decide_eq_true hheld
    have hlisted : a ∈ t.tables.active_assignments row.id :=
      List.mem_filter.mpr ⟨ha, decide_eq_true ⟨haccount, hactive⟩⟩
    obtain ⟨b, hb⟩ := List.length_eq_one_iff.mp
      (Nat.le_antisymm (horder.active_le_one row.id) (List.length_pos_of_mem hlisted))
    have heq : a = b := List.mem_singleton.mp (hb ▸ hlisted)
    subst heq
    obtain ⟨htenant, hok, hrest⟩ := horder.release_claimable hrow ha haccount hactive
    exact ⟨a, hb, htenant, hok, hrest⟩

theorem pool_capacity_one_held :
    ∃ t : CustodyWorld Unit, t.tables.pool_assignments.length = 1 ∧
      t.tables.pool_accounts.length = t.tables.available_pool_accounts.length +
        t.tables.disabled_pool_accounts.length + t.tables.pool_assignments.length +
        t.tables.stranded_pool_accounts.length := by
  have hcalls : ∀ p ∈ [create_pool_account "1" none, create_pool_account "3" none,
      assign_pool_account "r"], CustodyRequest id p := by
    intro p hp
    simp only [List.mem_cons, List.not_mem_nil, or_false] at hp
    rcases hp with rfl | rfl | rfl
    · exact .create 7 _
    · exact .create 7 _
    · exact .assign 7 _
  obtain ⟨qs, hrun⟩ := alone_calls_run hcalls (quiet_world bitcoin_tables 10) no_client
    (by decide +kernel)
  exact ⟨_, by decide +kernel, (pool_capacity bitcoin_start hrun).1⟩

/-- An account that is created as assigned is neither available nor disabled, and there is nothing to
release. -/
theorem pool_capacity_lost :
    ∃ (t : CustodyWorld Unit) (qs : Unit → CustodyCall Unit),
      Relation.ReflTransGen (CustodyStep id id) (quiet_world bitcoin_tables 10, no_client) (t, qs) ∧
      t.tables.pool_accounts.length ≠ t.tables.available_pool_accounts.length +
        t.tables.disabled_pool_accounts.length + t.tables.pool_assignments.length ∧
      t.tables.available_pool_accounts = [] ∧ t.tables.custody_account_assignments = [] := by
  have hcalls : ∀ p ∈ [create_pool_account "1" (some "assigned")], CustodyRequest id p := by
    intro p hp
    rw [List.mem_singleton.mp hp]
    exact .create 7 _
  obtain ⟨qs, hrun⟩ := alone_calls_run hcalls (quiet_world bitcoin_tables 10) no_client
    (by decide +kernel)
  exact ⟨_, qs, hrun, by decide +kernel, by decide +kernel, by decide +kernel⟩

end CoinListener.Storage
