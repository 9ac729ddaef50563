import CoinListener.Storage.CustodyEnsures

/-! What an assignment commits: its account is watched on all its chains, and all other watched
addresses are as before. -/
namespace CoinListener.Storage
open Foundation Transaction AddressTables

set_option linter.unusedSectionVars false

variable {W : Type} [DecidableEq W] {lower to_lowercase : String → String} {w : W}
  {C : CustodyTables → Prop} {t t₀ : CustodyTables} {n n₀ : Uuid} {tenant_id : Uuid} {α : Type}
  {account : CustodyAccountRow} {found : Option CustodyAccountRow}

/-! ### The account -/

/-- The watched addresses and the assignments are as before, and the account that was looked for, if
there is one, is the tenant's. -/
structure AccountFound (t₀ : CustodyTables) (n₀ tenant_id : Uuid)
    (found : Option CustodyAccountRow) (t : CustodyTables) (n : Uuid) : Prop where
  addresses : t.address_tables 0 = t₀.address_tables 0
  assignments : t.custody_account_assignments = t₀.custody_account_assignments
  ids : CustodyIds t n
  le : n₀ ≤ n
  row : ∀ row ∈ found, row ∈ t.custody_accounts ∧ row.tenant_id = tenant_id

section Effects
variable {statement : CustodyStatement} {now : Timestamp} {skipped : CustodyKey → Bool}
  {c : CustodyChange}

theorem effect_aside (haside : statement.addressed = false)
    (hc : c ∈ (t.effect now n lower skipped statement).log) : c.addressed = false := by
  cases statement with
  | insert_custody_account =>
    simp only [CustodyTables.effect, CustodyTables.insert_custody_account] at hc
    split at hc
    · exact absurd hc List.not_mem_nil
    · exact List.mem_singleton.mp hc ▸ rfl
  | insert_user_custody_account_for_assignment =>
    simp only [CustodyTables.effect, CustodyTables.insert_user_custody_account_for_assignment] at hc
    split at hc
    · exact absurd hc List.not_mem_nil
    · exact List.mem_singleton.mp hc ▸ rfl
  | insert_custody_account_chain_config =>
    simp only [CustodyTables.effect, CustodyTables.insert_custody_account_chain_config] at hc
    split at hc
    · exact List.mem_singleton.mp hc ▸ rfl
    · exact List.mem_singleton.mp hc ▸ rfl
  | insert_custody_account_chain_config_asset =>
    simp only [CustodyTables.effect, CustodyTables.insert_custody_account_chain_config_asset] at hc
    split at hc
    · exact absurd hc List.not_mem_nil
    · exact List.mem_singleton.mp hc ▸ rfl
  | insert_custody_assignment =>
    simp only [CustodyTables.effect, CustodyTables.insert_custody_assignment] at hc
    split at hc
    · exact absurd hc List.not_mem_nil
    · exact List.mem_singleton.mp hc ▸ rfl
  | mark_custody_account_assigned id watched_address_id tenant_id =>
    obtain ⟨row, _, rfl⟩ := List.mem_map.mp hc
    rfl
  | release_custody_assignment id tenant_id =>
    obtain ⟨row, _, rfl⟩ := List.mem_map.mp hc
    rfl
  | mark_released_pool_account_available id tenant_id =>
    obtain ⟨row, _, rfl⟩ := List.mem_map.mp hc
    rfl
  | ensure_watched_address_update => cases haside
  | insert_watched_address => cases haside
  | delete_watched_address_assets => cases haside
  | insert_watched_address_assets => cases haside
  | _ => exact absurd hc List.not_mem_nil

end Effects

namespace AccountFound

theorem aside {log : List CustodyChange} {k : Nat} (h : AccountFound t₀ n₀ tenant_id found t n)
    (hquiet : ∀ c ∈ log, c.custodial = false) (haside : ∀ c ∈ log, c.addressed = false) :
    AccountFound t₀ n₀ tenant_id found (CustodyChange.replay log t) (n + k) := by
  have hnone : log.filter (·.custodial) = [] :=
    List.filter_eq_nil_iff.mpr fun c hc => by simp [hquiet c hc]
  have hsame : SameCustody (CustodyChange.replay log t) t := by
    have hreplay := CustodyChange.replay_custodial log (t := t) ⟨rfl, rfl⟩
    rwa [hnone] at hreplay
  refine ⟨(CustodyChange.replay_address_tables haside).trans h.addresses,
    hsame.assignments.trans h.assignments, (h.ids.replay_aside haside).mono (Nat.le_add_right n k),
    Nat.le_trans h.le (Nat.le_add_right n k), fun row hrow => ?_⟩
  rw [hsame.accounts]
  exact h.row row hrow

end AccountFound

/-- Parts that touch neither accounts nor watched addresses. -/
theorem aside_works {p : CustodyCall α} (hp : p.Only AsideOp) :
    CustodyWorks lower w C (AccountFound t₀ n₀ tenant_id found) p fun _ =>
      AccountFound t₀ n₀ tenant_id found := by
  refine Works.of_only hp fun op hop => ?_
  obtain ⟨statement, rfl, hquiet, haside⟩ := hop
  refine ⟨statement, rfl, fun v n skipped now hv => ?_⟩
  exact hv.aside (fun _ hc => effect_quiet hquiet hc) fun _ hc => effect_aside haside hc

theorem AccountFound.lookup (h : AccountFound t₀ n₀ tenant_id none t n)
    (hfound : ∀ row, found = some row → row ∈ t.custody_accounts ∧ row.tenant_id = tenant_id) :
    AccountFound t₀ n₀ tenant_id found t n :=
  ⟨h.addresses, h.assignments, h.ids, h.le, fun row hrow => hfound row hrow⟩

theorem required_works {error : AppError} {f : CustodyAccountRow → CustodyCall α}
    {Q : α → CustodyTables → Nat → Prop}
    (h : ∀ row, CustodyWorks lower w C (AccountFound t₀ n₀ tenant_id (some row)) (f row) Q) :
    CustodyWorks lower w C (AccountFound t₀ n₀ tenant_id found)
      ((Prog.lift (required found error)).bind f) Q := by
  refine .check fun row hrow => ?_
  rw [required_ok.mp hrow]
  exact h row

theorem existing_works :
    CustodyWorks lower w C (AccountFound t₀ n₀ tenant_id (some account))
      ((CustodyCall.validate_assignable_custody_account tenant_id account).bind fun _ =>
        .done account) (fun row => AccountFound t₀ n₀ tenant_id (some row)) :=
  .bind (aside_works CustodyCall.validate_assignable_custody_account_only) fun _ => .done fun _ _ hv => hv

theorem insert_user_account_works {chain_id : Uuid} {address normalized : String} :
    CustodyWorks lower w C (AccountFound t₀ n₀ tenant_id none)
      (CustodyCall.ask (.insert_user_custody_account_for_assignment tenant_id chain_id address
        normalized)) (AccountFound t₀ n₀ tenant_id) := by
  refine ask_works fun v n skipped now hv inserted hanswer => ?_
  simp only [CustodyTables.effect, CustodyTables.insert_user_custody_account_for_assignment]
    at hanswer ⊢
  by_cases htaken : v.address_taken tenant_id normalized = true
  · rw [if_pos htaken] at hanswer ⊢
    obtain rfl := Except.ok.inj hanswer
    exact hv
  · rw [if_neg htaken] at hanswer ⊢
    obtain rfl := Except.ok.inj hanswer
    refine ⟨hv.addresses, hv.assignments, ?_, Nat.le_trans hv.le (Nat.le_succ n), fun row hrow => ?_⟩
    · refine (hv.ids.replay_aside fun c hc => ?_).mono (Nat.le_succ n)
      exact List.mem_singleton.mp hc ▸ rfl
    · obtain rfl := Option.some.inj hrow
      exact ⟨Table.put_self .., rfl⟩

theorem inserted_or_existing_works {normalized : String}
    {configs : List CustodyAccountChainConfigRequest} :
    CustodyWorks lower w C (AccountFound t₀ n₀ tenant_id found)
      (CustodyCall.inserted_or_existing tenant_id normalized configs found)
      (fun row => AccountFound t₀ n₀ tenant_id (some row)) := by
  cases found with
  | some row =>
    exact .bind (aside_works CustodyCall.validate_and_insert_custody_chain_configs_only) fun _ =>
      .done fun _ _ hv => hv
  | none =>
    refine .bind (Q := AccountFound t₀ n₀ tenant_id) ?_ fun found => ?_
    · refine ask_works fun v n skipped now hv found hanswer => hv.lookup fun row hrow => ?_
      subst hrow
      exact selected_mem hanswer
    refine required_works fun row => ?_
    refine .bind (aside_works CustodyCall.validate_assignable_custody_account_only) fun _ => ?_
    exact .check fun _ _ => .done fun _ _ hv => hv

theorem existing_or_created_works {address : String}
    {chain_configs : Option (List CustodyAccountChainConfigRequest)} :
    CustodyWorks lower w C (AccountFound t₀ n₀ tenant_id found)
      (CustodyCall.existing_or_created to_lowercase tenant_id address chain_configs found)
      (fun row => AccountFound t₀ n₀ tenant_id (some row)) := by
  cases found with
  | some row => exact existing_works
  | none =>
    refine .check fun configs _ => ?_
    refine .bind (aside_works CustodyCall.normalized_user_assignment_address_only) fun normalized => ?_
    exact .bind insert_user_account_works fun _ => inserted_or_existing_works

theorem claim_or_create_works {source : CustodySource} {address : Option String}
    {chain_configs : Option (List CustodyAccountChainConfigRequest)} :
    CustodyWorks lower w C (AccountFound t₀ n₀ tenant_id none)
      (CustodyCall.claim_or_create_account_for_assignment to_lowercase tenant_id source address
        chain_configs) (fun row => AccountFound t₀ n₀ tenant_id (some row)) := by
  unfold CustodyCall.claim_or_create_account_for_assignment
  split
  · refine .bind (Q := AccountFound t₀ n₀ tenant_id) ?_ fun found => ?_
    · refine ask_works fun v n skipped now hv found hanswer => hv.lookup fun row hrow => ?_
      subst hrow
      exact claimed_mem hanswer
    refine .lift fun row hrow v n hv => ?_
    rw [required_ok.mp hrow] at hv
    exact hv
  · refine .check fun address _ => ?_
    refine .bind (Q := AccountFound t₀ n₀ tenant_id) ?_ fun _ => existing_or_created_works
    refine ask_works fun v n skipped now hv found hanswer => hv.lookup fun row hrow => ?_
    subst hrow
    exact matched_mem hanswer

/-! ### Its chains -/

namespace CustodyTables

/-- The configs that are listed for an account. -/
structure Lists (t : CustodyTables) (account : CustodyAccountRow)
    (configs : List CustodyAccountConfig) : Prop where
  all : ∀ config ∈ t.custody_account_chain_configs, is_config_of account config = true →
    ∀ chain ∈ t.chains, chain.id = config.chain_id →
      ∃ listed ∈ configs, listed.chain_id = config.chain_id ∧
        ∀ asset ∈ t.config_assets config, asset.id ∈ listed.asset_ids
  only : ∀ listed ∈ configs, ∃ config ∈ t.custody_account_chain_configs,
    is_config_of account config = true ∧ listed.chain_id = config.chain_id

theorem lists_of_answer {rows : List CustodyAccountChainConfigRow}
    (hanswer : (t.list_custody_account_configs account.tenant_id [account.id]).answer = .ok rows) :
    t.Lists account (rows.map (·.toCustodyAccountConfig)) := by
  obtain rfl := Except.ok.inj hanswer
  constructor
  · intro config hconfig hof chain hchain hid
    obtain ⟨found, hfound⟩ := Option.isSome_iff_exists.mp
      (List.find?_isSome (p := fun chain : Chain => chain.id == config.chain_id).mpr
        ⟨chain, hchain, beq_iff_eq.mpr hid⟩)
    refine ⟨(t.chain_config_row config found).toCustodyAccountConfig, List.mem_map_of_mem ?_, rfl,
      fun asset hasset => ?_⟩
    · refine (List.mem_insertionSort _).mpr (List.mem_flatMap.mpr ⟨config, ?_, ?_⟩)
      · rw [is_config_of, Bool.and_eq_true, beq_iff_eq, beq_iff_eq] at hof
        simpa using ⟨hconfig, hof⟩
      · rw [hfound]
        exact List.mem_singleton.mpr rfl
    · exact List.mem_map_of_mem (mem_sort_assets.mpr hasset)
  · intro listed hlisted
    obtain ⟨row, hrow, rfl⟩ := List.mem_map.mp hlisted
    obtain ⟨config, hconfig, hchain⟩ := List.mem_flatMap.mp ((List.mem_insertionSort _).mp hrow)
    obtain ⟨hmem, hof⟩ := List.mem_filter.mp hconfig
    obtain ⟨chain, _, rfl⟩ := Option.map_eq_some_iff.mp (Option.mem_toList.mp hchain)
    exact ⟨config, hmem, by simpa [is_config_of] using hof, rfl⟩

/-- The address of the account, on one of its chains. -/
def AboutAccount (t : CustodyTables) (account : CustodyAccountRow) (row : WatchedAddress) : Prop :=
  ∃ config ∈ t.custody_account_chain_configs, is_config_of account config = true ∧
    t.Denotes account.tenant_id config.chain_id account.address row

end CustodyTables

theorem configs_works (htenant : account.tenant_id = tenant_id) :
    CustodyWorks lower w C (AccountFound t₀ n₀ tenant_id (some account))
      (CustodyCall.configs_for_account_in_transaction tenant_id account.id)
      (fun configs v n => AccountFound t₀ n₀ tenant_id (some account) v n ∧ v.Lists account configs) := by
  subst htenant
  refine .bind (Q := fun rows v n => AccountFound t₀ n₀ account.tenant_id (some account) v n ∧
    v.Lists account (rows.map (·.toCustodyAccountConfig))) ?_ fun rows =>
      .check fun _ _ => .done fun _ _ hv => hv
  exact ask_works fun v n skipped now hv rows hanswer => ⟨hv, CustodyTables.lists_of_answer hanswer⟩

/-! ### What is committed -/

/-- From the tables before an assignment to those after it: the account is watched on each of its
chains; a watched address from before keeps everything, except that it may be watched again if it is
the account's; and the addresses of others are left alone. -/
structure AccountWatched (old new : CustodyTables) (account : CustodyAccountRow) : Prop where
  watched : ∀ config ∈ new.custody_account_chain_configs,
    CustodyTables.is_config_of account config = true → ∀ chain ∈ new.chains,
      chain.id = config.chain_id → new.Watched account.tenant_id config.chain_id account.address
        ((new.config_assets config).map (·.id))
  ids : (new.watched_addresses.map (·.id)).Nodup
  kept : ∀ row ∈ old.watched_addresses,
    (row ∈ new.watched_addresses ∨ reactivated row ∈ new.watched_addresses) ∧
      ∀ asset_id, (row.id, asset_id) ∈ old.watched_address_assets →
        (row.id, asset_id) ∈ new.watched_address_assets
  others : ∀ row ∈ old.watched_addresses, ¬ new.AboutAccount account row →
    row ∈ new.watched_addresses ∧ ∀ asset_id, (row.id, asset_id) ∈ new.watched_address_assets →
      (row.id, asset_id) ∈ old.watched_address_assets
  added : ∀ row ∈ new.watched_addresses, (∀ before ∈ old.watched_addresses, before.id ≠ row.id) →
    new.AboutAccount account row

/-- The reference was unused, and now the account is assigned to it. -/
def NewlyAssigned (old new : CustodyTables) (business_ref : String) (account : CustodyAccountRow) :
    Prop :=
  (∀ a ∈ old.custody_account_assignments, a.tenant_id = account.tenant_id →
    a.business_ref ≠ business_ref) ∧
  ∃ a ∈ new.custody_account_assignments, a.tenant_id = account.tenant_id ∧
    a.business_ref = business_ref ∧ a.custody_account_id = account.id ∧ a.status = .active

def AssignmentCommitted (old : CustodyTables) (tenant_id : Uuid) (business_ref : String)
    (new : CustodyTables) : Prop :=
  ∃ account ∈ new.custody_accounts, account.tenant_id = tenant_id ∧
    NewlyAssigned old new business_ref account ∧ AccountWatched old new account

section Commit
variable {configs : List CustodyAccountConfig} {v : CustodyTables} {m k : Uuid}
  (hfound : AccountFound t₀ n₀ tenant_id (some account) t n) (hlists : t.Lists account configs)
  (hensuring : Ensuring (t.AboutAccount account) t n v m)
  (hwatched : ∀ config ∈ configs,
    v.Watched tenant_id config.chain_id account.address config.asset_ids)
include hfound hlists hensuring hwatched

theorem account_watched : AccountWatched t₀ v account := by
  have hrest := hensuring.frame.rest
  have hrows : t₀.watched_addresses = t.watched_addresses :=
    congrArg (·.watched_addresses) hfound.addresses.symm
  have hlinks : t₀.watched_address_assets = t.watched_address_assets :=
    congrArg (·.watched_address_assets) hfound.addresses.symm
  have habout : v.AboutAccount account = t.AboutAccount account := by
    change v.without_addresses.AboutAccount account = t.without_addresses.AboutAccount account
    rw [hrest]
  have hconfigs : v.custody_account_chain_configs = t.custody_account_chain_configs :=
    congrArg (·.custody_account_chain_configs) hrest
  have htenant : account.tenant_id = tenant_id := (hfound.row account rfl).2
  refine ⟨fun config hconfig hof chain hchain hid => ?_, hensuring.ids.addresses, ?_, ?_, ?_⟩
  · rw [hensuring.frame.chains] at hchain
    obtain ⟨listed, hlisted, hsame, hassets⟩ :=
      hlists.all config (hconfigs ▸ hconfig) hof chain hchain hid
    obtain ⟨row, hrow, hactive, hdenotes, hmore⟩ := hwatched listed hlisted
    rw [hsame, ← htenant] at hdenotes
    refine ⟨row, hrow, hactive, hdenotes, fun asset_id hasset => ?_⟩
    obtain ⟨asset, hmem, rfl⟩ := List.mem_map.mp hasset
    have hsame_assets : v.config_assets config = t.config_assets config := by
      change v.without_addresses.config_assets config = t.without_addresses.config_assets config
      rw [hrest]
    exact hmore asset.id (hassets asset (hsame_assets ▸ hmem))
  · rw [hrows, hlinks]
    intro row hrow
    refine ⟨(hensuring.frame.kept row hrow).imp_right And.right, fun asset_id hlink => ?_⟩
    exact hensuring.frame.links _ hlink (hfound.ids.below row hrow)
  · rw [hrows, hlinks, habout]
    intro row hrow hother
    have hsame : row ∈ v.watched_addresses :=
      (hensuring.frame.kept row hrow).resolve_right fun h => hother h.1
    refine ⟨hsame, fun asset_id hlink => ?_⟩
    rcases hensuring.frame.new_links _ hlink with hold | ⟨other, hmem, hother_about, hid⟩
    · exact hold
    · obtain rfl := hensuring.ids.address_eq hmem hsame hid
      exact absurd hother_about hother
  · rw [hrows, habout]
    intro row hrow hnew
    rcases hensuring.frame.rows row hrow with hold | ⟨hrow_about, _⟩
    · exact absurd rfl (hnew row hold)
    · exact hrow_about

/-- With the assignment and the mark. -/
theorem assignment_committed {business_ref : String} {a : CustodyAssignmentRow} {watched_id : Uuid}
    {now : Timestamp} (htenant : a.tenant_id = tenant_id) (href : a.business_ref = business_ref)
    (haccount : a.custody_account_id = account.id) (hactive : a.status = .active)
    (hunused : ∀ b ∈ v.custody_account_assignments, b.tenant_id = tenant_id →
      b.business_ref ≠ business_ref) :
    AssignmentCommitted t₀ tenant_id business_ref
      (CustodyChange.replay [.assignment a,
        .account (CustodyTables.assigned_account now watched_id account)] v) := by
  have hwatches := account_watched hfound hlists hensuring hwatched
  have hassignments : v.custody_account_assignments = t₀.custody_account_assignments :=
    (congrArg (·.custody_account_assignments) hensuring.frame.rest).trans hfound.assignments
  obtain ⟨_, hsame⟩ := hfound.row account rfl
  refine ⟨CustodyTables.assigned_account now watched_id account, Table.put_self .., hsame,
    ⟨fun b hb hbtenant => ?_, a, Table.put_self .., htenant.trans hsame.symm, href, haccount, hactive⟩,
    hwatches.watched, hwatches.ids, hwatches.kept, hwatches.others, hwatches.added⟩
  exact hunused b (hassignments.symm ▸ hb) (hbtenant.trans hsame)

end Commit

/-! ### The transaction -/

section Transaction
variable {source : CustodySource} {applicant_type : CustodyApplicantType} {business_ref : String}
  {address purpose : Option String} {chain_configs : Option (List CustodyAccountChainConfigRequest)}

/-- The assignment, where the statement makes one. -/
theorem insert_assignment_answer {now : Timestamp} {next_id watched_id id : Uuid}
    (hanswer : (t.insert_custody_assignment now next_id tenant_id account.id applicant_type
      business_ref purpose watched_id).answer = .ok (some id)) :
    (∀ b ∈ t.custody_account_assignments, b.tenant_id = tenant_id → b.business_ref ≠ business_ref) ∧
      (t.insert_custody_assignment now next_id tenant_id account.id applicant_type business_ref
        purpose watched_id).log = [.assignment (CustodyTables.new_custody_assignment now next_id
          tenant_id account.id applicant_type business_ref purpose watched_id)] := by
  unfold CustodyTables.insert_custody_assignment at hanswer ⊢
  by_cases hconflicts : t.assignment_conflicts tenant_id account.id business_ref = true
  · rw [if_pos hconflicts] at hanswer
    exact nomatch hanswer
  · rw [if_neg hconflicts]
    refine ⟨fun b hb htenant href => hconflicts (List.any_eq_true.mpr ⟨b, hb, ?_⟩), rfl⟩
    simp [htenant, href]

theorem insert_custody_assignment_works (hids : CustodyIds t₀ n₀) :
    CustodyWorks lower w C (fun v n => v = t₀ ∧ n = n₀)
      (CustodyCall.insert_custody_assignment to_lowercase tenant_id source applicant_type business_ref
        address purpose chain_configs)
      (fun _ v _ => AssignmentCommitted t₀ tenant_id business_ref v) := by
  refine .bind (Q := fun row => AccountFound t₀ n₀ tenant_id (some row))
    (claim_or_create_works.weaken fun v n hv => ?_) fun account => ?_
  · obtain ⟨rfl, rfl⟩ := hv
    exact ⟨rfl, rfl, hids, Nat.le_refl n, nofun⟩
  refine .each fun t n hfound => ?_
  obtain ⟨haccount, htenant⟩ := hfound.row account rfl
  refine .bind (Q := fun configs v n => AccountFound t₀ n₀ tenant_id (some account) v n ∧
    v.Lists account configs) ((configs_works htenant).weaken fun v n hv => ?_) fun configs => ?_
  · obtain ⟨rfl, rfl⟩ := hv
    exact hfound
  refine .each fun t n hlisted => ?_
  obtain ⟨hfound, hlists⟩ := hlisted
  obtain ⟨haccount, htenant⟩ := hfound.row account rfl
  refine .bind (Q := fun _ v m => Ensuring (t.AboutAccount account) t n v m ∧ ∀ config ∈ configs,
    v.Watched tenant_id config.chain_id account.address config.asset_ids)
      (ensure_watched_addresses_works (fun _ hrow => hrow) hfound.ids
        fun listed hmem row hdenotes => ?_) fun watched => ?_
  · obtain ⟨config, hconfig, hof, hsame⟩ := hlists.only listed hmem
    rw [hsame, ← htenant] at hdenotes
    exact ⟨config, hconfig, hof, hdenotes⟩
  refine .each fun v m hv => ?_
  obtain ⟨hensuring, hwatched⟩ := hv
  refine .check fun watched_id _ => ?_
  refine .bind (Q := fun answer v' _ => ∀ id, answer = some id → ∃ now next_id,
    (∀ b ∈ v.custody_account_assignments, b.tenant_id = tenant_id → b.business_ref ≠ business_ref) ∧
      v' = CustodyChange.apply (.assignment (CustodyTables.new_custody_assignment now next_id
        tenant_id account.id applicant_type business_ref purpose watched_id)) v) ?_ fun answer => ?_
  · refine ask_works fun v' m' skipped now hv answer hanswer id hid => ?_
    obtain ⟨rfl, rfl⟩ := hv
    subst hid
    obtain ⟨hunused, hlog⟩ := insert_assignment_answer hanswer
    refine ⟨now, m', hunused, ?_⟩
    simp only [CustodyTables.effect, hlog]
    rfl
  refine .check fun id hid => ?_
  refine .bind (Q := fun _ v _ => AssignmentCommitted t₀ tenant_id business_ref v) ?_ fun _ =>
    .done fun _ _ hv => hv
  refine ask_works fun v' m' skipped now hv _ _ => ?_
  obtain ⟨then_now, next_id, hunused, rfl⟩ := hv id (required_ok.mp hid)
  have hrow : account ∈ v.custody_accounts := by
    have haccounts : v.custody_accounts = t.custody_accounts :=
      congrArg (·.custody_accounts) hensuring.frame.rest
    rw [haccounts]
    exact haccount
  have hfind : v.find_account account.id tenant_id = some account := by
    obtain ⟨found, hfind⟩ := find_account_of_mem hrow
    obtain ⟨hmem, hid, _⟩ := find_account_mem hfind
    rw [← htenant, hfind, List.inj_on_of_nodup_map hensuring.ids.accounts hmem hrow hid]
  change AssignmentCommitted t₀ tenant_id business_ref (CustodyChange.replay
    ((v.find_account account.id tenant_id).toList.map fun row =>
      .account (CustodyTables.assigned_account now watched_id row)) _)
  rw [hfind]
  exact assignment_committed hfound hlists hensuring hwatched rfl rfl rfl rfl hunused

end Transaction

/-! ### The call -/

theorem quiet_commits_nothing {p : CustodyCall α} (hp : p.Only QuietOp) :
    p.Only fun op => op ≠ .commit := by
  refine hp.mono fun op hop => ?_
  obtain ⟨statement, rfl, _⟩ := hop
  exact nofun

/-- Whatever chains an account is configured for, and whatever the tables are: what an assignment
commits has the account watched on all of them, and nothing else changed. -/
theorem assignment_watches_account {s u : CustodyWorld W} {request : AssignCustodyAccountRequest}
    {rest : AppResult Unit → CustodyCall AssignCustodyAccountResponse}
    (hids : CustodyIds s.tables s.next_id)
    (hrun : Relation.ReflTransGen (Transaction.Undisturbed (custody_schema lower) AppError.Database w)
      (s.abandon w, CustodyCall.assign_custody_account to_lowercase tenant_id request)
      (u, .ask .commit rest)) :
    AssignmentCommitted s.tables tenant_id (Text.trim request.business_ref)
      (u.commit (custody_schema lower) w).tables := by
  refine Works.committed (C := AssignmentCommitted s.tables tenant_id
    (Text.trim request.business_ref)) (Q := fun _ _ _ => True) ?_ hrun
  refine .check fun source _ => .check fun applicant_type _ => .check fun _ _ => ?_
  refine .bind (Works.transaction (insert_custody_assignment_works hids) fun _ _ _ hv => hv)
    fun assigned => (Works.afterwards ?_).weaken fun _ _ _ => trivial
  refine .bind (quiet_commits_nothing CustodyCall.list_custody_accounts_only) fun accounts => ?_
  refine .bind .lift fun account => ?_
  refine .bind (quiet_commits_nothing CustodyCall.list_custody_assignments_only) fun assignments => ?_
  exact .bind .lift fun assignment => .done

/-- An account whose address is watched already, but not at the moment. -/
def paused_tables : CustodyTables :=
  { bitcoin_tables with
    watched_addresses := [{ id := 5, tenant_id := 7, chain_id := 1, address := "1",
                            label := none, priority := "high", scan_interval_seconds := 30,
                            transfer_filter_enabled := true, balance_change_filter_enabled := false,
                            status := "inactive" }]
    custody_accounts := [CustodyTables.new_custody_account 0 3 7 1 "1" "1" none .pool .available]
    custody_account_chain_configs := [{ id := 4, tenant_id := 7, custody_account_id := 3, chain_id := 1 }]
    custody_account_chain_config_assets := [(4, 2)] }

theorem assignment_watches_account_again : ∃ new, AssignmentCommitted paused_tables 7 "r" new := by
  obtain ⟨u, rest, hrun⟩ := Undisturbed.of_commits (S := custody_schema id)
    (s := (quiet_world paused_tables 10).abandon ())
    (p := CustodyCall.assign_custody_account id 7 (pool_assignment_request "r")) (n := 11)
    (by decide +kernel)
  have hcommitted := assignment_watches_account (s := quiet_world paused_tables 10)
    ⟨by decide, by decide, by decide⟩ hrun
  have htrim : Text.trim (pool_assignment_request "r").business_ref = "r" := by decide +kernel
  rw [htrim] at hcommitted
  exact ⟨_, hcommitted⟩

end CoinListener.Storage
