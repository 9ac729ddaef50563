import CoinListener.Storage.CustodyEnsures
import CoinListener.Storage.CustodyAddresses

/-! Which account of the pool an assignment takes, and when it succeeds. -/
namespace CoinListener.Storage
open Foundation Transaction AddressTables

set_option linter.unusedSectionVars false

namespace CustodyTables
variable (t : CustodyTables)

/-- The oldest account that is available and that nobody else has locked. -/
def next_in_pool (skipped : CustodyKey → Bool) (tenant_id : Uuid) : Option CustodyAccountRow :=
  ((t.custody_accounts.filter (claimable tenant_id)).insertionSort (·.created_at ≤ ·.created_at)).find?
    fun row => !skipped (.account row.id)

/-- The chain configs of an account, as an assignment lists them. -/
def listed_configs (row : CustodyAccountRow) : List CustodyAccountConfig :=
  match (t.list_custody_account_configs row.tenant_id [row.id]).answer with
  | .ok rows => rows.map (·.toCustodyAccountConfig)
  | .error _ => []

/-- The assets of the config are active, and the address is one of its chain. -/
def check_config (address : String) (config : CustodyAccountConfig) : AppResult Unit := do
  let _ ← (t.address_tables 0).validate_assets_for_chain config.chain_id config.asset_ids
  let chain ← (t.address_tables 0).get_chain config.chain_id
  validate_address_for_chain chain address

/-- The account could be assigned: it has chain configs, one of them for the chain it was created
with, and each is still valid. -/
def Assignable (row : CustodyAccountRow) : Prop :=
  t.listed_configs row ≠ [] ∧
    (∀ config ∈ t.listed_configs row, t.check_config row.address config = .ok ()) ∧
    ∃ config ∈ t.listed_configs row, config.chain_id = row.chain_id

instance (row : CustodyAccountRow) : Decidable (t.Assignable row) :=
  inferInstanceAs (Decidable (_ ∧ _ ∧ _))

end CustodyTables

variable {W : Type} [DecidableEq W] {lower to_lowercase : String → String} {s t u : CustodyWorld W}
  {w : W} {tenant_id : Uuid} {α β : Type} {account : CustodyAccountRow} {R v : CustodyTables}
  {address business_ref : String}

/-! ### Runs of one call -/

/-- A call, or a part of one, that nobody interrupts. -/
abbrev alone_eval (lower : String → String) (w : W) (p : CustodyCall α) (s : CustodyWorld W) :
    AppResult α × CustodyWorld W :=
  Prog.eval (World.alone (custody_schema lower) w) p s

abbrev seen (lower : String → String) (w : W) (s : CustodyWorld W) : CustodyTables :=
  s.view (custody_schema lower) w

theorem CustodyChange.apply_catalog (c : CustodyChange) (v : CustodyTables) :
    (c.apply v).chains = v.chains ∧ (c.apply v).assets = v.assets := by
  cases c <;> exact ⟨rfl, rfl⟩

/-- The chains, the assets, the accounts and the assignments of `R`. -/
structure SamePool (R v : CustodyTables) : Prop where
  chains : v.chains = R.chains
  assets : v.assets = R.assets
  custody : SameCustody v R

theorem SamePool.replay {log : List CustodyChange} (h : SamePool R v)
    (hlog : ∀ c ∈ log, c.custodial = false) : SamePool R (CustodyChange.replay log v) := by
  induction log generalizing v with
  | nil => exact h
  | cons c log ih =>
    obtain ⟨hchains, hassets⟩ := c.apply_catalog v
    have hsame : SameCustody (c.apply v) v := CustodyChange.apply_quiet (hlog c (List.mem_cons_self ..))
    exact ih ⟨hchains.trans h.chains, hassets.trans h.assets,
      hsame.accounts.trans h.custody.accounts, hsame.assignments.trans h.custody.assignments⟩
        fun d hd => hlog d (List.mem_cons_of_mem _ hd)

/-- Parts that change neither accounts nor assignments. -/
theorem quiet_pool {p : CustodyCall α} (hp : p.Only QuietOp) (hs : SamePool R (seen lower w s)) :
    SamePool R (seen lower w (alone_eval lower w p s).2) := by
  refine Prog.eval_only (I := fun s => SamePool R (seen lower w s)) (fun s op hop h => ?_) hp hs
  obtain ⟨statement, rfl, hquiet⟩ := hop
  change SamePool R (World.view (custody_schema lower) (s.perform w _) w)
  rw [World.view_perform]
  exact h.replay fun c hc => effect_quiet hquiet hc

theorem SamePool.of_quiet {p : CustodyCall α} {r : AppResult α} (hs : SamePool R (seen lower w s))
    (hp : p.Only QuietOp) (h : alone_eval lower w p s = (r, t)) : SamePool R (seen lower w t) := by
  have hnext := quiet_pool hp hs
  rwa [h] at hnext

theorem SamePool.check_config (h : SamePool R v) {config : CustodyAccountConfig} :
    v.check_config address config = R.check_config address config := by
  unfold CustodyTables.check_config AddressTables.validate_assets_for_chain AddressTables.get_chain
    CustodyTables.address_tables
  rw [h.chains, h.assets]

/-! ### One chain -/

theorem check_config_ok {config : CustodyAccountConfig} :
    v.check_config address config = .ok () ↔
      ∃ deduped chain, (v.address_tables 0).validate_assets_for_chain config.chain_id config.asset_ids =
        .ok deduped ∧ (v.address_tables 0).get_chain config.chain_id = .ok chain ∧
          validate_address_for_chain chain address = .ok () := by
  constructor
  · intro h
    obtain ⟨deduped, hassets, h⟩ := bind_ok h
    obtain ⟨chain, hchain, h⟩ := bind_ok h
    exact ⟨deduped, chain, hassets, hchain, h⟩
  · rintro ⟨deduped, chain, hassets, hchain, hvalid⟩
    unfold CustodyTables.check_config
    rw [hassets, hchain]
    simp only [bind, Except.bind]
    exact hvalid

theorem eval_ask {statement : CustodyStatement} :
    alone_eval lower w (CustodyCall.ask statement) s =
      ((s.effect (custody_schema lower) w statement).answer,
        s.perform w (s.effect (custody_schema lower) w statement)) :=
  Prog.eval_perform ..

/-- A statement that only reads. -/
theorem asked (lower : String → String) (w : W) (s : CustodyWorld W) (statement : CustodyStatement)
    {a : statement.Answer}
    (hanswer : (s.effect (custody_schema lower) w statement).answer = .ok a)
    (hlog : (s.effect (custody_schema lower) w statement).log = []) :
    ∃ t, seen lower w t = seen lower w s ∧
      alone_eval lower w (CustodyCall.ask statement) s = (.ok a, t) := by
  refine ⟨_, ?_, eval_ask.trans (Prod.ext hanswer rfl)⟩
  refine (World.view_perform ..).trans ?_
  rw [hlog]
  rfl

theorem asked_ok {statement : CustodyStatement} {a : statement.Answer}
    (h : alone_eval lower w (CustodyCall.ask statement) s = (.ok a, t))
    (hlog : (s.effect (custody_schema lower) w statement).log = []) :
    (s.effect (custody_schema lower) w statement).answer = .ok a ∧
      seen lower w t = seen lower w s := by
  obtain ⟨hanswer, rfl⟩ := Prod.mk.inj (eval_ask.symm.trans h)
  refine ⟨hanswer, (World.view_perform ..).trans ?_⟩
  rw [hlog]
  rfl

/-- A row that is found is made active if need be. -/
theorem activate_succeeds {row : WatchedAddress} (hrow : row ∈ (seen lower w s).watched_addresses)
    (htenant : row.tenant_id = tenant_id) :
    ∃ id t, alone_eval lower w (CustodyCall.activate_watched_address tenant_id row) s = (.ok id, t) := by
  unfold CustodyCall.activate_watched_address
  split
  · exact ⟨row.id, s, rfl⟩
  obtain ⟨found, hfound⟩ := Option.isSome_iff_exists.mp (List.find?_isSome.mpr
    ⟨row, hrow, is_row_iff.mpr ⟨rfl, htenant⟩⟩)
  have hanswer : (s.effect (custody_schema lower) w
      (.ensure_watched_address_update row.id tenant_id)).answer =
        .ok (some { found with status := "active" }) :=
    congrArg (fun row => Except.ok (Option.map _ row)) hfound
  refine ⟨found.id, s.perform w (s.effect (custody_schema lower) w
    (.ensure_watched_address_update row.id tenant_id)), ?_⟩
  refine (Prog.eval_bind_ok _ (eval_ask.trans (Prod.ext hanswer rfl))).trans ?_
  rfl

/-- A row is inserted where the lookup finds none; a trimmed address is not in its way. -/
theorem create_succeeds {chain_id : Uuid} {chain : Chain} {asset_ids : List Uuid}
    (htrimmed : Text.trim address = address)
    (hchain : ((seen lower w s).address_tables 0).get_chain chain_id = .ok chain)
    (hvalid : validate_address_for_chain chain address = .ok ())
    (hnone : ((seen lower w s).address_tables 0).ensure_watched_address_select tenant_id chain_id
      (normalize_custody_address_for_chain chain.chain_type address) chain.chain_type = none) :
    ∃ id t, alone_eval lower w (CustodyCall.find_or_create_watched_address tenant_id chain_id address
      business_ref asset_ids none) s = (.ok id, t) := by
  have hfree : ((seen lower w s).address_tables s.next_id).watched_addresses.any
      (conflicts tenant_id chain_id address) = false := by
    refine List.any_eq_false.mpr fun row hrow hconflict => ?_
    simp only [conflicts, Bool.and_eq_true, beq_iff_eq] at hconflict
    obtain ⟨⟨htenant, hrow_chain⟩, haddress⟩ := hconflict
    rw [← htrimmed] at hvalid hnone
    refine select_none hchain hvalid hnone hrow ?_ ⟨htenant, hrow_chain, by rw [haddress]⟩
    rw [haddress, htrimmed]
  have hinsert : ((seen lower w s).address_tables s.next_id).insert_watched_address
      (custody_watched_address_request tenant_id chain_id address business_ref asset_ids) = _ :=
    if_neg (ne_true_of_eq_false hfree)
  have hanswer : ((seen lower w s).insert_watched_address s.next_id
      (custody_watched_address_request tenant_id chain_id address business_ref asset_ids)).answer =
        .ok (((seen lower w s).address_tables s.next_id).new_watched_address
          (custody_watched_address_request tenant_id chain_id address business_ref asset_ids)) := by
    unfold CustodyTables.insert_watched_address
    rw [hinsert]
  refine ⟨_, _, Prog.eval_bind_ok _ (Prog.eval_bind_ok _ (eval_ask.trans (Prod.ext hanswer rfl)))⟩

/-- The row of a config is found or created. -/
theorem find_or_create_succeeds {chain_id : Uuid} {chain : Chain} {asset_ids : List Uuid}
    (htrimmed : Text.trim address = address)
    (hchain : ((seen lower w s).address_tables 0).get_chain chain_id = .ok chain)
    (hvalid : validate_address_for_chain chain address = .ok ()) :
    ∃ id t, alone_eval lower w ((CustodyCall.ask (.ensure_watched_address_select tenant_id chain_id
      (normalize_custody_address_for_chain chain.chain_type address) chain.chain_type)).bind
        (CustodyCall.find_or_create_watched_address tenant_id chain_id address business_ref
          asset_ids)) s = (.ok id, t) := by
  generalize hselect : ((seen lower w s).address_tables 0).ensure_watched_address_select tenant_id
    chain_id (normalize_custody_address_for_chain chain.chain_type address) chain.chain_type = existing
  have hanswer : (s.effect (custody_schema lower) w (.ensure_watched_address_select tenant_id chain_id
      (normalize_custody_address_for_chain chain.chain_type address) chain.chain_type)).answer =
        .ok existing := congrArg Except.ok hselect
  generalize hnext : s.perform w (s.effect (custody_schema lower) w (.ensure_watched_address_select
    tenant_id chain_id (normalize_custody_address_for_chain chain.chain_type address)
    chain.chain_type)) = t
  have hview : seen lower w t = seen lower w s := by
    rw [← hnext]
    exact World.view_perform ..
  have hselected : alone_eval lower w (CustodyCall.ask (.ensure_watched_address_select tenant_id
      chain_id (normalize_custody_address_for_chain chain.chain_type address) chain.chain_type)) s =
        (.ok existing, t) := eval_ask.trans (Prod.ext hanswer hnext)
  have hasked := Prog.eval_bind_ok _ hselected
    (f := CustodyCall.find_or_create_watched_address tenant_id chain_id address business_ref asset_ids)
  cases existing with
  | some row =>
    obtain ⟨hrow, hdenotes⟩ := selected_denotes hchain hvalid hselect
    obtain ⟨id, u, hactivated⟩ := activate_succeeds (hview.symm ▸ hrow) hdenotes.1
    exact ⟨id, u, hasked.trans hactivated⟩
  | none =>
    obtain ⟨id, u, hcreated⟩ := create_succeeds htrimmed (hview.symm ▸ hchain) hvalid
      (hview.symm ▸ hselect)
    exact ⟨id, u, hasked.trans hcreated⟩

theorem normalized_succeeds (address : String) {chain_id : Uuid} {chain : Chain}
    (hchain : ((seen lower w s).address_tables 0).get_chain chain_id = .ok chain) :
    ∃ t, seen lower w t = seen lower w s ∧
      alone_eval lower w (CustodyCall.custody_address_normalized_for_chain_id chain_id address) s =
        (.ok (normalize_custody_address_for_chain chain.chain_type address, chain.chain_type), t) := by
  refine ⟨s.perform w (s.effect (custody_schema lower) w (.select_chain_type chain_id)),
    World.view_perform .., ?_⟩
  have hanswer : (s.effect (custody_schema lower) w (.select_chain_type chain_id)).answer =
      .ok (some chain.chain_type) :=
    congrArg (fun found => Except.ok (Option.map _ found)) (required_ok.mp hchain)
  exact (Prog.eval_bind_ok _ (eval_ask.trans (Prod.ext hanswer rfl))).trans rfl

theorem ensure_chain_config_succeeds {config : CustodyAccountConfig}
    (htrimmed : Text.trim address = address)
    (hcheck : (seen lower w s).check_config address config = .ok ()) :
    ∃ id t, alone_eval lower w (CustodyCall.ensure_watched_address_for_chain_config tenant_id
      config.chain_id address business_ref config.asset_ids) s = (.ok id, t) := by
  obtain ⟨deduped, chain, hassets, hchain, hvalid⟩ := check_config_ok.mp hcheck
  obtain ⟨_, hsome, _⟩ := bind_ok hassets
  obtain ⟨t, hsame, hnormalized⟩ := normalized_succeeds address hchain
  obtain ⟨id, u, hfound⟩ := find_or_create_succeeds htrimmed (hsame.symm ▸ hchain) hvalid
  obtain ⟨existing, v, hasked, hfound⟩ := (Prog.eval_bind_ok_iff _).mp hfound
  obtain ⟨_, x, hlinked⟩ := Prog.eval_forEach_ok (World.alone (custody_schema lower) w)
    (f := fun asset_id => (CustodyCall.ask (.insert_watched_address_assets id [asset_id])).bind
      fun _ => .done ([] : List Unit))
    (fun asset_id s => ⟨_, _, Prog.eval_bind_ok _ eval_ask⟩) config.asset_ids u
  refine ⟨id, x, ?_⟩
  have hchecked : alone_eval lower w (Prog.lift (ensure (!config.asset_ids.isEmpty)
      (.Validation "custody chain config requires at least one asset"))) s = (.ok (), s) := by
    rw [ensure_ok.mpr (ensure_ok.mp hsome)]
    rfl
  refine (Prog.eval_bind_ok _ hchecked).trans ((Prog.eval_bind_ok _ hnormalized).trans ?_)
  refine (Prog.eval_bind_ok _ hasked).trans ((Prog.eval_bind_ok _ hfound).trans ?_)
  exact (Prog.eval_bind_ok _ hlinked).trans rfl

/-! ### All chains -/

section Chains
variable {configs : List CustodyAccountConfig} {config : CustodyAccountConfig}
  {watched : List CustodyAssignmentWatchedAddress}

theorem ensure_config_ok
    (h : alone_eval lower w (CustodyCall.ensure_watched_address_for_custody_account tenant_id address
      business_ref config) s = (.ok watched, t)) :
    (seen lower w s).check_config address config = .ok () ∧
      watched.map (·.chain_id) = [config.chain_id] := by
  obtain ⟨deduped, s₁, hassets, h⟩ := (Prog.eval_bind_ok_iff _).mp h
  obtain ⟨chain, s₂, hchain, h⟩ := (Prog.eval_bind_ok_iff _).mp h
  obtain ⟨_, s₃, hvalid, h⟩ := (Prog.eval_bind_ok_iff _).mp h
  obtain ⟨id, s₄, _, h⟩ := (Prog.eval_bind_ok_iff _).mp h
  rw [Prog.eval_lift] at hvalid
  obtain ⟨hassets_answer, hsame⟩ := asked_ok hassets rfl
  obtain ⟨hchain_answer, _⟩ := asked_ok hchain rfl
  constructor
  · refine check_config_ok.mpr ⟨deduped, chain, hassets_answer, ?_, (Prod.mk.inj hvalid).1⟩
    rw [← hsame]
    exact hchain_answer
  · rw [Prog.pure_eq, Prog.eval_done] at h
    obtain rfl := Except.ok.inj (congrArg Prod.fst h)
    rfl

theorem ensure_config_succeeds (htrimmed : Text.trim address = address)
    (hcheck : (seen lower w s).check_config address config = .ok ()) :
    ∃ watched t, alone_eval lower w (CustodyCall.ensure_watched_address_for_custody_account tenant_id
      address business_ref config) s = (.ok watched, t) := by
  obtain ⟨deduped, chain, hassets, hchain, hvalid⟩ := check_config_ok.mp hcheck
  obtain ⟨s₁, hsame₁, hassets_asked⟩ := asked lower w s
    (.validate_assets_for_chain config.chain_id config.asset_ids) hassets rfl
  rw [← hsame₁] at hchain
  obtain ⟨s₂, hsame₂, hchain_asked⟩ := asked lower w s₁
    (.get_chain config.chain_id) hchain rfl
  obtain ⟨id, t, hensured⟩ := ensure_chain_config_succeeds htrimmed
    (hsame₂.symm ▸ hsame₁.symm ▸ hcheck)
  have hchecked : alone_eval lower w (Prog.lift (validate_address_for_chain chain address)) s₂ =
      (.ok (), s₂) := by
    rw [hvalid]
    rfl
  refine ⟨[{ chain_id := config.chain_id
             chain_name := config.chain_name
             watched_address_id := id
             asset_ids := config.asset_ids }], t, ?_⟩
  refine (Prog.eval_bind_ok _ hassets_asked).trans ((Prog.eval_bind_ok _ hchain_asked).trans ?_)
  exact (Prog.eval_bind_ok _ hchecked).trans ((Prog.eval_bind_ok _ hensured).trans rfl)

theorem ensure_config_quiet :
    (CustodyCall.ensure_watched_address_for_custody_account tenant_id address business_ref
      config).Only QuietOp :=
  .bind (CustodyCall.ask_only rfl) fun _ => .bind (CustodyCall.ask_only rfl) fun _ =>
    .bind .lift fun _ => .bind CustodyCall.ensure_watched_address_for_chain_config_only fun _ => .done

/-- The loop returns only if each config is valid. -/
theorem ensure_configs_ok (hpool : SamePool R (seen lower w s))
    (h : alone_eval lower w (CustodyCall.ensure_watched_addresses_for_custody_account tenant_id address
      business_ref configs) s = (.ok watched, t)) :
    (∀ config ∈ configs, R.check_config address config = .ok ()) ∧
      watched.map (·.chain_id) = configs.map (·.chain_id) := by
  induction configs generalizing s t watched with
  | nil =>
    obtain rfl := Except.ok.inj (congrArg Prod.fst h)
    exact ⟨nofun, rfl⟩
  | cons config configs ih =>
    obtain ⟨first, s₁, hfirst, h⟩ := (Prog.eval_bind_ok_iff _).mp h
    obtain ⟨more, s₂, hmore, h⟩ := (Prog.eval_bind_ok_iff _).mp h
    obtain rfl := Except.ok.inj (congrArg Prod.fst h)
    have hnext := hpool.of_quiet ensure_config_quiet hfirst
    obtain ⟨hcheck, hchain⟩ := ensure_config_ok hfirst
    obtain ⟨hchecks, hchains⟩ := ih hnext hmore
    refine ⟨fun other hother => ?_, by rw [List.map_append, hchain, hchains]; rfl⟩
    rcases List.mem_cons.mp hother with rfl | hother
    · rw [← hpool.check_config]
      exact hcheck
    · exact hchecks other hother

theorem ensure_configs_succeeds (hpool : SamePool R (seen lower w s))
    (htrimmed : Text.trim address = address)
    (hchecks : ∀ config ∈ configs, R.check_config address config = .ok ()) :
    ∃ watched t, alone_eval lower w (CustodyCall.ensure_watched_addresses_for_custody_account tenant_id
      address business_ref configs) s = (.ok watched, t) := by
  induction configs generalizing s with
  | nil => exact ⟨[], s, rfl⟩
  | cons config configs ih =>
    have hcheck := hchecks config (List.mem_cons_self ..)
    rw [← hpool.check_config] at hcheck
    obtain ⟨first, s₁, hfirst⟩ := ensure_config_succeeds htrimmed hcheck
    have hnext := hpool.of_quiet ensure_config_quiet hfirst
    obtain ⟨more, s₂, hmore⟩ := ih hnext fun other hother =>
      hchecks other (List.mem_cons_of_mem _ hother)
    exact ⟨first ++ more, s₂, (Prog.eval_bind_ok _ hfirst).trans ((Prog.eval_bind_ok _ hmore).trans rfl)⟩

end Chains

/-! ### The transaction -/

section Transaction
variable {applicant_type : CustodyApplicantType} {requested purpose : Option String}
  {chain_configs : Option (List CustodyAccountChainConfigRequest)}
  {assigned : CustodyCall.AssignedCustody} {watched : List CustodyAssignmentWatchedAddress}

theorem claim_asked (found : Option CustodyAccountRow)
    (h : (seen lower w s).next_in_pool (s.locked_by_other w) tenant_id = found) :
    ∃ t, seen lower w t = seen lower w s ∧
      alone_eval lower w (CustodyCall.ask (.claim_available_pool_account tenant_id)) s = (.ok found, t) :=
  asked lower w s _ (congrArg Except.ok h) rfl

theorem listed_rows (v : CustodyTables) (account : CustodyAccountRow) :
    ∃ rows, (v.list_custody_account_configs account.tenant_id [account.id]).answer = .ok rows ∧
      v.listed_configs account = rows.map (·.toCustodyAccountConfig) :=
  ⟨_, rfl, rfl⟩

theorem configs_listed (htenant : account.tenant_id = tenant_id) {configs : List CustodyAccountConfig}
    (h : alone_eval lower w (CustodyCall.configs_for_account_in_transaction tenant_id account.id) s =
      (.ok configs, t)) :
    configs = (seen lower w s).listed_configs account ∧ configs ≠ [] ∧
      seen lower w t = seen lower w s := by
  subst htenant
  obtain ⟨rows, s₁, hrows, h⟩ := (Prog.eval_bind_ok_iff _).mp h
  obtain ⟨_, s₂, hsome, h⟩ := (Prog.eval_bind_ok_iff _).mp h
  rw [Prog.pure_eq, Prog.eval_done] at h
  obtain ⟨hconfigs, rfl⟩ := Prod.mk.inj h
  obtain rfl := Except.ok.inj hconfigs
  rw [Prog.eval_lift] at hsome
  obtain ⟨hensured, rfl⟩ := Prod.mk.inj hsome
  obtain ⟨hanswer, hsame⟩ := asked_ok hrows rfl
  obtain ⟨listed, hlisted, hsame_configs⟩ := listed_rows (seen lower w s) account
  obtain rfl := Except.ok.inj (hlisted.symm.trans hanswer)
  refine ⟨hsame_configs.symm, fun hnone => ?_, hsame⟩
  have hfull := ensure_ok.mp hensured
  rw [List.map_eq_nil_iff.mp hnone] at hfull
  exact nomatch hfull

theorem configs_asked (htenant : account.tenant_id = tenant_id)
    (hsome : (seen lower w s).listed_configs account ≠ []) :
    ∃ t, seen lower w t = seen lower w s ∧
      alone_eval lower w (CustodyCall.configs_for_account_in_transaction tenant_id account.id) s =
        (.ok ((seen lower w s).listed_configs account), t) := by
  subst htenant
  obtain ⟨rows, hanswer, hconfigs⟩ := listed_rows (seen lower w s) account
  obtain ⟨t, hsame, hasked⟩ := asked lower w s
    (.list_custody_account_configs account.tenant_id [account.id]) hanswer rfl
  refine ⟨t, hsame, (Prog.eval_bind_ok _ hasked).trans ?_⟩
  rw [hconfigs] at hsome ⊢
  cases rows with
  | nil => exact absurd rfl hsome
  | cons row rows => rfl

/-- An assignment from the pool is one of the account that is next, and it could be assigned. -/
theorem pool_transaction_ok
    (h : alone_eval lower w (CustodyCall.insert_custody_assignment to_lowercase tenant_id .pool
      applicant_type business_ref requested purpose chain_configs) s = (.ok assigned, t)) :
    ∃ account, (seen lower w s).next_in_pool (s.locked_by_other w) tenant_id = some account ∧
      (seen lower w s).Assignable account := by
  obtain ⟨account, s₁, hclaim, h⟩ := (Prog.eval_bind_ok_iff _).mp h
  obtain ⟨found, s₀, hasked, hclaim⟩ := (Prog.eval_bind_ok_iff _).mp hclaim
  obtain ⟨hanswer, hsame₀⟩ := asked_ok hasked rfl
  rw [Prog.eval_lift] at hclaim
  obtain ⟨hfound, rfl⟩ := Prod.mk.inj hclaim
  obtain rfl := required_ok.mp hfound
  have hnext : (seen lower w s).next_in_pool (s.locked_by_other w) tenant_id = some account :=
    Except.ok.inj hanswer
  refine ⟨account, hnext, ?_⟩
  obtain ⟨configs, s₂, hconfigs, h⟩ := (Prog.eval_bind_ok_iff _).mp h
  obtain ⟨rfl, hsome, hsame₂⟩ := configs_listed (claimed_mem hanswer).2 hconfigs
  obtain ⟨watched, s₃, hwatched, h⟩ := (Prog.eval_bind_ok_iff _).mp h
  obtain ⟨watched_id, s₄, hlegacy, _⟩ := (Prog.eval_bind_ok_iff _).mp h
  rw [Prog.eval_lift] at hlegacy
  have hpool : SamePool (seen lower w s) (seen lower w s₂) := by
    rw [hsame₂, hsame₀]
    exact ⟨rfl, rfl, rfl, rfl⟩
  obtain ⟨hchecks, hchains⟩ := ensure_configs_ok hpool hwatched
  rw [hsame₀] at hsome hchecks hchains
  refine ⟨hsome, hchecks, ?_⟩
  obtain ⟨legacy, hmap, _⟩ := Option.map_eq_some_iff.mp (required_ok.mp (congrArg Prod.fst hlegacy))
  have hmem := List.mem_map_of_mem (f := (·.chain_id)) (List.mem_of_find?_eq_some hmap)
  rw [hchains] at hmem
  obtain ⟨config, hconfig, hsame⟩ := List.mem_map.mp hmem
  have hlegacy_chain : legacy.chain_id = account.chain_id := by simpa using List.find?_some hmap
  exact ⟨config, hconfig, hsame.trans hlegacy_chain⟩

/-- The account and the assignment as they are read after the commit. -/
structure Placed (v : CustodyTables) (tenant_id : Uuid) (business_ref : String)
    (assigned : CustodyCall.AssignedCustody) (row : CustodyAccountRow) (a : CustodyAssignmentRow) :
    Prop where
  row_mem : row ∈ v.custody_accounts
  row_id : row.id = assigned.account_id
  row_tenant : row.tenant_id = tenant_id
  row_only : ∀ other ∈ v.custody_accounts, other.id = row.id → other = row
  chain : ∃ chain, v.chains.find? (·.id == row.chain_id) = some chain
  assignment_mem : a ∈ v.custody_account_assignments
  assignment_id : a.id = assigned.assignment_id
  assignment_tenant : a.tenant_id = tenant_id
  assignment_account : a.custody_account_id = row.id
  assignment_ref : a.business_ref = business_ref
  assignment_status : a.status = .active

theorem assignment_inserted (applicant_type : CustodyApplicantType) (purpose : Option String)
    (watched_id : Uuid)
    (hfree : (seen lower w s).assignment_conflicts tenant_id account.id business_ref = false) :
    ∃ t a, alone_eval lower w (CustodyCall.ask (.insert_custody_assignment tenant_id account.id
        applicant_type business_ref purpose watched_id)) s = (.ok (some a.id), t) ∧
      seen lower w t = CustodyChange.apply (.assignment a) (seen lower w s) ∧
      a.tenant_id = tenant_id ∧ a.custody_account_id = account.id ∧ a.business_ref = business_ref ∧
      a.status = .active := by
  have heffect : (seen lower w s).insert_custody_assignment (s.started w) s.next_id tenant_id account.id
      applicant_type business_ref purpose watched_id = _ := if_neg (ne_true_of_eq_false hfree)
  refine ⟨_, CustodyTables.new_custody_assignment (s.started w) s.next_id tenant_id account.id
    applicant_type business_ref purpose watched_id, eval_ask.trans (Prod.ext ?_ rfl), ?_, rfl, rfl, rfl,
    rfl⟩
  · exact congrArg CustodyEffect.answer heffect
  · refine (World.view_perform ..).trans ?_
    exact congrArg (fun effect : CustodyEffect (Option Uuid) =>
      CustodyChange.replay effect.log (seen lower w s)) heffect

theorem account_marked (watched_id : Uuid)
    (hfind : (seen lower w s).find_account account.id tenant_id = some account) :
    ∃ t now, alone_eval lower w (CustodyCall.ask (.mark_custody_account_assigned account.id watched_id
        tenant_id)) s = (.ok (), t) ∧
      seen lower w t = CustodyChange.apply
        (.account (CustodyTables.assigned_account now watched_id account)) (seen lower w s) := by
  refine ⟨_, s.started w, eval_ask.trans (Prod.ext rfl rfl), (World.view_perform ..).trans ?_⟩
  exact congrArg (fun found : Option CustodyAccountRow => CustodyChange.replay (found.toList.map
    fun row => .account (CustodyTables.assigned_account (s.started w) watched_id row))
      (seen lower w s)) hfind

/-- An account that is next and could be assigned is assigned. -/
theorem pool_transaction_succeeds
    (hnext : (seen lower w s).next_in_pool (s.locked_by_other w) tenant_id = some account)
    (hassignable : (seen lower w s).Assignable account)
    (htrimmed : Text.trim account.address = account.address)
    (hids : ((seen lower w s).custody_accounts.map (·.id)).Nodup)
    (hfresh : ∀ a ∈ (seen lower w s).custody_account_assignments, a.tenant_id = tenant_id →
      a.business_ref ≠ business_ref)
    (hvacant : ∀ a ∈ (seen lower w s).custody_account_assignments,
      a.custody_account_id = account.id → a.status ≠ .active) :
    ∃ assigned t row a, alone_eval lower w (CustodyCall.insert_custody_assignment to_lowercase tenant_id
      .pool applicant_type business_ref requested purpose chain_configs) s = (.ok assigned, t) ∧
        Placed (seen lower w t) tenant_id business_ref assigned row a := by
  obtain ⟨hsome, hchecks, legacy, hlegacy, hlegacy_chain⟩ := hassignable
  have hclaimed : ((seen lower w s).claim_available_pool_account (s.locked_by_other w)
      tenant_id).answer = .ok (some account) := congrArg Except.ok hnext
  obtain ⟨hrow, htenant⟩ := claimed_mem hclaimed
  obtain ⟨s₁, hsame₁, hclaim⟩ := claim_asked (some account) hnext
  rw [← hsame₁] at hsome hchecks hlegacy
  obtain ⟨s₂, hsame₂, hconfigs⟩ := configs_asked htenant hsome
  have hpool : SamePool (seen lower w s) (seen lower w s₂) := by
    rw [hsame₂, hsame₁]
    exact ⟨rfl, rfl, rfl, rfl⟩
  rw [hsame₁] at hchecks hlegacy hconfigs
  have hensured : ∃ watched t, alone_eval lower w
      (CustodyCall.ensure_watched_addresses_for_custody_account tenant_id account.address business_ref
        ((seen lower w s).listed_configs account)) s₂ = (.ok watched, t) :=
    ensure_configs_succeeds hpool htrimmed hchecks
  obtain ⟨watched, s₃, hwatched⟩ := hensured
  have hpool₃ := hpool.of_quiet CustodyCall.ensure_watched_addresses_for_custody_account_only hwatched
  -- One of the watched addresses is on the chain the account was created with.
  have hmem : account.chain_id ∈ watched.map (·.chain_id) := by
    rw [(ensure_configs_ok hpool hwatched).2]
    exact List.mem_map.mpr ⟨legacy, hlegacy, hlegacy_chain⟩
  obtain ⟨entry, hentry, hentry_chain⟩ := List.mem_map.mp hmem
  obtain ⟨found, hfound⟩ := Option.isSome_iff_exists.mp
    ((List.find?_isSome (p := fun entry : CustodyAssignmentWatchedAddress =>
      entry.chain_id == account.chain_id)).mpr ⟨entry, hentry, beq_iff_eq.mpr hentry_chain⟩)
  have hlegacy_id : legacy_watched_address_id_for_account account watched =
      .ok found.watched_address_id := required_ok.mpr (congrArg (Option.map _) hfound)
  have hfree : (seen lower w s₃).assignment_conflicts tenant_id account.id business_ref = false := by
    unfold CustodyTables.assignment_conflicts
    rw [hpool₃.custody.assignments]
    refine List.any_eq_false.mpr fun a ha hconflict => ?_
    simp only [Bool.or_eq_true, Bool.and_eq_true, beq_iff_eq, decide_eq_true_eq] at hconflict
    rcases hconflict with ⟨hsame, href⟩ | ⟨hsame, hactive⟩
    · exact hfresh a ha hsame href
    · exact hvacant a ha hsame hactive
  obtain ⟨s₄, a, hinserted, hseen₄, hatenant, haccount, haref, hactive⟩ :=
    assignment_inserted applicant_type purpose found.watched_address_id hfree
  have hfind : (seen lower w s₄).find_account account.id tenant_id = some account := by
    have haccounts : (seen lower w s₄).custody_accounts = (seen lower w s).custody_accounts := by
      rw [hseen₄]
      exact hpool₃.custody.accounts
    obtain ⟨other, hother⟩ := find_account_of_mem (haccounts.symm ▸ hrow)
    obtain ⟨hother_mem, hid, _⟩ := find_account_mem hother
    rw [← htenant, hother, List.inj_on_of_nodup_map hids (haccounts ▸ hother_mem) hrow hid]
  obtain ⟨s₅, now, hmarked, hseen₅⟩ := account_marked found.watched_address_id hfind
  refine ⟨⟨account.id, a.id, watched⟩, s₅,
    CustodyTables.assigned_account now found.watched_address_id account, a, ?_, ?_⟩
  · have hclaimed : alone_eval lower w (CustodyCall.claim_or_create_account_for_assignment to_lowercase
        tenant_id .pool requested chain_configs) s = (.ok account, s₁) :=
      (Prog.eval_bind_ok _ hclaim).trans rfl
    have hchecked : alone_eval lower w (Prog.lift (legacy_watched_address_id_for_account account
        watched)) s₃ = (.ok found.watched_address_id, s₃) := by
      rw [hlegacy_id]
      rfl
    have hrequired : alone_eval lower w (Prog.lift (required (some a.id) (.Validation
        "custody assignment conflicts with existing active assignment or business_ref"))) s₄ =
          (.ok a.id, s₄) := rfl
    refine (Prog.eval_bind_ok _ hclaimed).trans ((Prog.eval_bind_ok _ hconfigs).trans ?_)
    refine (Prog.eval_bind_ok _ hwatched).trans ((Prog.eval_bind_ok _ hchecked).trans ?_)
    refine (Prog.eval_bind_ok _ hinserted).trans ((Prog.eval_bind_ok _ hrequired).trans ?_)
    exact (Prog.eval_bind_ok _ hmarked).trans rfl
  · obtain ⟨_, chain, _, hchain, _⟩ := check_config_ok.mp (hchecks legacy hlegacy)
    rw [hlegacy_chain] at hchain
    rw [hseen₅, hseen₄]
    refine ⟨Table.put_self .., rfl, htenant, fun other hother hid => ?_, ⟨chain, ?_⟩, Table.put_self ..,
      rfl, hatenant, haccount, haref, hactive⟩
    · rcases Table.mem_put.mp hother with rfl | ⟨_, hne⟩
      · rfl
      · exact absurd hid hne
    · have hchains : (seen lower w s₃).chains = (seen lower w s).chains := hpool₃.chains
      change (seen lower w s₃).chains.find? (·.id == account.chain_id) = some chain
      rw [hchains]
      exact required_ok.mp hchain

end Transaction

/-! ### The call -/

section Reads
variable {row : CustodyAccountRow} {a : CustodyAssignmentRow} {assigned : CustodyCall.AssignedCustody}

theorem account_list_rows_id (v : CustodyTables) (row : CustodyAccountRow) (chain : Chain) :
    ∃ listed ∈ v.account_list_rows row chain, listed.id = row.id := by
  unfold CustodyTables.account_list_rows
  split
  · exact ⟨_, List.mem_singleton.mpr rfl, rfl⟩
  · rename_i hsome
    obtain ⟨assignment, hassignment⟩ := List.exists_mem_of_ne_nil _ hsome
    exact ⟨_, List.mem_map_of_mem hassignment, rfl⟩

theorem Placed.account_listed (h : Placed v tenant_id business_ref assigned row a) :
    ∃ rows, (v.list_custody_accounts tenant_id none none none).answer = .ok rows ∧
      ∃ listed ∈ rows, listed.id = assigned.account_id := by
  obtain ⟨chain, hchain⟩ := h.chain
  obtain ⟨listed, hlisted, hid⟩ := account_list_rows_id v row chain
  refine ⟨_, rfl, listed, (List.mem_insertionSort _).mpr (List.mem_flatMap.mpr ⟨row, ?_, ?_⟩),
    hid.trans h.row_id⟩
  · refine List.mem_filter.mpr ⟨h.row_mem, ?_⟩
    simp [h.row_tenant]
  · rw [hchain]
    exact hlisted

theorem Placed.assignment_listed (h : Placed v tenant_id business_ref assigned row a) :
    ∃ rows, (v.list_custody_assignments tenant_id none (some .active) (some business_ref)).answer =
      .ok rows ∧ ∃ listed ∈ rows, listed.id = assigned.assignment_id := by
  obtain ⟨chain, hchain⟩ := h.chain
  have hfind : v.find_account a.custody_account_id a.tenant_id = some row := by
    rw [h.assignment_account, h.assignment_tenant, ← h.row_tenant]
    obtain ⟨other, hother⟩ := find_account_of_mem h.row_mem
    rw [hother, h.row_only other (find_account_mem hother).1 (find_account_mem hother).2.1]
  refine ⟨_, rfl, CustodyTables.assignment_list_row a row chain, (List.mem_insertionSort _).mpr
    (List.mem_flatMap.mpr ⟨a, ?_, ?_⟩), h.assignment_id⟩
  · refine List.mem_filter.mpr ⟨h.assignment_mem, ?_⟩
    simp [h.assignment_tenant, h.assignment_status, h.assignment_ref]
  · have hany : (fun other : Chain => other.id == row.chain_id &&
        (none : Option Uuid).all (v.on_chain a.tenant_id a.custody_account_id row.chain_id)) =
          fun other : Chain => other.id == row.chain_id := by
      funext other
      simp
    rw [hfind]
    simp only [Option.bind_eq_bind, Option.bind_some, hany, hchain]
    exact List.mem_singleton.mpr rfl

theorem configs_for_accounts_succeeds (lower : String → String) (w : W) (s : CustodyWorld W)
    (tenant_id : Uuid) (account_ids : List Uuid) :
    ∃ configs t, seen lower w t = seen lower w s ∧
      alone_eval lower w (CustodyCall.configs_for_accounts tenant_id account_ids) s =
        (.ok configs, t) := by
  unfold CustodyCall.configs_for_accounts
  split
  · exact ⟨[], s, rfl, rfl⟩
  · obtain ⟨t, hsame, hasked⟩ := asked lower w s
      (.list_custody_account_configs tenant_id account_ids) rfl rfl
    exact ⟨_, t, hsame, hasked⟩

/-- What has been committed is found again. -/
theorem reads_succeed {watched : List CustodyAssignmentWatchedAddress}
    (h : Placed (seen lower w s) tenant_id business_ref assigned row a) :
    ∃ response t, alone_eval lower w (do
      let accounts ← CustodyCall.list_custody_accounts tenant_id
        { chain_id := none, source := none, status := none }
      let account ← Prog.lift (required (accounts.find? (·.id == assigned.account_id))
        (.NotFound "custody account"))
      let assignments ← CustodyCall.list_custody_assignments tenant_id
        { chain_id := none, status := some "active", business_ref := some business_ref }
      let assignment ← Prog.lift (required (assignments.find? (·.id == assigned.assignment_id))
        (.NotFound "custody assignment"))
      return ({ account := account
                assignment := assignment
                watched_addresses := watched } : AssignCustodyAccountResponse)) s =
        (.ok response, t) := by
  obtain ⟨rows, hrows, listed, hlisted, hid⟩ := h.account_listed
  obtain ⟨s₁, hsame₁, hasked⟩ := asked lower w s
    (.list_custody_accounts tenant_id none none none) hrows rfl
  obtain ⟨configs, s₂, hsame₂, hconfigs⟩ := configs_for_accounts_succeeds lower w s₁ tenant_id
    (rows.map (·.id))
  have haccounts : alone_eval lower w (CustodyCall.list_custody_accounts tenant_id
      { chain_id := none, source := none, status := none }) s =
        (.ok (rows.map (CustodyCall.custody_account_from_list_row configs)), s₂) :=
    (Prog.eval_bind_ok _ hasked).trans ((Prog.eval_bind_ok _ hconfigs).trans rfl)
  obtain ⟨account, haccount⟩ := Option.isSome_iff_exists.mp
    ((List.find?_isSome (p := fun account : CustodyAccount => account.id == assigned.account_id)).mpr
      ⟨CustodyCall.custody_account_from_list_row configs listed, List.mem_map_of_mem hlisted,
        beq_iff_eq.mpr hid⟩)
  have hplaced : Placed (seen lower w s₂) tenant_id business_ref assigned row a := by
    rw [hsame₂, hsame₁]
    exact h
  obtain ⟨assignments, hassignments, other, hother, hother_id⟩ := hplaced.assignment_listed
  obtain ⟨s₃, _, hasked₃⟩ := asked lower w s₂
    (.list_custody_assignments tenant_id none (some .active) (some business_ref))
    hassignments rfl
  have hlist : alone_eval lower w (CustodyCall.list_custody_assignments tenant_id
      { chain_id := none, status := some "active", business_ref := some business_ref }) s₂ =
        (.ok assignments, s₃) := hasked₃
  obtain ⟨assignment, hassignment⟩ := Option.isSome_iff_exists.mp
    ((List.find?_isSome (p := fun assignment : CustodyAccountAssignment =>
      assignment.id == assigned.assignment_id)).mpr ⟨other, hother, beq_iff_eq.mpr hother_id⟩)
  refine ⟨{ account := account, assignment := assignment, watched_addresses := watched }, s₃, ?_⟩
  have hfound : alone_eval lower w (Prog.lift (required ((rows.map
      (CustodyCall.custody_account_from_list_row configs)).find? (·.id == assigned.account_id))
        (.NotFound "custody account"))) s₂ = (.ok account, s₂) := by
    rw [haccount]
    rfl
  have hfound₃ : alone_eval lower w (Prog.lift (required (assignments.find?
      (·.id == assigned.assignment_id)) (.NotFound "custody assignment"))) s₃ =
        (.ok assignment, s₃) := by
    rw [hassignment]
    rfl
  refine (Prog.eval_bind_ok _ haccounts).trans ((Prog.eval_bind_ok _ hfound).trans ?_)
  exact (Prog.eval_bind_ok _ hlist).trans ((Prog.eval_bind_ok _ hfound₃).trans rfl)

end Reads

theorem asks_tables {p : CustodyCall α} {r : AppResult α}
    (hp : p.Only fun op => ∃ statement, op = .ask statement) (h : alone_eval lower w p s = (r, t)) :
    t.tables = s.tables := by
  have htables : (alone_eval lower w p s).2.tables = t.tables := by rw [h]
  rw [← htables]
  refine Prog.eval_only (I := fun t : CustodyWorld W => t.tables = s.tables)
    (fun t op hop h => ?_) hp rfl
  obtain ⟨statement, rfl⟩ := hop
  exact h

theorem next_in_pool_mem {skipped : CustodyKey → Bool}
    (h : v.next_in_pool skipped tenant_id = some account) :
    account ∈ v.custody_accounts ∧ account.status = .available := by
  obtain ⟨hrow, hclaimable⟩ := List.mem_filter.mp
    ((List.mem_insertionSort _).mp (List.mem_of_find?_eq_some h))
  simp only [CustodyTables.claimable, Bool.and_eq_true, decide_eq_true_eq] at hclaimable
  exact ⟨hrow, hclaimable.2⟩

/-- A client that starts over has no locks, and those of the others stay. -/
theorem abandon_locked (s : CustodyWorld W) (w : W) :
    (s.abandon w).locked_by_other w = s.locked_by_other w := by
  funext k
  by_cases hk : s.owner k = some w
  · have howner : (s.abandon w).owner k = none := if_pos hk
    simp [World.locked_by_other, howner, hk]
  · have howner : (s.abandon w).owner k = s.owner k := if_neg hk
    simp [World.locked_by_other, howner]

section Call
variable {s₀ : CustodyWorld W} {ps qs : W → CustodyCall Unit} {request : AssignCustodyAccountRequest}
  {applicant_type : CustodyApplicantType}

/-- What is left of a call once its transaction is committed. -/
def read_assignment (tenant_id : Uuid) (business_ref : String) (assigned : CustodyCall.AssignedCustody) :
    CustodyCall AssignCustodyAccountResponse := do
  let accounts ← CustodyCall.list_custody_accounts tenant_id
    { chain_id := none, source := none, status := none }
  let account ← Prog.lift (required (accounts.find? (·.id == assigned.account_id))
    (.NotFound "custody account"))
  let assignments ← CustodyCall.list_custody_assignments tenant_id
    { chain_id := none, status := some "active", business_ref := some business_ref }
  let assignment ← Prog.lift (required (assignments.find? (·.id == assigned.assignment_id))
    (.NotFound "custody assignment"))
  return { account := account
           assignment := assignment
           watched_addresses := assigned.watched_addresses }

/-- A call with a valid request is its transaction and what is read afterwards. -/
theorem pool_call (hsource : request.source = "pool")
    (htype : validate_custody_applicant_type request.applicant_type = .ok applicant_type)
    (href : Text.trim request.business_ref ≠ "") (t : CustodyWorld W) :
    alone_eval lower w (CustodyCall.assign_custody_account to_lowercase tenant_id request) t =
      alone_eval lower w ((transaction (CustodyCall.insert_custody_assignment to_lowercase tenant_id
        .pool applicant_type (Text.trim request.business_ref)
        ((request.address.map Text.trim).filter (· != "")) request.purpose
        request.chain_configs)).bind (read_assignment tenant_id (Text.trim request.business_ref))) t := by
  have hsource_checked : alone_eval lower w (Prog.lift (validate_custody_source request.source)) t =
      (.ok .pool, t) := by
    rw [hsource]
    rfl
  have htype_checked : alone_eval lower w
      (Prog.lift (validate_custody_applicant_type request.applicant_type)) t =
        (.ok applicant_type, t) := by
    rw [htype]
    rfl
  have href_checked : alone_eval lower w
      (Prog.lift (validate_business_ref (Text.trim request.business_ref))) t = (.ok (), t) := by
    have hensured : validate_business_ref (Text.trim request.business_ref) = .ok () := by
      refine ensure_ok.mpr ?_
      rw [Text.trim_trim]
      exact bne_iff_ne.mpr href
    rw [hensured]
    rfl
  refine (Prog.eval_bind_ok _ hsource_checked).trans ((Prog.eval_bind_ok _ htype_checked).trans ?_)
  exact (Prog.eval_bind_ok _ href_checked).trans rfl

/-- In every reachable state a pool assignment with a new reference that nobody interrupts returns
exactly if the account that is next could be assigned, and otherwise nothing changes. -/
theorem pool_assignment_takes_next (hstart : CustodyStart s₀ ps)
    (hrun : Relation.ReflTransGen (CustodyStep lower to_lowercase) (s₀, ps) (s, qs))
    (hsource : request.source = "pool")
    (htype : validate_custody_applicant_type request.applicant_type = .ok applicant_type)
    (href : Text.trim request.business_ref ≠ "")
    (hfresh : ∀ a ∈ s.tables.custody_account_assignments, a.tenant_id = tenant_id →
      a.business_ref ≠ Text.trim request.business_ref) :
    ((∃ response t, alone_eval lower w (CustodyCall.assign_custody_account to_lowercase tenant_id
        request) (s.abandon w) = (.ok response, t)) ↔
      ∃ account, s.tables.next_in_pool (s.locked_by_other w) tenant_id = some account ∧
        s.tables.Assignable account) ∧
    ∀ e t, alone_eval lower w (CustodyCall.assign_custody_account to_lowercase tenant_id request)
      (s.abandon w) = (.error e, t) → t.tables = s.tables := by
  have horder := hstart.good.order hrun
  have hseen : seen lower w ((s.abandon w).start w 0) = s.tables := World.view_abandon s
  have hlocked : ((s.abandon w).start w 0).locked_by_other w = s.locked_by_other w :=
    abandon_locked s w
  rw [pool_call hsource htype href]
  -- The transaction returns exactly if the account that is next could be assigned.
  have hsucceeds : ∀ account, s.tables.next_in_pool (s.locked_by_other w) tenant_id = some account →
      s.tables.Assignable account → ∃ assigned t row a, alone_eval lower w
        (CustodyCall.insert_custody_assignment to_lowercase tenant_id .pool applicant_type
          (Text.trim request.business_ref) ((request.address.map Text.trim).filter (· != ""))
          request.purpose request.chain_configs) ((s.abandon w).start w 0) = (.ok assigned, t) ∧
        Placed (seen lower w t) tenant_id (Text.trim request.business_ref) assigned row a := by
    intro account hnext hassignable
    obtain ⟨hrow, havailable⟩ := next_in_pool_mem hnext
    refine pool_transaction_succeeds ?_ (hseen.symm ▸ hassignable) (trimmed_run hstart hrun account hrow)
      (hseen.symm ▸ horder.account_ids) (hseen.symm ▸ hfresh) fun a ha haccount hactive => ?_
    · rw [hseen, hlocked]
      exact hnext
    · rw [hseen] at ha
      have hassigned := horder.active_account hrow (List.ne_nil_of_mem (List.mem_filter.mpr
        ⟨ha, decide_eq_true ⟨haccount, hactive⟩⟩))
      exact nomatch havailable.symm.trans hassigned
  have hcommitted : ∀ account, s.tables.next_in_pool (s.locked_by_other w) tenant_id = some account →
      s.tables.Assignable account → ∃ response t, alone_eval lower w
        ((transaction (CustodyCall.insert_custody_assignment to_lowercase tenant_id .pool applicant_type
          (Text.trim request.business_ref) ((request.address.map Text.trim).filter (· != ""))
          request.purpose request.chain_configs)).bind
            (read_assignment tenant_id (Text.trim request.business_ref))) (s.abandon w) =
          (.ok response, t) := by
    intro account hnext hassignable
    obtain ⟨assigned, t, row, a, hbody, hplaced⟩ := hsucceeds account hnext hassignable
    have hview : seen lower w (t.commit (custody_schema lower) w) = seen lower w t := World.view_commit t
    obtain ⟨response, u, hread⟩ := reads_succeed (hview.symm ▸ hplaced)
    exact ⟨response, u, (Prog.eval_bind_ok _ (alone_transaction_ok hbody)).trans hread⟩
  generalize hbody : alone_eval lower w (CustodyCall.insert_custody_assignment to_lowercase tenant_id
    .pool applicant_type (Text.trim request.business_ref)
    ((request.address.map Text.trim).filter (· != "")) request.purpose request.chain_configs)
      ((s.abandon w).start w 0) = result at hsucceeds
  obtain ⟨r, u⟩ := result
  cases r with
  | ok assigned =>
    obtain ⟨account, hnext, hassignable⟩ := pool_transaction_ok hbody
    rw [hseen, hlocked] at hnext
    rw [hseen] at hassignable
    obtain ⟨response, t, hok⟩ := hcommitted account hnext hassignable
    refine ⟨⟨fun _ => ⟨account, hnext, hassignable⟩, fun _ => ⟨response, t, hok⟩⟩, fun e t herror => ?_⟩
    exact nomatch congrArg Prod.fst (hok.symm.trans herror)
  | error e =>
    have hfailed := Prog.eval_bind_error (World.alone (custody_schema lower) w)
      (f := read_assignment tenant_id (Text.trim request.business_ref)) (alone_transaction_error hbody)
    refine ⟨⟨?_, ?_⟩, fun e' t herror => ?_⟩
    · rintro ⟨response, t, hok⟩
      exact nomatch congrArg Prod.fst (hfailed.symm.trans hok)
    · rintro ⟨account, hnext, hassignable⟩
      exact hcommitted account hnext hassignable
    · have htables : (u.abandon w).tables = t.tables :=
        congrArg (·.2.tables) (hfailed.symm.trans herror)
      have hkept : u.tables = ((s.abandon w).start w 0).tables :=
        asks_tables CustodyCall.assignment_asks hbody
      exact htables.symm.trans hkept

end Call

theorem pool_assignment_takes_next_account : ∃ response t, alone_eval id ()
    (CustodyCall.assign_custody_account id 7 (pool_assignment_request "r"))
    ((alone_calls (quiet_world bitcoin_tables 10) [create_pool_account "1" none]).abandon ()) =
      (.ok response, t) := by
  have hcalls : ∀ p ∈ [create_pool_account "1" none], CustodyRequest id p := by
    intro p hp
    obtain rfl := List.mem_singleton.mp hp
    exact .create 7 _
  obtain ⟨qs, hrun⟩ := alone_calls_run hcalls (quiet_world bitcoin_tables 10) no_client
    (by decide +kernel)
  refine (pool_assignment_takes_next bitcoin_start hrun rfl rfl (by decide +kernel)
    (by decide +kernel)).1.mpr ?_
  exact ⟨CustodyTables.new_custody_account 0 10 7 1 "1" "1" none .pool .available, by decide +kernel,
    by decide +kernel⟩

/-! ### The pool, blocked -/

/-- Every statement is carried out and answered; transactions start at this time. -/
def at_time (now : Timestamp) (s : CustodyWorld Unit) :
    (op : Op CustodyStatement) → AppResult (op.Answer CustodyStatement.Answer) × CustodyWorld Unit
  | .begin => (.ok (), s.start () now)
  | .commit => s.alone (custody_schema id) () .commit
  | .rollback => s.alone (custody_schema id) () .rollback
  | .ask statement => s.alone (custody_schema id) () (.ask statement)

theorem at_time_carried (now : Timestamp) (s : CustodyWorld Unit) (op : Op CustodyStatement) :
    Carried (custody_schema id) AppError.Database () s op (at_time now s op).1 (at_time now s op).2 := by
  cases op with
  | begin => exact .begun now
  | commit => exact .alone (World.unblocked_unit s .commit)
  | rollback => exact .alone (World.unblocked_unit s .rollback)
  | ask statement => exact .alone (World.unblocked_unit s (.ask statement))

theorem at_time_run (now : Timestamp) {p : CustodyCall Unit} (hp : CustodyRequest id p)
    (s : CustodyWorld Unit) (ps : Unit → CustodyCall Unit) :
    ∃ qs, Relation.ReflTransGen (CustodyStep id id) (s, ps)
      ((Prog.eval (at_time now) p (s.abandon ())).2, qs) := by
  have hstep : ∀ s op, (fun _ _ => true : CustodyWorld Unit → Op CustodyStatement → Bool) s op = true →
      Carried (custody_schema id) AppError.Database () s op (at_time now s op).1 (at_time now s op).2 :=
    fun s op _ => at_time_carried now s op
  have hcall : ∃ qs, Relation.ReflTransGen (CustodyStep id id) (s.abandon (), Function.update ps () p)
      ((Prog.eval (at_time now) p (s.abandon ())).2, qs) ∧
        qs () = Prog.lift (Prog.eval (at_time now) p (s.abandon ())).1 :=
    Prog.Crew.of_eval hstep (s.abandon ()) (Prog.along_true ..) (Function.update ps () p)
      (Function.update_self ..)
  obtain ⟨qs, hqs, _⟩ := hcall
  exact ⟨qs, .head (.launch () ⟨rfl, hp⟩) hqs⟩

/-- Two assets of one chain. -/
def two_assets (status : String) : List Asset :=
  [{ id := 2, chain_id := 1, asset_type := "native", symbol := "BTC", name := "Bitcoin",
     contract_address := none, decimals := 8, status := status },
   { id := 3, chain_id := 1, asset_type := "token", symbol := "RUNE", name := "Rune",
     contract_address := some "840000:3", decimals := 0, status := "active" }]

def empty_pool : CustodyWorld Unit :=
  quiet_world { bitcoin_tables with assets := two_assets "active" } 10

def older_request : CreateCustodyAccountRequest :=
  pool_account_request "1" none

def younger_request : CreateCustodyAccountRequest :=
  { pool_account_request "3" none with chain_configs := [{ chain_id := 1, asset_ids := [3] }] }

def create_at (now : Timestamp) (request : CreateCustodyAccountRequest) (s : CustodyWorld Unit) :
    CustodyWorld Unit :=
  (Prog.eval (at_time now) ((CustodyCall.create_custody_account id 7 request).bind fun _ => .done ())
    (s.abandon ())).2

/-- Two accounts, the older one for the first asset; then that asset is deactivated. -/
def blocked_pool : CustodyWorld Unit :=
  let s := create_at 2 younger_request (create_at 1 older_request empty_pool)
  { s with tables := { s.tables with assets := two_assets "inactive" } }

theorem blocked_pool_reachable :
    ∃ qs, Relation.ReflTransGen (CustodyStep id id) (empty_pool, no_client) (blocked_pool, qs) := by
  obtain ⟨qs, hfirst⟩ := at_time_run 1 (.create 7 older_request) empty_pool no_client
  obtain ⟨rs, hsecond⟩ := at_time_run 2 (.create 7 younger_request)
    (create_at 1 older_request empty_pool) qs
  refine ⟨rs, hfirst.trans (hsecond.tail (.others ?_))⟩
  exact ⟨{ (create_at 2 younger_request (create_at 1 older_request empty_pool)).tables with
    assets := two_assets "inactive" }, ⟨.refl _, .refl _⟩, rfl⟩

/-- The younger account could be assigned, but the older one is tried, and the call fails. -/
theorem older_account_blocks_pool :
    (∃ qs, Relation.ReflTransGen (CustodyStep id id) (empty_pool, no_client) (blocked_pool, qs)) ∧
    CustodyStart empty_pool no_client ∧
    (∃ row ∈ blocked_pool.tables.custody_accounts, CustodyTables.claimable 7 row = true ∧
      blocked_pool.locked_by_other () (.account row.id) = false ∧ blocked_pool.tables.Assignable row) ∧
    blocked_pool.tables.custody_account_assignments = [] ∧
    ∀ response t, alone_eval id () (CustodyCall.assign_custody_account id 7
      (pool_assignment_request "r")) (blocked_pool.abandon ()) ≠ (.ok response, t) := by
  refine ⟨blocked_pool_reachable, ⟨rfl, rfl, fun _ => rfl, fun _ => rfl, fun _ => rfl⟩,
    by decide +kernel, by decide +kernel, fun response t h => ?_⟩
  have hfails : (alone_eval id () (CustodyCall.assign_custody_account id 7
      (pool_assignment_request "r")) (blocked_pool.abandon ())).1.toBool = false := by decide +kernel
  rw [h] at hfails
  exact nomatch hfails

end CoinListener.Storage
