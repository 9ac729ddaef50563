import CoinListener.Storage.CustodySteps

/-! Any number of clients that create, assign and release custody accounts: what every run keeps. -/
namespace CoinListener.Storage
open Foundation Transaction

set_option linter.unusedSectionVars false

variable {W : Type} [DecidableEq W] {lower to_lowercase : String → String} {s t u : CustodyWorld W}
  {w : W} {tenant_id account_id : Uuid} {α β : Type}

/-! ### Parts that change no account and no assignment -/

def QuietOp (op : Op CustodyStatement) : Prop :=
  ∃ statement, op = .ask statement ∧ statement.quiet = true

/-- Nor a watched address. -/
def AsideOp (op : Op CustodyStatement) : Prop :=
  ∃ statement, op = .ask statement ∧ statement.quiet = true ∧ statement.addressed = false

theorem AsideOp.quiet {op : Op CustodyStatement} (h : AsideOp op) : QuietOp op := by
  obtain ⟨statement, hop, hquiet, _⟩ := h
  exact ⟨statement, hop, hquiet⟩

namespace CustodyCall

theorem quiet_of_aside {p : CustodyCall α} (hp : p.Only AsideOp) : p.Only QuietOp :=
  hp.mono fun _ => AsideOp.quiet

theorem ask_aside {statement : CustodyStatement} (h : statement.quiet = true)
    (h' : statement.addressed = false) : (ask statement).Only AsideOp :=
  .perform ⟨statement, rfl, h, h'⟩

theorem ask_only {statement : CustodyStatement} (h : statement.quiet = true) :
    (ask statement).Only QuietOp :=
  .perform ⟨statement, rfl, h⟩

theorem chain_types_for_configs_only {configs : List CustodyAccountChainConfigRequest} :
    (chain_types_for_configs configs).Only AsideOp :=
  .bind (ask_aside rfl rfl) fun _ => .bind .lift fun _ => .done

theorem insert_custody_chain_config_only {config : CustodyAccountChainConfigRequest} :
    (insert_custody_chain_config tenant_id account_id config).Only AsideOp :=
  .bind (ask_aside rfl rfl) fun _ => .bind (ask_aside rfl rfl) fun _ =>
    .forEach fun _ _ => .bind (ask_aside rfl rfl) fun _ => .done

theorem validate_and_insert_custody_chain_configs_only
    {configs : List CustodyAccountChainConfigRequest} :
    (validate_and_insert_custody_chain_configs tenant_id account_id configs).Only AsideOp :=
  .bind .lift fun _ => .bind (.forEach fun _ _ => insert_custody_chain_config_only) fun _ => .done

theorem configs_for_accounts_only {account_ids : List Uuid} :
    (configs_for_accounts tenant_id account_ids).Only QuietOp := by
  unfold configs_for_accounts
  split
  · exact .done
  · exact ask_only rfl

theorem configs_for_account_in_transaction_only :
    (configs_for_account_in_transaction tenant_id account_id).Only AsideOp :=
  .bind (ask_aside rfl rfl) fun _ => .bind .lift fun _ => .done

theorem list_custody_accounts_only {query : CustodyAccountQuery} :
    (list_custody_accounts tenant_id query).Only QuietOp :=
  .bind .lift fun _ => .bind .lift fun _ => .bind (ask_only rfl) fun _ =>
    .bind configs_for_accounts_only fun _ => .done

theorem list_custody_assignments_only {query : CustodyAssignmentQuery} :
    (list_custody_assignments tenant_id query).Only QuietOp :=
  .bind .lift fun _ => ask_only rfl

theorem activate_watched_address_only {existing : WatchedAddress} :
    (activate_watched_address tenant_id existing).Only QuietOp := by
  unfold activate_watched_address
  split
  · exact .done
  · exact .bind (ask_only rfl) fun _ => .bind .lift fun _ => .done

theorem find_or_create_watched_address_only {chain_id : Uuid} {address business_ref : String}
    {asset_ids : List Uuid} {existing : Option WatchedAddress} :
    (find_or_create_watched_address tenant_id chain_id address business_ref asset_ids
      existing).Only QuietOp := by
  cases existing with
  | none =>
    exact .bind (.bind (ask_only rfl) fun _ => .bind (ask_only rfl) fun _ =>
      .bind (ask_only rfl) fun _ => .done) fun _ => .done
  | some existing => exact activate_watched_address_only

theorem ensure_watched_address_for_chain_config_only {chain_id : Uuid}
    {address business_ref : String} {asset_ids : List Uuid} :
    (ensure_watched_address_for_chain_config tenant_id chain_id address business_ref
      asset_ids).Only QuietOp :=
  .bind .lift fun _ => .bind (.bind (ask_only rfl) fun _ => .bind .lift fun _ => .done) fun _ =>
    .bind (ask_only rfl) fun _ => .bind find_or_create_watched_address_only fun _ =>
      .bind (.forEach fun _ _ => .bind (ask_only rfl) fun _ => .done) fun _ => .done

theorem ensure_watched_addresses_for_custody_account_only {address business_ref : String}
    {configs : List CustodyAccountConfig} :
    (ensure_watched_addresses_for_custody_account tenant_id address business_ref
      configs).Only QuietOp :=
  .forEach fun _ _ => .bind (ask_only rfl) fun _ => .bind (ask_only rfl) fun _ =>
    .bind .lift fun _ => .bind ensure_watched_address_for_chain_config_only fun _ => .done

theorem validate_assignable_custody_account_only {account : CustodyAccountRow} :
    (validate_assignable_custody_account tenant_id account).Only AsideOp :=
  .bind .lift fun _ => .bind (ask_aside rfl rfl) fun _ => .lift

theorem normalized_user_assignment_address_only {address : String}
    {configs : Option (List CustodyAccountChainConfigRequest)} :
    (normalized_user_assignment_address to_lowercase address configs).Only AsideOp := by
  cases configs with
  | none => exact .done
  | some configs =>
    exact .bind .lift fun _ => .bind chain_types_for_configs_only fun _ => .done

end CustodyCall

/-! ### The transactions -/

/-- A pure check in the middle of a transaction. -/
theorem check_does {x : AppResult α} {f : α → CustodyCall β}
    {P : Prog.Assn (Interference (custody_facts lower) w) fun _ => True}
    {Q : β → Prog.Assn (Interference (custody_facts lower) w) fun _ => True}
    (h : ∀ a, x = .ok a → CustodyDoes lower w P (f a) Q (custody_anything lower w)) :
    CustodyDoes lower w P ((Prog.lift x).bind f) Q (custody_anything lower w) :=
  .bind_lift h fun _ _ _ _ => trivial

/-- A part that changes no account and no assignment. -/
theorem quiet_then {p : CustodyCall α} {f : α → CustodyCall β}
    {K : List CustodyChange → List CustodyFact → Prop}
    {Q : β → Prog.Assn (Interference (custody_facts lower) w) fun _ => True}
    (hp : p.Only QuietOp)
    (h : ∀ a, CustodyDoes lower w (custody_knows_some lower w K) (f a) Q
      (custody_anything lower w)) :
    CustodyDoes lower w (custody_knows_some lower w K) (p.bind f) Q (custody_anything lower w) :=
  .bind (Interference.refl w) (quiet_does_some hp) h

theorem quiet_before {p : CustodyCall α} {f : α → CustodyCall β}
    {Q : β → Prog.Assn (Interference (custody_facts lower) w) fun _ => True}
    (hp : p.Only QuietOp)
    (h : ∀ a, CustodyDoes lower w (custody_knows lower w [] []) (f a) Q
      (custody_anything lower w)) :
    CustodyDoes lower w (custody_knows lower w [] []) (p.bind f) Q (custody_anything lower w) :=
  .bind (Interference.refl w) ((quiet_does hp).consequence (fun _ hs => hs) (fun _ _ hs => hs)
    fun _ _ _ => trivial) h

/-- The row is there, and it is locked. -/
theorem found_does {found : Option CustodyAccountRow} {error : AppError}
    {f : CustodyAccountRow → CustodyCall β}
    {Q : β → Prog.Assn (Interference (custody_facts lower) w) fun _ => True}
    (h : ∀ row, CustodyDoes lower w (account_found lower w tenant_id (some row)) (f row) Q
      (custody_anything lower w)) :
    CustodyDoes lower w (account_found lower w tenant_id found)
      ((Prog.lift (required found error)).bind f) Q (custody_anything lower w) := by
  refine check_does fun row hrow => ?_
  rw [required_ok.mp hrow]
  exact h row

theorem existing_does {account : CustodyAccountRow} :
    CustodyDoes lower w (account_found lower w tenant_id (some account))
      ((CustodyCall.validate_assignable_custody_account tenant_id account).bind fun _ =>
        .done account) (fun row => account_found lower w tenant_id (some row))
      (custody_anything lower w) :=
  quiet_then (CustodyCall.quiet_of_aside CustodyCall.validate_assignable_custody_account_only)
    fun _ => .done fun _ hs => hs

theorem inserted_or_existing_does {normalized : String}
    {configs : List CustodyAccountChainConfigRequest} {inserted : Option CustodyAccountRow} :
    CustodyDoes lower w (account_found lower w tenant_id inserted)
      (CustodyCall.inserted_or_existing tenant_id normalized configs inserted)
      (fun row => account_found lower w tenant_id (some row)) (custody_anything lower w) := by
  cases inserted with
  | some row =>
    exact quiet_then
      (CustodyCall.quiet_of_aside CustodyCall.validate_and_insert_custody_chain_configs_only) fun _ =>
      .done fun _ hs => hs
  | none =>
    refine .bind (Interference.refl w) select_user_account_does fun found => ?_
    refine found_does fun row => ?_
    refine quiet_then (CustodyCall.quiet_of_aside CustodyCall.validate_assignable_custody_account_only)
      fun _ => ?_
    exact check_does fun _ _ => .done fun _ hs => hs

theorem existing_or_created_does {address : String}
    {chain_configs : Option (List CustodyAccountChainConfigRequest)}
    {existing : Option CustodyAccountRow} :
    CustodyDoes lower w (account_found lower w tenant_id existing)
      (CustodyCall.existing_or_created to_lowercase tenant_id address chain_configs existing)
      (fun row => account_found lower w tenant_id (some row)) (custody_anything lower w) := by
  cases existing with
  | some row => exact existing_does
  | none =>
    refine check_does fun configs _ => ?_
    refine quiet_before (CustodyCall.quiet_of_aside CustodyCall.normalized_user_assignment_address_only)
      fun normalized => ?_
    exact .bind (Interference.refl w) insert_user_account_does fun _ => inserted_or_existing_does

theorem claim_or_create_account_for_assignment_does {source : CustodySource}
    {address : Option String} {chain_configs : Option (List CustodyAccountChainConfigRequest)} :
    CustodyDoes lower w (custody_knows lower w [] [])
      (CustodyCall.claim_or_create_account_for_assignment to_lowercase tenant_id source address
        chain_configs) (fun row => account_found lower w tenant_id (some row))
      (custody_anything lower w) := by
  unfold CustodyCall.claim_or_create_account_for_assignment
  split
  · refine .bind (Interference.refl w) claim_available_pool_account_does fun found => ?_
    refine .lift (fun row hrow s hs => ?_) fun _ _ _ _ => trivial
    rw [required_ok.mp hrow] at hs
    exact hs
  · refine check_does fun address _ => ?_
    exact .bind (Interference.refl w) select_user_account_by_address_does fun _ =>
      existing_or_created_does

theorem insert_custody_assignment_transaction {source : CustodySource}
    {applicant_type : CustodyApplicantType} {business_ref : String} {address purpose : Option String}
    {chain_configs : Option (List CustodyAccountChainConfigRequest)} :
    CustodyDoes lower w (custody_knows lower w [] [])
      (CustodyCall.insert_custody_assignment to_lowercase tenant_id source applicant_type business_ref
        address purpose chain_configs)
      (fun assigned => custody_knows_some lower w (Marked tenant_id assigned.account_id))
      (custody_anything lower w) := by
  refine .bind (Interference.refl w) claim_or_create_account_for_assignment_does fun account => ?_
  refine quiet_then (CustodyCall.quiet_of_aside CustodyCall.configs_for_account_in_transaction_only)
    fun configs => ?_
  refine quiet_then CustodyCall.ensure_watched_addresses_for_custody_account_only fun watched => ?_
  refine check_does fun legacy_watched_address_id _ => ?_
  refine .bind (Interference.refl w) insert_custody_assignment_does fun assignment_id => ?_
  refine check_does fun id hid => ?_
  rw [required_ok.mp hid]
  exact .bind (Interference.refl w) mark_custody_account_assigned_does fun _ => .done fun _ hs => hs

theorem insert_custody_account_transaction {request : CreateCustodyAccountRequest}
    {source : CustodySource} {status : CustodyAccountStatus} :
    CustodyDoes lower w (custody_knows lower w [] [])
      (CustodyCall.insert_custody_account to_lowercase tenant_id request source status)
      (fun created => custody_knows_some lower w (Claimed tenant_id created.1))
      (custody_anything lower w) := by
  refine quiet_before (CustodyCall.quiet_of_aside CustodyCall.chain_types_for_configs_only)
    fun chain_types => ?_
  refine quiet_before (.forEach fun _ _ => .bind (CustodyCall.ask_only rfl) fun _ =>
    .bind .lift fun _ => .done) fun _ => ?_
  refine check_does fun legacy_chain_id _ => ?_
  refine .bind (Interference.refl w) insert_custody_account_does fun row => ?_
  exact quiet_then
    (CustodyCall.quiet_of_aside CustodyCall.validate_and_insert_custody_chain_configs_only) fun _ =>
    .done fun _ hs => hs

theorem release_assignment_transaction {id : Uuid} :
    CustodyDoes lower w (custody_knows lower w [] [])
      (CustodyCall.release_assignment tenant_id id)
      (fun _ => { holds := fun s => ∃ account_id,
                    (custody_knows_some lower w (Freed tenant_id account_id)).holds s
                  stable := fun ⟨account_id, h⟩ hst => ⟨account_id, Prog.Assn.stable _ h hst⟩
                  good := fun _ => trivial }) (custody_anything lower w) := by
  refine .bind (Interference.refl w) release_custody_assignment_does fun released => ?_
  refine check_does fun account_id haccount => ?_
  rw [required_ok.mp haccount]
  exact mark_released_pool_account_available_does.consequence (fun _ hs => hs)
    (fun _ _ hs => ⟨account_id, hs⟩) fun _ _ hs => hs

/-! ### Calls -/

theorem create_does {request : CreateCustodyAccountRequest} (w : W) :
    CustodyDoes lower w (custody_knows lower w [] [])
      (CustodyCall.create_custody_account to_lowercase tenant_id request)
      (fun _ => custody_knows lower w [] []) (custody_knows lower w [] []) := by
  refine .bind_lift (fun source _ => ?_) fun _ _ _ hs => hs
  refine .bind_lift (fun _ _ => ?_) fun _ _ _ hs => hs
  refine .bind_lift (fun status _ => ?_) fun _ _ _ hs => hs
  refine .bind (Interference.refl w) (transaction_does insert_custody_account_transaction
    fun _ s hs hsound => commit_claimed hsound hs) fun created => ?_
  refine .bind (Interference.refl w) (quiet_does CustodyCall.list_custody_accounts_only)
    fun accounts => ?_
  exact .lift (fun _ _ _ hs => hs) fun _ _ _ hs => hs

theorem assign_does {request : AssignCustodyAccountRequest} (w : W) :
    CustodyDoes lower w (custody_knows lower w [] [])
      (CustodyCall.assign_custody_account to_lowercase tenant_id request)
      (fun _ => custody_knows lower w [] []) (custody_knows lower w [] []) := by
  refine .bind_lift (fun source _ => ?_) fun _ _ _ hs => hs
  refine .bind_lift (fun applicant_type _ => ?_) fun _ _ _ hs => hs
  refine .bind_lift (fun _ _ => ?_) fun _ _ _ hs => hs
  refine .bind (Interference.refl w) (transaction_does insert_custody_assignment_transaction
    fun _ s hs hsound => commit_marked hsound hs) fun assigned => ?_
  refine .bind (Interference.refl w) (quiet_does CustodyCall.list_custody_accounts_only)
    fun accounts => ?_
  refine .bind_lift (fun account _ => ?_) fun _ _ _ hs => hs
  refine .bind (Interference.refl w) (quiet_does CustodyCall.list_custody_assignments_only)
    fun assignments => ?_
  refine .bind_lift (fun assignment _ => ?_) fun _ _ _ hs => hs
  exact .done fun _ hs => hs

theorem release_does {id : Uuid} (w : W) :
    CustodyDoes lower w (custody_knows lower w [] [])
      (CustodyCall.release_custody_assignment tenant_id id)
      (fun _ => custody_knows lower w [] []) (custody_knows lower w [] []) := by
  refine transaction_does release_assignment_transaction fun _ s hs hsound => ?_
  obtain ⟨account_id, hs⟩ := hs
  exact commit_freed hsound hs

/-- Between its transactions a client knows nothing. -/
theorem request_does {p : CustodyCall Unit} (hp : CustodyRequest to_lowercase p) (w : W) :
    CustodyDoes lower w (custody_knows lower w [] []) p (fun _ => custody_knows lower w [] [])
      (custody_knows lower w [] []) := by
  cases hp with
  | create => exact .bind (Interference.refl w) (create_does w) fun _ => .done fun _ hs => hs
  | assign => exact .bind (Interference.refl w) (assign_does w) fun _ => .done fun _ hs => hs
  | release => exact release_does w
  | list_accounts =>
    exact .bind (Interference.refl w) (quiet_does CustodyCall.list_custody_accounts_only)
      fun _ => .done fun _ hs => hs
  | list_assignments =>
    exact .bind (Interference.refl w) (quiet_does CustodyCall.list_custody_assignments_only)
      fun _ => .done fun _ hs => hs

/-! ### Runs -/

/-- A step of one client, or of another part of the system. -/
abbrev CustodyStep (lower to_lowercase : String → String) :
    CustodyWorld W × (W → CustodyCall Unit) → CustodyWorld W × (W → CustodyCall Unit) → Prop :=
  Prog.Crew (Carried (custody_schema lower) AppError.Database) (Edited CustodyEdit)
    (Launch (CustodyRequest to_lowercase))

theorem custody_rules : Prog.Crew.Rules (Carried (W := W) (custody_schema lower) AppError.Database)
    (Edited CustodyEdit) (Launch (CustodyRequest to_lowercase))
    (Sound (custody_schema lower) CustodyOrder)
    (MayCommit (custody_schema lower) CustodyOrder CustodyKept)
    (Interference (custody_facts lower)) fun _ _ _ => True :=
  rules (fun h _ => h.sound.perform) (fun h => h.start _) (fun h => h.abandon)
    (fun h hedited => h.edited hedited) fun _ hp w => request_does hp w

/-- No account yet, and no client at work. -/
structure CustodyStart (s : CustodyWorld W) (ps : W → CustodyCall Unit) : Prop where
  accounts : s.tables.custody_accounts = []
  assignments : s.tables.custody_account_assignments = []
  owner : ∀ key, s.owner key = none
  log : ∀ w, s.log w = []
  idle : ∀ w, ps w = .done ()

/-- The clients and what they know. -/
abbrev CustodyGood (lower : String → String) (s : CustodyWorld W) (ps : W → CustodyCall Unit) :
    Prop :=
  Prog.Crew.Good (Carried (custody_schema lower) AppError.Database)
    (Sound (custody_schema lower) CustodyOrder)
    (MayCommit (custody_schema lower) CustodyOrder CustodyKept)
    (Interference (custody_facts lower)) (fun _ _ _ => True) s ps

section Run
variable {ps qs rs : W → CustodyCall Unit}

theorem CustodyStart.good (h : CustodyStart s ps) : CustodyGood lower s ps := by
  refine ⟨⟨fun w c hc => ?_, ?_, ⟨fun row hrow => ?_, fun a ha => ?_⟩, fun w c hc => ?_⟩, fun w => ?_⟩
  · exact absurd (h.log w ▸ hc) List.not_mem_nil
  · rw [h.accounts, h.assignments]
    exact .empty
  · exact absurd (h.accounts ▸ hrow) List.not_mem_nil
  · exact absurd (h.assignments ▸ ha) List.not_mem_nil
  · exact absurd (h.log w ▸ hc) List.not_mem_nil
  · rw [h.idle w]
    exact fun _ _ => ⟨trivial, trivial⟩

/-- The accounts and the assignments are in order in every state of a run. -/
theorem CustodyGood.order (h : CustodyGood lower s ps)
    (hrun : Relation.ReflTransGen (CustodyStep lower to_lowercase) (s, ps) (t, qs)) :
    Custodial t.tables.custody_accounts t.tables.custody_account_assignments :=
  (h.run custody_rules hrun).inv.sound.custodial

/-- No use of an account is forgotten between two states of a run. -/
theorem CustodyGood.kept (h : CustodyGood lower s ps)
    (hrun : Relation.ReflTransGen (CustodyStep lower to_lowercase) (s, ps) (t, qs)) :
    CustodyKept s.tables t.tables :=
  Transaction.kept custody_rules CustodyKept.refl CustodyKept.trans CustodyEdit.kept h hrun

end Run

/-! ### One business reference for an account at a time -/

namespace CustodyTables
variable (tables : CustodyTables)

/-- The active assignments of an account. -/
def active_assignments (account_id : Uuid) : List CustodyAssignmentRow :=
  tables.custody_account_assignments.filter fun a =>
    a.custody_account_id = account_id ∧ a.status = .active

end CustodyTables

theorem length_le_one_of_ids {rows : List CustodyAssignmentRow} (hids : (rows.map (·.id)).Nodup)
    (h : ∀ a ∈ rows, ∀ b ∈ rows, a.id = b.id) : rows.length ≤ 1 := by
  match rows with
  | [] => exact Nat.zero_le 1
  | [_] => exact Nat.le_refl 1
  | a :: b :: rest =>
    have hne : a.id ≠ b.id := by
      intro heq
      exact (List.nodup_cons.mp hids).1 (List.mem_cons.mpr (.inl heq))
    exact absurd (h a (List.mem_cons_self ..) b (List.mem_cons_of_mem _ (List.mem_cons_self ..))) hne

theorem Custodial.active_le_one {tables : CustodyTables}
    (h : Custodial tables.custody_accounts tables.custody_account_assignments) (account_id : Uuid) :
    (tables.active_assignments account_id).length ≤ 1 := by
  refine length_le_one_of_ids (h.assignment_ids.sublist (List.filter_sublist.map _))
    fun a ha b hb => ?_
  obtain ⟨ha, hkeep⟩ := List.mem_filter.mp ha
  obtain ⟨hb, hbkeep⟩ := List.mem_filter.mp hb
  obtain ⟨haccount, hactive⟩ := of_decide_eq_true hkeep
  obtain ⟨hbaccount, hbactive⟩ := of_decide_eq_true hbkeep
  exact h.one_active a ha b hb (haccount.trans hbaccount.symm) hactive hbactive

theorem Custodial.active_account {tables : CustodyTables}
    (h : Custodial tables.custody_accounts tables.custody_account_assignments)
    {row : CustodyAccountRow} (hrow : row ∈ tables.custody_accounts)
    (hactive : tables.active_assignments row.id ≠ []) : row.status = .assigned := by
  obtain ⟨a, ha⟩ := List.exists_mem_of_ne_nil _ hactive
  obtain ⟨ha, hkeep⟩ := List.mem_filter.mp ha
  obtain ⟨haccount, hactive⟩ := of_decide_eq_true hkeep
  obtain ⟨other, hother, hid, _, hassigned⟩ := h.placed a ha
  have heq : other = row := List.inj_on_of_nodup_map h.account_ids hother hrow (hid.trans haccount)
  exact heq ▸ hassigned hactive

/-! ### A client that is alone -/

/-- A chain with one asset, and no account. -/
def bitcoin_tables : CustodyTables :=
  { chains := [{ id := 1, key := "btc", chain_type := "utxo", default_confirmations := 1 }]
    assets := [{ id := 2, chain_id := 1, asset_type := "native", symbol := "BTC", name := "Bitcoin",
                 contract_address := none, decimals := 8, status := "active" }]
    watched_addresses := []
    watched_address_assets := []
    custody_accounts := []
    custody_account_chain_configs := []
    custody_account_chain_config_assets := []
    custody_account_assignments := [] }

/-- Tables that no client is at work on. -/
def quiet_world (tables : CustodyTables) (next_id : Uuid) : CustodyWorld Unit :=
  { tables := tables
    next_id := next_id
    owner := fun _ => none
    log := fun _ => []
    started := fun _ => 0 }

def no_client : Unit → CustodyCall Unit :=
  fun _ => .done ()

theorem bitcoin_start : CustodyStart (quiet_world bitcoin_tables 10) no_client :=
  ⟨rfl, rfl, fun _ => rfl, fun _ => rfl, fun _ => rfl⟩

def pool_account_request (address : String) (status : Option String) : CreateCustodyAccountRequest :=
  { chain_id := 1
    address := address
    label := none
    source := "pool"
    status := status
    chain_configs := [{ chain_id := 1, asset_ids := [2] }] }

def pool_assignment_request (business_ref : String) : AssignCustodyAccountRequest :=
  { source := "pool"
    address := none
    applicant_type := "api"
    business_ref := business_ref
    purpose := none
    chain_configs := none }

def create_pool_account (address : String) (status : Option String) : CustodyCall Unit :=
  (CustodyCall.create_custody_account id 7 (pool_account_request address status)).bind fun _ =>
    .done ()

def assign_pool_account (business_ref : String) : CustodyCall Unit :=
  (CustodyCall.assign_custody_account id 7 (pool_assignment_request business_ref)).bind fun _ =>
    .done ()

/-- One call after another. -/
def alone_calls (s : CustodyWorld Unit) : List (CustodyCall Unit) → CustodyWorld Unit
  | [] => s
  | p :: calls =>
    alone_calls (Prog.eval (World.alone (custody_schema id) ()) p (s.abandon ())).2 calls

/-- No call waits for a lock. -/
def calls_unblocked (s : CustodyWorld Unit) : List (CustodyCall Unit) → Bool
  | [] => true
  | p :: calls =>
    Prog.along (World.alone (custody_schema id) ()) (World.unblocked (custody_schema id) ()) p
      (s.abandon ()) &&
    calls_unblocked (Prog.eval (World.alone (custody_schema id) ()) p (s.abandon ())).2 calls

theorem alone_calls_run {calls : List (CustodyCall Unit)}
    (hcalls : ∀ p ∈ calls, CustodyRequest id p) (s : CustodyWorld Unit)
    (ps : Unit → CustodyCall Unit) (hfree : calls_unblocked s calls = true) :
    ∃ qs, Relation.ReflTransGen (CustodyStep id id) (s, ps) (alone_calls s calls, qs) := by
  induction calls generalizing s ps with
  | nil => exact ⟨ps, .refl⟩
  | cons p calls ih =>
    rw [calls_unblocked, Bool.and_eq_true] at hfree
    obtain ⟨qs, hfirst⟩ := alone_run
      (hcalls p (List.mem_cons_self ..)) s ps hfree.1
    obtain ⟨rs, hrest⟩ := ih (fun q hq => hcalls q (List.mem_cons_of_mem _ hq)) _ qs hfree.2
    exact ⟨rs, hfirst.trans hrest⟩

/-! ### The accounts in every run -/

/-- In every state `u` of a run, and in every later state `t`: an account has one active assignment
at most, a business reference belongs to one assignment for good, and the status of an account
agrees with its assignments. -/
theorem custody_accounts_exclusive {ps qs rs : W → CustodyCall Unit} (hstart : CustodyStart s ps)
    (hrun : Relation.ReflTransGen (CustodyStep lower to_lowercase) (s, ps) (u, qs))
    (hlater : Relation.ReflTransGen (CustodyStep lower to_lowercase) (u, qs) (t, rs)) :
    (∀ account_id, (t.tables.active_assignments account_id).length ≤ 1) ∧
      (∀ a ∈ u.tables.custody_account_assignments, ∀ b ∈ t.tables.custody_account_assignments,
        a.tenant_id = b.tenant_id → a.business_ref = b.business_ref → SameUse a b) ∧
      (∀ row ∈ t.tables.custody_accounts, row.status = .available → row.source = .pool →
        t.tables.active_assignments row.id = []) ∧
      (∀ row ∈ t.tables.custody_accounts, t.tables.active_assignments row.id ≠ [] →
        row.status = .assigned) ∧
      ∀ a ∈ t.tables.custody_account_assignments, ∀ b ∈ t.tables.custody_account_assignments,
        a.status = .active → b.status = .active → a.custody_account_id = b.custody_account_id →
          a.business_ref = b.business_ref := by
  have hgood : CustodyGood lower u qs := hstart.good.run custody_rules hrun
  have horder := hgood.order hlater
  refine ⟨horder.active_le_one, fun a ha b hb htenant href => ?_, fun row hrow havailable _ => ?_,
    fun row hrow => horder.active_account hrow, fun a ha b hb hactive hbactive haccount => ?_⟩
  · obtain ⟨c, hc, huse⟩ := hgood.kept hlater a ha
    have hid := horder.one_use c hc b hb (huse.tenant_id.trans htenant) (huse.business_ref.trans href)
    have heq : c = b := List.inj_on_of_nodup_map horder.assignment_ids hc hb hid
    exact heq ▸ huse
  · by_contra hactive
    exact nomatch havailable.symm.trans (horder.active_account hrow hactive)
  · have hid := horder.one_active a ha b hb haccount hactive hbactive
    have heq : a = b := List.inj_on_of_nodup_map horder.assignment_ids ha hb hid
    exact congrArg (·.business_ref) heq

theorem custody_accounts_exclusive_assigned :
    ∃ t : CustodyWorld Unit, t.tables.custody_account_assignments.length = 1 ∧
      ∀ account_id, (t.tables.active_assignments account_id).length ≤ 1 := by
  have hcalls : ∀ p ∈ [create_pool_account "1" none, assign_pool_account "r"],
      CustodyRequest id p := by
    intro p hp
    simp only [List.mem_cons, List.not_mem_nil, or_false] at hp
    rcases hp with rfl | rfl
    · exact .create 7 _
    · exact .assign 7 _
  obtain ⟨qs, hrun⟩ := alone_calls_run hcalls (quiet_world bitcoin_tables 10) no_client
    (by decide +kernel)
  exact ⟨_, by decide +kernel, (custody_accounts_exclusive bitcoin_start hrun .refl).1⟩

end CoinListener.Storage
