import CoinListener.Storage.CustodyRuns

/-! The addresses of custody accounts are stored without surrounding whitespace. -/
namespace CoinListener.Storage
open Foundation Transaction

def TrimmedAccount (row : CustodyAccountRow) : Prop :=
  Text.trim row.address = row.address

def CustodyTables.Trimmed (t : CustodyTables) : Prop :=
  ∀ row ∈ t.custody_accounts, TrimmedAccount row

def CustodyChange.Trimmed : CustodyChange → Prop
  | .account row => TrimmedAccount row
  | _ => True

/-- Accounts are inserted with trimmed addresses. -/
def CustodyStatement.Trimmed : CustodyStatement → Prop
  | .insert_custody_account _ _ address _ _ _ _ => Text.trim address = address
  | .insert_user_custody_account_for_assignment _ _ address _ => Text.trim address = address
  | _ => True

def TrimmedOp : Op CustodyStatement → Prop
  | .ask statement => statement.Trimmed
  | _ => True

/-- Within a transaction. -/
def TrimmedAsk (op : Op CustodyStatement) : Prop :=
  ∃ statement, op = .ask statement ∧ statement.Trimmed

theorem TrimmedAsk.trimmed {op : Op CustodyStatement} (h : TrimmedAsk op) : TrimmedOp op := by
  obtain ⟨statement, rfl, hstatement⟩ := h
  exact hstatement

section Steps
variable {t u : CustodyTables} {now : Timestamp} {next_id : Uuid} {lower : String → String}
  {skipped : CustodyKey → Bool} {statement : CustodyStatement} {c : CustodyChange}

theorem CustodyChange.trimmed_of_quiet (hc : c.custodial = false) : c.Trimmed := by
  cases c with
  | account => cases hc
  | _ => trivial

theorem CustodyTables.Trimmed.replay {log : List CustodyChange} (h : t.Trimmed)
    (hlog : ∀ c ∈ log, c.Trimmed) : (CustodyChange.replay log t).Trimmed := by
  induction log generalizing t with
  | nil => exact h
  | cons c log ih =>
    have hc := hlog c (List.mem_cons_self ..)
    refine ih ?_ fun d hd => hlog d (List.mem_cons_of_mem _ hd)
    cases c with
    | account row =>
      intro r hr
      rcases Table.mem_put.mp hr with rfl | ⟨hr, _⟩
      · exact hc
      · exact h r hr
    | assignment => exact h
    | chain_config => exact h
    | chain_config_asset => exact h
    | watched_address => exact h
    | watched_address_asset => exact h
    | no_watched_address_asset => exact h

theorem effect_trimmed (h : t.Trimmed) (hstatement : statement.Trimmed)
    (hc : c ∈ (t.effect now next_id lower skipped statement).log) : c.Trimmed := by
  by_cases hquiet : statement.quiet = true
  · exact CustodyChange.trimmed_of_quiet (effect_quiet hquiet hc)
  cases statement with
  | insert_custody_account =>
    simp only [CustodyTables.effect, CustodyTables.insert_custody_account] at hc
    split at hc
    · exact absurd hc List.not_mem_nil
    · obtain rfl := List.mem_singleton.mp hc
      exact hstatement
  | insert_user_custody_account_for_assignment =>
    simp only [CustodyTables.effect, CustodyTables.insert_user_custody_account_for_assignment] at hc
    split at hc
    · exact absurd hc List.not_mem_nil
    · obtain rfl := List.mem_singleton.mp hc
      exact hstatement
  | insert_custody_assignment =>
    simp only [CustodyTables.effect, CustodyTables.insert_custody_assignment] at hc
    split at hc
    · exact absurd hc List.not_mem_nil
    · obtain rfl := List.mem_singleton.mp hc
      trivial
  | mark_custody_account_assigned id watched_address_id tenant_id =>
    obtain ⟨row, hrow, rfl⟩ := List.mem_map.mp hc
    exact h row (find_account_mem (Option.mem_toList.mp hrow)).1
  | release_custody_assignment id tenant_id =>
    obtain ⟨row, _, rfl⟩ := List.mem_map.mp hc
    trivial
  | mark_released_pool_account_available id tenant_id =>
    obtain ⟨row, hrow, rfl⟩ := List.mem_map.mp hc
    exact h row (find_account_mem (Option.mem_toList.mp hrow)).1
  | _ => exact absurd rfl hquiet

theorem CustodyTables.Trimmed.edited (h : t.Trimmed) (hedit : CustodyEdit t u) : u.Trimmed := by
  intro row hrow
  obtain ⟨old, hold, hsame⟩ := hedit.symm.account hrow
  have haddress : old.address = row.address := congrArg (·.address) hsame
  have hrow_trimmed := h old hold
  rwa [TrimmedAccount, haddress] at hrow_trimmed

end Steps

/-! ### Calls -/

namespace CustodyCall
variable {tenant_id : Uuid} {to_lowercase : String → String} {α : Type} {p : CustodyCall α}

theorem quiet_trimmed (hp : p.Only QuietOp) : p.Only TrimmedAsk := by
  refine hp.mono fun op hop => ?_
  obtain ⟨statement, rfl, hquiet⟩ := hop
  refine ⟨statement, rfl, ?_⟩
  cases statement with
  | insert_custody_account => cases hquiet
  | insert_user_custody_account_for_assignment => cases hquiet
  | _ => trivial

theorem ask_trimmed {statement : CustodyStatement} (h : statement.Trimmed) :
    (ask statement).Only TrimmedAsk :=
  .perform ⟨statement, rfl, h⟩

theorem transaction_trimmed (hp : p.Only TrimmedAsk) : (transaction p).Only TrimmedOp := by
  have hbody : p.Only TrimmedOp := hp.mono fun _ => TrimmedAsk.trimmed
  refine .bind (.perform (by trivial)) fun _ => .bind (.attempt hbody) fun result => ?_
  cases result with
  | ok a => exact .bind (.perform (by trivial)) fun _ => .done
  | error e => exact .bind (.attempt (.perform (by trivial))) fun _ => .fail

theorem validate_assignable_trimmed {account : CustodyAccountRow} :
    (validate_assignable_custody_account tenant_id account).Only TrimmedAsk :=
  .bind .lift fun _ => .bind (ask_trimmed trivial) fun _ => .lift

theorem create_account_trimmed {address : String}
    {configs : List CustodyAccountChainConfigRequest} (haddress : Text.trim address = address) :
    (create_account_for_assignment to_lowercase tenant_id address configs).Only TrimmedAsk := by
  refine .bind (.bind .lift fun _ => ?_) fun normalized => ?_
  · exact .bind (quiet_trimmed (quiet_of_aside chain_types_for_configs_only)) fun _ => .done
  refine .bind (ask_trimmed haddress) fun inserted => ?_
  cases inserted with
  | some row =>
    refine .bind (quiet_trimmed ?_) fun _ => .done
    exact quiet_of_aside validate_and_insert_custody_chain_configs_only
  | none =>
    refine .bind (ask_trimmed trivial) fun _ => .bind .lift fun _ => ?_
    exact .bind validate_assignable_trimmed fun _ => .bind .lift fun _ => .done

theorem existing_or_created_trimmed {address : String}
    {configs : Option (List CustodyAccountChainConfigRequest)}
    (haddress : Text.trim address = address) (existing : Option CustodyAccountRow) :
    (existing_or_created to_lowercase tenant_id address configs existing).Only TrimmedAsk := by
  cases existing with
  | some row => exact .bind validate_assignable_trimmed fun _ => .done
  | none => exact .bind .lift fun _ => create_account_trimmed haddress

theorem claim_trimmed {source : CustodySource} {address : Option String}
    {configs : Option (List CustodyAccountChainConfigRequest)}
    (haddress : ∀ text ∈ address, Text.trim text = text) :
    (claim_or_create_account_for_assignment to_lowercase tenant_id source address configs).Only
      TrimmedAsk := by
  unfold claim_or_create_account_for_assignment
  split
  · exact .bind (ask_trimmed trivial) fun _ => .lift
  · cases address with
    | none => exact .fail
    | some text =>
      change ((ask (.select_user_custody_account_by_address_for_update tenant_id text)).bind
        (existing_or_created to_lowercase tenant_id text configs)).Only TrimmedAsk
      exact .bind (quiet_trimmed (ask_only rfl)) (existing_or_created_trimmed (haddress text rfl))

theorem insert_assignment_trimmed {source : CustodySource} {applicant_type : CustodyApplicantType}
    {business_ref : String} {address purpose : Option String}
    {configs : Option (List CustodyAccountChainConfigRequest)}
    (haddress : ∀ text ∈ address, Text.trim text = text) :
    (insert_custody_assignment to_lowercase tenant_id source applicant_type business_ref address
      purpose configs).Only TrimmedAsk := by
  refine .bind (claim_trimmed haddress) fun account => ?_
  refine .bind (quiet_trimmed (quiet_of_aside configs_for_account_in_transaction_only)) fun rows => ?_
  refine .bind (quiet_trimmed ensure_watched_addresses_for_custody_account_only) fun watched => ?_
  refine .bind .lift fun _ => .bind (ask_trimmed trivial) fun _ => .bind .lift fun _ => ?_
  exact .bind (ask_trimmed trivial) fun _ => .done

/-- The address of a request, as it is looked up and inserted. -/
theorem requested_address_trimmed {address : Option String} :
    ∀ text ∈ (address.map Text.trim).filter (· != ""), Text.trim text = text := by
  intro text htext
  obtain ⟨hmap, _⟩ := Option.mem_filter_iff.mp htext
  obtain ⟨raw, _, rfl⟩ := Option.map_eq_some_iff.mp hmap
  exact Text.trim_trim raw

/-- The part of an assignment that is a transaction issues nothing but statements. -/
theorem assignment_asks {source : CustodySource} {applicant_type : CustodyApplicantType}
    {business_ref : String} {address purpose : Option String}
    {configs : Option (List CustodyAccountChainConfigRequest)} :
    (insert_custody_assignment to_lowercase tenant_id source applicant_type business_ref
      ((address.map Text.trim).filter (· != "")) purpose configs).Only
        fun op => ∃ statement, op = .ask statement :=
  (insert_assignment_trimmed requested_address_trimmed).mono
    fun _ ⟨statement, hop, _⟩ => ⟨statement, hop⟩

theorem request_trimmed {p : CustodyCall Unit} (hp : CustodyRequest to_lowercase p) :
    p.Only TrimmedOp := by
  have hquiet : ∀ {β : Type} {p : CustodyCall β}, p.Only QuietOp → p.Only TrimmedOp :=
    fun hp => (quiet_trimmed hp).mono fun _ => TrimmedAsk.trimmed
  cases hp with
  | create tenant_id request =>
    refine .bind (.bind .lift fun source => .bind .lift fun _ => .bind .lift fun status => ?_)
      fun _ => .done
    refine .bind (transaction_trimmed ?_) fun created => ?_
    · refine .bind (quiet_trimmed (quiet_of_aside chain_types_for_configs_only)) fun _ => ?_
      refine .bind (.forEach fun _ _ => .bind (ask_trimmed trivial) fun _ => .bind .lift fun _ =>
        .done) fun _ => ?_
      refine .bind .lift fun _ => .bind (ask_trimmed (Text.trim_trim request.address)) fun row => ?_
      refine .bind (quiet_trimmed ?_) fun _ => .done
      exact quiet_of_aside validate_and_insert_custody_chain_configs_only
    · exact .bind (hquiet list_custody_accounts_only) fun _ => .lift
  | assign tenant_id request =>
    refine .bind (.bind .lift fun source => .bind .lift fun applicant_type => .bind .lift fun _ => ?_)
      fun _ => .done
    refine .bind (transaction_trimmed (insert_assignment_trimmed requested_address_trimmed))
      fun assigned => ?_
    refine .bind (hquiet list_custody_accounts_only) fun _ => .bind .lift fun _ => ?_
    exact .bind (hquiet list_custody_assignments_only) fun _ => .bind .lift fun _ => .done
  | release tenant_id id =>
    refine transaction_trimmed (.bind (ask_trimmed trivial) fun _ => .bind .lift fun _ => ?_)
    exact ask_trimmed trivial
  | list_accounts =>
    exact .bind (hquiet list_custody_accounts_only) fun _ => .done
  | list_assignments =>
    exact .bind (hquiet list_custody_assignments_only) fun _ => .done

end CustodyCall

/-! ### Runs -/

section Run
variable {W : Type} [DecidableEq W] {lower to_lowercase : String → String} {s t : CustodyWorld W}
  {w : W}

/-- The accounts are trimmed, also those still to be committed. -/
structure TrimmedWorld (s : CustodyWorld W) : Prop where
  tables : s.tables.Trimmed
  log : ∀ w, ∀ c ∈ s.log w, c.Trimmed

theorem TrimmedWorld.abandon (h : TrimmedWorld s) : TrimmedWorld (s.abandon w) := by
  refine ⟨h.tables, fun v c hc => ?_⟩
  by_cases hv : v = w
  · subst v
    have hlog : (s.abandon w).log w = [] := Function.update_self ..
    rw [hlog] at hc
    exact absurd hc List.not_mem_nil
  · have hlog : (s.abandon w).log v = s.log v := Function.update_of_ne hv ..
    rw [hlog] at hc
    exact h.log v c hc

theorem TrimmedWorld.commit (h : TrimmedWorld s) :
    TrimmedWorld (s.commit (custody_schema lower) w) :=
  ⟨h.tables.replay (h.log w), h.abandon.log⟩

theorem TrimmedWorld.perform (h : TrimmedWorld s) {statement : CustodyStatement}
    (hstatement : statement.Trimmed) :
    TrimmedWorld (s.perform w (s.effect (custody_schema lower) w statement)) := by
  refine ⟨h.tables, fun v c hc => ?_⟩
  by_cases hv : v = w
  · subst v
    have hlog : (s.perform w (s.effect (custody_schema lower) w statement)).log w =
        s.log w ++ (s.effect (custody_schema lower) w statement).log := Function.update_self ..
    rw [hlog] at hc
    rcases List.mem_append.mp hc with hold | hnew
    · exact h.log w c hold
    · exact effect_trimmed (h.tables.replay (h.log w)) hstatement hnew
  · have hlog : (s.perform w (s.effect (custody_schema lower) w statement)).log v = s.log v :=
      Function.update_of_ne hv ..
    rw [hlog] at hc
    exact h.log v c hc

theorem carried_trimmed (h : TrimmedWorld s) {op : Op CustodyStatement}
    {r : AppResult (op.Answer CustodyStatement.Answer)} (hop : TrimmedOp op)
    (hcarried : Carried (custody_schema lower) AppError.Database w s op r t) : TrimmedWorld t := by
  cases hcarried with
  | begun => exact ⟨h.tables, h.log⟩
  | not_begun => exact h
  | answered => exact h.perform hop
  | refused => exact h
  | unacknowledged => exact h.perform hop
  | committed => exact h.commit
  | not_committed => exact h.abandon
  | commit_lost => exact h.commit
  | rolled_back => exact h.abandon

/-- The run lemma. -/
theorem trimmed_run {ps qs : W → CustodyCall Unit} (hstart : CustodyStart s ps)
    (hrun : Relation.ReflTransGen (CustodyStep lower to_lowercase) (s, ps) (t, qs)) :
    t.tables.Trimmed := by
  refine (Prog.Crew.only_run (S := TrimmedOp) (E := Edited CustodyEdit) (fun h hl => ?_)
    (fun h hop hcarried => carried_trimmed h hop hcarried) (fun h hedited => ?_)
    ⟨⟨fun row hrow => ?_, fun w c hc => ?_⟩, fun w => ?_⟩ hrun).1.tables
  · obtain ⟨rfl, hp⟩ := hl
    exact ⟨h.abandon, CustodyCall.request_trimmed hp⟩
  · obtain ⟨tables, hedit, rfl⟩ := hedited
    exact ⟨h.tables.edited hedit, h.log⟩
  · exact absurd (hstart.accounts ▸ hrow) List.not_mem_nil
  · exact absurd (hstart.log w ▸ hc) List.not_mem_nil
  · change (ps w).Only TrimmedOp
    rw [hstart.idle w]
    exact .done

end Run

end CoinListener.Storage
