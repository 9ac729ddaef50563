import CoinListener.Storage.CustodyFacts

/-! What each statement on custody accounts does to the knowledge of the transaction that issues it,
and what is known when it commits. -/
namespace CoinListener.Storage
open Foundation Transaction

set_option linter.unusedSectionVars false

abbrev CustodyWorld (W : Type) := World CustodyTables CustodyChange CustodyKey W

variable {W : Type} [DecidableEq W] {lower : String → String} {s t : CustodyWorld W} {w : W}
  {changes : List CustodyChange} {facts : List CustodyFact} {tenant_id account_id : Uuid}

/-! ### The invariant -/

/-- The committed rows are in order, and every identifier is one of those given out. -/
structure CustodyOrder (s : CustodyWorld W) : Prop where
  custodial : Custodial s.tables.custody_accounts s.tables.custody_account_assignments
  below : s.tables.Below s.next_id
  log : ∀ w, ∀ c ∈ s.log w, c.Below s.next_id

/-- Statements that leave the accounts and the assignments alone. -/
def CustodyStatement.quiet : CustodyStatement → Bool
  | .insert_custody_account .. => false
  | .insert_user_custody_account_for_assignment .. => false
  | .insert_custody_assignment .. => false
  | .mark_custody_account_assigned .. => false
  | .release_custody_assignment .. => false
  | .mark_released_pool_account_available .. => false
  | _ => true

/-- Statements that write watched addresses or what is watched of them. -/
def CustodyStatement.addressed : CustodyStatement → Bool
  | .ensure_watched_address_update .. => true
  | .insert_watched_address _ => true
  | .delete_watched_address_assets _ => true
  | .insert_watched_address_assets .. => true
  | _ => false

section Effects
variable {tables : CustodyTables} {now : Timestamp} {next_id : Uuid}
  {skipped : CustodyKey → Bool} {statement : CustodyStatement} {c : CustodyChange}

theorem effect_quiet (hquiet : statement.quiet = true)
    (hc : c ∈ (tables.effect now next_id lower skipped statement).log) : c.custodial = false := by
  cases statement with
  | insert_custody_account => exact nomatch hquiet
  | insert_user_custody_account_for_assignment => exact nomatch hquiet
  | insert_custody_assignment => exact nomatch hquiet
  | mark_custody_account_assigned => exact nomatch hquiet
  | release_custody_assignment => exact nomatch hquiet
  | mark_released_pool_account_available => exact nomatch hquiet
  | insert_custody_account_chain_config tenant_id custody_account_id chain_id =>
    simp only [CustodyTables.effect, CustodyTables.insert_custody_account_chain_config] at hc
    split at hc
    · exact List.mem_singleton.mp hc ▸ rfl
    · exact List.mem_singleton.mp hc ▸ rfl
  | insert_custody_account_chain_config_asset chain_config_id asset_id =>
    simp only [CustodyTables.effect, CustodyTables.insert_custody_account_chain_config_asset] at hc
    split at hc
    · exact absurd hc List.not_mem_nil
    · exact List.mem_singleton.mp hc ▸ rfl
  | ensure_watched_address_update id tenant_id =>
    obtain ⟨row, _, rfl⟩ := List.mem_map.mp hc
    rfl
  | insert_watched_address request =>
    simp only [CustodyTables.effect, CustodyTables.insert_watched_address] at hc
    split at hc
    · exact List.mem_singleton.mp hc ▸ rfl
    · exact absurd hc List.not_mem_nil
  | delete_watched_address_assets address_id =>
    obtain ⟨link, _, rfl⟩ := List.mem_map.mp hc
    rfl
  | insert_watched_address_assets address_id asset_ids =>
    obtain ⟨asset_id, _, rfl⟩ := List.mem_map.mp hc
    rfl
  | _ => exact absurd hc List.not_mem_nil

theorem find_account_mem {id : Uuid} {row : CustodyAccountRow}
    (h : tables.find_account id tenant_id = some row) :
    row ∈ tables.custody_accounts ∧ row.id = id ∧ row.tenant_id = tenant_id := by
  have hfound := List.find?_some h
  simp only [Bool.and_eq_true, beq_iff_eq] at hfound
  exact ⟨List.mem_of_find?_eq_some h, hfound⟩

theorem find_account_of_mem {row : CustodyAccountRow} (h : row ∈ tables.custody_accounts) :
    ∃ found, tables.find_account row.id row.tenant_id = some found := by
  refine Option.isSome_iff_exists.mp (List.find?_isSome.mpr ⟨row, h, ?_⟩)
  simp

/-- The account that is claimed is one of the tenant's. -/
theorem claimed_mem {row : CustodyAccountRow}
    (h : (tables.claim_available_pool_account skipped tenant_id).answer = .ok (some row)) :
    row ∈ tables.custody_accounts ∧ row.tenant_id = tenant_id := by
  have hmem := (List.mem_insertionSort _).mp (List.mem_of_find?_eq_some (Except.ok.inj h))
  obtain ⟨hview, hclaimable⟩ := List.mem_filter.mp hmem
  simp only [CustodyTables.claimable, Bool.and_eq_true, beq_iff_eq] at hclaimable
  exact ⟨hview, hclaimable.1.1⟩

theorem matched_mem {row : CustodyAccountRow} {address : String}
    (h : (tables.select_user_custody_account_by_address_for_update lower tenant_id address).answer =
      .ok (some row)) : row ∈ tables.custody_accounts ∧ row.tenant_id = tenant_id := by
  have hmem := (List.mem_insertionSort _).mp (List.mem_of_mem_head? (Except.ok.inj h))
  obtain ⟨hview, hmatches⟩ := List.mem_filter.mp hmem
  simp only [CustodyTables.user_account_matches, Bool.and_eq_true, beq_iff_eq] at hmatches
  exact ⟨hview, hmatches.1.1⟩

theorem selected_mem {row : CustodyAccountRow} {address_normalized : String}
    (h : (tables.select_user_custody_account_for_update tenant_id address_normalized).answer =
      .ok (some row)) : row ∈ tables.custody_accounts ∧ row.tenant_id = tenant_id := by
  have hfound := Except.ok.inj h
  have hmatches := List.find?_some hfound
  simp only [Bool.and_eq_true, beq_iff_eq] at hmatches
  exact ⟨List.mem_of_find?_eq_some hfound, hmatches.1⟩

theorem effect_below (h : tables.Below next_id)
    (hc : c ∈ (tables.effect now next_id lower skipped statement).log) :
    c.Below (next_id + (tables.effect now next_id lower skipped statement).new_ids) := by
  by_cases hquiet : statement.quiet = true
  · exact CustodyChange.below_of_quiet (effect_quiet hquiet hc)
  cases statement with
  | insert_custody_account =>
    simp only [CustodyTables.effect, CustodyTables.insert_custody_account] at hc ⊢
    split at hc
    · exact absurd hc List.not_mem_nil
    · rename_i hfree
      rw [if_neg hfree]
      obtain rfl := List.mem_singleton.mp hc
      exact Nat.lt_succ_self next_id
  | insert_user_custody_account_for_assignment =>
    simp only [CustodyTables.effect, CustodyTables.insert_user_custody_account_for_assignment]
      at hc ⊢
    split at hc
    · exact absurd hc List.not_mem_nil
    · rename_i hfree
      rw [if_neg hfree]
      obtain rfl := List.mem_singleton.mp hc
      exact Nat.lt_succ_self next_id
  | insert_custody_assignment =>
    simp only [CustodyTables.effect, CustodyTables.insert_custody_assignment] at hc ⊢
    split at hc
    · exact absurd hc List.not_mem_nil
    · rename_i hfree
      rw [if_neg hfree]
      obtain rfl := List.mem_singleton.mp hc
      exact Nat.lt_succ_self next_id
  | mark_custody_account_assigned id watched_address_id tenant_id =>
    obtain ⟨row, hrow, rfl⟩ := List.mem_map.mp hc
    exact h.accounts row (find_account_mem (Option.mem_toList.mp hrow)).1
  | release_custody_assignment id tenant_id =>
    obtain ⟨row, hrow, rfl⟩ := List.mem_map.mp hc
    exact h.assignments row (List.mem_of_find?_eq_some (Option.mem_toList.mp hrow))
  | mark_released_pool_account_available id tenant_id =>
    obtain ⟨row, hrow, rfl⟩ := List.mem_map.mp hc
    exact h.accounts row (find_account_mem (Option.mem_toList.mp hrow)).1
  | _ => exact absurd rfl hquiet

end Effects

namespace CustodyOrder

theorem perform {statement : CustodyStatement} (h : CustodyOrder s) :
    CustodyOrder (s.perform w (s.effect (custody_schema lower) w statement)) := by
  have hle : s.next_id ≤ (s.effect (custody_schema lower) w statement).next_id :=
    (custody_schema lower).next_id_le
  have hview : (s.view (custody_schema lower) w).Below s.next_id := h.below.replay (h.log w)
  refine ⟨h.custodial, h.below.mono hle, fun v c hc => ?_⟩
  by_cases hv : v = w
  · subst v
    have hlog : (s.perform w (s.effect (custody_schema lower) w statement)).log w =
        s.log w ++ (s.effect (custody_schema lower) w statement).log := Function.update_self ..
    rw [hlog] at hc
    rcases List.mem_append.mp hc with hold | hnew
    · exact (h.log w c hold).mono hle
    · exact effect_below hview hnew
  · have hlog : (s.perform w (s.effect (custody_schema lower) w statement)).log v = s.log v :=
      Function.update_of_ne hv ..
    rw [hlog] at hc
    exact (h.log v c hc).mono hle

theorem start (h : CustodyOrder s) (now : Timestamp) : CustodyOrder (s.start w now) :=
  ⟨h.custodial, h.below, h.log⟩

theorem abandon_log (h : CustodyOrder s) (v : W) : ∀ c ∈ (s.abandon w).log v, c.Below s.next_id := by
  intro c hc
  by_cases hv : v = w
  · subst v
    have hlog : (s.abandon w).log w = [] := Function.update_self ..
    rw [hlog] at hc
    exact absurd hc List.not_mem_nil
  · have hlog : (s.abandon w).log v = s.log v := Function.update_of_ne hv ..
    rw [hlog] at hc
    exact h.log v c hc

theorem abandon (h : CustodyOrder s) : CustodyOrder (s.abandon w) :=
  ⟨h.custodial, h.below, h.abandon_log⟩

theorem edited (h : CustodyOrder s) (hedited : Edited CustodyEdit s t) : CustodyOrder t := by
  obtain ⟨tables, hedit, rfl⟩ := hedited
  exact ⟨h.custodial.edited hedit, h.below.edited hedit, h.log⟩

end CustodyOrder

/-! ### What a transaction has done -/

/-- The account is locked or inserted. -/
inductive Claimed (tenant_id account_id : Uuid) : List CustodyChange → List CustodyFact → Prop where
  | locked : Claimed tenant_id account_id [] [.account account_id tenant_id]
  | inserted (row : CustodyAccountRow) (hid : row.id = account_id)
      (htenant : row.tenant_id = tenant_id) :
    Claimed tenant_id account_id [.account row] [.no_account account_id]

/-- And it has an assignment. -/
inductive Entered (tenant_id account_id : Uuid) : List CustodyChange → List CustodyFact → Prop where
  | entered {changes : List CustodyChange} {facts : List CustodyFact}
      (h : Claimed tenant_id account_id changes facts) (a : CustodyAssignmentRow)
      (htenant : a.tenant_id = tenant_id) (haccount : a.custody_account_id = account_id)
      (hactive : a.status = .active) :
    Entered tenant_id account_id (changes ++ [.assignment a])
      (facts ++ [.no_assignment a.id, .unused tenant_id a.business_ref, .vacant account_id])

/-- And it is marked. -/
inductive Marked (tenant_id account_id : Uuid) : List CustodyChange → List CustodyFact → Prop where
  | marked {changes : List CustodyChange} {facts : List CustodyFact}
      (h : Entered tenant_id account_id changes facts) (row : CustodyAccountRow)
      (hid : row.id = account_id) (htenant : row.tenant_id = tenant_id)
      (hassigned : row.status = .assigned) :
    Marked tenant_id account_id (changes ++ [.account row]) facts

/-- An assignment is released. -/
inductive Released (tenant_id account_id : Uuid) : List CustodyChange → List CustodyFact → Prop where
  | released (a : CustodyAssignmentRow) (htenant : a.tenant_id = tenant_id)
      (haccount : a.custody_account_id = account_id) (hreleased : a.status = .released) :
    Released tenant_id account_id [.assignment a]
      [.active a.id tenant_id account_id a.business_ref]

/-- And its account is available again if it is from the pool. -/
inductive Freed (tenant_id account_id : Uuid) : List CustodyChange → List CustodyFact → Prop where
  | freed {changes : List CustodyChange} {facts : List CustodyFact}
      (h : Released tenant_id account_id changes facts) (row : CustodyAccountRow)
      (hid : row.id = account_id) (htenant : row.tenant_id = tenant_id)
      (havailable : row.source = .pool → row.status = .available) :
    Freed tenant_id account_id (changes ++ [.account row])
      (facts ++ [.account account_id tenant_id])

abbrev custody_knows (lower : String → String) (w : W) :=
  knows (custody_facts lower) CustodyChange.custodial w

abbrev custody_knows_some (lower : String → String) (w : W) :=
  knows_some (custody_facts lower) CustodyChange.custodial w

abbrev custody_anything (lower : String → String) (w : W) :=
  anything (custody_facts lower) w

abbrev CustodyDoes {α : Type} (lower : String → String) (w : W) :=
  Does (α := α) AppError.Database (custody_facts lower) CustodyOrder CustodyKept w

/-- What is known with the account that was looked for. -/
def account_found (lower : String → String) (w : W) (tenant_id : Uuid)
    (row : Option CustodyAccountRow) :
    Prog.Assn (Interference (custody_facts lower) w) fun _ => True :=
  match row with
  | some row => custody_knows_some lower w (Claimed tenant_id row.id)
  | none => custody_knows lower w [] []

section Knowledge
variable (h : Knows (custody_facts lower) CustodyChange.custodial w changes facts s)
include h

theorem view_same :
    SameCustody (s.view (custody_schema lower) w) (CustodyChange.replay changes s.tables) := by
  have hreplay := CustodyChange.replay_custodial (s.log w) (t := s.tables) ⟨rfl, rfl⟩
  rw [h.log] at hreplay
  exact hreplay

end Knowledge

theorem Claimed.assignments (h : Claimed tenant_id account_id changes facts)
    (tables : CustodyTables) : (CustodyChange.replay changes tables).custody_account_assignments =
      tables.custody_account_assignments := by
  cases h with
  | locked => rfl
  | inserted => rfl

/-- The transaction sees the account. -/
theorem Claimed.account (h : Claimed tenant_id account_id changes facts) {tables : CustodyTables}
    (hfacts : ∀ f ∈ facts, f.holds tables) :
    ∃ row ∈ (CustodyChange.replay changes tables).custody_accounts,
      row.id = account_id ∧ row.tenant_id = tenant_id := by
  cases h with
  | locked => exact hfacts _ (List.mem_singleton.mpr rfl)
  | inserted row hid htenant => exact ⟨row, Table.put_self .., hid, htenant⟩

theorem Entered.account (h : Entered tenant_id account_id changes facts) {tables : CustodyTables}
    (hfacts : ∀ f ∈ facts, f.holds tables) :
    ∃ row ∈ (CustodyChange.replay changes tables).custody_accounts,
      row.id = account_id ∧ row.tenant_id = tenant_id := by
  obtain ⟨hclaimed, a, htenant, haccount, hactive⟩ := h
  have hfound := hclaimed.account fun f hf => hfacts f (List.mem_append_left _ hf)
  unfold CustodyChange.replay at hfound ⊢
  rw [List.foldl_append]
  exact hfound

/-! ### Statements -/

/-- Statements that change no account and no assignment. -/
theorem quiet_does {α : Type} {p : CustodyCall α}
    (hp : p.Only fun op => ∃ statement, op = .ask statement ∧ statement.quiet = true) :
    CustodyDoes lower w (custody_knows lower w changes facts) p
      (fun _ => custody_knows lower w changes facts) (custody_knows lower w changes facts) := by
  refine does_of_only hp ?_
  rintro op ⟨statement, rfl, hquiet⟩
  exact ⟨statement, rfl, fun _ _ _ _ c hc => effect_quiet hquiet hc⟩

theorem quiet_does_some {α : Type} {p : CustodyCall α}
    {K : List CustodyChange → List CustodyFact → Prop}
    (hp : p.Only fun op => ∃ statement, op = .ask statement ∧ statement.quiet = true) :
    CustodyDoes lower w (custody_knows_some lower w K) p (fun _ => custody_knows_some lower w K)
      (custody_anything lower w) :=
  does_of_each fun changes facts hK => (quiet_does hp).consequence (fun _ hs => hs)
    (fun _ _ hs => ⟨changes, facts, hK, hs⟩) fun _ _ _ => trivial

theorem for_update_found {statement : CustodyStatement} {found : Option CustodyAccountRow}
    (hs : Knows (custody_facts lower) CustodyChange.custodial w [] [] s)
    (hlocks : (s.effect (custody_schema lower) w statement).locks =
      found.toList.map (CustodyKey.account ·.id))
    (hlog : (s.effect (custody_schema lower) w statement).log = [])
    (hfound : ∀ row, found = some row →
      row ∈ (s.view (custody_schema lower) w).custody_accounts ∧ row.tenant_id = tenant_id) :
    (account_found lower w tenant_id found).holds
      (s.perform w (s.effect (custody_schema lower) w statement)) := by
  cases found with
  | none =>
    have hnext := hs.perform (e := s.effect (custody_schema lower) w statement) []
      (fun _ hf => absurd hf List.not_mem_nil) fun _ hf => absurd hf List.not_mem_nil
    rw [hlog] at hnext
    exact hnext
  | some row =>
    obtain ⟨hrow, htenant⟩ := hfound row rfl
    have hnext := hs.perform (e := s.effect (custody_schema lower) w statement)
      [CustodyFact.account row.id tenant_id] ?_ ?_
    · rw [hlog] at hnext
      exact ⟨[], _, .locked, hnext⟩
    · intro f hf
      rw [List.mem_singleton.mp hf]
      exact ⟨row, (view_same hs).accounts ▸ hrow, rfl, htenant⟩
    · intro f hf k hk
      rw [List.mem_singleton.mp hf] at hk
      left
      rw [hlocks, List.mem_singleton.mp hk]
      exact List.mem_singleton.mpr rfl

theorem claim_available_pool_account_does :
    CustodyDoes lower w (custody_knows lower w [] [])
      (CustodyCall.ask (.claim_available_pool_account tenant_id)) (account_found lower w tenant_id)
      (custody_anything lower w) := by
  refine ask_does fun s hsound hs a ha => ?_
  cases ha
  exact for_update_found hs (List.append_nil _) rfl fun row hrow => claimed_mem (congrArg Except.ok hrow)

theorem select_user_account_by_address_does {address : String} :
    CustodyDoes lower w (custody_knows lower w [] [])
      (CustodyCall.ask (.select_user_custody_account_by_address_for_update tenant_id address))
      (account_found lower w tenant_id) (custody_anything lower w) := by
  refine ask_does fun s hsound hs a ha => ?_
  cases ha
  exact for_update_found hs (List.append_nil _) rfl fun row hrow => matched_mem (congrArg Except.ok hrow)

theorem select_user_account_does {address_normalized : String} :
    CustodyDoes lower w (custody_knows lower w [] [])
      (CustodyCall.ask (.select_user_custody_account_for_update tenant_id address_normalized))
      (account_found lower w tenant_id) (custody_anything lower w) := by
  refine ask_does fun s hsound hs a ha => ?_
  cases ha
  exact for_update_found hs (List.append_nil _) rfl fun row hrow => selected_mem (congrArg Except.ok hrow)

/-- A row that is inserted has a new identifier. -/
theorem inserted_found {statement : CustodyStatement} {row : CustodyAccountRow}
    (hsound : Sound (custody_schema lower) CustodyOrder s)
    (hs : Knows (custody_facts lower) CustodyChange.custodial w [] [] s)
    (hid : row.id = s.next_id) (htenant : row.tenant_id = tenant_id)
    (hlog : (s.effect (custody_schema lower) w statement).log = [.account row]) :
    (account_found lower w tenant_id (some row)).holds
      (s.perform w (s.effect (custody_schema lower) w statement)) := by
  have hnext := hs.perform (e := s.effect (custody_schema lower) w statement)
    [CustodyFact.no_account row.id] ?_ ?_
  · rw [hlog] at hnext
    exact ⟨_, _, .inserted row rfl htenant, hnext⟩
  · intro f hf
    rw [List.mem_singleton.mp hf]
    intro r hr heq
    exact absurd (hsound.sound.below.accounts r hr) (heq.trans hid ▸ Nat.lt_irrefl _)
  · intro f hf k hk
    rw [List.mem_singleton.mp hf] at hk
    rw [List.mem_singleton.mp hk]
    left
    have hmem : CustodyChange.account row ∈ (s.effect (custody_schema lower) w statement).log :=
      hlog ▸ List.mem_singleton.mpr rfl
    exact (custody_schema lower).locked _ hmem _ (List.mem_cons_self ..)

theorem insert_custody_account_does {chain_id : Uuid} {address address_normalized : String}
    {label : Option String} {source : CustodySource} {status : CustodyAccountStatus} :
    CustodyDoes lower w (custody_knows lower w [] [])
      (CustodyCall.ask (.insert_custody_account tenant_id chain_id address address_normalized label
        source status)) (fun row => account_found lower w tenant_id (some row))
      (custody_anything lower w) := by
  refine ask_does fun s hsound hs row hrow => ?_
  by_cases htaken : (s.view (custody_schema lower) w).address_taken tenant_id address_normalized = true
  · have heffect : (s.view (custody_schema lower) w).insert_custody_account (s.started w) s.next_id
        tenant_id chain_id address address_normalized label source status = _ := if_pos htaken
    exact nomatch (congrArg CustodyEffect.answer heffect).symm.trans hrow
  · have heffect : (s.view (custody_schema lower) w).insert_custody_account (s.started w) s.next_id
        tenant_id chain_id address address_normalized label source status = _ := if_neg htaken
    cases (congrArg CustodyEffect.answer heffect).symm.trans hrow
    exact inserted_found hsound hs rfl rfl (congrArg CustodyEffect.log heffect)

theorem insert_user_account_does {chain_id : Uuid} {address address_normalized : String} :
    CustodyDoes lower w (custody_knows lower w [] [])
      (CustodyCall.ask (.insert_user_custody_account_for_assignment tenant_id chain_id address
        address_normalized)) (account_found lower w tenant_id) (custody_anything lower w) := by
  refine ask_does fun s hsound hs found hfound => ?_
  by_cases htaken : (s.view (custody_schema lower) w).address_taken tenant_id address_normalized = true
  · have heffect : (s.view (custody_schema lower) w).insert_user_custody_account_for_assignment
        (s.started w) s.next_id tenant_id chain_id address address_normalized = _ := if_pos htaken
    cases (congrArg CustodyEffect.answer heffect).symm.trans hfound
    have hlog := congrArg CustodyEffect.log heffect
    refine for_update_found hs ?_ hlog fun _ h => nomatch h
    exact congrArg₂ (fun reserved log => reserved ++ log.flatMap CustodyChange.keys)
      (congrArg CustodyEffect.reserved heffect) hlog
  · have heffect : (s.view (custody_schema lower) w).insert_user_custody_account_for_assignment
        (s.started w) s.next_id tenant_id chain_id address address_normalized = _ := if_neg htaken
    cases (congrArg CustodyEffect.answer heffect).symm.trans hfound
    exact inserted_found hsound hs rfl rfl (congrArg CustodyEffect.log heffect)

/-- What is known once the insert has been answered. -/
def assignment_entered (lower : String → String) (w : W) (tenant_id account_id : Uuid)
    (id : Option Uuid) : Prog.Assn (Interference (custody_facts lower) w) fun _ => True :=
  match id with
  | some _ => custody_knows_some lower w (Entered tenant_id account_id)
  | none => custody_anything lower w

theorem no_assignment_conflicts {tables : CustodyTables} {business_ref : String}
    (h : ¬ tables.assignment_conflicts tenant_id account_id business_ref = true) :
    ∀ a ∈ tables.custody_account_assignments,
      (a.tenant_id = tenant_id → a.business_ref ≠ business_ref) ∧
        (a.custody_account_id = account_id → a.status ≠ .active) := by
  intro a ha
  constructor
  · intro htenant href
    exact h (List.any_eq_true.mpr ⟨a, ha, by simp [htenant, href]⟩)
  · intro haccount hactive
    exact h (List.any_eq_true.mpr ⟨a, ha, by simp [haccount, hactive]⟩)

theorem insert_custody_assignment_does {applicant_type : CustodyApplicantType}
    {business_ref : String} {purpose : Option String} {watched_address_id : Uuid} :
    CustodyDoes lower w (custody_knows_some lower w (Claimed tenant_id account_id))
      (CustodyCall.ask (.insert_custody_assignment tenant_id account_id applicant_type business_ref
        purpose watched_address_id)) (assignment_entered lower w tenant_id account_id)
      (custody_anything lower w) := by
  refine does_of_each fun changes facts hclaimed => ask_does fun s hsound hs id hid => ?_
  have hview : (s.view (custody_schema lower) w).custody_account_assignments =
      s.tables.custody_account_assignments :=
    (view_same hs).assignments.trans (hclaimed.assignments s.tables)
  by_cases hconflict : (s.view (custody_schema lower) w).assignment_conflicts tenant_id account_id
      business_ref = true
  · have heffect : (s.view (custody_schema lower) w).insert_custody_assignment (s.started w)
        s.next_id tenant_id account_id applicant_type business_ref purpose watched_address_id = _ :=
      if_pos hconflict
    cases (congrArg CustodyEffect.answer heffect).symm.trans hid
    exact trivial
  have heffect : (s.view (custody_schema lower) w).insert_custody_assignment (s.started w)
      s.next_id tenant_id account_id applicant_type business_ref purpose watched_address_id = _ :=
    if_neg hconflict
  cases (congrArg CustodyEffect.answer heffect).symm.trans hid
  obtain ⟨a, ha⟩ : ∃ a, a = CustodyTables.new_custody_assignment (s.started w) s.next_id tenant_id
    account_id applicant_type business_ref purpose watched_address_id := ⟨_, rfl⟩
  have hlog : (s.effect (custody_schema lower) w (.insert_custody_assignment tenant_id account_id
      applicant_type business_ref purpose watched_address_id)).log = [.assignment a] :=
    ha ▸ congrArg CustodyEffect.log heffect
  have hkeys : ∀ k ∈ CustodyChange.keys (.assignment a), k ∈ (s.effect (custody_schema lower) w
      (.insert_custody_assignment tenant_id account_id applicant_type business_ref purpose
        watched_address_id)).locks := by
    intro k hk
    have hmem : CustodyChange.assignment a ∈ (s.effect (custody_schema lower) w
        (.insert_custody_assignment tenant_id account_id applicant_type business_ref purpose
          watched_address_id)).log := hlog ▸ List.mem_singleton.mpr rfl
    exact (custody_schema lower).locked _ hmem k hk
  have hfree := no_assignment_conflicts hconflict
  rw [hview] at hfree
  have hnext := Knows.perform (e := s.effect (custody_schema lower) w (.insert_custody_assignment
      tenant_id account_id applicant_type business_ref purpose watched_address_id))
    [CustodyFact.no_assignment a.id, CustodyFact.unused tenant_id a.business_ref,
      CustodyFact.vacant account_id] hs ?_ ?_
  · rw [hlog] at hnext
    exact ⟨_, _, .entered hclaimed a (ha ▸ rfl) (ha ▸ rfl) (ha ▸ rfl), hnext⟩
  · intro f hf
    simp only [List.mem_cons, List.not_mem_nil, or_false] at hf
    subst ha
    rcases hf with rfl | rfl | rfl
    · intro b hb heq
      exact absurd (hsound.sound.below.assignments b hb) (heq ▸ Nat.lt_irrefl _)
    · exact fun b hb => (hfree b hb).1
    · exact fun b hb => (hfree b hb).2
  · intro f hf k hk
    left
    refine hkeys k ?_
    simp only [List.mem_cons, List.not_mem_nil, or_false] at hf
    subst ha
    rcases hf with rfl | rfl | rfl
    · rw [List.mem_singleton.mp hk]
      exact List.mem_cons_self ..
    · rw [List.mem_singleton.mp hk]
      exact List.mem_cons_of_mem _ (List.mem_cons_self ..)
    · rw [List.mem_singleton.mp hk]
      exact List.mem_cons_of_mem _ (List.mem_cons_of_mem _ (List.mem_cons_self ..))

/-- An update of an account that is there. -/
theorem account_updated (statement : CustodyStatement) (f : CustodyAccountRow → CustodyAccountRow)
    (more : List CustodyFact) {row : CustodyAccountRow}
    (hs : Knows (custody_facts lower) CustodyChange.custodial w changes facts s)
    (hfound : (s.view (custody_schema lower) w).find_account account_id tenant_id = some row)
    (hlog : (s.effect (custody_schema lower) w statement).log =
      ((s.view (custody_schema lower) w).find_account account_id tenant_id).toList.map
        fun row => .account (f row))
    (hid : (f row).id = row.id) (hmore : more ⊆ [.account account_id tenant_id])
    (hholds : ∀ g ∈ more, g.holds s.tables) :
    Knows (custody_facts lower) CustodyChange.custodial w (changes ++ [.account (f row)])
      (facts ++ more) (s.perform w (s.effect (custody_schema lower) w statement)) := by
  rw [hfound] at hlog
  have hnext := hs.perform (e := s.effect (custody_schema lower) w statement) more hholds ?_
  · rw [hlog] at hnext
    exact hnext
  · intro g hg k hk
    left
    rw [List.mem_singleton.mp (hmore hg)] at hk
    have hmem : CustodyChange.account (f row) ∈
        (s.effect (custody_schema lower) w statement).log := hlog ▸ List.mem_singleton.mpr rfl
    refine (custody_schema lower).locked _ hmem k ?_
    rw [List.mem_singleton.mp hk, ← (find_account_mem hfound).2.1, ← hid]
    exact List.mem_cons_self ..

theorem mark_custody_account_assigned_does {watched_address_id : Uuid} :
    CustodyDoes lower w (custody_knows_some lower w (Entered tenant_id account_id))
      (CustodyCall.ask (.mark_custody_account_assigned account_id watched_address_id tenant_id))
      (fun _ => custody_knows_some lower w (Marked tenant_id account_id))
      (custody_anything lower w) := by
  refine does_of_each fun changes facts hentered => ask_does fun s hsound hs _ _ => ?_
  obtain ⟨row, hrow, rfl, rfl⟩ := hentered.account hs.holds
  rw [← (view_same hs).accounts] at hrow
  obtain ⟨found, hfound⟩ := find_account_of_mem hrow
  obtain ⟨_, hid, htenant⟩ := find_account_mem hfound
  have hnext := account_updated
    (.mark_custody_account_assigned row.id watched_address_id row.tenant_id)
    (CustodyTables.assigned_account (s.started w) watched_address_id) [] hs hfound rfl rfl
    (List.nil_subset _) fun _ hg => absurd hg List.not_mem_nil
  rw [List.append_nil] at hnext
  exact ⟨_, _, .marked hentered (CustodyTables.assigned_account (s.started w) watched_address_id
    found) hid htenant rfl, hnext⟩

/-- What is known once an assignment has been released. -/
def assignment_released (lower : String → String) (w : W) (tenant_id : Uuid)
    (account_id : Option Uuid) : Prog.Assn (Interference (custody_facts lower) w) fun _ => True :=
  match account_id with
  | some account_id => custody_knows_some lower w (Released tenant_id account_id)
  | none => custody_anything lower w

theorem release_custody_assignment_does {id : Uuid} :
    CustodyDoes lower w (custody_knows lower w [] [])
      (CustodyCall.ask (.release_custody_assignment id tenant_id))
      (assignment_released lower w tenant_id) (custody_anything lower w) := by
  refine ask_does fun s hsound hs account_id haccount => ?_
  cases hfound : (s.view (custody_schema lower) w).custody_account_assignments.find? fun row =>
    row.id == id && row.tenant_id == tenant_id && row.status = .active with
  | none =>
    have heffect : account_id = none := by
      cases haccount
      exact congrArg (Option.map _) hfound
    subst heffect
    exact trivial
  | some a =>
    have hanswer : account_id = some a.custody_account_id := by
      cases haccount
      exact congrArg (Option.map _) hfound
    subst hanswer
    have hlog : (s.effect (custody_schema lower) w (.release_custody_assignment id tenant_id)).log =
        [.assignment (CustodyTables.released_assignment (s.started w) a)] :=
      congrArg (fun row => row.toList.map fun row =>
        CustodyChange.assignment (CustodyTables.released_assignment (s.started w) row)) hfound
    have ha : a ∈ s.tables.custody_account_assignments :=
      (view_same hs).assignments ▸ List.mem_of_find?_eq_some hfound
    have hmatches := List.find?_some hfound
    simp only [Bool.and_eq_true, beq_iff_eq, decide_eq_true_eq] at hmatches
    obtain ⟨⟨rfl, rfl⟩, hactive⟩ := hmatches
    have hnext := Knows.perform (e := s.effect (custody_schema lower) w
      (.release_custody_assignment a.id a.tenant_id))
      [CustodyFact.active a.id a.tenant_id a.custody_account_id a.business_ref] hs ?_ ?_
    · rw [hlog] at hnext
      exact ⟨_, _, .released (CustodyTables.released_assignment (s.started w) a) rfl rfl rfl, hnext⟩
    · intro f hf
      rw [List.mem_singleton.mp hf]
      exact ⟨a, ha, rfl, rfl, rfl, rfl, hactive⟩
    · intro f hf k hk
      rw [List.mem_singleton.mp hf] at hk
      rw [List.mem_singleton.mp hk]
      left
      have hmem := hlog ▸ List.mem_singleton.mpr rfl
      exact (custody_schema lower).locked (.assignment
        (CustodyTables.released_assignment (s.started w) a)) hmem _ (List.mem_cons_self ..)

theorem mark_released_pool_account_available_does :
    CustodyDoes lower w (custody_knows_some lower w (Released tenant_id account_id))
      (CustodyCall.ask (.mark_released_pool_account_available account_id tenant_id))
      (fun _ => custody_knows_some lower w (Freed tenant_id account_id))
      (custody_anything lower w) := by
  refine does_of_each fun changes facts hreleased => ask_does fun s hsound hs _ _ => ?_
  -- The committed assignment refers to an account of its tenant.
  have haccount : ∃ row ∈ s.tables.custody_accounts, row.id = account_id ∧
      row.tenant_id = tenant_id := by
    obtain ⟨a, htenant, hid, _⟩ := hreleased
    obtain ⟨b, hb, _, hbtenant, hbaccount, _⟩ := hs.holds _ (List.mem_singleton.mpr rfl)
    obtain ⟨row, hrow, hrowid, hrowtenant, _⟩ := hsound.sound.custodial.placed b hb
    exact ⟨row, hrow, hrowid.trans hbaccount, hrowtenant.trans hbtenant⟩
  obtain ⟨row, hrow, rfl, rfl⟩ := haccount
  have hview : row ∈ (s.view (custody_schema lower) w).custody_accounts := by
    rw [(view_same hs).accounts]
    cases hreleased
    exact hrow
  obtain ⟨found, hfound⟩ := find_account_of_mem hview
  obtain ⟨_, hid, htenant⟩ := find_account_mem hfound
  have hnext := account_updated (.mark_released_pool_account_available row.id row.tenant_id)
    (CustodyTables.released_account (s.started w)) [.account row.id row.tenant_id] hs hfound rfl rfl
    (List.Subset.refl _) fun g hg => by
      rw [List.mem_singleton.mp hg]
      exact ⟨row, hrow, rfl, rfl⟩
  exact ⟨_, _, .freed hreleased (CustodyTables.released_account (s.started w) found) hid htenant
    fun hpool => if_pos hpool, hnext⟩

/-! ### Commits -/

section Commit
variable (hsound : Sound (custody_schema lower) CustodyOrder s)
include hsound

/-- A commit keeps the order where the changes that count do. -/
theorem commit_keeps (hs : Knows (custody_facts lower) CustodyChange.custodial w changes facts s)
    (hcustodial : Custodial (CustodyChange.replay changes s.tables).custody_accounts
      (CustodyChange.replay changes s.tables).custody_account_assignments)
    (hkept : CustodyKept s.tables (CustodyChange.replay changes s.tables)) :
    CustodyOrder (s.commit (custody_schema lower) w) ∧
      CustodyKept s.tables (s.view (custody_schema lower) w) := by
  have hsame := view_same hs
  refine ⟨⟨?_, ?_, hsound.sound.abandon_log⟩, ?_⟩
  · rw [← hsame.accounts, ← hsame.assignments] at hcustodial
    exact hcustodial
  · exact hsound.sound.below.replay (hsound.sound.log w)
  · unfold CustodyKept at hkept ⊢
    rw [hsame.assignments]
    exact hkept

theorem commit_claimed (h : (custody_knows_some lower w (Claimed tenant_id account_id)).holds s) :
    CustodyOrder (s.commit (custody_schema lower) w) ∧
      CustodyKept s.tables (s.view (custody_schema lower) w) := by
  obtain ⟨changes, facts, hclaimed, hs⟩ := h
  refine commit_keeps hsound hs ?_ ?_
  · cases hclaimed with
    | locked => exact hsound.sound.custodial
    | inserted row hid _ =>
      refine hsound.sound.custodial.insert ?_
      rw [hid]
      exact hs.holds _ (List.mem_singleton.mpr rfl)
  · unfold CustodyKept
    rw [hclaimed.assignments]
    exact CustodyKept.refl s.tables

theorem commit_marked (h : (custody_knows_some lower w (Marked tenant_id account_id)).holds s) :
    CustodyOrder (s.commit (custody_schema lower) w) ∧
      CustodyKept s.tables (s.view (custody_schema lower) w) := by
  obtain ⟨_, _, ⟨⟨hclaimed, a, hatenant, haccount, hactive⟩, row, hid, htenant, hassigned⟩, hs⟩ := h
  rename_i changes facts
  have hold := hs.holds
  have hnew : ∀ b ∈ s.tables.custody_account_assignments, b.id ≠ a.id :=
    hold (CustodyFact.no_assignment a.id) (by simp)
  have hunused : ∀ b ∈ s.tables.custody_account_assignments, b.tenant_id = a.tenant_id →
      b.business_ref ≠ a.business_ref :=
    hatenant ▸ hold (CustodyFact.unused tenant_id a.business_ref) (by simp)
  have hvacant : ∀ b ∈ s.tables.custody_account_assignments,
      b.custody_account_id = a.custody_account_id → b.status ≠ .active :=
    haccount ▸ hold (CustodyFact.vacant account_id) (by simp)
  have hassign : ∀ {accounts} {r : CustodyAccountRow},
      Custodial accounts s.tables.custody_account_assignments → r ∈ accounts → r.id = account_id →
      r.tenant_id = tenant_id → Custodial (Table.put (·.id) row accounts)
        (Table.put (·.id) a s.tables.custody_account_assignments) := fun hcustodial hr hrid hrtenant =>
    hcustodial.assign hr (hid.trans hrid.symm) (htenant.trans hrtenant.symm) hassigned
      (haccount.trans hrid.symm) (hatenant.trans hrtenant.symm) hactive hnew hunused hvacant
  refine commit_keeps hsound hs ?_ ?_
  · cases hclaimed with
    | locked =>
      obtain ⟨r, hr, hrid, hrtenant⟩ := hold (CustodyFact.account account_id tenant_id) (by simp)
      exact hassign hsound.sound.custodial hr hrid hrtenant
    | inserted r hrid hrtenant =>
      have hfresh : ∀ other ∈ s.tables.custody_accounts, other.id ≠ r.id :=
        hrid ▸ hold (CustodyFact.no_account account_id) (by simp)
      exact hassign (hsound.sound.custodial.insert hfresh) (Table.put_self ..) hrid hrtenant
  · intro b hb
    refine ⟨b, ?_, .refl b⟩
    have hput : b ∈ Table.put (·.id) a s.tables.custody_account_assignments :=
      Table.mem_put.mpr (.inr ⟨hb, hnew b hb⟩)
    cases hclaimed with
    | locked => exact hput
    | inserted => exact hput

theorem commit_freed (h : (custody_knows_some lower w (Freed tenant_id account_id)).holds s) :
    CustodyOrder (s.commit (custody_schema lower) w) ∧
      CustodyKept s.tables (s.view (custody_schema lower) w) := by
  obtain ⟨_, _, ⟨⟨a, hatenant, haccount, hreleased⟩, row, hid, htenant, havailable⟩, hs⟩ := h
  obtain ⟨b, hb, hbid, hbtenant, hbaccount, hbref, hbactive⟩ :=
    hs.holds (CustodyFact.active a.id tenant_id account_id a.business_ref) (by simp)
  obtain ⟨r, hr, hrid, hrtenant⟩ := hs.holds (CustodyFact.account account_id tenant_id) (by simp)
  have huse : SameUse b a := ⟨hbid.symm, hatenant.trans hbtenant.symm,
    haccount.trans hbaccount.symm, hbref.symm⟩
  refine commit_keeps hsound hs ?_ ?_
  · exact hsound.sound.custodial.release hr (hid.trans hrid.symm) (htenant.trans hrtenant.symm)
      havailable hb huse hbactive hreleased (hbaccount.trans hrid.symm)
  · intro c hc
    by_cases hsame : c.id = a.id
    · have heq : c = b := List.inj_on_of_nodup_map hsound.sound.custodial.assignment_ids hc hb
        (hsame.trans hbid.symm)
      subst c
      exact ⟨a, Table.put_self .., huse⟩
    · exact ⟨c, Table.mem_put.mpr (.inr ⟨hc, hsame⟩), .refl c⟩

end Commit

end CoinListener.Storage
