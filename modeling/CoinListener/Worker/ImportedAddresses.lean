import CoinListener.Storage.ImportSteps
import CoinListener.Worker.AddressImports

/-! Addresses that imports create, while cancels come in between. -/
namespace CoinListener.Worker
open Foundation Storage
open ImportTables (AttemptsMove)

/-! ### The invariant -/

def HasAddress (t : ImportTables) (id : Uuid) : Prop :=
  ∃ row ∈ t.addresses.watched_addresses, row.id = id

/-- An address that an attempt has created: the attempt is a success, and leads to the address as
long as it exists. -/
structure Made (t : ImportTables) (attempt_id address_id : Uuid) : Prop where
  numbered : address_id < t.addresses.next_id
  attempt : ∃ attempt ∈ t.attempts, attempt.id = attempt_id ∧ attempt.status = .success ∧
    (attempt.watched_address_id = some address_id ↔ HasAddress t address_id)

structure CreatedKept (s : ImportWorld) : Prop where
  rows : RowIds s.tables.addresses
  cancelled : ∀ task ∈ s.tables.tasks, task.status = .cancelled →
    s.tables.pending_import_attempt_exists task.tenant_id task.id = false
  made : ∀ entry ∈ s.created, Made s.tables entry.1 entry.2

/-- When an address is written, its attempt has not been skipped since it was read. -/
def NotSkipped (s : ImportWorld) : ImportQuery → Prop
  | .create_watched_address_for_import_attempt _ _ _ attempt_id _ _ =>
    ∀ attempt ∈ s.tables.attempts, attempt.id = attempt_id → attempt.status ≠ .skipped
  | _ => True

/-- Tasks end as their counts have it. -/
def ImportStatement.Ends : ImportStatement → Prop
  | .db (.complete_import _ _ status _ counts) => status = next_status counts
  | _ => True

theorem next_status_ne (counts : ImportCounts) : next_status counts ≠ .cancelled := by
  unfold next_status
  split
  · decide
  · decide

section Steps
variable {s t : ImportWorld} {tables : ImportTables} {now : Timestamp} {skipped : Uuid → Bool}

/-- Addresses are left alone, and no task is cancelled while one of its attempts is pending. -/
theorem CreatedKept.move (hs : CreatedKept s) (haddresses : tables.addresses = s.tables.addresses)
    (hattempts : AttemptsMove Eq s.tables tables)
    (hcancelled : ∀ b ∈ tables.tasks, b.status = .cancelled →
      (∃ a ∈ s.tables.tasks, b.key = a.key ∧ a.status = .cancelled) ∨
        tables.pending_import_attempt_exists b.tenant_id b.id = false) :
    CreatedKept { s with tables := tables } := by
  refine ⟨haddresses ▸ hs.rows, fun b hb hstatus => ?_, fun entry hentry => ?_⟩
  · rcases hcancelled b hb hstatus with ⟨a, ha, hkey, hold⟩ | hnone
    · rw [task_id_of_key hkey, task_tenant_of_key hkey]
      exact hattempts.same_status.none_pending (s.tables.task_lt a ha) (hs.cancelled a ha hold)
    · exact hnone
  · obtain ⟨hnumbered, attempt, hmem, hid, hsuccess, hleads⟩ := hs.made entry hentry
    have hkept := hattempts.kept hmem (by rw [hsuccess]; decide)
    refine ⟨haddresses ▸ hnumbered, attempt, hkept, hid, hsuccess, ?_⟩
    rwa [HasAddress, haddresses]

/-- Tasks are changed, but none is cancelled. -/
theorem CreatedKept.edit_tasks (hs : CreatedKept s) {p : WatchedAddressImportTask → Bool}
    {f : WatchedAddressImportTask → WatchedAddressImportTask}
    (hf : ∀ task, (f task).key = task.key)
    (hstatus : ∀ a, (f a).status = .cancelled → a.status = .cancelled) :
    CreatedKept { s with tables := s.tables.edit_tasks p f hf } := by
  refine hs.move rfl (.of_eq rfl) fun b hb hcancelled => .inl ?_
  obtain ⟨a, ha, rfl⟩ := Table.mem_update.mp hb
  refine ⟨a, ha, Table.revise_column hf a, ?_⟩
  cases hp : p a with
  | true =>
    rw [Table.revise_of_true hp] at hcancelled
    exact hstatus a hcancelled
  | false => rwa [Table.revise_of_false hp] at hcancelled

theorem CreatedKept.edit_attempts (hs : CreatedKept s) (htasks : tables.tasks = s.tables.tasks)
    (haddresses : tables.addresses = s.tables.addresses)
    (hattempts : AttemptsMove Eq s.tables tables) : CreatedKept { s with tables := tables } :=
  hs.move haddresses hattempts fun b hb hcancelled => .inl ⟨b, htasks ▸ hb, rfl, hcancelled⟩

theorem CreatedKept.add_task (hs : CreatedKept s) {tenant_id : Uuid}
    {request : CreateWatchedAddressImportRequest} {plan : ImportCreatePlan} :
    CreatedKept { s with tables := s.tables.add_task now tenant_id request plan } := by
  refine hs.move rfl ImportTables.add_task_moves fun b hb hcancelled => .inl ?_
  rcases List.mem_append.mp hb with hold | hnew
  · exact ⟨b, hold, rfl, hcancelled⟩
  · rw [List.mem_singleton.mp hnew] at hcancelled
    cases hcancelled

/-- A cancel, which skips what is pending. -/
theorem CreatedKept.cancel (hs : CreatedKept s) {tenant_id id : Uuid}
    {task : WatchedAddressImportTask}
    (h : s.tables.cancel_watched_address_import now tenant_id id = .ok (task, tables)) :
    CreatedKept { s with tables := tables } := by
  obtain ⟨found, hfound, hkey, hopen, rfl⟩ := ImportTables.cancel_spec h
  refine hs.move rfl ImportTables.cancel_attempts_moves fun b hb hcancelled => ?_
  obtain ⟨a, ha, rfl⟩ := Table.mem_update.mp hb
  cases hp : a.is_task tenant_id id && !a.status.is_terminal with
  | true =>
    rw [Table.revise_of_true (p := fun task : WatchedAddressImportTask =>
      task.is_task tenant_id id && !task.status.is_terminal) hp]
    obtain ⟨rfl, rfl⟩ := ImportTables.is_task_iff.mp (Bool.and_eq_true_iff.mp hp).1
    exact .inr (ImportTables.cancel_attempts_none hfound hkey hopen)
  | false =>
    rw [Table.revise_of_false (p := fun task : WatchedAddressImportTask =>
      task.is_task tenant_id id && !task.status.is_terminal) hp] at hcancelled ⊢
    exact .inl ⟨a, ha, rfl, hcancelled⟩

/-- An address is created for an attempt that has not been skipped. -/
theorem CreatedKept.create (hs : CreatedKept s) {tenant_id task_id attempt_id : Uuid}
    {worker_id : String} {request : CreateWatchedAddressRequest} {asset_ids : List Uuid}
    {response : WatchedAddressResponse}
    (hskipped : ∀ attempt ∈ s.tables.attempts, attempt.id = attempt_id → attempt.status ≠ .skipped)
    (h : s.tables.create_watched_address_for_import_attempt tenant_id task_id worker_id attempt_id
      request asset_ids = .ok (response, tables)) :
    CreatedKept { tables := tables, created := s.created ++ [(attempt_id, response.id)] } := by
  obtain ⟨addresses, hcreate, hid, ⟨found, hfound, hmarkable⟩, rfl⟩ :=
    ImportTables.create_for_attempt_spec h
  obtain ⟨-, -, hnext, hrows⟩ := create_in_transaction_ok hcreate
  have hmoves : AttemptsMove Eq s.tables (s.tables.mark_import_attempt tenant_id attempt_id
      (some task_id) (some worker_id) (ImportTables.succeeded response.id) fun _ => rfl).2 :=
    ImportTables.mark_moves _
  have hmarked : CreatedKept { s with
      tables := (s.tables.mark_import_attempt tenant_id attempt_id (some task_id) (some worker_id)
        (ImportTables.succeeded response.id) fun _ => rfl).2 } := hs.edit_attempts rfl rfl hmoves
  refine ⟨(create_in_transaction_rows hcreate).ids hs.rows, hmarked.cancelled,
    fun entry hentry => ?_⟩
  rcases List.mem_append.mp hentry with hold | hlast
  · obtain ⟨hnumbered, attempt, hmem, hattempt, hsuccess, hleads⟩ := hs.made entry hold
    have hkept := hmoves.kept hmem (by rw [hsuccess]; decide)
    refine ⟨?_, attempt, hkept, hattempt, hsuccess, hleads.trans ?_⟩
    · exact hnumbered.trans (hnext ▸ Nat.lt_succ_self _)
    · -- The new address is not this one.
      simp only [HasAddress, hrows, List.mem_append, List.mem_singleton]
      constructor
      · rintro ⟨row, hrow, hid⟩
        exact ⟨row, .inl hrow, hid⟩
      · rintro ⟨row, hrow | rfl, hid⟩
        · exact ⟨row, hrow, hid⟩
        · exact absurd hid (Nat.ne_of_gt hnumbered)
  · obtain rfl := List.mem_singleton.mp hlast
    refine ⟨?_, ImportTables.succeeded response.id found, ?_, ?_, rfl, ?_⟩
    · rw [hid]
      exact hnext ▸ Nat.lt_succ_self _
    · obtain ⟨hattempt, hcases⟩ := ImportTables.markable_cases hmarkable
        (ImportTables.succeeded response.id)
      rcases hcases with ⟨_, _, hmark⟩ | ⟨hstatus, ⟨task, htask, hof, hcancelled⟩, _⟩
      · rw [← hmark]
        exact Table.mem_update.mpr ⟨found, hfound, Table.revise_of_true hmarkable⟩
      · -- A cancelled task has skipped its attempts.
        have hpending := ImportTables.pending_none.mp (hs.cancelled task htask hcancelled) found
          hfound hof
        exact absurd (hstatus.resolve_left hpending) (hskipped found hfound hattempt)
    · exact (ImportTables.markable_cases hmarkable id).1
    · refine iff_of_true rfl ⟨s.tables.addresses.new_watched_address request, ?_, hid.symm⟩
      rw [hrows]
      exact List.mem_append_right _ (List.mem_singleton_self _)

theorem query_created (hs : CreatedKept s) {q : ImportQuery} (hC : NotSkipped s q)
    (hA : ImportStatement.Ends (.db q)) : CreatedKept (s.query now skipped q).2 := by
  cases q with
  | create_watched_address_import tenant_id request plan =>
    simp only [ImportWorld.query, ImportTables.create_watched_address_import]
    split
    · exact hs.add_task
    · exact hs
  | claim_next_watched_address_import at_time worker_id =>
    simp only [ImportWorld.query]
    obtain ⟨_, htables⟩ | ⟨task, _, _, _, htables⟩ := ImportTables.claim_spec
      (Prod.mk.eta (p := s.tables.claim_next_watched_address_import at_time worker_id skipped)).symm
    · rw [htables]
      exact hs
    · rw [htables]
      exact hs.edit_tasks (by exact fun _ => rfl) fun _ h => nomatch h
  | renew_watched_address_import_lock => exact hs.edit_tasks (by exact fun _ => rfl) fun _ h => h
  | pending_import_attempts => exact hs
  | validate_watched_address_create_request => exact hs
  | create_watched_address_for_import_attempt tenant_id task_id worker_id attempt_id request
      asset_ids =>
    simp only [ImportWorld.query]
    cases hcreate : s.tables.create_watched_address_for_import_attempt tenant_id task_id worker_id
        attempt_id request asset_ids with
    | error e => exact hs
    | ok result => exact hs.create hC hcreate
  | mark_import_attempt_failed_with_lock =>
    exact hs.edit_attempts rfl rfl (ImportTables.mark_moves (by exact fun _ => rfl))
  | import_counts => exact hs
  | write_import_task_counts => exact hs.edit_tasks (by exact fun _ => rfl) fun _ h => h
  | pending_import_attempt_exists => exact hs
  | complete_import tenant_id task_id status at_time counts =>
    refine hs.edit_tasks (by exact fun _ => rfl) fun _ h => ?_
    have hstatus : next_status counts = .cancelled := hA.symm.trans h
    exact absurd hstatus (next_status_ne counts)
  | cancel_watched_address_import tenant_id id =>
    simp only [ImportWorld.query]
    cases hcancel : s.tables.cancel_watched_address_import now tenant_id id with
    | error e => exact hs
    | ok result => exact hs.cancel hcancel

/-- Rows come and stay. -/
theorem CreatedKept.write (hs : CreatedKept s) {addresses : AddressTables}
    (hmove : RowsMove s.tables.addresses addresses) :
    CreatedKept { s with tables.addresses := addresses } := by
  refine ⟨hmove.ids hs.rows, hs.cancelled, fun entry hentry => ?_⟩
  obtain ⟨hnumbered, attempt, hmem, hattempt, hsuccess, hleads⟩ := hs.made entry hentry
  refine ⟨hnumbered.trans_le hmove.next_le, attempt, hmem, hattempt, hsuccess, hleads.trans ?_⟩
  constructor
  · rintro ⟨row, hrow, hid⟩
    obtain ⟨new, hnew, hsame⟩ := hmove.after row hrow
    exact ⟨new, hnew, hsame.trans hid⟩
  · rintro ⟨row, hrow, hid⟩
    rcases hmove.before row hrow with hnew | ⟨old, hold, hsame⟩
    · exact absurd (hid ▸ hnumbered) (Nat.not_lt.mpr hnew)
    · exact ⟨old, hold, hsame.symm.trans hid⟩

theorem astray_key (attempt : ImportAttempt) : (ImportTables.astray attempt).key = attempt.key :=
  rfl

/-- The deletion of a row. -/
theorem deleted_address {tenant_id id : Uuid} {row : WatchedAddress}
    (hrows : RowIds tables.addresses) (hrow : row ∈ tables.addresses.watched_addresses)
    (hisrow : AddressTables.is_row tenant_id id row = true) (address_id : Uuid) :
    (∃ other ∈ tables.addresses.watched_addresses.filter (!AddressTables.is_row tenant_id id ·),
      other.id = address_id) ↔ address_id ≠ id ∧ HasAddress tables address_id := by
  constructor
  · rintro ⟨other, hother, rfl⟩
    obtain ⟨hold, hstays⟩ := List.mem_filter.mp hother
    refine ⟨fun hid => ?_, other, hold, rfl⟩
    have hsame : other = row := List.inj_on_of_nodup_map hrows.unique_id hold hrow
      (hid.trans (is_row_iff.mp hisrow).1.symm)
    rw [hsame, hisrow] at hstays
    cases hstays
  · rintro ⟨hid, other, hother, rfl⟩
    refine ⟨other, List.mem_filter.mpr ⟨hother, ?_⟩, rfl⟩
    rw [Bool.not_eq_true', Bool.eq_false_iff]
    exact fun h => hid (is_row_iff.mp h).1

/-- A row goes, and the attempt that leads to it loses it. -/
theorem CreatedKept.delete (hs : CreatedKept s) (tenant_id id : Uuid) :
    CreatedKept { s with tables := s.tables.delete_watched_address tenant_id id } := by
  unfold ImportTables.delete_watched_address
  split
  · next hfound =>
    obtain ⟨row, hrow, hisrow⟩ := List.any_eq_true.mp hfound
    refine ⟨⟨fun other h => hs.rows.id_lt other (List.mem_filter.mp h).1, ?_⟩, ?_, ?_⟩
    · exact hs.rows.unique_id.sublist (List.filter_sublist.map _)
    · have hmoves : AttemptsMove ImportTables.SameStatus s.tables (s.tables.edit_attempts
          (ImportTables.leads_to id) ImportTables.astray astray_key) :=
        .edit astray_key (fun _ => rfl) fun _ _ _ _ => rfl
      intro task htask hcancelled
      exact hmoves.none_pending (s.tables.task_lt task htask) (hs.cancelled task htask hcancelled)
    · intro entry hentry
      obtain ⟨hnumbered, attempt, hmem, hattempt, hsuccess, hleads⟩ := hs.made entry hentry
      have hrows := deleted_address hs.rows hrow hisrow entry.2
      have hnext : Table.revise (ImportTables.leads_to id) ImportTables.astray attempt ∈
          Table.update (ImportTables.leads_to id) ImportTables.astray s.tables.attempts :=
        Table.mem_update.mpr ⟨attempt, hmem, rfl⟩
      cases hp : ImportTables.leads_to id attempt with
      | true =>
        rw [Table.revise_of_true hp] at hnext
        refine ⟨hnumbered, _, hnext, hattempt, hsuccess, iff_of_false nofun fun h => ?_⟩
        obtain ⟨hid, hhas⟩ := hrows.mp h
        have hboth := (hleads.mpr hhas).symm.trans (beq_iff_eq.mp hp)
        exact hid (Option.some.inj hboth)
      | false =>
        rw [Table.revise_of_false hp] at hnext
        refine ⟨hnumbered, attempt, hnext, hattempt, hsuccess, hleads.trans (.trans ?_ hrows.symm)⟩
        refine ⟨fun h => ⟨fun hid => ?_, h⟩, fun h => h.2⟩
        exact beq_eq_false_iff_ne.mp hp (hid ▸ hleads.mpr h)
  · exact hs

theorem others_created (hs : CreatedKept s) (h : ImportOthers s t) : CreatedKept t := by
  cases h with
  | write op _ => exact hs.write (write_rows s.tables.addresses op)
  | edit chains assets =>
    refine ⟨⟨hs.rows.id_lt, hs.rows.unique_id⟩, hs.cancelled, fun entry hentry => ?_⟩
    exact ⟨(hs.made entry hentry).numbered, (hs.made entry hentry).attempt⟩
  | delete tenant_id id => exact hs.delete tenant_id id

theorem carried_created (hs : CreatedKept s) {op : ImportStatement} {r : AppResult op.Answer}
    (hA : op.Ends) (h : ImportCarried NotSkipped s op r t) : CreatedKept t := by
  cases h with
  | db now skipped hC hfate =>
    rcases hfate.state with rfl | rfl
    · exact hs
    · exact query_created hs hC hA
  | utc_now => exact hs

end Steps

/-! ### Calls -/

section Calls
variable {C : ImportWorld → ImportQuery → Prop}

theorem refresh_ends (tenant_id task_id : Uuid) :
    (refresh_import_task_counts tenant_id task_id).Only ImportStatement.Ends :=
  .bind (.perform trivial) fun _ => .bind (.perform trivial) fun _ => .lift

theorem complete_ends (tenant_id task_id : Uuid) (now : Timestamp) :
    (complete_import_if_finished tenant_id task_id now).Only ImportStatement.Ends := by
  refine .bind (refresh_ends tenant_id task_id) fun task => ?_
  split
  · exact .done
  · refine .bind (.perform trivial) fun has_pending_attempts => ?_
    split
    · exact .done
    · exact .bind (.perform rfl) fun _ => .done

theorem process_attempt_ends (worker_id : String) (task : WatchedAddressImportTask)
    (attempt : WatchedAddressImportAttempt) :
    (process_import_attempt worker_id task attempt).Only ImportStatement.Ends := by
  refine .bind (.perform trivial) fun _ => .bind (.bind (.perform trivial) fun _ => .lift) fun _ => ?_
  refine .bind (.attempt (.bind (.perform trivial) fun _ => .perform trivial)) fun created => ?_
  cases created with
  | ok response => exact .done
  | error error => exact .bind (.bind (.perform trivial) fun _ => .lift) fun _ => .done

theorem process_ends (worker_id : String) (now : Timestamp) :
    (process_one_address_import_task worker_id now).Only ImportStatement.Ends := by
  refine .bind (.perform trivial) fun claimed => ?_
  cases claimed with
  | none => exact .done
  | some task =>
    refine .bind (.bind (.perform trivial) fun _ => .lift) fun _ => ?_
    refine .bind (.perform trivial) fun attempts => ?_
    refine .bind (.forEach fun attempt _ => process_attempt_ends worker_id task attempt) fun _ => ?_
    exact .bind (refresh_ends ..) fun _ => .bind (complete_ends ..) fun _ => .done

theorem call_ends (call : ImportCall) : call.program.Only ImportStatement.Ends := by
  cases call with
  | process worker_id now => exact .bind (process_ends worker_id now) fun _ => .done
  | create tenant_id request =>
    refine .bind (.bind .lift fun _ => .bind .lift fun plan => ?_) fun _ => .done
    exact .perform trivial
  | cancel tenant_id id => exact .bind (.perform trivial) fun _ => .done

theorem import_start_kept (chains : List Chain) (assets : List Asset) :
    CreatedKept ⟨.empty chains assets, []⟩ :=
  ⟨.unwatched chains assets, fun _ h => absurd h List.not_mem_nil,
    fun _ h => absurd h List.not_mem_nil⟩

/-- The run lemma. -/
theorem created_run {W : Type} [DecidableEq W] {chains : List Chain} {assets : List Asset}
    {t : ImportWorld} {qs : W → ImportProg Unit}
    (h : Relation.ReflTransGen (ImportStep NotSkipped) (import_start chains assets) (t, qs)) :
    CreatedKept t := by
  refine (Prog.Crew.only_run (E := ImportOthers) (S := ImportStatement.Ends) (fun hs hl => ?_)
    (fun hs hA hcarried => carried_created hs hA hcarried) others_created
    ⟨import_start_kept chains assets, fun _ => .done⟩ h).1
  obtain ⟨rfl, call, rfl⟩ := hl
  exact ⟨hs, call_ends call⟩

end Calls

/-- As long as no address is written for an attempt that a cancel has skipped, an address that was
created for an attempt exists just if the attempt is a success and leads to it, and the attempt
never ends skipped or failed. -/
theorem created_addresses_hold {W : Type} [DecidableEq W] {chains : List Chain}
    {assets : List Asset} {t : ImportWorld} {qs : W → ImportProg Unit}
    (h : Relation.ReflTransGen (ImportStep NotSkipped) (import_start chains assets) (t, qs))
    {attempt_id address_id : Uuid} (hcreated : (attempt_id, address_id) ∈ t.created) :
    ((∃ row ∈ t.tables.addresses.watched_addresses, row.id = address_id) ↔
      ∃ attempt ∈ t.tables.attempts, attempt.id = attempt_id ∧ attempt.status = .success ∧
        attempt.watched_address_id = some address_id) ∧
    ∀ attempt ∈ t.tables.attempts, attempt.id = attempt_id →
      attempt.status ≠ .skipped ∧ attempt.status ≠ .failed := by
  obtain ⟨_, attempt, hmem, hid, hsuccess, hleads⟩ := (created_run h).made _ hcreated
  have hsame : ∀ other ∈ t.tables.attempts, other.id = attempt_id → other = attempt :=
    fun other hother hsame => ImportTables.same_attempt hother hmem (hsame.trans hid.symm)
  constructor
  · constructor
    · intro hhas
      exact ⟨attempt, hmem, hid, hsuccess, hleads.mpr hhas⟩
    · rintro ⟨other, hother, hother_id, _, hother_leads⟩
      exact hleads.mp (hsame other hother hother_id ▸ hother_leads)
  · intro other hother hother_id
    rw [hsame other hother hother_id, hsuccess]
    decide

/-! ### Runs -/

instance (s : ImportWorld) (q : ImportQuery) : Decidable (NotSkipped s q) := by
  unfold NotSkipped
  split
  · infer_instance
  · infer_instance

def one_row_import : ImportCall := btc_import [import_row 1 "bc1q"]

def one_row_world : ImportWorld :=
  (Prog.eval ImportWorld.alone one_row_import.program ⟨.empty btc_chains btc_assets, []⟩).2

def imported_world : ImportWorld :=
  (Prog.eval ImportWorld.alone (ImportCall.process "w1" 0).program one_row_world).2

/-- An address is created, and it exists. -/
theorem created_addresses_hold_imported : ∃ t : ImportWorld, (1, 0) ∈ t.created ∧
    (∃ row ∈ t.tables.addresses.watched_addresses, row.id = 0) ∧
    ∃ attempt ∈ t.tables.attempts, attempt.id = 1 ∧ attempt.status = .success ∧
      attempt.watched_address_id = some 0 := by
  have hcreate : Prog.along ImportWorld.alone (ImportWorld.test NotSkipped) one_row_import.program
      ⟨.empty btc_chains btc_assets, []⟩ = true := by decide +kernel
  have hprocess : Prog.along ImportWorld.alone (ImportWorld.test NotSkipped)
      (ImportCall.process "w1" 0).program one_row_world = true := by decide +kernel
  obtain ⟨ps, hcreated⟩ := call_run () one_row_import _ hcreate fun _ => .done ()
  obtain ⟨qs, hprocessed⟩ := call_run () (.process "w1" 0) one_row_world hprocess ps
  have hentry : (1, 0) ∈ imported_world.created := by decide +kernel
  have hhas : ∃ row ∈ imported_world.tables.addresses.watched_addresses, row.id = 0 := by
    decide +kernel
  exact ⟨imported_world, hentry, hhas,
    (created_addresses_hold (hcreated.trans hprocessed) hentry).1.mp hhas⟩

/-- The user cancels after the worker has renewed its lock. -/
def cancelled_in_between : ImportWorld × (Bool → ImportProg Unit) :=
  let created := work false 1 (take_up false one_row_import (import_start btc_chains btc_assets))
  let renewed := work true 6 (take_up true (.process "w1" 0) created)
  work true 20 (work false 1 (take_up false (.cancel 1 0) renewed))

/-- An address is created for an attempt that ends skipped. -/
theorem skipped_attempt_has_address : ∃ t : ImportWorld, ∃ qs : Bool → ImportProg Unit,
    Relation.ReflTransGen (ImportStep fun _ _ => True) (import_start btc_chains btc_assets) (t, qs) ∧
    (1, 0) ∈ t.created ∧ (∃ row ∈ t.tables.addresses.watched_addresses, row.id = 0) ∧
    ∃ attempt ∈ t.tables.attempts, attempt.id = 1 ∧ attempt.status = .skipped := by
  refine ⟨cancelled_in_between.1, cancelled_in_between.2, ?_, ?_⟩
  · refine .trans (take_up_run false one_row_import _) (.trans (work_run false 1 _) ?_)
    refine .trans (take_up_run true (.process "w1" 0) _) (.trans (work_run true 6 _) ?_)
    exact .trans (take_up_run false (.cancel 1 0) _) (.trans (work_run false 1 _) (work_run true 20 _))
  · decide +kernel

end CoinListener.Worker
