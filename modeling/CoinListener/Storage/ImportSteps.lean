import CoinListener.Storage.AddressImports

/-! What the statements of imports do to tasks, attempts and their counts. -/
namespace CoinListener.Storage
open Foundation

namespace ImportTables

/-! ### Attempts that are done -/

/-- Attempts stay, those that are done as `Done` has it, and others come with new tasks. -/
def AttemptsMove (Done : ImportAttempt → ImportAttempt → Prop) (s t : ImportTables) : Prop :=
  ∃ f added, t.attempts = s.attempts.map f ++ added ∧
    (∀ a ∈ s.attempts, (f a).key = a.key ∧ (a.status ≠ .pending → Done a (f a))) ∧
    ∀ a ∈ added, s.next_id ≤ a.import_task_id

def SameStatus (a b : ImportAttempt) : Prop :=
  b.status = a.status

section Attempts
variable {s t u : ImportTables} {Done Done' : ImportAttempt → ImportAttempt → Prop}
  {tenant_id id : Uuid}

theorem AttemptsMove.of_eq (h : t.attempts = s.attempts) : AttemptsMove Eq s t :=
  ⟨fun a => a, [], by rw [h, List.map_id', List.append_nil], fun _ _ => ⟨rfl, fun _ => rfl⟩,
    fun _ h => absurd h List.not_mem_nil⟩

theorem AttemptsMove.edit {p : ImportAttempt → Bool} {f : ImportAttempt → ImportAttempt}
    (hf : ∀ attempt, (f attempt).key = attempt.key) (hrefl : ∀ a, Done a a)
    (hdone : ∀ a ∈ s.attempts, p a = true → a.status ≠ .pending → Done a (f a)) :
    AttemptsMove Done s (s.edit_attempts p f hf) := by
  refine ⟨Table.revise p f, [], (List.append_nil _).symm, fun a ha => ?_,
    fun _ h => absurd h List.not_mem_nil⟩
  refine ⟨Table.revise_column hf a, fun hstatus => ?_⟩
  cases hp : p a with
  | true =>
    rw [Table.revise_of_true hp]
    exact hdone a ha hp hstatus
  | false =>
    rw [Table.revise_of_false hp]
    exact hrefl a

theorem AttemptsMove.mono (h : AttemptsMove Done s t) (hmono : ∀ a b, Done a b → Done' a b) :
    AttemptsMove Done' s t := by
  obtain ⟨f, added, hrows, hf, hadded⟩ := h
  exact ⟨f, added, hrows, fun a ha => ⟨(hf a ha).1, fun hdone => hmono _ _ ((hf a ha).2 hdone)⟩,
    hadded⟩

theorem AttemptsMove.same_status (h : AttemptsMove Eq s t) : AttemptsMove SameStatus s t :=
  h.mono fun _ _ hsame => congrArg ImportAttempt.status hsame.symm

/-- An attempt that is done stays as it is. -/
theorem AttemptsMove.kept (h : AttemptsMove Eq s t) {a : ImportAttempt} (ha : a ∈ s.attempts)
    (hdone : a.status ≠ .pending) : a ∈ t.attempts := by
  obtain ⟨f, added, hrows, hf, _⟩ := h
  rw [hrows]
  refine List.mem_append_left _ (List.mem_map.mpr ⟨a, ha, ?_⟩)
  exact ((hf a ha).2 hdone).symm

/-! ### Counts -/

theorem pending_none : s.pending_import_attempt_exists tenant_id id = false ↔
    ∀ a ∈ s.attempts, a.is_of tenant_id id = true → a.status ≠ .pending := by
  simp [pending_import_attempt_exists]

/-- A task that was there has no pending attempt if it had none. -/
theorem AttemptsMove.none_pending (h : AttemptsMove SameStatus s t) (hid : id < s.next_id)
    (hnone : s.pending_import_attempt_exists tenant_id id = false) :
    t.pending_import_attempt_exists tenant_id id = false := by
  obtain ⟨f, added, hrows, hf, hadded⟩ := h
  rw [pending_none] at hnone ⊢
  intro b hb hof
  rw [hrows] at hb
  rcases List.mem_append.mp hb with hold | hnew
  · obtain ⟨a, ha, rfl⟩ := List.mem_map.mp hold
    obtain ⟨hkey, hdone⟩ := hf a ha
    have hstatus := hnone a ha (is_of_of_key hkey tenant_id id ▸ hof)
    have hsame : (f a).status = a.status := hdone hstatus
    rwa [hsame]
  · simp only [ImportAttempt.is_of, Bool.and_eq_true, beq_iff_eq] at hof
    have hle := hadded b hnew
    exact absurd hid (Nat.not_lt.mpr (hof.1 ▸ hle))

def counted (tenant_id id : Uuid) (q : ImportAttemptStatus → Bool) (a : ImportAttempt) : Bool :=
  a.is_of tenant_id id && q a.status

/-- No kind of finished attempt becomes fewer. -/
theorem AttemptsMove.count_le (h : AttemptsMove SameStatus s t) {q : ImportAttemptStatus → Bool}
    (hq : q .pending = false) :
    s.attempts.countP (counted tenant_id id q) ≤ t.attempts.countP (counted tenant_id id q) := by
  obtain ⟨f, added, hrows, hf, _⟩ := h
  rw [hrows, List.countP_append, List.countP_map]
  refine Nat.le_add_right_of_le (List.countP_mono_left fun a ha hcounted => ?_)
  obtain ⟨hof, hstatus⟩ := Bool.and_eq_true_iff.mp hcounted
  obtain ⟨hkey, hdone⟩ := hf a ha
  have hsame : (f a).status = a.status := hdone fun hpending => by
    rw [hpending, hq] at hstatus
    cases hstatus
  rw [Function.comp_apply, counted, is_of_of_key hkey, hsame]
  exact hcounted

/-- Where no attempt is pending the counts stay. -/
theorem AttemptsMove.count_eq (h : AttemptsMove SameStatus s t) (hid : id < s.next_id)
    (hnone : s.pending_import_attempt_exists tenant_id id = false)
    (q : ImportAttemptStatus → Bool) :
    t.attempts.countP (counted tenant_id id q) = s.attempts.countP (counted tenant_id id q) := by
  obtain ⟨f, added, hrows, hf, hadded⟩ := h
  have hnew : added.countP (counted tenant_id id q) = 0 := by
    refine List.countP_eq_zero.mpr fun a ha hcounted => ?_
    have hof := (Bool.and_eq_true_iff.mp hcounted).1
    simp only [ImportAttempt.is_of, Bool.and_eq_true, beq_iff_eq] at hof
    exact Nat.lt_irrefl _ (hid.trans_le (hof.1 ▸ hadded a ha))
  rw [hrows, List.countP_append, hnew, Nat.add_zero, List.countP_map]
  refine List.countP_congr fun a ha => ?_
  obtain ⟨hkey, hdone⟩ := hf a ha
  rw [Function.comp_apply, counted, counted, is_of_of_key hkey]
  cases hof : a.is_of tenant_id id with
  | false => rfl
  | true =>
    have hsame : (f a).status = a.status := hdone (pending_none.mp hnone a ha hof)
    rw [hsame]

end Attempts

end ImportTables

/-- These counts are at most those. -/
structure ImportCounts.Le (a b : ImportCounts) : Prop where
  processed_rows : a.processed_rows ≤ b.processed_rows
  success_rows : a.success_rows ≤ b.success_rows
  failed_rows : a.failed_rows ≤ b.failed_rows

theorem ImportCounts.Le.refl (a : ImportCounts) : a.Le a :=
  ⟨Nat.le_refl _, Nat.le_refl _, Nat.le_refl _⟩

theorem ImportCounts.Le.trans {a b c : ImportCounts} (hab : a.Le b) (hbc : b.Le c) : a.Le c :=
  ⟨hab.processed_rows.trans hbc.processed_rows, hab.success_rows.trans hbc.success_rows,
    hab.failed_rows.trans hbc.failed_rows⟩

theorem ImportCounts.Le.antisymm {a b : ImportCounts} (hab : a.Le b) (hba : b.Le a) : a = b := by
  cases a
  cases b
  congr
  · exact Nat.le_antisymm hab.processed_rows hba.processed_rows
  · exact Nat.le_antisymm hab.success_rows hba.success_rows
  · exact Nat.le_antisymm hab.failed_rows hba.failed_rows

namespace ImportTables

section Counts
variable {s t : ImportTables} {tenant_id id : Uuid}

theorem AttemptsMove.counts_le (h : AttemptsMove SameStatus s t) (tenant_id id : Uuid) :
    (s.import_counts tenant_id id).Le (t.import_counts tenant_id id) :=
  ⟨h.count_le (q := fun status => status != .pending) rfl,
    h.count_le (q := fun status => status == .success) rfl,
    h.count_le (q := fun status => status == .failed) rfl⟩

theorem AttemptsMove.counts_eq (h : AttemptsMove SameStatus s t) (hid : id < s.next_id)
    (hnone : s.pending_import_attempt_exists tenant_id id = false) :
    t.import_counts tenant_id id = s.import_counts tenant_id id := by
  have hsame := h.count_eq hid hnone
  exact ImportCounts.mk.injEq .. ▸ ⟨hsame fun status => status != .pending,
    hsame fun status => status == .success, hsame fun status => status == .failed⟩

end Counts

/-! ### Tasks that have ended -/

/-- Tasks stay, and those that have ended keep their status. -/
def TasksMove (s t : ImportTables) : Prop :=
  ∀ a ∈ s.tasks, ∃ b ∈ t.tasks, b.key = a.key ∧ (a.status.is_terminal = true → b.status = a.status)

section Tasks
variable {s t u : ImportTables} {tenant_id id : Uuid} {now : Timestamp} {worker_id : String}

theorem TasksMove.of_eq (h : t.tasks = s.tasks) : TasksMove s t :=
  fun a ha => ⟨a, h ▸ ha, rfl, fun _ => rfl⟩

theorem TasksMove.trans (hst : TasksMove s t) (htu : TasksMove t u) : TasksMove s u := by
  intro a ha
  obtain ⟨b, hb, hkey, hstatus⟩ := hst a ha
  obtain ⟨c, hc, hkey', hstatus'⟩ := htu b hb
  refine ⟨c, hc, hkey'.trans hkey, fun hterminal => ?_⟩
  have hsame := hstatus hterminal
  exact (hstatus' (hsame ▸ hterminal)).trans hsame

theorem TasksMove.edit {p : WatchedAddressImportTask → Bool}
    {f : WatchedAddressImportTask → WatchedAddressImportTask}
    (hf : ∀ task, (f task).key = task.key)
    (hopen : ∀ a ∈ s.tasks, p a = true → a.status.is_terminal = true → (f a).status = a.status) :
    TasksMove s (s.edit_tasks p f hf) := by
  intro a ha
  refine ⟨_, Table.mem_update.mpr ⟨a, ha, rfl⟩, Table.revise_column hf a, fun hterminal => ?_⟩
  cases hp : p a with
  | true =>
    rw [Table.revise_of_true hp]
    exact hopen a ha hp hterminal
  | false => rw [Table.revise_of_false hp]

theorem same_task {a b : WatchedAddressImportTask} (ha : a ∈ s.tasks) (hb : b ∈ s.tasks)
    (hid : a.id = b.id) : a = b :=
  List.inj_on_of_nodup_map s.task_ids ha hb hid

theorem same_attempt {a b : ImportAttempt} (ha : a ∈ s.attempts) (hb : b ∈ s.attempts)
    (hid : a.id = b.id) : a = b :=
  List.inj_on_of_nodup_map s.attempt_ids ha hb hid

theorem is_task_iff {task : WatchedAddressImportTask} :
    task.is_task tenant_id id = true ↔ task.id = id ∧ task.tenant_id = tenant_id := by
  simp [WatchedAddressImportTask.is_task]

theorem task_of_some {attempt : ImportAttempt} {task : WatchedAddressImportTask}
    (h : s.task_of attempt = some task) :
    task ∈ s.tasks ∧ attempt.is_of task.tenant_id task.id = true := by
  have hkey := is_task_iff.mp (List.find?_some h)
  refine ⟨List.mem_of_find?_eq_some h, ?_⟩
  simp [ImportAttempt.is_of, hkey.1, hkey.2]

/-- The task of an attempt is found. -/
theorem task_of_is_of {attempt : ImportAttempt} {task : WatchedAddressImportTask}
    (htask : task ∈ s.tasks) (hof : attempt.is_of task.tenant_id task.id = true) :
    s.task_of attempt = some task := by
  simp only [ImportAttempt.is_of, Bool.and_eq_true, beq_iff_eq] at hof
  cases hfound : s.task_of attempt with
  | none =>
    have hno := List.find?_eq_none.mp hfound task htask
    exact absurd (is_task_iff.mpr ⟨hof.1.symm, hof.2.symm⟩) hno
  | some other =>
    obtain ⟨hmem, hof'⟩ := task_of_some hfound
    simp only [ImportAttempt.is_of, Bool.and_eq_true, beq_iff_eq] at hof'
    exact congrArg some (same_task hmem htask (hof'.1.symm.trans hof.1))

/-! ### One statement after another -/

theorem claim_spec {skipped : Uuid → Bool} {found : Option WatchedAddressImportTask}
    (h : s.claim_next_watched_address_import now worker_id skipped = (found, t)) :
    (found = none ∧ t = s) ∨ ∃ task ∈ s.tasks, task.status.is_terminal = false ∧
      found = some (claimed now worker_id task) ∧
      t = s.edit_tasks (·.id == task.id) (claimed now worker_id) fun _ => rfl := by
  simp only [claim_next_watched_address_import] at h
  split at h
  · obtain ⟨rfl, rfl⟩ := Prod.mk.inj h
    exact .inl ⟨rfl, rfl⟩
  · next task hhead =>
    obtain ⟨rfl, rfl⟩ := Prod.mk.inj h
    have hmem := List.mem_of_mem_head? (Option.mem_def.mpr hhead)
    rw [List.mem_insertionSort] at hmem
    obtain ⟨htask, hclaimable⟩ := List.mem_filter.mp hmem
    refine .inr ⟨task, htask, ?_, rfl, rfl⟩
    cases hstatus : task.status with
    | pending => rfl
    | running => rfl
    | completed => simp [claimable, held_by, stale, hstatus] at hclaimable
    | failed => simp [claimable, held_by, stale, hstatus] at hclaimable
    | cancelled => simp [claimable, held_by, stale, hstatus] at hclaimable

/-- What a mark changes is pending, and its task has not been cancelled. -/
theorem markable_cases {attempt : ImportAttempt} {attempt_id : Uuid} {task_id : Option Uuid}
    {worker : Option String} (h : s.markable tenant_id attempt_id task_id worker attempt = true)
    (mark : ImportAttempt → ImportAttempt) :
    attempt.id = attempt_id ∧
      ((attempt.status = .pending ∧ (∃ task ∈ s.tasks, attempt.is_of task.tenant_id task.id = true ∧
          task.status ≠ .cancelled) ∧ s.marked mark attempt = mark attempt) ∨
        ((attempt.status = .pending ∨ attempt.status = .skipped) ∧
          (∃ task ∈ s.tasks, attempt.is_of task.tenant_id task.id = true ∧
            task.status = .cancelled) ∧ s.marked mark attempt = attempt)) := by
  simp only [markable, Bool.and_eq_true, beq_iff_eq, Option.any_eq_true] at h
  obtain ⟨⟨hid, -⟩, task, hfound, hstatus, -⟩ := h
  refine ⟨hid, ?_⟩
  obtain ⟨htask, hof⟩ := task_of_some hfound
  by_cases hcancelled : task.status = .cancelled
  · refine .inr ⟨?_, ⟨task, htask, hof, hcancelled⟩, by simp [marked, hfound, hcancelled]⟩
    simpa [hcancelled] using hstatus
  · refine .inl ⟨?_, ⟨task, htask, hof, hcancelled⟩, by simp [marked, hfound, hcancelled]⟩
    simpa [hcancelled] using hstatus

theorem mark_moves {attempt_id : Uuid} {task_id : Option Uuid} {worker : Option String}
    {mark : ImportAttempt → ImportAttempt} (hmark : ∀ attempt, (mark attempt).key = attempt.key) :
    AttemptsMove Eq s (s.mark_import_attempt tenant_id attempt_id task_id worker mark hmark).2 := by
  refine .edit (s.marked_key hmark) (fun _ => rfl) fun a _ hfound hdone => ?_
  rcases (markable_cases hfound mark).2 with ⟨hpending, _⟩ | ⟨_, _, hsame⟩
  · exact absurd hpending hdone
  · exact hsame.symm

theorem add_task_moves {request : CreateWatchedAddressImportRequest} {plan : ImportCreatePlan} :
    AttemptsMove Eq s (s.add_task now tenant_id request plan) := by
  refine ⟨fun a => a, s.new_attempts tenant_id plan.attempts, by rw [List.map_id']; rfl,
    fun _ _ => ⟨rfl, fun _ => rfl⟩, fun a ha => ?_⟩
  exact (mem_new_attempts ha).1.ge

theorem add_task_tasks {request : CreateWatchedAddressImportRequest} {plan : ImportCreatePlan} :
    TasksMove s (s.add_task now tenant_id request plan) :=
  fun a ha => ⟨a, List.mem_append_left _ ha, rfl, fun _ => rfl⟩

theorem skipped_key (attempt : ImportAttempt) : (skipped attempt).key = attempt.key :=
  rfl

theorem cancel_attempts_moves : AttemptsMove Eq s (s.cancel_import_attempts tenant_id id) := by
  refine .edit skipped_key (fun _ => rfl) fun a _ hopen hdone => ?_
  simp only [Bool.and_eq_true, beq_iff_eq] at hopen
  exact absurd hopen.1.2 hdone

/-- A cancel that succeeds leaves none of the attempts of its task pending. -/
theorem cancel_attempts_none {task : WatchedAddressImportTask} (htask : task ∈ s.tasks)
    (hkey : task.is_task tenant_id id = true) (hopen : task.status.is_terminal = false) :
    (s.cancel_import_attempts tenant_id id).pending_import_attempt_exists tenant_id id = false := by
  rw [pending_none]
  intro b hb hof hpending
  obtain ⟨a, ha, rfl⟩ := Table.mem_update.mp hb
  rw [is_of_of_key (Table.revise_column skipped_key a)] at hof
  obtain ⟨rfl, rfl⟩ := is_task_iff.mp hkey
  have hfound := task_of_is_of htask hof
  cases hstatus : a.status == .pending with
  | true => simp [Table.revise, hof, hstatus, hfound, hopen, skipped] at hpending
  | false =>
    rw [Table.revise_of_false (by simp [hstatus])] at hpending
    exact absurd hpending (beq_eq_false_iff_ne.mp hstatus)

theorem cancel_spec {cancelled_task : WatchedAddressImportTask}
    (h : s.cancel_watched_address_import now tenant_id id = .ok (cancelled_task, t)) :
    ∃ task ∈ s.tasks, task.is_task tenant_id id = true ∧ task.status.is_terminal = false ∧
      t = (s.cancel_import_attempts tenant_id id).edit_tasks
        (fun task => task.is_task tenant_id id && !task.status.is_terminal)
        (cancelled ((s.cancel_import_attempts tenant_id id).import_counts tenant_id id) now)
        fun _ => rfl := by
  simp only [cancel_watched_address_import] at h
  split at h
  · cases h
  · next task hfound =>
    obtain ⟨-, rfl⟩ := Prod.mk.inj (Except.ok.inj h)
    have hopen := List.find?_some hfound
    simp only [Bool.and_eq_true, Bool.not_eq_true'] at hopen
    exact ⟨task, List.mem_of_find?_eq_some hfound, hopen.1, hopen.2, rfl⟩

/-- An import attempt that is carried out: the address is new, and the attempt was found. -/
theorem create_for_attempt_spec {task_id attempt_id : Uuid} {request : CreateWatchedAddressRequest}
    {asset_ids : List Uuid} {response : WatchedAddressResponse}
    (h : s.create_watched_address_for_import_attempt tenant_id task_id worker_id attempt_id request
      asset_ids = .ok (response, t)) :
    ∃ addresses, s.addresses.create_watched_address_in_transaction request asset_ids =
        .ok (response, addresses) ∧ response.id = s.addresses.next_id ∧
      (∃ attempt ∈ s.attempts,
        s.markable tenant_id attempt_id (some task_id) (some worker_id) attempt = true) ∧
      t = { (s.mark_import_attempt tenant_id attempt_id (some task_id) (some worker_id)
        (succeeded response.id) fun _ => rfl).2 with addresses := addresses } := by
  obtain ⟨⟨created, addresses⟩, hcreate, h⟩ := bind_ok h
  obtain ⟨_, hfound, h⟩ := bind_ok h
  obtain ⟨rfl, rfl⟩ := Prod.mk.inj (Except.ok.inj h)
  refine ⟨addresses, hcreate, ?_, ?_, rfl⟩
  · obtain ⟨⟨row, u⟩, hinsert, hresult⟩ := bind_ok hcreate
    obtain ⟨_, hrow⟩ := insert_ok hinsert
    obtain ⟨rfl, -⟩ := Prod.mk.inj hrow
    obtain ⟨rfl, -⟩ := Prod.mk.inj (Except.ok.inj hresult)
    rfl
  · rw [ensure_ok, decide_eq_true_eq] at hfound
    exact List.countP_pos_iff.mp (Nat.pos_of_ne_zero hfound)

end Tasks

end ImportTables

end CoinListener.Storage
