import CoinListener.Storage.ImportSteps
import CoinListener.Worker.AddressImports

/-! Counts and ends of import tasks that several workers take for their own. -/
namespace CoinListener.Worker
open Foundation Storage
open ImportTables (AttemptsMove TasksMove SameStatus)

/-! ### The invariant -/

/-- A task that has ended, with nothing left to do: its counts are those of its attempts, and they
say how it ended unless it was cancelled. -/
structure TaskSettled (t : ImportTables) (task : WatchedAddressImportTask) : Prop where
  none_pending : t.pending_import_attempt_exists task.tenant_id task.id = false
  counts : task.toImportCounts = t.import_counts task.tenant_id task.id
  failed : task.status ≠ .cancelled → (task.status = .failed ↔
    task.success_rows = 0 ∧ 0 < task.failed_rows)

/-- The counts of a task may be late, but not once it has ended. -/
structure TaskKept (t : ImportTables) (task : WatchedAddressImportTask) : Prop where
  late : task.toImportCounts.Le (t.import_counts task.tenant_id task.id)
  ended : task.status.is_terminal = true → TaskSettled t task

def CountsKept (t : ImportTables) : Prop :=
  ∀ task ∈ t.tasks, TaskKept t task

/-- The counts that are written, and those that a task is completed on, are still the counts of its
attempts. -/
def CountsCurrent (s : ImportWorld) : ImportQuery → Prop
  | .write_import_task_counts tenant_id task_id counts =>
    counts = s.tables.import_counts tenant_id task_id
  | .complete_import tenant_id task_id _ _ counts =>
    counts = s.tables.import_counts tenant_id task_id
  | _ => True

/-! ### What a worker knows -/

inductive ImportFact where
  | nothing
  | issued (id : Uuid)
  | written (tenant_id id : Uuid) (counts : ImportCounts)
  | finished (tenant_id id : Uuid) (counts : ImportCounts)

/-- The task has at least these counts. -/
def CountsWritten (t : ImportTables) (tenant_id id : Uuid) (counts : ImportCounts) : Prop :=
  ∀ task ∈ t.tasks, task.is_task tenant_id id = true → counts.Le task.toImportCounts

def import_known : ImportFact → ImportWorld → Prop
  | .nothing, _ => True
  | .issued id, s => id < s.tables.next_id
  | .written tenant_id id counts, s =>
    id < s.tables.next_id ∧ CountsWritten s.tables tenant_id id counts
  | .finished tenant_id id counts, s =>
    id < s.tables.next_id ∧ CountsWritten s.tables tenant_id id counts ∧
      s.tables.pending_import_attempt_exists tenant_id id = false

/-- A task is completed by a worker that has found nothing left to do. -/
def MayComplete (s : ImportWorld) : ImportStatement → Prop
  | .db (.complete_import tenant_id task_id status _ counts) =>
    status = next_status counts ∧ import_known (.finished tenant_id task_id counts) s
  | _ => True

/-- Counts grow, and attempts that are done stay so. -/
structure CountsMove (s t : ImportTables) : Prop where
  next_id : s.next_id ≤ t.next_id
  attempts : AttemptsMove SameStatus s t
  tasks : ∀ b ∈ t.tasks, s.next_id ≤ b.id ∨
    ∃ a ∈ s.tasks, b.key = a.key ∧ a.toImportCounts.Le b.toImportCounts

theorem is_task_of_key {a b : WatchedAddressImportTask} (h : b.key = a.key)
    (tenant_id id : Uuid) : b.is_task tenant_id id = a.is_task tenant_id id := by
  rw [WatchedAddressImportTask.is_task, WatchedAddressImportTask.is_task, task_id_of_key h,
    task_tenant_of_key h]

section Steps
variable {s t : ImportTables} {tenant_id id : Uuid} {counts : ImportCounts} {now : Timestamp}

theorem CountsWritten.move (hst : CountsMove s t) (hid : id < s.next_id)
    (h : CountsWritten s tenant_id id counts) : CountsWritten t tenant_id id counts := by
  intro b hb hkey
  rcases hst.tasks b hb with hnew | ⟨a, ha, hsame, hle⟩
  · have hb_id := (ImportTables.is_task_iff.mp hkey).1
    exact absurd hid (Nat.not_lt.mpr (hb_id ▸ hnew))
  · exact (h a ha (is_task_of_key hsame tenant_id id ▸ hkey)).trans hle

theorem CountsMove.keeps {s t : ImportWorld} (hst : CountsMove s.tables t.tables) :
    Prog.Keeps import_known s t := by
  intro fact h
  cases fact with
  | nothing => trivial
  | issued id => exact Nat.lt_of_lt_of_le h hst.next_id
  | written tenant_id id counts => exact ⟨h.1.trans_le hst.next_id, h.2.move hst h.1⟩
  | finished tenant_id id counts =>
    exact ⟨h.1.trans_le hst.next_id, h.2.1.move hst h.1, hst.attempts.none_pending h.1 h.2.2⟩

theorem CountsMove.of_attempts (hnext : s.next_id ≤ t.next_id) (htasks : t.tasks = s.tasks)
    (hattempts : AttemptsMove SameStatus s t) : CountsMove s t :=
  ⟨hnext, hattempts, fun b hb => .inr ⟨b, htasks ▸ hb, rfl, .refl _⟩⟩

theorem CountsMove.refl (s : ImportTables) : CountsMove s s :=
  .of_attempts (Nat.le_refl _) rfl (AttemptsMove.of_eq rfl).same_status

theorem edit_tasks_attempts {p : WatchedAddressImportTask → Bool}
    {f : WatchedAddressImportTask → WatchedAddressImportTask}
    (hf : ∀ task, (f task).key = task.key) : AttemptsMove SameStatus s (s.edit_tasks p f hf) :=
  AttemptsMove.same_status (.of_eq rfl)

theorem counts_grow {p : WatchedAddressImportTask → Bool}
    {f : WatchedAddressImportTask → WatchedAddressImportTask}
    (hf : ∀ task, (f task).key = task.key)
    (hle : ∀ a ∈ s.tasks, p a = true → a.toImportCounts.Le (f a).toImportCounts) :
    ∀ b ∈ (s.edit_tasks p f hf).tasks, ∃ a ∈ s.tasks, b.key = a.key ∧
      a.toImportCounts.Le b.toImportCounts := by
  intro b hb
  obtain ⟨a, ha, rfl⟩ := Table.mem_update.mp hb
  refine ⟨a, ha, Table.revise_column hf a, ?_⟩
  cases hp : p a with
  | true =>
    rw [Table.revise_of_true hp]
    exact hle a ha hp
  | false =>
    rw [Table.revise_of_false hp]
    exact .refl _

theorem CountsMove.edit_tasks {p : WatchedAddressImportTask → Bool}
    {f : WatchedAddressImportTask → WatchedAddressImportTask}
    (hf : ∀ task, (f task).key = task.key)
    (hle : ∀ a ∈ s.tasks, p a = true → a.toImportCounts.Le (f a).toImportCounts) :
    CountsMove s (s.edit_tasks p f hf) :=
  ⟨Nat.le_refl _, edit_tasks_attempts hf, fun b hb => .inr (counts_grow hf hle b hb)⟩

/-! ### Tasks one by one -/

theorem TaskSettled.move (hst : AttemptsMove SameStatus s t) {task : WatchedAddressImportTask}
    (hid : task.id < s.next_id) (h : TaskSettled s task) : TaskSettled t task :=
  ⟨hst.none_pending hid h.none_pending,
    h.counts.trans (hst.counts_eq hid h.none_pending).symm, h.failed⟩

theorem TaskKept.move (hst : AttemptsMove SameStatus s t) {task : WatchedAddressImportTask}
    (hid : task.id < s.next_id) (h : TaskKept s task) : TaskKept t task :=
  ⟨h.late.trans (hst.counts_le task.tenant_id task.id),
    fun hterminal => (h.ended hterminal).move hst hid⟩

theorem CountsKept.move (hs : CountsKept s) (hst : AttemptsMove SameStatus s t)
    (htasks : ∀ b ∈ t.tasks, b ∈ s.tasks ∨ TaskKept t b) : CountsKept t := by
  intro b hb
  rcases htasks b hb with hold | hnew
  · exact (hs b hold).move hst (s.task_lt b hold)
  · exact hnew

theorem CountsKept.edit (hs : CountsKept s) {p : WatchedAddressImportTask → Bool}
    {f : WatchedAddressImportTask → WatchedAddressImportTask}
    (hf : ∀ task, (f task).key = task.key)
    (hnew : ∀ a ∈ s.tasks, p a = true → TaskKept (s.edit_tasks p f hf) (f a)) :
    CountsKept (s.edit_tasks p f hf) := by
  intro b hb
  obtain ⟨a, ha, rfl⟩ := Table.mem_update.mp hb
  cases hp : p a with
  | false =>
    rw [Table.revise_of_false hp]
    exact (hs a ha).move (edit_tasks_attempts hf) (s.task_lt a ha)
  | true =>
    rw [Table.revise_of_true hp]
    exact hnew a ha hp

/-- A change that keeps the counts and ends no task. -/
theorem CountsKept.touch (hs : CountsKept s) {p : WatchedAddressImportTask → Bool}
    {f : WatchedAddressImportTask → WatchedAddressImportTask}
    (hf : ∀ task, (f task).key = task.key)
    (hcounts : ∀ task, (f task).toImportCounts = task.toImportCounts)
    (hstatus : ∀ task, (f task).status.is_terminal = false ∨ (f task).status = task.status) :
    CountsKept (s.edit_tasks p f hf) := by
  refine hs.edit hf fun a ha _ => ?_
  have hold : TaskKept (s.edit_tasks p f hf) a :=
    (hs a ha).move (edit_tasks_attempts hf) (s.task_lt a ha)
  refine ⟨?_, fun hterminal => ?_⟩
  · rw [hcounts, task_id_of_key (hf a), task_tenant_of_key (hf a)]
    exact hold.late
  rcases hstatus a with hopen | hsame
  · rw [hopen] at hterminal
    cases hterminal
  have hended := hold.ended (hsame ▸ hterminal)
  have hsuccess : (f a).success_rows = a.success_rows :=
    congrArg ImportCounts.success_rows (hcounts a)
  have hfailed : (f a).failed_rows = a.failed_rows := congrArg ImportCounts.failed_rows (hcounts a)
  constructor
  · rw [task_id_of_key (hf a), task_tenant_of_key (hf a)]
    exact hended.none_pending
  · rw [hcounts, task_id_of_key (hf a), task_tenant_of_key (hf a)]
    exact hended.counts
  · rw [hsame, hsuccess, hfailed]
    exact hended.failed

/-- Counts are written while they are right. -/
theorem CountsKept.write (hs : CountsKept s)
    (hcounts : counts = s.import_counts tenant_id id) :
    CountsKept (s.write_import_task_counts tenant_id id counts).2 := by
  refine hs.edit (by exact fun _ => rfl) fun a ha hkey => ?_
  obtain ⟨rfl, rfl⟩ := ImportTables.is_task_iff.mp hkey
  subst hcounts
  refine ⟨.refl _, fun hterminal => ?_⟩
  have hended := (hs a ha).ended hterminal
  have hsuccess : a.success_rows = _ := congrArg ImportCounts.success_rows hended.counts
  have hfailed : a.failed_rows = _ := congrArg ImportCounts.failed_rows hended.counts
  refine ⟨hended.none_pending, rfl, fun hstatus => (hended.failed hstatus).trans ?_⟩
  rw [hsuccess, hfailed]
  rfl

/-- A task is completed on counts that are right. -/
theorem CountsKept.complete (hs : CountsKept s) (hcounts : counts = s.import_counts tenant_id id)
    (hwritten : CountsWritten s tenant_id id counts)
    (hnone : s.pending_import_attempt_exists tenant_id id = false) :
    CountsKept (s.complete_import tenant_id id (next_status counts) now).2 := by
  refine hs.edit (by exact fun _ => rfl) fun a ha hp => ?_
  have hkey := (Bool.and_eq_true_iff.mp hp).1
  obtain ⟨rfl, rfl⟩ := ImportTables.is_task_iff.mp hkey
  have hsame : a.toImportCounts = counts :=
    ((hs a ha).late.trans (hcounts ▸ .refl _)).antisymm (hwritten a ha hkey)
  refine ⟨(hs a ha).late, fun _ => ⟨hnone, hsame.trans hcounts, fun _ => ?_⟩⟩
  have hsuccess : a.success_rows = counts.success_rows :=
    congrArg ImportCounts.success_rows hsame
  have hfailed : a.failed_rows = counts.failed_rows := congrArg ImportCounts.failed_rows hsame
  change next_status counts = .failed ↔ a.success_rows = 0 ∧ 0 < a.failed_rows
  rw [hsuccess, hfailed, next_status]
  split
  · next hfails => exact iff_of_true rfl hfails
  · next hfails => exact iff_of_false nofun hfails

/-- A task is cancelled with the counts that its attempts then have. -/
theorem CountsKept.cancel (hs : CountsKept s) {task : WatchedAddressImportTask}
    (h : s.cancel_watched_address_import now tenant_id id = .ok (task, t)) :
    CountsKept t ∧ CountsMove s t := by
  obtain ⟨found, hfound, hkey, hopen, rfl⟩ := ImportTables.cancel_spec h
  have hskipped : AttemptsMove SameStatus s (s.cancel_import_attempts tenant_id id) :=
    ImportTables.cancel_attempts_moves.same_status
  have hkept : CountsKept (s.cancel_import_attempts tenant_id id) :=
    hs.move hskipped fun b hb => .inl hb
  have hnone := ImportTables.cancel_attempts_none hfound hkey hopen
  constructor
  · refine hkept.edit (by exact fun _ => rfl) fun a ha hp => ?_
    obtain ⟨rfl, rfl⟩ := ImportTables.is_task_iff.mp (Bool.and_eq_true_iff.mp hp).1
    exact ⟨.refl _, fun _ => ⟨hnone, rfl, fun hne => absurd rfl hne⟩⟩
  · refine ⟨Nat.le_refl _, hskipped, fun b hb => .inr (counts_grow (by exact fun _ => rfl) ?_ b hb)⟩
    intro a ha hp
    obtain ⟨rfl, rfl⟩ := ImportTables.is_task_iff.mp (Bool.and_eq_true_iff.mp hp).1
    exact (hkept a ha).late

theorem CountsKept.add_task (hs : CountsKept s) {request : CreateWatchedAddressImportRequest}
    {plan : ImportCreatePlan} : CountsKept (s.add_task now tenant_id request plan) ∧
      CountsMove s (s.add_task now tenant_id request plan) := by
  have hmoves : AttemptsMove SameStatus s (s.add_task now tenant_id request plan) :=
    ImportTables.add_task_moves.same_status
  constructor
  · refine hs.move hmoves fun b hb => (List.mem_append.mp hb).imp_right fun hnew => ?_
    rw [List.mem_singleton.mp hnew]
    exact ⟨⟨Nat.zero_le _, Nat.zero_le _, Nat.zero_le _⟩, nofun⟩
  · refine ⟨Nat.le_add_right_of_le (Nat.le_succ _), hmoves, fun b hb => ?_⟩
    rcases List.mem_append.mp hb with hold | hnew
    · exact .inr ⟨b, hold, rfl, .refl _⟩
    · rw [List.mem_singleton.mp hnew]
      exact .inl (Nat.le_refl s.next_id)

theorem CountsKept.attempts (hs : CountsKept s) (hnext : s.next_id ≤ t.next_id)
    (htasks : t.tasks = s.tasks) (hattempts : AttemptsMove SameStatus s t) :
    CountsKept t ∧ CountsMove s t :=
  ⟨hs.move hattempts fun _ hb => .inl (htasks ▸ hb), .of_attempts hnext htasks hattempts⟩

end Steps

/-! ### Statements and calls -/

section Calls
variable {s t : ImportWorld} {now : Timestamp} {skipped : Uuid → Bool}

theorem query_counts (hs : CountsKept s.tables) {q : ImportQuery} (hC : CountsCurrent s q)
    (hA : MayComplete s (.db q)) : CountsKept (s.query now skipped q).2.tables ∧
      CountsMove s.tables (s.query now skipped q).2.tables := by
  have hsame : CountsKept s.tables ∧ CountsMove s.tables s.tables := ⟨hs, .refl _⟩
  cases q with
  | create_watched_address_import tenant_id request plan =>
    simp only [ImportWorld.query, ImportTables.create_watched_address_import]
    split
    · exact hs.add_task
    · exact hsame
  | claim_next_watched_address_import at_time worker_id =>
    simp only [ImportWorld.query]
    obtain ⟨_, htables⟩ | ⟨task, _, _, _, htables⟩ := ImportTables.claim_spec
      (Prod.mk.eta (p := s.tables.claim_next_watched_address_import at_time worker_id skipped)).symm
    · rw [htables]
      exact hsame
    · rw [htables]
      exact ⟨hs.touch (by exact fun _ => rfl) (fun _ => rfl) fun _ => .inl rfl,
        .edit_tasks (by exact fun _ => rfl) fun _ _ _ => .refl _⟩
  | renew_watched_address_import_lock =>
    exact ⟨hs.touch (by exact fun _ => rfl) (fun _ => rfl) fun _ => .inr rfl,
      .edit_tasks (by exact fun _ => rfl) fun _ _ _ => .refl _⟩
  | pending_import_attempts => exact hsame
  | validate_watched_address_create_request => exact hsame
  | create_watched_address_for_import_attempt tenant_id task_id worker_id attempt_id request
      asset_ids =>
    simp only [ImportWorld.query]
    cases hcreate : s.tables.create_watched_address_for_import_attempt tenant_id task_id worker_id
        attempt_id request asset_ids with
    | error e => exact hsame
    | ok result =>
      obtain ⟨addresses, _, _, _, htables⟩ := ImportTables.create_for_attempt_spec hcreate
      have hmoves : AttemptsMove Eq s.tables (s.tables.mark_import_attempt tenant_id attempt_id
          (some task_id) (some worker_id) (ImportTables.succeeded result.1.id) fun _ => rfl).2 :=
        ImportTables.mark_moves _
      dsimp only
      rw [htables]
      exact hs.attempts (Nat.le_refl _) rfl hmoves.same_status
  | mark_import_attempt_failed_with_lock =>
    exact hs.attempts (Nat.le_refl _) rfl
      (AttemptsMove.same_status (ImportTables.mark_moves (by exact fun _ => rfl)))
  | import_counts => exact hsame
  | write_import_task_counts tenant_id task_id counts =>
    refine ⟨hs.write hC, .edit_tasks (by exact fun _ => rfl) fun a ha hkey => ?_⟩
    obtain ⟨rfl, rfl⟩ := ImportTables.is_task_iff.mp hkey
    exact (hs a ha).late.trans (hC ▸ .refl _)
  | pending_import_attempt_exists => exact hsame
  | complete_import tenant_id task_id status at_time counts =>
    obtain ⟨rfl, _, hwritten, hnone⟩ := hA
    exact ⟨hs.complete hC hwritten hnone, .edit_tasks (by exact fun _ => rfl) fun _ _ _ => .refl _⟩
  | cancel_watched_address_import tenant_id id =>
    simp only [ImportWorld.query]
    cases hcancel : s.tables.cancel_watched_address_import now tenant_id id with
    | error e => exact hsame
    | ok result => exact hs.cancel hcancel

theorem carried_counts (hs : CountsKept s.tables) {op : ImportStatement}
    {r : AppResult op.Answer} (hA : MayComplete s op) (h : ImportCarried CountsCurrent s op r t) :
    CountsKept t.tables ∧ CountsMove s.tables t.tables := by
  cases h with
  | db now skipped hC hfate =>
    rcases hfate.state with rfl | rfl
    · exact ⟨hs, .refl _⟩
    · exact query_counts hs hC hA
  | utc_now => exact ⟨hs, .refl _⟩

theorem others_counts (hs : CountsKept s.tables) (h : ImportOthers s t) :
    CountsKept t.tables ∧ CountsMove s.tables t.tables := by
  cases h with
  | write op _ => exact hs.attempts (Nat.le_refl _) rfl (AttemptsMove.same_status (.of_eq rfl))
  | edit chains assets =>
    exact hs.attempts (Nat.le_refl _) rfl (AttemptsMove.same_status (.of_eq rfl))
  | delete tenant_id id =>
    simp only [ImportTables.delete_watched_address]
    split
    · have hmoves : AttemptsMove SameStatus s.tables (s.tables.edit_attempts
          (ImportTables.leads_to id) ImportTables.astray fun _ => rfl) :=
        .edit (by exact fun _ => rfl) (fun _ => rfl) fun _ _ _ _ => rfl
      exact hs.attempts (Nat.le_refl _) rfl hmoves
    · exact ⟨hs, .refl _⟩

/-- No statement takes back the end of a task. -/
theorem query_tasks (s : ImportWorld) (q : ImportQuery) :
    TasksMove s.tables (s.query now skipped q).2.tables := by
  have hsame : TasksMove s.tables s.tables := .of_eq rfl
  cases q with
  | create_watched_address_import tenant_id request plan =>
    simp only [ImportWorld.query, ImportTables.create_watched_address_import]
    split
    · exact ImportTables.add_task_tasks
    · exact hsame
  | claim_next_watched_address_import at_time worker_id =>
    simp only [ImportWorld.query]
    obtain ⟨_, htables⟩ | ⟨task, htask, hopen, _, htables⟩ := ImportTables.claim_spec
      (Prod.mk.eta (p := s.tables.claim_next_watched_address_import at_time worker_id skipped)).symm
    · rw [htables]
      exact hsame
    · rw [htables]
      refine .edit (by exact fun _ => rfl) fun a ha hp hterminal => ?_
      rw [ImportTables.same_task ha htask (beq_iff_eq.mp hp), hopen] at hterminal
      cases hterminal
  | renew_watched_address_import_lock => exact .edit (by exact fun _ => rfl) fun _ _ _ _ => rfl
  | pending_import_attempts => exact hsame
  | validate_watched_address_create_request => exact hsame
  | create_watched_address_for_import_attempt tenant_id task_id worker_id attempt_id request
      asset_ids =>
    simp only [ImportWorld.query]
    cases hcreate : s.tables.create_watched_address_for_import_attempt tenant_id task_id worker_id
        attempt_id request asset_ids with
    | error e => exact hsame
    | ok result =>
      obtain ⟨addresses, _, _, _, htables⟩ := ImportTables.create_for_attempt_spec hcreate
      dsimp only
      rw [htables]
      exact .of_eq rfl
  | mark_import_attempt_failed_with_lock => exact .of_eq rfl
  | import_counts => exact hsame
  | write_import_task_counts => exact .edit (by exact fun _ => rfl) fun _ _ _ _ => rfl
  | pending_import_attempt_exists => exact hsame
  | complete_import =>
    refine .edit (by exact fun _ => rfl) fun a _ hp hterminal => ?_
    rw [beq_iff_eq.mp (Bool.and_eq_true_iff.mp hp).2] at hterminal
    cases hterminal
  | cancel_watched_address_import tenant_id id =>
    simp only [ImportWorld.query]
    cases hcancel : s.tables.cancel_watched_address_import now tenant_id id with
    | error e => exact hsame
    | ok result =>
      obtain ⟨_, _, _, _, htables⟩ := ImportTables.cancel_spec hcancel
      dsimp only [ImportWorld.committed]
      rw [htables]
      have hskipped : TasksMove s.tables (s.tables.cancel_import_attempts tenant_id id) :=
        .of_eq rfl
      refine hskipped.trans (.edit (by exact fun _ => rfl) fun a _ hp hterminal => ?_)
      simp [hterminal] at hp

/-- The statements that complete no task. -/
def ImportStatement.Plain : ImportStatement → Prop
  | .db (.complete_import ..) => False
  | _ => True

theorem ImportStatement.Plain.allowed {op : ImportStatement} (h : op.Plain) (s : ImportWorld) :
    MayComplete s op := by
  cases op with
  | utc_now => trivial
  | db q =>
    cases q with
    | complete_import => exact h.elim
    | _ => trivial

abbrev ImportTriple {α : Type} (i : ImportFact) (p : ImportProg α) (j : α → ImportFact) : Prop :=
  Prog.Triple MayComplete
    (Prog.Within (fun s => CountsKept s.tables) (ImportCarried CountsCurrent))
    (Prog.Assn.of import_known i) p (fun a => Prog.Assn.of import_known (j a))
    fun _ => Prog.Assn.of import_known .nothing

/-- What is known stays so while no task is completed. -/
theorem plain_triple {α : Type} {p : ImportProg α} (hp : p.Only ImportStatement.Plain)
    (i : ImportFact) : ImportTriple i p fun _ => i := by
  have hkeep : Prog.Triple MayComplete
      (Prog.Within (fun s => CountsKept s.tables) (ImportCarried CountsCurrent))
      (Prog.Assn.of import_known i) p (fun _ => Prog.Assn.of import_known i)
      fun _ => Prog.Assn.of import_known i := by
    refine .of_only hp (fun op hop s _ => hop.allowed s) fun op hop s hs r t ht => ?_
    exact (carried_counts ht.1 (hop.allowed s) ht.2.1).2.keeps i hs
  exact hkeep.consequence (fun _ h => h) (fun _ _ h => h) fun _ _ _ => trivial

theorem query_plain {q : ImportQuery} (h : (ImportStatement.db q).Plain) :
    (import_query q).Only ImportStatement.Plain :=
  .perform h

/-- What a carried-out statement has answered. -/
theorem carried_answer {C : ImportWorld → ImportQuery → Prop} {q : ImportQuery} {a : q.Answer}
    (h : ImportCarried C s (.db q) (.ok a) t) :
    ∃ now skipped, s.query now skipped q = (.ok a, t) := by
  cases h with
  | db now skipped _ hfate =>
    obtain ⟨hanswer, hstate⟩ := hfate.answer
    exact ⟨now, skipped, Prod.ext hanswer hstate⟩

/-- What is known once a refresh has answered. -/
def refreshed (tenant_id id : Uuid) : Option WatchedAddressImportTask → ImportFact
  | none => .nothing
  | some task => .written tenant_id id task.toImportCounts

theorem write_triple (tenant_id id : Uuid) (counts : ImportCounts) :
    ImportTriple (.issued id) (import_query (.write_import_task_counts tenant_id id counts))
      (refreshed tenant_id id) := by
  refine .perform (fun _ _ => (trivial : True)) fun s hs r t ht => ?_
  have hallowed : MayComplete s (.db (.write_import_task_counts tenant_id id counts)) := trivial
  have hmoves := (carried_counts ht.1 hallowed ht.2.1).2
  cases r with
  | error e => trivial
  | ok found =>
    cases found with
    | none => trivial
    | some task =>
      obtain ⟨now, skipped, hquery⟩ := carried_answer ht.2.1
      obtain ⟨hfound, rfl⟩ := Prod.mk.inj hquery
      obtain ⟨old, _, rfl⟩ := Option.map_eq_some_iff.mp (Except.ok.inj hfound)
      refine ⟨Nat.lt_of_lt_of_le hs hmoves.next_id, fun b hb hkey => ?_⟩
      obtain ⟨a, ha, rfl⟩ := Table.mem_update.mp hb
      cases hp : a.is_task tenant_id id with
      | true =>
        rw [Table.revise_of_true (p := fun task : WatchedAddressImportTask =>
          task.is_task tenant_id id) hp]
        exact .refl _
      | false =>
        rw [Table.revise_of_false (p := fun task : WatchedAddressImportTask =>
          task.is_task tenant_id id) hp, hp] at hkey
        cases hkey

theorem refresh_triple (tenant_id id : Uuid) :
    ImportTriple (.issued id) (refresh_import_task_counts tenant_id id) fun task =>
      .written tenant_id id task.toImportCounts := by
  refine .bind Prog.Keeps.refl (plain_triple (query_plain (by trivial)) _) fun counts => ?_
  refine .bind Prog.Keeps.refl (write_triple tenant_id id counts) fun found => ?_
  cases found with
  | none => exact .fail fun _ _ => trivial
  | some task => exact .done fun _ h => h

/-- A worker completes the task only when it has found no attempt pending. -/
theorem complete_triple (tenant_id id : Uuid) (now : Timestamp) :
    ImportTriple (.issued id) (complete_import_if_finished tenant_id id now) fun _ => .nothing := by
  refine .bind Prog.Keeps.refl (refresh_triple tenant_id id) fun task => ?_
  split
  · exact .done fun _ _ => trivial
  refine .bind Prog.Keeps.refl (Q := fun has_pending_attempts => Prog.Assn.of import_known
    (if has_pending_attempts then .nothing else .finished tenant_id id task.toImportCounts))
    (.perform (fun _ _ => (trivial : True)) fun s hs r t ht => ?_) fun has_pending_attempts => ?_
  · cases r with
    | error e => trivial
    | ok has_pending_attempts =>
      obtain ⟨now, skipped, hquery⟩ := carried_answer ht.2.1
      obtain ⟨hpending, rfl⟩ := Prod.mk.inj hquery
      cases has_pending_attempts with
      | true => trivial
      | false => exact ⟨hs.1, hs.2, Except.ok.inj hpending⟩
  · cases has_pending_attempts with
    | true => exact .done fun _ _ => trivial
    | false =>
      refine .bind Prog.Keeps.refl (Q := fun _ => Prog.Assn.of import_known .nothing)
        (.perform (fun s hs => ⟨rfl, hs⟩) fun _ _ r _ _ => ?_) fun _ => .done fun _ h => h
      cases r with
      | ok completed => trivial
      | error e => trivial

theorem renew_plain (tenant_id id : Uuid) (worker_id : String) (now : Timestamp) :
    (renew_watched_address_import_lock tenant_id id worker_id now).Only ImportStatement.Plain :=
  .bind (query_plain (by trivial)) fun _ => .lift

theorem process_attempt_plain (worker_id : String) (task : WatchedAddressImportTask)
    (attempt : WatchedAddressImportAttempt) :
    (process_import_attempt worker_id task attempt).Only ImportStatement.Plain := by
  refine .bind (.perform (by trivial)) fun _ => .bind (renew_plain ..) fun _ => ?_
  refine .bind (.attempt (.bind (query_plain (by trivial)) fun _ => query_plain (by trivial)))
    fun created => ?_
  cases created with
  | ok response => exact .done
  | error error => exact .bind (.bind (query_plain (by trivial)) fun _ => .lift) fun _ => .done

theorem process_triple (worker_id : String) (now : Timestamp) :
    ImportTriple .nothing (process_one_address_import_task worker_id now) fun _ => .nothing := by
  refine .bind Prog.Keeps.refl (Q := fun claimed => Prog.Assn.of import_known
    (claimed.elim .nothing fun task => .issued task.id))
    (.perform (fun _ _ => (trivial : True)) fun s _ r t ht => ?_) fun claimed => ?_
  · cases r with
    | error e => trivial
    | ok claimed =>
      obtain ⟨at_time, skipped, hquery⟩ := carried_answer ht.2.1
      obtain ⟨hclaimed, rfl⟩ := Prod.mk.inj hquery
      obtain ⟨hnone, _⟩ | ⟨task, htask, _, hfound, htables⟩ := ImportTables.claim_spec
        (Prod.mk.eta (p := s.tables.claim_next_watched_address_import now worker_id skipped)).symm
      · obtain rfl := (Except.ok.inj hclaimed).symm.trans hnone
        trivial
      · obtain rfl := (Except.ok.inj hclaimed).symm.trans hfound
        change task.id < (s.tables.claim_next_watched_address_import now worker_id skipped).2.next_id
        rw [htables]
        exact s.tables.task_lt task htask
  · cases claimed with
    | none => exact .done fun _ h => h
    | some task =>
      refine .bind Prog.Keeps.refl (plain_triple (renew_plain ..) _) fun _ => ?_
      refine .bind Prog.Keeps.refl (plain_triple (query_plain (by trivial)) _) fun attempts => ?_
      refine .bind Prog.Keeps.refl (plain_triple
        (.forEach fun attempt _ => process_attempt_plain worker_id task attempt) _) fun _ => ?_
      refine .bind Prog.Keeps.refl (Q := fun _ => Prog.Assn.of import_known (.issued task.id))
        ((refresh_triple task.tenant_id task.id).consequence (fun _ h => h) (fun _ _ h => h.1)
          fun _ _ h => h) fun _ => ?_
      exact .bind Prog.Keeps.refl (complete_triple ..) fun _ => .done fun _ h => h

theorem call_triple (call : ImportCall) :
    ImportTriple .nothing call.program fun _ => .nothing := by
  cases call with
  | process worker_id now =>
    exact .bind Prog.Keeps.refl (process_triple worker_id now) fun _ => .done fun _ h => h
  | create tenant_id request =>
    refine plain_triple (.bind (.bind .lift fun _ => .bind .lift fun plan => ?_) fun _ => .done) _
    exact query_plain (by trivial)
  | cancel tenant_id id =>
    exact plain_triple (.bind (query_plain (by trivial)) fun _ => .done) _

/-- Any number of workers and users. -/
theorem import_rules {W : Type} [DecidableEq W] :
    Prog.Crew.Rules (fun _ : W => ImportCarried CountsCurrent) ImportOthers ImportLaunch
      (fun s => CountsKept s.tables) (fun _ => MayComplete)
      (fun _ => Prog.Keeps import_known) fun _ _ _ => True where
  refl _ := Prog.Keeps.refl
  trans _ := Prog.Keeps.trans
  launch_inv := by
    rintro w s p t hs ⟨rfl, _⟩
    exact hs
  launch_safe := by
    rintro w s p t hs ⟨rfl, call, rfl⟩
    exact ((call_triple call).safe _ trivial).mono fun _ _ _ _ => trivial
  launch_others := by
    rintro w v s p t _ ⟨rfl, _⟩ _
    exact Prog.Keeps.refl _
  statement_inv hs hA h := (carried_counts hs hA h).1
  statement_others hs hA h _ := (carried_counts hs hA h).2.keeps
  others_inv hs h := (others_counts hs h).1
  others hs h := (others_counts hs h).2.keeps

end Calls

/-! ### Runs -/

section Run
variable {W : Type} [DecidableEq W] {chains : List Chain} {assets : List Asset} {s t : ImportWorld}
  {ps qs : W → ImportProg Unit}

theorem others_tasks (h : ImportOthers s t) : TasksMove s.tables t.tables := by
  cases h with
  | write op _ => exact .of_eq rfl
  | edit chains assets => exact .of_eq rfl
  | delete tenant_id id =>
    simp only [ImportTables.delete_watched_address]
    split
    · exact .of_eq rfl
    · exact .of_eq rfl

theorem carried_tasks {C : ImportWorld → ImportQuery → Prop} {op : ImportStatement}
    {r : AppResult op.Answer} (h : ImportCarried C s op r t) : TasksMove s.tables t.tables := by
  cases h with
  | db now skipped _ hfate =>
    rcases hfate.state with rfl | rfl
    · exact .of_eq rfl
    · exact query_tasks s _
  | utc_now => exact .of_eq rfl

theorem import_run
    (hs : Relation.ReflTransGen (ImportStep CountsCurrent) (import_start chains assets) (s, ps))
    (ht : Relation.ReflTransGen (ImportStep CountsCurrent) (s, ps) (t, qs)) :
    CountsKept t.tables ∧ TasksMove s.tables t.tables := by
  have hempty : CountsKept (import_start (W := W) chains assets).1.tables :=
    fun _ h => absurd h List.not_mem_nil
  have hstart : Prog.Crew.Good (fun _ : W => ImportCarried CountsCurrent)
      (fun s => CountsKept s.tables) (fun _ => MayComplete)
      (fun _ => Prog.Keeps import_known) (fun _ _ _ => True) (import_start (W := W) chains assets).1
      (import_start chains assets).2 := ⟨hempty, fun _ _ _ => ⟨trivial, trivial⟩⟩
  have hgood := hstart.run import_rules hs
  refine ⟨(hgood.run import_rules ht).inv, ?_⟩
  refine hgood.kept (G := fun s t => TasksMove s.tables t.tables) import_rules
    (fun s => .of_eq rfl) (fun {a b c} hab hbc => ?_) ?_ ?_ ?_ ht
  · exact TasksMove.trans hab hbc
  · rintro w s p t _ ⟨rfl, _⟩
    exact .of_eq rfl
  · exact fun _ _ h => carried_tasks h
  · exact fun _ h => others_tasks h

/-- As long as no counts are used after attempts of the task were marked: a task that has ended
stays as it ended, none of its attempts is pending, its counts are those of its attempts, and one
that was not cancelled has failed just if no attempt succeeded and at least one failed. -/
theorem import_tasks_hold
    (hs : Relation.ReflTransGen (ImportStep CountsCurrent) (import_start chains assets) (s, ps))
    (ht : Relation.ReflTransGen (ImportStep CountsCurrent) (s, ps) (t, qs)) :
    (∀ task ∈ s.tables.tasks, task.status.is_terminal = true →
      ∀ later ∈ t.tables.tasks, later.id = task.id → later.status = task.status) ∧
    ∀ task ∈ t.tables.tasks, task.status.is_terminal = true →
      (∀ attempt ∈ t.tables.attempts, attempt.is_of task.tenant_id task.id = true →
        attempt.status ≠ .pending) ∧
      task.toImportCounts = t.tables.import_counts task.tenant_id task.id ∧
      (task.status ≠ .cancelled → (task.status = .failed ↔
        (∀ attempt ∈ t.tables.attempts, attempt.is_of task.tenant_id task.id = true →
          attempt.status ≠ .success) ∧
        ∃ attempt ∈ t.tables.attempts, attempt.is_of task.tenant_id task.id = true ∧
          attempt.status = .failed)) := by
  obtain ⟨hkept, htasks⟩ := import_run hs ht
  constructor
  · intro task htask hterminal later hlater hid
    obtain ⟨next, hnext, hkey, hstatus⟩ := htasks task htask
    have hsame := ImportTables.same_task hlater hnext (hid.trans (task_id_of_key hkey).symm)
    rw [hsame]
    exact hstatus hterminal
  · intro task htask hterminal
    have hsettled := (hkept task htask).ended hterminal
    refine ⟨ImportTables.pending_none.mp hsettled.none_pending, hsettled.counts, fun hstatus => ?_⟩
    have hsuccess : task.success_rows = _ := congrArg ImportCounts.success_rows hsettled.counts
    have hfailed : task.failed_rows = _ := congrArg ImportCounts.failed_rows hsettled.counts
    rw [hsettled.failed hstatus, hsuccess, hfailed]
    refine and_congr ?_ ?_
    · simp [ImportTables.import_counts, List.countP_eq_zero]
    · simp [ImportTables.import_counts, List.countP_pos_iff]

end Run

instance (s : ImportWorld) (q : ImportQuery) : Decidable (CountsCurrent s q) := by
  unfold CountsCurrent
  split
  · infer_instance
  · infer_instance
  · infer_instance

/-- The first address is not one of the chain. -/
def two_row_import : ImportCall := btc_import [import_row 1 "x", import_row 2 "bc1q"]

def two_row_world : ImportWorld :=
  (Prog.eval ImportWorld.alone two_row_import.program ⟨.empty btc_chains btc_assets, []⟩).2

def completed_world : ImportWorld :=
  (Prog.eval ImportWorld.alone (ImportCall.process "w1" 0).program two_row_world).2

/-- A task has ended. -/
theorem import_tasks_hold_completed : ∃ t : ImportWorld,
    (∃ task ∈ t.tables.tasks, task.status = .completed) ∧
    ∀ task ∈ t.tables.tasks, task.status.is_terminal = true →
      task.toImportCounts = t.tables.import_counts task.tenant_id task.id := by
  have hcreate : Prog.along ImportWorld.alone (ImportWorld.test CountsCurrent)
      two_row_import.program ⟨.empty btc_chains btc_assets, []⟩ = true := by decide +kernel
  have hprocess : Prog.along ImportWorld.alone (ImportWorld.test CountsCurrent)
      (ImportCall.process "w1" 0).program two_row_world = true := by decide +kernel
  obtain ⟨ps, hcreated⟩ := call_run () two_row_import _ hcreate fun _ => .done ()
  obtain ⟨qs, hprocessed⟩ := call_run () (.process "w1" 0) two_row_world hprocess ps
  have hholds := import_tasks_hold (hcreated.trans hprocessed) .refl
  exact ⟨completed_world, by decide +kernel, fun task htask hterminal =>
    (hholds.2 task htask hterminal).2.1⟩

/-- A worker that has lost its lock counts while the other one has an attempt left, and completes
the task once that one is done. -/
def completed_by_both : ImportWorld × (Bool → ImportProg Unit) :=
  let created := work false 1 (take_up false two_row_import (import_start btc_chains btc_assets))
  let renewed := work true 2 (take_up true (.process "w1" 0) created)
  let taken_over := work false 7 (take_up false (.process "w2" 1000) renewed)
  work false 20 (work true 20 (work false 4 (work true 5 taken_over)))

/-- A task fails though one of its attempts has succeeded. -/
theorem succeeded_task_fails : ∃ t : ImportWorld, ∃ qs : Bool → ImportProg Unit,
    Relation.ReflTransGen (ImportStep fun _ _ => True) (import_start btc_chains btc_assets) (t, qs) ∧
    (∀ w, is_finished (qs w) = true) ∧
    ∃ task ∈ t.tables.tasks, task.status = .failed ∧
      ∃ attempt ∈ t.tables.attempts, attempt.is_of task.tenant_id task.id = true ∧
        attempt.status = .success := by
  refine ⟨completed_by_both.1, completed_by_both.2, ?_, ?_⟩
  · refine .trans (take_up_run false two_row_import _) (.trans (work_run false 1 _) ?_)
    refine .trans (take_up_run true (.process "w1" 0) _) (.trans (work_run true 2 _) ?_)
    refine .trans (take_up_run false (.process "w2" 1000) _) (.trans (work_run false 7 _) ?_)
    exact .trans (work_run true 5 _) (.trans (work_run false 4 _)
      (.trans (work_run true 20 _) (work_run false 20 _)))
  · decide +kernel

end CoinListener.Worker
