import CoinListener.Scheduler.Schedule

/-! Every move of an address in the schedule comes with a job of its own, whatever schedulers, workers
and users do at the same time. -/
namespace CoinListener.Scheduler
open Foundation Storage Transaction

set_option linter.unusedSectionVars false

/-! ### Jobs of an address -/

namespace Schedule
variable (t : Schedule) (address_id : Uuid)

def jobs_of : Nat :=
  t.scan_jobs.countP fun job => job.address_id == address_id

def inactive_jobs : Nat :=
  t.scan_jobs.countP fun job => job.address_id == address_id && !job.active

/-- The jobs that no retry has asked for. -/
def scheduled_jobs : Nat :=
  t.scan_jobs.countP fun job => job.address_id == address_id && job.retry_of_scan_run_id.isNone

end Schedule

section Moves
variable {t u : Schedule} {address_id : Uuid} {job job' : ScanJob}

theorem GoesOn.refl (job : ScanJob) : GoesOn job job :=
  ⟨rfl, id, id⟩

theorem GoesOn.of_requeued {now next_attempt_at : Timestamp} {max_attempts : Int} {run_id : Uuid}
    (h : job.waiting = true) :
    GoesOn job (job.requeued now next_attempt_at max_attempts run_id) := by
  refine ⟨rfl, nofun, fun _ => ?_⟩
  rcases ScanJob.waiting_iff.mp h with hstatus | hstatus <;> simp [ScanJob.active, hstatus]

/-- What a worker's statement does to a job. -/
theorem GoesOn.of_step {tables : ScanTables} {now : Timestamp} {skipped : Uuid → Bool} {q : JobQuery}
    (hq : q.max_attempts = none) (h : JobStep tables now skipped q job job') : GoesOn job job' := by
  refine ⟨h.address_id, ?_, fun _ => h.active⟩
  cases h with
  | dead_lettered => exact id
  | claimed => exact id
  | renewed => exact id
  | linked => exact id
  | requeued => exact nomatch hq
  | @marked _ mark _ _ _ => cases mark <;> exact id
  | @finished _ mark _ _ _ _ => cases mark <;> exact id

/-- Whatever a worker does to the queue is an edit of the schedule. -/
theorem ScheduleEdit.of_statement {q : JobQuery} (hq : q.max_attempts = none) {tables : ScanTables}
    (hids : (tables.scan_jobs.map (·.id)).Nodup) (now : Timestamp) (skipped : Uuid → Bool)
    (addresses : List ScheduledAddress) :
    ScheduleEdit ⟨addresses, tables.scan_jobs⟩ ⟨addresses, (q.run now skipped tables).2.scan_jobs⟩ := by
  refine ⟨rfl, (run_jobs now skipped hids q).mono (fun job _ job' h => GoesOn.of_step hq h) ?_⟩
  rintro job ⟨hmax, _⟩
  exact nomatch hq.symm.trans hmax

/-- Jobs that go on, seen from an address. -/
structure SameJobs (t u : Schedule) : Prop where
  jobs : ∀ a, u.jobs_of a = t.jobs_of a
  inactive : ∀ a, t.inactive_jobs a ≤ u.inactive_jobs a
  scheduled : ∀ a, u.scheduled_jobs a ≤ t.scheduled_jobs a
  address_ids : ∀ job' ∈ u.scan_jobs, ∃ job ∈ t.scan_jobs, GoesOn job job'
  one_active : OneActive t.scan_jobs → OneActive u.scan_jobs

theorem SameJobs.of_moves (h : Table.Moves GoesOn (fun _ => False) t.scan_jobs u.scan_jobs) :
    SameJobs t u := by
  have hpairs : OneActive t.scan_jobs → OneActive u.scan_jobs := by
    intro hone
    refine h.pairwise hone (fun a _ b _ a' b' ha hb hab hactive hbactive => ?_)
      fun _ _ _ _ _ hnew => hnew.elim
    have ha' : GoesOn a a' := ha.elim (fun heq => heq ▸ .refl a) id
    have hb' : GoesOn b b' := hb.elim (fun heq => heq ▸ .refl b) id
    rw [ha'.address_id, hb'.address_id]
    exact hab (ha'.active hactive) (hb'.active hbactive)
  obtain ⟨g, added, hnew, hg, hadded⟩ := h
  obtain rfl : added = [] := hadded.elim id fun ⟨_, _, hfalse⟩ => hfalse.elim
  rw [List.append_nil] at hnew
  have hstep : ∀ job ∈ t.scan_jobs, GoesOn job (g job) :=
    fun job hjob => (hg job hjob).elim (fun heq => heq.symm ▸ .refl job) id
  refine ⟨fun a => ?_, fun a => ?_, fun a => ?_, fun job' hjob' => ?_, hpairs⟩
  · unfold Schedule.jobs_of
    rw [hnew, List.countP_map]
    refine List.countP_congr fun job hjob => ?_
    simp [(hstep job hjob).address_id]
  · unfold Schedule.inactive_jobs
    rw [hnew, List.countP_map]
    refine List.countP_mono_left fun job hjob hcounted => ?_
    have hgoes := hstep job hjob
    simp only [Bool.and_eq_true, beq_iff_eq, Bool.not_eq_true', Function.comp_apply] at hcounted ⊢
    refine ⟨hgoes.address_id.trans hcounted.1, ?_⟩
    cases hactive : (g job).active with
    | false => rfl
    | true => exact absurd (hgoes.active hactive) (by simp [hcounted.2])
  · unfold Schedule.scheduled_jobs
    rw [hnew, List.countP_map]
    refine List.countP_mono_left fun job hjob hcounted => ?_
    have hgoes := hstep job hjob
    simp only [Bool.and_eq_true, beq_iff_eq, Option.isNone_iff_eq_none, Function.comp_apply]
      at hcounted ⊢
    exact ⟨hgoes.address_id.symm.trans hcounted.1, hgoes.scheduled hcounted.2⟩
  · rw [hnew] at hjob'
    obtain ⟨job, hjob, rfl⟩ := List.mem_map.mp hjob'
    exact ⟨job, hjob, hstep job hjob⟩

theorem SameJobs.of_requeued (address_id job_id run_id : Uuid) (now next_attempt_at : Timestamp)
    (max_attempts : Int) : SameJobs t ((ScheduleChange.requeued address_id job_id run_id now
      next_attempt_at max_attempts).apply t) := by
  refine .of_moves (Table.Moves.update fun job _ hjob => ?_)
  simp only [Bool.and_eq_true] at hjob
  exact .of_requeued hjob.2

/-- An active job is one more than the inactive ones. -/
theorem inactive_lt_jobs (hjob : job ∈ t.scan_jobs) (haddress : job.address_id = address_id)
    (hactive : job.active = true) : t.inactive_jobs address_id < t.jobs_of address_id := by
  have hsplit := List.countP_eq_countP_filter_add t.scan_jobs (fun job => job.address_id == address_id)
    fun job => !job.active
  have hsame : (t.scan_jobs.filter fun job => !job.active).countP
      (fun job => job.address_id == address_id) = t.inactive_jobs address_id := List.countP_filter
  have hpos : 0 < (t.scan_jobs.filter fun job => !(!job.active)).countP
      fun job => job.address_id == address_id := by
    refine List.countP_pos_iff.mpr ⟨job, List.mem_filter.mpr ⟨hjob, ?_⟩, ?_⟩
    · simp [hactive]
    · simpa using haddress
  unfold Schedule.jobs_of
  omega

section NewJob

/-- The job counts where its address is looked at. -/
theorem jobs_of_new (job : ScanJob) (a : Uuid) : ((ScheduleChange.new_job job).apply t).jobs_of a =
    t.jobs_of a + if job.address_id = a then 1 else 0 := by
  simp [Schedule.jobs_of, ScheduleChange.apply, List.countP_append, List.countP_cons]

theorem inactive_jobs_new (job : ScanJob) (a : Uuid) :
    t.inactive_jobs a ≤ ((ScheduleChange.new_job job).apply t).inactive_jobs a := by
  simp [Schedule.inactive_jobs, ScheduleChange.apply, List.countP_append]

theorem scheduled_jobs_new (job : ScanJob) (a : Uuid) :
    ((ScheduleChange.new_job job).apply t).scheduled_jobs a = t.scheduled_jobs a +
      if job.address_id = a ∧ job.retry_of_scan_run_id = none then 1 else 0 := by
  simp [Schedule.scheduled_jobs, ScheduleChange.apply, List.countP_append, List.countP_cons]

theorem one_active_new {job : ScanJob} (h : OneActive t.scan_jobs)
    (hvacant : ∀ other ∈ t.scan_jobs, other.address_id = job.address_id → other.active = false) :
    OneActive ((ScheduleChange.new_job job).apply t).scan_jobs := by
  refine List.pairwise_append.mpr ⟨h, List.pairwise_singleton .., fun other hother new hnew => ?_⟩
  obtain rfl := List.mem_singleton.mp hnew
  intro hactive _ hsame
  exact absurd (hvacant other hother hsame) (by simp [hactive])

end NewJob

section Deleted

/-- The other addresses keep their jobs. -/
theorem count_of_deleted {p : ScanJob → Bool} {a : Uuid} (hne : a ≠ address_id)
    (hp : ∀ job, p job = true → job.address_id = a) :
    ((ScheduleChange.no_address address_id).apply t).scan_jobs.countP p = t.scan_jobs.countP p := by
  change (t.scan_jobs.filter _).countP p = _
  rw [List.countP_filter]
  refine List.countP_congr fun job _ => ?_
  simp only [Bool.and_eq_true, bne_iff_ne, and_iff_left_iff_imp]
  intro hjob heq
  exact hne ((hp job hjob).symm.trans heq)

theorem jobs_of_deleted {a : Uuid} (hne : a ≠ address_id) :
    ((ScheduleChange.no_address address_id).apply t).jobs_of a = t.jobs_of a :=
  count_of_deleted hne fun job hjob => by simpa using hjob

theorem inactive_jobs_deleted {a : Uuid} (hne : a ≠ address_id) :
    ((ScheduleChange.no_address address_id).apply t).inactive_jobs a = t.inactive_jobs a :=
  count_of_deleted hne fun job hjob => by
    simp only [Bool.and_eq_true, beq_iff_eq] at hjob
    exact hjob.1

theorem scheduled_jobs_deleted {a : Uuid} (hne : a ≠ address_id) :
    ((ScheduleChange.no_address address_id).apply t).scheduled_jobs a = t.scheduled_jobs a :=
  count_of_deleted hne fun job hjob => by
    simp only [Bool.and_eq_true, beq_iff_eq] at hjob
    exact hjob.1

end Deleted

end Moves

theorem active_job_mem_keys (job : ScanJob) :
    ScheduleKey.active_job job.address_id ∈ (ScheduleChange.new_job job).keys := by
  cases h : job.retry_of_scan_run_id <;> simp [ScheduleChange.keys, h]

/-! ### Facts -/

/-- What a scheduler learns of an address it has locked: its row, that it has no active job, and, if
it finds one after all, that some job came in between. -/
inductive ScheduleFact where
  | address (row : ScheduledAddress)
  | no_address (id : Uuid)
  | vacant (address_id : Uuid)
  | idle (address_id : Uuid) (n : Nat)
  | taken (address_id : Uuid) (n : Nat)

namespace ScheduleFact

def holds : ScheduleFact → Schedule → Prop
  | .address row, t => row ∈ t.watched_addresses
  | .no_address id, t => (∀ row ∈ t.watched_addresses, row.id ≠ id) ∧ t.scheduled_jobs id = 0
  | .vacant address_id, t => ∀ job ∈ t.scan_jobs, job.address_id = address_id → job.active = false
  | .idle address_id n, t => n ≤ t.inactive_jobs address_id
  | .taken address_id n, t => n < t.jobs_of address_id

def keys : ScheduleFact → List ScheduleKey
  | .address row => [.address row.id]
  | .no_address id => [.address id]
  | .vacant address_id => [.active_job address_id]
  | .idle address_id _ => [.address address_id]
  | .taken address_id _ => [.address address_id]

variable {t u : Schedule} {f : ScheduleFact}

theorem of_same_jobs (h : SameJobs t u) (haddresses : u.watched_addresses = t.watched_addresses)
    (hf : f.holds t) : f.holds u := by
  cases f with
  | address row =>
    have hrow : row ∈ u.watched_addresses := haddresses ▸ hf
    exact hrow
  | no_address id =>
    refine ⟨haddresses.symm ▸ hf.1, ?_⟩
    have hle := h.scheduled id
    have hnone := hf.2
    omega
  | vacant address_id =>
    intro job' hjob' haddress
    obtain ⟨job, hjob, hgoes⟩ := h.address_ids job' hjob'
    cases hactive : job'.active with
    | false => rfl
    | true =>
      have hinactive := hf job hjob (hgoes.address_id.symm.trans haddress)
      exact absurd (hgoes.active hactive) (by simp [hinactive])
  | idle address_id n => exact Nat.le_trans hf (h.inactive address_id)
  | taken address_id n =>
    have hcount := h.jobs address_id
    exact Nat.lt_of_lt_of_eq hf hcount.symm

theorem edited (hedit : ScheduleEdit t u) (h : f.holds t) : f.holds u :=
  of_same_jobs (.of_moves hedit.2) hedit.1 h

/-- A change of a row is of no concern to facts about others. -/
theorem kept {c : ScheduleChange} (hkeys : ∀ k ∈ c.keys, k ∉ f.keys) (h : f.holds t) :
    f.holds (c.apply t) := by
  cases c with
  | new_address row =>
    have hkey := hkeys _ (List.mem_singleton_self _)
    cases f with
    | address r => exact List.mem_append_left _ h
    | no_address id =>
      refine ⟨fun r hr => ?_, h.2⟩
      rcases List.mem_append.mp hr with hr | hr
      · exact h.1 r hr
      · obtain rfl := List.mem_singleton.mp hr
        exact fun heq => hkey (List.mem_singleton.mpr (congrArg _ heq))
    | vacant => exact h
    | idle => exact h
    | taken => exact h
  | address row =>
    have hkey := hkeys _ (List.mem_singleton_self _)
    cases f with
    | address r =>
      have hne : (r.id == row.id) = false := by
        refine beq_false_of_ne fun heq => ?_
        exact hkey (List.mem_singleton.mpr (congrArg _ heq.symm))
      exact Table.mem_update_of_false hne h
    | no_address id =>
      refine ⟨fun r hr => ?_, h.2⟩
      obtain ⟨old, hold, rfl⟩ := Table.mem_update.mp hr
      have hsame : (Table.revise (·.id == row.id) (fun _ => row) old).id = old.id := by
        unfold Table.revise
        split
        · rename_i heq
          exact (beq_iff_eq.mp heq).symm
        · rfl
      rw [hsame]
      exact h.1 old hold
    | vacant => exact h
    | idle => exact h
    | taken => exact h
  | no_address id =>
    have hkey := hkeys _ (List.mem_singleton_self _)
    have hother : ∀ {a}, ScheduleKey.address id ∉ [ScheduleKey.address a] → a ≠ id :=
      fun hnot heq => hnot (List.mem_singleton.mpr (congrArg _ heq.symm))
    cases f with
    | address r => exact List.mem_filter.mpr ⟨h, by simpa using hother hkey⟩
    | no_address a =>
      refine ⟨fun r hr => h.1 r (List.mem_filter.mp hr).1, ?_⟩
      exact (scheduled_jobs_deleted (hother hkey)).trans h.2
    | vacant => exact fun job hjob => h job (List.mem_filter.mp hjob).1
    | idle => exact Nat.le_trans h (Nat.le_of_eq (inactive_jobs_deleted (hother hkey)).symm)
    | taken => exact Nat.lt_of_lt_of_eq h (jobs_of_deleted (hother hkey)).symm
  | new_job job =>
    cases f with
    | address => exact h
    | no_address id =>
      refine ⟨h.1, ?_⟩
      rw [scheduled_jobs_new, h.2, if_neg]
      rintro ⟨rfl, hscheduled⟩
      refine hkeys (.address job.address_id) ?_ (List.mem_singleton_self _)
      simp [ScheduleChange.keys, hscheduled]
    | vacant address_id =>
      intro other hother haddress
      rcases List.mem_append.mp hother with hother | hother
      · exact h other hother haddress
      · obtain rfl := List.mem_singleton.mp hother
        subst haddress
        exact absurd (List.mem_singleton_self _)
          (hkeys (.active_job other.address_id) (active_job_mem_keys other))
    | idle => exact Nat.le_trans h (inactive_jobs_new job _)
    | taken address_id n =>
      have hcount := jobs_of_new (t := t) job address_id
      have hlt : n < t.jobs_of address_id := h
      have hgoal : n < ((ScheduleChange.new_job job).apply t).jobs_of address_id := by omega
      exact hgoal
  | requeued address_id job_id run_id now next_attempt_at max_attempts =>
    exact of_same_jobs (.of_requeued ..) rfl h

end ScheduleFact

abbrev schedule_facts : Facts schedule_schema ScheduleEdit where
  Fact := ScheduleFact
  holds := ScheduleFact.holds
  keys := ScheduleFact.keys
  kept := ScheduleFact.kept
  edited := ScheduleFact.edited

end CoinListener.Scheduler
