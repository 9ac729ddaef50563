import CoinListener.Storage.ScanJobs

/-! What a statement can do to each job and to each run. -/
namespace CoinListener.Storage
open Foundation

/-- The attempts a statement allows the job it enqueues. -/
def JobQuery.max_attempts : JobQuery → Option Int
  | .insert_scheduled_scan_job _ max_attempts _ => some max_attempts
  | .insert_retry_scan_job _ _ _ _ max_attempts _ => some max_attempts
  | _ => none

section Steps
variable (t : ScanTables) (now : Timestamp) (skipped : Uuid → Bool)

/-- One job under a statement. -/
inductive JobStep : JobQuery → ScanJob → ScanJob → Prop where
  | dead_lettered {worker_id ttl job} (h : job.exhausted now = true) :
    JobStep (.claim_due_scan_job worker_id ttl) job (job.dead_lettered now)
  | claimed {worker_id ttl job} (h : t.due now skipped = some job) :
    JobStep (.claim_due_scan_job worker_id ttl) job (job.claimed now worker_id ttl)
  | renewed {worker_id ttl job} (h : job.held_by worker_id now = true) :
    JobStep (.renew_scan_job_lease job.id worker_id ttl) job (job.renewed now ttl)
  | marked {worker_id mark scan_run_id job} (h : job.held_by worker_id now = true) :
    JobStep (.mark_scan_job job.id worker_id mark scan_run_id) job
      (mark.apply now scan_run_id job)
  | finished {worker_id mark scan_run_id finish job} (h : job.held_by worker_id now = true) :
    JobStep (.finish_scan_job_and_run job.id worker_id mark scan_run_id finish) job
      (mark.apply now (some scan_run_id) job)
  | linked {task context worker_id started_at metadata job} (hid : job.id = task.task_id)
    (h : job.held_by worker_id now = true) :
    JobStep (.create_scan_run task context worker_id started_at metadata) job
      (job.linked now t.next_id)
  | requeued {tenant_id chain_id scan_run_id max_attempts next_attempt_at job}
    (h : job.waiting = true) :
    JobStep (.insert_retry_scan_job tenant_id job.address_id chain_id scan_run_id max_attempts
      next_attempt_at) job (job.requeued now next_attempt_at max_attempts scan_run_id)

/-- A job the statement enqueues. -/
inductive NewJob : JobQuery → ScanJob → Prop where
  | intro {q tenant_id address_id chain_id max_attempts next_attempt_at retry_of}
    (hmax : q.max_attempts = some max_attempts) (hnone : t.active_job address_id = none) :
    NewJob q (t.new_job now tenant_id address_id chain_id max_attempts next_attempt_at retry_of)

/-- One run under a statement. -/
inductive RunStep : JobQuery → ScanRun → ScanRun → Prop where
  | reclaimed {worker_id ttl run} (error_message : String) {job : ScanJob}
    (hrunning : run.status = .running) (hjob : job ∈ t.scan_jobs)
    (hdue : job.exhausted now = true ∨ t.due now skipped = some job)
    (hlast : job.last_scan_run_id = some run.id) :
    RunStep (.claim_due_scan_job worker_id ttl) run (run.reclaimed now error_message)
  | finished {finish run} : RunStep (.finish_scan_run run.id finish) run (run.finished now finish)
  | finished_with_job {job worker_id mark finish run} (hjob : job ∈ t.scan_jobs)
    (h : job.held_by worker_id now = true) :
    RunStep (.finish_scan_job_and_run job.id worker_id mark run.id finish) run
      (run.finished now finish)

/-- The run the statement creates. -/
inductive NewRun : JobQuery → ScanRun → Prop where
  | intro {task context worker_id started_at metadata job} (hjob : job ∈ t.scan_jobs)
    (hid : job.id = task.task_id) (h : job.held_by worker_id now = true) :
    NewRun (.create_scan_run task context worker_id started_at metadata)
      (t.new_run now task context started_at metadata)

end Steps

section Spec
variable {t : ScanTables} {now : Timestamp} {skipped : Uuid → Bool} {q : JobQuery} {job : ScanJob}
  {job_id : Uuid} {worker_id : String}

open ScanTables

theorem owned_iff : owned now job_id worker_id job = true ↔
    job.id = job_id ∧ job.held_by worker_id now = true := by
  simp [ScanTables.owned]

theorem any_owned : t.scan_jobs.any (owned now job_id worker_id) = true ↔
    ∃ job ∈ t.scan_jobs, job.id = job_id ∧ job.held_by worker_id now = true := by
  simp [ScanTables.owned]

theorem active_job_mem {address_id : Uuid} (h : t.active_job address_id = some job) :
    job ∈ t.scan_jobs ∧ job.active = true ∧ job.address_id = address_id := by
  refine ⟨List.mem_of_find?_eq_some h, ?_⟩
  simpa using List.find?_some h

theorem active_job_none {address_id : Uuid} (h : t.active_job address_id = none)
    (hjob : job ∈ t.scan_jobs) (hactive : job.active = true) : job.address_id ≠ address_id := by
  intro haddress
  have hfind := List.find?_eq_none.mp h job hjob
  simp [hactive, haddress] at hfind

theorem due_mem (h : t.due now skipped = some job) :
    job ∈ t.scan_jobs ∧ job.claimable now = true := by
  have hmem := List.mem_filter.mp (List.argmin_mem h)
  refine ⟨hmem.1, ?_⟩
  simp only [Bool.and_eq_true] at hmem
  exact hmem.2.1

/-- No due job that is not skipped comes before the one that is claimed. -/
theorem due_first (hjob : job ∈ t.scan_jobs) (hclaimable : job.claimable now = true)
    (hskipped : skipped job.id = false) :
    ∃ first, t.due now skipped = some first ∧ first.claim_order now ≤ job.claim_order now := by
  have hmem : job ∈ t.scan_jobs.filter fun job => job.claimable now && !skipped job.id := by
    simp [hjob, hclaimable, hskipped]
  cases h : t.due now skipped with
  | none =>
    rw [List.argmin_eq_none.mp h] at hmem
    exact nomatch hmem
  | some first => exact ⟨first, rfl, List.le_of_mem_argmin hmem h⟩

theorem claimable_not_exhausted (h : job.claimable now = true) : job.exhausted now = false := by
  simp only [ScanJob.claimable, ScanJob.waiting, ScanJob.exhausted, ScanJob.expired,
    Bool.or_eq_true, Bool.and_eq_true, decide_eq_true_eq] at h ⊢
  rcases h with ⟨hstatus | hstatus, _⟩ | ⟨_, hattempts⟩
  · simp [hstatus]
  · simp [hstatus]
  · simp only [Bool.and_eq_false_iff, decide_eq_false_iff_not]
    exact .inr (by omega)

/-- A claim, row by row. -/
theorem claim_moves (hids : (t.scan_jobs.map (·.id)).Nodup) (worker_id : String) (ttl : Int) :
    Table.Moves (JobStep t now skipped (.claim_due_scan_job worker_id ttl)) (NewJob t now q) t.scan_jobs
      (t.claim_due_scan_job now skipped worker_id ttl).2.scan_jobs := by
  refine .map fun job hjob => ?_
  unfold claim_job
  split
  · rename_i hexhausted
    exact .inr (.dead_lettered hexhausted)
  · split
    · rename_i hdue
      obtain ⟨due, hfound, hid⟩ := (Option.any_eq_true _ _).mp hdue
      obtain rfl := List.inj_on_of_nodup_map hids (due_mem hfound).1 hjob (by simpa using hid)
      exact .inr (.claimed hfound)
    · exact .inl rfl

/-- The job a claim hands out is the due one, as the claim leaves it. -/
theorem claim_answer {worker_id : String} {ttl : Int}
    (h : (t.claim_due_scan_job now skipped worker_id ttl).1 = some job) :
    ∃ due, t.due now skipped = some due ∧ job = due.claimed now worker_id ttl ∧
      job ∈ (t.claim_due_scan_job now skipped worker_id ttl).2.scan_jobs := by
  obtain ⟨due, hdue, rfl⟩ := Option.map_eq_some_iff.mp h
  obtain ⟨hmem, hclaimable⟩ := due_mem hdue
  refine ⟨due, hdue, rfl, List.mem_map.mpr ⟨due, hmem, ?_⟩⟩
  simp [claim_job, claimable_not_exhausted hclaimable, hdue]

theorem claim_job_id (worker_id : String) (ttl : Int) (due : Option ScanJob) (job : ScanJob) :
    (claim_job now worker_id ttl due job).id = job.id := by
  unfold claim_job
  split
  · rfl
  · split <;> rfl

theorem claim_run_id (due : Option ScanJob) (run : ScanRun) :
    (t.claim_run now due run).id = run.id := by
  unfold claim_run
  split
  · rfl
  · split <;> rfl

theorem claim_runs_move (worker_id : String) (ttl : Int) :
    Table.Moves (RunStep t now skipped (.claim_due_scan_job worker_id ttl)) (NewRun t now q) t.scan_runs
      (t.claim_due_scan_job now skipped worker_id ttl).2.scan_runs := by
  refine .map fun run _ => ?_
  unfold claim_run
  split
  · rename_i h
    simp only [Bool.and_eq_true, decide_eq_true_eq, List.any_eq_true, beq_iff_eq] at h
    obtain ⟨hrunning, job, hjob, hexhausted, hlast⟩ := h
    exact .inr (.reclaimed _ hrunning hjob (.inl hexhausted) hlast)
  · split
    · rename_i h
      simp only [Bool.and_eq_true, decide_eq_true_eq] at h
      obtain ⟨hrunning, hdue⟩ := h
      obtain ⟨due, hfound, hlast⟩ := (Option.any_eq_true _ _).mp hdue
      exact .inr (.reclaimed _ hrunning (due_mem hfound).1 (.inr hfound) (by simpa using hlast))
    · exact .inl rfl

theorem renew_moves (job_id : Uuid) (worker_id : String) (ttl : Int) :
    Table.Moves (JobStep t now skipped (.renew_scan_job_lease job_id worker_id ttl)) (NewJob t now q)
      t.scan_jobs (t.renew_scan_job_lease now job_id worker_id ttl).2.scan_jobs := by
  refine .update fun job _ howned => ?_
  obtain ⟨rfl, hheld⟩ := owned_iff.mp howned
  exact .renewed hheld

theorem insert_scheduled_moves (candidate : ScanAddressCandidate) (max_attempts : Int)
    (next_attempt_at : Timestamp) (hq : q.max_attempts = some max_attempts) :
    Table.Moves (JobStep t now skipped q) (NewJob t now q) t.scan_jobs
      (t.insert_scheduled_scan_job now candidate max_attempts next_attempt_at).2.scan_jobs := by
  unfold insert_scheduled_scan_job
  cases h : t.active_job candidate.id with
  | some job => exact .refl _
  | none => exact .append (.intro hq h)

theorem insert_retry_moves (hids : (t.scan_jobs.map (·.id)).Nodup)
    (tenant_id address_id chain_id scan_run_id : Uuid) (max_attempts : Int)
    (next_attempt_at : Timestamp) :
    Table.Moves (JobStep t now skipped (.insert_retry_scan_job tenant_id address_id chain_id scan_run_id
        max_attempts next_attempt_at))
      (NewJob t now (.insert_retry_scan_job tenant_id address_id chain_id scan_run_id max_attempts
        next_attempt_at)) t.scan_jobs
      (t.insert_retry_scan_job now tenant_id address_id chain_id scan_run_id max_attempts
        next_attempt_at).2.scan_jobs := by
  unfold insert_retry_scan_job
  cases h : t.active_job address_id with
  | none => exact .append (.intro rfl h)
  | some job =>
    obtain ⟨hmem, _, rfl⟩ := active_job_mem h
    by_cases hwaiting : job.waiting = true
    · simp only [hwaiting, if_true]
      refine .update fun row hrow hid => ?_
      obtain rfl := List.inj_on_of_nodup_map hids hrow hmem (by simpa using hid)
      exact .requeued hwaiting
    · simp only [hwaiting, if_false, Bool.false_eq_true]
      exact .refl _

/-- What a mark does: every row the worker holds under this identifier, or nothing. -/
theorem mark_cases (t : ScanTables) (now : Timestamp) (job_id : Uuid) (worker_id : String)
    (mark : JobMark)
    (scan_run_id : Option Uuid) :
    (t.mark_scan_job now job_id worker_id mark scan_run_id = (.error (.NotFound "scan job"), t)) ∨
    ((∃ job ∈ t.scan_jobs, job.id = job_id ∧ job.held_by worker_id now = true) ∧
      t.mark_scan_job now job_id worker_id mark scan_run_id = (.ok (), { t with
        scan_jobs := Table.update (owned now job_id worker_id)
          (fun job => mark.apply now scan_run_id job) t.scan_jobs })) := by
  unfold mark_scan_job
  split
  · rename_i h
    exact .inr ⟨any_owned.mp h, rfl⟩
  · exact .inl rfl

theorem finish_run_cases (t : ScanTables) (now : Timestamp) (scan_run_id : Uuid) (finish : RunFinish) :
    (t.finish_scan_run now scan_run_id finish = (.error (.NotFound "scan run"), t)) ∨
    t.finish_scan_run now scan_run_id finish = (.ok (), { t with
      scan_runs := Table.update (fun run => run.id == scan_run_id)
        (ScanRun.finished now finish) t.scan_runs }) := by
  unfold finish_scan_run
  split
  · exact .inr rfl
  · exact .inl rfl

/-- What the transaction does: both parts, or nothing. -/
theorem finish_job_and_run_cases (t : ScanTables) (now : Timestamp) (job_id : Uuid) (worker_id : String)
    (mark : JobMark)
    (scan_run_id : Uuid) (finish : RunFinish) :
    (∃ error, t.finish_scan_job_and_run now job_id worker_id mark scan_run_id finish =
      (.error error, t)) ∨
    ((∃ job ∈ t.scan_jobs, job.id = job_id ∧ job.held_by worker_id now = true) ∧
      t.finish_scan_job_and_run now job_id worker_id mark scan_run_id finish = (.ok (), { t with
        scan_jobs := Table.update (owned now job_id worker_id)
          (fun job => mark.apply now (some scan_run_id) job) t.scan_jobs
        scan_runs := Table.update (fun run => run.id == scan_run_id)
          (ScanRun.finished now finish) t.scan_runs })) := by
  unfold finish_scan_job_and_run
  rcases mark_cases t now job_id worker_id mark (some scan_run_id) with h | ⟨hheld, h⟩
  · rw [h]
    exact .inl ⟨_, rfl⟩
  · rw [h]
    dsimp only
    rcases finish_run_cases { t with
        scan_jobs := Table.update (owned now job_id worker_id)
          (fun job => mark.apply now (some scan_run_id) job) t.scan_jobs } now
        scan_run_id finish with hrun | hrun
    · rw [hrun]
      exact .inl ⟨_, rfl⟩
    · rw [hrun]
      exact .inr ⟨hheld, rfl⟩

theorem create_run_cases (t : ScanTables) (now : Timestamp) (task : ScanAddressTask)
    (context : ScanRunContext) (worker_id : String) (started_at : Timestamp)
    (metadata : Metadata) :
    (t.create_scan_run now task context worker_id started_at metadata =
      (.error (.NotFound "scan job"), t)) ∨
    ((∃ job ∈ t.scan_jobs, job.id = task.task_id ∧ job.held_by worker_id now = true) ∧
      t.create_scan_run now task context worker_id started_at metadata =
        (.ok (t.new_run now task context started_at metadata), { t with
          scan_jobs := Table.update (owned now task.task_id worker_id)
            (ScanJob.linked now t.next_id) t.scan_jobs
          scan_runs := t.scan_runs ++ [t.new_run now task context started_at metadata]
          next_id := t.next_id + 1 })) := by
  unfold create_scan_run
  split
  · rename_i h
    exact .inr ⟨any_owned.mp h, rfl⟩
  · exact .inl rfl

/-- Every statement, job by job. -/
theorem run_jobs (now : Timestamp) (skipped : Uuid → Bool)
    (hids : (t.scan_jobs.map (·.id)).Nodup) (q : JobQuery) :
    Table.Moves (JobStep t now skipped q) (NewJob t now q) t.scan_jobs
      (q.run now skipped t).2.scan_jobs := by
  cases q with
  | scan_run_context task => exact .refl _
  | insert_scheduled_scan_job candidate max_attempts next_attempt_at =>
    exact insert_scheduled_moves candidate max_attempts next_attempt_at rfl
  | insert_retry_scan_job => exact insert_retry_moves hids ..
  | claim_due_scan_job worker_id ttl => exact claim_moves hids worker_id ttl
  | renew_scan_job_lease job_id worker_id ttl => exact renew_moves job_id worker_id ttl
  | mark_scan_job job_id worker_id mark scan_run_id =>
    rcases mark_cases t now job_id worker_id mark scan_run_id with h | ⟨_, h⟩
    · simp only [JobQuery.run, h]
      exact .refl _
    · simp only [JobQuery.run, h]
      refine .update fun job _ howned => ?_
      obtain ⟨rfl, hheld⟩ := owned_iff.mp howned
      exact .marked hheld
  | create_scan_run task context worker_id started_at metadata =>
    rcases create_run_cases t now task context worker_id started_at metadata with
      h | ⟨_, h⟩
    · simp only [JobQuery.run, h]
      exact .refl _
    · simp only [JobQuery.run, h]
      refine .update fun job _ howned => ?_
      obtain ⟨hid, hheld⟩ := owned_iff.mp howned
      exact .linked hid hheld
  | finish_scan_run scan_run_id finish =>
    rcases finish_run_cases t now scan_run_id finish with h | h
    · simp only [JobQuery.run, h]
      exact .refl _
    · simp only [JobQuery.run, h]
      exact .refl _
  | finish_scan_job_and_run job_id worker_id mark scan_run_id finish =>
    rcases finish_job_and_run_cases t now job_id worker_id mark scan_run_id finish
      with ⟨_, h⟩ | ⟨_, h⟩
    · simp only [JobQuery.run, h]
      exact .refl _
    · simp only [JobQuery.run, h]
      refine .update fun job _ howned => ?_
      obtain ⟨rfl, hheld⟩ := owned_iff.mp howned
      exact .finished hheld

/-- Every statement, run by run. -/
theorem run_runs (t : ScanTables) (now : Timestamp) (skipped : Uuid → Bool) (q : JobQuery) :
    Table.Moves (RunStep t now skipped q) (NewRun t now q) t.scan_runs
      (q.run now skipped t).2.scan_runs := by
  cases q with
  | scan_run_context task => exact .refl _
  | insert_scheduled_scan_job candidate =>
    simp only [JobQuery.run, insert_scheduled_scan_job]
    split <;> exact .refl _
  | insert_retry_scan_job =>
    simp only [JobQuery.run, insert_retry_scan_job]
    split
    · split <;> exact .refl _
    · exact .refl _
  | claim_due_scan_job worker_id ttl => exact claim_runs_move worker_id ttl
  | renew_scan_job_lease job_id worker_id ttl => exact .refl _
  | mark_scan_job job_id worker_id mark scan_run_id =>
    rcases mark_cases t now job_id worker_id mark scan_run_id with h | ⟨_, h⟩
    · simp only [JobQuery.run, h]
      exact .refl _
    · simp only [JobQuery.run, h]
      exact .refl _
  | create_scan_run task context worker_id started_at metadata =>
    rcases create_run_cases t now task context worker_id started_at metadata with
      h | ⟨⟨job, hjob, hid, hheld⟩, h⟩
    · simp only [JobQuery.run, h]
      exact .refl _
    · simp only [JobQuery.run, h]
      exact .append (.intro hjob hid hheld)
  | finish_scan_run scan_run_id finish =>
    rcases finish_run_cases t now scan_run_id finish with h | h
    · simp only [JobQuery.run, h]
      exact .refl _
    · simp only [JobQuery.run, h]
      refine .update fun run _ hid => ?_
      obtain rfl : run.id = scan_run_id := by simpa using hid
      exact .finished
  | finish_scan_job_and_run job_id worker_id mark scan_run_id finish =>
    rcases finish_job_and_run_cases t now job_id worker_id mark scan_run_id finish
      with ⟨_, h⟩ | ⟨⟨job, hjob, rfl, hheld⟩, h⟩
    · simp only [JobQuery.run, h]
      exact .refl _
    · simp only [JobQuery.run, h]
      refine .update fun run _ hid => ?_
      obtain rfl : run.id = scan_run_id := by simpa using hid
      exact .finished_with_job hjob hheld

end Spec

end CoinListener.Storage
