import CoinListener.Storage.ScanJobSteps
import Mathlib.Logic.Relation

/-! What holds of the queue whatever statements are issued, by whom and in which order. -/
namespace CoinListener
open Foundation

/-- A lock is set exactly while the job is being processed. -/
def ScanJob.Locked (job : ScanJob) : Prop :=
  (job.status = .processing ↔ job.locked_by.isSome = true) ∧
    (job.status = .processing ↔ job.lease_expires_at.isSome = true)

namespace Storage

/-! ### Runs of the queue -/

/-- Any statement may come next; addresses and chains are edited, and retry requests leave their
notes on runs. -/
inductive JobMove : ScanTables → ScanTables → Prop where
  | statement {t u} (q : JobQuery) (r : AppResult q.Answer) (h : q.Fate t r u) : JobMove t u
  | edit {t} (chains : List Chain) (watched_addresses : List WatchedAddress) :
    JobMove t { t with chains := chains, watched_addresses := watched_addresses }
  | annotate {t} (metadata : ScanRun → Metadata) :
    JobMove t { t with
      scan_runs := t.scan_runs.map fun run => { run with metadata := metadata run } }

/-- Nothing enqueued yet. -/
def ScanTables.empty : ScanTables :=
  { chains := [], watched_addresses := [], scan_jobs := [], scan_runs := [], next_id := 0 }

@[simp] theorem ScanTables.empty_scan_jobs : ScanTables.empty.scan_jobs = [] := rfl

@[simp] theorem ScanTables.empty_scan_runs : ScanTables.empty.scan_runs = [] := rfl

def Reachable (t : ScanTables) : Prop :=
  Relation.ReflTransGen JobMove .empty t

/-- At most one job for each address is pending, retryable or processing. -/
def OneActive (jobs : List ScanJob) : Prop :=
  jobs.Pairwise fun a b => a.active = true → b.active = true → a.address_id ≠ b.address_id

/-- The identifiers of jobs and runs are unique, and the next one is new. -/
structure Keyed (t : ScanTables) : Prop where
  job_lt : ∀ job ∈ t.scan_jobs, job.id < t.next_id
  run_lt : ∀ run ∈ t.scan_runs, run.id < t.next_id
  unique_job : (t.scan_jobs.map (·.id)).Nodup
  unique_run : (t.scan_runs.map (·.id)).Nodup

structure QueueInvariant (t : ScanTables) : Prop where
  keyed : Keyed t
  one_active : OneActive t.scan_jobs
  locked : ∀ job ∈ t.scan_jobs, job.Locked

/-! ### One statement -/

section Statement
variable {t u : ScanTables} {now : Timestamp} {skipped : Uuid → Bool} {q : JobQuery}
  {job job' : ScanJob} {run run' : ScanRun}

theorem JobStep.id (h : JobStep t now skipped q job job') : job'.id = job.id := by
  cases h <;> first | rfl | exact JobMark.apply_id ..

theorem JobStep.address_id (h : JobStep t now skipped q job job') : job'.address_id = job.address_id := by
  cases h <;> first | rfl | exact JobMark.apply_address_id ..

/-- Only an active job takes a step. -/
theorem JobStep.active (h : JobStep t now skipped q job job') : job.active = true := by
  cases h with
  | dead_lettered h => simp_all [ScanJob.active, ScanJob.exhausted, ScanJob.expired]
  | claimed h =>
    have hclaimable := (due_mem h).2
    simp only [ScanJob.claimable, ScanJob.waiting, ScanJob.expired, Bool.or_eq_true,
      Bool.and_eq_true, decide_eq_true_eq] at hclaimable
    rcases hclaimable with ⟨hstatus | hstatus, _⟩ | ⟨⟨hstatus, _⟩, _⟩ <;> simp [ScanJob.active, hstatus]
  | requeued h => rcases ScanJob.waiting_iff.mp h with hstatus | hstatus
      <;> simp [ScanJob.active, hstatus]
  | renewed h => simp [ScanJob.active, (ScanJob.held_by_iff.mp h).2.1]
  | marked h => simp [ScanJob.active, (ScanJob.held_by_iff.mp h).2.1]
  | finished h => simp [ScanJob.active, (ScanJob.held_by_iff.mp h).2.1]
  | linked _ h => simp [ScanJob.active, (ScanJob.held_by_iff.mp h).2.1]

theorem JobStep.locked (h : JobStep t now skipped q job job') (hlocked : job.Locked) : job'.Locked := by
  cases h with
  | dead_lettered => simp [ScanJob.Locked, ScanJob.dead_lettered, ScanJob.unlocked]
  | claimed => simp [ScanJob.Locked, ScanJob.claimed]
  | renewed h => simp_all [ScanJob.Locked, ScanJob.renewed, ScanJob.held_by_iff]
  | @marked worker_id mark scan_run_id =>
    obtain ⟨hstatus, hlocked_by, hlease⟩ := mark.apply_unlocked now job scan_run_id
    simp [ScanJob.Locked, hstatus, hlocked_by, hlease]
  | @finished worker_id mark scan_run_id =>
    obtain ⟨hstatus, hlocked_by, hlease⟩ :=
      mark.apply_unlocked now job (some scan_run_id)
    simp [ScanJob.Locked, hstatus, hlocked_by, hlease]
  | linked => exact hlocked
  | requeued h =>
    have hstatus : job.status ≠ .processing := by
      rcases ScanJob.waiting_iff.mp h with hstatus | hstatus <;> simp [hstatus]
    obtain ⟨hlocked_by, hlease⟩ := hlocked
    simp_all [ScanJob.Locked, ScanJob.requeued]

theorem NewJob.locked (h : NewJob t now q job) : job.Locked := by
  cases h
  simp [ScanJob.Locked, ScanTables.new_job]

theorem NewJob.id (h : NewJob t now q job) : job.id = t.next_id := by
  cases h
  rfl

theorem NewRun.id (h : NewRun t now q run) : run.id = t.next_id := by
  cases h
  rfl

theorem RunStep.id (h : RunStep t now skipped q run run') : run'.id = run.id := by
  cases h <;> rfl

/-- A statement either hands out one identifier or leaves the ones in use as they are. -/
theorem run_ids (t : ScanTables) (now : Timestamp) (skipped : Uuid → Bool) (q : JobQuery) :
    (q.run now skipped t).2.next_id = t.next_id + 1 ∨
      (q.run now skipped t).2.next_id = t.next_id ∧
        (q.run now skipped t).2.scan_jobs.map (·.id) = t.scan_jobs.map (·.id) ∧
        (q.run now skipped t).2.scan_runs.map (·.id) = t.scan_runs.map (·.id) := by
  cases q with
  | scan_run_context task => exact .inr ⟨rfl, rfl, rfl⟩
  | insert_scheduled_scan_job candidate =>
    simp only [JobQuery.run, ScanTables.insert_scheduled_scan_job]
    split
    · exact .inr ⟨rfl, rfl, rfl⟩
    · exact .inl rfl
  | insert_retry_scan_job =>
    simp only [JobQuery.run, ScanTables.insert_retry_scan_job]
    split
    · split
      · exact .inr ⟨rfl, Table.update_column fun _ => rfl, rfl⟩
      · exact .inr ⟨rfl, rfl, rfl⟩
    · exact .inl rfl
  | claim_due_scan_job worker_id ttl =>
    refine .inr ⟨rfl, ?_, ?_⟩
    · refine (List.map_map ..).trans (List.map_congr_left fun job _ => ?_)
      exact claim_job_id ..
    · refine (List.map_map ..).trans (List.map_congr_left fun run _ => ?_)
      exact claim_run_id ..
  | renew_scan_job_lease => exact .inr ⟨rfl, Table.update_column fun _ => rfl, rfl⟩
  | mark_scan_job job_id worker_id mark scan_run_id =>
    rcases mark_cases t now job_id worker_id mark scan_run_id with h | ⟨_, h⟩
    · rw [JobQuery.run, h]
      exact .inr ⟨rfl, rfl, rfl⟩
    · rw [JobQuery.run, h]
      exact .inr ⟨rfl, Table.update_column fun _ => mark.apply_id _, rfl⟩
  | create_scan_run task context worker_id started_at metadata =>
    rcases create_run_cases t now task context worker_id started_at metadata with
      h | ⟨_, h⟩
    · rw [JobQuery.run, h]
      exact .inr ⟨rfl, rfl, rfl⟩
    · rw [JobQuery.run, h]
      exact .inl rfl
  | finish_scan_run scan_run_id finish =>
    rcases finish_run_cases t now scan_run_id finish with h | h
    · rw [JobQuery.run, h]
      exact .inr ⟨rfl, rfl, rfl⟩
    · rw [JobQuery.run, h]
      exact .inr ⟨rfl, rfl, Table.update_column fun _ => rfl⟩
  | finish_scan_job_and_run job_id worker_id mark scan_run_id finish =>
    rcases finish_job_and_run_cases t now job_id worker_id mark scan_run_id finish
      with ⟨_, h⟩ | ⟨_, h⟩
    · rw [JobQuery.run, h]
      exact .inr ⟨rfl, rfl, rfl⟩
    · rw [JobQuery.run, h]
      exact .inr ⟨rfl, Table.update_column fun _ => mark.apply_id _,
        Table.update_column fun _ => rfl⟩

theorem run_lt_statement (h : ∀ run ∈ t.scan_runs, run.id < t.next_id) (q : JobQuery) :
    ∀ run ∈ (q.run now skipped t).2.scan_runs, run.id < (q.run now skipped t).2.next_id := by
  intro run hrun
  rcases run_ids t now skipped q with hnext | ⟨hnext, _, hids⟩
  · rw [hnext]
    rcases (run_runs t now skipped q).mem hrun with hold | ⟨old, hold, hstep⟩ | hnew
    · exact Nat.lt_succ_of_lt (h run hold)
    · exact hstep.id ▸ Nat.lt_succ_of_lt (h old hold)
    · exact hnew.id ▸ Nat.lt_succ_self _
  · have hid := List.mem_map_of_mem (f := ScanRun.id) hrun
    rw [hids] at hid
    obtain ⟨old, hold, hsame⟩ := List.mem_map.mp hid
    rw [hnext, ← hsame]
    exact h old hold

theorem Keyed.statement (h : Keyed t) (q : JobQuery) : Keyed (q.run now skipped t).2 := by
  have hjobs := run_jobs now skipped h.unique_job q
  have hruns := run_runs t now skipped q
  constructor
  · intro job hjob
    rcases run_ids t now skipped q with hnext | ⟨hnext, hids, _⟩
    · rw [hnext]
      rcases hjobs.mem hjob with hold | ⟨old, hold, hstep⟩ | hnew
      · exact Nat.lt_succ_of_lt (h.job_lt job hold)
      · exact hstep.id ▸ Nat.lt_succ_of_lt (h.job_lt old hold)
      · exact hnew.id ▸ Nat.lt_succ_self _
    · have hid := List.mem_map_of_mem (f := ScanJob.id) hjob
      rw [hids] at hid
      obtain ⟨old, hold, hsame⟩ := List.mem_map.mp hid
      rw [hnext, ← hsame]
      exact h.job_lt old hold
  · exact run_lt_statement h.run_lt q
  · refine hjobs.nodup h.unique_job (fun _ _ _ hstep => hstep.id) fun job hjob new hnew => ?_
    rw [hnew.id]
    exact Nat.ne_of_lt (h.job_lt job hjob)
  · refine hruns.nodup h.unique_run (fun _ _ _ hstep => hstep.id) fun run hrun new hnew => ?_
    rw [hnew.id]
    exact Nat.ne_of_lt (h.run_lt run hrun)

theorem QueueInvariant.statement (h : QueueInvariant t) (q : JobQuery) :
    QueueInvariant (q.run now skipped t).2 := by
  have hjobs := run_jobs now skipped h.keyed.unique_job q
  have hactive : ∀ a a' : ScanJob, (a' = a ∨ JobStep t now skipped q a a') → a'.active = true →
      a.active = true ∧ a'.address_id = a.address_id := by
    rintro a a' (rfl | hstep) ha
    · exact ⟨ha, rfl⟩
    · exact ⟨hstep.active, hstep.address_id⟩
  constructor
  · exact h.keyed.statement q
  · refine hjobs.pairwise h.one_active ?_ ?_
    · intro a _ b _ a' b' ha' hb' hab ha hb
      obtain ⟨hactive_a, hsame_a⟩ := hactive a a' ha' ha
      obtain ⟨hactive_b, hsame_b⟩ := hactive b b' hb' hb
      rw [hsame_a, hsame_b]
      exact hab hactive_a hactive_b
    · intro a hmem a' new ha' hnew ha _
      obtain ⟨hactive_a, hsame_a⟩ := hactive a a' ha' ha
      cases hnew with
      | intro _ hnone =>
        rw [hsame_a]
        exact active_job_none hnone hmem hactive_a
  · intro job hjob
    rcases hjobs.mem hjob with hold | ⟨old, hold, hstep⟩ | hnew
    · exact h.locked job hold
    · exact hstep.locked (h.locked old hold)
    · exact hnew.locked

/-- A statement with an error of its own changes nothing. -/
theorem run_error {e : AppError} (h : (q.run now skipped t).1 = .error e) :
    (q.run now skipped t).2 = t := by
  cases q with
  | scan_run_context => rfl
  | insert_scheduled_scan_job => cases h
  | insert_retry_scan_job => cases h
  | claim_due_scan_job => cases h
  | renew_scan_job_lease => cases h
  | mark_scan_job job_id worker_id mark scan_run_id =>
    rcases mark_cases t now job_id worker_id mark scan_run_id with hnone | ⟨_, hdone⟩
    · rw [JobQuery.run, hnone]
    · rw [JobQuery.run, hdone] at h
      cases h
  | create_scan_run task context worker_id started_at metadata =>
    rcases create_run_cases t now task context worker_id started_at metadata with hnone | ⟨_, hdone⟩
    · rw [JobQuery.run, hnone]
    · rw [JobQuery.run, hdone] at h
      cases h
  | finish_scan_run scan_run_id finish =>
    rcases finish_run_cases t now scan_run_id finish with hnone | hdone
    · rw [JobQuery.run, hnone]
    · rw [JobQuery.run, hdone] at h
      cases h
  | finish_scan_job_and_run job_id worker_id mark scan_run_id finish =>
    rcases finish_job_and_run_cases t now job_id worker_id mark scan_run_id finish with
      ⟨_, hnone⟩ | ⟨_, hdone⟩
    · rw [JobQuery.run, hnone]
    · rw [JobQuery.run, hdone] at h
      cases h

theorem JobQuery.Fate.state {r : AppResult q.Answer} (h : q.Fate t r u) :
    u = t ∨ ∃ now skipped, u = (q.run now skipped t).2 := by
  obtain ⟨now, skipped, h⟩ := h
  exact h.state.imp_right fun hu => ⟨now, skipped, hu⟩

theorem JobQuery.Fate.answer {a : q.Answer} (h : q.Fate t (.ok a) u) :
    ∃ now skipped, (q.run now skipped t).1 = .ok a ∧ (q.run now skipped t).2 = u := by
  obtain ⟨now, skipped, h⟩ := h
  exact ⟨now, skipped, h.answer⟩

end Statement

/-! ### Runs -/

section Runs
variable {t u : ScanTables} {job : ScanJob}

theorem QueueInvariant.move (h : QueueInvariant t) (hmove : JobMove t u) : QueueInvariant u := by
  cases hmove with
  | statement q r hfate =>
    obtain ⟨now, skipped, hfate⟩ := hfate
    rcases hfate.state with rfl | rfl
    · exact h
    · exact h.statement q
  | edit => exact ⟨⟨h.keyed.job_lt, h.keyed.run_lt, h.keyed.unique_job, h.keyed.unique_run⟩,
      h.one_active, h.locked⟩
  | annotate metadata =>
    refine ⟨⟨h.keyed.job_lt, ?_, h.keyed.unique_job, ?_⟩, h.one_active, h.locked⟩
    · intro run hrun
      obtain ⟨old, hold, rfl⟩ := List.mem_map.mp hrun
      exact h.keyed.run_lt old hold
    · rw [List.map_map]
      exact h.keyed.unique_run

theorem QueueInvariant.empty : QueueInvariant .empty := by
  constructor
  · constructor <;> simp
  · rw [ScanTables.empty_scan_jobs]
    exact .nil
  · simp

theorem QueueInvariant.reachable (h : Reachable t) : QueueInvariant t := by
  induction h with
  | refl => exact .empty
  | tail _ hmove ih => exact ih.move hmove

/-- A finished job stays as it is under one statement. -/
theorem finished_job_move (h : QueueInvariant t) (hmove : JobMove t u) (hjob : job ∈ t.scan_jobs)
    (hfinished : job.active = false) : job ∈ u.scan_jobs := by
  cases hmove with
  | statement q r hfate =>
    obtain ⟨now, skipped, hfate⟩ := hfate
    rcases hfate.state with rfl | rfl
    · exact hjob
    · obtain ⟨after, hafter, rfl | hstep⟩ := (run_jobs now skipped h.keyed.unique_job q).next hjob
      · exact hafter
      · exact absurd hstep.active (by simp [hfinished])
  | edit => exact hjob
  | annotate => exact hjob

theorem finished_job_run (h : QueueInvariant t) (hrun : Relation.ReflTransGen JobMove t u)
    (hjob : job ∈ t.scan_jobs) (hfinished : job.active = false) :
    QueueInvariant u ∧ job ∈ u.scan_jobs := by
  induction hrun with
  | refl => exact ⟨h, hjob⟩
  | tail _ hmove ih => exact ⟨ih.1.move hmove, finished_job_move ih.1 hmove ih.2 hfinished⟩

end Runs

/-! ### Ownership -/

/-- The job and the worker a renewal, a mark or a new run is about. -/
def JobQuery.owner : JobQuery → Option (Uuid × String)
  | .renew_scan_job_lease job_id worker_id _ => some (job_id, worker_id)
  | .mark_scan_job job_id worker_id _ _ => some (job_id, worker_id)
  | .create_scan_run task _ worker_id _ _ => some (task.task_id, worker_id)
  | .finish_scan_job_and_run job_id worker_id _ _ _ => some (job_id, worker_id)
  | _ => none

theorem JobStep.owned {t : ScanTables} {now : Timestamp} {skipped : Uuid → Bool}
    {q : JobQuery} {job job' : ScanJob} {job_id : Uuid} {worker_id : String}
    (h : JobStep t now skipped q job job')
    (howner : q.owner = some (job_id, worker_id)) :
    job.id = job_id ∧ job.held_by worker_id now = true := by
  cases h with
  | renewed h => simp_all [JobQuery.owner]
  | marked h => simp_all [JobQuery.owner]
  | finished h => simp_all [JobQuery.owner]
  | linked hid h => simp_all [JobQuery.owner]
  | dead_lettered => exact nomatch howner
  | claimed => exact nomatch howner
  | requeued => exact nomatch howner

/-- What a job that a worker holds was before a statement that did not claim it. -/
theorem JobStep.held {t : ScanTables} {now : Timestamp} {skipped : Uuid → Bool} {q : JobQuery}
    {job job' : ScanJob} {worker_id : String} (h : JobStep t now skipped q job job')
    (hlocked : job'.locked_by = some worker_id) (hstatus : job'.status = .processing) :
    (∃ ttl, q = .claim_due_scan_job worker_id ttl) ∨
      (job.locked_by = some worker_id ∧ job.status = .processing ∧
        job'.attempt_count = job.attempt_count ∧ job'.max_attempts = job.max_attempts) := by
  cases h with
  | dead_lettered => exact nomatch hstatus
  | claimed => exact .inl ⟨_, by rw [Option.some.inj hlocked]⟩
  | renewed => exact .inr ⟨hlocked, hstatus, rfl, rfl⟩
  | marked => exact absurd hstatus (JobMark.apply_unlocked ..).1
  | finished => exact absurd hstatus (JobMark.apply_unlocked ..).1
  | linked => exact .inr ⟨hlocked, hstatus, rfl, rfl⟩
  | requeued => exact nomatch hstatus

/-- The worker a claim or a new run is for. -/
def JobQuery.claimant : JobQuery → Option String
  | .claim_due_scan_job worker_id _ => some worker_id
  | .create_scan_run _ _ worker_id _ _ => some worker_id
  | _ => none

/-- Others do not link runs to a job that a worker holds. -/
theorem JobStep.held_last {t : ScanTables} {now : Timestamp} {skipped : Uuid → Bool} {q : JobQuery}
    {job job' : ScanJob} {worker_id : String} (h : JobStep t now skipped q job job')
    (hlocked : job'.locked_by = some worker_id) (hstatus : job'.status = .processing)
    (hother : q.claimant ≠ some worker_id) : job'.last_scan_run_id = job.last_scan_run_id := by
  cases h with
  | dead_lettered => rfl
  | claimed => rfl
  | renewed => rfl
  | marked => exact absurd hstatus (JobMark.apply_unlocked ..).1
  | finished => exact absurd hstatus (JobMark.apply_unlocked ..).1
  | linked _ hheld =>
    have hsame := (ScanJob.held_by_iff.mp hheld).1.symm.trans hlocked
    exact absurd hsame hother
  | requeued => rfl

/-! ### Closing runs -/

section Closing
variable {t : ScanTables} {now : Timestamp} {skipped : Uuid → Bool} {job job' : ScanJob}
  {run : ScanRun} {worker_id : String} {ttl : Int}

/-- A claim closes the runs of the jobs it dead-letters or hands out. -/
theorem claim_closes
    (hrun : run ∈ (t.claim_due_scan_job now skipped worker_id ttl).2.scan_runs)
    (hrunning : run.status = .running) :
    run ∈ t.scan_runs ∧
      (∀ job ∈ t.scan_jobs, job.exhausted now = true → job.last_scan_run_id ≠ some run.id) ∧
      ∀ due, t.due now skipped = some due → due.last_scan_run_id ≠ some run.id := by
  obtain ⟨old, hold, hclaim⟩ := List.mem_map.mp hrun
  unfold ScanTables.claim_run at hclaim
  split at hclaim
  · exact nomatch (hclaim ▸ hrunning : (old.reclaimed now _).status = .running)
  · rename_i hexhausted
    split at hclaim
    · exact nomatch (hclaim ▸ hrunning : (old.reclaimed now _).status = .running)
    · rename_i hdue
      subst hclaim
      refine ⟨hold, fun job hjob hex hlast => hexhausted ?_, fun due hfound hlast => hdue ?_⟩
      · simp only [hrunning, decide_true, Bool.true_and, List.any_eq_true]
        exact ⟨job, hjob, by simp [hex, hlast]⟩
      · simp [hrunning, hfound, hlast]

/-- A claim takes the jobs whose runs it closes: it dead-letters them or locks them for its worker. -/
theorem claim_takes (hids : (t.scan_jobs.map (·.id)).Nodup) (hjob : job ∈ t.scan_jobs)
    (hdue : job.exhausted now = true ∨ t.due now skipped = some job)
    (hafter : job' ∈ (t.claim_due_scan_job now skipped worker_id ttl).2.scan_jobs)
    (hid : job'.id = job.id) : job'.status ≠ .processing ∨ job'.locked_by = some worker_id := by
  obtain ⟨old, hold, rfl⟩ := List.mem_map.mp hafter
  rw [claim_job_id] at hid
  obtain rfl := List.inj_on_of_nodup_map hids hold hjob hid
  by_cases hex : old.exhausted now = true
  · left
    rw [ScanTables.claim_job, if_pos hex]
    intro h
    cases h
  · right
    rcases hdue with h | hfound
    · exact absurd h hex
    · simp [ScanTables.claim_job, hex, hfound, ScanJob.claimed]

/-- The transaction gives the run its status, or does nothing. -/
theorem finish_sets (t : ScanTables) (now : Timestamp) (job_id : Uuid) (worker_id : String)
    (mark : JobMark) (scan_run_id : Uuid) (finish : RunFinish) :
    (t.finish_scan_job_and_run now job_id worker_id mark scan_run_id finish).2 = t ∨
      ∀ run ∈ (t.finish_scan_job_and_run now job_id worker_id mark scan_run_id finish).2.scan_runs,
        run.id = scan_run_id → run.status = finish.status := by
  rcases finish_job_and_run_cases t now job_id worker_id mark scan_run_id finish with
    ⟨e, h⟩ | ⟨_, h⟩
  · exact .inl (by rw [h])
  · right
    rw [h]
    intro run hrun hid
    obtain ⟨old, _, rfl⟩ := Table.mem_update.mp hrun
    unfold Table.revise at hid ⊢
    split
    · rfl
    · rename_i hother
      rw [if_neg hother] at hid
      exact absurd (by simp [hid]) hother

end Closing

/-! ### Claims -/

/-- The claim dead-letters the job, or it hands out a due job that does not come after it: the job
itself, or one that is ahead of it. -/
def Attended (t : ScanTables) (now : Timestamp) (skipped : Uuid → Bool) (worker_id : String)
    (lease_ttl_seconds : Int) (job : ScanJob) : Prop :=
  let after := t.claim_due_scan_job now skipped worker_id lease_ttl_seconds
  (job.exhausted now = true ∧ job.dead_lettered now ∈ after.2.scan_jobs) ∨
    ∃ first ∈ t.scan_jobs, first.claimable now = true ∧
      first.claim_order now ≤ job.claim_order now ∧
      after.1 = some (first.claimed now worker_id lease_ttl_seconds) ∧
      first.claimed now worker_id lease_ttl_seconds ∈ after.2.scan_jobs

section Claims
variable {t : ScanTables} {now : Timestamp} {skipped : Uuid → Bool} {job : ScanJob}

/-- From this time on an active job is due or exhausted. -/
def ScanJob.due_at (job : ScanJob) : Timestamp :=
  if job.waiting then job.next_attempt_at else job.lease_expires_at.getD 0

theorem due_or_exhausted (hlocked : job.Locked) (hactive : job.active = true)
    (hnow : ScanJob.due_at job ≤ now) : job.exhausted now = true ∨ job.claimable now = true := by
  by_cases hwaiting : job.waiting = true
  · rw [ScanJob.due_at, if_pos hwaiting] at hnow
    exact .inr (by simp [ScanJob.claimable, hwaiting, hnow])
  · have hstatus : job.status = .processing := by
      rw [ScanJob.waiting_iff] at hwaiting
      simp only [ScanJob.active, Bool.or_eq_true, decide_eq_true_eq] at hactive
      rcases hactive with hactive | hactive
      · exact absurd hactive hwaiting
      · exact hactive
    obtain ⟨lease, hlease⟩ := Option.isSome_iff_exists.mp (hlocked.2.mp hstatus)
    rw [ScanJob.due_at, if_neg hwaiting, hlease] at hnow
    have hexpired : job.expired now = true := by
      simpa [ScanJob.expired, hstatus, hlease] using hnow
    by_cases hattempts : job.max_attempts ≤ job.attempt_count
    · exact .inl (by simp [ScanJob.exhausted, hexpired, hattempts])
    · exact .inr (by simp [ScanJob.claimable, hexpired, not_le.mp hattempts])

theorem claim_attends (worker_id : String) (ttl : Int) (hjob : job ∈ t.scan_jobs)
    (hdue : job.exhausted now = true ∨ job.claimable now = true) (hskipped : skipped job.id = false) :
    Attended t now skipped worker_id ttl job := by
  rcases hdue with hexhausted | hclaimable
  · refine .inl ⟨hexhausted, List.mem_map.mpr ⟨job, hjob, ?_⟩⟩
    simp [ScanTables.claim_job, hexhausted]
  · obtain ⟨first, hfirst, hle⟩ := due_first hjob hclaimable hskipped
    obtain ⟨hmem, hclaimable⟩ := due_mem hfirst
    refine .inr ⟨first, hmem, hclaimable, hle, ?_, List.mem_map.mpr ⟨first, hmem, ?_⟩⟩
    · simp [ScanTables.claim_due_scan_job, hfirst]
    · simp [ScanTables.claim_job, claimable_not_exhausted hclaimable, hfirst]

end Claims

/-- The queue in every state that statements can lead to: one active job for each address, locks
exactly on the jobs being processed, finished jobs final, changes by owners only, and no active job
that claims pass over for ever. -/
theorem scan_queue_invariants {t : ScanTables} (h : Reachable t) :
    OneActive t.scan_jobs ∧
    (∀ job ∈ t.scan_jobs, job.Locked) ∧
    (∀ u, Relation.ReflTransGen JobMove t u → ∀ job ∈ t.scan_jobs, job.active = false →
      Table.find (·.id) job.id u.scan_jobs = some job) ∧
    (∀ now skipped, ∀ q : JobQuery, ∀ job_id worker_id, q.owner = some (job_id, worker_id) →
      ∀ job ∈ t.scan_jobs,
        Table.find (·.id) job.id (q.run now skipped t).2.scan_jobs = some job ∨
          job.id = job_id ∧ job.held_by worker_id now = true) ∧
    (∀ job ∈ t.scan_jobs, job.active = true → ∃ due_at : Timestamp, ∀ now, due_at ≤ now →
      ∀ skipped worker_id ttl, skipped job.id = false →
        Attended t now skipped worker_id ttl job) := by
  have hinv := QueueInvariant.reachable h
  refine ⟨hinv.one_active, hinv.locked, ?_, ?_, ?_⟩
  · intro u hrun job hjob hfinished
    obtain ⟨hafter, hmem⟩ := finished_job_run hinv hrun hjob hfinished
    exact Table.find_of_mem hafter.keyed.unique_job hmem
  · intro now skipped q job_id worker_id howner job hjob
    obtain ⟨after, hafter, rfl | hstep⟩ :=
      (run_jobs now skipped hinv.keyed.unique_job q).next hjob
    · exact .inl (Table.find_of_mem (hinv.keyed.statement q).unique_job hafter)
    · exact .inr (hstep.owned howner)
  · intro job hjob hactive
    refine ⟨ScanJob.due_at job, fun now hnow skipped worker_id ttl hskipped => ?_⟩
    exact claim_attends worker_id ttl hjob (due_or_exhausted (hinv.locked job hjob) hactive hnow)
      hskipped

/-! ### Two due jobs -/

def watched (id : Uuid) : ScanAddressCandidate :=
  { id := id, tenant_id := 1, chain_id := 2, scan_interval_seconds := 60 }

/-- The scheduler has enqueued two addresses. -/
def queued_pair : ScanTables :=
  ((ScanTables.empty.insert_scheduled_scan_job 0 (watched 10) 10 0).2.insert_scheduled_scan_job 0
    (watched 11) 10 0).2

theorem queued_pair_reachable : Reachable queued_pair := by
  have hfirst : JobMove .empty (ScanTables.empty.insert_scheduled_scan_job 0 (watched 10) 10 0).2 :=
    .statement (.insert_scheduled_scan_job (watched 10) 10 0) _ ⟨0, fun _ => false, .answered⟩
  have hsecond : JobMove (ScanTables.empty.insert_scheduled_scan_job 0 (watched 10) 10 0).2
      queued_pair :=
    .statement (.insert_scheduled_scan_job (watched 11) 10 0) _ ⟨0, fun _ => false, .answered⟩
  exact .tail (.tail .refl hfirst) hsecond

theorem scan_queue_invariants_pair :
    OneActive queued_pair.scan_jobs ∧ ∀ job ∈ queued_pair.scan_jobs, job.Locked := by
  obtain ⟨hactive, hlocked, _⟩ := scan_queue_invariants queued_pair_reachable
  exact ⟨hactive, hlocked⟩

def first_job : ScanJob :=
  ScanTables.empty.new_job 0 1 10 2 10 0 none

def second_job : ScanJob :=
  { first_job with id := 1, address_id := 11 }

theorem queued_pair_due {now : Timestamp} (hnow : 0 ≤ now) :
    queued_pair.due now (fun _ => false) = some first_job := by
  have hjobs : queued_pair.scan_jobs = [first_job, second_job] := rfl
  have hfirst : first_job.claimable now = true := by
    simp [ScanJob.claimable, ScanJob.waiting, first_job, ScanTables.new_job, hnow]
  have hsecond : second_job.claimable now = true := by
    simp [ScanJob.claimable, ScanJob.waiting, second_job, first_job, ScanTables.new_job, hnow]
  have horder : second_job.claim_order now = first_job.claim_order now := rfl
  simp [ScanTables.due, hjobs, hfirst, hsecond, List.argmin_cons, horder]

/-- However late it is, a claim takes the first job and leaves the second as it is. -/
theorem claim_passes_over_due_job :
    Reachable queued_pair ∧ ∃ job ∈ queued_pair.scan_jobs, job.active = true ∧
      ∀ due_at : Timestamp, ∃ now, due_at ≤ now ∧
        Table.find (·.id) job.id
          (queued_pair.claim_due_scan_job now (fun _ => false) "worker" 60).2.scan_jobs =
            some job := by
  refine ⟨queued_pair_reachable, second_job, by decide, by decide, fun due_at => ?_⟩
  refine ⟨max due_at 0, le_max_left .., ?_⟩
  have hdue := queued_pair_due (le_max_right due_at 0)
  unfold ScanTables.claim_due_scan_job
  rw [hdue]
  rfl

end Storage

end CoinListener
