import CoinListener.Worker.ScanLoop

/-! A run that has ended keeps its end, as long as the fallback after a failed finalization is not
written over it. -/
namespace CoinListener.Worker
open Foundation Storage

/-- The fallback is written only while its run is still running. -/
def FallbackOnRunning : Condition := fun t q _ _ =>
  match q with
  | .finish_scan_run scan_run_id _ =>
    ∀ run ∈ t.scan_runs, run.id = scan_run_id → run.status = .running
  | _ => True

structure HistoryInvariant (t : ScanTables) : Prop where
  queue : QueueInvariant t
  last_lt : ∀ job ∈ t.scan_jobs, ∀ id, job.last_scan_run_id = some id → id < t.next_id
  last_task : ∀ job ∈ t.scan_jobs, ∀ run ∈ t.scan_runs, job.last_scan_run_id = some run.id →
    run.task_id = job.id
  succeeded : ∀ job ∈ t.scan_jobs, job.status = .succeeded → ∀ run ∈ t.scan_runs,
    job.last_scan_run_id = some run.id → run.status ≠ .running ∧ run.status ≠ .failed

/-- While the run is running, its job is being processed by nobody else. -/
structure Mine (worker_id : String) (run_id : Uuid) (t : ScanTables) : Prop where
  known : run_id < t.next_id
  own : ∀ job ∈ t.scan_jobs, job.status = .processing → job.last_scan_run_id = some run_id →
    ∀ run ∈ t.scan_runs, run.id = run_id → run.status = .running → job.locked_by = some worker_id

/-- While the worker holds the job, the run is its last one and still running. -/
def Current (worker_id : String) (job_id run_id : Uuid) (t : ScanTables) : Prop :=
  ∀ job ∈ t.scan_jobs, job.id = job_id → job.locked_by = some worker_id →
    job.status = .processing → job.last_scan_run_id = some run_id ∧
      ∀ run ∈ t.scan_runs, run.id = run_id → run.status = .running

def history_known (worker_id : String) : JobPhase → ScanTables → Prop
  | .created job run, t => Mine worker_id run.id t ∧ Current worker_id job.id run.id t
  | .unfinished run, t => Mine worker_id run.id t
  | _, _ => True

def history_permitted (worker_id : String) (t : ScanTables) : JobStatement → Prop
  | .db (.claim_due_scan_job w _) => w = worker_id
  | .db (.create_scan_run _ _ w _ _) => w = worker_id
  | .db (.mark_scan_job _ _ _ scan_run_id) => scan_run_id = none
  | .db (.finish_scan_run scan_run_id finish) =>
    finish.status ≠ .running ∧ Mine worker_id scan_run_id t
  | .db (.finish_scan_job_and_run job_id w mark scan_run_id finish) =>
    w = worker_id ∧ finish.status ≠ .running ∧ (mark = .succeeded → finish.status ≠ .failed) ∧
      Mine worker_id scan_run_id t ∧ Current worker_id job_id scan_run_id t
  | _ => True

section History
variable {t u : ScanTables} {now : Timestamp} {skipped : Uuid → Bool} {q : JobQuery}
  {job job' : ScanJob} {run run' : ScanRun} {worker_id w : String} {job_id run_id : Uuid}
  {r : AppResult q.Answer}

/-- No statement sets a run running again. -/
theorem runStep_ends (hA : history_permitted w t (.db q))
    (hstep : RunStep t now skipped q run run') : run'.status ≠ .running := by
  cases hstep with
  | reclaimed => exact nofun
  | finished => exact hA.1
  | finished_with_job => exact hA.2.1

/-- Only a running run is changed. -/
theorem runStep_running (hA : history_permitted w t (.db q)) (hC : FallbackOnRunning t q r u)
    (hrun : run ∈ t.scan_runs) (hstep : RunStep t now skipped q run run') :
    run.status = .running := by
  cases hstep with
  | reclaimed _ hrunning => exact hrunning
  | finished => exact hC run hrun rfl
  | finished_with_job hjob hheld =>
    obtain ⟨hlocked, hstatus, _⟩ := ScanJob.held_by_iff.mp hheld
    obtain ⟨rfl, _, _, _, hcurrent⟩ := hA
    exact (hcurrent _ hjob rfl hlocked hstatus).2 run hrun rfl

/-- The runs with an identifier that is in use are the ones that were there. -/
theorem run_before (hA : history_permitted w t (.db q)) (hid : run'.id < t.next_id)
    (hrun : run' ∈ (q.run now skipped t).2.scan_runs) :
    run' ∈ t.scan_runs ∨
      (∃ run ∈ t.scan_runs, RunStep t now skipped q run run' ∧ run'.status ≠ .running) := by
  rcases (run_runs t now skipped q).mem hrun with hold | ⟨old, hold, hstep⟩ | hnew
  · exact .inl hold
  · exact .inr ⟨old, hold, hstep, runStep_ends hA hstep⟩
  · exact absurd hnew.id (Nat.ne_of_lt hid)

/-- What the last run of a job was before the statement. -/
theorem last_before (h : HistoryInvariant t) (hA : history_permitted w t (.db q))
    (hjob : job' ∈ (q.run now skipped t).2.scan_jobs) (hlast : job'.last_scan_run_id = some run_id) :
    (∃ job ∈ t.scan_jobs, job.id = job'.id ∧ job.last_scan_run_id = some run_id) ∨
      (run_id = t.next_id ∧ ∃ task context started_at metadata,
        q = .create_scan_run task context w started_at metadata ∧ job'.id = task.task_id) := by
  rcases (run_jobs now skipped h.queue.keyed.unique_job q).mem hjob with hold | ⟨old, hold, hstep⟩ | hnew
  · exact .inl ⟨job', hold, rfl, hlast⟩
  · cases hstep with
    | marked =>
      rw [JobMark.apply_last_scan_run_id, hA] at hlast
      exact nomatch hlast
    | finished hheld =>
      obtain ⟨hlocked, hstatus, _⟩ := ScanJob.held_by_iff.mp hheld
      obtain ⟨rfl, _, _, _, hcurrent⟩ := hA
      rw [JobMark.apply_last_scan_run_id] at hlast
      obtain rfl := Option.some.inj hlast
      exact .inl ⟨old, hold, (JobMark.apply_id ..).symm, (hcurrent old hold rfl hlocked hstatus).1⟩
    | linked htask =>
      obtain rfl := hA
      exact .inr ⟨(Option.some.inj hlast).symm, _, _, _, _, rfl, htask⟩
    | dead_lettered => exact .inl ⟨old, hold, rfl, hlast⟩
    | claimed => exact .inl ⟨old, hold, rfl, hlast⟩
    | renewed => exact .inl ⟨_, hold, rfl, hlast⟩
    | requeued => exact .inl ⟨_, hold, rfl, hlast⟩
  · cases hnew
    exact nomatch hlast

theorem RunStep.task_id (h : RunStep t now skipped q run run') : run'.task_id = run.task_id := by
  cases h <;> rfl

theorem last_lt_kept (h : HistoryInvariant t) (hA : history_permitted w t (.db q))
    (hjob : job' ∈ (q.run now skipped t).2.scan_jobs) (hlast : job'.last_scan_run_id = some run_id) :
    run_id < (q.run now skipped t).2.next_id := by
  rcases last_before h hA hjob hlast with ⟨job, hold, _, hbefore⟩ | ⟨rfl, task, context, started_at,
    metadata, rfl, _⟩
  · have hlt := h.last_lt job hold run_id hbefore
    rcases run_ids t now skipped q with hnext | ⟨hnext, _⟩
    · rw [hnext]
      exact Nat.lt_succ_of_lt hlt
    · rw [hnext]
      exact hlt
  · rcases create_run_cases t now task context w started_at metadata with hnone | ⟨_, hdone⟩
    · rw [JobQuery.run, hnone] at hjob ⊢
      exact h.last_lt job' hjob _ hlast
    · rw [JobQuery.run, hdone]
      exact Nat.lt_succ_self _

theorem last_task_kept (h : HistoryInvariant t) (hA : history_permitted w t (.db q))
    (hjob : job' ∈ (q.run now skipped t).2.scan_jobs)
    (hrun : run' ∈ (q.run now skipped t).2.scan_runs)
    (hlast : job'.last_scan_run_id = some run'.id) : run'.task_id = job'.id := by
  rcases last_before h hA hjob hlast with ⟨job, hold, hid, hbefore⟩ | ⟨hnext, task, context,
    started_at, metadata, rfl, htask⟩
  · rw [← hid]
    have hlt := h.last_lt job hold _ hbefore
    rcases run_before hA hlt hrun with hsame | ⟨run, hrun, hstep, _⟩
    · exact h.last_task job hold run' hsame hbefore
    · rw [RunStep.task_id hstep]
      exact h.last_task job hold run hrun (hstep.id ▸ hbefore)
  · rcases (run_runs t now skipped _).mem hrun with hsame | ⟨run, hsame, hstep⟩ | hnew
    · exact absurd hnext (Nat.ne_of_lt (h.queue.keyed.run_lt run' hsame))
    · exact absurd (hstep.id.symm.trans hnext) (Nat.ne_of_lt (h.queue.keyed.run_lt run hsame))
    · cases hnew
      exact htask.symm

theorem succeeded_kept (h : HistoryInvariant t) (hA : history_permitted w t (.db q))
    (hC : FallbackOnRunning t q r u) (hjob : job' ∈ (q.run now skipped t).2.scan_jobs)
    (hstatus : job'.status = .succeeded) (hrun : run' ∈ (q.run now skipped t).2.scan_runs)
    (hlast : job'.last_scan_run_id = some run'.id) :
    run'.status ≠ .running ∧ run'.status ≠ .failed := by
  rcases (run_jobs now skipped h.queue.keyed.unique_job q).mem hjob with hold | ⟨old, hold, hstep⟩ | hnew
  · rcases run_before hA (h.last_lt job' hold _ hlast) hrun with hsame | ⟨run, hsame, hstep, _⟩
    · exact h.succeeded job' hold hstatus run' hsame hlast
    · have hended := (h.succeeded job' hold hstatus run hsame (hstep.id ▸ hlast)).1
      exact absurd (runStep_running hA hC hsame hstep) hended
  · cases hstep with
    | dead_lettered => cases hstatus
    | claimed => cases hstatus
    | requeued => cases hstatus
    | renewed hheld => cases hstatus.symm.trans (ScanJob.held_by_iff.mp hheld).2.1
    | linked _ hheld => cases hstatus.symm.trans (ScanJob.held_by_iff.mp hheld).2.1
    | marked =>
      rw [JobMark.apply_last_scan_run_id, hA] at hlast
      cases hlast
    | @finished v mark scan_run_id finish _ hheld =>
      obtain ⟨rfl, hrunning, hfailed, _, _⟩ := hA
      have hid : scan_run_id = run'.id :=
        Option.some.inj ((JobMark.apply_last_scan_run_id ..).symm.trans hlast)
      have hmark : mark = .succeeded := by
        cases mark <;> first | rfl | cases hstatus
      rcases finish_sets t now old.id v mark scan_run_id finish with hnothing | hsets
      · rw [JobQuery.run, hnothing] at hjob hrun
        exact h.succeeded _ hjob hstatus run' hrun hlast
      · rw [hsets run' hrun hid.symm]
        exact ⟨hrunning, hfailed hmark⟩
  · cases hnew
    cases hstatus

theorem HistoryInvariant.statement (h : HistoryInvariant t) (hA : history_permitted w t (.db q))
    (hC : FallbackOnRunning t q r u) (hfate : q.Fate t r u) : HistoryInvariant u := by
  rcases hfate.state with rfl | ⟨now, skipped, rfl⟩
  · exact h
  · constructor
    · exact h.queue.statement q
    · exact fun job hjob id hlast => last_lt_kept h hA hjob hlast
    · exact fun job hjob run hrun hlast => last_task_kept h hA hjob hrun hlast
    · exact fun job hjob hstatus run hrun hlast => succeeded_kept h hA hC hjob hstatus hrun hlast

/-- A run that has ended stays as it is. -/
theorem ended_kept (hA : history_permitted w t (.db q)) (hC : FallbackOnRunning t q r u)
    (hfate : q.Fate t r u) (hrun : run ∈ t.scan_runs) (hended : run.status ≠ .running) :
    run ∈ u.scan_runs := by
  rcases hfate.state with rfl | ⟨now, skipped, rfl⟩
  · exact hrun
  · obtain ⟨after, hafter, rfl | hstep⟩ := (run_runs t now skipped q).next hrun
    · exact hafter
    · exact absurd (runStep_running hA hC hrun hstep) hended

/-! ### What a worker knows -/

/-- Nobody but the worker lays hands on the job of its run while the run is running. -/
theorem Mine.statement (h : Mine worker_id run_id t) (hinv : HistoryInvariant t)
    (hA : history_permitted w t (.db q)) (hfate : q.Fate t r u) : Mine worker_id run_id u := by
  rcases hfate.state with rfl | ⟨now, skipped, rfl⟩
  · exact h
  constructor
  · rcases run_ids t now skipped q with hnext | ⟨hnext, _⟩
    · rw [hnext]
      exact Nat.lt_succ_of_lt h.known
    · rw [hnext]
      exact h.known
  · intro job hjob hstatus hlast run hrun hid hrunning
    have hbefore : run ∈ t.scan_runs := by
      rcases run_before hA (hid.symm ▸ h.known) hrun with hsame | ⟨_, _, _, hended⟩
      · exact hsame
      · exact absurd hrunning hended
    rcases (run_jobs now skipped hinv.queue.keyed.unique_job q).mem hjob with
      hold | ⟨old, hold, hstep⟩ | hnew
    · exact h.own job hold hstatus hlast run hbefore hid hrunning
    · cases hstep with
      | dead_lettered => exact nomatch hstatus
      | requeued => exact nomatch hstatus
      | claimed hdue => exact absurd (hid.symm ▸ hlast) ((claim_closes hrun hrunning).2.2 old hdue)
      | renewed => exact h.own old hold hstatus hlast run hbefore hid hrunning
      | linked => exact absurd (Option.some.inj hlast).symm (Nat.ne_of_lt h.known)
      | marked => exact absurd hstatus (JobMark.apply_unlocked ..).1
      | finished => exact absurd hstatus (JobMark.apply_unlocked ..).1
    · cases hnew
      exact nomatch hstatus

/-- Nobody else ends the current run of a job the worker holds. -/
theorem Current.statement (h : Current worker_id job_id run_id t) (hmine : run_id < t.next_id)
    (hinv : HistoryInvariant t) (hA : history_permitted w t (.db q)) (hfate : q.Fate t r u)
    (hother : JobQuery.FromOthers q ∨ w ≠ worker_id) : Current worker_id job_id run_id u := by
  rcases hfate.state with rfl | ⟨now, skipped, rfl⟩
  · exact h
  intro job hjob hid hlocked hstatus
  have hclaimant : q.claimant ≠ some worker_id := by
    intro hclaimant
    cases q with
    | claim_due_scan_job v ttl =>
      obtain rfl := Option.some.inj hclaimant
      rcases hother with hothers | hw
      · exact hothers
      · exact hw hA.symm
    | create_scan_run task context v started_at metadata =>
      obtain rfl := Option.some.inj hclaimant
      rcases hother with hothers | hw
      · exact hothers
      · exact hw hA.symm
    | _ => exact nomatch hclaimant
  obtain ⟨old, hold, hid', hlocked', hstatus', hlast⟩ : ∃ old ∈ t.scan_jobs, old.id = job_id ∧
      old.locked_by = some worker_id ∧ old.status = .processing ∧
      job.last_scan_run_id = old.last_scan_run_id := by
    rcases (run_jobs now skipped hinv.queue.keyed.unique_job q).mem hjob with
      hold | ⟨old, hold, hstep⟩ | hnew
    · exact ⟨job, hold, hid, hlocked, hstatus, rfl⟩
    · rcases hstep.held hlocked hstatus with ⟨ttl, rfl⟩ | ⟨hl, hs, _⟩
      · exact absurd rfl hclaimant
      · exact ⟨old, hold, hstep.id ▸ hid, hl, hs, hstep.held_last hlocked hstatus hclaimant⟩
    · cases hnew
      exact nomatch hstatus
  obtain ⟨hbefore, hrunning⟩ := h old hold hid' hlocked' hstatus'
  refine ⟨hlast.trans hbefore, fun run hrun hrun_id => ?_⟩
  rcases run_before hA (hrun_id.symm ▸ hmine) hrun with hsame | ⟨first, hfirst, hstep, _⟩
  · exact hrunning run hsame hrun_id
  · exfalso
    have hfirst_id : first.id = run_id := hstep.id ▸ hrun_id
    cases hstep with
    | @reclaimed v ttl _ message owner _ howner hdue howner_last =>
      have htask := hinv.last_task owner howner first hfirst howner_last
      have htask' := hinv.last_task old hold first hfirst (hbefore.trans (by rw [hfirst_id]))
      obtain rfl := List.inj_on_of_nodup_map hinv.queue.keyed.unique_job howner hold
        (htask.symm.trans htask')
      rcases claim_takes hinv.queue.keyed.unique_job hold hdue hjob (hid.trans hid'.symm) with
        hgone | hclaimed
      · exact hgone hstatus
      · exact hclaimant (hclaimed.symm.trans hlocked)
    | finished =>
      have hown := hA.2.own old hold hstatus' (hbefore.trans (by rw [hfirst_id])) first hfirst rfl
        (hrunning first hfirst hfirst_id)
      rcases hother with hothers | hw
      · exact hothers
      · exact hw (Option.some.inj (hown.symm.trans hlocked'))
    | finished_with_job =>
      have hown := hA.2.2.2.1.own old hold hstatus' (hbefore.trans (by rw [hfirst_id])) first hfirst
        rfl (hrunning first hfirst hfirst_id)
      rcases hother with hothers | hw
      · exact hothers
      · exact hw (Option.some.inj (hown.symm.trans hlocked'))

/-- The run a worker has just created is its own and the current one of its job. -/
theorem created_known {task : ScanAddressTask} {context : ScanRunContext} {started_at : Timestamp}
    {metadata : Metadata} (hinv : HistoryInvariant t)
    (hfate : (JobQuery.create_scan_run task context worker_id started_at metadata).Fate t (.ok run)
      u) : Mine worker_id run.id u ∧ Current worker_id task.task_id run.id u := by
  obtain ⟨now, skipped, hanswer, rfl⟩ := hfate.answer
  rcases create_run_cases t now task context worker_id started_at metadata with
    hnone | ⟨⟨owner, howner, howner_id, hheld⟩, hdone⟩
  · rw [JobQuery.run, hnone] at hanswer
    cases hanswer
  rw [JobQuery.run, hdone] at hanswer ⊢
  obtain rfl := Except.ok.inj hanswer
  have hrow : ∀ old ∈ t.scan_jobs, old.id = task.task_id →
      ScanTables.owned now task.task_id worker_id old = true := by
    intro old hold hid
    obtain rfl := List.inj_on_of_nodup_map hinv.queue.keyed.unique_job hold howner
      (hid.trans howner_id.symm)
    exact owned_iff.mpr ⟨hid, hheld⟩
  refine ⟨⟨Nat.lt_succ_self _, ?_⟩, ?_⟩
  · intro job hjob hstatus hlast run _ _ _
    obtain ⟨old, hold, rfl⟩ := Table.mem_update.mp hjob
    cases howned : ScanTables.owned now task.task_id worker_id old with
    | true =>
      rw [Table.revise_of_true howned]
      exact (ScanJob.held_by_iff.mp (owned_iff.mp howned).2).1
    | false =>
      rw [Table.revise_of_false howned] at hlast
      exact absurd rfl (Nat.ne_of_lt (hinv.last_lt old hold _ hlast))
  · intro job hjob hid hlocked hstatus
    obtain ⟨old, hold, rfl⟩ := Table.mem_update.mp hjob
    have hsame : old.id = task.task_id := by
      unfold Table.revise at hid
      split at hid <;> exact hid
    rw [Table.revise_of_true (hrow old hold hsame)]
    refine ⟨rfl, fun run hrun hrun_id => ?_⟩
    rcases List.mem_append.mp hrun with hbefore | hnew
    · exact absurd hrun_id (Nat.ne_of_lt (hinv.queue.keyed.run_lt run hbefore))
    · rw [List.mem_singleton.mp hnew]
      rfl

end History

/-! ### The system -/

section System
variable {t u : ScanTables} {worker_id : String}

theorem succeeded_not_failed {attempt_count max_attempts : Int} (result : AppResult ScanTaskOutcome)
    (now : Timestamp)
    (h : job_mark_for_result attempt_count max_attempts result now = .succeeded) :
    (run_finish_for_result result now).status ≠ .failed := by
  cases result with
  | ok outcome => cases outcome <;> exact nofun
  | error error =>
    simp only [job_mark_for_result] at h
    split at h <;> exact nomatch h

theorem history_phases (worker_id : String) :
    PhaseRules HistoryInvariant (history_permitted worker_id) FallbackOnRunning worker_id
      (history_known worker_id) where
  idle _ := trivial
  silent := by
    intro t op hop
    cases op <;> trivial
  context := trivial
  claim_allowed := rfl
  claim _ _ _ := trivial
  weaken _ := trivial
  create_allowed _ _ := rfl
  create := by
    intro t job task context started_at metadata run u htask hinv _ hcarried _
    cases hcarried with
    | db hfate =>
      have hknown := created_known hinv hfate
      rw [htask] at hknown
      exact hknown
  create_fails _ _ _ _ _ := trivial
  mark_allowed _ := rfl
  finish_allowed h :=
    ⟨rfl, run_finish_not_running _ _, succeeded_not_failed _ _, h.1, h.2⟩
  finish_fails := by
    intro t job run result now e u hinv h hcarried _
    have hA : history_permitted worker_id t (.db (.finish_scan_job_and_run job.id worker_id
        (job_mark_for_result job.attempt_count job.max_attempts result now) run.id
        (run_finish_for_result result now))) :=
      ⟨rfl, run_finish_not_running _ _, succeeded_not_failed _ _, h.1, h.2⟩
    cases hcarried with
    | db hfate => exact h.1.statement hinv hA hfate
  fallback_allowed h := ⟨nofun, h⟩

theorem others_permitted (worker_id : String) {q : JobQuery} (hq : JobQuery.FromOthers q) :
    history_permitted worker_id t (.db q) := by
  cases q <;> trivial

theorem HistoryInvariant.of_others (h : HistoryInvariant t) (ho : Others FallbackOnRunning t u) :
    HistoryInvariant u := by
  cases ho with
  | statement q r hq _ hfate hC => exact h.statement (others_permitted "" hq) hC hfate
  | edit chains watched_addresses =>
    exact ⟨h.queue.move (.edit chains watched_addresses), h.last_lt, h.last_task, h.succeeded⟩
  | annotate metadata =>
    refine ⟨h.queue.move (.annotate metadata), h.last_lt, ?_, ?_⟩
    · intro job hjob run hrun hlast
      obtain ⟨old, hold, rfl⟩ := List.mem_map.mp hrun
      exact h.last_task job hjob old hold hlast
    · intro job hjob hstatus run hrun hlast
      obtain ⟨old, hold, rfl⟩ := List.mem_map.mp hrun
      exact h.succeeded job hjob hstatus old hold hlast

theorem Mine.of_others {run_id : Uuid} (h : Mine worker_id run_id t) (hinv : HistoryInvariant t)
    (ho : Others FallbackOnRunning t u) : Mine worker_id run_id u := by
  cases ho with
  | statement q r hq _ hfate =>
    exact h.statement hinv (others_permitted worker_id hq) hfate
  | edit => exact ⟨h.known, h.own⟩
  | annotate metadata =>
    refine ⟨h.known, fun job hjob hstatus hlast run hrun hid hrunning => ?_⟩
    obtain ⟨old, hold, rfl⟩ := List.mem_map.mp hrun
    exact h.own job hjob hstatus hlast old hold hid hrunning

theorem Current.of_others {job_id run_id : Uuid} (h : Current worker_id job_id run_id t)
    (hmine : run_id < t.next_id) (hinv : HistoryInvariant t) (ho : Others FallbackOnRunning t u) :
    Current worker_id job_id run_id u := by
  cases ho with
  | statement q r hq _ hfate =>
    exact h.statement hmine hinv (others_permitted worker_id hq) hfate (.inl hq)
  | edit => exact h
  | annotate metadata =>
    intro job hjob hid hlocked hstatus
    obtain ⟨hlast, hrunning⟩ := h job hjob hid hlocked hstatus
    refine ⟨hlast, fun run hrun hrun_id => ?_⟩
    obtain ⟨old, hold, rfl⟩ := List.mem_map.mp hrun
    exact hrunning old hold hrun_id

theorem history_known_keeps
    (hmine : ∀ run_id, Mine worker_id run_id t → Mine worker_id run_id u)
    (hcurrent : ∀ job_id run_id, Mine worker_id run_id t → Current worker_id job_id run_id t →
      Current worker_id job_id run_id u) : Prog.Keeps (history_known worker_id) t u := by
  intro phase h
  cases phase with
  | idle => trivial
  | claimed job => trivial
  | uncreated job => trivial
  | created job run => exact ⟨hmine _ h.1, hcurrent _ _ h.1 h.2⟩
  | unfinished run => exact hmine _ h

theorem history_rules {W : Type} {names : W → String} (hnames : Function.Injective names) :
    SystemRules FallbackOnRunning names HistoryInvariant (fun w => history_permitted (names w))
      fun w => history_known (names w) where
  initial := ⟨.empty, by simp, by simp, by simp⟩
  phases w := history_phases (names w)
  statement_inv h hA hcarried := by
    cases hcarried with
    | db hfate hC => exact h.statement hA hC hfate
  statement_keeps := by
    intro w v t q r u h hA hcarried _ hv
    cases hcarried with
    | db hfate =>
      refine history_known_keeps (fun _ hmine => hmine.statement h hA hfate) ?_
      intro job_id run_id hmine hcurrent
      exact hcurrent.statement hmine.known h hA hfate (.inr fun hsame => hv (hnames hsame).symm)
  others_inv := HistoryInvariant.of_others
  others_keeps h ho _ := history_known_keeps (fun _ hmine => hmine.of_others h ho)
    fun _ _ hmine hcurrent => hcurrent.of_others hmine.known h ho

/-- What a run ended with. -/
def SameEnd (a b : ScanRun) : Prop :=
  b.id = a.id ∧ b.status = a.status ∧ b.event_count = a.event_count ∧
    b.finished_at = a.finished_at ∧ b.error_message = a.error_message

theorem same_end_others {run : ScanRun} (ho : Others FallbackOnRunning t u)
    (hrun : run ∈ t.scan_runs) (hended : run.status ≠ .running) :
    ∃ after ∈ u.scan_runs, SameEnd run after := by
  cases ho with
  | statement q r hq _ hfate hC =>
    exact ⟨run, ended_kept (others_permitted "" hq) hC hfate hrun hended, rfl, rfl, rfl, rfl, rfl⟩
  | edit => exact ⟨run, hrun, rfl, rfl, rfl, rfl, rfl⟩
  | annotate metadata =>
    exact ⟨_, List.mem_map_of_mem hrun, rfl, rfl, rfl, rfl, rfl⟩

/-- Every worker is safe, and the run has ended as it did. -/
structure Ended {W : Type} (names : W → String) (run : ScanRun)
    (c : ScanTables × (W → JobProg Unit)) : Prop where
  good : Prog.Crew.Good (fun _ => Carried FallbackOnRunning) HistoryInvariant
    (fun w => history_permitted (names w)) (fun w => Prog.Keeps (history_known (names w)))
    (fun _ _ _ => True) c.1 c.2
  same : ∃ after ∈ c.1.scan_runs, SameEnd run after

variable {W : Type} [DecidableEq W] {names : W → String} (hnames : Function.Injective names)
  {run : ScanRun}
include hnames

theorem Ended.step (hended : run.status ≠ .running) {c d : ScanTables × (W → JobProg Unit)}
    (h : Ended names run c) (hstep : SystemStep FallbackOnRunning names c d) :
    Ended names run d := by
  refine ⟨h.good.step (history_rules hnames).crew hstep, ?_⟩
  obtain ⟨old, hold, hid, hstatus, hcount, hfinished, hmessage⟩ := h.same
  have hold_ended : old.status ≠ .running := hstatus ▸ hended
  cases hstep with
  | launch w hlaunch =>
    rw [hlaunch.1]
    exact h.same
  | @statement t u ps op rest r w hp hs =>
    have hA := h.good.allowed (history_rules hnames).crew hp
    cases hs with
    | db hfate hC =>
      exact ⟨old, ended_kept hA hC hfate hold hold_ended, hid, hstatus, hcount, hfinished, hmessage⟩
    | utc_now => exact h.same
    | renewal_lost => exact h.same
    | scan => exact h.same
  | others ho =>
    obtain ⟨after, hafter, hid', hstatus', hcount', hfinished', hmessage'⟩ :=
      same_end_others ho hold hold_ended
    exact ⟨after, hafter, hid'.trans hid, hstatus'.trans hstatus, hcount'.trans hcount,
      hfinished'.trans hfinished, hmessage'.trans hmessage⟩

theorem Ended.later (hended : run.status ≠ .running) {c d : ScanTables × (W → JobProg Unit)}
    (h : Ended names run c)
    (hrun : Relation.ReflTransGen (SystemStep FallbackOnRunning names) c d) :
    Ended names run d := by
  induction hrun with
  | refl => exact h
  | tail _ hstep ih => exact ih.step hnames hended hstep

end System

/-- In every run whose fallback writes find their run still running, a run that has ended keeps its
end, and a job that succeeded has no failed last run. -/
theorem ended_runs_final {W : Type} [DecidableEq W] {names : W → String}
    (hnames : Function.Injective names) {t u : ScanTables} {ps qs : W → JobProg Unit}
    (hrun : Relation.ReflTransGen (SystemStep FallbackOnRunning names) start (t, ps))
    (hlater : Relation.ReflTransGen (SystemStep FallbackOnRunning names) (t, ps) (u, qs)) :
    (∀ run ∈ t.scan_runs, run.status ≠ .running → ∃ after ∈ u.scan_runs, SameEnd run after) ∧
    ∀ job ∈ t.scan_jobs, job.status = .succeeded → ∀ run ∈ t.scan_runs,
      job.last_scan_run_id = some run.id → run.status ≠ .failed := by
  have hgood := (history_rules hnames).good hrun
  constructor
  · intro run hmem hended
    have hnow : Ended names run (t, ps) := ⟨hgood, run, hmem, rfl, rfl, rfl, rfl, rfl⟩
    exact (hnow.later hnames hended hlater).same
  · intro job hjob hstatus run hmem hlast
    exact (hgood.inv.succeeded job hjob hstatus run hmem hlast).2

/-- A round in which the fallback is not needed. -/
def no_fallback (_ : ScanTables) : JobQuery → Bool
  | .finish_scan_run .. => false
  | _ => true

theorem ended_runs_final_two_rounds :
    (∃ run ∈ (scanned_round 10 (one_job 3)).scan_runs, run.status ≠ .running) ∧
    ∀ run ∈ (scanned_round 10 (one_job 3)).scan_runs, run.status ≠ .running →
      ∃ after ∈ (scanned_round 20 (scanned_round 10 (one_job 3))).scan_runs, SameEnd run after := by
  obtain ⟨ps, hstart⟩ : ∃ ps, Relation.ReflTransGen (SystemStep FallbackOnRunning sole_worker) start
      (one_job 3, ps) := one_job_run 3 (by decide) trivial
  have hC : ∀ (fate : JobQuery → Outcome) (now : Timestamp) t q, no_fallback t q = true →
      FallbackOnRunning t q ((fate q).apply AppError.Database t (q.run now (fun _ => false) t)).1
        ((fate q).apply AppError.Database t (q.run now (fun _ => false) t)).2 := by
    intro fate now t q hq
    cases q <;> trivial
  obtain ⟨qs, hfirst⟩ : ∃ qs, Relation.ReflTransGen (SystemStep FallbackOnRunning sole_worker)
      (one_job 3, ps) (scanned_round 10 (one_job 3), qs) :=
    round_run () 10 _ _ no_fallback (hC _ 10) (by decide +kernel)
  obtain ⟨rs, hsecond⟩ : ∃ rs, Relation.ReflTransGen (SystemStep FallbackOnRunning sole_worker)
      (scanned_round 10 (one_job 3), qs) (scanned_round 20 (scanned_round 10 (one_job 3)), rs) :=
    round_run () 20 _ _ no_fallback (hC _ 20) (by decide +kernel)
  exact ⟨by decide +kernel,
    (ended_runs_final (fun _ _ _ => rfl) (hstart.trans hfirst) hsecond).1⟩

/-! ### A lost acknowledgement -/

/-- The commit of the finishing transaction takes effect, but its answer does not arrive. -/
def finish_unacknowledged : JobQuery → Outcome
  | .finish_scan_job_and_run .. => .unacknowledged "connection reset"
  | _ => .answered

def unacknowledged_round : ScanTables :=
  after_round "worker" 10 finish_unacknowledged (.ok (.Scanned 2)) (one_job 3)

/-- The fallback then turns the run of a job that succeeded into a failed one. -/
theorem unacknowledged_success_reported_failed :
    ∃ ps, Relation.ReflTransGen (SystemStep Unconditional sole_worker) start
        (unacknowledged_round, ps) ∧
      ∃ job ∈ unacknowledged_round.scan_jobs, job.status = .succeeded ∧
        ∃ run ∈ unacknowledged_round.scan_runs, job.last_scan_run_id = some run.id ∧
          run.status = .failed := by
  obtain ⟨ps, hstart⟩ : ∃ ps, Relation.ReflTransGen (SystemStep Unconditional sole_worker) start
      (one_job 3, ps) := one_job_run 3 (by decide) trivial
  obtain ⟨qs, hround⟩ : ∃ qs, Relation.ReflTransGen (SystemStep Unconditional sole_worker)
      (one_job 3, ps) (unacknowledged_round, qs) :=
        round_run () 10 _ _ (fun _ _ => true) (fun _ _ _ => trivial) (by decide +kernel)
  refine ⟨qs, hstart.trans hround, ?_⟩
  decide +kernel

end CoinListener.Worker
