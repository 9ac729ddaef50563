import CoinListener.Worker.ScanLoop

/-! A scan run is running only as the last run of a job being processed. -/
namespace CoinListener.Worker
open Foundation Storage

/-- A statement that reports an error has had no effect. -/
def ErrorsWithoutEffect : Condition := fun t _ r u =>
  ∀ e, r = .error e → u = t

/-- The run is the last one of its job, which is being processed. -/
def Linked (t : ScanTables) (run : ScanRun) : Prop :=
  ∃ job ∈ t.scan_jobs, job.id = run.task_id ∧ job.status = .processing ∧
    job.last_scan_run_id = some run.id

structure AuditInvariant (t : ScanTables) : Prop where
  queue : QueueInvariant t
  linked : ∀ run ∈ t.scan_runs, run.status = .running → Linked t run

/-- While the worker holds the job, none of its runs is running but the one allowed. -/
def RunningOnly (worker_id : String) (job_id : Uuid) (allowed : Option Uuid) (t : ScanTables) :
    Prop :=
  ∀ job ∈ t.scan_jobs, job.id = job_id → job.locked_by = some worker_id →
    job.status = .processing →
    ∀ run ∈ t.scan_runs, run.task_id = job_id → run.status = .running → some run.id = allowed

def runs_known (worker_id : String) : JobPhase → ScanTables → Prop
  | .claimed job, t => RunningOnly worker_id job.id none t
  | .uncreated job, t => RunningOnly worker_id job.id none t
  | .created job run, t => RunningOnly worker_id job.id (some run.id) t
  | _, _ => True

/-- What keeps every running run linked. -/
def AuditSafe (t : ScanTables) : JobQuery → Prop
  | .create_scan_run task _ w _ _ => RunningOnly w task.task_id none t
  | .mark_scan_job job_id w _ _ => RunningOnly w job_id none t
  | .finish_scan_run _ finish => finish.status ≠ .running
  | .finish_scan_job_and_run job_id w _ scan_run_id finish =>
    finish.status ≠ .running ∧ RunningOnly w job_id (some scan_run_id) t
  | _ => True

def audit_permitted (worker_id : String) (t : ScanTables) : JobStatement → Prop
  | .db q => AuditSafe t q ∧ (q.claimant = none ∨ q.claimant = some worker_id)
  | _ => True

section Linked
variable {t u : ScanTables} {now : Timestamp} {skipped : Uuid → Bool} {q : JobQuery}
  {job : ScanJob} {run : ScanRun} {worker_id : String} {job_id : Uuid} {allowed : Option Uuid}
  {r : AppResult q.Answer}

/-- A running run stays linked: whatever takes its job away closes it, too. -/
theorem linked_kept (h : AuditInvariant t) (hsafe : AuditSafe t q) (hold : run ∈ t.scan_runs)
    (hrun : run ∈ (q.run now skipped t).2.scan_runs) (hrunning : run.status = .running) :
    Linked (q.run now skipped t).2 run := by
  obtain ⟨job, hjob, hid, hstatus, hlast⟩ := h.linked run hold hrunning
  obtain ⟨after, hafter, rfl | hstep⟩ := (run_jobs now skipped h.queue.keyed.unique_job q).next hjob
  · exact ⟨after, hafter, hid, hstatus, hlast⟩
  cases hstep with
  | dead_lettered hex => exact absurd hlast ((claim_closes hrun hrunning).2.1 job hjob hex)
  | claimed hdue => exact absurd hlast ((claim_closes hrun hrunning).2.2 job hdue)
  | renewed => exact ⟨_, hafter, hid, hstatus, hlast⟩
  | marked hheld =>
    have hlocked := (ScanJob.held_by_iff.mp hheld).1
    exact nomatch hsafe job hjob rfl hlocked hstatus run hold hid.symm hrunning
  | @finished w mark scan_run_id finish _ hheld =>
    have hlocked := (ScanJob.held_by_iff.mp hheld).1
    have hsame := hsafe.2 job hjob rfl hlocked hstatus run hold hid.symm hrunning
    rcases finish_sets t now job.id w mark scan_run_id finish with hnothing | hsets
    · refine ⟨job, ?_, hid, hstatus, hlast⟩
      rw [JobQuery.run, hnothing]
      exact hjob
    · exact absurd ((hsets run hrun (Option.some.inj hsame)).symm.trans hrunning) hsafe.1
  | linked htask hheld =>
    have hlocked := (ScanJob.held_by_iff.mp hheld).1
    exact nomatch hsafe job hjob htask hlocked hstatus run hold (hid.symm.trans htask) hrunning
  | requeued hwaiting =>
    rw [ScanJob.waiting_iff, hstatus] at hwaiting
    simp at hwaiting

/-- No statement leaves a run running that it changes. -/
theorem runStep_closes {run' : ScanRun} (hsafe : AuditSafe t q)
    (hstep : RunStep t now skipped q run run') : run'.status ≠ .running := by
  cases hstep with
  | reclaimed => exact nofun
  | finished => exact hsafe
  | finished_with_job => exact hsafe.1

/-- A new run is the last one of the job it is created for. -/
theorem linked_new (h : AuditInvariant t) (hnew : NewRun t now q run)
    (hrun : run ∈ (q.run now skipped t).2.scan_runs) (hrunning : run.status = .running) :
    Linked (q.run now skipped t).2 run := by
  cases hnew with
  | @intro task context w started_at metadata _ hjob hid hheld =>
    rcases create_run_cases t now task context w started_at metadata with hnone | ⟨_, hdone⟩
    · rw [JobQuery.run, hnone] at hrun ⊢
      exact h.linked _ hrun hrunning
    · rw [JobQuery.run, hdone]
      refine ⟨_, Table.mem_update.mpr ⟨_, hjob, Table.revise_of_true ?_⟩, hid, ?_, rfl⟩
      · exact owned_iff.mpr ⟨hid, hheld⟩
      · exact (ScanJob.held_by_iff.mp hheld).2.1

theorem AuditInvariant.statement (h : AuditInvariant t) (hsafe : AuditSafe t q)
    (hfate : q.Fate t r u) : AuditInvariant u := by
  rcases hfate.state with rfl | ⟨now, skipped, rfl⟩
  · exact h
  · refine ⟨h.queue.statement q, fun run hrun hrunning => ?_⟩
    rcases (run_runs t now skipped q).mem hrun with hold | ⟨old, hold, hstep⟩ | hnew
    · exact linked_kept h hsafe hold hrun hrunning
    · exact absurd hrunning (runStep_closes hsafe hstep)
    · exact linked_new h hnew hrun hrunning

/-- What a worker knows of the runs of its job stays true as long as it issues neither a claim nor a
new run. -/
theorem RunningOnly.statement (h : RunningOnly worker_id job_id allowed t) (hq : QueueInvariant t)
    (hsafe : AuditSafe t q) (hfate : q.Fate t r u) (hother : q.claimant ≠ some worker_id) :
    RunningOnly worker_id job_id allowed u := by
  rcases hfate.state with rfl | ⟨now, skipped, rfl⟩
  · exact h
  intro job hjob hid hlocked hstatus run hrun htask hrunning
  obtain ⟨old, hold, hid', hlocked', hstatus'⟩ : ∃ old ∈ t.scan_jobs, old.id = job_id ∧
      old.locked_by = some worker_id ∧ old.status = .processing := by
    rcases (run_jobs now skipped hq.keyed.unique_job q).mem hjob with hold | ⟨old, hold, hstep⟩ | hnew
    · exact ⟨job, hold, hid, hlocked, hstatus⟩
    · rcases hstep.held hlocked hstatus with ⟨ttl, rfl⟩ | ⟨hl, hs, _⟩
      · exact absurd rfl hother
      · exact ⟨old, hold, hstep.id ▸ hid, hl, hs⟩
    · cases hnew
      exact nomatch hstatus
  rcases (run_runs t now skipped q).mem hrun with hsame | ⟨_, _, hstep⟩ | hnew
  · exact h old hold hid' hlocked' hstatus' run hsame htask hrunning
  · exact absurd hrunning (runStep_closes hsafe hstep)
  · cases hnew with
    | intro howner hid_owner hheld =>
      obtain rfl := List.inj_on_of_nodup_map hq.keyed.unique_job howner hold
        (hid_owner.trans (Eq.trans htask hid'.symm))
      have hsame := (ScanJob.held_by_iff.mp hheld).1.symm.trans hlocked'
      exact absurd hsame hother

/-- After its claim a worker finds no run of the job running. -/
theorem RunningOnly.claim {ttl : Int}
    (hfate : (JobQuery.claim_due_scan_job worker_id ttl).Fate t (.ok (some job)) u)
    (hu : AuditInvariant u) : RunningOnly worker_id job.id none u := by
  obtain ⟨now, skipped, hanswer, rfl⟩ := hfate.answer
  obtain ⟨due, hdue, rfl, hmem⟩ := claim_answer (Except.ok.inj hanswer)
  intro j hj hid _ _ run hrun htask hrunning
  obtain ⟨owner, howner, hid_owner, _, hlast⟩ := hu.linked run hrun hrunning
  obtain rfl := List.inj_on_of_nodup_map hu.queue.keyed.unique_job howner hmem
    (hid_owner.trans htask)
  exact absurd hlast ((claim_closes hrun hrunning).2.2 due hdue)

/-- After it has created a run, no other run of the job is running. -/
theorem RunningOnly.create {task : ScanAddressTask} {context : ScanRunContext}
    {started_at : Timestamp} {metadata : Metadata} (h : RunningOnly worker_id task.task_id none t)
    (hq : QueueInvariant t)
    (hfate : (JobQuery.create_scan_run task context worker_id started_at metadata).Fate t (.ok run)
      u) : RunningOnly worker_id task.task_id (some run.id) u := by
  obtain ⟨now, skipped, hanswer, rfl⟩ := hfate.answer
  intro j hj hid hlocked hstatus run' hrun' htask hrunning
  rcases (run_runs t now skipped _).mem hrun' with hsame | ⟨_, _, hstep⟩ | hnew
  · rcases (run_jobs now skipped hq.keyed.unique_job _).mem hj with hold | ⟨old, hold, hstep⟩ | hnew
    · cases h j hold hid hlocked hstatus run' hsame htask hrunning
    · cases hstep with
      | linked => cases h _ hold hid hlocked hstatus run' hsame htask hrunning
    · cases hnew
      cases hstatus
  · cases hstep
  · rw [hnew.id]
    rcases create_run_cases t now task context worker_id started_at metadata with hnone | ⟨_, hdone⟩
    · rw [JobQuery.run, hnone] at hanswer
      cases hanswer
    · rw [JobQuery.run, hdone] at hanswer
      rw [← Except.ok.inj hanswer]
      rfl

end Linked

/-! ### The system -/

section System
variable {t u : ScanTables} {worker_id : String}

theorem runs_known_keeps (hsame : ∀ job_id allowed, RunningOnly worker_id job_id allowed t →
    RunningOnly worker_id job_id allowed u) : Prog.Keeps (runs_known worker_id) t u := by
  intro phase h
  cases phase with
  | idle => trivial
  | claimed job => exact hsame _ _ h
  | uncreated job => exact hsame _ _ h
  | created job run => exact hsame _ _ h
  | unfinished run => trivial

theorem audit_phases (worker_id : String) :
    PhaseRules AuditInvariant (audit_permitted worker_id) ErrorsWithoutEffect worker_id
      (runs_known worker_id) where
  idle _ := trivial
  silent := by
    intro t op hop
    cases op <;> trivial
  context := ⟨trivial, .inl rfl⟩
  claim_allowed := ⟨trivial, .inr rfl⟩
  claim _ h hu := by
    cases h with
    | db hfate => exact RunningOnly.claim hfate hu
  weaken h := h
  create_allowed := by
    intro t job task context started_at metadata htask h
    have hnone : RunningOnly worker_id task.task_id none t := by
      rw [htask]
      exact h
    exact ⟨hnone, .inr rfl⟩
  create := by
    intro t job task context started_at metadata run u htask hinv h hcarried _
    have hnone : RunningOnly worker_id task.task_id none t := by
      rw [htask]
      exact h
    cases hcarried with
    | db hfate =>
      have hcreated := hnone.create hinv.queue hfate
      rw [htask] at hcreated
      exact hcreated
  create_fails _ _ h hcarried _ := by
    cases hcarried with
    | db _ hC => exact hC _ rfl ▸ h
  mark_allowed h := ⟨h, .inl rfl⟩
  finish_allowed h := ⟨⟨run_finish_not_running _ _, h⟩, .inl rfl⟩
  finish_fails _ _ _ _ := trivial
  fallback_allowed _ := ⟨nofun, .inl rfl⟩

theorem others_audit_safe {q : JobQuery} (hq : JobQuery.FromOthers q) :
    AuditSafe t q ∧ q.claimant = none := by
  cases q <;> first | exact ⟨trivial, rfl⟩ | exact hq.elim

theorem AuditInvariant.of_others (h : AuditInvariant t) (ho : Others ErrorsWithoutEffect t u) :
    AuditInvariant u := by
  cases ho with
  | statement q r hq _ hfate => exact h.statement (others_audit_safe hq).1 hfate
  | edit chains watched_addresses =>
    exact ⟨h.queue.move (.edit chains watched_addresses), h.linked⟩
  | annotate metadata =>
    refine ⟨h.queue.move (.annotate metadata), fun run hrun hrunning => ?_⟩
    obtain ⟨old, hold, rfl⟩ := List.mem_map.mp hrun
    exact h.linked old hold hrunning

theorem RunningOnly.of_others {job_id : Uuid} {allowed : Option Uuid}
    (h : RunningOnly worker_id job_id allowed t) (hq : QueueInvariant t)
    (ho : Others ErrorsWithoutEffect t u) : RunningOnly worker_id job_id allowed u := by
  cases ho with
  | statement q r hothers _ hfate =>
    obtain ⟨hsafe, hclaimant⟩ := others_audit_safe hothers
    exact h.statement hq hsafe hfate (by simp [hclaimant])
  | edit => exact h
  | annotate metadata =>
    intro job hjob hid hlocked hstatus run hrun htask hrunning
    obtain ⟨old, hold, rfl⟩ := List.mem_map.mp hrun
    exact h job hjob hid hlocked hstatus old hold htask hrunning

theorem audit_rules {W : Type} {names : W → String} (hnames : Function.Injective names) :
    SystemRules ErrorsWithoutEffect names AuditInvariant (fun w => audit_permitted (names w))
      fun w => runs_known (names w) where
  initial := ⟨.empty, by simp⟩
  phases w := audit_phases (names w)
  statement_inv h hA hcarried := by
    cases hcarried with
    | db hfate => exact h.statement hA.1 hfate
  statement_keeps := by
    intro w v t q r u h hA hcarried _ hv
    cases hcarried with
    | db hfate =>
      refine runs_known_keeps fun job_id allowed hknown => hknown.statement h.queue hA.1 hfate ?_
      rcases hA.2 with hclaimant | hclaimant
      · simp [hclaimant]
      · rw [hclaimant]
        exact fun hsame => hv (hnames (Option.some.inj hsame)).symm
  others_inv := AuditInvariant.of_others
  others_keeps h ho _ := runs_known_keeps fun _ _ hknown => hknown.of_others h.queue ho

end System

end CoinListener.Worker
