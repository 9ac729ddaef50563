import CoinListener.Worker.ScanLoop

/-! No job is attempted more often than it allows, as long as no retry lowers what a waiting job
allows to its attempts so far. -/
namespace CoinListener.Worker
open Foundation Storage

/-- A retry that takes up a waiting job allows it more attempts than it has had. -/
def RetriesAllowMore : Condition := fun t q _ _ =>
  match q with
  | .insert_retry_scan_job _ address_id _ _ max_attempts _ =>
    ∀ job ∈ t.scan_jobs, job.waiting = true → job.address_id = address_id →
      job.attempt_count < max_attempts
  | _ => True

/-- A job has had no more attempts than it allows, and a waiting one has some to spare. -/
def Bounded (job : ScanJob) : Prop :=
  job.attempt_count ≤ job.max_attempts ∧
    (job.waiting = true → job.attempt_count < job.max_attempts)

structure AttemptInvariant (t : ScanTables) : Prop where
  queue : QueueInvariant t
  bounded : ∀ job ∈ t.scan_jobs, Bounded job

/-- While the worker holds the job, its attempts are those it was claimed with. -/
def SameAttempts (worker_id : String) (job : ScanJob) (t : ScanTables) : Prop :=
  ∀ j ∈ t.scan_jobs, j.id = job.id → j.locked_by = some worker_id → j.status = .processing →
    j.attempt_count = job.attempt_count ∧ j.max_attempts = job.max_attempts

def attempts_known (worker_id : String) : JobPhase → ScanTables → Prop
  | .claimed job, t => SameAttempts worker_id job t
  | .uncreated job, t => SameAttempts worker_id job t
  | .created job _, t => SameAttempts worker_id job t
  | _, _ => True

/-- A job is made retryable only with attempts to spare. -/
def SparesAttempts (t : ScanTables) (worker_id : String) (job_id : Uuid) (mark : JobMark) : Prop :=
  ∀ next_attempt_at last_error, mark = .retryable next_attempt_at last_error →
    ∀ job ∈ t.scan_jobs, job.id = job_id → job.locked_by = some worker_id →
      job.status = .processing → job.attempt_count < job.max_attempts

/-- What a worker issues, as far as attempts go. -/
def attempts_permitted (worker_id : String) (t : ScanTables) : JobStatement → Prop
  | .db (.claim_due_scan_job w _) => w = worker_id
  | .db (.mark_scan_job job_id w mark _) => w = worker_id ∧ SparesAttempts t w job_id mark
  | .db (.finish_scan_job_and_run job_id w mark _ _) =>
    w = worker_id ∧ SparesAttempts t w job_id mark
  | .db (.insert_scheduled_scan_job ..) => False
  | .db (.insert_retry_scan_job ..) => False
  | _ => True

section Attempts
variable {t u : ScanTables} {now : Timestamp} {skipped : Uuid → Bool} {q : JobQuery}
  {job job' : ScanJob} {worker_id : String} {r : AppResult q.Answer}

/-- Once its attempts are used up the job is given up. -/
theorem SameAttempts.spares (h : SameAttempts worker_id job t)
    (result : AppResult ScanTaskOutcome) (now : Timestamp) :
    SparesAttempts t worker_id job.id
      (job_mark_for_result job.attempt_count job.max_attempts result now) := by
  intro next last_error hmark j hj hid hlocked hstatus
  obtain ⟨hattempts, hmax⟩ := h j hj hid hlocked hstatus
  cases result with
  | ok outcome => exact nomatch hmark
  | error error =>
    simp only [job_mark_for_result] at hmark
    split at hmark
    · exact nomatch hmark
    · rename_i hdead
      simp only [scan_job_should_dead_letter, decide_eq_true_eq] at hdead
      omega

/-- Only the worker's own claim changes the attempts of a job it holds. -/
theorem SameAttempts.statement (h : SameAttempts worker_id job t) (hq : QueueInvariant t)
    (hfate : q.Fate t r u) (hown : ∀ ttl, q ≠ .claim_due_scan_job worker_id ttl) :
    SameAttempts worker_id job u := by
  rcases hfate.state with rfl | ⟨now, skipped, rfl⟩
  · exact h
  · intro j hj hid hlocked hstatus
    rcases (run_jobs now skipped hq.keyed.unique_job q).mem hj with hold | ⟨old, hold, hstep⟩ | hnew
    · exact h j hold hid hlocked hstatus
    · rcases hstep.held hlocked hstatus with ⟨ttl, hclaim⟩ | ⟨hl, hs, ha, hm⟩
      · exact absurd hclaim (hown ttl)
      · rw [ha, hm]
        exact h old hold (hstep.id ▸ hid) hl hs
    · cases hnew
      exact nomatch hstatus

/-- After its own claim a worker knows the attempts of the job. -/
theorem SameAttempts.claim {ttl : Int} (hq : QueueInvariant t)
    (hfate : (JobQuery.claim_due_scan_job worker_id ttl).Fate t (.ok (some job)) u) :
    SameAttempts worker_id job u := by
  obtain ⟨now, skipped, hanswer, rfl⟩ := hfate.answer
  obtain ⟨due, _, _, hmem⟩ := claim_answer (Except.ok.inj hanswer)
  intro j hj hid _ _
  obtain rfl := List.inj_on_of_nodup_map
    (hq.statement (.claim_due_scan_job worker_id ttl)).keyed.unique_job hj hmem hid
  exact ⟨rfl, rfl⟩

theorem Bounded.claimed (h : Bounded job) (hclaimable : job.claimable now = true) (ttl : Int) :
    Bounded (job.claimed now worker_id ttl) := by
  refine ⟨?_, nofun⟩
  simp only [ScanJob.claimable, Bool.or_eq_true, Bool.and_eq_true, decide_eq_true_eq] at hclaimable
  rcases hclaimable with ⟨hwaiting, _⟩ | ⟨_, hattempts⟩
  · exact Int.add_one_le_iff.mpr (h.2 hwaiting)
  · exact Int.add_one_le_iff.mpr hattempts

theorem Bounded.marked (h : Bounded job) (mark : JobMark) (scan_run_id : Option Uuid)
    (hspares : ∀ next last_error, mark = .retryable next last_error →
      job.attempt_count < job.max_attempts) :
    Bounded (mark.apply now scan_run_id job) := by
  cases mark with
  | succeeded => exact ⟨h.1, nofun⟩
  | retryable next last_error => exact ⟨h.1, fun _ => hspares next last_error rfl⟩
  | dead_letter last_error => exact ⟨h.1, nofun⟩

/-- Each statement of the system keeps a job within its attempts. -/
theorem Bounded.step (h : Bounded job) (hjob : job ∈ t.scan_jobs)
    (hstep : JobStep t now skipped q job job') (hC : RetriesAllowMore t q r u)
    (hmark : ∀ job_id w mark run_id, q = .mark_scan_job job_id w mark run_id →
      SparesAttempts t w job_id mark)
    (hfinish : ∀ job_id w mark run_id finish,
      q = .finish_scan_job_and_run job_id w mark run_id finish →
        SparesAttempts t w job_id mark) : Bounded job' := by
  cases hstep with
  | dead_lettered => exact ⟨h.1, nofun⟩
  | claimed hdue => exact h.claimed (due_mem hdue).2 _
  | renewed => exact h
  | marked hheld =>
    obtain ⟨hlocked, hstatus, _⟩ := ScanJob.held_by_iff.mp hheld
    exact h.marked _ _ fun next last_error hretry =>
      hmark _ _ _ _ rfl next last_error hretry job hjob rfl hlocked hstatus
  | finished hheld =>
    obtain ⟨hlocked, hstatus, _⟩ := ScanJob.held_by_iff.mp hheld
    exact h.marked _ _ fun next last_error hretry =>
      hfinish _ _ _ _ _ rfl next last_error hretry job hjob rfl hlocked hstatus
  | linked => exact h
  | requeued hwaiting =>
    have hmore := hC job hjob hwaiting rfl
    exact ⟨le_of_lt hmore, fun _ => hmore⟩

end Attempts

/-! ### The system -/

section System
variable {t u : ScanTables} {q : JobQuery} {r : AppResult q.Answer} {worker_id : String}

theorem AttemptInvariant.statement (h : AttemptInvariant t) (hfate : q.Fate t r u)
    (hC : RetriesAllowMore t q r u) (hmax : ∀ max_attempts, q.max_attempts = some max_attempts →
      0 < max_attempts)
    (hmark : ∀ job_id w mark run_id, q = .mark_scan_job job_id w mark run_id →
      SparesAttempts t w job_id mark)
    (hfinish : ∀ job_id w mark run_id finish,
      q = .finish_scan_job_and_run job_id w mark run_id finish →
        SparesAttempts t w job_id mark) : AttemptInvariant u := by
  rcases hfate.state with rfl | ⟨now, skipped, rfl⟩
  · exact h
  · refine ⟨h.queue.statement q, fun job hjob => ?_⟩
    rcases (run_jobs now skipped h.queue.keyed.unique_job q).mem hjob with
        hold | ⟨old, hold, hstep⟩ | hnew
    · exact h.bounded job hold
    · exact (h.bounded old hold).step hold hstep hC hmark hfinish
    · cases hnew with
      | intro hpasses => exact ⟨le_of_lt (hmax _ hpasses), fun _ => hmax _ hpasses⟩

theorem AttemptInvariant.of_others (h : AttemptInvariant t) (ho : Others RetriesAllowMore t u) :
    AttemptInvariant u := by
  cases ho with
  | statement q r hq hmax hfate hC =>
    refine h.statement hfate hC hmax ?_ ?_
    · rintro job_id w mark run_id rfl
      exact hq.elim
    · rintro job_id w mark run_id finish rfl
      exact hq.elim
  | edit chains watched_addresses =>
    exact ⟨h.queue.move (.edit chains watched_addresses), h.bounded⟩
  | annotate metadata => exact ⟨h.queue.move (.annotate metadata), h.bounded⟩

theorem attempts_known_keeps (hsame : ∀ job, SameAttempts worker_id job t →
    SameAttempts worker_id job u) : Prog.Keeps (attempts_known worker_id) t u := by
  intro phase h
  cases phase with
  | idle => trivial
  | claimed job => exact hsame job h
  | uncreated job => exact hsame job h
  | created job run => exact hsame job h
  | unfinished run => trivial

theorem attempt_phases (worker_id : String) :
    PhaseRules AttemptInvariant (attempts_permitted worker_id) RetriesAllowMore worker_id
      (attempts_known worker_id) where
  idle _ := trivial
  silent := by
    intro t op hop
    cases op <;> trivial
  context := trivial
  claim_allowed := rfl
  claim hinv h _ := by
    cases h with
    | db hfate => exact SameAttempts.claim hinv.queue hfate
  weaken h := h
  create_allowed _ _ := trivial
  create _ hinv h hcarried _ := by
    cases hcarried with
    | db hfate => exact h.statement hinv.queue hfate nofun
  create_fails _ hinv h hcarried _ := by
    cases hcarried with
    | db hfate => exact h.statement hinv.queue hfate nofun
  mark_allowed h := ⟨rfl, h.spares _ _⟩
  finish_allowed h := ⟨rfl, h.spares _ _⟩
  finish_fails _ _ _ _ := trivial
  fallback_allowed _ := trivial

theorem permitted_statement (hA : attempts_permitted worker_id t (.db q)) :
    q.max_attempts = none ∧
      (∀ job_id w mark run_id, q = .mark_scan_job job_id w mark run_id →
        SparesAttempts t w job_id mark) ∧
      (∀ job_id w mark run_id finish, q = .finish_scan_job_and_run job_id w mark run_id finish →
        SparesAttempts t w job_id mark) ∧
      ∀ w ttl, q = .claim_due_scan_job w ttl → w = worker_id := by
  refine ⟨?_, ?_, ?_, ?_⟩
  · cases q <;> first | rfl | exact hA.elim
  · rintro job_id w mark run_id rfl
    exact hA.2
  · rintro job_id w mark run_id finish rfl
    exact hA.2
  · rintro w ttl rfl
    exact hA

theorem attempt_rules {W : Type} {names : W → String} (hnames : Function.Injective names) :
    SystemRules RetriesAllowMore names AttemptInvariant
      (fun w => attempts_permitted (names w)) fun w => attempts_known (names w) where
  initial := ⟨.empty, by simp⟩
  phases w := attempt_phases (names w)
  statement_inv := by
    intro w t q r u h hA hcarried
    obtain ⟨hnone, hmark, hfinish, _⟩ := permitted_statement hA
    cases hcarried with
    | db hfate hC => exact h.statement hfate hC (by simp [hnone]) hmark hfinish
  statement_keeps := by
    intro w v t q r u h hA hcarried _ hv
    obtain ⟨_, _, _, hclaim⟩ := permitted_statement hA
    cases hcarried with
    | db hfate =>
      refine attempts_known_keeps fun job hsame => hsame.statement h.queue hfate fun ttl hq => ?_
      exact hv (hnames (hclaim _ _ hq))
  others_inv := AttemptInvariant.of_others
  others_keeps := by
    intro w t u h ho _
    refine attempts_known_keeps fun job hsame => ?_
    cases ho with
    | statement q r hq _ hfate =>
      refine hsame.statement h.queue hfate ?_
      rintro ttl rfl
      exact hq.elim
    | edit => exact hsame
    | annotate => exact hsame

end System

/-- In every run whose retries allow the jobs they take up more attempts than these have had, no job
is attempted, or claimed for an attempt, beyond what it allows. -/
theorem attempts_within_max {W : Type} [DecidableEq W] {names : W → String}
    (hnames : Function.Injective names) {t : ScanTables} {ps : W → JobProg Unit}
    (hrun : Relation.ReflTransGen (SystemStep RetriesAllowMore names) start (t, ps)) :
    (∀ job ∈ t.scan_jobs, job.attempt_count ≤ job.max_attempts) ∧
      ∀ now skipped worker_id ttl job,
        (t.claim_due_scan_job now skipped worker_id ttl).1 = some job →
          job.attempt_count ≤ job.max_attempts := by
  have hinv := ((attempt_rules hnames).good hrun).inv
  refine ⟨fun job hjob => (hinv.bounded job hjob).1, ?_⟩
  intro now skipped worker_id ttl job hanswer
  obtain ⟨due, hdue, rfl, _⟩ := claim_answer hanswer
  obtain ⟨hmem, hclaimable⟩ := due_mem hdue
  exact ((hinv.bounded due hmem).claimed hclaimable ttl).1

/-! ### One job -/

/-- A failed scan, with every statement answered. -/
def failed_round (now : Timestamp) (t : ScanTables) : ScanTables :=
  after_round "worker" now (fun _ => .answered) (.error (.Config "no provider")) t

theorem attempts_within_max_first_round :
    (failed_round 10 (one_job 3)).scan_jobs ≠ [] ∧
      ∀ job ∈ (failed_round 10 (one_job 3)).scan_jobs, job.attempt_count ≤ job.max_attempts := by
  obtain ⟨ps, hstart⟩ : ∃ ps, Relation.ReflTransGen (SystemStep RetriesAllowMore sole_worker) start
      (one_job 3, ps) := one_job_run 3 (by decide) trivial
  obtain ⟨qs, hround⟩ : ∃ qs, Relation.ReflTransGen (SystemStep RetriesAllowMore sole_worker)
      (one_job 3, ps) (failed_round 10 (one_job 3), qs) :=
    round_run () 10 _ _ (fun _ q => q.max_attempts.isNone) (by
      intro t q hq
      cases q <;> trivial) (by decide +kernel)
  exact ⟨by decide +kernel, (attempts_within_max (fun _ _ _ => rfl) (hstart.trans hround)).1⟩

/-- The API retries the run of the first attempt and allows a single attempt. -/
def retry : JobQuery :=
  .insert_retry_scan_job 3 2 1 1 1 20

/-- The worker's second claim, after the retry. -/
def lowered : ScanTables :=
  failed_round 30 (retry.run 20 (fun _ => false) (failed_round 10 (one_job 3))).2

theorem retry_lowers_max_attempts :
    ∃ ps, Relation.ReflTransGen (SystemStep Unconditional sole_worker) start (lowered, ps) ∧
      ∃ job ∈ lowered.scan_jobs, job.max_attempts < job.attempt_count := by
  obtain ⟨ps, hstart⟩ : ∃ ps, Relation.ReflTransGen (SystemStep Unconditional sole_worker) start
      (one_job 3, ps) := one_job_run 3 (by decide) trivial
  obtain ⟨qs, hfirst⟩ : ∃ qs, Relation.ReflTransGen (SystemStep Unconditional sole_worker)
      (one_job 3, ps) (failed_round 10 (one_job 3), qs) :=
        round_run () 10 _ _ (fun _ _ => true) (fun _ _ _ => trivial) (by decide +kernel)
  have hretry : SystemStep Unconditional sole_worker (failed_round 10 (one_job 3), qs)
      ((retry.run 20 (fun _ => false) (failed_round 10 (one_job 3))).2, qs) :=
    others_run 20 retry trivial (fun _ h => Option.some.inj h ▸ Int.one_pos) trivial
  obtain ⟨rs, hsecond⟩ : ∃ rs, Relation.ReflTransGen (SystemStep Unconditional sole_worker)
      ((retry.run 20 (fun _ => false) (failed_round 10 (one_job 3))).2, qs) (lowered, rs) :=
    round_run () 30 _ _ (fun _ _ => true) (fun _ _ _ => trivial) (by decide +kernel)
  refine ⟨rs, (hstart.trans hfirst).trans (.head hretry hsecond), ?_⟩
  decide +kernel

end CoinListener.Worker
