import CoinListener.Storage.JobQueue
import CoinListener.Foundation.Crew

/-! The worker's loop: it claims a scan job, audits it as a scan run, scans, and finalizes both. -/
namespace CoinListener.Worker
open Foundation Storage

/-! ### Outcomes -/

inductive ScanTaskOutcome where
  | Locked
  | Scanned (event_count : Nat)
  | UnsupportedChain (chain_type : String)
deriving DecidableEq

def scan_task_outcome_log_status : ScanTaskOutcome → ScanRunStatus
  | .Locked => .locked
  | .Scanned _ => .success
  | .UnsupportedChain _ => .unsupported

def scan_task_event_count : ScanTaskOutcome → Int
  | .Scanned event_count => min event_count 2147483647
  | .Locked => 0
  | .UnsupportedChain _ => 0

def scan_task_update_metadata : ScanTaskOutcome → Metadata
  | .Scanned _ => [("outcome", .str "scanned")]
  | .Locked => [("outcome", .str "locked")]
  | .UnsupportedChain chain_type =>
    [("outcome", .str "unsupported"), ("chain_type", .str chain_type)]

def scan_job_next_attempt_at (now : Timestamp) (attempt_count : Int) : Timestamp :=
  now + if attempt_count = 0 ∨ attempt_count = 1 then 30
    else if attempt_count = 2 then 60
    else if attempt_count = 3 then 300
    else if attempt_count = 4 then 900
    else 3600

def scan_job_should_dead_letter (attempt_count max_attempts : Int) : Bool :=
  max_attempts ≤ attempt_count

def scan_job_to_task (job : ScanJob) (enqueued_at : Timestamp) : ScanAddressTask :=
  { task_id := job.id
    address_id := job.address_id
    tenant_id := job.tenant_id
    chain_id := job.chain_id
    attempt := (max 0 (min job.attempt_count 65535)).toNat
    enqueued_at := enqueued_at }

/-- How the job is marked, inside a transaction or on its own. -/
def job_mark_for_result (attempt_count max_attempts : Int) (result : AppResult ScanTaskOutcome)
    (now : Timestamp) : JobMark :=
  match result with
  | .ok _ => .succeeded
  | .error error =>
    if scan_job_should_dead_letter attempt_count max_attempts then .dead_letter error.to_string
    else .retryable (scan_job_next_attempt_at now attempt_count) error.to_string

def run_finish_for_result (result : AppResult ScanTaskOutcome) (finished_at : Timestamp) :
    RunFinish :=
  match result with
  | .ok outcome =>
    { status := scan_task_outcome_log_status outcome
      event_count := scan_task_event_count outcome
      finished_at := finished_at
      error_message := none
      metadata := scan_task_update_metadata outcome }
  | .error error =>
    { status := .failed
      event_count := 0
      finished_at := finished_at
      error_message := some error.to_string
      metadata := [("outcome", .str "failed")] }

theorem run_finish_not_running (result : AppResult ScanTaskOutcome) (finished_at : Timestamp) :
    (run_finish_for_result result finished_at).status ≠ .running := by
  cases result with
  | error error => exact nofun
  | ok outcome => cases outcome <;> exact nofun

/-! ### The loop -/

/-- What the loop asks for. A scan is one request here: what it stores is not in these tables. -/
inductive JobStatement where
  | db (query : JobQuery)
  | utc_now
  | renewal_lost
  | process_scan_task (task : ScanAddressTask) (now : Timestamp)

abbrev JobStatement.Answer : JobStatement → Type
  | .db query => query.Answer
  | .utc_now => Timestamp
  | .renewal_lost => Bool
  | .process_scan_task .. => ScanTaskOutcome

/-- It does not touch the tables. -/
def JobStatement.Silent : JobStatement → Prop
  | .db _ => False
  | _ => True

abbrev JobProg (α : Type) := Prog JobStatement JobStatement.Answer AppError α

def job_query (q : JobQuery) : JobProg q.Answer := Prog.perform (.db q : JobStatement)

def utc_now : JobProg Timestamp := Prog.perform JobStatement.utc_now

def renewal_lost : JobProg Bool := Prog.perform JobStatement.renewal_lost

def process_scan_task (task : ScanAddressTask) (now : Timestamp) : JobProg ScanTaskOutcome :=
  Prog.perform (JobStatement.process_scan_task task now)

def create_scan_run_for_task (task : ScanAddressTask) (started_at : Timestamp)
    (worker_id : String) : JobProg ScanRun := do
  let context ← job_query (.scan_run_context task)
  job_query (.create_scan_run task context worker_id started_at
    [("worker_id", .str worker_id), ("scan_job_id", .str (Uuid.to_string task.task_id)),
      ("attempt", .num (toString task.attempt))])

def finish_scan_job_for_result (job_id : Uuid) (worker_id : String)
    (attempt_count max_attempts : Int) (scan_run_id : Option Uuid)
    (result : AppResult ScanTaskOutcome) (now : Timestamp) : JobProg Unit :=
  job_query (.mark_scan_job job_id worker_id
    (job_mark_for_result attempt_count max_attempts result now) scan_run_id)

def finish_scan_run_for_result (scan_run_id : Uuid) (result : AppResult ScanTaskOutcome)
    (finished_at : Timestamp) : JobProg Unit :=
  job_query (.finish_scan_run scan_run_id (run_finish_for_result result finished_at))

def finish_scan_job_and_run_for_result (job_id : Uuid) (worker_id : String)
    (attempt_count max_attempts : Int) (scan_run_id : Option Uuid)
    (result : AppResult ScanTaskOutcome) (now : Timestamp) : JobProg Unit :=
  match scan_run_id with
  | none => finish_scan_job_for_result job_id worker_id attempt_count max_attempts none result now
  | some scan_run_id =>
    job_query (.finish_scan_job_and_run job_id worker_id
      (job_mark_for_result attempt_count max_attempts result now) scan_run_id
      (run_finish_for_result result now))

/-- The scan, unless the run could not be created or the lease is known to be lost. -/
def scan_audited (task : ScanAddressTask) (started_at : Timestamp)
    (scan_run_result : AppResult ScanRun) : JobProg (AppResult ScanTaskOutcome) :=
  match scan_run_result with
  | .error error => return .error error
  | .ok _ => do
    let lost ← renewal_lost
    if lost then
      return .error (.Database "scan job lease ownership lost before scan side effects")
    else (process_scan_task task started_at).attempt

/-- Ends the attempt; where that fails, the run at least is audited as failed. -/
def finalize (worker_id : String) (job : ScanJob) (scan_run_id : Option Uuid)
    (result : AppResult ScanTaskOutcome) : JobProg Unit := do
  let now ← utc_now
  let finished ← (finish_scan_job_and_run_for_result job.id worker_id job.attempt_count
    job.max_attempts scan_run_id result now).attempt
  match finished, scan_run_id with
  | .error error, some scan_run_id => do
    let now ← utc_now
    let _ ← (finish_scan_run_for_result scan_run_id
      (.error (.Database ("scan job finalization failed: " ++ error.to_string))) now).attempt
    return ()
  | _, _ => return ()

def process_claimed_job (worker_id : String) (job : ScanJob) : JobProg Unit := do
  let enqueued_at ← utc_now
  let task := scan_job_to_task job enqueued_at
  let started_at ← utc_now
  let scan_run_result ← (create_scan_run_for_task task started_at worker_id).attempt
  let result ← scan_audited task started_at scan_run_result
  finalize worker_id job (scan_run_result.toOption.map (·.id)) result

/-- One round of the loop. -/
def run_worker (worker_id : String) (lease_ttl_seconds : Int) : JobProg Unit := do
  let claimed ← (job_query (.claim_due_scan_job worker_id lease_ttl_seconds)).attempt
  match claimed with
  | .ok (some job) => process_claimed_job worker_id job
  | _ => return ()

/-! ### Workers, scheduler and API -/

/-- What a run of the system is taken to satisfy at each statement against the database. -/
abbrev Condition := (t : ScanTables) → (q : JobQuery) → AppResult q.Answer → ScanTables → Prop

def Unconditional : Condition := fun _ _ _ _ => True

/-- What may become of a worker's statement. -/
inductive Carried (C : Condition) (t : ScanTables) :
    (op : JobStatement) → AppResult op.Answer → ScanTables → Prop where
  | db {q r u} (h : q.Fate t r u) (hC : C t q r u) : Carried C t (.db q) r u
  | utc_now (now : Timestamp) : Carried C t .utc_now (.ok now) t
  | renewal_lost (lost : Bool) : Carried C t .renewal_lost (.ok lost) t
  | scan {task now} (r : AppResult ScanTaskOutcome) : Carried C t (.process_scan_task task now) r t

/-- What the others issue: the scheduler enqueues, the API retries, leases are renewed. -/
def JobQuery.FromOthers : JobQuery → Prop
  | .insert_scheduled_scan_job .. => True
  | .insert_retry_scan_job .. => True
  | .renew_scan_job_lease .. => True
  | _ => False

/-- What happens between two statements of a worker. Jobs are enqueued with at least one attempt. -/
inductive Others (C : Condition) : ScanTables → ScanTables → Prop where
  | statement {t u} (q : JobQuery) (r : AppResult q.Answer) (hq : JobQuery.FromOthers q)
    (hmax : ∀ max_attempts, q.max_attempts = some max_attempts → 0 < max_attempts)
    (h : q.Fate t r u) (hC : C t q r u) : Others C t u
  | edit {t} (chains : List Chain) (watched_addresses : List WatchedAddress) :
    Others C t { t with chains := chains, watched_addresses := watched_addresses }
  | annotate {t} (metadata : ScanRun → Metadata) :
    Others C t { t with
      scan_runs := t.scan_runs.map fun run => { run with metadata := metadata run } }

/-- Any worker may start its loop over at any time, whatever it was doing. -/
def Launch {W : Type} (names : W → String) (w : W) (t : ScanTables) (p : JobProg Unit)
    (u : ScanTables) : Prop :=
  u = t ∧ ∃ lease_ttl_seconds, p = run_worker (names w) lease_ttl_seconds

/-- One step of the system. -/
abbrev SystemStep {W : Type} [DecidableEq W] (C : Condition) (names : W → String) :
    ScanTables × (W → JobProg Unit) → ScanTables × (W → JobProg Unit) → Prop :=
  Prog.Crew (fun _ => Carried C) (Others C) (Launch names)

/-- Nothing is enqueued and no worker has started. -/
def start {W : Type} : ScanTables × (W → JobProg Unit) :=
  (.empty, fun _ => .done ())

/-! ### Phases of a round -/

/-- How far a worker has come with a job. -/
inductive JobPhase where
  | idle
  | claimed (job : ScanJob)
  | uncreated (job : ScanJob)
  | created (job : ScanJob) (run : ScanRun)
  | unfinished (run : ScanRun)

section Phases
variable (Inv : ScanTables → Prop) (A : ScanTables → JobStatement → Prop) (C : Condition)
  (worker_id : String) (holds : JobPhase → ScanTables → Prop)

/-- What the assertions of a worker have to satisfy, statement by statement. -/
structure PhaseRules : Prop where
  idle : ∀ t, holds .idle t
  silent : ∀ {t op}, JobStatement.Silent op → A t op
  context : ∀ {t task}, A t (.db (.scan_run_context task))
  claim_allowed : ∀ {t ttl}, A t (.db (.claim_due_scan_job worker_id ttl))
  claim : ∀ {t ttl job u}, Inv t → Carried C t (.db (.claim_due_scan_job worker_id ttl))
    (.ok (some job)) u → Inv u → holds (.claimed job) u
  weaken : ∀ {t job}, holds (.claimed job) t → holds (.uncreated job) t
  create_allowed : ∀ {t job task context started_at metadata}, task.task_id = job.id →
    holds (.claimed job) t → A t (.db (.create_scan_run task context worker_id started_at metadata))
  create : ∀ {t job task context started_at metadata run u}, task.task_id = job.id → Inv t →
    holds (.claimed job) t →
    Carried C t (.db (.create_scan_run task context worker_id started_at metadata)) (.ok run) u →
    Inv u → holds (.created job run) u
  create_fails : ∀ {t job task context started_at metadata e u}, task.task_id = job.id → Inv t →
    holds (.claimed job) t →
    Carried C t (.db (.create_scan_run task context worker_id started_at metadata)) (.error e) u →
    Inv u → holds (.uncreated job) u
  mark_allowed : ∀ {t job error now}, holds (.uncreated job) t →
    A t (.db (.mark_scan_job job.id worker_id
      (job_mark_for_result job.attempt_count job.max_attempts (.error error) now) none))
  finish_allowed : ∀ {t job run result now}, holds (.created job run) t →
    A t (.db (.finish_scan_job_and_run job.id worker_id
      (job_mark_for_result job.attempt_count job.max_attempts result now) run.id
      (run_finish_for_result result now)))
  finish_fails : ∀ {t job run result now e u}, Inv t → holds (.created job run) t →
    Carried C t (.db (.finish_scan_job_and_run job.id worker_id
      (job_mark_for_result job.attempt_count job.max_attempts result now) run.id
      (run_finish_for_result result now))) (.error e) u → Inv u → holds (.unfinished run) u
  fallback_allowed : ∀ {t run error now}, holds (.unfinished run) t →
    A t (.db (.finish_scan_run run.id (run_finish_for_result (.error error) now)))

variable {Inv A C worker_id holds}

theorem Carried.silent {t u : ScanTables} {op : JobStatement} {r : AppResult op.Answer}
    (h : Carried C t op r u) (hop : op.Silent) : u = t := by
  cases h with
  | db => exact hop.elim
  | utc_now => rfl
  | renewal_lost => rfl
  | scan => rfl

/-- A round or a part of it, from one phase to another. -/
abbrev Phase (Inv : ScanTables → Prop) (A : ScanTables → JobStatement → Prop) (C : Condition)
    (holds : JobPhase → ScanTables → Prop) {α : Type} (i : JobPhase) (p : JobProg α)
    (j : α → JobPhase) (k : JobPhase) : Prop :=
  Prog.Triple A (Prog.Within Inv (Carried C)) (Prog.Assn.of holds i) p
    (fun a => Prog.Assn.of holds (j a)) fun _ => Prog.Assn.of holds k

namespace PhaseRules
open Prog
variable (rules : PhaseRules Inv A C worker_id holds)
include rules

theorem idle_of (i : JobPhase) : ∀ t, (Assn.of holds i).holds t → (Assn.of holds .idle).holds t :=
  fun t _ => rules.idle t

theorem silent_phase (i : JobPhase) (op : JobStatement) (hop : op.Silent) :
    Phase Inv A C holds i (Prog.perform op) (fun _ => i) i := by
  refine .perform (fun _ _ => rules.silent hop) fun t ht r u hu => ?_
  obtain rfl := hu.2.1.silent hop
  cases r with
  | ok a => exact ht
  | error e => exact ht

theorem create_phase {job : ScanJob} {task : ScanAddressTask} (htask : task.task_id = job.id)
    (started_at : Timestamp) :
    Phase Inv A C holds (.claimed job) (create_scan_run_for_task task started_at worker_id)
      (.created job) (.uncreated job) := by
  refine .bind Keeps.refl (Q := fun _ => Assn.of holds (.claimed job)) ?_ fun context => ?_
  · refine .perform (fun _ _ => rules.context) fun t ht r u hu => ?_
    obtain rfl : u = t := by
      cases hu.2.1 with
      | db hfate =>
        obtain ⟨now, skipped, hfate⟩ := hfate
        rcases hfate.state with rfl | rfl <;> rfl
    cases r with
    | ok a => exact ht
    | error e => exact rules.weaken ht
  · refine .perform (fun _ ht => rules.create_allowed htask ht) fun t ht r u hu => ?_
    cases r with
    | ok run => exact rules.create htask hu.1 ht hu.2.1 hu.2.2
    | error e => exact rules.create_fails htask hu.1 ht hu.2.1 hu.2.2

theorem scan_phase (i : JobPhase) (task : ScanAddressTask) (started_at : Timestamp)
    (scan_run_result : AppResult ScanRun) :
    Phase Inv A C holds i (scan_audited task started_at scan_run_result) (fun _ => i) i := by
  cases scan_run_result with
  | error error => exact .done fun _ h => h
  | ok run =>
    refine .bind Keeps.refl (rules.silent_phase i .renewal_lost trivial) fun lost => ?_
    cases lost with
    | true => exact .done fun _ h => h
    | false =>
      exact .attempt (rules.silent_phase i (.process_scan_task task started_at) trivial)
        (fun _ _ h => h) fun _ _ h => h

theorem finalize_created (job : ScanJob) (run : ScanRun) (result : AppResult ScanTaskOutcome) :
    Phase Inv A C holds (.created job run) (finalize worker_id job (some run.id) result)
      (fun _ => .idle) .idle := by
  refine .bind Keeps.refl (Q := fun _ => Assn.of holds (.created job run)) ?_ fun now => ?_
  · exact (rules.silent_phase (.created job run) .utc_now trivial).consequence
        (fun _ h => h) (fun _ _ h => h)
      fun _ => rules.idle_of _
  · refine .bind Keeps.refl (Q := fun r => Assn.of holds (match r with
      | .ok _ => .idle
      | .error _ => .unfinished run)) ?_ fun finished => ?_
    · refine .attempt (Q := fun _ => Assn.of holds .idle)
        (E := fun _ => Assn.of holds (.unfinished run)) ?_ (fun _ _ h => h) fun _ _ h => h
      refine .perform (fun _ ht => rules.finish_allowed ht) fun t ht r u hu => ?_
      cases r with
      | ok a => exact rules.idle u
      | error e => exact rules.finish_fails hu.1 ht hu.2.1 hu.2.2
    · cases finished with
      | ok a => exact .done fun _ h => h
      | error error =>
        refine .bind Keeps.refl (Q := fun _ => Assn.of holds (.unfinished run)) ?_ fun now => ?_
        · exact (rules.silent_phase (.unfinished run) .utc_now trivial).consequence (fun _ h => h)
            (fun _ _ h => h) fun _ => rules.idle_of _
        · refine .bind Keeps.refl (Q := fun _ => Assn.of holds .idle) ?_ fun _ => .done fun _ h => h
          refine .attempt (Q := fun _ => Assn.of holds .idle) (E := fun _ => Assn.of holds .idle)
            ?_ (fun _ _ h => h) fun _ _ h => h
          refine .perform (fun _ ht => rules.fallback_allowed ht) fun t _ r u _ => ?_
          cases r <;> exact rules.idle u

theorem finalize_uncreated (job : ScanJob) (error : AppError) :
    Phase Inv A C holds (.uncreated job) (finalize worker_id job none (.error error))
      (fun _ => .idle) .idle := by
  refine .bind Keeps.refl (Q := fun _ => Assn.of holds (.uncreated job)) ?_ fun now => ?_
  · exact (rules.silent_phase (.uncreated job) .utc_now trivial).consequence
        (fun _ h => h) (fun _ _ h => h)
      fun _ => rules.idle_of _
  · refine .bind Keeps.refl (Q := fun _ => Assn.of holds .idle) ?_ fun finished => ?_
    · refine .attempt (Q := fun _ => Assn.of holds .idle) (E := fun _ => Assn.of holds .idle)
        ?_ (fun _ _ h => h) fun _ _ h => h
      refine .perform (fun _ ht => rules.mark_allowed ht) fun t _ r u _ => ?_
      cases r <;> exact rules.idle u
    · cases finished <;> exact .done fun _ h => h

theorem process_claimed_job (job : ScanJob) :
    Phase Inv A C holds (.claimed job) (process_claimed_job worker_id job) (fun _ => .idle)
      .idle := by
  have hnow := (rules.silent_phase (.claimed job) .utc_now trivial).consequence
    (fun _ h => h) (fun _ _ h => h) fun _ => rules.idle_of _
  refine .bind Keeps.refl hnow fun enqueued_at => ?_
  refine .bind Keeps.refl hnow fun started_at => ?_
  refine .bind Keeps.refl (Q := fun r => Assn.of holds (match r with
    | .ok run => .created job run
    | .error _ => .uncreated job)) ?_ fun scan_run_result => ?_
  · exact .attempt (rules.create_phase rfl started_at) (fun _ _ h => h) fun _ _ h => h
  · cases scan_run_result with
    | ok run =>
      refine .bind Keeps.refl (Q := fun _ => Assn.of holds (.created job run)) ?_
        fun result => rules.finalize_created job run result
      exact (rules.scan_phase (.created job run) _ started_at (.ok run)).consequence
        (fun _ h => h) (fun _ _ h => h) fun _ => rules.idle_of _
    | error error => exact rules.finalize_uncreated job error

/-- Under such rules a whole round is safe. -/
theorem run_worker (ttl : Int) :
    Phase Inv A C holds .idle (run_worker worker_id ttl) (fun _ => .idle) .idle := by
  refine .bind Keeps.refl (Q := fun r => Assn.of holds (match r with
    | .ok (some job) => .claimed job
    | _ => .idle)) ?_ fun claimed => ?_
  · refine .attempt (Q := fun job => Assn.of holds (match job with
      | some job => .claimed job
      | none => .idle)) (E := fun _ => Assn.of holds .idle) ?_ ?_ fun _ _ h => h
    · refine .perform (fun _ _ => rules.claim_allowed) fun t _ r u hu => ?_
      cases r with
      | error e => exact rules.idle u
      | ok job =>
        cases job with
        | none => exact rules.idle u
        | some job => exact rules.claim hu.1 hu.2.1 hu.2.2
    · intro job t h
      cases job <;> exact h
  · rcases claimed with e | _ | job
    · exact .done fun _ h => h
    · exact .done fun _ h => h
    · exact rules.process_claimed_job job

end PhaseRules

end Phases

/-! ### Runs of the system -/

section System
variable {W : Type} (C : Condition) (names : W → String) (Inv : ScanTables → Prop)
  (A : W → ScanTables → JobStatement → Prop) (holds : W → JobPhase → ScanTables → Prop)

/-- An invariant of the tables, with what each worker may issue and what it relies on. -/
structure SystemRules : Prop where
  initial : Inv .empty
  phases : ∀ w, PhaseRules Inv (A w) C (names w) (holds w)
  statement_inv : ∀ {w t q r u}, Inv t → A w t (.db q) → Carried C t (.db q) r u → Inv u
  statement_keeps : ∀ {w v t q r u}, Inv t → A w t (.db q) → Carried C t (.db q) r u → Inv u →
    v ≠ w → Prog.Keeps (holds v) t u
  others_inv : ∀ {t u}, Inv t → Others C t u → Inv u
  others_keeps : ∀ {w t u}, Inv t → Others C t u → Inv u → Prog.Keeps (holds w) t u

variable {C names Inv A holds} [DecidableEq W]

omit [DecidableEq W] in
theorem SystemRules.crew (rules : SystemRules C names Inv A holds) :
    Prog.Crew.Rules (fun _ => Carried C) (Others C) (Launch names) Inv A
      (fun w => Prog.Keeps (holds w)) fun _ _ _ => True where
  refl _ := Prog.Keeps.refl
  trans _ := Prog.Keeps.trans
  launch_inv h hlaunch := hlaunch.1 ▸ h
  launch_safe := by
    rintro w t p u _ ⟨rfl, ttl, rfl⟩
    have hround := ((rules.phases w).run_worker ttl).safe u ((rules.phases w).idle u)
    exact hround.mono fun _ _ _ _ => trivial
  launch_others := by
    rintro w v t p u _ ⟨rfl, _⟩ _
    exact Prog.Keeps.refl u
  statement_inv := by
    intro w t op r u h hA hs
    cases op with
    | db q => exact rules.statement_inv h hA hs
    | _ => exact hs.silent trivial ▸ h
  statement_others := by
    intro w v t op r u h hA hs hv
    cases op with
    | db q => exact rules.statement_keeps h hA hs (rules.statement_inv h hA hs) hv
    | _ => exact hs.silent trivial ▸ Prog.Keeps.refl _
  others_inv := rules.others_inv
  others h he := rules.others_keeps h he (rules.others_inv h he)

/-- The induction over a run of the system. -/
theorem SystemRules.good (rules : SystemRules C names Inv A holds) {t : ScanTables}
    {ps : W → JobProg Unit} (hrun : Relation.ReflTransGen (SystemStep C names) start (t, ps)) :
    Prog.Crew.Good (fun _ => Carried C) Inv A (fun w => Prog.Keeps (holds w)) (fun _ _ _ => True) t
      ps := by
  refine Prog.Crew.Good.run rules.crew ⟨rules.initial, fun w => ?_⟩ hrun
  exact fun _ _ => ⟨trivial, trivial⟩

end System

/-! ### Rounds that nobody interrupts -/

/-- Answers to a worker: at one instant, with a fate for each statement against the database and an
outcome of the scan. -/
def answered (now : Timestamp) (fate : JobQuery → Outcome) (outcome : AppResult ScanTaskOutcome)
    (t : ScanTables) : (op : JobStatement) → AppResult op.Answer × ScanTables
  | .db q => (fate q).apply AppError.Database t (q.run now (fun _ => false) t)
  | .utc_now => (.ok now, t)
  | .renewal_lost => (.ok false, t)
  | .process_scan_task .. => (outcome, t)

/-- The tables after one round of a worker. -/
def after_round (worker_id : String) (now : Timestamp) (fate : JobQuery → Outcome)
    (outcome : AppResult ScanTaskOutcome) (t : ScanTables) : ScanTables :=
  (Prog.eval (answered now fate outcome) (run_worker worker_id 60) t).2

/-- The statements a round issues against the database all pass the test. -/
def round_passes (ok : ScanTables → JobQuery → Bool) (worker_id : String) (now : Timestamp)
    (fate : JobQuery → Outcome) (outcome : AppResult ScanTaskOutcome) (t : ScanTables) : Bool :=
  Prog.along (answered now fate outcome) (fun t op => match op with
    | .db q => ok t q
    | _ => true) (run_worker worker_id 60) t

section Rounds
variable {W : Type} [DecidableEq W] {C : Condition} {names : W → String} {t u : ScanTables}
  {ps : W → JobProg Unit}

theorem round_run (w : W) (now : Timestamp) (fate : JobQuery → Outcome)
    (outcome : AppResult ScanTaskOutcome) (ok : ScanTables → JobQuery → Bool)
    (hC : ∀ t q, ok t q = true →
      C t q ((fate q).apply AppError.Database t (q.run now (fun _ => false) t)).1
        ((fate q).apply AppError.Database t (q.run now (fun _ => false) t)).2)
    (hok : round_passes ok (names w) now fate outcome t = true) :
    ∃ qs, Relation.ReflTransGen (SystemStep C names) (t, ps)
      (after_round (names w) now fate outcome t, qs) := by
  have hlaunch : SystemStep C names (t, ps) (t, Function.update ps w (run_worker (names w) 60)) :=
    .launch w ⟨rfl, 60, rfl⟩
  have hanswers : ∀ s op, (match op with | .db q => ok s q | _ => true) = true →
      Carried C s op (answered now fate outcome s op).1 (answered now fate outcome s op).2 := by
    intro s op hop
    cases op with
    | db q => exact .db ⟨now, fun _ => false, (fate q).fate ..⟩ (hC s q hop)
    | utc_now => exact .utc_now now
    | renewal_lost => exact .renewal_lost false
    | process_scan_task => exact .scan outcome
  obtain ⟨qs, hqs, _⟩ := Prog.Crew.of_eval (H := fun _ => Carried C) (w := w) hanswers t hok
    (Function.update ps w (run_worker (names w) 60)) (by simp)
  exact ⟨qs, .head hlaunch hqs⟩

/-- A statement of the scheduler, the API or a renewal. -/
theorem others_run (now : Timestamp) (q : JobQuery) (hq : JobQuery.FromOthers q)
    (hmax : ∀ max_attempts, q.max_attempts = some max_attempts → 0 < max_attempts)
    (hC : C t q (q.run now (fun _ => false) t).1 (q.run now (fun _ => false) t).2) :
    SystemStep C names (t, ps) ((q.run now (fun _ => false) t).2, ps) :=
  .others (.statement q _ hq hmax ⟨now, fun _ => false, .answered⟩ hC)

end Rounds

/-! ### One address and one worker -/

def sole_worker (_ : Unit) : String := "worker"

def ethereum : Chain :=
  { id := 1, key := "ethereum", chain_type := "evm", default_confirmations := 12 }

def watched_address : WatchedAddress :=
  { id := 2, tenant_id := 3, chain_id := 1, address := "0xaaaaaaaaaaaaaaaaaaaaaaaaaaaaaaaaaaaaaaaa",
    label := none, priority := "normal", scan_interval_seconds := 60,
    transfer_filter_enabled := true, balance_change_filter_enabled := true, status := "active" }

def one_address : ScanTables :=
  { ScanTables.empty with chains := [ethereum], watched_addresses := [watched_address] }

/-- The scheduler enqueues the address. -/
def schedule (max_attempts : Int) : JobQuery :=
  .insert_scheduled_scan_job
    { id := 2, tenant_id := 3, chain_id := 1, scan_interval_seconds := 60 } max_attempts 0

def one_job (max_attempts : Int) : ScanTables :=
  ((schedule max_attempts).run 0 (fun _ => false) one_address).2

theorem one_job_run {W : Type} [DecidableEq W] {C : Condition} {names : W → String}
    (max_attempts : Int) (hmax : 0 < max_attempts)
    (hC : C one_address (schedule max_attempts)
      ((schedule max_attempts).run 0 (fun _ => false) one_address).1 (one_job max_attempts)) :
    ∃ ps, Relation.ReflTransGen (SystemStep C names) start (one_job max_attempts, ps) :=
  ⟨_, .head (.others (.edit [ethereum] [watched_address]))
    (.single (others_run 0 (schedule max_attempts) trivial
      (fun _ h => Option.some.inj h ▸ hmax) hC))⟩

/-- A round whose scan succeeds, with every statement answered. -/
def scanned_round (now : Timestamp) (t : ScanTables) : ScanTables :=
  after_round "worker" now (fun _ => .answered) (.ok (.Scanned 2)) t

end CoinListener.Worker
