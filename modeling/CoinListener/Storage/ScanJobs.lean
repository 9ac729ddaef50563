import CoinListener.Core.Models
import CoinListener.Foundation.Program
import CoinListener.Foundation.Table
import Mathlib.Data.List.MinMax
import Mathlib.Data.Prod.Lex

/-! The durable queue of scan jobs and the audit trail of scan runs: every statement the scheduler,
the workers and the API issue against them. A statement is carried out at one instant; `now` is what
`NOW()` reads there. -/
namespace CoinListener
open Foundation

/-! ### Rows -/

namespace ScanJob

/-- Covered by the unique index on the address. -/
def active (job : ScanJob) : Bool :=
  job.status = .pending || job.status = .retryable || job.status = .processing

def waiting (job : ScanJob) : Bool :=
  job.status = .pending || job.status = .retryable

/-- The guard of renewals, marks and new runs. -/
def held_by (worker_id : String) (now : Timestamp) (job : ScanJob) : Bool :=
  job.locked_by = some worker_id && job.status = .processing && job.lease_expires_at.any (now < ·)

def expired (now : Timestamp) (job : ScanJob) : Bool :=
  job.status = .processing && job.lease_expires_at.any (· ≤ now)

def exhausted (now : Timestamp) (job : ScanJob) : Bool :=
  job.expired now && job.max_attempts ≤ job.attempt_count

/-- Due: waiting for long enough, or left behind with attempts to spare. -/
def claimable (now : Timestamp) (job : ScanJob) : Bool :=
  (job.waiting && job.next_attempt_at ≤ now) ||
    (job.expired now && job.attempt_count < job.max_attempts)

/-- The order in which due jobs are claimed. -/
def claim_order (now : Timestamp) (job : ScanJob) : Nat ×ₗ Timestamp ×ₗ Timestamp :=
  toLex (if job.expired now then 0 else 1, toLex (job.next_attempt_at, job.created_at))

def unlocked (now : Timestamp) (job : ScanJob) : ScanJob :=
  { job with locked_at := none, locked_by := none, lease_expires_at := none, updated_at := now }

def dead_lettered (now : Timestamp) (job : ScanJob) : ScanJob :=
  { job.unlocked now with
    status := .dead_letter
    last_error := some (job.last_error.getD "scan job lease expired after max attempts")
    dead_lettered_at := some now }

def claimed (now : Timestamp) (worker_id : String) (lease_ttl_seconds : Int) (job : ScanJob) :
    ScanJob :=
  { job with
    status := .processing
    attempt_count := job.attempt_count + 1
    locked_at := some now
    locked_by := some worker_id
    lease_expires_at := some (now + lease_ttl_seconds)
    updated_at := now }

def renewed (now : Timestamp) (lease_ttl_seconds : Int) (job : ScanJob) : ScanJob :=
  { job with
    locked_at := some now
    lease_expires_at := some (now + lease_ttl_seconds)
    updated_at := now }

/-- The run created for the job becomes its last one. -/
def linked (now : Timestamp) (scan_run_id : Uuid) (job : ScanJob) : ScanJob :=
  { job with last_scan_run_id := some scan_run_id, updated_at := now }

/-- What a retry makes of a job that is still waiting. -/
def requeued (now next_attempt_at : Timestamp) (max_attempts : Int)
    (retry_of_scan_run_id : Uuid) (job : ScanJob) : ScanJob :=
  { job with
    status := .pending
    max_attempts := max_attempts
    next_attempt_at := next_attempt_at
    retry_of_scan_run_id := some retry_of_scan_run_id
    last_error := none
    updated_at := now }

theorem waiting_iff {job : ScanJob} :
    job.waiting = true ↔ job.status = .pending ∨ job.status = .retryable := by
  simp [waiting]

theorem held_by_iff {worker_id : String} {now : Timestamp} {job : ScanJob} :
    job.held_by worker_id now = true ↔ job.locked_by = some worker_id ∧ job.status = .processing ∧
      job.lease_expires_at.any (now < ·) = true := by
  simp [held_by, and_assoc]

end ScanJob

/-- How a worker ends its attempt on a job. -/
inductive JobMark where
  | succeeded
  | retryable (next_attempt_at : Timestamp) (last_error : String)
  | dead_letter (last_error : String)
deriving DecidableEq

def JobMark.apply (now : Timestamp) (scan_run_id : Option Uuid) (job : ScanJob) :
    JobMark → ScanJob
  | .succeeded =>
    { job.unlocked now with
      status := .succeeded
      last_error := none
      last_scan_run_id := scan_run_id
      succeeded_at := some now }
  | .retryable next_attempt_at last_error =>
    { job.unlocked now with
      status := .retryable
      next_attempt_at := next_attempt_at
      last_error := some last_error
      last_scan_run_id := scan_run_id }
  | .dead_letter last_error =>
    { job.unlocked now with
      status := .dead_letter
      last_error := some last_error
      last_scan_run_id := scan_run_id
      dead_lettered_at := some now }

section Mark
variable {now : Timestamp} {job : ScanJob}

@[simp] theorem JobMark.apply_id (mark : JobMark) (scan_run_id : Option Uuid) :
    (mark.apply now scan_run_id job).id = job.id := by
  cases mark <;> rfl

@[simp] theorem JobMark.apply_address_id (mark : JobMark) (scan_run_id : Option Uuid) :
    (mark.apply now scan_run_id job).address_id = job.address_id := by
  cases mark <;> rfl

@[simp] theorem JobMark.apply_last_scan_run_id (mark : JobMark) (scan_run_id : Option Uuid) :
    (mark.apply now scan_run_id job).last_scan_run_id = scan_run_id := by
  cases mark <;> rfl

/-- A marked job is no longer locked. -/
theorem JobMark.apply_unlocked (mark : JobMark) (now : Timestamp) (job : ScanJob)
    (scan_run_id : Option Uuid) :
    (mark.apply now scan_run_id job).status ≠ .processing ∧
      (mark.apply now scan_run_id job).locked_by = none ∧
      (mark.apply now scan_run_id job).lease_expires_at = none := by
  cases mark <;> exact ⟨nofun, rfl, rfl⟩

end Mark

def elapsed_ms (started_at finished_at : Timestamp) : Int :=
  max 0 ((finished_at - started_at) * 1000)

/-- How a run ends. -/
structure RunFinish where
  status : ScanRunStatus
  event_count : Int
  finished_at : Timestamp
  error_message : Option String
  metadata : Metadata

namespace ScanRun

/-- The run of a job whose lease has expired. -/
def reclaimed (now : Timestamp) (error_message : String) (run : ScanRun) : ScanRun :=
  { run with
    status := .failed
    finished_at := some now
    duration_ms := some (elapsed_ms run.started_at now)
    error_message := some (run.error_message.getD error_message)
    metadata := run.metadata.merge
      [("outcome", .str "failed"), ("scan_job_reclaimed", .bool true)]
    updated_at := now }

def finished (now : Timestamp) (finish : RunFinish) (run : ScanRun) : ScanRun :=
  { run with
    status := finish.status
    event_count := finish.event_count
    finished_at := some finish.finished_at
    duration_ms := some (elapsed_ms run.started_at finish.finished_at)
    error_message := finish.error_message
    metadata := run.metadata.merge finish.metadata
    updated_at := now }

end ScanRun

namespace Storage

/-! ### Tables -/

/-- The queue, the audit trail and what they refer to. Identifiers are handed out in order, so a new
one is never in use. -/
structure ScanTables where
  chains : List Chain
  watched_addresses : List WatchedAddress
  scan_jobs : List ScanJob
  scan_runs : List ScanRun
  next_id : Uuid

namespace ScanTables
variable (t : ScanTables) (now : Timestamp)

def scan_run_context (task : ScanAddressTask) : AppResult ScanRunContext := do
  let address ← required (t.watched_addresses.find? fun address =>
    address.id == task.address_id && address.tenant_id == task.tenant_id &&
      address.chain_id == task.chain_id && address.status == "active")
    (.NotFound "watched address")
  let chain ← required (t.chains.find? (·.id == address.chain_id)) (.NotFound "watched address")
  return { id := address.id
           tenant_id := address.tenant_id
           chain_id := address.chain_id
           address := address.address
           chain_type := chain.chain_type }

/-- The job the unique index finds for an address. -/
def active_job (address_id : Uuid) : Option ScanJob :=
  t.scan_jobs.find? fun job => job.active && job.address_id == address_id

def new_job (tenant_id address_id chain_id : Uuid) (max_attempts : Int)
    (next_attempt_at : Timestamp) (retry_of_scan_run_id : Option Uuid) : ScanJob :=
  { id := t.next_id
    tenant_id := tenant_id
    address_id := address_id
    chain_id := chain_id
    status := .pending
    attempt_count := 0
    max_attempts := max_attempts
    next_attempt_at := next_attempt_at
    locked_at := none
    locked_by := none
    lease_expires_at := none
    last_error := none
    last_scan_run_id := none
    retry_of_scan_run_id := retry_of_scan_run_id
    succeeded_at := none
    dead_lettered_at := none
    created_at := now
    updated_at := now }

def add_job (job : ScanJob) : ScanTables :=
  { t with scan_jobs := t.scan_jobs ++ [job], next_id := t.next_id + 1 }

def insert_scheduled_scan_job (candidate : ScanAddressCandidate) (max_attempts : Int)
    (next_attempt_at : Timestamp) : Option ScanJob × ScanTables :=
  match t.active_job candidate.id with
  | some _ => (none, t)
  | none =>
    let job := t.new_job now candidate.tenant_id candidate.id candidate.chain_id max_attempts
      next_attempt_at none
    (some job, t.add_job job)

def insert_retry_scan_job (tenant_id address_id chain_id retry_of_scan_run_id : Uuid)
    (max_attempts : Int) (next_attempt_at : Timestamp) : Option ScanJob × ScanTables :=
  match t.active_job address_id with
  | some job =>
    if job.waiting then
      let requeue := ScanJob.requeued now next_attempt_at max_attempts retry_of_scan_run_id
      (some (requeue job), { t with
        scan_jobs := Table.update (fun row => row.id == job.id) requeue t.scan_jobs })
    else (none, t)
  | none =>
    let job := t.new_job now tenant_id address_id chain_id max_attempts next_attempt_at
      (some retry_of_scan_run_id)
    (some job, t.add_job job)

/-- The due job that comes first. Rows that another transaction has locked are skipped. No exhausted
job is due, so it need not be looked up among the dead letters. -/
def due (skipped : Uuid → Bool) : Option ScanJob :=
  letI : Preorder Timestamp := Int.instLinearOrder.toPreorder
  (t.scan_jobs.filter fun job => job.claimable now && !skipped job.id).argmin
    (ScanJob.claim_order now)

/-- A row of the queue after a claim: each row changes at most once. -/
def claim_job (worker_id : String) (lease_ttl_seconds : Int) (due : Option ScanJob)
    (job : ScanJob) : ScanJob :=
  if job.exhausted now then job.dead_lettered now
  else if due.any (·.id == job.id) then job.claimed now worker_id lease_ttl_seconds
  else job

/-- A row of the audit trail after a claim. -/
def claim_run (due : Option ScanJob) (run : ScanRun) : ScanRun :=
  if run.status = .running &&
      t.scan_jobs.any (fun job => job.exhausted now && job.last_scan_run_id == some run.id) then
    run.reclaimed now "scan job lease expired after max attempts"
  else if run.status = .running && due.any (·.last_scan_run_id == some run.id) then
    run.reclaimed now "scan job lease expired before retry"
  else run

def claim_due_scan_job (skipped : Uuid → Bool) (worker_id : String) (lease_ttl_seconds : Int) :
    Option ScanJob × ScanTables :=
  let due := t.due now skipped
  (due.map (ScanJob.claimed now worker_id lease_ttl_seconds), { t with
    scan_jobs := t.scan_jobs.map (claim_job now worker_id lease_ttl_seconds due)
    scan_runs := t.scan_runs.map (t.claim_run now due) })

/-- The rows a worker may change: its job, as long as it holds it. -/
def owned (job_id : Uuid) (worker_id : String) (job : ScanJob) : Bool :=
  job.id == job_id && job.held_by worker_id now

def renew_scan_job_lease (job_id : Uuid) (worker_id : String) (lease_ttl_seconds : Int) :
    Bool × ScanTables :=
  (t.scan_jobs.any (owned now job_id worker_id), { t with
    scan_jobs := Table.update (owned now job_id worker_id)
      (ScanJob.renewed now lease_ttl_seconds) t.scan_jobs })

def mark_scan_job (job_id : Uuid) (worker_id : String) (mark : JobMark)
    (scan_run_id : Option Uuid) : AppResult Unit × ScanTables :=
  if t.scan_jobs.any (owned now job_id worker_id) then
    (.ok (), { t with
      scan_jobs := Table.update (owned now job_id worker_id)
        (fun job => mark.apply now scan_run_id job) t.scan_jobs })
  else (.error (.NotFound "scan job"), t)

def new_run (task : ScanAddressTask) (context : ScanRunContext) (started_at : Timestamp)
    (metadata : Metadata) : ScanRun :=
  { id := t.next_id
    tenant_id := context.tenant_id
    task_id := task.task_id
    address_id := context.id
    chain_id := context.chain_id
    chain_type := context.chain_type
    status := .running
    event_count := 0
    started_at := started_at
    finished_at := none
    duration_ms := none
    error_message := none
    metadata := metadata
    created_at := now
    updated_at := now }

def create_scan_run (task : ScanAddressTask) (context : ScanRunContext) (worker_id : String)
    (started_at : Timestamp) (metadata : Metadata) : AppResult ScanRun × ScanTables :=
  if t.scan_jobs.any (owned now task.task_id worker_id) then
    let run := t.new_run now task context started_at metadata
    (.ok run, { t with
      scan_jobs := Table.update (owned now task.task_id worker_id)
        (ScanJob.linked now run.id) t.scan_jobs
      scan_runs := t.scan_runs ++ [run]
      next_id := t.next_id + 1 })
  else (.error (.NotFound "scan job"), t)

def finish_scan_run (scan_run_id : Uuid) (finish : RunFinish) : AppResult Unit × ScanTables :=
  if t.scan_runs.any (·.id == scan_run_id) then
    (.ok (), { t with
      scan_runs := Table.update (fun run => run.id == scan_run_id)
        (ScanRun.finished now finish) t.scan_runs })
  else (.error (.NotFound "scan run"), t)

/-- One transaction: it is rolled back where either part fails. -/
def finish_scan_job_and_run (job_id : Uuid) (worker_id : String) (mark : JobMark)
    (scan_run_id : Uuid) (finish : RunFinish) : AppResult Unit × ScanTables :=
  match t.mark_scan_job now job_id worker_id mark (some scan_run_id) with
  | (.ok (), marked) =>
    match marked.finish_scan_run now scan_run_id finish with
    | (.ok (), finished) => (.ok (), finished)
    | (.error error, _) => (.error error, t)
  | (.error error, _) => (.error error, t)

end ScanTables

/-! ### Statements -/

/-- A statement against the queue or the audit trail. -/
inductive JobQuery where
  | scan_run_context (task : ScanAddressTask)
  | insert_scheduled_scan_job (candidate : ScanAddressCandidate) (max_attempts : Int)
      (next_attempt_at : Timestamp)
  | insert_retry_scan_job (tenant_id address_id chain_id retry_of_scan_run_id : Uuid)
      (max_attempts : Int) (next_attempt_at : Timestamp)
  | claim_due_scan_job (worker_id : String) (lease_ttl_seconds : Int)
  | renew_scan_job_lease (job_id : Uuid) (worker_id : String) (lease_ttl_seconds : Int)
  | mark_scan_job (job_id : Uuid) (worker_id : String) (mark : JobMark)
      (scan_run_id : Option Uuid)
  | create_scan_run (task : ScanAddressTask) (context : ScanRunContext) (worker_id : String)
      (started_at : Timestamp) (metadata : Metadata)
  | finish_scan_run (scan_run_id : Uuid) (finish : RunFinish)
  | finish_scan_job_and_run (job_id : Uuid) (worker_id : String) (mark : JobMark)
      (scan_run_id : Uuid) (finish : RunFinish)

namespace JobQuery

abbrev Answer : JobQuery → Type
  | .scan_run_context _ => ScanRunContext
  | .insert_scheduled_scan_job .. => Option ScanJob
  | .insert_retry_scan_job .. => Option ScanJob
  | .claim_due_scan_job .. => Option ScanJob
  | .renew_scan_job_lease .. => Bool
  | .mark_scan_job .. => Unit
  | .create_scan_run .. => ScanRun
  | .finish_scan_run .. => Unit
  | .finish_scan_job_and_run .. => Unit

/-- The statement carried out. -/
def run (now : Timestamp) (skipped : Uuid → Bool) (t : ScanTables) :
    (q : JobQuery) → AppResult q.Answer × ScanTables
  | .scan_run_context task => (t.scan_run_context task, t)
  | .insert_scheduled_scan_job candidate max_attempts next_attempt_at =>
    (.ok (t.insert_scheduled_scan_job now candidate max_attempts next_attempt_at).1,
      (t.insert_scheduled_scan_job now candidate max_attempts next_attempt_at).2)
  | .insert_retry_scan_job tenant_id address_id chain_id scan_run_id max_attempts next_attempt_at =>
    (.ok (t.insert_retry_scan_job now tenant_id address_id chain_id scan_run_id max_attempts
        next_attempt_at).1,
      (t.insert_retry_scan_job now tenant_id address_id chain_id scan_run_id max_attempts
        next_attempt_at).2)
  | .claim_due_scan_job worker_id lease_ttl_seconds =>
    (.ok (t.claim_due_scan_job now skipped worker_id lease_ttl_seconds).1,
      (t.claim_due_scan_job now skipped worker_id lease_ttl_seconds).2)
  | .renew_scan_job_lease job_id worker_id lease_ttl_seconds =>
    (.ok (t.renew_scan_job_lease now job_id worker_id lease_ttl_seconds).1,
      (t.renew_scan_job_lease now job_id worker_id lease_ttl_seconds).2)
  | .mark_scan_job job_id worker_id mark scan_run_id =>
    t.mark_scan_job now job_id worker_id mark scan_run_id
  | .create_scan_run task context worker_id started_at metadata =>
    t.create_scan_run now task context worker_id started_at metadata
  | .finish_scan_run scan_run_id finish => t.finish_scan_run now scan_run_id finish
  | .finish_scan_job_and_run job_id worker_id mark scan_run_id finish =>
    t.finish_scan_job_and_run now job_id worker_id mark scan_run_id finish

/-- What may become of the statement, at whatever time and with whatever rows locked by others. -/
def Fate (t : ScanTables) (q : JobQuery) (r : AppResult q.Answer) (u : ScanTables) : Prop :=
  ∃ now skipped, Foundation.Fate AppError.Database t (q.run now skipped t) r u

end JobQuery

end Storage

end CoinListener
