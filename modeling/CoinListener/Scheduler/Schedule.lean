import CoinListener.Foundation.Transaction
import CoinListener.Storage.JobQueue

/-! The schedule of scans: when each watched address is due, and the statements that claim due
addresses, enqueue their jobs and move them on. -/
namespace CoinListener.Scheduler
open Foundation Storage

/-! ### Tables -/

/-- When a row is due and when it was created. -/
def DueOrder : Type :=
  Timestamp ×ₗ Timestamp

instance : LinearOrder DueOrder :=
  letI : LinearOrder Timestamp := Int.instLinearOrder
  Prod.Lex.instLinearOrder Timestamp Timestamp

/-- What of a watched address its schedule rests on. `advances` counts how often it has been moved on
with a scan enqueued; it is not stored. -/
structure ScheduledAddress where
  id : Uuid
  tenant_id : Uuid
  chain_id : Uuid
  scan_interval_seconds : Int
  status : String
  next_scan_at : Option Timestamp
  last_scanned_at : Option Timestamp
  created_at : Timestamp
  advances : Nat
deriving DecidableEq

structure Schedule where
  watched_addresses : List ScheduledAddress
  scan_jobs : List ScanJob

namespace ScheduledAddress

def candidate (row : ScheduledAddress) : ScanAddressCandidate :=
  { id := row.id
    tenant_id := row.tenant_id
    chain_id := row.chain_id
    scan_interval_seconds := row.scan_interval_seconds }

/-- `MARK_CLAIMED_SCAN_ENQUEUED_QUERY`. -/
def moved_on (next_scan_at : Timestamp) (row : ScheduledAddress) : ScheduledAddress :=
  { row with next_scan_at := some next_scan_at, advances := row.advances + 1 }

/-- The order in which due addresses are claimed. -/
def due_order (row : ScheduledAddress) : DueOrder :=
  toLex (row.next_scan_at.getD 0, row.created_at)

end ScheduledAddress

/-! ### Changes -/

/-- A change of one row; the jobs of an address are deleted with it. -/
inductive ScheduleChange where
  | new_address (row : ScheduledAddress)
  | address (row : ScheduledAddress)
  | no_address (id : Uuid)
  | new_job (job : ScanJob)
  | requeued (address_id job_id retry_of_scan_run_id : Uuid) (now next_attempt_at : Timestamp)
      (max_attempts : Int)

/-- A row of the addresses, or the entry of an address in the index of active jobs. -/
inductive ScheduleKey where
  | address (id : Uuid)
  | active_job (address_id : Uuid)
deriving DecidableEq

namespace ScheduleChange

def apply : ScheduleChange → Schedule → Schedule
  | .new_address row, t => { t with watched_addresses := t.watched_addresses ++ [row] }
  | .address row, t =>
    { t with
      watched_addresses := Table.update (·.id == row.id) (fun _ => row) t.watched_addresses }
  | .no_address id, t =>
    { watched_addresses := t.watched_addresses.filter (·.id != id)
      scan_jobs := t.scan_jobs.filter (·.address_id != id) }
  | .new_job job, t => { t with scan_jobs := t.scan_jobs ++ [job] }
  | .requeued _ job_id retry_of_scan_run_id now next_attempt_at max_attempts, t =>
    { t with
      scan_jobs := Table.update (fun job => job.id == job_id && job.waiting)
        (ScanJob.requeued now next_attempt_at max_attempts retry_of_scan_run_id) t.scan_jobs }

/-- A scheduler has its address locked; a retry may insert its job beside one that has. -/
def keys : ScheduleChange → List ScheduleKey
  | .new_address row => [.address row.id]
  | .address row => [.address row.id]
  | .no_address id => [.address id]
  | .new_job job =>
    if job.retry_of_scan_run_id.isNone then [.address job.address_id, .active_job job.address_id]
    else [.active_job job.address_id]
  | .requeued address_id .. => [.active_job address_id]

end ScheduleChange

/-! ### Statements -/

inductive ScheduleStatement where
  | claim_one_due_scan_address_for_update (now : Timestamp)
  | insert_scheduled_scan_job (candidate : ScanAddressCandidate) (max_attempts : Int)
      (next_attempt_at : Timestamp)
  | mark_claimed_scan_enqueued (address_id : Uuid) (next_scan_at : Timestamp)
  | signal
  | insert_retry_scan_job (tenant_id address_id chain_id retry_of_scan_run_id : Uuid)
      (max_attempts : Int) (next_attempt_at : Timestamp)
  | finish_address_scan (address_id : Uuid) (last_scanned_at next_scan_at : Timestamp)
  | create_watched_address (tenant_id chain_id : Uuid) (scan_interval_seconds : Int)
      (status : String)
  | update_watched_address (id tenant_id chain_id : Uuid) (scan_interval_seconds : Int)
      (status : String)
  | ensure_watched_address_update (id tenant_id : Uuid)
  | delete_watched_address (id tenant_id : Uuid)

abbrev ScheduleStatement.Answer : ScheduleStatement → Type
  | .claim_one_due_scan_address_for_update _ => Option ScanAddressCandidate
  | .insert_scheduled_scan_job .. => Option ScanJob
  | .insert_retry_scan_job .. => Option ScanJob
  | .create_watched_address .. => Uuid
  | _ => Unit

/-- What a statement answers and does: rows it locks without a change, the changes, and how many
identifiers it uses up. -/
structure ScheduleEffect (α : Type) where
  answer : AppResult α
  reserved : List ScheduleKey := []
  log : List ScheduleChange := []
  new_ids : Nat := 0

namespace Schedule
variable (t : Schedule) (now : Timestamp) (next_id : Uuid)

/-- The queue alone. -/
def scan_tables : ScanTables :=
  { ScanTables.empty with scan_jobs := t.scan_jobs, next_id := next_id }

def address (id : Uuid) : Option ScheduledAddress :=
  t.watched_addresses.find? (·.id == id)

def tenant_address (id tenant_id : Uuid) : Option ScheduledAddress :=
  t.watched_addresses.find? fun row => row.id == id && row.tenant_id == tenant_id

/-- The conditions of `CLAIM_ONE_DUE_SCAN_ADDRESS_QUERY`, at the time the tick was started. -/
def is_due (tick : Timestamp) (row : ScheduledAddress) : Bool :=
  row.status == "active" && row.next_scan_at.any (· ≤ tick) &&
    !t.scan_jobs.any fun job => job.address_id == row.id && job.active

/-- The due address that comes first; those that others have locked are skipped. -/
def first_due (skipped : ScheduleKey → Bool) (tick : Timestamp) : Option ScheduledAddress :=
  (t.watched_addresses.filter fun row => t.is_due tick row && !skipped (.address row.id)).argmin
    ScheduledAddress.due_order

def claim_one_due_scan_address_for_update (skipped : ScheduleKey → Bool) (tick : Timestamp) :
    ScheduleEffect (Option ScanAddressCandidate) :=
  let row := t.first_due skipped tick
  { answer := .ok (row.map (·.candidate)), reserved := row.toList.map (ScheduleKey.address ·.id) }

def scan_job_foreign_key_violation : AppError :=
  .Database ("insert or update on table \"scan_jobs\" violates foreign key constraint " ++
    "\"scan_jobs_address_id_fkey\"")

/-- `INSERT_SCHEDULED_SCAN_JOB_QUERY`: another active job of the address is no error. -/
def insert_scheduled_scan_job (candidate : ScanAddressCandidate) (max_attempts : Int)
    (next_attempt_at : Timestamp) : ScheduleEffect (Option ScanJob) :=
  match ((t.scan_tables next_id).insert_scheduled_scan_job now candidate max_attempts
      next_attempt_at).1 with
  | none => { answer := .ok none }
  | some job =>
    if (t.address candidate.id).isNone then { answer := .error scan_job_foreign_key_violation }
    else { answer := .ok (some job), log := [.new_job job], new_ids := 1 }

def ensure_updated (row : Option ScheduledAddress) (change : ScheduledAddress → ScheduledAddress) :
    ScheduleEffect Unit :=
  match row with
  | some row => { answer := .ok (), log := [.address (change row)] }
  | none => { answer := .error (.NotFound "watched address") }

/-- `INSERT_RETRY_SCAN_JOB_QUERY`: an active job is taken over if it is still waiting. -/
def insert_retry_scan_job (tenant_id address_id chain_id retry_of_scan_run_id : Uuid)
    (max_attempts : Int) (next_attempt_at : Timestamp) : ScheduleEffect (Option ScanJob) :=
  let job := ((t.scan_tables next_id).insert_retry_scan_job now tenant_id address_id chain_id
    retry_of_scan_run_id max_attempts next_attempt_at).1
  match (t.scan_tables next_id).active_job address_id, job with
  | _, none => { answer := .ok none }
  | some active, some job =>
    { answer := .ok (some job)
      log := [.requeued address_id active.id retry_of_scan_run_id now next_attempt_at max_attempts] }
  | none, some job =>
    if (t.address address_id).isNone then { answer := .error scan_job_foreign_key_violation }
    else { answer := .ok (some job), log := [.new_job job], new_ids := 1 }

/-- A new address is due at once. -/
def new_address (tenant_id chain_id : Uuid) (scan_interval_seconds : Int) (status : String) :
    ScheduledAddress :=
  { id := next_id
    tenant_id := tenant_id
    chain_id := chain_id
    scan_interval_seconds := scan_interval_seconds
    status := status
    next_scan_at := some now
    last_scanned_at := none
    created_at := now
    advances := 0 }

/-- What a statement answers and does. `skipped` are the keys that others hold. -/
def effect (skipped : ScheduleKey → Bool) :
    (statement : ScheduleStatement) → ScheduleEffect statement.Answer
  | .claim_one_due_scan_address_for_update tick =>
    t.claim_one_due_scan_address_for_update skipped tick
  | .insert_scheduled_scan_job candidate max_attempts next_attempt_at =>
    t.insert_scheduled_scan_job now next_id candidate max_attempts next_attempt_at
  | .mark_claimed_scan_enqueued address_id next_scan_at =>
    ensure_updated (t.address address_id) (ScheduledAddress.moved_on next_scan_at)
  | .signal => { answer := .ok () }
  | .insert_retry_scan_job tenant_id address_id chain_id retry_of max_attempts next_attempt_at =>
    t.insert_retry_scan_job now next_id tenant_id address_id chain_id retry_of max_attempts
      next_attempt_at
  | .finish_address_scan address_id last_scanned_at next_scan_at =>
    ensure_updated (t.address address_id) fun row =>
      { row with last_scanned_at := some last_scanned_at, next_scan_at := some next_scan_at }
  | .create_watched_address tenant_id chain_id scan_interval_seconds status =>
    { answer := .ok next_id
      log := [.new_address (new_address now next_id tenant_id chain_id scan_interval_seconds status)]
      new_ids := 1 }
  | .update_watched_address id tenant_id chain_id scan_interval_seconds status =>
    ensure_updated (t.tenant_address id tenant_id) fun row =>
      { row with
        chain_id := chain_id
        scan_interval_seconds := scan_interval_seconds
        status := status }
  | .ensure_watched_address_update id tenant_id =>
    { answer := .ok ()
      log := (t.tenant_address id tenant_id).toList.map fun row =>
        .address { row with status := "active" } }
  | .delete_watched_address id tenant_id =>
    match t.tenant_address id tenant_id with
    | some row => { answer := .ok (), log := [.no_address row.id] }
    | none => { answer := .error (.NotFound "watched address") }

end Schedule

def schedule_schema : Transaction.Schema Schedule ScheduleChange ScheduleKey AppError
    ScheduleStatement ScheduleStatement.Answer where
  apply := ScheduleChange.apply
  keys := ScheduleChange.keys
  effect skipped now next_id t statement :=
    let effect := t.effect now next_id skipped statement
    { answer := effect.answer
      locks := effect.reserved ++ effect.log.flatMap ScheduleChange.keys
      log := effect.log
      next_id := next_id + effect.new_ids }
  locked _ hc _ hk := List.mem_append_right _ (List.mem_flatMap_of_mem hc hk)
  next_id_le := Nat.le_add_right ..

/-! ### Calls -/

abbrev ScheduleProg (α : Type) :=
  Prog (Transaction.Op ScheduleStatement) (Transaction.Op.Answer ScheduleStatement.Answer) AppError α

def schedule_begin : ScheduleProg Unit :=
  Prog.perform (.begin : Transaction.Op ScheduleStatement)

def schedule_commit : ScheduleProg Unit :=
  Prog.perform (.commit : Transaction.Op ScheduleStatement)

def schedule_rollback : ScheduleProg Unit :=
  Prog.perform (.rollback : Transaction.Op ScheduleStatement)

def schedule_statement (statement : ScheduleStatement) : ScheduleProg statement.Answer :=
  Prog.perform (Transaction.Op.ask statement)

def next_scan_at_from (now : Timestamp) (scan_interval_seconds : Int) : Timestamp :=
  now + scan_interval_seconds

section Tick
variable (job_max_attempts : Int) (now : Timestamp)

/-- Claims an address and enqueues its scan; tells whether there is a new job, or nothing if no
address is due. -/
def claim_and_enqueue : ScheduleProg (Option Bool) := do
  let candidate ← schedule_statement (.claim_one_due_scan_address_for_update now)
  match candidate with
  | none => return none
  | some candidate => do
    let inserted_job ← schedule_statement
      (.insert_scheduled_scan_job candidate job_max_attempts now)
    schedule_statement (.mark_claimed_scan_enqueued candidate.id
      (next_scan_at_from now candidate.scan_interval_seconds))
    return some inserted_job.isSome

/-- One round of a tick. A transaction that is dropped is rolled back. -/
def enqueue_next : ScheduleProg (Option Bool) := do
  schedule_begin
  let claimed ← (claim_and_enqueue job_max_attempts now).attempt
  match claimed with
  | .error e => do
    let _ ← schedule_rollback.attempt
    Prog.fail e
  | .ok none => do
    schedule_rollback
    return none
  | .ok (some inserted) => do
    schedule_commit
    return some inserted

/-- A signal that fails is logged. -/
def enqueue_up_to : Nat → Nat → ScheduleProg Nat
  | 0, enqueued => return enqueued
  | rounds + 1, enqueued => do
    let claimed ← enqueue_next job_max_attempts now
    match claimed with
    | none => return enqueued
    | some false => enqueue_up_to rounds enqueued
    | some true => do
      let _ ← (schedule_statement .signal).attempt
      enqueue_up_to rounds (enqueued + 1)

def enqueue_due_addresses (batch_size : Int) : ScheduleProg Nat :=
  enqueue_up_to job_max_attempts now batch_size.toNat 0

end Tick

/-- A call of one statement. -/
def schedule_call (statement : ScheduleStatement) : ScheduleProg Unit :=
  (Transaction.transaction (schedule_statement statement)).bind fun _ => .done ()

/-- What schedulers, workers and the API do to the schedule. Of a retry only its job matters here. -/
inductive ScheduleRequest : ScheduleProg Unit → Prop where
  | tick (job_max_attempts : Int) (now : Timestamp) (batch_size : Int) :
    ScheduleRequest ((enqueue_due_addresses job_max_attempts now batch_size).bind fun _ => .done ())
  | retry (tenant_id address_id chain_id retry_of_scan_run_id : Uuid) (max_attempts : Int)
    (next_attempt_at : Timestamp) : ScheduleRequest (schedule_call (.insert_retry_scan_job tenant_id
      address_id chain_id retry_of_scan_run_id max_attempts next_attempt_at))
  | finish (address_id : Uuid) (last_scanned_at next_scan_at : Timestamp) :
    ScheduleRequest (schedule_call (.finish_address_scan address_id last_scanned_at next_scan_at))
  | create (tenant_id chain_id : Uuid) (scan_interval_seconds : Int) (status : String) :
    ScheduleRequest (schedule_call (.create_watched_address tenant_id chain_id scan_interval_seconds
      status))
  | update (id tenant_id chain_id : Uuid) (scan_interval_seconds : Int) (status : String) :
    ScheduleRequest (schedule_call (.update_watched_address id tenant_id chain_id
      scan_interval_seconds status))
  | ensure (id tenant_id : Uuid) :
    ScheduleRequest (schedule_call (.ensure_watched_address_update id tenant_id))
  | delete (id tenant_id : Uuid) :
    ScheduleRequest (schedule_call (.delete_watched_address id tenant_id))

/-! ### What workers do to jobs -/

/-- A job keeps its address, it does not become active again, and a retry of it is not forgotten. -/
structure GoesOn (job job' : ScanJob) : Prop where
  address_id : job'.address_id = job.address_id
  scheduled : job'.retry_of_scan_run_id = none → job.retry_of_scan_run_id = none
  active : job'.active = true → job.active = true

def ScheduleEdit (t u : Schedule) : Prop :=
  u.watched_addresses = t.watched_addresses ∧
    Table.Moves GoesOn (fun _ => False) t.scan_jobs u.scan_jobs

abbrev ScheduleWorld (W : Type) := Transaction.World Schedule ScheduleChange ScheduleKey W

abbrev ScheduleStep {W : Type} [DecidableEq W] :
    ScheduleWorld W × (W → ScheduleProg Unit) → ScheduleWorld W × (W → ScheduleProg Unit) → Prop :=
  Prog.Crew (Transaction.Carried schedule_schema AppError.Database)
    (Transaction.Edited ScheduleEdit) (Transaction.Launch ScheduleRequest)

end CoinListener.Scheduler
