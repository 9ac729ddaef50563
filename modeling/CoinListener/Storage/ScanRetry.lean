import CoinListener.Storage.JobQueue
import CoinListener.Foundation.Crew

/-! Retrying a scan run: one transaction that claims the run, enqueues a job and notes it on the run.

A transaction keeps its writes to itself until it commits, and the rows it has written locked. -/
namespace CoinListener
open Foundation

namespace Metadata

/-- `metadata ? key`. -/
def has (key : String) (metadata : Metadata) : Bool :=
  metadata.any (·.1 == key)

/-- `metadata - key`. -/
def remove (key : String) (metadata : Metadata) : Metadata :=
  metadata.filter (·.1 != key)

/-- `metadata->>key`, where a text is stored. -/
def text (key : String) (metadata : Metadata) : Option String :=
  (metadata.find? (·.1 == key)).bind (·.2.as_str)

/-- Merging never takes a key away. -/
theorem has_merge {key : String} {left : Metadata} (right : Metadata)
    (h : left.has key = true) : (left.merge right).has key = true := by
  obtain ⟨member, hmember, hkey⟩ := List.any_eq_true.mp h
  by_cases hright : right.all (·.1 != member.1) = true
  · exact List.any_eq_true.mpr
      ⟨member, List.mem_append_left _ (List.mem_filter.mpr ⟨hmember, hright⟩), hkey⟩
  · rw [Bool.not_eq_true, List.all_eq_false] at hright
    obtain ⟨other, hother, hsame⟩ := hright
    refine List.any_eq_true.mpr ⟨other, List.mem_append_right _ hother, ?_⟩
    have hequal : other.1 = member.1 := by simpa using hsame
    simpa [hequal] using hkey

theorem has_merge_right {key : String} (left : Metadata) {right : Metadata}
    (h : right.has key = true) : (left.merge right).has key = true := by
  obtain ⟨member, hmember, hkey⟩ := List.any_eq_true.mp h
  exact List.any_eq_true.mpr ⟨member, List.mem_append_right _ hmember, hkey⟩

end Metadata

namespace Storage

/-! ### The retry notes on a run -/

section Notes
variable (timestamptz : String → Option Timestamp)

/-- The run may be claimed for a retry: never requested before, or requested but left behind. A text
that is no timestamp makes the statement fail. -/
def retry_claimable (stale_claim_before : Timestamp) (metadata : Metadata) : Bool :=
  !metadata.has "retry_task_id" ||
    (metadata.has "retry_claimed_at" && !metadata.has "retry_enqueued_at" &&
      ((metadata.text "retry_claimed_at").bind timestamptz).any (· ≤ stale_claim_before))

def claimed_for_retry (now : Timestamp) (task_id claimed_at : String) (run : ScanRun) : ScanRun :=
  { run with
    metadata := (run.metadata.remove "retry_enqueue_error").merge
      [("retry_task_id", .str task_id), ("retry_claimed_at", .str claimed_at)]
    updated_at := now }

def enqueued_for_retry (now : Timestamp) (job_id enqueued_at : String) (run : ScanRun) : ScanRun :=
  { run with
    metadata := (run.metadata.remove "retry_enqueue_error").merge
      [("retry_task_id", .str job_id), ("retry_claimed_at", .str enqueued_at),
        ("retry_enqueued_at", .str enqueued_at)]
    updated_at := now }

/-- The notes of a retry that went through. -/
def Enqueued (metadata : Metadata) : Prop :=
  metadata.has "retry_task_id" = true ∧ metadata.has "retry_enqueued_at" = true

variable {timestamptz}

/-- They rule out another retry. -/
theorem Enqueued.not_claimable {stale : Timestamp} {metadata : Metadata} (h : Enqueued metadata) :
    retry_claimable timestamptz stale metadata = false := by
  simp [retry_claimable, h.1, h.2]

theorem Enqueued.merge {metadata : Metadata} (h : Enqueued metadata) (right : Metadata) :
    Enqueued (metadata.merge right) :=
  ⟨Metadata.has_merge right h.1, Metadata.has_merge right h.2⟩

theorem enqueued_for_retry_enqueued (now : Timestamp) (job_id enqueued_at : String)
    (run : ScanRun) : Enqueued (enqueued_for_retry now job_id enqueued_at run).metadata :=
  ⟨Metadata.has_merge_right _ rfl, Metadata.has_merge_right _ rfl⟩

end Notes

/-! ### Transactions -/

/-- What a transaction has written but not committed. -/
structure Writes where
  run : Option ScanRun
  job : Option ScanJob

def Writes.empty : Writes := ⟨none, none⟩

/-- The tables once the writes are committed. -/
def ScanTables.commit (t : ScanTables) (writes : Writes) : ScanTables :=
  { t with
    scan_runs := match writes.run with
      | some run => Table.update (fun row => row.id == run.id) (fun _ => run) t.scan_runs
      | none => t.scan_runs
    scan_jobs := match writes.job with
      | some job =>
        if t.scan_jobs.any (·.id == job.id) then
          Table.update (fun row => row.id == job.id) (fun _ => job) t.scan_jobs
        else t.scan_jobs ++ [job]
      | none => t.scan_jobs }

/-- The committed tables and the open transaction of each caller. `calling` is the run its call is
about; `accepted` are the runs of the calls whose commit was answered, `touched` the calls that have
changed a job or a run, `lost` those whose commit took effect without an answer. -/
structure RetryState (W : Type) where
  tables : ScanTables
  writes : W → Writes
  calling : W → Uuid
  accepted : List Uuid
  touched : W → Prop
  lost : W → Prop

structure RetryScanRunRow where
  tenant_id : Uuid
  address_id : Uuid
  chain_id : Uuid
  status : ScanRunStatus
deriving DecidableEq

/-- The statements of a call. -/
inductive RetryStatement where
  | begin
  | select_retry_scan_run (id tenant_id : Uuid)
  | claim_retry_scan_run (id tenant_id : Uuid) (task_id claimed_at : String)
      (stale_claim_before : Timestamp)
  | insert_retry_scan_job (tenant_id address_id chain_id retry_of_scan_run_id : Uuid)
      (max_attempts : Int) (next_attempt_at : Timestamp)
  | mark_retry_scan_run_enqueued (id tenant_id : Uuid) (job_id enqueued_at : String)
  | commit
  | rollback

abbrev RetryStatement.Answer : RetryStatement → Type
  | .begin => Unit
  | .select_retry_scan_run .. => Option RetryScanRunRow
  | .claim_retry_scan_run .. => Option Uuid
  | .insert_retry_scan_job .. => Option ScanJob
  | .mark_retry_scan_run_enqueued .. => Unit
  | .commit => Unit
  | .rollback => Unit

namespace RetryState
variable {W : Type} [DecidableEq W] (s : RetryState W) (w : W)

def write (writes : Writes) : RetryState W :=
  { s with writes := Function.update s.writes w writes }

/-- The run, if it belongs to the tenant and its address is active. -/
def select_retry_scan_run (id tenant_id : Uuid) : Option RetryScanRunRow :=
  (s.tables.scan_runs.find? fun run => run.id == id && run.tenant_id == tenant_id &&
    s.tables.watched_addresses.any fun address => address.id == run.address_id &&
      address.tenant_id == run.tenant_id && address.chain_id == run.chain_id &&
        address.status == "active").map fun run =>
    { tenant_id := run.tenant_id, address_id := run.address_id, chain_id := run.chain_id,
      status := run.status }

def claim_retry_scan_run (timestamptz : String → Option Timestamp) (now : Timestamp)
    (id tenant_id : Uuid) (task_id claimed_at : String) (stale_claim_before : Timestamp) :
    Option Uuid × RetryState W :=
  match s.tables.scan_runs.find? fun run => run.id == id && run.tenant_id == tenant_id &&
      retry_claimable timestamptz stale_claim_before run.metadata with
  | some run => (some run.id, s.write w
      { s.writes w with run := some (claimed_for_retry now task_id claimed_at run) })
  | none => (none, s)

/-- The new identifier is used up even if the transaction is rolled back. -/
def insert_retry_scan_job (now : Timestamp)
    (tenant_id address_id chain_id retry_of_scan_run_id : Uuid) (max_attempts : Int)
    (next_attempt_at : Timestamp) : Option ScanJob × RetryState W :=
  match s.tables.active_job address_id with
  | some job =>
    if job.waiting then
      let job := job.requeued now next_attempt_at max_attempts retry_of_scan_run_id
      (some job, s.write w { s.writes w with job := some job })
    else (none, s)
  | none =>
    let job := s.tables.new_job now tenant_id address_id chain_id max_attempts next_attempt_at
      (some retry_of_scan_run_id)
    (some job, { s.write w { s.writes w with job := some job } with
      tables := { s.tables with next_id := s.tables.next_id + 1 } })

/-- The transaction sees its own version of the run. -/
def mark_retry_scan_run_enqueued (now : Timestamp) (id tenant_id : Uuid)
    (job_id enqueued_at : String) : RetryState W :=
  s.write w { s.writes w with
    run := (s.writes w).run.map fun run =>
      if run.id == id && run.tenant_id == tenant_id then
        enqueued_for_retry now job_id enqueued_at run
      else run }

def commit : RetryState W :=
  let after := s.tables.commit (s.writes w)
  { s.write w .empty with
    tables := after
    touched := Function.update s.touched w (s.touched w ∨
      after.scan_jobs ≠ s.tables.scan_jobs ∨ after.scan_runs ≠ s.tables.scan_runs) }

/-- No other transaction has the run locked. -/
def RunFree (id : Uuid) : Prop :=
  ∀ v, v ≠ w → ∀ run, (s.writes v).run = some run → run.id ≠ id

/-- No other transaction has a job of the address locked. -/
def JobFree (address_id : Uuid) : Prop :=
  ∀ v, v ≠ w → ∀ job, (s.writes v).job = some job → job.address_id ≠ address_id

/-- The rows that open transactions have locked are the same in both tables, and their addresses have
the same active jobs. -/
def RespectsLocks (u : ScanTables) : Prop :=
  ∀ v, (∀ run, (s.writes v).run = some run → ∀ row : ScanRun, row.id = run.id →
      (row ∈ u.scan_runs ↔ row ∈ s.tables.scan_runs)) ∧
    ∀ job, (s.writes v).job = some job → ∀ row : ScanJob, row.active = true →
      row.address_id = job.address_id → (row ∈ u.scan_jobs ↔ row ∈ s.tables.scan_jobs)

end RetryState

section Semantics
variable {W : Type} [DecidableEq W] (timestamptz : String → Option Timestamp)

/-- The locks a statement waits for. -/
def RetryStatement.Free (s : RetryState W) (w : W) : RetryStatement → Prop
  | .claim_retry_scan_run id .. => s.RunFree w id
  | .insert_retry_scan_job _ address_id .. => s.JobFree w address_id
  | _ => True

/-- The statement carried out. -/
def RetryStatement.run (now : Timestamp) (s : RetryState W) (w : W) :
    (op : RetryStatement) → op.Answer × RetryState W
  | .begin => ((), s.write w .empty)
  | .select_retry_scan_run id tenant_id => (s.select_retry_scan_run id tenant_id, s)
  | .claim_retry_scan_run id tenant_id task_id claimed_at stale_claim_before =>
    s.claim_retry_scan_run w timestamptz now id tenant_id task_id claimed_at stale_claim_before
  | .insert_retry_scan_job tenant_id address_id chain_id scan_run_id max_attempts next_attempt_at =>
    s.insert_retry_scan_job w now tenant_id address_id chain_id scan_run_id max_attempts
      next_attempt_at
  | .mark_retry_scan_run_enqueued id tenant_id job_id enqueued_at =>
    ((), s.mark_retry_scan_run_enqueued w now id tenant_id job_id enqueued_at)
  | .commit => ((), { s.commit w with accepted := s.accepted ++ [s.calling w] })
  | .rollback => ((), s.write w .empty)

/-- What may become of a statement. A refused one has no effect, a refused commit is a rollback; and
a commit may take effect while its answer is lost. -/
inductive RetryCarried (w : W) (s : RetryState W) :
    (op : RetryStatement) → AppResult op.Answer → RetryState W → Prop where
  | answered {op} (now : Timestamp) (hfree : op.Free s w) :
    RetryCarried w s op (.ok (op.run timestamptz now s w).1) (op.run timestamptz now s w).2
  | refused {op} (message : String) (hop : op ≠ .rollback) :
    RetryCarried w s op (.error (.Database message)) s
  | commit_refused (message : String) :
    RetryCarried w s .commit (.error (.Database message)) (s.write w .empty)
  | commit_lost (message : String) :
    RetryCarried w s .commit (.error (.Database message))
      { s.commit w with lost := Function.update s.lost w True }

/-- What schedulers, workers and edits do to the tables meanwhile: they wait for locked rows. -/
inductive RetryOthers : RetryState W → RetryState W → Prop where
  | statement {s u} (q : JobQuery) (r : AppResult q.Answer) (h : q.Fate s.tables r u)
    (hlocks : s.RespectsLocks u) : RetryOthers s { s with tables := u }
  | edit {s} (chains : List Chain) (watched_addresses : List WatchedAddress) :
    RetryOthers s { s with
      tables := { s.tables with chains := chains, watched_addresses := watched_addresses } }

end Semantics

/-! ### The call -/

abbrev RetryProg (α : Type) := Prog RetryStatement RetryStatement.Answer AppError α

def retry_statement (op : RetryStatement) : RetryProg op.Answer := Prog.perform op

def scan_run_status_allows_retry (status : ScanRunStatus) : Bool :=
  status = .failed || status = .unsupported

def build_retry_scan_task (task_id tenant_id address_id chain_id : Uuid) (now : Timestamp) :
    ScanAddressTask :=
  { task_id := task_id
    address_id := address_id
    tenant_id := tenant_id
    chain_id := chain_id
    attempt := 1
    enqueued_at := now }

section Call
variable (to_rfc3339 : Timestamp → String)

def retry_scan_run_job_in_transaction (tenant_id id : Uuid) (now stale_claim_before : Timestamp)
    (max_attempts : Int) (new_task_id : Uuid) : RetryProg ScanJob := do
  let row ← retry_statement (.select_retry_scan_run id tenant_id)
  let row ← Prog.lift (required row (.NotFound "scan run"))
  Prog.lift (ensure (scan_run_status_allows_retry row.status)
    (.Validation "only failed or unsupported scan runs can be retried"))
  let task := build_retry_scan_task new_task_id row.tenant_id row.address_id row.chain_id now
  let claimed ← retry_statement (.claim_retry_scan_run id tenant_id (Uuid.to_string task.task_id)
    (to_rfc3339 now) stale_claim_before)
  Prog.lift (ensure claimed.isSome (.Validation "scan run retry has already been requested"))
  let job ← retry_statement (.insert_retry_scan_job row.tenant_id row.address_id row.chain_id id
    max_attempts now)
  let job ← Prog.lift (required job (.Validation "scan job already exists for address"))
  retry_statement (.mark_retry_scan_run_enqueued id tenant_id (Uuid.to_string job.id)
    (to_rfc3339 now))
  return job

/-- A transaction that is dropped is rolled back. -/
def retry_scan_run_job (tenant_id id : Uuid) (now stale_claim_before : Timestamp)
    (max_attempts : Int) (new_task_id : Uuid) : RetryProg ScanJob := do
  retry_statement .begin
  let result ← (retry_scan_run_job_in_transaction to_rfc3339 tenant_id id now stale_claim_before
    max_attempts new_task_id).attempt
  match result with
  | .error error => do
    retry_statement .rollback
    Prog.fail error
  | .ok job => do
    retry_statement .commit
    return job

/-- A caller makes a new call; what is left of its last transaction is gone. -/
def RetryLaunch {W : Type} [DecidableEq W] (w : W) (s : RetryState W) (p : RetryProg ScanJob)
    (t : RetryState W) : Prop :=
  ∃ tenant_id id now stale_claim_before max_attempts new_task_id,
    p = retry_scan_run_job to_rfc3339 tenant_id id now stale_claim_before max_attempts new_task_id ∧
      t = { s.write w .empty with
        calling := Function.update s.calling w id
        touched := Function.update s.touched w False
        lost := Function.update s.lost w False }

end Call

/-- One step of any caller or of anybody else. -/
abbrev RetryStep {W : Type} [DecidableEq W] (to_rfc3339 : Timestamp → String)
    (timestamptz : String → Option Timestamp) :
    RetryState W × (W → RetryProg ScanJob) → RetryState W × (W → RetryProg ScanJob) → Prop :=
  Prog.Crew (RetryCarried timestamptz) RetryOthers (RetryLaunch to_rfc3339)

/-- No tables filled and no call made yet. -/
def retry_start {W : Type} : RetryState W × (W → RetryProg ScanJob) :=
  ({ tables := .empty, writes := fun _ => .empty, calling := fun _ => 0, accepted := [],
     touched := fun _ => False, lost := fun _ => False }, fun _ => .fail (.NotFound "scan run"))

end Storage

end CoinListener
