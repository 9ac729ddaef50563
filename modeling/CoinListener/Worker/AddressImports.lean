import CoinListener.Foundation.Crew
import CoinListener.Storage.AddressImports

/-! Workers that carry out import tasks, while users create and cancel them. -/
namespace CoinListener.Worker
open Foundation Storage

/-! ### Statements -/

/-- The counts that a task is completed on are not part of the statement. -/
inductive ImportQuery where
  | create_watched_address_import (tenant_id : Uuid) (request : CreateWatchedAddressImportRequest)
      (plan : ImportCreatePlan)
  | claim_next_watched_address_import (now : Timestamp) (worker_id : String)
  | renew_watched_address_import_lock (tenant_id id : Uuid) (worker_id : String) (now : Timestamp)
  | pending_import_attempts (tenant_id task_id : Uuid) (worker_id : String) (limit : Int)
  | validate_watched_address_create_request (request : CreateWatchedAddressRequest)
  | create_watched_address_for_import_attempt (tenant_id task_id : Uuid) (worker_id : String)
      (attempt_id : Uuid) (request : CreateWatchedAddressRequest) (asset_ids : List Uuid)
  | mark_import_attempt_failed_with_lock (tenant_id attempt_id task_id : Uuid)
      (worker_id error_code error_message : String)
  | import_counts (tenant_id task_id : Uuid)
  | write_import_task_counts (tenant_id task_id : Uuid) (counts : ImportCounts)
  | pending_import_attempt_exists (tenant_id task_id : Uuid)
  | complete_import (tenant_id task_id : Uuid) (status : ImportTaskStatus) (now : Timestamp)
      (counts : ImportCounts)
  | cancel_watched_address_import (tenant_id id : Uuid)

abbrev ImportQuery.Answer : ImportQuery → Type
  | .create_watched_address_import .. => WatchedAddressImportTask
  | .claim_next_watched_address_import .. => Option WatchedAddressImportTask
  | .renew_watched_address_import_lock .. => Nat
  | .pending_import_attempts .. => List WatchedAddressImportAttempt
  | .validate_watched_address_create_request .. => List Uuid
  | .create_watched_address_for_import_attempt .. => WatchedAddressResponse
  | .mark_import_attempt_failed_with_lock .. => Nat
  | .import_counts .. => ImportCounts
  | .write_import_task_counts .. => Option WatchedAddressImportTask
  | .pending_import_attempt_exists .. => Bool
  | .complete_import .. => Option WatchedAddressImportTask
  | .cancel_watched_address_import .. => WatchedAddressImportTask

inductive ImportStatement where
  | db (q : ImportQuery)
  | utc_now

abbrev ImportStatement.Answer : ImportStatement → Type
  | .db q => q.Answer
  | .utc_now => Timestamp

abbrev ImportProg (α : Type) := Prog ImportStatement ImportStatement.Answer AppError α

def import_query (q : ImportQuery) : ImportProg q.Answer :=
  Prog.perform (.db q : ImportStatement)

/-! ### Programs -/

def ADDRESS_IMPORT_ROW_BATCH_SIZE : Int := 50

def create_watched_address_import (tenant_id : Uuid) (request : CreateWatchedAddressImportRequest) :
    ImportProg WatchedAddressImportTask := do
  Prog.lift (validate_import_create_request request)
  let plan ← Prog.lift (import_create_plan request)
  import_query (.create_watched_address_import tenant_id request plan)

def cancel_watched_address_import (tenant_id id : Uuid) : ImportProg WatchedAddressImportTask :=
  import_query (.cancel_watched_address_import tenant_id id)

def renew_watched_address_import_lock (tenant_id task_id : Uuid) (worker_id : String)
    (now : Timestamp) : ImportProg Unit := do
  let rows_affected ← import_query (.renew_watched_address_import_lock tenant_id task_id worker_id
    now)
  Prog.lift (ensure (rows_affected ≠ 0) (.NotFound "watched address import"))

def create_watched_address_for_import_attempt (tenant_id task_id : Uuid) (worker_id : String)
    (attempt_id : Uuid) (request : CreateWatchedAddressRequest) :
    ImportProg WatchedAddressResponse := do
  let asset_ids ← import_query (.validate_watched_address_create_request request)
  import_query (.create_watched_address_for_import_attempt tenant_id task_id worker_id attempt_id
    request asset_ids)

def ensure_import_attempt_updated (rows_affected : Nat) : AppResult Unit :=
  ensure (rows_affected ≠ 0) (.NotFound "watched address import attempt")

def mark_import_attempt_failed_with_lock (tenant_id attempt_id task_id : Uuid)
    (worker_id error_code error_message : String) : ImportProg Unit := do
  let rows_affected ← import_query (.mark_import_attempt_failed_with_lock tenant_id attempt_id
    task_id worker_id error_code error_message)
  Prog.lift (ensure_import_attempt_updated rows_affected)

/-- One statement of the source, which reads the counts when it begins. -/
def refresh_import_task_counts (tenant_id task_id : Uuid) :
    ImportProg WatchedAddressImportTask := do
  let counts ← import_query (.import_counts tenant_id task_id)
  let task ← import_query (.write_import_task_counts tenant_id task_id counts)
  Prog.lift (required task (.NotFound "watched address import"))

/-- How a task ends. -/
def next_status (counts : ImportCounts) : ImportTaskStatus :=
  if counts.success_rows = 0 ∧ counts.failed_rows > 0 then .failed else .completed

def complete_import_if_finished (tenant_id task_id : Uuid) (now : Timestamp) :
    ImportProg WatchedAddressImportTask := do
  let task ← refresh_import_task_counts tenant_id task_id
  if task.status ≠ .running then return task
  else do
    let has_pending_attempts ← import_query (.pending_import_attempt_exists tenant_id task_id)
    if has_pending_attempts then return task
    else do
      let completed ← import_query (.complete_import tenant_id task_id
        (next_status task.toImportCounts) now task.toImportCounts)
      return completed.getD task

def import_attempt_request (task : WatchedAddressImportTask)
    (attempt : WatchedAddressImportAttempt) : CreateWatchedAddressRequest :=
  { tenant_id := some task.tenant_id
    chain_id := attempt.chain_id
    address := attempt.address
    label := attempt.label
    priority := attempt.priority.getD task.priority
    scan_interval_seconds := attempt.scan_interval_seconds.getD task.scan_interval_seconds
    transfer_filter_enabled := attempt.transfer_filter_enabled.getD task.transfer_filter_enabled
    balance_change_filter_enabled :=
      attempt.balance_change_filter_enabled.getD task.balance_change_filter_enabled
    status := attempt.status.getD task.address_status
    asset_ids := attempt.asset_ids }

/-- The body of the loop over the attempts. -/
def process_import_attempt (worker_id : String) (task : WatchedAddressImportTask)
    (attempt : WatchedAddressImportAttempt) : ImportProg (List Unit) := do
  let now ← Prog.perform (.utc_now : ImportStatement)
  renew_watched_address_import_lock task.tenant_id task.id worker_id now
  let created ← (create_watched_address_for_import_attempt task.tenant_id task.id worker_id
    attempt.attempt_id (import_attempt_request task attempt)).attempt
  match created with
  | .ok _ => return []
  | .error error => do
    mark_import_attempt_failed_with_lock task.tenant_id attempt.attempt_id task.id worker_id
      "create_failed" error.to_string
    return []

def process_one_address_import_task (worker_id : String) (now : Timestamp) : ImportProg Bool := do
  let claimed ← import_query (.claim_next_watched_address_import now worker_id)
  match claimed with
  | none => return false
  | some task => do
    renew_watched_address_import_lock task.tenant_id task.id worker_id now
    let attempts ← import_query (.pending_import_attempts task.tenant_id task.id worker_id
      ADDRESS_IMPORT_ROW_BATCH_SIZE)
    let _ ← Prog.forEach (process_import_attempt worker_id task) attempts
    let _ ← refresh_import_task_counts task.tenant_id task.id
    let _ ← complete_import_if_finished task.tenant_id task.id now
    return true

/-! ### The system -/

/-- The tables, and history: the addresses created so far, each with its attempt. -/
structure ImportWorld where
  tables : ImportTables
  created : List (Uuid × Uuid)

namespace ImportWorld
variable (s : ImportWorld)

/-- A transaction that fails is rolled back. -/
def committed {α : Type} (result : AppResult (α × ImportTables)) : AppResult α × ImportWorld :=
  match result with
  | .ok (a, tables) => (.ok a, { s with tables := tables })
  | .error error => (.error error, s)

/-- The statement carried out at this time of the database, which skips these tasks as locked.
One that fails changes nothing. -/
def query (now : Timestamp) (skipped : Uuid → Bool) :
    (q : ImportQuery) → AppResult q.Answer × ImportWorld
  | .create_watched_address_import tenant_id request plan =>
    s.committed (s.tables.create_watched_address_import now tenant_id request plan)
  | .claim_next_watched_address_import now worker_id =>
    let (claimed, tables) := s.tables.claim_next_watched_address_import now worker_id skipped
    (.ok claimed, { s with tables := tables })
  | .renew_watched_address_import_lock tenant_id id worker_id now =>
    let (rows_affected, tables) :=
      s.tables.renew_watched_address_import_lock tenant_id id worker_id now
    (.ok rows_affected, { s with tables := tables })
  | .pending_import_attempts tenant_id task_id worker_id limit =>
    (.ok (s.tables.pending_import_attempts tenant_id task_id worker_id limit), s)
  | .validate_watched_address_create_request request =>
    (s.tables.addresses.validate_watched_address_create_request request, s)
  | .create_watched_address_for_import_attempt tenant_id task_id worker_id attempt_id request
      asset_ids =>
    match s.tables.create_watched_address_for_import_attempt tenant_id task_id worker_id attempt_id
        request asset_ids with
    | .ok (response, tables) =>
      (.ok response, { tables := tables, created := s.created ++ [(attempt_id, response.id)] })
    | .error error => (.error error, s)
  | .mark_import_attempt_failed_with_lock tenant_id attempt_id task_id worker_id error_code
      error_message =>
    let (rows_affected, tables) := s.tables.mark_import_attempt tenant_id attempt_id (some task_id)
      (some worker_id) (ImportTables.failed error_code error_message) fun _ => rfl
    (.ok rows_affected, { s with tables := tables })
  | .import_counts tenant_id task_id => (.ok (s.tables.import_counts tenant_id task_id), s)
  | .write_import_task_counts tenant_id task_id counts =>
    let (task, tables) := s.tables.write_import_task_counts tenant_id task_id counts
    (.ok task, { s with tables := tables })
  | .pending_import_attempt_exists tenant_id task_id =>
    (.ok (s.tables.pending_import_attempt_exists tenant_id task_id), s)
  | .complete_import tenant_id task_id status now _ =>
    let (task, tables) := s.tables.complete_import tenant_id task_id status now
    (.ok task, { s with tables := tables })
  | .cancel_watched_address_import tenant_id id =>
    s.committed (s.tables.cancel_watched_address_import now tenant_id id)

end ImportWorld

/-- What may become of a statement under a condition. -/
inductive ImportCarried (C : ImportWorld → ImportQuery → Prop) (s : ImportWorld) :
    (op : ImportStatement) → AppResult op.Answer → ImportWorld → Prop where
  | db {q r t} (now : Timestamp) (skipped : Uuid → Bool) (hC : C s q)
      (h : Fate AppError.Database s (s.query now skipped q) r t) : ImportCarried C s (.db q) r t
  | utc_now (now : Timestamp) : ImportCarried C s .utc_now (.ok now) s

/-- Addresses are written and deleted, chains and assets are edited. -/
inductive ImportOthers : ImportWorld → ImportWorld → Prop where
  | write {s} (op : AddressWrite)
      (hop : ∀ request updated, op ≠ .create_watched_address_for_import_attempt request updated) :
      ImportOthers s { s with tables.addresses := s.tables.addresses.write op }
  | edit {s} (chains : List Chain) (assets : List Asset) : ImportOthers s
      { s with tables.addresses.chains := chains, tables.addresses.assets := assets }
  | delete {s} (tenant_id id : Uuid) : ImportOthers s
      { s with tables := s.tables.delete_watched_address tenant_id id }

/-- A round of a worker, or the call of a user. -/
inductive ImportCall where
  | process (worker_id : String) (now : Timestamp)
  | create (tenant_id : Uuid) (request : CreateWatchedAddressImportRequest)
  | cancel (tenant_id id : Uuid)

def ImportCall.program : ImportCall → ImportProg Unit
  | .process worker_id now => (process_one_address_import_task worker_id now).bind fun _ => .done ()
  | .create tenant_id request =>
    (create_watched_address_import tenant_id request).bind fun _ => .done ()
  | .cancel tenant_id id => (cancel_watched_address_import tenant_id id).bind fun _ => .done ()

def ImportLaunch {W : Type} (_ : W) (s : ImportWorld) (p : ImportProg Unit) (t : ImportWorld) :
    Prop :=
  t = s ∧ ∃ call : ImportCall, p = call.program

abbrev ImportStep {W : Type} [DecidableEq W] (C : ImportWorld → ImportQuery → Prop) :
    ImportWorld × (W → ImportProg Unit) → ImportWorld × (W → ImportProg Unit) → Prop :=
  Prog.Crew (fun _ => ImportCarried C) ImportOthers ImportLaunch

/-- No import yet. -/
def import_start {W : Type} (chains : List Chain) (assets : List Asset) :
    ImportWorld × (W → ImportProg Unit) :=
  (⟨.empty chains assets, []⟩, fun _ => .done ())

/-! ### Runs at one time of the database -/

namespace ImportWorld

/-- The statement is answered, at a time when no other transaction holds a lock. -/
def alone (s : ImportWorld) : (op : ImportStatement) → AppResult op.Answer × ImportWorld
  | .db q => s.query 0 (fun _ => false) q
  | .utc_now => (.ok 0, s)

def test (C : ImportWorld → ImportQuery → Prop) [∀ s q, Decidable (C s q)] (s : ImportWorld) :
    ImportStatement → Bool
  | .db q => decide (C s q)
  | .utc_now => true

theorem alone_carried {C : ImportWorld → ImportQuery → Prop} {s : ImportWorld}
    {op : ImportStatement} (hC : ∀ q, op = .db q → C s q) :
    ImportCarried C s op (s.alone op).1 (s.alone op).2 := by
  cases op with
  | db q => exact .db 0 _ (hC q rfl) .answered
  | utc_now => exact .utc_now 0

end ImportWorld

/-- A worker or user takes up a call. -/
def take_up {W : Type} [DecidableEq W] (w : W) (call : ImportCall)
    (c : ImportWorld × (W → ImportProg Unit)) : ImportWorld × (W → ImportProg Unit) :=
  (c.1, Function.update c.2 w call.program)

/-- One of them carries out so many statements. -/
def work {W : Type} [DecidableEq W] (w : W) (n : Nat) (c : ImportWorld × (W → ImportProg Unit)) :
    ImportWorld × (W → ImportProg Unit) :=
  let r := Prog.advance ImportWorld.alone n (c.2 w) c.1
  (r.2, Function.update c.2 w r.1)

section Runs
variable {W : Type} [DecidableEq W] {C : ImportWorld → ImportQuery → Prop}

theorem take_up_run (w : W) (call : ImportCall) (c : ImportWorld × (W → ImportProg Unit)) :
    Relation.ReflTransGen (ImportStep C) c (take_up w call c) :=
  .single (.launch w ⟨rfl, call, rfl⟩)

theorem work_run (w : W) (n : Nat) (c : ImportWorld × (W → ImportProg Unit)) :
    Relation.ReflTransGen (ImportStep fun _ _ => True) c (work w n c) :=
  Prog.Crew.of_advance (fun _ _ => ImportWorld.alone_carried fun _ _ => trivial) n c.1 c.2 rfl

/-- A whole call whose statements meet the condition. -/
theorem call_run [∀ s q, Decidable (C s q)] (w : W) (call : ImportCall) (s : ImportWorld)
    (h : Prog.along ImportWorld.alone (ImportWorld.test C) call.program s = true)
    (ps : W → ImportProg Unit) : ∃ qs, Relation.ReflTransGen (ImportStep C) (s, ps)
      ((Prog.eval ImportWorld.alone call.program s).2, qs) := by
  have hcarried : ∀ s op, ImportWorld.test C s op = true →
      ImportCarried C s op (ImportWorld.alone s op).1 (ImportWorld.alone s op).2 := by
    intro s op hok
    refine ImportWorld.alone_carried fun q hq => ?_
    subst hq
    exact of_decide_eq_true hok
  obtain ⟨qs, hrun, _⟩ := Prog.Crew.of_eval (w := w) (H := fun _ => ImportCarried C)
    (E := ImportOthers) hcarried s h (Function.update ps w call.program) (Function.update_self ..)
  exact ⟨qs, .head (.launch w ⟨rfl, call, rfl⟩) hrun⟩

end Runs

def is_finished {α : Type} : ImportProg α → Bool
  | .ask .. => false
  | _ => true

def btc_chains : List Chain := [⟨1, "btc", "utxo", 3, "Bitcoin"⟩]

def btc_assets : List Asset := [⟨5, 1, "native", "BTC", "Bitcoin", none, 8, "active"⟩]

def import_row (row_number : Int) (address : String) : WatchedAddressImportRowRequest :=
  { row_number := row_number
    address := address
    label := none
    priority := none
    scan_interval_seconds := none
    transfer_filter_enabled := none
    balance_change_filter_enabled := none
    status := none }

def btc_import (rows : List WatchedAddressImportRowRequest) : ImportCall :=
  .create 1
    { defaults :=
        { chain_id := 1
          asset_ids := [5]
          chain_configs := []
          priority := "normal"
          scan_interval_seconds := 60
          transfer_filter_enabled := true
          balance_change_filter_enabled := true
          status := "active" }
      rows := rows }

end CoinListener.Worker
