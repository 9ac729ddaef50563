import CoinListener.Storage.AddressWrites
import Mathlib.Data.List.Sort

/-! Import tasks, their attempts, and the statements that work on them. -/
namespace CoinListener.Storage
open Foundation

inductive ImportTaskStatus where
  | pending | running | completed | failed | cancelled
deriving DecidableEq

def ImportTaskStatus.is_terminal : ImportTaskStatus → Bool
  | .pending => false
  | .running => false
  | _ => true

inductive ImportAttemptStatus where
  | pending | success | failed | skipped
deriving DecidableEq

/-! ### Tables -/

structure ImportCounts where
  processed_rows : Nat
  success_rows : Nat
  failed_rows : Nat
deriving DecidableEq

structure WatchedAddressImportTask extends ImportCounts where
  id : Uuid
  tenant_id : Uuid
  status : ImportTaskStatus
  priority : String
  scan_interval_seconds : Int
  transfer_filter_enabled : Bool
  balance_change_filter_enabled : Bool
  address_status : String
  total_rows : Nat
  locked_at : Option Timestamp
  locked_by : Option String
  started_at : Option Timestamp
  completed_at : Option Timestamp
  created_at : Timestamp
deriving DecidableEq

def WatchedAddressImportTask.is_task (tenant_id id : Uuid) (task : WatchedAddressImportTask) :
    Bool :=
  task.id == id && task.tenant_id == tenant_id

structure ImportRow where
  import_task_id : Uuid
  tenant_id : Uuid
  row_number : Int
  address : String
  label : Option String
  priority : Option String
  scan_interval_seconds : Option Int
  transfer_filter_enabled : Option Bool
  balance_change_filter_enabled : Option Bool
  address_status : Option String
deriving DecidableEq

structure ImportAttempt where
  id : Uuid
  import_task_id : Uuid
  tenant_id : Uuid
  row_number : Int
  chain_id : Uuid
  asset_ids : List Uuid
  status : ImportAttemptStatus
  watched_address_id : Option Uuid
  error_code : Option String
  error_message : Option String
deriving DecidableEq

def ImportAttempt.is_of (tenant_id import_task_id : Uuid) (attempt : ImportAttempt) : Bool :=
  attempt.import_task_id == import_task_id && attempt.tenant_id == tenant_id

/-- What a worker reads of an attempt and its row. -/
structure WatchedAddressImportAttempt where
  attempt_id : Uuid
  row_number : Int
  address : String
  label : Option String
  priority : Option String
  scan_interval_seconds : Option Int
  transfer_filter_enabled : Option Bool
  balance_change_filter_enabled : Option Bool
  status : Option String
  chain_id : Uuid
  asset_ids : List Uuid
deriving DecidableEq

def WatchedAddressImportTask.key (task : WatchedAddressImportTask) : Uuid × Uuid :=
  (task.id, task.tenant_id)

theorem task_id_of_key {a b : WatchedAddressImportTask} (h : b.key = a.key) : b.id = a.id :=
  (Prod.mk.inj h).1

theorem task_tenant_of_key {a b : WatchedAddressImportTask} (h : b.key = a.key) :
    b.tenant_id = a.tenant_id :=
  (Prod.mk.inj h).2

def ImportAttempt.key (attempt : ImportAttempt) : Uuid × Uuid × Uuid :=
  (attempt.id, attempt.import_task_id, attempt.tenant_id)

theorem attempt_id_of_key {a b : ImportAttempt} (h : b.key = a.key) : b.id = a.id :=
  (Prod.mk.inj h).1

theorem is_of_of_key {a b : ImportAttempt} (h : b.key = a.key) (tenant_id import_task_id : Uuid) :
    b.is_of tenant_id import_task_id = a.is_of tenant_id import_task_id := by
  obtain ⟨-, htask, htenant⟩ := Prod.mk.inj h |>.imp_right Prod.mk.inj
  rw [ImportAttempt.is_of, ImportAttempt.is_of, htask, htenant]

/-- The watched addresses, and the tables of imports. Identifiers are handed out in order. -/
structure ImportTables where
  addresses : AddressTables
  tasks : List WatchedAddressImportTask
  rows : List ImportRow
  attempts : List ImportAttempt
  next_id : Uuid
  task_lt : ∀ task ∈ tasks, task.id < next_id
  task_ids : (tasks.map (·.id)).Nodup
  attempt_lt : ∀ attempt ∈ attempts, attempt.id < next_id
  attempt_ids : (attempts.map (·.id)).Nodup

def ImportTables.empty (chains : List Chain) (assets : List Asset) : ImportTables :=
  { addresses := unwatched chains assets
    tasks := []
    rows := []
    attempts := []
    next_id := 0
    task_lt := fun _ h => absurd h List.not_mem_nil
    task_ids := List.nodup_nil
    attempt_lt := fun _ h => absurd h List.not_mem_nil
    attempt_ids := List.nodup_nil }

/-! ### Requests -/

structure WatchedAddressImportDefaults where
  chain_id : Uuid
  asset_ids : List Uuid
  chain_configs : List CustodyAccountChainConfig
  priority : String
  scan_interval_seconds : Int
  transfer_filter_enabled : Bool
  balance_change_filter_enabled : Bool
  status : String

structure WatchedAddressImportRowRequest where
  row_number : Int
  address : String
  label : Option String
  priority : Option String
  scan_interval_seconds : Option Int
  transfer_filter_enabled : Option Bool
  balance_change_filter_enabled : Option Bool
  status : Option String

structure CreateWatchedAddressImportRequest where
  defaults : WatchedAddressImportDefaults
  rows : List WatchedAddressImportRowRequest

structure ImportAttemptSeed where
  row_number : Int
  chain_id : Uuid
  asset_ids : List Uuid

structure ImportCreatePlan where
  total_rows : Nat
  attempts : List ImportAttemptSeed

def effective_import_chain_configs (defaults : WatchedAddressImportDefaults) :
    List CustodyAccountChainConfig :=
  if defaults.chain_configs.isEmpty then [⟨defaults.chain_id, defaults.asset_ids⟩]
  else defaults.chain_configs

def import_attempt_count (row_count chain_config_count : Nat) : AppResult Nat :=
  if row_count * chain_config_count ≤ 2147483647 then .ok (row_count * chain_config_count)
  else .error (.Validation "import attempt count exceeds i32 range")

def import_create_plan (request : CreateWatchedAddressImportRequest) :
    AppResult ImportCreatePlan := do
  let chain_configs := effective_import_chain_configs request.defaults
  ensure (!chain_configs.isEmpty) (.Validation "chain_configs are required")
  let total_rows ← import_attempt_count request.rows.length chain_configs.length
  return {
    total_rows := total_rows
    attempts := request.rows.flatMap fun row => chain_configs.map fun config =>
      ⟨row.row_number, config.chain_id, config.asset_ids⟩ }

def validate_import_chain_configs (chain_ids : List Uuid) :
    List CustodyAccountChainConfig → AppResult Unit
  | [] => .ok ()
  | config :: configs => do
    ensure (!config.asset_ids.isEmpty)
      (.Validation "asset_ids are required for every chain config")
    ensure (!chain_ids.contains config.chain_id)
      (.Validation "chain_id must be unique within an import")
    validate_import_chain_configs (config.chain_id :: chain_ids) configs

def validate_import_rows (row_numbers : List Int) (addresses : List String) :
    List WatchedAddressImportRowRequest → AppResult Unit
  | [] => .ok ()
  | row :: rows => do
    ensure (0 < row.row_number) (.Validation "row_number must be positive")
    ensure (Text.trim row.address ≠ "") (.Validation "address is required")
    ensure (!row_numbers.contains row.row_number) (.Validation "row_number must be unique")
    let normalized := Text.toAsciiLowercase (Text.trim row.address)
    ensure (!addresses.contains normalized)
      (.Validation "addresses must be unique within an import")
    validate_import_rows (row.row_number :: row_numbers) (normalized :: addresses) rows

def validate_import_create_request (request : CreateWatchedAddressImportRequest) :
    AppResult Unit := do
  ensure (!request.rows.isEmpty) (.Validation "import rows are required")
  let chain_configs := effective_import_chain_configs request.defaults
  ensure (!chain_configs.isEmpty) (.Validation "chain_configs are required")
  validate_import_chain_configs [] chain_configs
  let _ ← import_attempt_count request.rows.length chain_configs.length
  validate_import_rows [] [] request.rows

namespace ImportTables
variable (t : ImportTables)

/-! ### Changes -/

/-- A change of tasks. -/
def edit_tasks (p : WatchedAddressImportTask → Bool)
    (f : WatchedAddressImportTask → WatchedAddressImportTask)
    (hf : ∀ task, (f task).key = task.key) : ImportTables :=
  { t with
    tasks := Table.update p f t.tasks
    task_lt := by
      intro task htask
      obtain ⟨old, hold, rfl⟩ := Table.mem_update.mp htask
      rw [task_id_of_key (Table.revise_column hf old)]
      exact t.task_lt old hold
    task_ids := by
      rw [Table.update_column fun task => task_id_of_key (hf task)]
      exact t.task_ids }

/-- A change of attempts. -/
def edit_attempts (p : ImportAttempt → Bool) (f : ImportAttempt → ImportAttempt)
    (hf : ∀ attempt, (f attempt).key = attempt.key) : ImportTables :=
  { t with
    attempts := Table.update p f t.attempts
    attempt_lt := by
      intro attempt hattempt
      obtain ⟨old, hold, rfl⟩ := Table.mem_update.mp hattempt
      rw [attempt_id_of_key (Table.revise_column hf old)]
      exact t.attempt_lt old hold
    attempt_ids := by
      rw [Table.update_column fun attempt => attempt_id_of_key (hf attempt)]
      exact t.attempt_ids }

/-! ### Creation -/

def new_task (now : Timestamp) (tenant_id : Uuid) (defaults : WatchedAddressImportDefaults)
    (total_rows : Nat) : WatchedAddressImportTask :=
  { processed_rows := 0
    success_rows := 0
    failed_rows := 0
    id := t.next_id
    tenant_id := tenant_id
    status := .pending
    priority := defaults.priority
    scan_interval_seconds := defaults.scan_interval_seconds
    transfer_filter_enabled := defaults.transfer_filter_enabled
    balance_change_filter_enabled := defaults.balance_change_filter_enabled
    address_status := defaults.status
    total_rows := total_rows
    locked_at := none
    locked_by := none
    started_at := none
    completed_at := none
    created_at := now }

def new_row (tenant_id : Uuid) (row : WatchedAddressImportRowRequest) : ImportRow :=
  { import_task_id := t.next_id
    tenant_id := tenant_id
    row_number := row.row_number
    address := row.address
    label := row.label
    priority := row.priority
    scan_interval_seconds := row.scan_interval_seconds
    transfer_filter_enabled := row.transfer_filter_enabled
    balance_change_filter_enabled := row.balance_change_filter_enabled
    address_status := row.status }

def new_attempt (tenant_id : Uuid) (i : Nat) (seed : ImportAttemptSeed) : ImportAttempt :=
  { id := t.next_id + 1 + i
    import_task_id := t.next_id
    tenant_id := tenant_id
    row_number := seed.row_number
    chain_id := seed.chain_id
    asset_ids := seed.asset_ids
    status := .pending
    watched_address_id := none
    error_code := none
    error_message := none }

def new_attempts (tenant_id : Uuid) (seeds : List ImportAttemptSeed) : List ImportAttempt :=
  seeds.mapIdx (t.new_attempt tenant_id)

theorem mem_new_attempts {t : ImportTables} {tenant_id : Uuid} {seeds : List ImportAttemptSeed}
    {attempt : ImportAttempt} (h : attempt ∈ t.new_attempts tenant_id seeds) :
    attempt.import_task_id = t.next_id ∧ attempt.status = .pending ∧ t.next_id < attempt.id ∧
      attempt.id < t.next_id + 1 + seeds.length := by
  obtain ⟨i, hi, rfl⟩ := List.mem_mapIdx.mp h
  refine ⟨rfl, rfl, ?_, Nat.add_lt_add_left hi _⟩
  exact (Nat.lt_succ_self _).trans_le (Nat.le_add_right _ _)

theorem new_attempt_ids (tenant_id : Uuid) (seeds : List ImportAttemptSeed) :
    ((t.new_attempts tenant_id seeds).map (·.id)).Nodup := by
  refine List.pairwise_map.mpr (List.pairwise_iff_getElem.mpr fun i j hi hj hlt => ?_)
  simp only [new_attempts, List.getElem_mapIdx]
  exact Nat.ne_of_lt (Nat.add_lt_add_left hlt _)

/-- A task with its rows and attempts. -/
def add_task (now : Timestamp) (tenant_id : Uuid) (request : CreateWatchedAddressImportRequest)
    (plan : ImportCreatePlan) : ImportTables :=
  { t with
    tasks := t.tasks ++ [t.new_task now tenant_id request.defaults plan.total_rows]
    rows := t.rows ++ request.rows.map (t.new_row tenant_id)
    attempts := t.attempts ++ t.new_attempts tenant_id plan.attempts
    next_id := t.next_id + 1 + plan.attempts.length
    task_lt := by
      intro task htask
      have hlt : task.id < t.next_id + 1 := by
        rcases List.mem_append.mp htask with hold | hnew
        · exact Nat.lt_succ_of_lt (t.task_lt task hold)
        · rw [List.mem_singleton.mp hnew]
          exact Nat.lt_succ_self _
      exact hlt.trans_le (Nat.le_add_right _ _)
    task_ids := by
      rw [List.map_append]
      refine t.task_ids.append (List.nodup_singleton _) fun id hold hnew => ?_
      obtain ⟨task, htask, rfl⟩ := List.mem_map.mp hold
      have hid : task.id = t.next_id := List.mem_singleton.mp hnew
      exact Nat.ne_of_lt (t.task_lt task htask) hid
    attempt_lt := by
      intro attempt hattempt
      rcases List.mem_append.mp hattempt with hold | hnew
      · have hle := Nat.le_add_right t.next_id (1 + plan.attempts.length)
        exact (t.attempt_lt attempt hold).trans_le (Nat.add_assoc .. ▸ hle)
      · exact (mem_new_attempts hnew).2.2.2
    attempt_ids := by
      rw [List.map_append]
      refine t.attempt_ids.append (t.new_attempt_ids tenant_id plan.attempts) fun id hold hnew => ?_
      obtain ⟨attempt, hattempt, rfl⟩ := List.mem_map.mp hold
      obtain ⟨added, hadded, hid⟩ := List.mem_map.mp hnew
      have hlt := (t.attempt_lt attempt hattempt).trans (mem_new_attempts hadded).2.2.1
      exact Nat.ne_of_lt hlt hid.symm }

/-- The transaction of `create_watched_address_import`. -/
def create_watched_address_import (now : Timestamp) (tenant_id : Uuid)
    (request : CreateWatchedAddressImportRequest) (plan : ImportCreatePlan) :
    AppResult (WatchedAddressImportTask × ImportTables) :=
  if plan.attempts.all fun seed => t.addresses.chains.any (·.id == seed.chain_id) then
    .ok (t.new_task now tenant_id request.defaults plan.total_rows,
      t.add_task now tenant_id request plan)
  else .error (.Database "watched_address_import_attempts_chain_id_fkey")

/-! ### Addresses that others write -/

def leads_to (id : Uuid) (attempt : ImportAttempt) : Bool :=
  attempt.watched_address_id == some id

def astray (attempt : ImportAttempt) : ImportAttempt :=
  { attempt with watched_address_id := none }

/-- `DELETE_WATCHED_ADDRESS_QUERY`. The attempts that lead to the address lose it. -/
def delete_watched_address (tenant_id id : Uuid) : ImportTables :=
  if t.addresses.watched_addresses.any (AddressTables.is_row tenant_id id) then
    { t.edit_attempts (leads_to id) astray fun _ => rfl with
      addresses.watched_addresses :=
        t.addresses.watched_addresses.filter (!AddressTables.is_row tenant_id id ·)
      addresses.watched_address_assets :=
        t.addresses.watched_address_assets.filter (·.1 != id) }
  else t

/-! ### Claims -/

def stale (now : Timestamp) (task : WatchedAddressImportTask) : Bool :=
  task.status == .running && task.locked_at.any (· < now - 300)

def held_by (worker_id : String) (task : WatchedAddressImportTask) : Bool :=
  task.status == .running && task.locked_by == some worker_id

def claimable (now : Timestamp) (worker_id : String) (task : WatchedAddressImportTask) : Bool :=
  task.status == .pending || held_by worker_id task || stale now task

def claim_order (now : Timestamp) (worker_id : String) (task : WatchedAddressImportTask) : Nat :=
  if held_by worker_id task then 0 else if stale now task then 1 else 2

def claimed (now : Timestamp) (worker_id : String) (task : WatchedAddressImportTask) :
    WatchedAddressImportTask :=
  { task with
    status := .running
    locked_at := some now
    locked_by := some worker_id
    started_at := task.started_at.or (some now) }

/-- `CLAIM_WATCHED_ADDRESS_IMPORT_QUERY`. Tasks that another transaction has locked are skipped. -/
def claim_next_watched_address_import (now : Timestamp) (worker_id : String)
    (skipped : Uuid → Bool) : Option WatchedAddressImportTask × ImportTables :=
  let order := claim_order now worker_id
  match ((t.tasks.filter fun task => claimable now worker_id task && !skipped task.id).insertionSort
      fun a b => order a < order b ∨ (order a = order b ∧ a.created_at ≤ b.created_at)).head? with
  | none => (none, t)
  | some found =>
    (some (claimed now worker_id found),
      t.edit_tasks (·.id == found.id) (claimed now worker_id) fun _ => rfl)

/-- `RENEW_WATCHED_ADDRESS_IMPORT_LOCK_QUERY`, with the number of rows affected. -/
def renew_watched_address_import_lock (tenant_id id : Uuid) (worker_id : String)
    (now : Timestamp) : Nat × ImportTables :=
  let renewed (task : WatchedAddressImportTask) : Bool :=
    task.is_task tenant_id id && held_by worker_id task
  (t.tasks.countP renewed,
    t.edit_tasks renewed (fun task => { task with locked_at := some now }) fun _ => rfl)

/-! ### Attempts -/

def task_of (attempt : ImportAttempt) : Option WatchedAddressImportTask :=
  t.tasks.find? (·.is_task attempt.tenant_id attempt.import_task_id)

def row_of (attempt : ImportAttempt) : Option ImportRow :=
  t.rows.find? fun row => row.import_task_id == attempt.import_task_id &&
    row.tenant_id == attempt.tenant_id && row.row_number == attempt.row_number

/-- `PENDING_IMPORT_ATTEMPTS_QUERY`. -/
def pending_import_attempts (tenant_id task_id : Uuid) (worker_id : String) (limit : Int) :
    List WatchedAddressImportAttempt :=
  let pending := (t.attempts.filter fun attempt => attempt.is_of tenant_id task_id &&
    attempt.status == .pending && (t.task_of attempt).any (held_by worker_id)).insertionSort
      fun a b => a.row_number < b.row_number ∨
        (a.row_number = b.row_number ∧ a.chain_id ≤ b.chain_id)
  (pending.filterMap fun attempt => (t.row_of attempt).map fun row =>
    { attempt_id := attempt.id
      row_number := attempt.row_number
      address := row.address
      label := row.label
      priority := row.priority
      scan_interval_seconds := row.scan_interval_seconds
      transfer_filter_enabled := row.transfer_filter_enabled
      balance_change_filter_enabled := row.balance_change_filter_enabled
      status := row.address_status
      chain_id := attempt.chain_id
      asset_ids := attempt.asset_ids }).take limit.toNat

/-- Whether a mark finds the attempt: it is still to be done, by this worker, or its task has been
cancelled. -/
def markable (tenant_id attempt_id : Uuid) (task_id : Option Uuid) (worker_id : Option String)
    (attempt : ImportAttempt) : Bool :=
  attempt.id == attempt_id && attempt.tenant_id == tenant_id && (t.task_of attempt).any fun task =>
    (attempt.status == .pending || (attempt.status == .skipped && task.status == .cancelled)) &&
    ((task_id.isNone && worker_id.isNone) ||
      (task_id == some task.id && worker_id.any (held_by · task)) || task.status == .cancelled)

/-- A mark leaves the attempts of a cancelled task as they are. -/
def marked (mark : ImportAttempt → ImportAttempt) (attempt : ImportAttempt) : ImportAttempt :=
  if (t.task_of attempt).any (·.status == .cancelled) then attempt else mark attempt

theorem marked_key {mark : ImportAttempt → ImportAttempt}
    (hmark : ∀ attempt, (mark attempt).key = attempt.key) (attempt : ImportAttempt) :
    (t.marked mark attempt).key = attempt.key := by
  unfold marked
  split
  · rfl
  · exact hmark attempt

/-- `MARK_IMPORT_ATTEMPT_SUCCESS_QUERY` and `MARK_IMPORT_ATTEMPT_FAILED_QUERY`, with the number of
rows affected. -/
def mark_import_attempt (tenant_id attempt_id : Uuid) (task_id : Option Uuid)
    (worker_id : Option String) (mark : ImportAttempt → ImportAttempt)
    (hmark : ∀ attempt, (mark attempt).key = attempt.key) : Nat × ImportTables :=
  let found := t.markable tenant_id attempt_id task_id worker_id
  (t.attempts.countP found, t.edit_attempts found (t.marked mark) (t.marked_key hmark))

def succeeded (watched_address_id : Uuid) (attempt : ImportAttempt) : ImportAttempt :=
  { attempt with
    status := .success
    watched_address_id := some watched_address_id
    error_code := none
    error_message := none }

def failed (error_code error_message : String) (attempt : ImportAttempt) : ImportAttempt :=
  { attempt with
    status := .failed
    error_code := some error_code
    error_message := some error_message }

/-- The transaction of `create_watched_address_for_import_attempt`. -/
def create_watched_address_for_import_attempt (tenant_id task_id : Uuid) (worker_id : String)
    (attempt_id : Uuid) (request : CreateWatchedAddressRequest) (asset_ids : List Uuid) :
    AppResult (WatchedAddressResponse × ImportTables) := do
  let (response, addresses) ← t.addresses.create_watched_address_in_transaction request asset_ids
  let (rows_affected, tables) := t.mark_import_attempt tenant_id attempt_id (some task_id)
    (some worker_id) (succeeded response.id) fun _ => rfl
  ensure (rows_affected ≠ 0) (.NotFound "watched address import attempt")
  return (response, { tables with addresses := addresses })

/-! ### Counts and ends -/

/-- The counts of the attempts of a task. -/
def import_counts (tenant_id task_id : Uuid) : ImportCounts :=
  { processed_rows := t.attempts.countP fun attempt =>
      attempt.is_of tenant_id task_id && attempt.status != .pending
    success_rows := t.attempts.countP fun attempt =>
      attempt.is_of tenant_id task_id && attempt.status == .success
    failed_rows := t.attempts.countP fun attempt =>
      attempt.is_of tenant_id task_id && attempt.status == .failed }

def with_counts (counts : ImportCounts) (task : WatchedAddressImportTask) :
    WatchedAddressImportTask :=
  { task with toImportCounts := counts }

/-- The update of `REFRESH_IMPORT_TASK_COUNTS_QUERY`. It may wait for the row, and the counts are
those of the time when the statement began. -/
def write_import_task_counts (tenant_id task_id : Uuid) (counts : ImportCounts) :
    Option WatchedAddressImportTask × ImportTables :=
  ((t.tasks.find? (·.is_task tenant_id task_id)).map (with_counts counts),
    t.edit_tasks (·.is_task tenant_id task_id) (with_counts counts) fun _ => rfl)

/-- `PENDING_IMPORT_ATTEMPT_EXISTS_QUERY`. -/
def pending_import_attempt_exists (tenant_id task_id : Uuid) : Bool :=
  t.attempts.any fun attempt => attempt.is_of tenant_id task_id && attempt.status == .pending

def ended (status : ImportTaskStatus) (now : Timestamp) (task : WatchedAddressImportTask) :
    WatchedAddressImportTask :=
  { task with
    status := status
    completed_at := some now
    locked_at := none
    locked_by := none }

/-- `COMPLETE_IMPORT_IF_FINISHED_QUERY`. -/
def complete_import (tenant_id task_id : Uuid) (status : ImportTaskStatus) (now : Timestamp) :
    Option WatchedAddressImportTask × ImportTables :=
  let running (task : WatchedAddressImportTask) : Bool :=
    task.is_task tenant_id task_id && task.status == .running
  ((t.tasks.find? running).map (ended status now),
    t.edit_tasks running (ended status now) fun _ => rfl)

def skipped (attempt : ImportAttempt) : ImportAttempt :=
  { attempt with
    status := .skipped
    error_code := some "cancelled"
    error_message := some "import task cancelled" }

/-- `CANCEL_WATCHED_ADDRESS_IMPORT_ATTEMPTS_QUERY`. -/
def cancel_import_attempts (tenant_id task_id : Uuid) : ImportTables :=
  let open_attempt (attempt : ImportAttempt) : Bool :=
    attempt.is_of tenant_id task_id && attempt.status == .pending &&
      (t.task_of attempt).any (!·.status.is_terminal)
  t.edit_attempts open_attempt skipped fun _ => rfl

def cancelled (counts : ImportCounts) (now : Timestamp) (task : WatchedAddressImportTask) :
    WatchedAddressImportTask :=
  { with_counts counts task with
    status := .cancelled
    completed_at := task.completed_at.or (some now)
    locked_at := none
    locked_by := none }

/-- The transaction of `cancel_watched_address_import`. It has locked the attempts that it skips. -/
def cancel_watched_address_import (now : Timestamp) (tenant_id id : Uuid) :
    AppResult (WatchedAddressImportTask × ImportTables) :=
  let t := t.cancel_import_attempts tenant_id id
  let cancel := cancelled (t.import_counts tenant_id id) now
  let open_task (task : WatchedAddressImportTask) : Bool :=
    task.is_task tenant_id id && !task.status.is_terminal
  match t.tasks.find? open_task with
  | none => .error (.NotFound "watched address import")
  | some task => .ok (cancel task, t.edit_tasks open_task cancel fun _ => rfl)

end ImportTables

end CoinListener.Storage
