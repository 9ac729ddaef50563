import CoinListener.Core.Wire
import CoinListener.Foundation.Program

/-! The list that wakes idle workers. It holds at most one wake signal, and the scan tasks that older
versions put there. -/
namespace CoinListener
open Foundation

/-! ### Scan tasks -/

namespace WireFormats
variable (formats : WireFormats)

def scan_task_json (task : ScanAddressTask) : Json :=
  .obj [("task_id", uuid_json task.task_id), ("address_id", uuid_json task.address_id),
    ("tenant_id", uuid_json task.tenant_id), ("chain_id", uuid_json task.chain_id),
    ("attempt", .num (toString task.attempt)), ("enqueued_at", formats.time_json task.enqueued_at)]

def serialize_scan_task (task : ScanAddressTask) : String :=
  String.ofList (formats.scan_task_json task).text

/-- An attempt has 16 bits. -/
def attempt_of (v : Json) : Option Nat :=
  v.as_u64.bind fun attempt => if attempt < 2 ^ 16 then some attempt else none

def scan_task_keys : List String :=
  ["task_id", "address_id", "tenant_id", "chain_id", "attempt", "enqueued_at"]

def scan_task_of (v : Json) : Option ScanAddressTask := do
  let member ← record_members scan_task_keys v
  let task_id ← (member "task_id").bind formats.uuid_of
  let address_id ← (member "address_id").bind formats.uuid_of
  let tenant_id ← (member "tenant_id").bind formats.uuid_of
  let chain_id ← (member "chain_id").bind formats.uuid_of
  let attempt ← (member "attempt").bind attempt_of
  let enqueued_at ← (member "enqueued_at").bind formats.time_of
  return { task_id := task_id, address_id := address_id, tenant_id := tenant_id
           chain_id := chain_id, attempt := attempt, enqueued_at := enqueued_at }

/-- The text of the error is the reader's own. -/
def deserialize_scan_task (payload : String) : Option ScanAddressTask :=
  (Json.parse formats.limits payload.toList).bind formats.scan_task_of

end WireFormats

/-- The identifiers of a task have 128 bits and its attempt 16. -/
structure ScanAddressTask.Sized (task : ScanAddressTask) : Prop where
  task_id : task.task_id < 2 ^ 128
  address_id : task.address_id < 2 ^ 128
  tenant_id : task.tenant_id < 2 ^ 128
  chain_id : task.chain_id < 2 ^ 128
  attempt : task.attempt < 2 ^ 16

namespace WireFormats
variable (formats : WireFormats) {task : ScanAddressTask}

theorem attempt_of_nat {attempt : Nat} (h : attempt < 2 ^ 16) :
    attempt_of (.num (toString attempt)) = some attempt := by
  rw [attempt_of, Json.as_u64_nat (by omega), Option.bind_some, if_pos h]

theorem scan_task_of_json (h : task.Sized) :
    formats.scan_task_of (formats.scan_task_json task) = some task := by
  have hmembers : record_members scan_task_keys (formats.scan_task_json task) = some fun key =>
      ([("task_id", uuid_json task.task_id), ("address_id", uuid_json task.address_id),
        ("tenant_id", uuid_json task.tenant_id), ("chain_id", uuid_json task.chain_id),
        ("attempt", .num (toString task.attempt)),
        ("enqueued_at", formats.time_json task.enqueued_at)].find? (·.1 == key)).map (·.2) := rfl
  have hattempt : attempt_of (.num task.attempt.repr) = some task.attempt := attempt_of_nat h.attempt
  rw [scan_task_of, hmembers]
  simp [List.find?, formats.uuid_of_json h.task_id, formats.uuid_of_json h.address_id,
    formats.uuid_of_json h.tenant_id, formats.uuid_of_json h.chain_id, hattempt,
    formats.time_of_json]

theorem scan_task_fits (h : task.Sized) :
    Json.fits formats.limits 0 (formats.scan_task_json task) = true := by
  have hsmall := h.attempt
  have hattempt := Json.fits_nat 1 (formats.numbers task.attempt (by omega))
  rw [Json.fits] at hattempt
  simp only [scan_task_json, Json.fits, Json.fits_fields, formats.nests.1, hattempt, uuid_json,
    time_json, Bool.and_self]

/-- A task that was written is read as the task it is. -/
theorem scan_task_read_back (h : task.Sized) :
    formats.deserialize_scan_task (formats.serialize_scan_task task) = some task := by
  have hparse : Json.parse formats.limits (formats.serialize_scan_task task).toList =
      some (formats.scan_task_json task) := by
    rw [serialize_scan_task, String.toList_ofList]
    exact Json.parse_text (formats.scan_task_fits h)
  rw [deserialize_scan_task, hparse, Option.bind_some, formats.scan_task_of_json h]

end WireFormats

/-! ### Signals -/

namespace Storage

def SCAN_WAKE_SIGNAL_PAYLOAD : String := "wake"

namespace ScanQueue

def depth (values : List String) : Nat :=
  values.length

def signal (values : List String) : List String :=
  if values.contains SCAN_WAKE_SIGNAL_PAYLOAD then values else SCAN_WAKE_SIGNAL_PAYLOAD :: values

def enqueue (values : List String) (_task : ScanAddressTask) : List String :=
  signal values

section Wait
variable (formats : WireFormats)

/-- What a wait makes of the payload it was woken by. -/
def woken_by (payload : String) : AppResult Bool :=
  if payload = SCAN_WAKE_SIGNAL_PAYLOAD then .ok true
  else if (formats.deserialize_scan_task payload).isSome then
    .error (.Redis "legacy Redis scan task payload found in wakeup queue")
  else .ok true

/-- The oldest payload is taken. From an empty list nothing is, until the wait times out. -/
def wait_for_signal (values : List String) : AppResult Bool × List String :=
  match values.getLast? with
  | none => (.ok false, values)
  | some payload => (woken_by formats payload, values.dropLast)

end Wait

/-! ### Runs of the list -/

/-- A command and what becomes of it. -/
inductive Call where
  | signal (fate : Outcome)
  | wait_for_signal (fate : Outcome)

/-- The list, with every payload that was taken from it and what the wait that took it answered. -/
structure History where
  values : List String
  taken : List (String × AppResult Bool)

namespace History

def started (values : List String) : History :=
  { values := values, taken := [] }

def after (formats : WireFormats) (h : History) : Call → History
  | .signal fate => { h with values := if fate.commits then signal h.values else h.values }
  | .wait_for_signal fate =>
    let (answer, values) := fate.apply AppError.Redis h.values (wait_for_signal formats h.values)
    { values := values
      taken := h.taken ++ if fate.commits then (h.values.getLast?.map (·, answer)).toList else [] }

def run (formats : WireFormats) (values : List String) (calls : List Call) : History :=
  calls.foldl (after formats) (started values)

end History

/-- What older versions put there. -/
def others (values : List String) : List String :=
  values.filter (· ≠ SCAN_WAKE_SIGNAL_PAYLOAD)

theorem others_signal (values : List String) : others (signal values) = others values := by
  unfold signal
  split
  · rfl
  · simp [others]

theorem signal_mem (values : List String) : SCAN_WAKE_SIGNAL_PAYLOAD ∈ signal values := by
  unfold signal
  split
  · rename_i h
    exact List.contains_iff_mem.mp h
  · exact List.mem_cons_self ..

theorem signal_keeps {values : List String} {payload : String} (h : payload ∈ values) :
    payload ∈ signal values := by
  unfold signal
  split
  · exact h
  · exact List.mem_cons_of_mem _ h

theorem count_signal {values : List String} (n : Nat) (hn : 1 ≤ n)
    (h : values.count SCAN_WAKE_SIGNAL_PAYLOAD ≤ n) :
    (signal values).count SCAN_WAKE_SIGNAL_PAYLOAD ≤ n := by
  unfold signal
  split
  · exact h
  · rename_i hnone
    have hzero : values.count SCAN_WAKE_SIGNAL_PAYLOAD = 0 := by
      apply List.count_eq_zero.mpr
      simpa using hnone
    rw [List.count_cons_self, hzero]
    exact hn

/-- A wake signal is not taken for a scan task. -/
theorem wake_not_task (formats : WireFormats) :
    formats.deserialize_scan_task SCAN_WAKE_SIGNAL_PAYLOAD = none :=
  rfl

/-- Nor a scan task for a wake signal. -/
theorem woken_by_task (formats : WireFormats) {task : ScanAddressTask} (h : task.Sized) :
    woken_by formats (formats.serialize_scan_task task) =
      .error (.Redis "legacy Redis scan task payload found in wakeup queue") := by
  have hread := formats.scan_task_read_back h
  have hne : formats.serialize_scan_task task ≠ SCAN_WAKE_SIGNAL_PAYLOAD := by
    intro heq
    rw [heq, wake_not_task] at hread
    exact nomatch hread
  rw [woken_by, if_neg hne, hread]
  rfl

/-- What holds of the list and of what was taken from it, where it first held `values`. -/
structure Kept (formats : WireFormats) (values : List String) (h : History) : Prop where
  one_signal : h.values.count SCAN_WAKE_SIGNAL_PAYLOAD ≤ max 1 (values.count SCAN_WAKE_SIGNAL_PAYLOAD)
  in_order : others values = others h.values ++ (others (h.taken.map (·.1))).reverse
  reported : ∀ task : ScanAddressTask, task.Sized → ∀ answer,
    (formats.serialize_scan_task task, answer) ∈ h.taken → ∃ message, answer = .error (.Redis message)

theorem Kept.started (formats : WireFormats) (values : List String) :
    Kept formats values (.started values) := by
  constructor
  · exact le_max_right ..
  · simp [History.started, others]
  · intro task _ answer hmem
    exact absurd hmem List.not_mem_nil

theorem Kept.signal {formats : WireFormats} {values : List String} {h : History}
    (hkept : Kept formats values h) : Kept formats values { h with values := signal h.values } := by
  constructor
  · exact count_signal _ (le_max_left ..) hkept.one_signal
  · rw [others_signal]
    exact hkept.in_order
  · exact hkept.reported

/-- A payload is taken from the end, and a scan task is not answered with success. -/
theorem Kept.taken {formats : WireFormats} {values rest : List String} {h : History}
    {payload : String} {answer : AppResult Bool} (hkept : Kept formats values h)
    (hvalues : h.values = rest ++ [payload])
    (hanswer : answer = woken_by formats payload ∨ ∃ message, answer = .error (.Redis message)) :
    Kept formats values { values := rest, taken := h.taken ++ [(payload, answer)] } := by
  obtain ⟨hone, horder, hreported⟩ := hkept
  constructor
  · rw [hvalues, List.count_append] at hone
    dsimp only
    omega
  · have hsingle : (others [payload]).reverse = others [payload] := by
      by_cases h : payload = SCAN_WAKE_SIGNAL_PAYLOAD <;> simp [others, h]
    rw [horder, hvalues]
    simp only [others, List.filter_append, List.map_append, List.reverse_append, List.append_assoc,
      List.map_cons, List.map_nil] at hsingle ⊢
    rw [hsingle]
  · intro task htask reply hmem
    rcases List.mem_append.mp hmem with hold | hnew
    · exact hreported task htask reply hold
    · simp only [List.mem_singleton, Prod.mk.injEq] at hnew
      obtain ⟨hpayload, rfl⟩ := hnew
      rcases hanswer with hwoken | herror
      · rw [hwoken, ← hpayload, woken_by_task formats htask]
        exact ⟨_, rfl⟩
      · exact herror

theorem Kept.after {formats : WireFormats} {values : List String} {h : History}
    (hkept : Kept formats values h) (call : Call) : Kept formats values (h.after formats call) := by
  cases call with
  | signal fate =>
    cases fate with
    | answered => exact hkept.signal
    | refused message => exact hkept
    | unacknowledged message => exact hkept.signal
  | wait_for_signal fate =>
    cases hlast : h.values.getLast? with
    | none =>
      have hempty := List.getLast?_eq_none_iff.mp hlast
      cases fate <;> simpa [History.after, Outcome.apply, Outcome.commits, wait_for_signal, hlast]
    | some payload =>
      have hvalues := (List.dropLast_append_getLast? payload hlast).symm
      cases fate with
      | answered =>
        simpa [History.after, Outcome.apply, Outcome.commits, wait_for_signal, hlast] using
          hkept.taken hvalues (.inl rfl)
      | refused message =>
        simpa [History.after, Outcome.apply, Outcome.commits] using hkept
      | unacknowledged message =>
        simpa [History.after, Outcome.apply, Outcome.commits, wait_for_signal, hlast] using
          hkept.taken hvalues (.inr ⟨message, rfl⟩)

/-- In every run of signals and waits, whatever fails: there is never more than one wake signal, what
older versions put there leaves the list oldest first and each payload once, and a scan task that a
wait has taken is an error to it. -/
theorem wake_queue_kept (formats : WireFormats) (values : List String) (calls : List Call) :
    Kept formats values (History.run formats values calls) := by
  have hrun : ∀ h, Kept formats values h →
      Kept formats values (calls.foldl (History.after formats) h) := by
    induction calls with
    | nil =>
      intro h hkept
      exact hkept
    | cons call calls ih =>
      intro h hkept
      exact ih _ (hkept.after call)
  exact hrun _ (.started formats values)

end ScanQueue

end Storage

end CoinListener
