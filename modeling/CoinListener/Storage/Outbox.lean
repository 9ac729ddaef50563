import CoinListener.Storage.Events
import CoinListener.Foundation.Table
import Mathlib.Data.List.Sort

/-! The outbox of notifications: the statements that claim its rows, mark them, and release them. -/
namespace CoinListener
open Foundation

/-! ### Rows -/

namespace NotificationOutboxItem

def waiting (item : NotificationOutboxItem) : Bool :=
  item.status = .pending || item.status = .retryable

def due (now : Timestamp) (item : NotificationOutboxItem) : Bool :=
  item.waiting && item.next_attempt_at ≤ now

def processing (item : NotificationOutboxItem) : Bool :=
  item.status = .processing

/-- Left behind: the lock is older than `stale_before`. -/
def stale (stale_before : Timestamp) (item : NotificationOutboxItem) : Bool :=
  item.processing && item.locked_at.any (· < stale_before)

def retriable (item : NotificationOutboxItem) : Bool :=
  item.status = .failed || item.status = .retryable

/-- `ORDER BY next_attempt_at ASC, created_at ASC`. -/
def claimed_before (a b : NotificationOutboxItem) : Bool :=
  a.next_attempt_at < b.next_attempt_at ||
    (a.next_attempt_at = b.next_attempt_at && a.created_at ≤ b.created_at)

def claimed (now : Timestamp) (worker_id : String) (item : NotificationOutboxItem) :
    NotificationOutboxItem :=
  { item with
    status := .processing
    locked_at := some now
    locked_by := some worker_id
    attempt_count := item.attempt_count + 1 }

def unlocked (item : NotificationOutboxItem) : NotificationOutboxItem :=
  { item with locked_at := none, locked_by := none }

def released (next_attempt_at : Timestamp) (item : NotificationOutboxItem) :
    NotificationOutboxItem :=
  { item.unlocked with status := .retryable, next_attempt_at := next_attempt_at }

/-- What a manual retry makes of a row. -/
def retried (next_attempt_at : Timestamp) (item : NotificationOutboxItem) :
    NotificationOutboxItem :=
  { item.unlocked with
    status := .retryable
    next_attempt_at := next_attempt_at
    last_error := none }

theorem processing_iff {item : NotificationOutboxItem} :
    item.processing = true ↔ item.status = .processing := by
  simp [processing]

theorem waiting_iff {item : NotificationOutboxItem} :
    item.waiting = true ↔ item.status = .pending ∨ item.status = .retryable := by
  simp [waiting]

end NotificationOutboxItem

/-- How a worker ends its attempt on a row. -/
inductive OutboxMark where
  | delivered (now : Timestamp)
  | retryable (next_attempt_at : Timestamp) (last_error : String)
  | failed (last_error : String)
deriving DecidableEq

def OutboxMark.apply (item : NotificationOutboxItem) : OutboxMark → NotificationOutboxItem
  | .delivered now =>
    { item.unlocked with status := .delivered, delivered_at := some now, last_error := none }
  | .retryable next_attempt_at last_error =>
    { item.unlocked with
      status := .retryable
      next_attempt_at := next_attempt_at
      last_error := some last_error }
  | .failed last_error =>
    { item.unlocked with status := .failed, last_error := some last_error }

section Mark
variable {item : NotificationOutboxItem} (mark : OutboxMark)

@[simp] theorem OutboxMark.apply_id : (mark.apply item).id = item.id := by
  cases mark <;> rfl

@[simp] theorem OutboxMark.apply_tenant_id : (mark.apply item).tenant_id = item.tenant_id := by
  cases mark <;> rfl

@[simp] theorem OutboxMark.apply_event_id : (mark.apply item).event_id = item.event_id := by
  cases mark <;> rfl

@[simp] theorem OutboxMark.apply_attempt_count :
    (mark.apply item).attempt_count = item.attempt_count := by
  cases mark <;> rfl

theorem OutboxMark.apply_status : (mark.apply item).status ≠ .processing := by
  cases mark <;> exact nofun

theorem OutboxMark.apply_delivered (h : (mark.apply item).status = .delivered) :
    ∃ now, mark = .delivered now := by
  cases mark with
  | delivered now => exact ⟨now, rfl⟩
  | retryable => exact nomatch h
  | failed => exact nomatch h

end Mark

namespace Storage

/-! ### Statements -/

/-- What a claim is free in: rows that other transactions have locked are skipped, and the rows
come back in any order. -/
structure ClaimChoice where
  skipped : Uuid → Bool
  arrange : List NotificationOutboxItem → List NotificationOutboxItem
  perm : ∀ items, (arrange items).Perm items

/-- No row is locked, and the rows come back in the order in which they are due. -/
def ClaimChoice.plain : ClaimChoice where
  skipped _ := false
  arrange := id
  perm _ := .refl _

namespace EventTables
variable (t : EventTables)

/-- Changes the rows that satisfy the condition, but neither what identifies them nor their event. -/
def update_outbox (p : NotificationOutboxItem → Bool)
    (f : NotificationOutboxItem → NotificationOutboxItem)
    (hid : ∀ item, (f item).id = item.id) (hevent : ∀ item, (f item).event_id = item.event_id) :
    EventTables :=
  { t with
    notification_outbox := Table.update p f t.notification_outbox
    outbox_event_ids := by
      intro b hb
      obtain ⟨a, ha, rfl⟩ := Table.mem_update.mp hb
      rw [Table.revise_column hevent]
      exact t.outbox_event_ids a ha
    outbox_ids := by
      intro b hb
      obtain ⟨a, ha, rfl⟩ := Table.mem_update.mp hb
      rw [Table.revise_column hid]
      exact t.outbox_ids a ha
    unique_event := by
      rw [Table.update_column hevent]
      exact t.unique_event
    unique_outbox_id := by
      rw [Table.update_column hid]
      exact t.unique_outbox_id }

/-- `RELEASE_STALE_NOTIFICATION_OUTBOX_QUERY`. -/
def release_stale_notification_outbox (stale_before next_attempt_at : Timestamp) :
    Nat × EventTables :=
  ((t.notification_outbox.filter (·.stale stale_before)).length,
    t.update_outbox (·.stale stale_before) (·.released next_attempt_at) (fun _ => rfl) fun _ => rfl)

/-- The rows a claim takes. -/
def due (now : Timestamp) (limit : Int) (skipped : Uuid → Bool) : List NotificationOutboxItem :=
  ((t.notification_outbox.filter fun item => item.due now && !skipped item.id).insertionSort
    fun a b => a.claimed_before b = true).take limit.toNat

/-- `CLAIM_DUE_NOTIFICATION_OUTBOX_QUERY`; its counter is a 32-bit integer. -/
def claim_due_notification_outbox (now : Timestamp) (worker_id : String) (limit : Int)
    (choice : ClaimChoice) : AppResult (List NotificationOutboxItem) × EventTables :=
  let due := t.due now limit choice.skipped
  if limit < 0 then (.error (.Database "LIMIT must not be negative"), t)
  else if due.any (2147483647 ≤ ·.attempt_count) then
    (.error (.Database "integer out of range"), t)
  else
    (.ok (choice.arrange (due.map (·.claimed now worker_id))),
      t.update_outbox (fun item => due.any (·.id == item.id)) (·.claimed now worker_id)
        (fun _ => rfl) fun _ => rfl)

/-- The rows a mark may change: the row of that identifier, while it is being processed. -/
def markable (id : Uuid) (item : NotificationOutboxItem) : Bool :=
  item.id == id && item.processing

def mark_notification_outbox (id : Uuid) (mark : OutboxMark) : AppResult Unit × EventTables :=
  if t.notification_outbox.any (markable id) then
    (.ok (), t.update_outbox (markable id) mark.apply (fun _ => mark.apply_id)
      fun _ => mark.apply_event_id)
  else (.error (.NotFound "processing notification outbox item"), t)

def mark_notification_outbox_delivered (id : Uuid) (now : Timestamp) :
    AppResult Unit × EventTables :=
  t.mark_notification_outbox id (.delivered now)

def mark_notification_outbox_retryable (id : Uuid) (next_attempt_at : Timestamp)
    (last_error : String) : AppResult Unit × EventTables :=
  t.mark_notification_outbox id (.retryable next_attempt_at last_error)

def mark_notification_outbox_failed (id : Uuid) (last_error : String) :
    AppResult Unit × EventTables :=
  t.mark_notification_outbox id (.failed last_error)

/-- `MANUAL_RETRY_NOTIFICATION_OUTBOX_QUERY`. -/
def manual_retry_notification_outbox (id tenant_id : Uuid) (next_attempt_at : Timestamp) :
    EventTables :=
  t.update_outbox (fun item => item.id == id && item.tenant_id == tenant_id && item.retriable)
    (·.retried next_attempt_at) (fun _ => rfl) fun _ => rfl

/-! ### What a statement does to the rows -/

variable {t} {now : Timestamp} {worker_id : String} {limit : Int} {choice : ClaimChoice}
  {item row : NotificationOutboxItem} {id : Uuid}

@[simp] theorem update_outbox_rows {p : NotificationOutboxItem → Bool}
    {f : NotificationOutboxItem → NotificationOutboxItem} {hid : ∀ item, (f item).id = item.id}
    {hevent : ∀ item, (f item).event_id = item.event_id} :
    (t.update_outbox p f hid hevent).notification_outbox =
      Table.update p f t.notification_outbox :=
  rfl

theorem mem_due {skipped : Uuid → Bool} (h : item ∈ t.due now limit skipped) :
    item ∈ t.notification_outbox ∧ item.due now = true ∧ skipped item.id = false := by
  have hfilter := List.mem_of_mem_take h
  rw [List.mem_insertionSort, List.mem_filter] at hfilter
  obtain ⟨hmem, hdue⟩ := hfilter
  rw [Bool.and_eq_true, Bool.not_eq_true'] at hdue
  exact ⟨hmem, hdue⟩

theorem due_waiting {skipped : Uuid → Bool} (h : item ∈ t.due now limit skipped) :
    item.waiting = true := by
  have hdue := (mem_due h).2.1
  rw [NotificationOutboxItem.due, Bool.and_eq_true] at hdue
  exact hdue.1

/-- No row is due twice. -/
theorem due_nodup (t : EventTables) (now : Timestamp) (limit : Int) (skipped : Uuid → Bool) :
    ((t.due now limit skipped).map (·.id)).Nodup := by
  unfold due
  refine List.Nodup.sublist ((List.take_sublist _ _).map _) ?_
  refine ((List.perm_insertionSort _ _).map _).nodup_iff.mpr ?_
  exact t.unique_outbox_id.sublist (List.filter_sublist.map _)

/-- Two rows of one identifier are one row. -/
theorem same_row (ha : item ∈ t.notification_outbox) (hb : row ∈ t.notification_outbox)
    (h : item.id = row.id) : item = row :=
  List.inj_on_of_nodup_map t.unique_outbox_id ha hb h

/-- Two rows of one event are one row. -/
theorem same_event_row (ha : item ∈ t.notification_outbox) (hb : row ∈ t.notification_outbox)
    (h : item.event_id = row.event_id) : item = row :=
  List.inj_on_of_nodup_map t.unique_event ha hb h

/-- A row after an update: it is as before, or satisfied the condition and was changed. -/
theorem mem_update_outbox {p : NotificationOutboxItem → Bool}
    {f : NotificationOutboxItem → NotificationOutboxItem} {hid : ∀ item, (f item).id = item.id}
    {hevent : ∀ item, (f item).event_id = item.event_id}
    (h : row ∈ (t.update_outbox p f hid hevent).notification_outbox) :
    (row ∈ t.notification_outbox ∧ p row = false) ∨
      ∃ item ∈ t.notification_outbox, p item = true ∧ row = f item := by
  obtain ⟨item, hitem, rfl⟩ := Table.mem_update.mp h
  cases hp : p item with
  | true => exact .inr ⟨item, hitem, hp, Table.revise_of_true hp⟩
  | false =>
    rw [Table.revise_of_false hp]
    exact .inl ⟨hitem, hp⟩

/-- A row after a claim: it was due and is claimed, or it was not and is as before. -/
theorem mem_claim {skipped : Uuid → Bool} (h : row ∈ Table.update
      (fun item => (t.due now limit skipped).any (·.id == item.id)) (·.claimed now worker_id)
      t.notification_outbox) :
    (row ∈ t.notification_outbox ∧ ∀ due ∈ t.due now limit skipped, due.id ≠ row.id) ∨
      ∃ due ∈ t.due now limit skipped, row = due.claimed now worker_id := by
  obtain ⟨item, hitem, rfl⟩ := Table.mem_update.mp h
  by_cases hdue : (t.due now limit skipped).any (·.id == item.id) = true
  · obtain ⟨due, hmem, hid⟩ := List.any_eq_true.mp hdue
    refine .inr ⟨due, hmem, ?_⟩
    rw [same_row (mem_due hmem).1 hitem (beq_iff_eq.mp hid)]
    exact Table.revise_of_true hdue
  · have hsame : Table.revise (fun item => (t.due now limit skipped).any (·.id == item.id))
        (·.claimed now worker_id) item = item := Table.revise_of_false (by simpa using hdue)
    refine .inl ⟨hsame.symm ▸ hitem, fun due hmem hid => hdue ?_⟩
    rw [hsame] at hid
    exact List.any_eq_true.mpr ⟨due, hmem, beq_iff_eq.mpr hid⟩

/-- A claim loses no row. -/
theorem claim_row {skipped : Uuid → Bool} (h : item ∈ t.notification_outbox) :
    ∃ row ∈ Table.update (fun item => (t.due now limit skipped).any (·.id == item.id))
      (·.claimed now worker_id) t.notification_outbox, row.id = item.id := by
  refine ⟨_, Table.mem_update.mpr ⟨item, h, rfl⟩, ?_⟩
  unfold Table.revise
  split <;> rfl

/-- A claim answers the rows it has taken, each once; it may also be refused. -/
theorem claim_cases (t : EventTables) (now : Timestamp) (worker_id : String) (limit : Int)
    (choice : ClaimChoice) :
    (∃ message, t.claim_due_notification_outbox now worker_id limit choice =
      (.error (.Database message), t)) ∨
    ∃ items, (t.claim_due_notification_outbox now worker_id limit choice).1 = .ok items ∧
      items.Perm ((t.due now limit choice.skipped).map (·.claimed now worker_id)) ∧
      (t.claim_due_notification_outbox now worker_id limit choice).2.notification_outbox =
        Table.update (fun item => (t.due now limit choice.skipped).any (·.id == item.id))
          (·.claimed now worker_id) t.notification_outbox := by
  unfold claim_due_notification_outbox
  dsimp only
  split
  · exact .inl ⟨_, rfl⟩
  · split
    · exact .inl ⟨_, rfl⟩
    · exact .inr ⟨_, rfl, choice.perm _, rfl⟩

/-- A mark changes the row it is for, or none. -/
theorem mark_cases (t : EventTables) (id : Uuid) (mark : OutboxMark) :
    (t.mark_notification_outbox id mark =
        (.error (.NotFound "processing notification outbox item"), t) ∧
      ∀ row ∈ t.notification_outbox, markable id row = false) ∨
    ∃ row ∈ t.notification_outbox, markable id row = true ∧
      (t.mark_notification_outbox id mark).1 = .ok () ∧
      (t.mark_notification_outbox id mark).2.notification_outbox =
        Table.update (markable id) mark.apply t.notification_outbox := by
  by_cases h : t.notification_outbox.any (markable id) = true
  · obtain ⟨row, hrow, hmark⟩ := List.any_eq_true.mp h
    right
    refine ⟨row, hrow, hmark, ?_⟩
    rw [mark_notification_outbox, if_pos h]
    exact ⟨rfl, rfl⟩
  · left
    refine ⟨if_neg h, fun row hrow => ?_⟩
    by_contra hmark
    exact h (List.any_eq_true.mpr ⟨row, hrow, by simpa using hmark⟩)

theorem markable_iff : markable id item = true ↔ item.id = id ∧ item.status = .processing := by
  simp [markable, NotificationOutboxItem.processing]

end EventTables

end Storage

end CoinListener
