import CoinListener.Storage.Events
import CoinListener.Foundation.Crew
import CoinListener.Foundation.Table

/-! Calls that store events at the same time: the two inserts of a call and its commit, each on its
own.

A call is one transaction: nobody else sees what it inserts before it commits, and nobody else
inserts an event of the same transfer meanwhile. -/
namespace CoinListener.Storage
open Foundation

/-! ### Transactions -/

/-- What a transaction holds until it commits. -/
inductive OpenEvent where
  | idle
  | inserted (event : AddressEvent)
  | notified (event : AddressEvent) (row : NotificationOutboxItem)

namespace OpenEvent

def events : OpenEvent → List AddressEvent
  | .idle => []
  | .inserted event => [event]
  | .notified event _ => [event]

def rows : OpenEvent → List NotificationOutboxItem
  | .notified _ row => [row]
  | _ => []

end OpenEvent

/-- The committed rows and the open transaction of each caller. `passed` are the drafts of all calls,
`completed` those of the calls whose commit was answered. -/
structure EventRace (W : Type) where
  address_events : List AddressEvent
  notification_outbox : List NotificationOutboxItem
  next_id : Uuid
  opened : W → OpenEvent
  passed : List AddressEventDraft
  completed : List AddressEventDraft

inductive EventStatement where
  | begin
  | insert_event_if_not_exists (draft : AddressEventDraft)
  | insert_notification_outbox_for_event (tenant_id event_id : Uuid)
  | commit (draft : AddressEventDraft)
  | rollback

abbrev EventStatement.Answer : EventStatement → Type
  | .insert_event_if_not_exists _ => Option AddressEvent
  | _ => Unit

/-- A row that is due at once. -/
def pending_row (tenant_id event_id : Uuid) : NotificationOutboxItem :=
  { id := event_id
    tenant_id := tenant_id
    event_id := event_id
    status := .pending
    attempt_count := 0
    next_attempt_at := 0
    locked_at := none
    locked_by := none
    last_error := none
    delivered_at := none
    created_at := event_id }

namespace EventRace
variable {W : Type} (s : EventRace W)

/-- An event of that transfer is committed. -/
def HasEvent (key : TransferKey) : Prop :=
  ∃ e ∈ s.address_events, e.unique_transfer = some key

def conflicts (draft : AddressEventDraft) : Bool :=
  draft.unique_transfer.isSome &&
    s.address_events.any (fun e => e.unique_transfer == draft.unique_transfer)

variable [DecidableEq W] (w : W)

def set_opened (opened : OpenEvent) : EventRace W :=
  { s with opened := Function.update s.opened w opened }

/-- The new identifier is used up even if the transaction is rolled back. -/
def insert_event_if_not_exists (draft : AddressEventDraft) : Option AddressEvent × EventRace W :=
  if s.conflicts draft then (none, s)
  else
    let event : AddressEvent := { toAddressEventDraft := draft, id := s.next_id }
    (some event, { s.set_opened w (.inserted event) with next_id := s.next_id + 1 })

/-- The row of the event its transaction has inserted. -/
def insert_notification_outbox_for_event (tenant_id event_id : Uuid) : EventRace W :=
  if s.notification_outbox.any (·.event_id == event_id) then s
  else match s.opened w with
    | .inserted event => s.set_opened w (.notified event (pending_row tenant_id event_id))
    | _ => s

def commit : EventRace W :=
  { s.set_opened w .idle with
    address_events := s.address_events ++ (s.opened w).events
    notification_outbox := s.notification_outbox ++ (s.opened w).rows }

/-- No other transaction has inserted an event of this transfer. -/
def TransferFree (key : TransferKey) : Prop :=
  ∀ v, v ≠ w → ∀ event ∈ (s.opened v).events, event.unique_transfer ≠ some key

end EventRace

section Semantics
variable {W : Type} [DecidableEq W]

/-- What a statement waits for: the index lets only one transaction insert a transfer. -/
def EventStatement.Free (s : EventRace W) (w : W) : EventStatement → Prop
  | .insert_event_if_not_exists draft =>
    ∀ key, draft.unique_transfer = some key → s.TransferFree w key
  | _ => True

/-- The statement carried out. -/
def EventStatement.run (s : EventRace W) (w : W) :
    (op : EventStatement) → op.Answer × EventRace W
  | .begin => ((), s.set_opened w .idle)
  | .insert_event_if_not_exists draft => s.insert_event_if_not_exists w draft
  | .insert_notification_outbox_for_event tenant_id event_id =>
    ((), s.insert_notification_outbox_for_event w tenant_id event_id)
  | .commit _ => ((), s.commit w)
  | .rollback => ((), s.set_opened w .idle)

/-- An answered commit completes the call. -/
def EventStatement.heard (s : EventRace W) : EventStatement → EventRace W
  | .commit draft => { s with completed := s.completed ++ [draft] }
  | _ => s

/-- What may become of a statement: it is answered, it is refused without effect, or it takes effect
while its answer is lost. A refused commit is a rollback. -/
inductive EventCarried (w : W) (s : EventRace W) :
    (op : EventStatement) → AppResult op.Answer → EventRace W → Prop where
  | answered {op} (hfree : op.Free s w) :
    EventCarried w s op (.ok (op.run s w).1) (op.heard (op.run s w).2)
  | refused {op} (message : String) (hop : op ≠ .rollback) :
    EventCarried w s op (.error (.Database message)) s
  | lost {op} (message : String) (hop : op ≠ .rollback) (hfree : op.Free s w) :
    EventCarried w s op (.error (.Database message)) (op.run s w).2
  | commit_refused (draft : AddressEventDraft) (message : String) :
    EventCarried w s (.commit draft) (.error (.Database message)) (s.set_opened w .idle)

/-- The notifier works on the rows meanwhile. -/
inductive EventOthers : EventRace W → EventRace W → Prop where
  | mark {s} (p : NotificationOutboxItem → Bool) (f : NotificationOutboxItem → NotificationOutboxItem)
      (hf : ∀ row, (f row).event_id = row.event_id) :
    EventOthers s { s with notification_outbox := Table.update p f s.notification_outbox }

end Semantics

/-! ### The call -/

abbrev EventProg (α : Type) := Prog EventStatement EventStatement.Answer AppError α

def event_statement (op : EventStatement) : EventProg op.Answer := Prog.perform op

def insert_in_transaction (draft : AddressEventDraft) : EventProg (Option AddressEvent) := do
  let event ← event_statement (.insert_event_if_not_exists draft)
  match event with
  | some event => do
    event_statement (.insert_notification_outbox_for_event event.tenant_id event.id)
    return some event
  | none => return none

/-- A transaction that is dropped is rolled back. -/
def insert_event_and_outbox_if_not_exists (draft : AddressEventDraft) :
    EventProg (Option AddressEvent) := do
  event_statement .begin
  let result ← (insert_in_transaction draft).attempt
  match result with
  | .error error => do
    event_statement .rollback
    Prog.fail error
  | .ok event => do
    event_statement (.commit draft)
    return event

/-- A caller passes a draft, or crashes; what is left of its last transaction is gone. -/
inductive EventLaunch {W : Type} [DecidableEq W] (w : W) (s : EventRace W) :
    EventProg (Option AddressEvent) → EventRace W → Prop where
  | call (draft : AddressEventDraft) :
    EventLaunch w s (insert_event_and_outbox_if_not_exists draft)
      { s.set_opened w .idle with passed := s.passed ++ [draft] }
  | crash : EventLaunch w s (.done none) (s.set_opened w .idle)

/-- One step of any caller or of the notifier. -/
abbrev EventStep {W : Type} [DecidableEq W] :
    EventRace W × (W → EventProg (Option AddressEvent)) →
      EventRace W × (W → EventProg (Option AddressEvent)) → Prop :=
  Prog.Crew EventCarried EventOthers EventLaunch

/-- Nothing stored and no call made yet. -/
def event_start {W : Type} : EventRace W × (W → EventProg (Option AddressEvent)) :=
  ({ address_events := [], notification_outbox := [], next_id := 0, opened := fun _ => .idle,
     passed := [], completed := [] }, fun _ => .done none)

end CoinListener.Storage
