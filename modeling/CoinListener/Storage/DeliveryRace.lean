import CoinListener.Storage.Deliveries
import CoinListener.Foundation.Crew

/-! Attempts on external deliveries that race: the statements of a begin and the marks, each on its
own.

A begin is one transaction: nobody else sees the row it inserts, and nobody else changes the row it
has locked, before it commits. -/
namespace CoinListener.Storage
open Foundation

/-! ### Transactions -/

/-- What a transaction holds until it commits. -/
inductive OpenDelivery where
  | idle
  | inserted (delivery : NotificationDelivery)
  | locked (delivery : NotificationDelivery)
  | restarted (delivery : NotificationDelivery) (attempt_count : Int)
deriving DecidableEq

namespace OpenDelivery

/-- The row it has locked, as it was before. -/
def held : OpenDelivery → Option NotificationDelivery
  | .idle => none
  | .inserted _ => none
  | .locked delivery => some delivery
  | .restarted delivery _ => some delivery

/-- The rows once it has committed. -/
def commit (rows : List NotificationDelivery) : OpenDelivery → List NotificationDelivery
  | .idle => rows
  | .inserted delivery => rows ++ [delivery]
  | .locked _ => rows
  | .restarted delivery attempt_count =>
    Table.update (·.id == delivery.id) (·.restarted attempt_count) rows

end OpenDelivery

/-- What a begin answers, and to whom. -/
structure BeginAnswer where
  target : ExternalTarget
  attempt_count : Int
  start : ExternalDeliveryStart
deriving DecidableEq

/-- The delivery that is ready to send and the attempt it is ready for. -/
def BeginAnswer.ready (answer : BeginAnswer) : Option (Uuid × Int) :=
  match answer.start with
  | .AlreadyComplete _ => none
  | .ReadyToSend delivery_id => some (delivery_id, answer.attempt_count)

inductive MarkChange where
  | sent (sent_at : Timestamp) (provider_message_id : Option String)
      (provider_status_code : Option Int) (provider_response : Option String)
  | failed (failure : DeliveryFailure) (last_error : String) (provider_status_code : Option Int)
      (provider_response : Option String)
deriving DecidableEq

def MarkChange.apply : MarkChange → NotificationDelivery → NotificationDelivery
  | .sent sent_at provider_message_id provider_status_code provider_response =>
    (·.marked_sent sent_at provider_message_id provider_status_code provider_response)
  | .failed failure last_error provider_status_code provider_response =>
    (·.marked_failed failure last_error provider_status_code provider_response)

/-- `MARK_EXTERNAL_NOTIFICATION_DELIVERY_SENT_QUERY` or its sibling for failures. -/
structure ExternalMark where
  tenant_id : Uuid
  delivery_id : Uuid
  attempt_count : Int
  change : MarkChange
deriving DecidableEq

/-- The row the mark is for. -/
def ExternalMark.marks (mark : ExternalMark) (delivery : NotificationDelivery) : Bool :=
  delivery.under_way mark.delivery_id mark.tenant_id mark.attempt_count

/-- The committed rows and the open transaction of each caller. `answers` are those of the begins
whose commit was answered; `ready` are the attempts a commit has made ready to send, answered or not,
in the order of the commits. -/
structure DeliveryRace (W : Type) where
  events : List AddressEvent
  settings : NotifySettings
  notification_deliveries : List NotificationDelivery
  next_id : Uuid
  opened : W → OpenDelivery
  ready : List (Uuid × Int)
  answers : List BeginAnswer

inductive DeliveryStatement where
  | begin
  | insert_external_notification_delivery (target : ExternalTarget) (attempt_count : Int)
  | select_external_notification_delivery (target : ExternalTarget)
  | update_external_notification_delivery_processing (delivery_id tenant_id : Uuid)
      (attempt_count : Int)
  | mark_external_notification_delivery (mark : ExternalMark)
  | commit (answer : BeginAnswer)
  | rollback

abbrev DeliveryStatement.Answer : DeliveryStatement → Type
  | .begin => Unit
  | .insert_external_notification_delivery .. => Option NotificationDelivery
  | .select_external_notification_delivery _ => Option (Uuid × DeliveryStatus × Int)
  | .update_external_notification_delivery_processing .. => Option NotificationDelivery
  | .mark_external_notification_delivery _ => Option NotificationDelivery
  | .commit _ => Unit
  | .rollback => Unit

namespace DeliveryRace
variable {W : Type} [DecidableEq W] (s : DeliveryRace W) (w : W)

def set_opened (opened : OpenDelivery) : DeliveryRace W :=
  { s with opened := Function.update s.opened w opened }

/-- The new identifier is used up even if the transaction is rolled back. -/
def insert_external_notification_delivery (target : ExternalTarget) (attempt_count : Int) :
    Option NotificationDelivery × DeliveryRace W :=
  if s.settings.has_target s.events target &&
      !s.notification_deliveries.any (·.unique_key == some target.key) then
    let delivery := target.new_delivery s.next_id attempt_count
    (some delivery, { s.set_opened w (.inserted delivery) with next_id := s.next_id + 1 })
  else (none, s)

def select_external_notification_delivery (target : ExternalTarget) :
    Option (Uuid × DeliveryStatus × Int) × DeliveryRace W :=
  match s.notification_deliveries.find? target.selects with
  | some delivery => (some (delivery.id, delivery.status, delivery.attempt_count),
      s.set_opened w (.locked delivery))
  | none => (none, s)

def update_external_notification_delivery_processing (delivery_id tenant_id : Uuid)
    (attempt_count : Int) : Option NotificationDelivery × DeliveryRace W :=
  match s.notification_deliveries.find? fun delivery => delivery.id == delivery_id &&
      delivery.tenant_id == tenant_id && decide (delivery.attempt_count < attempt_count) with
  | some delivery => (some (delivery.restarted attempt_count),
      s.set_opened w (.restarted delivery attempt_count))
  | none => (none, s)

/-- A mark commits by itself. -/
def mark_external_notification_delivery (mark : ExternalMark) :
    Option NotificationDelivery × DeliveryRace W :=
  ((s.notification_deliveries.find? mark.marks).map mark.change.apply, { s with
    notification_deliveries :=
      Table.update mark.marks mark.change.apply s.notification_deliveries })

def commit (answer : BeginAnswer) : DeliveryRace W :=
  { s.set_opened w .idle with
    notification_deliveries := (s.opened w).commit s.notification_deliveries
    ready := s.ready ++ answer.ready.toList }

/-- No other transaction has the row locked. -/
def Unlocked (id : Uuid) : Prop :=
  ∀ v, v ≠ w → ∀ delivery, (s.opened v).held = some delivery → delivery.id ≠ id

/-- No other transaction has inserted a row of this key. -/
def KeyFree (key : DeliveryKey) : Prop :=
  ∀ v, v ≠ w → ∀ delivery, s.opened v = .inserted delivery → delivery.unique_key ≠ some key

end DeliveryRace

section Semantics
variable {W : Type} [DecidableEq W]

/-- The locks a statement waits for. -/
def DeliveryStatement.Free (s : DeliveryRace W) (w : W) : DeliveryStatement → Prop
  | .insert_external_notification_delivery target _ =>
    s.settings.has_target s.events target = true → s.KeyFree w target.key
  | .select_external_notification_delivery target =>
    ∀ delivery ∈ s.notification_deliveries, target.selects delivery = true →
      s.Unlocked w delivery.id
  | .update_external_notification_delivery_processing delivery_id .. => s.Unlocked w delivery_id
  | .mark_external_notification_delivery mark =>
    ∀ delivery ∈ s.notification_deliveries, mark.marks delivery = true → s.Unlocked w delivery.id
  | _ => True

/-- The statement carried out. -/
def DeliveryStatement.run (s : DeliveryRace W) (w : W) :
    (op : DeliveryStatement) → op.Answer × DeliveryRace W
  | .begin => ((), s.set_opened w .idle)
  | .insert_external_notification_delivery target attempt_count =>
    s.insert_external_notification_delivery w target attempt_count
  | .select_external_notification_delivery target =>
    s.select_external_notification_delivery w target
  | .update_external_notification_delivery_processing delivery_id tenant_id attempt_count =>
    s.update_external_notification_delivery_processing w delivery_id tenant_id attempt_count
  | .mark_external_notification_delivery mark => s.mark_external_notification_delivery mark
  | .commit answer => ((), s.commit w answer)
  | .rollback => ((), s.set_opened w .idle)

/-- An answered commit is what the caller gets to hear. -/
def DeliveryStatement.heard (s : DeliveryRace W) : DeliveryStatement → DeliveryRace W
  | .commit answer => { s with answers := s.answers ++ [answer] }
  | _ => s

/-- What may become of a statement: it is answered, it is refused without effect, or it takes effect
while its answer is lost. A refused commit is a rollback. -/
inductive DeliveryCarried (w : W) (s : DeliveryRace W) :
    (op : DeliveryStatement) → AppResult op.Answer → DeliveryRace W → Prop where
  | answered {op} (hfree : op.Free s w) :
    DeliveryCarried w s op (.ok (op.run s w).1) (op.heard (op.run s w).2)
  | refused {op} (message : String) (hop : op ≠ .rollback) :
    DeliveryCarried w s op (.error (.Database message)) s
  | lost {op} (message : String) (hop : op ≠ .rollback) (hfree : op.Free s w) :
    DeliveryCarried w s op (.error (.Database message)) (op.run s w).2
  | commit_refused (answer : BeginAnswer) (message : String) :
    DeliveryCarried w s (.commit answer) (.error (.Database message)) (s.set_opened w .idle)

/-- Events come and the tenants set up rules and channels meanwhile. -/
inductive DeliveryOthers : DeliveryRace W → DeliveryRace W → Prop where
  | edit {s} (events : List AddressEvent) (settings : NotifySettings) :
    DeliveryOthers s { s with events := events, settings := settings }

end Semantics

/-! ### The calls -/

abbrev DeliveryProg (α : Type) := Prog DeliveryStatement DeliveryStatement.Answer AppError α

def delivery_statement (op : DeliveryStatement) : DeliveryProg op.Answer := Prog.perform op

section Calls
variable (target : ExternalTarget) (attempt_count : Int)

def begin_in_transaction : DeliveryProg ExternalDeliveryStart := do
  let inserted ← delivery_statement
    (.insert_external_notification_delivery target attempt_count)
  match inserted with
  | some delivery => return .ReadyToSend delivery.id
  | none => do
    let selected ← delivery_statement (.select_external_notification_delivery target)
    let existing ← Prog.lift
      (required selected (.NotFound "external notification delivery target"))
    match external_delivery_start_from_status_and_attempt existing.1 existing.2.1 existing.2.2
      attempt_count with
    | .AlreadyComplete delivery_id => return .AlreadyComplete delivery_id
    | .ReadyToSend delivery_id => do
      let updated ← delivery_statement (.update_external_notification_delivery_processing
        delivery_id target.tenant_id attempt_count)
      let _ ← Prog.lift (required updated (.NotFound "external notification delivery"))
      return .ReadyToSend delivery_id

/-- A transaction that is dropped is rolled back. -/
def begin_external_notification_delivery : DeliveryProg Unit := do
  delivery_statement .begin
  let result ← (begin_in_transaction target attempt_count).attempt
  match result with
  | .error error => do
    delivery_statement .rollback
    Prog.fail error
  | .ok start => delivery_statement (.commit ⟨target, attempt_count, start⟩)

def mark_external_notification_delivery (mark : ExternalMark) : DeliveryProg Unit := do
  let marked ← delivery_statement (.mark_external_notification_delivery mark)
  let _ ← Prog.lift (required marked (.NotFound "external notification delivery"))
  return ()

end Calls

/-- A caller makes a new call, for any delivery and with any number; what is left of its last
transaction is gone. -/
inductive DeliveryLaunch {W : Type} [DecidableEq W] (w : W) (s : DeliveryRace W) :
    DeliveryProg Unit → DeliveryRace W → Prop where
  | begin (target : ExternalTarget) (attempt_count : Int) :
    DeliveryLaunch w s (begin_external_notification_delivery target attempt_count)
      (s.set_opened w .idle)
  | mark (mark : ExternalMark) :
    DeliveryLaunch w s (mark_external_notification_delivery mark) (s.set_opened w .idle)

/-- One step of any caller or of anybody else. -/
abbrev DeliveryStep {W : Type} [DecidableEq W] :
    DeliveryRace W × (W → DeliveryProg Unit) → DeliveryRace W × (W → DeliveryProg Unit) → Prop :=
  Prog.Crew DeliveryCarried DeliveryOthers DeliveryLaunch

/-- No delivery and no call made yet. -/
def delivery_start {W : Type} : DeliveryRace W × (W → DeliveryProg Unit) :=
  ({ events := [], settings := .empty, notification_deliveries := [], next_id := 0,
     opened := fun _ => .idle, ready := [], answers := [] }, fun _ => .done ())

end CoinListener.Storage
