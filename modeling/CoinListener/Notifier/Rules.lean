import CoinListener.Core.Models
import CoinListener.Foundation.Numeral
import CoinListener.Notifier.External

/-! Which rules an event matches, which channels a rule resolves to, and what each channel gets. -/
namespace CoinListener.Notifier
open Foundation

/-! ### Rules -/

def normalize_non_negative_integer (value : String) : Option (List Char) :=
  let characters := value.toList
  if characters.isEmpty || !characters.all Char.isDigit then none
  else match characters.dropWhile (· == '0') with
    | [] => some ['0']
    | normalized => some normalized

/-- Longer numerals are greater; numerals of one length compare character by character. -/
def amount_raw_meets_minimum (amount_raw min_amount_raw : Option String) : Bool :=
  match min_amount_raw with
  | none => true
  | some min_amount_raw =>
    match amount_raw with
    | none => false
    | some amount_raw =>
      match normalize_non_negative_integer amount_raw,
        normalize_non_negative_integer min_amount_raw with
      | some amount, some minimum =>
        if minimum.length < amount.length then true
        else if amount.length < minimum.length then false
        else Numeral.text_le minimum amount
      | _, _ => false

def notification_rule_matches_event (rule : NotificationRule) (event : AddressEvent) : Bool :=
  if rule.tenant_id ≠ event.tenant_id || !rule.enabled then false
  else if rule.chain_id.any (· != event.chain_id) then false
  else if rule.address_id.any (· != event.address_id) then false
  else if rule.asset_id.any (· != event.asset_id) then false
  else if rule.event_type.any (· != event.event_type) then false
  else if rule.is_transfer.any (· != event.is_transfer) then false
  else if rule.direction.any (· != event.direction) then false
  else amount_raw_meets_minimum event.amount_raw rule.min_amount_raw

/-! ### Contents -/

/-- The amount of an event as it is shown. -/
def shown_amount (event : AddressEvent) : String :=
  (event.amount_decimal.or event.amount_raw).getD "-"

def build_in_app_notification_content (event : AddressEvent) : String × String :=
  (event.event_type ++ " " ++ event.direction,
    "address: " ++ Uuid.to_string event.address_id ++ "; asset: " ++
      Uuid.to_string event.asset_id ++ "; amount: " ++ shown_amount event ++ "; tx: " ++
      event.tx_hash.getD "-")

def render_external_notification_text (event : AddressEvent) : String :=
  event.event_type ++ " " ++ event.direction ++ "\naddress: " ++
    Uuid.to_string event.address_id ++ "\nasset: " ++ Uuid.to_string event.asset_id ++
    "\namount: " ++ shown_amount event ++ "\ntx: " ++ event.tx_hash.getD "-"

/-! ### Channels -/

inductive ExternalChannelType where
  | Telegram | Webhook
deriving DecidableEq

def ExternalChannelType.as_str : ExternalChannelType → String
  | .Telegram => "telegram"
  | .Webhook => "webhook"

inductive NotifyChannelDecision where
  | InApp
  | External (channel_type : ExternalChannelType)
  | Skipped (last_error : String)
deriving DecidableEq

inductive ResolvedNotifyChannel where
  | Active (channel : NotificationChannel)
  | Inactive (channel_id : Uuid)
  | Missing (channel_id : Uuid)

structure NotifyDeliveryPlan where
  channel_id : Uuid
  channel_type : Option String
  status : DeliveryStatus
  last_error : Option String
  create_in_app : Bool
  external_channel_type : Option ExternalChannelType
deriving DecidableEq

def NOT_IMPLEMENTED_CHANNEL_ERROR : String := "channel type not implemented"
def UNAVAILABLE_CHANNEL_ERROR : String := "channel unavailable"
def MISSING_CHANNEL_ERROR_PREFIX : String := "channel missing"

def notify_channel_decision (channel_type : String) : NotifyChannelDecision :=
  if channel_type = "in_app" then .InApp
  else if channel_type = "telegram" then .External .Telegram
  else if channel_type = "webhook" then .External .Webhook
  else .Skipped NOT_IMPLEMENTED_CHANNEL_ERROR

def build_delivery_plan (channel : NotificationChannel) : NotifyDeliveryPlan :=
  match notify_channel_decision channel.channel_type with
  | .InApp =>
    { channel_id := channel.id
      channel_type := some channel.channel_type
      status := .sent
      last_error := none
      create_in_app := true
      external_channel_type := none }
  | .External channel_type =>
    { channel_id := channel.id
      channel_type := some channel.channel_type
      status := .processing
      last_error := none
      create_in_app := false
      external_channel_type := some channel_type }
  | .Skipped last_error =>
    { channel_id := channel.id
      channel_type := some channel.channel_type
      status := .skipped
      last_error := some last_error
      create_in_app := false
      external_channel_type := none }

def build_unavailable_channel_delivery_plan (channel_id : Uuid) : NotifyDeliveryPlan :=
  { channel_id := channel_id
    channel_type := none
    status := .skipped
    last_error := some UNAVAILABLE_CHANNEL_ERROR
    create_in_app := false
    external_channel_type := none }

def missing_channel_error (channel_id : Uuid) : String :=
  MISSING_CHANNEL_ERROR_PREFIX ++ ": " ++ Uuid.to_string channel_id

def delivery_sent_at (status : DeliveryStatus) (now : Timestamp) : Option Timestamp :=
  if status = .sent then some now else none

/-- Each channel of the rule, in the rule's order. -/
def resolve_explicit_rule_channels (channel_ids : List Uuid)
    (existing_channels active_channels : List NotificationChannel) : List ResolvedNotifyChannel :=
  channel_ids.map fun channel_id =>
    match active_channels.find? (·.id == channel_id) with
    | some channel => .Active channel
    | none =>
      if existing_channels.any (·.id == channel_id) then .Inactive channel_id
      else .Missing channel_id

/-! ### Attempts -/

structure NotifyEventTask where
  task_id : Uuid
  event_id : Uuid
  tenant_id : Uuid
  attempt : Nat
  enqueued_at : Timestamp
deriving DecidableEq

def notification_outbox_next_attempt_at (now : Timestamp) (attempt_count : Int) : Timestamp :=
  now + match attempt_count with
    | 0 | 1 => 30
    | 2 => 60
    | 3 => 300
    | 4 => 900
    | _ => 3600

def notification_outbox_should_fail (attempt_count max_attempts : Int) : Bool :=
  max_attempts ≤ attempt_count

/-- The attempt as a 16-bit number, held at its upper end. -/
def notification_outbox_task_attempt (attempt_count : Int) : Nat :=
  if attempt_count ≤ 0 then 0 else min attempt_count.toNat 65535

def notify_task_from_outbox_item (item : NotificationOutboxItem) : NotifyEventTask :=
  { task_id := item.id
    event_id := item.event_id
    tenant_id := item.tenant_id
    attempt := notification_outbox_task_attempt item.attempt_count
    enqueued_at := item.created_at }

def notification_idempotency_key (tenant_id event_id rule_id channel_id : Uuid) : String :=
  "notification:v1:" ++ Uuid.to_string tenant_id ++ ":" ++ Uuid.to_string event_id ++ ":" ++
    Uuid.to_string rule_id ++ ":" ++ Uuid.to_string channel_id

def external_send_outcome_result : ExternalSendOutcome → AppResult Unit
  | .Sent _ => .ok ()
  | .PermanentFailure _ => .ok ()
  | .TransientFailure metadata =>
    .error (.ExternalNotification
      (metadata.last_error.getD "external notification transient failure"))

end CoinListener.Notifier
