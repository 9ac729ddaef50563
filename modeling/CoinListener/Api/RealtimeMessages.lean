import CoinListener.Core.Wire

/-! The messages of the realtime channel, as they are written to the database's notifications and to
web sockets. -/
namespace CoinListener
open Foundation

namespace Api

/-! ### Messages -/

/-- A stored in-app notification with the times it was created and read at. -/
structure InAppNotificationRow extends InAppNotification where
  read_at : Option Timestamp
  created_at : Timestamp
deriving DecidableEq

inductive RealtimeServerMessage where
  | InAppNotificationCreated (notification : InAppNotificationRow)
  | Ping (sent_at : Timestamp)
deriving DecidableEq

namespace RealtimeServerMessage

def message_type : RealtimeServerMessage → String
  | .InAppNotificationCreated _ => "in_app_notification.created"
  | .Ping _ => "ping"

/-- No tenant has the nil identifier that stands in for a ping's. -/
def tenant_id : RealtimeServerMessage → Uuid
  | .InAppNotificationCreated notification => notification.tenant_id
  | .Ping _ => 0

end RealtimeServerMessage

def notification_message (notification : InAppNotificationRow) : RealtimeServerMessage :=
  .InAppNotificationCreated notification

end Api

/-! ### Texts -/

namespace WireFormats
open Api
variable (formats : WireFormats)

def notification_json (notification : InAppNotificationRow) : Json :=
  .obj [("id", uuid_json notification.id), ("tenant_id", uuid_json notification.tenant_id),
    ("event_id", uuid_json notification.event_id),
    ("delivery_id", nullable uuid_json notification.delivery_id),
    ("title", .str notification.title), ("body", .str notification.body),
    ("read_at", nullable formats.time_json notification.read_at),
    ("created_at", formats.time_json notification.created_at)]

def message_json : RealtimeServerMessage → Json
  | .InAppNotificationCreated notification =>
    .obj [("type", .str "in_app_notification.created"),
      ("payload", formats.notification_json notification)]
  | .Ping sent_at =>
    .obj [("type", .str "ping"), ("payload", .obj [("sent_at", formats.time_json sent_at)])]

/-- What is published when the notification has been stored. -/
def notify_payload (notification : InAppNotificationRow) : String :=
  String.ofList (formats.notification_json notification).text

/-- What is sent to a web socket. -/
def message_text (message : RealtimeServerMessage) : String :=
  String.ofList (formats.message_json message).text

/-! ### Reading a notification -/

def notification_keys : List String :=
  ["id", "tenant_id", "event_id", "delivery_id", "title", "body", "read_at", "created_at"]

def notification_members (id tenant_id event_id delivery_id title body read_at created_at :
    Option Json) : Option InAppNotificationRow := do
  let id ← id.bind formats.uuid_of
  let tenant_id ← tenant_id.bind formats.uuid_of
  let event_id ← event_id.bind formats.uuid_of
  let delivery_id ← optional formats.uuid_of delivery_id
  let title ← title.bind Json.as_str
  let body ← body.bind Json.as_str
  let read_at ← optional formats.time_of read_at
  let created_at ← created_at.bind formats.time_of
  return { id := id, tenant_id := tenant_id, event_id := event_id, delivery_id := delivery_id
           title := title, body := body, read_at := read_at, created_at := created_at }

def notification_of (v : Json) : Option InAppNotificationRow := do
  let member ← record_members notification_keys v
  formats.notification_members (member "id") (member "tenant_id") (member "event_id")
    (member "delivery_id") (member "title") (member "body") (member "read_at") (member "created_at")

/-- `message_from_notify_payload`; the text of the error is the reader's own. -/
def message_from_notify_payload (payload : String) : Option RealtimeServerMessage :=
  ((Json.parse formats.limits payload.toList).bind formats.notification_of).map notification_message

end WireFormats

/-- The identifiers of a row have 128 bits. -/
structure Api.InAppNotificationRow.Sized (notification : InAppNotificationRow) : Prop where
  id : notification.id < 2 ^ 128
  tenant_id : notification.tenant_id < 2 ^ 128
  event_id : notification.event_id < 2 ^ 128
  delivery_id : ∀ id, notification.delivery_id = some id → id < 2 ^ 128

namespace WireFormats
open Api
variable (formats : WireFormats) {notification : InAppNotificationRow}

/-- Writing a notification and reading it gives the notification. -/
theorem notification_of_json (h : notification.Sized) :
    formats.notification_of (formats.notification_json notification) = some notification := by
  have hdelivery : optional formats.uuid_of (some (nullable uuid_json notification.delivery_id)) =
      some notification.delivery_id :=
    optional_nullable (fun id hid => formats.uuid_of_json (h.delivery_id id hid))
      fun id => ⟨_, rfl⟩
  have hread : optional formats.time_of (some (nullable formats.time_json notification.read_at)) =
      some notification.read_at :=
    optional_nullable (fun t _ => formats.time_of_json t) fun t => ⟨_, rfl⟩
  change formats.notification_members (some _) (some _) (some _) (some _) (some _) (some _) (some _)
    (some _) = _
  simp only [notification_members, Option.bind_some, formats.uuid_of_json h.id,
    formats.uuid_of_json h.tenant_id, formats.uuid_of_json h.event_id, hdelivery, hread,
    formats.time_of_json, Json.as_str]
  rfl

theorem notification_fits (notification : InAppNotificationRow) {limits : Json.Limits} {depth : Nat}
    (h : limits.nests depth = true) :
    Json.fits limits depth (formats.notification_json notification) = true := by
  have hdelivery : Json.fits limits (depth + 1) (nullable uuid_json notification.delivery_id) = true :=
    nullable_fits limits _ _ fun id => ⟨_, rfl⟩
  have hread : Json.fits limits (depth + 1) (nullable formats.time_json notification.read_at) = true :=
    nullable_fits limits _ _ fun t => ⟨_, rfl⟩
  simp only [notification_json, Json.fits, Json.fits_fields, h, hdelivery, hread, uuid_json, time_json,
    Bool.and_self]

theorem message_fits (message : RealtimeServerMessage) {limits : Json.Limits}
    (hzero : limits.nests 0 = true) (hone : limits.nests 1 = true) :
    Json.fits limits 0 (formats.message_json message) = true := by
  cases message with
  | InAppNotificationCreated notification =>
    have hpayload := formats.notification_fits notification hone
    simp [message_json, Json.fits, Json.fits_fields, hzero, hpayload]
  | Ping sent_at => simp [message_json, Json.fits, Json.fits_fields, hzero, hone, time_json]

/-- What is published of a notification is heard as that notification. -/
theorem payload_read_back (h : notification.Sized) :
    formats.message_from_notify_payload (formats.notify_payload notification) =
      some (notification_message notification) := by
  have hparse : Json.parse formats.limits (formats.notify_payload notification).toList =
      some (formats.notification_json notification) := by
    rw [notify_payload, String.toList_ofList]
    exact Json.parse_text (formats.notification_fits notification formats.nests.1)
  rw [message_from_notify_payload, hparse, Option.bind_some, formats.notification_of_json h]
  rfl

end WireFormats

end CoinListener
