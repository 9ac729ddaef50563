import CoinListener.Api.RealtimeMessages

/-! The realtime messages as the frontend reads them. -/
namespace CoinListener.Frontend
open Foundation Api

/-! ### Reading a message -/

def isRecord : Json → Bool
  | .obj _ => true
  | _ => false

/-- A member that is missing is undefined, and no string. -/
def isString (value : Option Json) : Bool :=
  (value.bind Json.as_str).isSome

def isNotification (value : Json) : Bool :=
  isRecord value && isString (value.get "id") && isString (value.get "tenant_id") &&
    isString (value.get "event_id") && isString (value.get "title") &&
    isString (value.get "body") && isString (value.get "created_at")

def hasType (value : Json) (type : String) : Bool :=
  (value.get "type").bind Json.as_str == some type

/-- The message itself, or null for a text that is none. -/
def parseRealtimeMessage (raw : String) : Option Json := do
  let parsed ← Json.parse .free raw.toList
  if !isRecord parsed || !isString (parsed.get "type") then none
  else if hasType parsed "in_app_notification.created" && (parsed.get "payload").any isNotification then
    some parsed
  else if hasType parsed "ping" &&
      (parsed.get "payload").any (fun payload => isRecord payload &&
        isString (payload.get "sent_at")) then
    some parsed
  else none

/-- What `onNotification` is called with when this text arrives. -/
def receivedNotification (raw : String) : Option Json :=
  (parseRealtimeMessage raw).bind fun message =>
    if hasType message "in_app_notification.created" then message.get "payload" else none

/-- A notification as a page shows it. -/
structure ShownNotification where
  id : String
  tenant_id : String
  event_id : String
  title : String
  body : String
  created_at : String
deriving DecidableEq

def shownNotification (payload : Json) : Option ShownNotification := do
  let id ← (payload.get "id").bind Json.as_str
  let tenant_id ← (payload.get "tenant_id").bind Json.as_str
  let event_id ← (payload.get "event_id").bind Json.as_str
  let title ← (payload.get "title").bind Json.as_str
  let body ← (payload.get "body").bind Json.as_str
  let created_at ← (payload.get "created_at").bind Json.as_str
  return { id := id, tenant_id := tenant_id, event_id := event_id, title := title, body := body
           created_at := created_at }

/-- What is shown when this text arrives. -/
def shownBy (raw : String) : Option ShownNotification :=
  (receivedNotification raw).bind shownNotification

/-! ### What the server sends -/

section Sent
variable (formats : WireFormats) (notification : InAppNotificationRow)

theorem parse_message_text (message : RealtimeServerMessage) :
    Json.parse .free (formats.message_text message).toList = some (formats.message_json message) := by
  rw [WireFormats.message_text, String.toList_ofList]
  exact Json.parse_text (formats.message_fits message rfl rfl)

theorem created_is_notification : isNotification (formats.notification_json notification) = true := by
  simp [isNotification, isRecord, isString, WireFormats.notification_json, Json.get, Json.as_str,
    WireFormats.uuid_json, WireFormats.time_json]

/-- Whatever the server sends is a message to the frontend. -/
theorem message_accepted (message : RealtimeServerMessage) :
    parseRealtimeMessage (formats.message_text message) = some (formats.message_json message) := by
  unfold parseRealtimeMessage
  rw [parse_message_text]
  cases message with
  | InAppNotificationCreated notification =>
    have hpayload := created_is_notification formats notification
    simp [WireFormats.message_json, isRecord, isString, hasType, Json.get, Json.as_str, hpayload]
  | Ping sent_at =>
    simp [WireFormats.message_json, isRecord, isString, hasType, Json.get, Json.as_str,
      WireFormats.time_json]

def shown_of : ShownNotification where
  id := Uuid.to_string notification.id
  tenant_id := Uuid.to_string notification.tenant_id
  event_id := Uuid.to_string notification.event_id
  title := notification.title
  body := notification.body
  created_at := formats.date_time notification.created_at

/-- A notification arrives as the one that was stored. -/
theorem notification_received :
    shownBy (formats.message_text (notification_message notification)) =
      some (shown_of formats notification) := by
  rw [shownBy, receivedNotification, message_accepted]
  simp [notification_message, WireFormats.message_json, WireFormats.notification_json, hasType,
    Json.get, Json.as_str, shownNotification, shown_of, WireFormats.uuid_json, WireFormats.time_json]

/-- A ping is no notification. -/
theorem ping_not_received (sent_at : Timestamp) :
    shownBy (formats.message_text (.Ping sent_at)) = none := by
  rw [shownBy, receivedNotification, message_accepted]
  simp [WireFormats.message_json, hasType, Json.get, Json.as_str]

end Sent

end CoinListener.Frontend
