import CoinListener.Foundation.Broadcast
import CoinListener.Frontend.RealtimeMessages
import Mathlib.Data.Nat.Log
import Mathlib.Logic.Function.Basic
import Mathlib.Logic.Relation

/-! In-app notifications on their way to the browsers: a notifier stores one and publishes it, the API
server's listener hears it, the hub hands it to the tenant's connections, and each connection writes
it to its web socket. -/
namespace CoinListener.Api
open Foundation Frontend

/-! ### The hub -/

/-- The messages each tenant's channel has been sent. A tenant gets its channel from its first
connection and keeps it. -/
abbrev RealtimeHub := Uuid → Option (List RealtimeServerMessage)

namespace RealtimeHub
variable (hub : RealtimeHub)

def subscribe_async (tenant_id : Uuid) : Broadcast.Receiver RealtimeServerMessage × RealtimeHub :=
  let sent := (hub tenant_id).getD []
  (Broadcast.subscribe sent, Function.update hub tenant_id (some sent))

/-- A message sent while nobody is connected is read by nobody: later connections start behind it. -/
def broadcast_async (message : RealtimeServerMessage) : RealtimeHub :=
  match hub message.tenant_id with
  | some sent => Function.update hub message.tenant_id (some (sent ++ [message]))
  | none => hub

end RealtimeHub

/-- A channel keeps the next power of two. -/
def channel_capacity (buffer_size : Nat) : Nat :=
  2 ^ Nat.clog 2 buffer_size

/-! ### The system -/

/-- `websocket_connection`: what it has written to its web socket, until it stops. -/
structure Connection where
  tenant_id : Uuid
  receiver : Broadcast.Receiver RealtimeServerMessage
  written : List RealtimeServerMessage
  live : Bool

/-- `rows` are the notifications as they were stored; `announcing` tells which one a notifier has
stored and is about to publish, and `listener` which payloads the listener has yet to take while it
is connected. -/
structure RealtimeSystem (W C : Type) where
  rows : List InAppNotificationRow
  announcing : W → Option InAppNotificationRow
  listener : Option (List String)
  hub : RealtimeHub
  connections : C → Option Connection

def RealtimeSystem.start {W C : Type} : RealtimeSystem W C where
  rows := []
  announcing _ := none
  listener := none
  hub _ := none
  connections _ := none

inductive RealtimeLabel (W C : Type) where
  | store (w : W)
  | publish (w : W)
  | abandon (w : W)
  | listen
  | disconnect
  | hear
  | connect (c : C)
  | lag (c : C)
  | deliver (c : C)
  | undelivered (c : C)
  | ping (c : C)
  | close (c : C)

variable {W C : Type} [DecidableEq W] [DecidableEq C]

namespace RealtimeSystem
variable (s : RealtimeSystem W C)

def announce (w : W) (row : Option InAppNotificationRow) : RealtimeSystem W C :=
  { s with announcing := Function.update s.announcing w row }

def set_connection (c : C) (connection : Connection) : RealtimeSystem W C :=
  { s with connections := Function.update s.connections c (some connection) }

/-- What the listener does with a payload: one it cannot read is logged and passed over. -/
def heard (formats : WireFormats) (payload : String) (rest : List String) : RealtimeSystem W C :=
  { s with
    listener := some rest
    hub := match formats.message_from_notify_payload payload with
      | some message => s.hub.broadcast_async message
      | none => s.hub }

end RealtimeSystem

def Connection.advance (capacity : Nat) (sent : List RealtimeServerMessage) (connection : Connection) :
    Connection :=
  { connection with receiver := connection.receiver.advance capacity sent }

def Connection.write (message : RealtimeServerMessage) (connection : Connection) : Connection :=
  { connection with written := connection.written ++ [message] }

def Connection.stop (connection : Connection) : Connection :=
  { connection with live := false }

/-- `create_sent_in_app_delivery` stores a notification in one transaction and publishes it once,
whatever becomes of that. A connection receives, pings or stops; `recv_realtime_message` receives
again where it has missed messages. -/
inductive RealtimeStep (formats : WireFormats) (capacity : Nat) :
    RealtimeLabel W C → RealtimeSystem W C → RealtimeSystem W C → Prop where
  | store {s} (w : W) (row : InAppNotificationRow) (hidle : s.announcing w = none)
    (hsized : row.Sized) (hnew : ∀ old ∈ s.rows, old.id ≠ row.id) :
    RealtimeStep formats capacity (.store w) s
      { s.announce w (some row) with rows := s.rows ++ [row] }
  | publish {s} (w : W) (row : InAppNotificationRow) (h : s.announcing w = some row) :
    RealtimeStep formats capacity (.publish w) s
      { s.announce w none with
        listener := s.listener.map (· ++ [formats.notify_payload row]) }
  | abandon {s} (w : W) : RealtimeStep formats capacity (.abandon w) s (s.announce w none)
  | listen {s} (h : s.listener = none) :
    RealtimeStep formats capacity .listen s { s with listener := some [] }
  | disconnect {s} : RealtimeStep formats capacity .disconnect s { s with listener := none }
  | hear {s payload rest} (h : s.listener = some (payload :: rest)) :
    RealtimeStep formats capacity .hear s (s.heard formats payload rest)
  | connect {s} (c : C) (tenant_id : Uuid) (h : s.connections c = none) :
    RealtimeStep formats capacity (.connect c) s
      { s.set_connection c
          { tenant_id := tenant_id
            receiver := (s.hub.subscribe_async tenant_id).1
            written := []
            live := true } with
        hub := (s.hub.subscribe_async tenant_id).2 }
  | lag {s c connection sent missed next} (h : s.connections c = some connection)
    (hlive : connection.live = true) (hsent : s.hub connection.tenant_id = some sent)
    (hreceive : Broadcast.receive capacity sent connection.receiver.next = (.lagged missed, next)) :
    RealtimeStep formats capacity (.lag c) s (s.set_connection c (connection.advance capacity sent))
  | deliver {s c connection sent message next} (h : s.connections c = some connection)
    (hlive : connection.live = true) (hsent : s.hub connection.tenant_id = some sent)
    (hreceive : Broadcast.receive capacity sent connection.receiver.next = (.message message, next)) :
    RealtimeStep formats capacity (.deliver c) s
      (s.set_connection c ((connection.advance capacity sent).write message))
  | undelivered {s c connection sent message next} (h : s.connections c = some connection)
    (hlive : connection.live = true) (hsent : s.hub connection.tenant_id = some sent)
    (hreceive : Broadcast.receive capacity sent connection.receiver.next = (.message message, next)) :
    RealtimeStep formats capacity (.undelivered c) s
      (s.set_connection c (connection.advance capacity sent).stop)
  | ping {s c connection} (sent_at : Timestamp) (h : s.connections c = some connection)
    (hlive : connection.live = true) :
    RealtimeStep formats capacity (.ping c) s (s.set_connection c (connection.write (.Ping sent_at)))
  | close {s c connection} (h : s.connections c = some connection) :
    RealtimeStep formats capacity (.close c) s (s.set_connection c connection.stop)

/-- Any step. -/
def RealtimeMove (formats : WireFormats) (capacity : Nat) (s t : RealtimeSystem W C) : Prop :=
  ∃ label, RealtimeStep formats capacity label s t

/-- The notifications among what a connection has written. -/
def Connection.notifications (connection : Connection) : List RealtimeServerMessage :=
  connection.written.filter fun message => message.message_type == "in_app_notification.created"

/-- What the browser at the other end shows. -/
def Connection.shown (formats : WireFormats) (connection : Connection) : List ShownNotification :=
  (connection.written.map formats.message_text).filterMap shownBy

end CoinListener.Api
