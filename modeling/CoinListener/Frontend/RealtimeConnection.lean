import CoinListener.Frontend.RealtimeMessages
import Mathlib.Logic.Relation

/-! The realtime connection of a page: it is opened again whenever it is lost, until the page stops
it, the session changes or the server refuses the token. -/
namespace CoinListener.Frontend
open Foundation

/-! ### State -/

/-- The first wait is one second, each further one is twice as long, up to half a minute. -/
def reconnectDelayMs (attempt : Nat) : Nat :=
  min (1000 * 2 ^ attempt) 30000

/-- A web socket as the browser sees it. -/
inductive SocketState where
  | connecting
  | opened
  | closing
  | closed
deriving DecidableEq

def SocketState.live (socket : SocketState) : Bool :=
  socket != .closed

/-- What `close` does. -/
def SocketState.close : SocketState → SocketState
  | .closed => .closed
  | _ => .closing

/-- What the connection has done for the page. -/
inductive RealtimeCall where
  | notified (payload : Json)
  | unauthorized
  | opened
  | waiting (delay_ms : Nat)

structure RealtimeOptions where
  /-- The generation of the session the connection is for, where the page watches it. -/
  generation : Option Nat
  verifyAuth : Bool

/-- The variables of the connection, what the browser holds for it, and what it has done so far,
latest first. Sockets and timers are known by their numbers. -/
structure Realtime where
  stopped : Bool
  attempt : Nat
  opened : Bool
  socket : Option Nat
  reconnectTimer : Option Nat
  sockets : List SocketState
  timers : List Nat
  next_timer : Nat
  probes : Nat
  sessionGeneration : Nat
  calls : List RealtimeCall

namespace Realtime
variable (options : RealtimeOptions) (s : Realtime)

def isStale : Bool :=
  options.generation.any (· != s.sessionGeneration)

/-- No handler does anything any more. -/
def ended : Bool :=
  s.stopped || s.isStale options

def set_socket (i : Nat) (socket : SocketState) : Realtime :=
  { s with sockets := s.sockets.set i socket }

def call (c : RealtimeCall) : Realtime :=
  { s with calls := c :: s.calls }

/-- `socket?.close()`, whatever socket the variable refers to by now. -/
def close : Realtime :=
  match s.socket with
  | some i => { s with sockets := s.sockets.modify i SocketState.close }
  | none => s

def cleanupTimer : Realtime :=
  match s.reconnectTimer with
  | some timer => { s with timers := s.timers.erase timer, reconnectTimer := none }
  | none => s

def scheduleReconnect : Realtime :=
  let delay := reconnectDelayMs s.attempt
  let cleaned := { s with opened := false, attempt := s.attempt + 1 }.cleanupTimer
  { cleaned with
    reconnectTimer := some cleaned.next_timer
    timers := cleaned.timers ++ [cleaned.next_timer]
    next_timer := cleaned.next_timer + 1
    calls := .waiting delay :: cleaned.calls }

def connect : Realtime :=
  if s.ended options then s
  else { s with sockets := s.sockets ++ [.connecting], socket := some s.sockets.length }

/-- Whether the connection was refused is found out by another request, where there is one. -/
def probeUnauthorized : Bool × Realtime :=
  if !options.verifyAuth then (false, s)
  else if s.ended options then (true, s)
  else (true, { s with probes := s.probes + 1 })

/-! ### Handlers -/

def onopen : Realtime :=
  if s.ended options then s.close
  else { s with opened := true, attempt := 0 }.call .opened

/-- A binary message is no text. -/
def onmessage (data : Option String) : Realtime :=
  if s.ended options then s
  else match data.bind receivedNotification with
    | some payload => s.call (.notified payload)
    | none => s

def onclose (code : Nat) : Realtime :=
  if s.ended options then s
  else if code = 1008 then s.call .unauthorized
  else if !s.opened && (s.probeUnauthorized options).1 then (s.probeUnauthorized options).2
  else s.scheduleReconnect

def onerror : Realtime :=
  s.close

def verified : Realtime :=
  if s.ended options then s else s.scheduleReconnect

/-- The status of the response; an error of another kind has none. -/
def isHttpUnauthorized (status : Option Nat) : Bool :=
  status == some 401 || status == some 403

def rejected (status : Option Nat) : Realtime :=
  if s.ended options then s
  else if isHttpUnauthorized status then s.call .unauthorized
  else s.scheduleReconnect

def stop : Realtime :=
  { { s with stopped := true }.cleanupTimer.close with socket := none }

def connectRealtimeNotifications (sessionGeneration : Nat) : Realtime :=
  connect options
    { stopped := false, attempt := 0, opened := false, socket := none, reconnectTimer := none
      sockets := [], timers := [], next_timer := 0, probes := 0
      sessionGeneration := sessionGeneration, calls := [] }

end Realtime

/-! ### Runs -/

/-- What may happen next. The session's generation only grows. -/
inductive RealtimeEvent (options : RealtimeOptions) : Realtime → Realtime → Prop where
  | opened {s} (i : Nat) (h : s.sockets[i]? = some .connecting) :
    RealtimeEvent options s ((s.set_socket i .opened).onopen options)
  | message {s} (i : Nat) (data : Option String) (h : s.sockets[i]? = some .opened) :
    RealtimeEvent options s (s.onmessage options data)
  | failed {s} (i : Nat) {socket} (h : s.sockets[i]? = some socket) (hlive : socket.live = true) :
    RealtimeEvent options s s.onerror
  | closed {s} (i : Nat) (code : Nat) {socket} (h : s.sockets[i]? = some socket)
    (hlive : socket.live = true) :
    RealtimeEvent options s ((s.set_socket i .closed).onclose options code)
  | fired {s} (timer : Nat) (h : timer ∈ s.timers) :
    RealtimeEvent options s ({ s with timers := s.timers.erase timer }.connect options)
  | verified {s} (h : 0 < s.probes) :
    RealtimeEvent options s ({ s with probes := s.probes - 1 }.verified options)
  | rejected {s} (status : Option Nat) (h : 0 < s.probes) :
    RealtimeEvent options s ({ s with probes := s.probes - 1 }.rejected options status)
  | stop {s} : RealtimeEvent options s s.stop
  | session_changed {s} (generation : Nat) (h : s.sessionGeneration ≤ generation) :
    RealtimeEvent options s { s with sessionGeneration := generation }

/-- The states of a connection that was made for the session of that generation. -/
def RealtimeReachable (options : RealtimeOptions) (sessionGeneration : Nat) (s : Realtime) : Prop :=
  Relation.ReflTransGen (RealtimeEvent options)
    (.connectRealtimeNotifications options sessionGeneration) s

namespace Realtime

/-- How many sockets are not closed yet. -/
def live_sockets (s : Realtime) : Nat :=
  s.sockets.countP SocketState.live

/-- How much is under way: sockets, timers and requests that verify the session. -/
def busy (s : Realtime) : Nat :=
  s.live_sockets + s.timers.length + s.probes

end Realtime

end CoinListener.Frontend
