import CoinListener.Foundation.Js
import CoinListener.Frontend.RealtimeMessages
import Mathlib.Logic.Relation

/-! The session of a page. It is kept in memory and, for pages that are opened later, in the storage
that the pages of a browser share. -/
namespace CoinListener.Frontend
open Foundation

/-! ### A page and the storage -/

/-- What a page remembers of its session. -/
structure SessionMemory where
  currentSession : Option Json
  sessionGeneration : Nat

/-- The memory of one page with the text that is stored under the session's key. -/
structure SessionStore extends SessionMemory where
  stored : Option String

structure AuthRequestContext where
  token : Option String
  generation : Nat
deriving DecidableEq

def nonblank (value : Option Json) : Bool :=
  (value.bind Json.as_str).any fun text => !(Js.trim text.toList).isEmpty

def isLoginResponse (value : Json) : Bool :=
  isRecord value && nonblank (value.get "token") &&
    (value.get "user").any (fun user => isRecord user && isString (user.get "id") &&
      isString (user.get "email") && isString (user.get "display_name")) &&
    (value.get "tenant").any fun tenant => isRecord tenant && isString (tenant.get "id") &&
      isString (tenant.get "name") && isString (tenant.get "status")

def session_token (session : Json) : Option String :=
  (session.get "token").bind Json.as_str

/-- Whether the browser lets the page use the storage. -/
abbrev Works := Bool

namespace SessionStore
variable (works : Works) (s : SessionStore)

def readStoredSession : Option String :=
  if works then s.stored else none

def writeStoredSession (session : Json) : SessionStore :=
  if works then { s with stored := some (String.ofList session.text) } else s

def removeStoredSession : SessionStore :=
  if works then { s with stored := none } else s

def clearSession : SessionStore :=
  removeStoredSession works
    { s with currentSession := none, sessionGeneration := s.sessionGeneration + 1 }

def clearStoredSession : Option Json × SessionStore :=
  (none, clearSession works s)

/-- An empty text is no session. -/
def loadStoredSession : Option Json × SessionStore :=
  match s.readStoredSession works with
  | none => (none, { s with currentSession := none })
  | some raw =>
    if raw.isEmpty then (none, { s with currentSession := none })
    else match Json.parse .free raw.toList with
      | none => s.clearStoredSession works
      | some parsed =>
        if !isLoginResponse parsed then s.clearStoredSession works
        else (some parsed, { s with currentSession := some parsed })

def saveSession (session : Json) : SessionStore :=
  writeStoredSession works
    { s with currentSession := some session, sessionGeneration := s.sessionGeneration + 1 } session

def getAuthToken : Option String × SessionStore :=
  match s.currentSession with
  | some session => (session_token session, s)
  | none =>
    let (loaded, after) := s.loadStoredSession works
    (loaded.bind session_token, after)

def getAuthRequestContext : AuthRequestContext × SessionStore :=
  let (token, after) := s.getAuthToken works
  ({ token := token, generation := after.sessionGeneration }, after)

/-- Whether the handler of the page is called, and the state after it. -/
def handleUnauthorized (context : AuthRequestContext) : Bool × SessionStore :=
  if context.generation ≠ s.sessionGeneration then (false, s)
  else
    let (token, after) := s.getAuthToken works
    if context.token ≠ token then (false, after)
    else (true, after.clearSession works)

/-- What a request begins with. A login sends no token. -/
def request_sent (path : String) : Option AuthRequestContext × SessionStore :=
  if path = "/api/auth/login" then (none, s)
  else
    let (context, after) := s.getAuthRequestContext works
    (some context, after)

/-- What a request does about the status of its response. -/
def request_answered (context : Option AuthRequestContext) (status : Nat) : Bool × SessionStore :=
  match context with
  | some context => if status = 401 then s.handleUnauthorized works context else (false, s)
  | none => (false, s)

end SessionStore

/-! ### Storing and loading -/

section Stored
variable {s : SessionStore} {session : Json}

theorem login_response_nonempty (h : isLoginResponse session = true) : session.text ≠ [] := by
  cases session with
  | obj fields => cases fields <;> simp [Json.text]
  | _ => simp [isLoginResponse, isRecord] at h

/-- A page that is opened later has the session that was saved. -/
theorem load_saved (h : isLoginResponse session = true) (hfits : Json.fits .free 0 session = true)
    (page : SessionMemory) :
    SessionStore.loadStoredSession true
        { toSessionMemory := page, stored := (s.saveSession true session).stored } =
      (some session, { currentSession := some session
                       sessionGeneration := page.sessionGeneration
                       stored := (s.saveSession true session).stored }) := by
  have hempty : (String.ofList session.text).isEmpty = false := by
    have hne := login_response_nonempty h
    simpa [String.isEmpty_iff] using hne
  have hparse : Json.parse .free session.text = some session := Json.parse_text hfits
  simp [SessionStore.loadStoredSession, SessionStore.readStoredSession, SessionStore.saveSession,
    SessionStore.writeStoredSession, hempty, hparse, h]

end Stored

/-! ### What a call can do to the memory -/

section Calls
variable {works : Works} {s : SessionStore} {session : Json} {context : AuthRequestContext}

@[simp] theorem clearSession_memory :
    (s.clearSession works).toSessionMemory =
      { currentSession := none, sessionGeneration := s.sessionGeneration + 1 } := by
  unfold SessionStore.clearSession SessionStore.removeStoredSession
  split <;> rfl

@[simp] theorem saveSession_memory :
    (s.saveSession works session).toSessionMemory =
      { currentSession := some session, sessionGeneration := s.sessionGeneration + 1 } := by
  unfold SessionStore.saveSession SessionStore.writeStoredSession
  split <;> rfl

/-- Loading finds a session, or none; what is stored but no session counts as cleared. -/
theorem load_cases (works : Works) (s : SessionStore) :
    (∃ session, isLoginResponse session = true ∧ s.loadStoredSession works =
      (some session, { s with currentSession := some session })) ∨
    s.loadStoredSession works = (none, { s with currentSession := none }) ∨
    s.loadStoredSession works = (none, s.clearSession works) := by
  unfold SessionStore.loadStoredSession
  split
  · exact .inr (.inl rfl)
  · split
    · exact .inr (.inl rfl)
    · split
      · exact .inr (.inr rfl)
      · split
        · exact .inr (.inr rfl)
        · rename_i session _ hsession
          refine .inl ⟨session, ?_, rfl⟩
          simpa using hsession

theorem token_some (h : isLoginResponse session = true) :
    ∃ token, session_token session = some token := by
  unfold isLoginResponse nonblank at h
  simp only [Bool.and_eq_true, Option.any_eq_true] at h
  obtain ⟨⟨⟨_, token, htoken, _⟩, _⟩, _⟩ := h
  exact ⟨token, htoken⟩

/-- A session in memory is the one whose token is sent. Otherwise the page has the session it finds,
under the same generation, or none. -/
theorem token_cases (works : Works) (s : SessionStore) :
    (∃ session, s.currentSession = some session ∧
      s.getAuthToken works = (session_token session, s)) ∨
    (s.currentSession = none ∧ ∃ session, isLoginResponse session = true ∧
      s.getAuthToken works = (session_token session, { s with currentSession := some session })) ∨
    (s.currentSession = none ∧ s.getAuthToken works = (none, s)) ∨
    (s.currentSession = none ∧ s.getAuthToken works = (none, s.clearSession works)) := by
  cases hcurrent : s.currentSession with
  | some session =>
    refine .inl ⟨session, rfl, ?_⟩
    rw [SessionStore.getAuthToken, hcurrent]
  | none =>
    have hsame : { s with currentSession := none } = s := by
      rw [← hcurrent]
    rcases load_cases works s with ⟨session, hsession, hload⟩ | hload | hload
    · refine .inr (.inl ⟨rfl, session, hsession, ?_⟩)
      simp [SessionStore.getAuthToken, hcurrent, hload]
    · refine .inr (.inr (.inl ⟨rfl, ?_⟩))
      rw [hsame] at hload
      simp [SessionStore.getAuthToken, hcurrent, hload]
    · refine .inr (.inr (.inr ⟨rfl, ?_⟩))
      simp [SessionStore.getAuthToken, hcurrent, hload]

end Calls

/-! ### Pages and their requests -/

/-- A request that has not been answered, with the saving its session is from. -/
structure SentRequest where
  context : Option AuthRequestContext
  saving : Option Nat

/-- A page, the saving its current session is from, and its unanswered requests. -/
structure SessionPage extends SessionMemory where
  saving : Option Nat
  sent : List SentRequest

/-- The pages of a browser and what they share. Every saving of a session has a number. -/
structure SessionPages (P : Type) where
  pages : P → SessionPage
  stored : Option String
  stored_saving : Nat
  next_saving : Nat

namespace SessionPages
variable {P : Type} [DecidableEq P] (b : SessionPages P) (p : P)

/-- No page has a session. -/
def start : SessionPages P :=
  { pages := fun _ => { currentSession := none, sessionGeneration := 0, saving := none, sent := [] }
    stored := none, stored_saving := 0, next_saving := 1 }

def store : SessionStore :=
  { toSessionMemory := (b.pages p).toSessionMemory, stored := b.stored }

/-- The saving the session in memory is from, after a call that saves none. -/
def saving_after (after : SessionStore) : Option Nat :=
  if after.currentSession.isNone then none
  else if (b.pages p).currentSession.isSome then (b.pages p).saving
  else some b.stored_saving

/-- What a call that saves no session leaves. -/
def called (after : SessionStore) (sent : List SentRequest) : SessionPages P :=
  { b with
    pages := Function.update b.pages p
      { toSessionMemory := after.toSessionMemory, saving := b.saving_after p after, sent := sent }
    stored := after.stored }

def saved (works : Works) (session : Json) : SessionPages P :=
  { pages := Function.update b.pages p
      { toSessionMemory := ((b.store p).saveSession works session).toSessionMemory
        saving := some b.next_saving
        sent := (b.pages p).sent }
    stored := ((b.store p).saveSession works session).stored
    stored_saving := if works then b.next_saving else b.stored_saving
    next_saving := b.next_saving + 1 }

def begun (works : Works) (path : String) : SessionPages P :=
  let (context, after) := (b.store p).request_sent works path
  b.called p after ((b.pages p).sent ++ [{ context := context, saving := b.saving_after p after }])

/-- The response to one of the requests arrives. -/
def ended (works : Works) (request : SentRequest) (status : Nat) (rest : List SentRequest) :
    SessionPages P :=
  b.called p ((b.store p).request_answered works request.context status).2 rest

/-- Whether that calls the page's handler, which sends the user back to the login. -/
def logs_out (works : Works) (request : SentRequest) (status : Nat) : Bool :=
  ((b.store p).request_answered works request.context status).1

end SessionPages

/-- What may happen: a page is opened, a user logs in or out, a request is sent, its response arrives,
and the storage is edited. -/
inductive SessionEvent {P : Type} [DecidableEq P] : SessionPages P → SessionPages P → Prop where
  | opened {b} (p : P) (works : Works) (h : (b.pages p).currentSession = none) :
    SessionEvent b (b.called p ((b.store p).loadStoredSession works).2 (b.pages p).sent)
  | logged_in {b} (p : P) (works : Works) (session : Json) (h : isLoginResponse session = true) :
    SessionEvent b (b.saved p works session)
  | logged_out {b} (p : P) (works : Works) :
    SessionEvent b (b.called p ((b.store p).clearSession works) (b.pages p).sent)
  | sent {b} (p : P) (works : Works) (path : String) : SessionEvent b (b.begun p works path)
  | answered {b} (p : P) (works : Works) (request : SentRequest) (status : Nat)
    (rest : List SentRequest) (h : (b.pages p).sent.Perm (request :: rest)) :
    SessionEvent b (b.ended p works request status rest)
  | edited {b} (stored : Option String) :
    SessionEvent b { b with
      stored := stored, stored_saving := b.next_saving, next_saving := b.next_saving + 1 }

end CoinListener.Frontend
