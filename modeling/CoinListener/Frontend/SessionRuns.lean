import CoinListener.Frontend.Session

/-! Which session a refused request ends, in every run of the pages of a browser. -/
namespace CoinListener.Frontend
open Foundation

set_option linter.unusedSectionVars false

/-! ### One page -/

/-- What an event makes of a page's memory. -/
inductive Recalled (page after : SessionPage) : Prop where
  | same (hcurrent : after.currentSession = page.currentSession)
    (hgeneration : after.sessionGeneration = page.sessionGeneration)
    (hsaving : after.saving = page.saving)
  | found (session : Json) (hsession : isLoginResponse session = true)
    (hnone : page.currentSession = none) (hcurrent : after.currentSession = some session)
    (hgeneration : after.sessionGeneration = page.sessionGeneration)
    (hsaving : after.saving.isSome = true)
  | cleared (hcurrent : after.currentSession = none)
    (hgeneration : page.sessionGeneration < after.sessionGeneration)
    (hsaving : after.saving = none)
  | saved (session : Json) (hsession : isLoginResponse session = true)
    (hcurrent : after.currentSession = some session)
    (hgeneration : page.sessionGeneration < after.sessionGeneration)
    (hsaving : after.saving.isSome = true)

/-- A request of the page's present generation was sent with its present session, or with none. -/
structure SentWith (page : SessionPage) (request : SentRequest) (context : AuthRequestContext) :
    Prop where
  generation : context.generation ≤ page.sessionGeneration
  session : context.generation = page.sessionGeneration →
    context.token = none ∧ request.saving = none ∨
      ∃ session, page.currentSession = some session ∧ context.token = session_token session ∧
        request.saving = page.saving

/-- What holds of each page. -/
structure Tracked (page : SessionPage) : Prop where
  saving : page.saving.isSome = page.currentSession.isSome
  valid : ∀ session, page.currentSession = some session → isLoginResponse session = true
  sent : ∀ request ∈ page.sent, ∀ context, request.context = some context →
    SentWith page request context

section Page
variable {page after : SessionPage} {request : SentRequest} {context : AuthRequestContext}

theorem Recalled.generation (h : Recalled page after) :
    page.sessionGeneration ≤ after.sessionGeneration := by
  cases h with
  | same _ hgeneration _ => omega
  | found _ _ _ _ hgeneration _ => omega
  | cleared _ hgeneration _ => omega
  | saved _ _ _ hgeneration _ => omega

theorem Recalled.sentWith (h : Recalled page after) (hsent : SentWith page request context) :
    SentWith after request context := by
  refine ⟨hsent.generation.trans h.generation, fun hsame => ?_⟩
  have hle := hsent.generation
  cases h with
  | same hcurrent hgeneration hsaving =>
    rw [hcurrent, hsaving]
    exact hsent.session (hsame.trans hgeneration)
  | found session _ hnone hcurrent hgeneration _ =>
    rcases hsent.session (hsame.trans hgeneration) with hno | ⟨_, hsome, _⟩
    · exact .inl hno
    · rw [hnone] at hsome
      exact nomatch hsome
  | cleared _ hgeneration _ => omega
  | saved _ _ _ hgeneration _ => omega

theorem Recalled.tracked (h : Recalled page after) (hpage : Tracked page)
    (hsent : ∀ request ∈ after.sent, request ∈ page.sent) : Tracked after := by
  constructor
  · cases h with
    | same hcurrent _ hsaving => rw [hcurrent, hsaving, hpage.saving]
    | found session _ _ hcurrent _ hsaving => rw [hcurrent, hsaving, Option.isSome_some]
    | cleared hcurrent _ hsaving => rw [hcurrent, hsaving]; rfl
    | saved session _ hcurrent _ hsaving => rw [hcurrent, hsaving, Option.isSome_some]
  · intro session hsession
    cases h with
    | same hcurrent _ _ => exact hpage.valid session (hcurrent ▸ hsession)
    | found found hvalid _ hcurrent _ _ =>
      obtain rfl := Option.some.inj (hcurrent.symm.trans hsession)
      exact hvalid
    | cleared hcurrent _ _ => exact nomatch hcurrent.symm.trans hsession
    | saved saved hvalid hcurrent _ _ =>
      obtain rfl := Option.some.inj (hcurrent.symm.trans hsession)
      exact hvalid
  · intro request hmem context hcontext
    exact h.sentWith (hpage.sent request (hsent request hmem) context hcontext)

end Page

/-! ### One call -/

section Call
variable {P : Type} [DecidableEq P] {b c : SessionPages P} {p q : P} {works : Works}
  {after : SessionStore} {sent : List SentRequest}

theorem called_page : (b.called p after sent).pages p =
    { toSessionMemory := after.toSessionMemory, saving := b.saving_after p after, sent := sent } :=
  Function.update_self ..

theorem called_other (h : q ≠ p) : (b.called p after sent).pages q = b.pages q :=
  Function.update_of_ne h ..

/-- What a store looks like behind a call that saves no session. -/
inductive CallResult (s after : SessionStore) : Prop where
  | same (h : after.toSessionMemory = s.toSessionMemory)
  | found (session : Json) (hsession : isLoginResponse session = true)
    (hnone : s.currentSession = none)
    (h : after.toSessionMemory = { s.toSessionMemory with currentSession := some session })
  | cleared (hcurrent : after.currentSession = none)
    (hgeneration : s.sessionGeneration < after.sessionGeneration)

theorem CallResult.recalled (h : CallResult (b.store p) after) (hpage : Tracked (b.pages p)) :
    Recalled (b.pages p) ((b.called p after sent).pages p) := by
  rw [called_page]
  cases h with
  | same h =>
    have hcurrent : after.currentSession = (b.pages p).currentSession :=
      congrArg SessionMemory.currentSession h
    have hgeneration : after.sessionGeneration = (b.pages p).sessionGeneration :=
      congrArg SessionMemory.sessionGeneration h
    refine .same hcurrent hgeneration ?_
    have hsaving := hpage.saving
    simp only [SessionPages.saving_after, hcurrent]
    cases hnow : (b.pages p).currentSession with
    | none =>
      have hnone : (b.pages p).saving = none := by simpa [hnow] using hsaving
      simp [hnone]
    | some session => rfl
  | found session hsession hnone h =>
    have hcurrent : after.currentSession = some session :=
      congrArg SessionMemory.currentSession h
    have hgeneration : after.sessionGeneration = (b.pages p).sessionGeneration := by
      rw [h]
      rfl
    have hnow : (b.pages p).currentSession = none := hnone
    refine .found session hsession hnone hcurrent hgeneration ?_
    simp [SessionPages.saving_after, hcurrent, hnow]
  | cleared hcurrent hgeneration =>
    refine .cleared hcurrent hgeneration ?_
    simp [SessionPages.saving_after, hcurrent]

theorem clear_forgets (works : Works) (s : SessionStore) :
    (s.clearSession works).currentSession = none ∧
      s.sessionGeneration < (s.clearSession works).sessionGeneration := by
  rw [clearSession_memory]
  exact ⟨rfl, Nat.lt_succ_self _⟩

theorem clear_result (works : Works) (s : SessionStore) : CallResult s (s.clearSession works) :=
  .cleared (clear_forgets works s).1 (clear_forgets works s).2

theorem load_result {s : SessionStore} (h : s.currentSession = none) :
    CallResult s (s.loadStoredSession works).2 := by
  rcases load_cases works s with ⟨session, hsession, hload⟩ | hload | hload
  · rw [hload]
    exact .found session hsession h rfl
  · rw [hload]
    refine .same ?_
    simp [← h]
  · rw [hload]
    exact clear_result works s

theorem token_result (works : Works) (s : SessionStore) : CallResult s (s.getAuthToken works).2 := by
  rcases token_cases works s with ⟨session, _, hsent⟩ | ⟨hnone, session, hsession, hsent⟩ |
    ⟨_, hsent⟩ | ⟨_, hsent⟩
  · rw [hsent]
    exact .same rfl
  · rw [hsent]
    exact .found session hsession hnone rfl
  · rw [hsent]
    exact .same rfl
  · rw [hsent]
    exact clear_result works s

theorem request_result (works : Works) (s : SessionStore) (path : String) :
    CallResult s (s.request_sent works path).2 := by
  unfold SessionStore.request_sent
  split
  · exact .same rfl
  · exact token_result works s

/-- A refusal that is acted on found its own token in use. -/
theorem handle_cases (works : Works) (s : SessionStore) (context : AuthRequestContext) :
    (s.handleUnauthorized works context).1 = false ∧
        CallResult s (s.handleUnauthorized works context).2 ∨
      (s.handleUnauthorized works context).1 = true ∧
        context.generation = s.sessionGeneration ∧
        context.token = (s.getAuthToken works).1 ∧
        (s.handleUnauthorized works context).2 = (s.getAuthToken works).2.clearSession works := by
  unfold SessionStore.handleUnauthorized
  split
  · exact .inl ⟨rfl, .same rfl⟩
  · rename_i hgeneration
    dsimp only
    split
    · exact .inl ⟨rfl, token_result works s⟩
    · rename_i htoken
      exact .inr ⟨rfl, by simpa using hgeneration, by simpa using htoken, rfl⟩

theorem CallResult.generation {s : SessionStore} (h : CallResult s after) :
    s.sessionGeneration ≤ after.sessionGeneration := by
  cases h with
  | same h => exact (congrArg SessionMemory.sessionGeneration h).ge
  | found _ _ _ h => exact (congrArg SessionMemory.sessionGeneration h).ge
  | cleared _ hgeneration => exact hgeneration.le

theorem handle_result (works : Works) (s : SessionStore) (context : AuthRequestContext) :
    CallResult s (s.handleUnauthorized works context).2 := by
  rcases handle_cases works s context with ⟨_, h⟩ | ⟨_, _, _, h⟩
  · exact h
  · rw [h]
    have hbefore := (token_result works s).generation
    obtain ⟨hcurrent, hgeneration⟩ := clear_forgets works (s.getAuthToken works).2
    exact .cleared hcurrent (hbefore.trans_lt hgeneration)

theorem answered_result (works : Works) (s : SessionStore) (context : Option AuthRequestContext)
    (status : Nat) : CallResult s (s.request_answered works context status).2 := by
  unfold SessionStore.request_answered
  split
  · split
    · exact handle_result works s _
    · exact .same rfl
  · exact .same rfl

end Call

/-! ### One event -/

section Event
variable {P : Type} [DecidableEq P] {b c : SessionPages P} {p q : P} {works : Works}

/-- Every page is as it should be. -/
def AllTracked (b : SessionPages P) : Prop :=
  ∀ p, Tracked (b.pages p)

theorem called_recalled {after : SessionStore} (h : AllTracked b)
    (hcall : CallResult (b.store p) after) (sent : List SentRequest) (q : P) :
    Recalled (b.pages q) ((b.called p after sent).pages q) := by
  by_cases hq : q = p
  · subst hq
    exact hcall.recalled (h q)
  · rw [called_other hq]
    exact .same rfl rfl rfl

theorem called_tracked {after : SessionStore} {sent : List SentRequest} (h : AllTracked b)
    (hcall : CallResult (b.store p) after) (hsent : ∀ request ∈ sent, request ∈ (b.pages p).sent) :
    AllTracked (b.called p after sent) := by
  intro q
  refine (called_recalled h hcall sent q).tracked (h q) fun request hmem => ?_
  by_cases hq : q = p
  · subst hq
    rw [called_page] at hmem
    exact hsent request hmem
  · rwa [called_other hq] at hmem

theorem saved_page {session : Json} : (b.saved p works session).pages p =
    { toSessionMemory := ⟨some session, (b.pages p).sessionGeneration + 1⟩
      saving := some b.next_saving, sent := (b.pages p).sent } := by
  rw [SessionPages.saved]
  simp only [Function.update_self, saveSession_memory]
  rfl

theorem saved_other {session : Json} (h : q ≠ p) : (b.saved p works session).pages q = b.pages q :=
  Function.update_of_ne h ..

theorem saved_recalled {session : Json} (hsession : isLoginResponse session = true) (q : P) :
    Recalled (b.pages q) ((b.saved p works session).pages q) := by
  by_cases hq : q = p
  · subst hq
    rw [saved_page]
    exact .saved session hsession rfl (Nat.lt_succ_self _) rfl
  · rw [saved_other hq]
    exact .same rfl rfl rfl

theorem token_current (works : Works) (s : SessionStore) :
    (s.getAuthToken works).1 = none ∧ (s.getAuthToken works).2.currentSession = none ∨
      ∃ session, (s.getAuthToken works).2.currentSession = some session ∧
        (s.getAuthToken works).1 = session_token session := by
  rcases token_cases works s with ⟨session, hcurrent, hsent⟩ | ⟨_, session, _, hsent⟩ |
    ⟨hnone, hsent⟩ | ⟨_, hsent⟩
  · rw [hsent]
    exact .inr ⟨session, hcurrent, rfl⟩
  · rw [hsent]
    exact .inr ⟨session, rfl, rfl⟩
  · rw [hsent]
    exact .inl ⟨rfl, hnone⟩
  · rw [hsent]
    exact .inl ⟨rfl, (clear_forgets works s).1⟩

/-- A new request is sent with the session the page then has. -/
theorem request_context {s : SessionStore} {path : String} {context : AuthRequestContext}
    (h : (s.request_sent works path).1 = some context) :
    context.generation = (s.request_sent works path).2.sessionGeneration ∧
      (context.token = none ∧ (s.request_sent works path).2.currentSession = none ∨
        ∃ session, (s.request_sent works path).2.currentSession = some session ∧
          context.token = session_token session) := by
  unfold SessionStore.request_sent at h ⊢
  split at h
  · exact nomatch h
  · rename_i hlogin
    obtain rfl := Option.some.inj h
    rw [if_neg hlogin]
    exact ⟨rfl, token_current works s⟩

theorem begun_tracked (h : AllTracked b) (path : String) : AllTracked (b.begun p works path) := by
  intro q
  have hcall := request_result works (b.store p) path
  by_cases hq : q = p
  · subst hq
    have hold : Tracked ((b.called q ((b.store q).request_sent works path).2
        (b.pages q).sent).pages q) :=
      called_tracked h hcall (fun _ hmem => hmem) q
    rw [called_page] at hold
    have hpage : (b.begun q works path).pages q =
        { toSessionMemory := ((b.store q).request_sent works path).2.toSessionMemory
          saving := b.saving_after q ((b.store q).request_sent works path).2
          sent := (b.pages q).sent ++ [{
            context := ((b.store q).request_sent works path).1
            saving := b.saving_after q ((b.store q).request_sent works path).2 }] } := called_page
    rw [hpage]
    refine ⟨hold.saving, hold.valid, fun request hmem context hcontext => ?_⟩
    rcases List.mem_append.mp hmem with hbefore | hnew
    · obtain ⟨hle, hsession⟩ := hold.sent request hbefore context hcontext
      exact ⟨hle, hsession⟩
    · obtain rfl := List.mem_singleton.mp hnew
      obtain ⟨hgeneration, hwith⟩ := request_context hcontext
      refine ⟨hgeneration.le, fun _ => hwith.imp ?_ ?_⟩
      · rintro ⟨htoken, hnone⟩
        refine ⟨htoken, ?_⟩
        simp [SessionPages.saving_after, hnone]
      · rintro ⟨session, hcurrent, htoken⟩
        exact ⟨session, hcurrent, htoken, rfl⟩
  · have hother : (b.begun p works path).pages q = b.pages q := called_other hq
    rw [hother]
    exact h q

/-- Whatever happens, each page's memory changes in one of these ways. -/
theorem event_recalled (h : AllTracked b) (hevent : SessionEvent b c) (q : P) :
    Recalled (b.pages q) (c.pages q) := by
  cases hevent with
  | opened p works hnone => exact called_recalled h (load_result hnone) _ q
  | logged_in p works session hsession => exact saved_recalled hsession q
  | logged_out p works => exact called_recalled h (clear_result works (b.store p)) _ q
  | sent p works path => exact called_recalled h (request_result works (b.store p) path) _ q
  | answered p works request status rest hperm =>
    exact called_recalled h (answered_result works (b.store p) request.context status) _ q
  | edited stored => exact .same rfl rfl rfl

theorem tracked_event (h : AllTracked b) (hevent : SessionEvent b c) : AllTracked c := by
  have hrecalled := event_recalled h hevent
  cases hevent with
  | opened p works hnone => exact called_tracked h (load_result hnone) fun _ hmem => hmem
  | logged_in p works session hsession =>
    intro q
    refine (hrecalled q).tracked (h q) fun request hmem => ?_
    by_cases hq : q = p
    · subst hq
      rwa [saved_page] at hmem
    · rwa [saved_other hq] at hmem
  | logged_out p works =>
    exact called_tracked h (clear_result works (b.store p)) fun _ hmem => hmem
  | sent p works path => exact begun_tracked h path
  | answered p works request status rest hperm =>
    refine called_tracked h (answered_result works (b.store p) request.context status) ?_
    intro other hmem
    exact hperm.mem_iff.mpr (List.mem_cons_of_mem _ hmem)
  | edited stored => exact h

end Event

/-! ### A page with two requests -/

namespace SampleSession

def session : Json :=
  .obj [("token", .str "a.b.c"),
    ("user", .obj [("id", .str "1"), ("email", .str "admin@example.com"),
      ("display_name", .str "Admin")]),
    ("tenant", .obj [("id", .str "2"), ("name", .str "Default"), ("status", .str "active")])]

def logged_in : SessionPages Unit :=
  SessionPages.start.saved () true session

def request : SentRequest where
  context := some { token := some "a.b.c", generation := 1 }
  saving := some 1

def requested : SessionPages Unit :=
  (logged_in.begun () true "/api/chains").begun () true "/api/assets"

theorem session_valid : isLoginResponse session = true := by decide +kernel

theorem requested_run : Relation.ReflTransGen SessionEvent .start requested :=
  ((Relation.ReflTransGen.single (.logged_in () true session session_valid)).tail
    (.sent () true "/api/chains")).tail (.sent () true "/api/assets")

theorem requested_sent : (requested.pages ()).sent = [request, request] := by
  simp [requested, logged_in, SessionPages.begun, SessionPages.saved, SessionPages.called,
    SessionPages.store, SessionStore.request_sent, SessionStore.getAuthRequestContext,
    SessionStore.getAuthToken, SessionPages.saving_after, SessionPages.start, request,
    session_token, session, Json.get, Json.as_str, SessionStore.saveSession,
    SessionStore.writeStoredSession]

end SampleSession

/-! ### Every run -/

section Every
variable {P : Type} [DecidableEq P] {b c : SessionPages P} {p : P} {works : Works}
  {request : SentRequest} {status : Nat} {rest : List SentRequest}

theorem tracked_start : AllTracked (.start : SessionPages P) := by
  intro p
  exact ⟨rfl, nofun, nofun⟩

theorem tracked_run (h : AllTracked b) (hrun : Relation.ReflTransGen SessionEvent b c) :
    AllTracked c ∧ (b.pages p).sessionGeneration ≤ (c.pages p).sessionGeneration := by
  induction hrun with
  | refl => exact ⟨h, le_rfl⟩
  | tail _ hevent ih =>
    exact ⟨tracked_event ih.1 hevent, ih.2.trans (event_recalled ih.1 hevent p).generation⟩

/-- A response that logs the user out is a refusal, and its request was sent with the token the page
would send now. -/
theorem logs_out_cases (h : b.logs_out p works request status = true) :
    ∃ context, request.context = some context ∧
      context.generation = (b.pages p).sessionGeneration ∧
      context.token = ((b.store p).getAuthToken works).1 ∧
      ((b.store p).request_answered works request.context status).2 =
        ((b.store p).getAuthToken works).2.clearSession works := by
  unfold SessionPages.logs_out SessionStore.request_answered at h
  unfold SessionStore.request_answered
  split at h
  · rename_i context hcontext
    split at h
    · rename_i hstatus
      rw [hcontext]
      rw [if_pos hstatus]
      rcases handle_cases works (b.store p) context with ⟨hnot, _⟩ | ⟨_, hgeneration, htoken, hafter⟩
      · exact nomatch hnot.symm.trans h
      · exact ⟨context, rfl, hgeneration, htoken, hafter⟩
    · exact nomatch h
  · exact nomatch h

/-- A refused request logs the user out only of the session it was sent with. The page has none then,
and no other request that was under way will log the user out of a later one. -/
theorem refusal_ends_own_session
    (hrun : Relation.ReflTransGen SessionEvent (.start : SessionPages P) b)
    (hsent : (b.pages p).sent.Perm (request :: rest))
    (hout : b.logs_out p works request status = true) :
    request.saving = (b.pages p).saving ∧
      ((b.ended p works request status rest).pages p).currentSession = none ∧
      ∀ c, Relation.ReflTransGen SessionEvent (b.ended p works request status rest) c →
        ∀ other ∈ rest, ∀ works status, c.logs_out p works other status = false := by
  obtain ⟨htracked, _⟩ := tracked_run (p := p) tracked_start hrun
  obtain ⟨context, hcontext, hgeneration, htoken, hafter⟩ := logs_out_cases hout
  have hmem : request ∈ (b.pages p).sent := hsent.mem_iff.mpr (List.mem_cons_self ..)
  have hpage : ((b.ended p works request status rest).pages p).toSessionMemory =
      (((b.store p).getAuthToken works).2.clearSession works).toSessionMemory := by
    rw [SessionPages.ended, called_page, hafter]
  obtain ⟨hforgotten, hgrown⟩ := clear_forgets works ((b.store p).getAuthToken works).2
  have hlater : (b.pages p).sessionGeneration <
      ((b.ended p works request status rest).pages p).sessionGeneration := by
    have hbefore := (token_result works (b.store p)).generation
    rw [hpage]
    exact hbefore.trans_lt hgrown
  refine ⟨?_, ?_, ?_⟩
  · rcases ((htracked p).sent request hmem context hcontext).session hgeneration with
      ⟨hno, hsaving⟩ | ⟨session, hcurrent, _, hsaving⟩
    · -- with a session in memory a token would be sent
      have hnone : (b.pages p).currentSession = none := by
        rcases token_cases works (b.store p) with ⟨session, hcurrent, htokens⟩ | ⟨hnone, _⟩ |
          ⟨hnone, _⟩ | ⟨hnone, _⟩
        · obtain ⟨token, hsome⟩ := token_some ((htracked p).valid session hcurrent)
          rw [hno, htokens, hsome] at htoken
          exact nomatch htoken
        · exact hnone
        · exact hnone
        · exact hnone
      have hsame := (htracked p).saving
      rw [hnone] at hsame
      rw [hsaving, Option.isSome_eq_false_iff.mp hsame |> Option.isNone_iff_eq_none.mp]
    · exact hsaving
  · rw [hpage]
    exact hforgotten
  · intro c hc other hother works' status'
    have hended : AllTracked (b.ended p works request status rest) :=
      tracked_event htracked (.answered p works request status rest hsent)
    obtain ⟨_, hgrows⟩ := tracked_run (p := p) hended hc
    by_contra hacts
    rw [Bool.not_eq_false] at hacts
    obtain ⟨stale, hstale, hsame, _⟩ := logs_out_cases hacts
    have hbefore := ((htracked p).sent other (hsent.mem_iff.mpr (List.mem_cons_of_mem _ hother))
      stale hstale).generation
    omega

theorem refusal_ends_own_session_first :
    SampleSession.request.saving = (SampleSession.requested.pages ()).saving ∧
      ((SampleSession.requested.ended () true SampleSession.request 401
        [SampleSession.request]).pages ()).currentSession = none ∧
      ∀ c, Relation.ReflTransGen SessionEvent (SampleSession.requested.ended () true
          SampleSession.request 401 [SampleSession.request]) c →
        ∀ other ∈ [SampleSession.request], ∀ works status, c.logs_out () works other status = false :=
  refusal_ends_own_session SampleSession.requested_run
    (by rw [SampleSession.requested_sent]) (by decide +kernel)

/-- A page that is opened while the text a login has stored is still there has the session of that
login, whatever characters it has. -/
theorem later_page_has_session {q : P} {session : Json} (hsession : isLoginResponse session = true)
    (hfits : Json.fits .free 0 session = true) (b : SessionPages P) (hother : q ≠ p)
    (hnone : (b.pages q).currentSession = none) :
    (b.saved p true session).stored = some (String.ofList session.text) ∧
      let loaded := ((b.saved p true session).store q).loadStoredSession true
      (((b.saved p true session).called q loaded.2 []).pages q).currentSession = some session ∧
        (((b.saved p true session).called q loaded.2 []).pages q).saving =
          ((b.saved p true session).pages p).saving := by
  have hload : ((b.saved p true session).store q).loadStoredSession true =
      (some session, { currentSession := some session
                       sessionGeneration := ((b.saved p true session).pages q).sessionGeneration
                       stored := ((b.store p).saveSession true session).stored }) :=
    load_saved (s := b.store p) hsession hfits ((b.saved p true session).pages q).toSessionMemory
  refine ⟨rfl, ?_⟩
  dsimp only
  rw [called_page, hload, saved_page]
  refine ⟨rfl, ?_⟩
  have hempty : ((b.saved p true session).pages q).currentSession = none := by
    rw [saved_other hother]
    exact hnone
  dsimp only [SessionPages.saving_after]
  rw [hempty]
  rfl

theorem later_page_has_session_second :
    ((SessionPages.start : SessionPages Bool).saved true true SampleSession.session).stored =
        some (String.ofList SampleSession.session.text) ∧
      let saved := (SessionPages.start : SessionPages Bool).saved true true SampleSession.session
      let loaded := (saved.store false).loadStoredSession true
      ((saved.called false loaded.2 []).pages false).currentSession = some SampleSession.session ∧
        ((saved.called false loaded.2 []).pages false).saving = (saved.pages true).saving :=
  later_page_has_session SampleSession.session_valid (by decide +kernel) .start (by decide) rfl

end Every

end CoinListener.Frontend
