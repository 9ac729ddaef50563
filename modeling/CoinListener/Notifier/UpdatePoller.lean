import CoinListener.Foundation.Crew
import CoinListener.Notifier.External
import CoinListener.Notifier.TelegramUpdates
import CoinListener.Storage.TelegramBots

/-! Pollers, verifications and edits of Telegram bots, side by side.

What an update leads to is left open here, and so is what Telegram says to a verification. -/
namespace CoinListener.Notifier
open Foundation Storage

/-! ### Programs -/

inductive BotStatement where
  | db (q : TelegramQuery)
  | now
  | get_telegram_updates (bot_token : String) (last_update_id : Int) (proxy_url : Option String)
  | process_telegram_binding_update (telegram_bot_id : Uuid) (bot_token : String)
      (proxy_url : Option String) (update : TelegramUpdate) (now : Timestamp)
  | verify_telegram_bot (bot_token : String) (proxy_url : Option String)

abbrev BotStatement.Answer : BotStatement → Type
  | .db q => q.Answer
  | .now => Timestamp
  | .get_telegram_updates .. => Except ExternalSendOutcome (List TelegramUpdate)
  | .process_telegram_binding_update .. => Unit
  | .verify_telegram_bot .. => ExternalSendOutcome

abbrev BotProg (α : Type) := Prog BotStatement BotStatement.Answer AppError α

def bot_query (q : TelegramQuery) : BotProg q.Answer :=
  Prog.perform (.db q : BotStatement)

def LOCK_TTL : Int := 30

/-- The loop over the updates of a bot. -/
def poll_updates (bot : TelegramBotSecret) : List TelegramUpdate → BotProg Unit
  | [] => return ()
  | update :: updates => do
    let now ← Prog.perform (.now : BotStatement)
    Prog.perform (.process_telegram_binding_update bot.id bot.bot_token bot.effective_proxy_url
      update now : BotStatement)
    bot_query (.upsert_telegram_update_offset bot.tenant_id bot.id update.update_id bot.bot_token)
    poll_updates bot updates

/-- The body of the loop over the bots. -/
def poll_bot (bot : TelegramBotSecret) : BotProg Unit := do
  let locked_at ← Prog.perform (.now : BotStatement)
  let claimed ← bot_query (.claim_telegram_update_offset bot.tenant_id bot.id locked_at
    (locked_at - LOCK_TTL))
  match claimed with
  | none => return ()
  | some offset_claim => do
    let answer ← Prog.perform (.get_telegram_updates bot.bot_token offset_claim.last_update_id
      bot.effective_proxy_url : BotStatement)
    match answer with
    | .error _ =>
      bot_query (.release_telegram_update_offset_lock bot.tenant_id bot.id offset_claim.locked_at)
    | .ok updates => do
      poll_updates bot updates
      bot_query (.release_telegram_update_offset_lock bot.tenant_id bot.id offset_claim.locked_at)

def poll_bots : List TelegramBotSecret → BotProg Unit
  | [] => return ()
  | bot :: bots => do
    poll_bot bot
    poll_bots bots

/-- One round of `run_telegram_update_poller`. -/
def run_telegram_update_poller : BotProg Unit := do
  let bots ← bot_query .list_active_verified_telegram_bot_secrets
  poll_bots bots

def create_telegram_bot (tenant_id : Uuid) (request : CreateTelegramBotRequest) :
    BotProg TelegramBotRow :=
  if Text.trim request.name = "" then
    Prog.fail (.Validation "telegram bot name is required")
  else do
    let bot_token := Text.trim request.bot_token
    if bot_token = "" then Prog.fail (.Validation "bot_token is required")
    else do
      let status := request.status.getD STATUS_ACTIVE
      Prog.lift (validate_status status)
      let proxy_url ← Prog.lift (normalize_proxy_url request.proxy_url)
      bot_query (.create_telegram_bot tenant_id request.name bot_token status proxy_url)

/-- The new token of an update, where it has one. -/
def UpdateTelegramBotRequest.token (request : UpdateTelegramBotRequest) : Option String :=
  (request.bot_token.map Text.trim).filter (· ≠ "")

def update_telegram_bot (tenant_id id : Uuid) (request : UpdateTelegramBotRequest) :
    BotProg TelegramBotRow :=
  if Text.trim request.name = "" then
    Prog.fail (.Validation "telegram bot name is required")
  else do
    Prog.lift (validate_status request.status)
    let proxy_url ← Prog.lift (match request.proxy_url with
      | some proxy_url => normalize_proxy_url proxy_url
      | none => .ok none)
    let updated ← bot_query (.update_telegram_bot tenant_id id request.name
      (UpdateTelegramBotRequest.token request) request.status request.proxy_url.isSome proxy_url)
    Prog.lift (required updated (.NotFound "telegram bot"))

section Verify
variable (limits : Json.Limits)

def parse_telegram_verify_username (status_code : Nat) (body : String) : Option String :=
  if 200 ≤ status_code ∧ status_code ≤ 299 then do
    let parsed_body ← Json.parse limits body.toList
    if (parsed_body.get "ok").bind Json.as_bool ≠ some true then none
    else do
      let username ← ((parsed_body.get "result").bind (·.get "username")).bind Json.as_str
      if username ≠ "" ∧ ¬ username.toList.any Text.isWhitespace then some username else none
  else none

def classify_telegram_verify_response (status_code : Nat) (body : String) : ExternalSendOutcome :=
  let parsed_body := Json.parse limits body.toList
  let telegram_success := (parsed_body.bind (·.get "ok")).bind Json.as_bool == some true
  if (200 ≤ status_code ∧ status_code ≤ 299) ∧ telegram_success then
    .Sent {
      last_error := none
      provider_message_id := none
      provider_status_code := some status_code
      provider_response := some (truncate_provider_response body) }
  else classify_telegram_response limits status_code body

def external_outcome_message (outcome : ExternalSendOutcome) (success : String) : String :=
  if outcome.is_sent then success
  else outcome.metadata.last_error.getD "external notification failed"

/-- The username that a verification has returned. -/
def verified_username (outcome : ExternalSendOutcome) : Option String :=
  outcome.metadata.provider_response.bind (parse_telegram_verify_username limits 200)

structure VerificationResponse where
  ok : Bool
  message : String

def verify_telegram_bot (tenant_id id : Uuid) : BotProg VerificationResponse := do
  let found ← bot_query (.get_telegram_bot_secret tenant_id id)
  let bot ← Prog.lift (required found (.NotFound "telegram bot"))
  let outcome ← Prog.perform (.verify_telegram_bot bot.bot_token bot.effective_proxy_url :
    BotStatement)
  let ok := outcome.is_sent
  let message := external_outcome_message outcome "telegram bot verified"
  let status := if ok then VERIFICATION_STATUS_VERIFIED else VERIFICATION_STATUS_FAILED
  let last_error := if ok then none else some message
  let username := verified_username limits outcome
  let now ← Prog.perform (.now : BotStatement)
  Prog.lift (validate_verification_status status)
  let marked ← bot_query (.mark_telegram_bot_verification tenant_id id status username last_error
    now bot.bot_token)
  let _ ← Prog.lift (required marked (.NotFound "telegram bot"))
  return ⟨ok, message⟩

end Verify

/-! ### The system -/

/-- The tables, the updates of each token that exist at Telegram and the identifier from which it
goes on numbering, and history: which updates have been processed, for which bot and under which
token, and what successful verifications have returned. -/
structure TelegramWorld where
  tables : TelegramTables
  updates : String → List TelegramUpdate
  next_update_id : String → Int
  handled : List (Uuid × String × Int)
  verified : List (String × Option String)

def TelegramWorld.query (s : TelegramWorld) (q : TelegramQuery) :
    AppResult q.Answer × TelegramWorld :=
  ((q.run s.tables).1, { s with tables := (q.run s.tables).2 })

/-- What may become of a statement, under a condition on those against the database. Telegram
answers with some of the first updates from the offset on. -/
inductive BotCarried (limits : Json.Limits) (C : TelegramWorld → TelegramQuery → Prop)
    (s : TelegramWorld) :
    (op : BotStatement) → AppResult op.Answer → TelegramWorld → Prop where
  | db {q r t} (hC : C s q) (h : Fate AppError.Database s (s.query q) r t) :
      BotCarried limits C s (.db q) r t
  | now (now : Timestamp) : BotCarried limits C s .now (.ok now) s
  | updates {bot_token last_update_id proxy_url} (updates : List TelegramUpdate)
      (h : updates <+: (s.updates bot_token).filter (last_update_id + 1 ≤ ·.update_id)) :
      BotCarried limits C s (.get_telegram_updates bot_token last_update_id proxy_url)
        (.ok (.ok updates)) s
  | no_updates {bot_token last_update_id proxy_url} (outcome : ExternalSendOutcome) :
      BotCarried limits C s (.get_telegram_updates bot_token last_update_id proxy_url)
        (.ok (.error outcome)) s
  | processed {telegram_bot_id bot_token proxy_url update now} :
      BotCarried limits C s
        (.process_telegram_binding_update telegram_bot_id bot_token proxy_url update now) (.ok ())
        { s with handled := s.handled ++ [(telegram_bot_id, bot_token, update.update_id)] }
  | not_processed {telegram_bot_id bot_token proxy_url update now} (error : AppError) :
      BotCarried limits C s
        (.process_telegram_binding_update telegram_bot_id bot_token proxy_url update now)
        (.error error) s
  | sent {bot_token proxy_url} (outcome : ExternalSendOutcome) (hsent : outcome.is_sent = true) :
      BotCarried limits C s (.verify_telegram_bot bot_token proxy_url) (.ok outcome)
        { s with verified := s.verified ++ [(bot_token, verified_username limits outcome)] }
  | not_sent {bot_token proxy_url} (outcome : ExternalSendOutcome)
      (hsent : outcome.is_sent = false) :
      BotCarried limits C s (.verify_telegram_bot bot_token proxy_url) (.ok outcome) s

/-- Telegram receives an update for a token. -/
def TelegramWorld.receive (s : TelegramWorld) (bot_token : String) (update : TelegramUpdate) :
    TelegramWorld :=
  { s with
    updates := Function.update s.updates bot_token (s.updates bot_token ++ [update])
    next_update_id := Function.update s.next_update_id bot_token (update.update_id + 1) }

/-- Identifiers only grow. -/
inductive TelegramReceives : TelegramWorld → TelegramWorld → Prop where
  | update {s} (bot_token : String) (update : TelegramUpdate)
      (h : s.next_update_id bot_token ≤ update.update_id) :
      TelegramReceives s (s.receive bot_token update)

/-- The calls of users and pollers. A call that is cut off is followed by another. -/
inductive BotCall where
  | create (tenant_id : Uuid) (request : CreateTelegramBotRequest)
  | update (tenant_id id : Uuid) (request : UpdateTelegramBotRequest)
  | verify (tenant_id id : Uuid)
  | poll

def BotCall.program (limits : Json.Limits) : BotCall → BotProg Unit
  | .create tenant_id request => (create_telegram_bot tenant_id request).bind fun _ => .done ()
  | .update tenant_id id request => (update_telegram_bot tenant_id id request).bind fun _ => .done ()
  | .verify tenant_id id => (verify_telegram_bot limits tenant_id id).bind fun _ => .done ()
  | .poll => run_telegram_update_poller

def BotLaunch {W : Type} (limits : Json.Limits) (_ : W) (s : TelegramWorld) (p : BotProg Unit)
    (t : TelegramWorld) : Prop :=
  t = s ∧ ∃ call : BotCall, p = call.program limits

abbrev BotStep {W : Type} [DecidableEq W] (limits : Json.Limits)
    (C : TelegramWorld → TelegramQuery → Prop) :
    TelegramWorld × (W → BotProg Unit) → TelegramWorld × (W → BotProg Unit) → Prop :=
  Prog.Crew (fun _ => BotCarried limits C) TelegramReceives (BotLaunch limits)

/-- No bot yet, and nothing received. Identifiers are positive. -/
def telegram_start {W : Type} (telegram_proxy_url : Uuid → Option String) :
    TelegramWorld × (W → BotProg Unit) :=
  ({ tables := .empty telegram_proxy_url
     updates := fun _ => []
     next_update_id := fun _ => 1
     handled := []
     verified := [] }, fun _ => .done ())

/-! ### A call that nobody interrupts -/

section Alone
variable (limits : Json.Limits) (outcome : ExternalSendOutcome)

/-- Every statement is carried out and answered. A verification comes to this outcome, and Telegram
returns all updates. -/
def TelegramWorld.alone (s : TelegramWorld) :
    (op : BotStatement) → AppResult op.Answer × TelegramWorld
  | .db q => s.query q
  | .now => (.ok 0, s)
  | .get_telegram_updates bot_token last_update_id _ =>
    (.ok (.ok ((s.updates bot_token).filter (last_update_id + 1 ≤ ·.update_id))), s)
  | .process_telegram_binding_update telegram_bot_id bot_token _ update _ =>
    (.ok (), { s with handled := s.handled ++ [(telegram_bot_id, bot_token, update.update_id)] })
  | .verify_telegram_bot bot_token _ =>
    (.ok outcome, if outcome.is_sent then
      { s with verified := s.verified ++ [(bot_token, verified_username limits outcome)] } else s)

def BotStatement.passes (ok : TelegramWorld → TelegramQuery → Bool) (s : TelegramWorld) :
    BotStatement → Bool
  | .db q => ok s q
  | _ => true

def BotCall.round (call : BotCall) (s : TelegramWorld) : TelegramWorld :=
  (Prog.eval (TelegramWorld.alone limits outcome) (call.program limits) s).2

/-- Every statement of the call passes the test. -/
def BotCall.passes (ok : TelegramWorld → TelegramQuery → Bool) (call : BotCall)
    (s : TelegramWorld) : Bool :=
  Prog.along (TelegramWorld.alone limits outcome) (fun s op => op.passes ok s)
    (call.program limits) s

variable {limits outcome} {C : TelegramWorld → TelegramQuery → Prop}
  {ok : TelegramWorld → TelegramQuery → Bool}

theorem BotCarried.alone (hok : ∀ s q, ok s q = true → C s q) (s : TelegramWorld)
    (op : BotStatement) (h : op.passes ok s = true) :
    BotCarried limits C s op (s.alone limits outcome op).1 (s.alone limits outcome op).2 := by
  cases op with
  | db q => exact .db (hok s q h) .answered
  | now => exact .now 0
  | get_telegram_updates => exact .updates _ List.prefix_rfl
  | process_telegram_binding_update => exact .processed
  | verify_telegram_bot bot_token proxy_url =>
    unfold TelegramWorld.alone
    cases hsent : outcome.is_sent with
    | true => exact .sent outcome hsent
    | false => exact .not_sent outcome hsent

/-- A call from its start to its end. -/
theorem BotCall.run {W : Type} [DecidableEq W] (hok : ∀ s q, ok s q = true → C s q) (w : W)
    (call : BotCall) (s : TelegramWorld) (ps : W → BotProg Unit)
    (hpass : call.passes limits outcome ok s = true) :
    ∃ qs, Relation.ReflTransGen (BotStep limits C) (s, ps) (call.round limits outcome s, qs) := by
  have hrun : ∃ qs, Relation.ReflTransGen (BotStep limits C)
      (s, Function.update ps w (call.program limits)) (call.round limits outcome s, qs) :=
    (Prog.Crew.of_eval (w := w) (fun s op => BotCarried.alone hok s op) s hpass _
      (Function.update_self ..)).imp fun qs h => h.1
  obtain ⟨qs, hqs⟩ := hrun
  exact ⟨qs, .head (.launch w ⟨rfl, call, rfl⟩) hqs⟩

end Alone

end CoinListener.Notifier
