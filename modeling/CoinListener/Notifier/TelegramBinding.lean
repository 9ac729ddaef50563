import CoinListener.Foundation.Crew
import CoinListener.Notifier.External
import CoinListener.Notifier.TelegramUpdates
import CoinListener.Storage.TelegramBindings

/-! Webhooks, pollers and users that race for binding requests.

Whether a confirmation is sent is left open here. -/
namespace CoinListener.Notifier
open Foundation Storage

/-! ### Statements -/

/-- The update that a bind comes from is not part of the statement. -/
inductive BindingQuery where
  | get_telegram_bot_secret (tenant_id id : Uuid)
  | telegram_bot_secret_by_id_any_tenant (id : Uuid)
  | create_binding_request (tenant_id telegram_bot_id : Uuid) (bind_token short_code : String)
      (expires_at : Timestamp)
  | get_binding_request (tenant_id id : Uuid)
  | expire_binding_request_if_due (tenant_id id : Uuid) (now : Timestamp)
  | cancel_binding_request (tenant_id id : Uuid)
  | bind_pending_request (telegram_bot_id : Uuid) (code : String) (chat : TelegramChatBinding)
      (now : Timestamp) (update : TelegramUpdate)
  | update_binding_confirmation_error (tenant_id id : Uuid) (confirmation_error : String)

abbrev BindingQuery.Answer : BindingQuery → Type
  | .get_telegram_bot_secret .. => Option TelegramBotSecret
  | .telegram_bot_secret_by_id_any_tenant .. => Option TelegramBotSecret
  | .create_binding_request .. => Option TelegramBindingRequest
  | .get_binding_request .. => Option TelegramBindingRequest
  | .expire_binding_request_if_due .. => Unit
  | .cancel_binding_request .. => Option TelegramBindingRequest
  | .bind_pending_request .. => Option TelegramBindingRequest
  | .update_binding_confirmation_error .. => Unit

inductive BindingStatement where
  | db (q : BindingQuery)
  | send_telegram (config : TelegramChannelConfig) (bot_token text : String)
      (proxy_url : Option String)

abbrev BindingStatement.Answer : BindingStatement → Type
  | .db q => q.Answer
  | .send_telegram .. => ExternalSendOutcome

abbrev BindingProg (α : Type) := Prog BindingStatement BindingStatement.Answer AppError α

def binding_query (q : BindingQuery) : BindingProg q.Answer :=
  Prog.perform (.db q : BindingStatement)

/-! ### Programs -/

def telegram_binding_confirmation_text (chat_name : String) : String :=
  "Coin Listener 通知渠道绑定成功：" ++ chat_name

def chat_name (binding : TelegramBindingRequest) : String :=
  ((binding.chat_title.or binding.chat_username).or binding.chat_id).getD "Telegram 会话"

/-- The confirmation of a binding. -/
def confirm_binding (telegram_bot_id : Uuid) (bot_token : String) (proxy_url : Option String)
    (candidate : TelegramBindingCandidate) (binding : TelegramBindingRequest) :
    BindingProg Unit := do
  let outcome ← Prog.perform (.send_telegram
    { telegram_bot_id := some telegram_bot_id
      bot_token_env := none
      chat_id := binding.chat_id.getD candidate.chat.chat_id }
    bot_token (telegram_binding_confirmation_text (chat_name binding)) proxy_url : BindingStatement)
  if outcome.is_sent then return ()
  else binding_query (.update_binding_confirmation_error binding.tenant_id binding.id
    (outcome.metadata.last_error.getD "telegram binding confirmation was not sent"))

def process_telegram_binding_update (telegram_bot_id : Uuid) (bot_token : String)
    (proxy_url : Option String) (update : TelegramUpdate) (now : Timestamp) :
    BindingProg (Option TelegramBindingRequest) :=
  match telegram_binding_candidate update with
  | none => return none
  | some candidate => do
    let bound ← binding_query (.bind_pending_request telegram_bot_id candidate.code candidate.chat
      now update)
    match bound with
    | none => return none
    | some binding => do
      confirm_binding telegram_bot_id bot_token proxy_url candidate binding
      return some binding

def telegram_webhook_secret_matches (configured header : Option String) : Bool :=
  match configured with
  | some secret => header == some secret
  | none => true

def telegram_webhook (configured header : Option String) (bot_id : Uuid) (update : TelegramUpdate)
    (now : Timestamp) : BindingProg Unit :=
  if telegram_webhook_secret_matches configured header then do
    let found ← binding_query (.telegram_bot_secret_by_id_any_tenant bot_id)
    let bot ← Prog.lift (required found (.NotFound "telegram bot"))
    let _ ← process_telegram_binding_update bot_id bot.bot_token bot.effective_proxy_url update now
    return ()
  else Prog.fail .Unauthorized

/-- A random identifier, written out without hyphens. -/
structure SimpleUuid where
  text : String
  is_simple : text.length = 32 ∧
    text.toList.all (fun c => c.isDigit || ('a' ≤ c && c ≤ 'f')) = true

def create_binding_request (tenant_id telegram_bot_id : Uuid) (bind_token short_code : String)
    (now : Timestamp) : BindingProg TelegramBindingRequest := do
  let expires_at := now + BINDING_EXPIRY_MINUTES * 60
  let created ← binding_query (.create_binding_request tenant_id telegram_bot_id bind_token
    (normalize_short_code short_code) expires_at)
  Prog.lift (required created (.Validation "telegram bot must be active and verified"))

def create_telegram_binding (tenant_id telegram_bot_id : Uuid) (token code : SimpleUuid)
    (now : Timestamp) : BindingProg TelegramBindingRequest := do
  let found ← binding_query (.get_telegram_bot_secret tenant_id telegram_bot_id)
  let _ ← Prog.lift (required found (.NotFound "telegram bot"))
  let bind_token := "bind_" ++ token.text
  let short_code := "CL-" ++ Text.toAsciiUppercase (String.ofList (code.text.toList.take 6))
  create_binding_request tenant_id telegram_bot_id bind_token short_code now

def get_binding_request (tenant_id id : Uuid) (now : Timestamp) :
    BindingProg TelegramBindingRequest := do
  binding_query (.expire_binding_request_if_due tenant_id id now)
  let found ← binding_query (.get_binding_request tenant_id id)
  Prog.lift (required found (.NotFound "telegram binding request"))

def cancel_binding_request (tenant_id id : Uuid) : BindingProg TelegramBindingRequest := do
  let cancelled ← binding_query (.cancel_binding_request tenant_id id)
  Prog.lift (required cancelled (.NotFound "pending telegram binding request"))

/-! ### The system -/

/-- A binding: the update it comes from and the bot that has received it, the request as it was
bound, and the identifier from which requests were numbered on. -/
structure Binding where
  telegram_bot_id : Uuid
  update : TelegramUpdate
  code : String
  chat : TelegramChatBinding
  request : TelegramBindingRequest
  next_id : Uuid
deriving DecidableEq

/-- The tables, and history: the bindings so far. -/
structure BindingWorld where
  tables : BindingTables
  bindings : List Binding

namespace BindingWorld
variable (s : BindingWorld)

/-- The statement carried out at this time of the database. One that fails changes nothing. -/
def query (now : Timestamp) : (q : BindingQuery) → AppResult q.Answer × BindingWorld
  | .get_telegram_bot_secret tenant_id id => (.ok (s.tables.bots.get_telegram_bot_secret tenant_id id), s)
  | .telegram_bot_secret_by_id_any_tenant id =>
    (.ok (s.tables.telegram_bot_secret_by_id_any_tenant id), s)
  | .create_binding_request tenant_id telegram_bot_id bind_token short_code expires_at =>
    match s.tables.create_binding_request now tenant_id telegram_bot_id bind_token short_code
        expires_at with
    | .ok (created, tables) => (.ok created, { s with tables := tables })
    | .error error => (.error error, s)
  | .get_binding_request tenant_id id => (.ok (s.tables.get_binding_request tenant_id id), s)
  | .expire_binding_request_if_due tenant_id id now =>
    (.ok (), { s with tables := s.tables.expire_binding_request_if_due tenant_id id now })
  | .cancel_binding_request tenant_id id =>
    (.ok (s.tables.cancel_binding_request tenant_id id).1,
      { s with tables := (s.tables.cancel_binding_request tenant_id id).2 })
  | .bind_pending_request telegram_bot_id code chat now update =>
    let (bound, tables) := s.tables.bind_pending_request telegram_bot_id code chat now
    (.ok bound,
      { tables := tables
        bindings := s.bindings ++ bound.toList.map fun request =>
          ⟨telegram_bot_id, update, code, chat, request, s.tables.next_id⟩ })
  | .update_binding_confirmation_error tenant_id id confirmation_error =>
    (.ok (), { s with
      tables := s.tables.update_binding_confirmation_error tenant_id id confirmation_error })

end BindingWorld

/-- What may become of a statement. -/
inductive BindingCarried (s : BindingWorld) :
    (op : BindingStatement) → AppResult op.Answer → BindingWorld → Prop where
  | db {q r t} (now : Timestamp) (h : Fate AppError.Database s (s.query now q) r t) :
      BindingCarried s (.db q) r t
  | sent {config bot_token text proxy_url} (outcome : ExternalSendOutcome) :
      BindingCarried s (.send_telegram config bot_token text proxy_url) (.ok outcome) s

/-- Bots are edited, polled and deleted. -/
inductive BindingOthers : BindingWorld → BindingWorld → Prop where
  | bots {s} (q : TelegramQuery) : BindingOthers s { s with tables := s.tables.run_bots q }
  | delete {s} (tenant_id id : Uuid) :
      BindingOthers s { s with tables := s.tables.delete_telegram_bot tenant_id id }

/-- Deliveries of updates, by webhooks and pollers, and the calls of users, each with its own
clock. -/
inductive BindingCall where
  | webhook (configured header : Option String) (bot_id : Uuid) (update : TelegramUpdate)
      (now : Timestamp)
  | poll (bot : TelegramBotSecret) (update : TelegramUpdate) (now : Timestamp)
  | create (tenant_id telegram_bot_id : Uuid) (token code : SimpleUuid) (now : Timestamp)
  | get (tenant_id id : Uuid) (now : Timestamp)
  | cancel (tenant_id id : Uuid)

def BindingCall.program : BindingCall → BindingProg Unit
  | .webhook configured header bot_id update now =>
    telegram_webhook configured header bot_id update now
  | .poll bot update now =>
    (process_telegram_binding_update bot.id bot.bot_token bot.effective_proxy_url update now).bind
      fun _ => .done ()
  | .create tenant_id telegram_bot_id token code now =>
    (create_telegram_binding tenant_id telegram_bot_id token code now).bind fun _ => .done ()
  | .get tenant_id id now => (get_binding_request tenant_id id now).bind fun _ => .done ()
  | .cancel tenant_id id => (cancel_binding_request tenant_id id).bind fun _ => .done ()

def BindingLaunch {W : Type} (_ : W) (s : BindingWorld) (p : BindingProg Unit) (t : BindingWorld) :
    Prop :=
  t = s ∧ ∃ call : BindingCall, p = call.program

abbrev BindingStep {W : Type} [DecidableEq W] :
    BindingWorld × (W → BindingProg Unit) → BindingWorld × (W → BindingProg Unit) → Prop :=
  Prog.Crew (fun _ => BindingCarried) BindingOthers BindingLaunch

/-- No bot yet, and no request. -/
def binding_start {W : Type} (telegram_proxy_url : Uuid → Option String) :
    BindingWorld × (W → BindingProg Unit) :=
  (⟨.empty telegram_proxy_url, []⟩, fun _ => .done ())

end CoinListener.Notifier
