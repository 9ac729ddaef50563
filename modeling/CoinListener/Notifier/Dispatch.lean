import CoinListener.Foundation.Program
import CoinListener.Notifier.Rules
import CoinListener.Storage.Deliveries
import CoinListener.Storage.Outbox

/-! What a notifier does: it claims outbox rows, delivers their events to every channel of every
matching rule, and marks the rows. -/
namespace CoinListener.Notifier
open Foundation Storage

/-! ### Statements -/

/-- A statement against the outbox, the settings or the deliveries. -/
inductive NotifyQuery where
  | release_stale_notification_outbox (stale_before next_attempt_at : Timestamp)
  | claim_due_notification_outbox (now : Timestamp) (worker_id : String) (limit : Int)
  | mark_notification_outbox (id : Uuid) (mark : OutboxMark)
  | get_address_event (event_id tenant_id : Uuid)
  | list_enabled_notification_rules (tenant_id : Uuid)
  | list_channels_by_ids (tenant_id : Uuid) (channel_ids : List Uuid)
  | list_active_channels_by_ids (tenant_id : Uuid) (channel_ids : List Uuid)
  | first_in_app_channel (tenant_id : Uuid)
  | insert_default_in_app_channel (tenant_id : Uuid)
  | default_in_app_channel (tenant_id : Uuid)
  | get_telegram_bot_secret (tenant_id id : Uuid)
  | get_telegram_proxy_url (tenant_id : Uuid)
  | begin_external_notification_delivery (target : ExternalTarget) (attempt_count : Int)
  | mark_external_notification_delivery_sent (tenant_id delivery_id : Uuid) (attempt_count : Int)
      (sent_at : Timestamp) (provider_message_id : Option String)
      (provider_status_code : Option Int) (provider_response : Option String)
  | mark_external_notification_delivery_failed (tenant_id delivery_id : Uuid)
      (attempt_count : Int) (failure : DeliveryFailure) (last_error : String)
      (provider_status_code : Option Int) (provider_response : Option String)
  | create_notification_delivery (tenant_id event_id : Uuid) (rule_id channel_id : Option Uuid)
      (status : DeliveryStatus) (attempt_count : Int) (last_error : Option String)
      (sent_at : Option Timestamp)
  | create_sent_in_app_delivery (tenant_id event_id rule_id channel_id : Uuid)
      (attempt_count : Int) (sent_at : Timestamp) (title body : String)

abbrev NotifyQuery.Answer : NotifyQuery → Type
  | .release_stale_notification_outbox .. => Nat
  | .claim_due_notification_outbox .. => List NotificationOutboxItem
  | .mark_notification_outbox .. => Unit
  | .get_address_event .. => AddressEvent
  | .list_enabled_notification_rules _ => List NotificationRule
  | .list_channels_by_ids .. => List NotificationChannel
  | .list_active_channels_by_ids .. => List NotificationChannel
  | .first_in_app_channel _ => Option NotificationChannel
  | .insert_default_in_app_channel _ => Option NotificationChannel
  | .default_in_app_channel _ => Option NotificationChannel
  | .get_telegram_bot_secret .. => TelegramBotSecret
  | .get_telegram_proxy_url _ => Option String
  | .begin_external_notification_delivery .. => ExternalDeliveryStart
  | .mark_external_notification_delivery_sent .. => Unit
  | .mark_external_notification_delivery_failed .. => Unit
  | .create_notification_delivery .. => Unit
  | .create_sent_in_app_delivery .. => Unit

/-- The event, rule and channel a delivery is for. -/
structure DeliveryPair where
  event_id : Uuid
  rule_id : Uuid
  channel_id : Uuid
deriving DecidableEq

structure WebhookChannelConfig where
  url : String
  secret_env : Option String
  timeout_ms : Nat
deriving DecidableEq

/-- What a notifier asks of the database, of its environment and of the providers. A request is
noted with the delivery and the attempt it is made for, which are not sent. -/
inductive NotifyStatement where
  | db (query : NotifyQuery)
  | env_var (name : String)
  | send_telegram (pair : DeliveryPair) (attempt_count : Int) (config : TelegramChannelConfig)
      (bot_token text : String) (proxy_url : Option String)
  | send_webhook (pair : DeliveryPair) (attempt_count : Int) (config : WebhookChannelConfig)
      (event : AddressEvent) (idempotency_key : String) (secret : Option String)

/-- Where the webhook request cannot be built, nothing is sent. -/
abbrev NotifyStatement.Answer : NotifyStatement → Type
  | .db query => query.Answer
  | .env_var _ => Option String
  | .send_telegram .. => ExternalSendOutcome
  | .send_webhook .. => Except String ExternalSendOutcome

abbrev Notify (α : Type) := Prog NotifyStatement NotifyStatement.Answer AppError α

def query (q : NotifyQuery) : Notify q.Answer := Prog.perform (.db q : NotifyStatement)

/-! ### Channel configurations -/

/-- The address of a webhook as the URL library reads it. -/
structure Url where
  scheme : String
  host_str : Option String

/-- The libraries that read identifiers and URLs. -/
structure Parsers where
  parse_uuid : String → Option Uuid
  parse_url : String → Option Url

def optional_string (value : Json) (key : String) : Option String :=
  (((value.get key).bind Json.as_str).map Text.trim).filter (· ≠ "")

def required_string (value : Json) (key message : String) : Except String String :=
  match optional_string value key with
  | some text => .ok text
  | none => .error message

def optional_uuid (parsers : Parsers) (value : Json) (key : String) :
    Except String (Option Uuid) :=
  match optional_string value key with
  | none => .ok none
  | some raw_value =>
    match parsers.parse_uuid raw_value with
    | some id => .ok (some id)
    | none => .error ("telegram " ++ key ++ " must be a valid uuid")

def TelegramChannelConfig.parse (parsers : Parsers) (value : Json) :
    Except String TelegramChannelConfig := do
  let telegram_bot_id ← optional_uuid parsers value "telegram_bot_id"
  let bot_token_env := optional_string value "bot_token_env"
  if telegram_bot_id.isNone && bot_token_env.isNone then
    .error "telegram telegram_bot_id or bot_token_env is required"
  else
    let chat_id ← required_string value "chat_id" "telegram chat_id is required"
    return { telegram_bot_id := telegram_bot_id, bot_token_env := bot_token_env, chat_id := chat_id }

def WebhookChannelConfig.parse (parsers : Parsers) (value : Json) :
    Except String WebhookChannelConfig := do
  let url ← required_string value "url" "webhook url is required"
  match parsers.parse_url url with
  | none => .error "webhook url must use http or https"
  | some parsed_url =>
    let lower_url := url.toList.map Text.asciiLower
    if (parsed_url.scheme != "http" && parsed_url.scheme != "https") ||
        parsed_url.host_str.isNone || "http:///".toList.isPrefixOf lower_url ||
        "https:///".toList.isPrefixOf lower_url then
      .error "webhook url must use http or https"
    else
      return { url := url
               secret_env := optional_string value "secret_env"
               timeout_ms := max 1000 (min 30000
                 (((value.get "timeout_ms").bind Json.as_u64).getD 5000)) }

/-! ### One channel -/

def get_or_create_default_in_app_channel (tenant_id : Uuid) : Notify NotificationChannel := do
  match ← query (.first_in_app_channel tenant_id) with
  | some channel => return channel
  | none =>
    match ← query (.insert_default_in_app_channel tenant_id) with
    | some channel => return channel
    | none =>
      let channel ← query (.default_in_app_channel tenant_id)
      Prog.lift (required channel (.NotFound "default in-app channel"))

def resolve_rule_channels (tenant_id : Uuid) (rule : NotificationRule) :
    Notify (List ResolvedNotifyChannel) := do
  if rule.channel_ids.isEmpty then
    let channel ← get_or_create_default_in_app_channel tenant_id
    return [.Active channel]
  else
    let existing_channels ← query (.list_channels_by_ids tenant_id rule.channel_ids)
    let active_channels ← query (.list_active_channels_by_ids tenant_id rule.channel_ids)
    return resolve_explicit_rule_channels rule.channel_ids existing_channels active_channels

section Channel
variable (parsers : Parsers) (task : NotifyEventTask) (event : AddressEvent)
  (rule : NotificationRule) (now : Timestamp)

def create_skipped_missing_channel_delivery (channel_id : Uuid) : Notify Unit :=
  query (.create_notification_delivery task.tenant_id task.event_id (some rule.id) none .skipped
    task.attempt (some (missing_channel_error channel_id)) none)

/-- The token and the proxy of a Telegram channel, or what is wrong with them. -/
def telegram_credentials (config : TelegramChannelConfig) :
    Notify (Except String (String × Option String)) := do
  match config.telegram_bot_id with
  | some bot_id =>
    match ← (query (.get_telegram_bot_secret task.tenant_id bot_id)).attempt with
    | .ok bot =>
      if bot.status = "active" then return .ok (bot.bot_token, bot.effective_proxy_url)
      else return .error "telegram bot is inactive"
    | .error error => return .error error.to_string
  | none =>
    let bot_token ← (match config.bot_token_env with
      | some name => Prog.perform (.env_var name : NotifyStatement)
      | none => .done none)
    match bot_token with
    | none => return .error "telegram token env is not set"
    | some bot_token =>
      let effective_proxy_url ← query (.get_telegram_proxy_url task.tenant_id)
      return .ok (bot_token, effective_proxy_url)

def load_optional_env_secret (secret_env : Option String) :
    Notify (Except String (Option String)) := do
  match secret_env with
  | none => return .ok none
  | some secret_env =>
    match ← Prog.perform (.env_var secret_env : NotifyStatement) with
    | some secret => return .ok (some secret)
    | none => return .error ("webhook secret env " ++ secret_env ++ " is not set")

def telegram_outcome (pair : DeliveryPair) (channel : NotificationChannel) :
    Notify (Except String ExternalSendOutcome) := do
  match TelegramChannelConfig.parse parsers channel.config with
  | .error message => return .error message
  | .ok config =>
    match ← telegram_credentials task config with
    | .error message => return .error message
    | .ok (bot_token, effective_proxy_url) =>
      let outcome ← Prog.perform (.send_telegram pair task.attempt config bot_token
        (render_external_notification_text event) effective_proxy_url : NotifyStatement)
      return .ok outcome

def webhook_outcome (pair : DeliveryPair) (idempotency_key : String)
    (channel : NotificationChannel) : Notify (Except String ExternalSendOutcome) := do
  match WebhookChannelConfig.parse parsers channel.config with
  | .error message => return .error message
  | .ok config =>
    match ← load_optional_env_secret config.secret_env with
    | .error message => return .error message
    | .ok secret =>
      Prog.perform (.send_webhook pair task.attempt config event idempotency_key secret :
        NotifyStatement)

/-- The delivery row after the send; only a transient failure is an error. -/
def record_outcome (delivery_id : Uuid) (outcome : ExternalSendOutcome) : Notify Unit := do
  match outcome with
  | .Sent metadata =>
    query (.mark_external_notification_delivery_sent task.tenant_id delivery_id task.attempt now
      metadata.provider_message_id metadata.provider_status_code metadata.provider_response)
  | .PermanentFailure metadata =>
    query (.mark_external_notification_delivery_failed task.tenant_id delivery_id task.attempt
      .permanent (metadata.last_error.getD "external notification failed")
      metadata.provider_status_code metadata.provider_response)
  | .TransientFailure metadata =>
    query (.mark_external_notification_delivery_failed task.tenant_id delivery_id task.attempt
      .transient (metadata.last_error.getD "external notification failed")
      metadata.provider_status_code metadata.provider_response)
  Prog.lift (external_send_outcome_result outcome)

def external_target (channel_id : Uuid) (channel_type : ExternalChannelType) : ExternalTarget :=
  { tenant_id := task.tenant_id
    event_id := task.event_id
    rule_id := rule.id
    channel_id := channel_id
    channel_type := channel_type.as_str
    idempotency_key :=
      notification_idempotency_key task.tenant_id task.event_id rule.id channel_id }

def process_external_channel_delivery (channel_id : Uuid) (channel_type : ExternalChannelType) :
    Notify Unit := do
  let target := external_target task rule channel_id channel_type
  let pair : DeliveryPair := ⟨task.event_id, rule.id, channel_id⟩
  match ← query (.begin_external_notification_delivery target task.attempt) with
  | .AlreadyComplete _ => return ()
  | .ReadyToSend delivery_id =>
    let channels ← query (.list_channels_by_ids task.tenant_id [channel_id])
    let channel ← Prog.lift
      (required channels.head? (.NotFound "external notification channel"))
    let sent ← (match channel_type with
      | .Telegram => telegram_outcome parsers task event pair channel
      | .Webhook => webhook_outcome parsers task event pair target.idempotency_key channel)
    match sent with
    | .error message =>
      query (.mark_external_notification_delivery_failed task.tenant_id delivery_id task.attempt
        .not_sent message none none)
    | .ok outcome => record_outcome task now delivery_id outcome

def process_channel_delivery (plan : NotifyDeliveryPlan) : Notify Unit :=
  if plan.create_in_app then
    query (.create_sent_in_app_delivery task.tenant_id task.event_id rule.id plan.channel_id
      task.attempt now (build_in_app_notification_content event).1
      (build_in_app_notification_content event).2)
  else
    match plan.external_channel_type with
    | some channel_type =>
      process_external_channel_delivery parsers task event rule now plan.channel_id channel_type
    | none =>
      query (.create_notification_delivery task.tenant_id task.event_id (some rule.id)
        (some plan.channel_id) plan.status task.attempt plan.last_error
        (delivery_sent_at plan.status now))

def process_resolved_channel : ResolvedNotifyChannel → Notify Unit
  | .Active channel =>
    process_channel_delivery parsers task event rule now (build_delivery_plan channel)
  | .Inactive channel_id =>
    process_channel_delivery parsers task event rule now
      (build_unavailable_channel_delivery_plan channel_id)
  | .Missing channel_id => create_skipped_missing_channel_delivery task rule channel_id

end Channel

/-! ### One item -/

/-- The number of deliveries; the first error ends it. -/
def process_rule (parsers : Parsers) (task : NotifyEventTask) (event : AddressEvent)
    (now : Timestamp) (rule : NotificationRule) : Notify (List Unit) := do
  let channels ← resolve_rule_channels task.tenant_id rule
  Prog.forEach (fun channel => do
    process_resolved_channel parsers task event rule now channel
    return [()]) channels

def process_notify_task (parsers : Parsers) (task : NotifyEventTask) (now : Timestamp) :
    Notify Nat := do
  let event ← query (.get_address_event task.event_id task.tenant_id)
  let rules ← query (.list_enabled_notification_rules task.tenant_id)
  let deliveries ← Prog.forEach (process_rule parsers task event now)
    (rules.filter (notification_rule_matches_event · event))
  return deliveries.length

def process_notification_outbox_item (parsers : Parsers) (item : NotificationOutboxItem)
    (now : Timestamp) : Notify Nat :=
  process_notify_task parsers (notify_task_from_outbox_item item) now

/-! ### One batch -/

structure NotificationOutboxDispatcherConfig where
  batch_size : Int
  max_attempts : Int
  stale_lock_seconds : Int
deriving DecidableEq

/-- How an attempt on an item is marked. -/
def outbox_mark (config : NotificationOutboxDispatcherConfig) (now : Timestamp)
    (attempt_count : Int) : Except AppError Nat → OutboxMark
  | .ok _ => .delivered now
  | .error error =>
    if notification_outbox_should_fail attempt_count config.max_attempts then
      .failed error.to_string
    else
      .retryable (notification_outbox_next_attempt_at now attempt_count) error.to_string

def process_and_mark (parsers : Parsers) (config : NotificationOutboxDispatcherConfig)
    (now : Timestamp) (item : NotificationOutboxItem) : Notify (List Unit) := do
  let result ← (process_notification_outbox_item parsers item now).attempt
  query (.mark_notification_outbox item.id (outbox_mark config now item.attempt_count result))
  return []

def process_notification_outbox_batch (parsers : Parsers) (worker_id : String)
    (config : NotificationOutboxDispatcherConfig) (now : Timestamp) : Notify Nat := do
  let _ ← query (.release_stale_notification_outbox (now - config.stale_lock_seconds) now)
  let items ← query (.claim_due_notification_outbox now worker_id config.batch_size)
  let _ ← Prog.forEach (process_and_mark parsers config now) items
  return items.length

end CoinListener.Notifier
