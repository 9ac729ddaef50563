import CoinListener.Api.RealtimeMessages
import CoinListener.Foundation.Apart
import CoinListener.Foundation.Parts
import CoinListener.Notifier.MinimumAmount
import CoinListener.Storage.Deliveries
import CoinListener.Storage.TelegramBots
import Mathlib.Data.List.Dedup

/-! The notification settings of the tenants: channels, rules and in-app notifications, as requests
list and change them. -/
namespace CoinListener.Api
open Foundation Storage Notifier

/-! ### Tables -/

structure NotificationChannelRow extends NotificationChannel where
  updated_at : Timestamp

structure NotificationRuleRow extends NotificationRule where
  name : String
  updated_at : Timestamp

/-- What of a watched address rules refer to. -/
structure RuleAddress where
  id : Uuid
  tenant_id : Uuid
  chain_id : Uuid
deriving DecidableEq

/-- What of an event notifications refer to. -/
structure NotifiedEvent where
  id : Uuid
  tenant_id : Uuid
  address_id : Uuid
deriving DecidableEq

/-- `drawn` are the identifiers drawn so far; they are not stored. -/
structure SettingsTables where
  chains : List Chain
  assets : List Asset
  watched_addresses : List RuleAddress
  address_events : List NotifiedEvent
  notification_channels : List NotificationChannelRow
  notification_rules : List NotificationRuleRow
  in_app_notifications : List InAppNotificationRow
  drawn : List Uuid

/-- What the database draws for a statement: an identifier, the time, and whether it is carried
out. -/
structure Draw where
  id : Uuid
  now : Timestamp
  outcome : Outcome

def RuleAddress.place (row : RuleAddress) : Uuid × Uuid :=
  (row.id, row.tenant_id)

def NotifiedEvent.place (event : NotifiedEvent) : Uuid × Uuid :=
  (event.id, event.tenant_id)

def NotificationChannelRow.place (row : NotificationChannelRow) : Uuid × Uuid :=
  (row.id, row.tenant_id)

def NotificationRuleRow.place (row : NotificationRuleRow) : Uuid × Uuid :=
  (row.id, row.tenant_id)

def InAppNotificationRow.place (row : InAppNotificationRow) : Uuid × Uuid :=
  (row.id, row.tenant_id)

/-- The row with this identifier, if it is the tenant's. -/
def is_own {Row : Type} (place : Row → Uuid × Uuid) (tenant_id id : Uuid) (row : Row) : Bool :=
  (place row).1 == id && (place row).2 == tenant_id

/-! ### Requests -/

structure CreateNotificationChannelRequest where
  channel_type : String
  name : String
  config : Option Json
  status : Option String

structure UpdateNotificationChannelRequest where
  channel_type : String
  name : String
  config : Option Json
  status : String

/-- A `CreateNotificationRuleRequest` with the fields that are not checked alone. -/
structure RuleRequest extends CreateNotificationRuleRequest where
  chain_id : Option Uuid
  address_id : Option Uuid
  asset_id : Option Uuid
  event_type : Option String
  is_transfer : Option Bool
  enabled : Option Bool

/-- What a rule is set to. -/
structure RuleValues where
  name : String
  chain_id : Option Uuid
  address_id : Option Uuid
  asset_id : Option Uuid
  event_type : Option String
  is_transfer : Option Bool
  min_amount_raw : Option String
  direction : Option String
  channel_ids : List Uuid
  enabled : Bool
  unique_channel_ids : channel_ids.Nodup

def validate_notification_channel_request (request : CreateNotificationChannelRequest) :
    AppResult Unit := do
  ensure (Text.trim request.name != "") (.Validation "channel name is required")
  ensure (["in_app", "telegram", "webhook", "email"].contains request.channel_type)
    (.Validation "channel_type must be in_app, telegram, webhook, or email")
  match request.status with
  | some status => validate_status status
  | none => return ()

theorem validated_channel_ids {request : CreateNotificationRuleRequest}
    (h : validate_notification_rule_request request = .ok ()) :
    (request.channel_ids.getD []).Nodup := by
  obtain ⟨_, _, h⟩ := bind_ok h
  obtain ⟨_, _, h⟩ := bind_ok h
  obtain ⟨_, _, h⟩ := bind_ok h
  cases hids : request.channel_ids with
  | none => exact List.nodup_nil
  | some channel_ids =>
    rw [hids] at h
    have hlength : channel_ids.dedup.length = channel_ids.length := by simpa using ensure_ok.mp h
    have hsame : channel_ids.dedup = channel_ids :=
      (List.dedup_sublist channel_ids).eq_of_length hlength
    exact List.dedup_eq_self.mp hsame

/-- A rule is on, and goes to no channel of its own, unless the request says otherwise. -/
def RuleRequest.values (request : RuleRequest) : AppResult RuleValues :=
  match h : validate_notification_rule_request request.toCreateNotificationRuleRequest with
  | .error error => .error error
  | .ok () => .ok
    { name := request.name
      chain_id := request.chain_id
      address_id := request.address_id
      asset_id := request.asset_id
      event_type := request.event_type
      is_transfer := request.is_transfer
      min_amount_raw := request.min_amount_raw
      direction := request.direction
      channel_ids := request.channel_ids.getD []
      enabled := request.enabled.getD true
      unique_channel_ids := validated_channel_ids h }

def validate_notification_rule_reference_consistency
    (chain_id address_chain_id asset_chain_id : Option Uuid) : AppResult Unit := do
  match chain_id, address_chain_id with
  | some chain_id, some address_chain_id =>
    ensure (chain_id == address_chain_id) (.Validation "address_id must belong to chain_id")
  | _, _ => return ()
  match chain_id, asset_chain_id with
  | some chain_id, some asset_chain_id =>
    ensure (chain_id == asset_chain_id) (.Validation "asset_id must belong to chain_id")
  | _, _ => return ()
  match chain_id, address_chain_id, asset_chain_id with
  | none, some address_chain_id, some asset_chain_id =>
    ensure (address_chain_id == asset_chain_id)
      (.Validation "address_id and asset_id must belong to the same chain")
  | _, _, _ => return ()

/-! ### Statements -/

def NotificationChannelRow.set (channel_type name : String) (config : Json) (status : String)
    (now : Timestamp) (row : NotificationChannelRow) : NotificationChannelRow :=
  { row with
    channel_type := channel_type
    name := name
    config := config
    status := status
    updated_at := now }

def NotificationRuleRow.set (values : RuleValues) (now : Timestamp) (row : NotificationRuleRow) :
    NotificationRuleRow :=
  { id := row.id
    tenant_id := row.tenant_id
    chain_id := values.chain_id
    address_id := values.address_id
    asset_id := values.asset_id
    event_type := values.event_type
    is_transfer := values.is_transfer
    min_amount_raw := values.min_amount_raw
    direction := values.direction
    channel_ids := values.channel_ids
    enabled := values.enabled
    created_at := row.created_at
    unique_channel_ids := values.unique_channel_ids
    name := values.name
    updated_at := now }

/-- The first time it was read stays. -/
def read (now : Timestamp) (row : InAppNotificationRow) : InAppNotificationRow :=
  { row with read_at := some (row.read_at.getD now) }

/-- The rows of the partial index, which holds one for each tenant. -/
def default_in_app (tenant_id : Uuid) (row : NotificationChannelRow) : Bool :=
  NotifySettings.active_in_app tenant_id row.toNotificationChannel &&
    row.name == DEFAULT_IN_APP_CHANNEL_NAME

def default_channel_violation : AppError :=
  .Database ("duplicate key value violates unique constraint " ++
    "\"idx_notification_channels_default_in_app\"")

def rule_foreign_key_violation (column : String) : AppError :=
  .Database ("insert or update on table \"notification_rules\" violates foreign key constraint " ++
    "\"notification_rules_" ++ column ++ "_fkey\"")

def event_foreign_key_violation : AppError :=
  .Database ("insert or update on table \"address_events\" violates foreign key constraint " ++
    "\"address_events_address_id_fkey\"")

namespace SettingsTables
variable (t : SettingsTables) (draw : Draw) (tenant_id id : Uuid)

def is_channel (row : NotificationChannelRow) : Bool :=
  is_own NotificationChannelRow.place tenant_id id row

def is_rule (row : NotificationRuleRow) : Bool :=
  is_own NotificationRuleRow.place tenant_id id row

def is_address (row : RuleAddress) : Bool :=
  is_own RuleAddress.place tenant_id id row

def is_event (row : NotifiedEvent) : Bool :=
  is_own NotifiedEvent.place tenant_id id row

def is_notification (row : InAppNotificationRow) : Bool :=
  is_own InAppNotificationRow.place tenant_id id row

section Channels
variable (channel_type name : String) (config : Json) (status : String)

/-- `LIST_NOTIFICATION_CHANNELS_QUERY`. -/
def list_notification_channels : List NotificationChannelRow :=
  (t.notification_channels.filter (·.tenant_id == tenant_id)).insertionSort
    fun a b => b.created_at ≤ a.created_at

def new_channel : NotificationChannelRow :=
  { id := draw.id
    tenant_id := tenant_id
    channel_type := channel_type
    name := name
    config := config
    status := status
    created_at := draw.now
    updated_at := draw.now }

def add_channel (channel : NotificationChannelRow) : SettingsTables :=
  { t with notification_channels := t.notification_channels ++ [channel] }

def insert_notification_channel : AppResult NotificationChannelRow × SettingsTables :=
  let channel := new_channel draw tenant_id channel_type name config status
  if default_in_app tenant_id channel && t.notification_channels.any (default_in_app tenant_id) then
    (.error default_channel_violation, t)
  else (.ok channel, t.add_channel channel)

/-- `UPDATE_NOTIFICATION_CHANNEL_QUERY`. -/
def update_notification_channel : AppResult (Option NotificationChannelRow) × SettingsTables :=
  match t.notification_channels.find? (is_channel tenant_id id) with
  | none => (.ok none, t)
  | some row =>
    let channel := row.set channel_type name config status draw.now
    if default_in_app tenant_id channel && t.notification_channels.any (fun other =>
        other.id != id && default_in_app tenant_id other) then
      (.error default_channel_violation, t)
    else
      (.ok (some channel), { t with
        notification_channels := Table.update (is_channel tenant_id id)
          (·.set channel_type name config status draw.now) t.notification_channels })

/-- `DELETE_NOTIFICATION_CHANNEL_QUERY`; rules keep the identifier. -/
def delete_notification_channel : AppResult Nat × SettingsTables :=
  (.ok (t.notification_channels.filter (is_channel tenant_id id)).length, { t with
    notification_channels := t.notification_channels.filter fun row =>
      !is_channel tenant_id id row })

def count_notification_channels (channel_ids : List Uuid) : Nat :=
  (t.notification_channels.filter fun row =>
    row.tenant_id == tenant_id && channel_ids.contains row.id).length

/-- The oldest active in-app channel. -/
def first_in_app_channel : Option NotificationChannelRow :=
  letI : Preorder Timestamp := Int.instLinearOrder.toPreorder
  (t.notification_channels.filter fun row =>
    NotifySettings.active_in_app tenant_id row.toNotificationChannel).argmin (·.created_at)

def insert_default_in_app_channel : AppResult (Option NotificationChannelRow) × SettingsTables :=
  let channel := new_channel draw tenant_id "in_app" DEFAULT_IN_APP_CHANNEL_NAME (.obj []) "active"
  if t.notification_channels.any (default_in_app tenant_id) then (.ok none, t)
  else (.ok (some channel), t.add_channel channel)

def default_in_app_channel : Option NotificationChannelRow :=
  t.notification_channels.find? (default_in_app tenant_id)

end Channels

section Rules
variable (values : RuleValues)

/-- `LIST_NOTIFICATION_RULES_QUERY`. -/
def list_notification_rules : List NotificationRuleRow :=
  (t.notification_rules.filter (·.tenant_id == tenant_id)).insertionSort
    fun a b => b.created_at ≤ a.created_at

def chain_exists (chain_id : Uuid) : Bool :=
  t.chains.any (·.id == chain_id)

def address_chain (address_id : Uuid) : Option Uuid :=
  (t.watched_addresses.find? (is_address tenant_id address_id)).map (·.chain_id)

def asset_chain (asset_id : Uuid) : Option Uuid :=
  (t.assets.find? (·.id == asset_id)).map (·.chain_id)

/-- The foreign keys of a rule; that of the address does not compare tenants. -/
def check_references : AppResult Unit := do
  ensure (values.chain_id.all t.chain_exists) (rule_foreign_key_violation "chain_id")
  ensure (values.address_id.all fun address_id => t.watched_addresses.any (·.id == address_id))
    (rule_foreign_key_violation "address_id")
  ensure (values.asset_id.all fun asset_id => t.assets.any (·.id == asset_id))
    (rule_foreign_key_violation "asset_id")

def new_rule : NotificationRuleRow :=
  { id := draw.id
    tenant_id := tenant_id
    chain_id := values.chain_id
    address_id := values.address_id
    asset_id := values.asset_id
    event_type := values.event_type
    is_transfer := values.is_transfer
    min_amount_raw := values.min_amount_raw
    direction := values.direction
    channel_ids := values.channel_ids
    enabled := values.enabled
    created_at := draw.now
    unique_channel_ids := values.unique_channel_ids
    name := values.name
    updated_at := draw.now }

def insert_notification_rule : AppResult NotificationRuleRow × SettingsTables :=
  match t.check_references values with
  | .error error => (.error error, t)
  | .ok _ => (.ok (new_rule draw tenant_id values), { t with
      notification_rules := t.notification_rules ++ [new_rule draw tenant_id values] })

/-- `UPDATE_NOTIFICATION_RULE_QUERY`. -/
def update_notification_rule : AppResult (Option NotificationRuleRow) × SettingsTables :=
  match t.notification_rules.find? (is_rule tenant_id id) with
  | none => (.ok none, t)
  | some row =>
    match t.check_references values with
    | .error error => (.error error, t)
    | .ok _ => (.ok (some (row.set values draw.now)), { t with
        notification_rules := Table.update (is_rule tenant_id id) (·.set values draw.now)
          t.notification_rules })

/-- `DELETE_NOTIFICATION_RULE_QUERY`. -/
def delete_notification_rule : AppResult Nat × SettingsTables :=
  (.ok (t.notification_rules.filter (is_rule tenant_id id)).length, { t with
    notification_rules := t.notification_rules.filter fun row => !is_rule tenant_id id row })

end Rules

section Addresses

/-- What rules see of a new watched address. -/
def insert_watched_address (chain_id : Uuid) : AppResult Uuid × SettingsTables :=
  (.ok draw.id, { t with
    watched_addresses := t.watched_addresses ++ [⟨draw.id, tenant_id, chain_id⟩] })

/-- What notifications see of a new event; its foreign key does not compare tenants. -/
def insert_event (address_id : Uuid) : AppResult Uuid × SettingsTables :=
  if t.watched_addresses.any (·.id == address_id) then
    (.ok draw.id, { t with
      address_events := t.address_events ++ [⟨draw.id, tenant_id, address_id⟩] })
  else (.error event_foreign_key_violation, t)

/-- The event of a notification is one of this address. -/
def event_at (event_id : Uuid) : Bool :=
  t.address_events.any fun event => event.id == event_id && event.address_id == id

/-- The rules and events of an address that is deleted go with it, and so do their notifications. -/
def delete_watched_address : AppResult Nat × SettingsTables :=
  let rows := t.watched_addresses.filter (is_address tenant_id id)
  (.ok rows.length, { t with
    watched_addresses := t.watched_addresses.filter fun row => !is_address tenant_id id row
    address_events := t.address_events.filter fun event => rows.isEmpty || event.address_id != id
    notification_rules := t.notification_rules.filter fun rule =>
      rows.isEmpty || rule.address_id != some id
    in_app_notifications := t.in_app_notifications.filter fun notification =>
      rows.isEmpty || !t.event_at id notification.event_id })

end Addresses

section Notifications

/-- `LIST_IN_APP_NOTIFICATIONS_QUERY`. -/
def list_in_app_notifications (unread_only : Option Bool) : List InAppNotificationRow :=
  ((t.in_app_notifications.filter fun row =>
    row.tenant_id == tenant_id && (unread_only.isNone || row.read_at.isNone)).insertionSort
      fun a b => b.created_at ≤ a.created_at).take 200

/-- `MARK_IN_APP_NOTIFICATION_READ_QUERY`. -/
def mark_in_app_notification_read : AppResult (Option InAppNotificationRow) × SettingsTables :=
  (.ok ((t.in_app_notifications.find? (is_notification tenant_id id)).map (read draw.now)), { t with
    in_app_notifications := Table.update (is_notification tenant_id id) (read draw.now)
      t.in_app_notifications })

/-- `CREATE_IN_APP_NOTIFICATION_QUERY` without a delivery. -/
def create_in_app_notification (event_id : Uuid) (title body : String) :
    AppResult (Option Uuid) × SettingsTables :=
  if t.address_events.any (is_event tenant_id event_id) then
    (.ok (some draw.id), { t with
      in_app_notifications := t.in_app_notifications ++
        [{ id := draw.id
           tenant_id := tenant_id
           event_id := event_id
           delivery_id := none
           title := title
           body := body
           read_at := none
           created_at := draw.now }] })
  else (.ok none, t)

end Notifications

end SettingsTables

inductive SettingsQuery where
  | list_notification_channels (tenant_id : Uuid)
  | insert_notification_channel (tenant_id : Uuid) (channel_type name : String) (config : Json)
      (status : String)
  | update_notification_channel (tenant_id id : Uuid) (channel_type name : String) (config : Json)
      (status : String)
  | delete_notification_channel (tenant_id id : Uuid)
  | count_notification_channels (tenant_id : Uuid) (channel_ids : List Uuid)
  | first_in_app_channel (tenant_id : Uuid)
  | insert_default_in_app_channel (tenant_id : Uuid)
  | default_in_app_channel (tenant_id : Uuid)
  | list_notification_rules (tenant_id : Uuid)
  | chain_exists (chain_id : Uuid)
  | address_chain (tenant_id address_id : Uuid)
  | asset_chain (asset_id : Uuid)
  | insert_notification_rule (tenant_id : Uuid) (values : RuleValues)
  | update_notification_rule (tenant_id id : Uuid) (values : RuleValues)
  | delete_notification_rule (tenant_id id : Uuid)
  | delete_watched_address (tenant_id id : Uuid)
  | insert_watched_address (tenant_id chain_id : Uuid)
  | insert_event (tenant_id address_id : Uuid)
  | list_in_app_notifications (tenant_id : Uuid) (unread_only : Option Bool)
  | mark_in_app_notification_read (tenant_id id : Uuid)
  | create_in_app_notification (tenant_id event_id : Uuid) (title body : String)

abbrev SettingsQuery.Answer : SettingsQuery → Type
  | .list_notification_channels _ => List NotificationChannelRow
  | .insert_notification_channel .. => NotificationChannelRow
  | .update_notification_channel .. => Option NotificationChannelRow
  | .delete_notification_channel .. => Nat
  | .count_notification_channels .. => Nat
  | .first_in_app_channel _ => Option NotificationChannelRow
  | .insert_default_in_app_channel _ => Option NotificationChannelRow
  | .default_in_app_channel _ => Option NotificationChannelRow
  | .list_notification_rules _ => List NotificationRuleRow
  | .chain_exists _ => Bool
  | .address_chain .. => Option Uuid
  | .asset_chain _ => Option Uuid
  | .insert_notification_rule .. => NotificationRuleRow
  | .update_notification_rule .. => Option NotificationRuleRow
  | .delete_notification_rule .. => Nat
  | .delete_watched_address .. => Nat
  | .insert_watched_address .. => Uuid
  | .insert_event .. => Uuid
  | .list_in_app_notifications .. => List InAppNotificationRow
  | .mark_in_app_notification_read .. => Option InAppNotificationRow
  | .create_in_app_notification .. => Option Uuid

/-- What a statement answers, and the tables after it. -/
def SettingsQuery.effect (draw : Draw) (t : SettingsTables) :
    (q : SettingsQuery) → AppResult q.Answer × SettingsTables
  | .list_notification_channels tenant_id => (.ok (t.list_notification_channels tenant_id), t)
  | .insert_notification_channel tenant_id channel_type name config status =>
    t.insert_notification_channel draw tenant_id channel_type name config status
  | .update_notification_channel tenant_id id channel_type name config status =>
    t.update_notification_channel draw tenant_id id channel_type name config status
  | .delete_notification_channel tenant_id id => t.delete_notification_channel tenant_id id
  | .count_notification_channels tenant_id channel_ids =>
    (.ok (t.count_notification_channels tenant_id channel_ids), t)
  | .first_in_app_channel tenant_id => (.ok (t.first_in_app_channel tenant_id), t)
  | .insert_default_in_app_channel tenant_id => t.insert_default_in_app_channel draw tenant_id
  | .default_in_app_channel tenant_id => (.ok (t.default_in_app_channel tenant_id), t)
  | .list_notification_rules tenant_id => (.ok (t.list_notification_rules tenant_id), t)
  | .chain_exists chain_id => (.ok (t.chain_exists chain_id), t)
  | .address_chain tenant_id address_id => (.ok (t.address_chain tenant_id address_id), t)
  | .asset_chain asset_id => (.ok (t.asset_chain asset_id), t)
  | .insert_notification_rule tenant_id values => t.insert_notification_rule draw tenant_id values
  | .update_notification_rule tenant_id id values =>
    t.update_notification_rule draw tenant_id id values
  | .delete_notification_rule tenant_id id => t.delete_notification_rule tenant_id id
  | .delete_watched_address tenant_id id => t.delete_watched_address tenant_id id
  | .insert_watched_address tenant_id chain_id => t.insert_watched_address draw tenant_id chain_id
  | .insert_event tenant_id address_id => t.insert_event draw tenant_id address_id
  | .list_in_app_notifications tenant_id unread_only =>
    (.ok (t.list_in_app_notifications tenant_id unread_only), t)
  | .mark_in_app_notification_read tenant_id id => t.mark_in_app_notification_read draw tenant_id id
  | .create_in_app_notification tenant_id event_id title body =>
    t.create_in_app_notification draw tenant_id event_id title body

def SettingsQuery.run (draw : Draw) (t : SettingsTables) (q : SettingsQuery) :
    AppResult q.Answer × SettingsTables :=
  ((q.effect draw t).1, { (q.effect draw t).2 with drawn := draw.id :: t.drawn })

/-! ### Requests carried out -/

abbrev Settings (α : Type) := Prog SettingsQuery SettingsQuery.Answer AppError α

def settings_query (q : SettingsQuery) : Settings q.Answer := Prog.perform q

section Requests
variable (tenant_id : Uuid)

def create_notification_channel (request : CreateNotificationChannelRequest) :
    Settings NotificationChannelRow := do
  Prog.lift (validate_notification_channel_request request)
  settings_query (.insert_notification_channel tenant_id request.channel_type request.name
    (request.config.getD (.obj [])) (request.status.getD STATUS_ACTIVE))

def update_notification_channel (id : Uuid) (request : UpdateNotificationChannelRequest) :
    Settings NotificationChannelRow := do
  Prog.lift (validate_notification_channel_request
    { channel_type := request.channel_type
      name := request.name
      config := request.config
      status := some request.status })
  let channel ← settings_query (.update_notification_channel tenant_id id request.channel_type
    request.name (request.config.getD (.obj [])) request.status)
  Prog.lift (required channel (.NotFound "notification channel"))

def delete_notification_channel (id : Uuid) : Settings Unit := do
  let rows_affected ← settings_query (.delete_notification_channel tenant_id id)
  Prog.lift (ensure (rows_affected != 0) (.NotFound "notification channel"))

/-- The tenant's oldest active in-app channel, or a new one. Another client may come first. -/
def get_or_create_default_in_app_channel : Settings NotificationChannelRow := do
  match ← settings_query (.first_in_app_channel tenant_id) with
  | some channel => return channel
  | none =>
    match ← settings_query (.insert_default_in_app_channel tenant_id) with
    | some channel => return channel
    | none =>
      let channel ← settings_query (.default_in_app_channel tenant_id)
      Prog.lift (required channel (.NotFound "default in-app channel"))

def validate_notification_rule_channel_ids (channel_ids : List Uuid) : Settings Unit := do
  if channel_ids.isEmpty then return ()
  else
    let unique_channel_ids := channel_ids.dedup
    let count ← settings_query (.count_notification_channels tenant_id unique_channel_ids)
    Prog.lift (ensure (count == unique_channel_ids.length)
      (.Validation "channel_ids must belong to tenant"))

def rule_address_chain (address_id : Option Uuid) : Settings (Option Uuid) := do
  match address_id with
  | none => return none
  | some address_id =>
    let chain_id ← settings_query (.address_chain tenant_id address_id)
    Prog.lift (ensure chain_id.isSome (.Validation "address_id must belong to tenant"))
    return chain_id

def rule_asset_chain (asset_id : Option Uuid) : Settings (Option Uuid) := do
  match asset_id with
  | none => return none
  | some asset_id =>
    let chain_id ← settings_query (.asset_chain asset_id)
    Prog.lift (ensure chain_id.isSome (.Validation "asset_id must exist"))
    return chain_id

def rule_chain_exists (chain_id : Option Uuid) : Settings Unit := do
  match chain_id with
  | none => return ()
  | some chain_id =>
    let found ← settings_query (.chain_exists chain_id)
    Prog.lift (ensure found (.Validation "chain_id must exist"))

/-- Each reference is looked up in a statement of its own. -/
def validate_notification_rule_references (request : RuleRequest) : Settings Unit := do
  rule_chain_exists request.chain_id
  let address_chain_id ← rule_address_chain tenant_id request.address_id
  let asset_chain_id ← rule_asset_chain request.asset_id
  Prog.lift (validate_notification_rule_reference_consistency request.chain_id address_chain_id
    asset_chain_id)
  validate_notification_rule_channel_ids tenant_id (request.channel_ids.getD [])

def create_notification_rule (request : RuleRequest) : Settings NotificationRuleRow := do
  let values ← Prog.lift request.values
  validate_notification_rule_references tenant_id request
  settings_query (.insert_notification_rule tenant_id values)

def update_notification_rule (id : Uuid) (request : RuleRequest) : Settings NotificationRuleRow := do
  let values ← Prog.lift request.values
  validate_notification_rule_references tenant_id request
  let rule ← settings_query (.update_notification_rule tenant_id id values)
  Prog.lift (required rule (.NotFound "notification rule"))

def delete_notification_rule (id : Uuid) : Settings Unit := do
  let rows_affected ← settings_query (.delete_notification_rule tenant_id id)
  Prog.lift (ensure (rows_affected != 0) (.NotFound "notification rule"))

def delete_watched_address (id : Uuid) : Settings Unit := do
  let rows_affected ← settings_query (.delete_watched_address tenant_id id)
  Prog.lift (ensure (rows_affected != 0) (.NotFound "watched address"))

/-- A scan reads its address before it stores an event of it. -/
def record_event (address_id : Uuid) : Settings Uuid := do
  let chain_id ← settings_query (.address_chain tenant_id address_id)
  Prog.lift (ensure chain_id.isSome (.NotFound "watched address"))
  settings_query (.insert_event tenant_id address_id)

def create_in_app_notification (event_id : Uuid) (title body : String) : Settings Uuid := do
  let notification ← settings_query (.create_in_app_notification tenant_id event_id title body)
  Prog.lift (required notification (.NotFound "in-app notification target"))

/-- `false` asks for the read ones too. -/
def list_in_app_notifications (unread_only : Option Bool) : Settings (List InAppNotificationRow) :=
  settings_query (.list_in_app_notifications tenant_id (unread_only.filter (· = true)))

def mark_in_app_notification_read (id : Uuid) : Settings InAppNotificationRow := do
  let notification ← settings_query (.mark_in_app_notification_read tenant_id id)
  Prog.lift (required notification (.NotFound "in-app notification"))

end Requests

/-- What is done in a tenant's name: by its users, and for its addresses and events. -/
inductive SettingsRequest where
  | list_notification_channels
  | create_notification_channel (request : CreateNotificationChannelRequest)
  | update_notification_channel (id : Uuid) (request : UpdateNotificationChannelRequest)
  | delete_notification_channel (id : Uuid)
  | list_notification_rules
  | create_notification_rule (request : RuleRequest)
  | update_notification_rule (id : Uuid) (request : RuleRequest)
  | delete_notification_rule (id : Uuid)
  | list_in_app_notifications (unread_only : Option Bool)
  | mark_in_app_notification_read (id : Uuid)
  | get_or_create_default_in_app_channel
  | delete_watched_address (id : Uuid)
  | watch_address (chain_id : Uuid)
  | record_event (address_id : Uuid)
  | create_in_app_notification (event_id : Uuid) (title body : String)

inductive SettingsResponse where
  | channels (channels : List NotificationChannelRow)
  | channel (channel : NotificationChannelRow)
  | rules (rules : List NotificationRuleRow)
  | rule (rule : NotificationRuleRow)
  | notifications (notifications : List InAppNotificationRow)
  | notification (notification : InAppNotificationRow)
  | id (id : Uuid)
  | no_content

/-- A request of a tenant, from its handler to the response. -/
def settings_program (tenant_id : Uuid) : SettingsRequest → Settings SettingsResponse
  | .list_notification_channels => do
    return .channels (← settings_query (.list_notification_channels tenant_id))
  | .create_notification_channel request => do
    return .channel (← create_notification_channel tenant_id request)
  | .update_notification_channel id request => do
    return .channel (← update_notification_channel tenant_id id request)
  | .delete_notification_channel id => do
    delete_notification_channel tenant_id id
    return .no_content
  | .list_notification_rules => do
    return .rules (← settings_query (.list_notification_rules tenant_id))
  | .create_notification_rule request => do
    return .rule (← create_notification_rule tenant_id request)
  | .update_notification_rule id request => do
    return .rule (← update_notification_rule tenant_id id request)
  | .delete_notification_rule id => do
    delete_notification_rule tenant_id id
    return .no_content
  | .list_in_app_notifications unread_only => do
    return .notifications (← list_in_app_notifications tenant_id unread_only)
  | .mark_in_app_notification_read id => do
    return .notification (← mark_in_app_notification_read tenant_id id)
  | .get_or_create_default_in_app_channel => do
    return .channel (← get_or_create_default_in_app_channel tenant_id)
  | .delete_watched_address id => do
    delete_watched_address tenant_id id
    return .no_content
  | .watch_address chain_id => do
    return .id (← settings_query (.insert_watched_address tenant_id chain_id))
  | .record_event address_id => do
    return .id (← record_event tenant_id address_id)
  | .create_in_app_notification event_id title body => do
    return .id (← create_in_app_notification tenant_id event_id title body)

/-- No identifier is drawn twice. -/
def settings_service : Prog.Service SettingsQuery SettingsQuery.Answer AppError SettingsResponse
    SettingsTables Uuid SettingsRequest Draw where
  program := settings_program
  perform draw t q := draw.outcome.apply AppError.Database t (q.run draw t)
  fresh t draw := draw.id ∉ t.drawn

end CoinListener.Api
