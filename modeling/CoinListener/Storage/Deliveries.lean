import CoinListener.Core.Models
import CoinListener.Foundation.Table
import Mathlib.Data.List.MinMax
import Mathlib.Data.List.Sort

/-! Rules, channels and deliveries of notifications: the tables and the statements of an attempt. -/
namespace CoinListener
open Foundation

/-! ### Rows -/

/-- The columns of the unique index on deliveries. -/
structure DeliveryKey where
  event_id : Uuid
  rule_id : Uuid
  channel_id : Uuid
  idempotency_key : String
deriving DecidableEq

namespace NotificationDelivery

/-- The index covers the rows that have an idempotency key; no empty column conflicts. -/
def unique_key (delivery : NotificationDelivery) : Option DeliveryKey :=
  match delivery.rule_id, delivery.channel_id, delivery.idempotency_key with
  | some rule_id, some channel_id, some idempotency_key =>
    some ⟨delivery.event_id, rule_id, channel_id, idempotency_key⟩
  | _, _, _ => none

/-- A new attempt on the delivery. -/
def restarted (attempt_count : Int) (delivery : NotificationDelivery) : NotificationDelivery :=
  { delivery with
    status := .processing
    attempt_count := attempt_count
    last_error := none
    provider_message_id := none
    provider_status_code := none
    provider_response := none
    sent_at := none
    failure := none }

def marked_sent (sent_at : Timestamp) (provider_message_id : Option String)
    (provider_status_code : Option Int) (provider_response : Option String)
    (delivery : NotificationDelivery) : NotificationDelivery :=
  { delivery with
    status := .sent
    last_error := none
    sent_at := some sent_at
    provider_message_id := provider_message_id
    provider_status_code := provider_status_code
    provider_response := provider_response }

def marked_failed (failure : DeliveryFailure) (last_error : String)
    (provider_status_code : Option Int) (provider_response : Option String)
    (delivery : NotificationDelivery) : NotificationDelivery :=
  { delivery with
    status := .failed
    last_error := some last_error
    provider_status_code := provider_status_code
    provider_response := provider_response
    sent_at := none
    provider_message_id := none
    failure := some failure }

/-- The guard of the marks: still the attempt that is under way. -/
def under_way (delivery_id tenant_id : Uuid) (attempt_count : Int)
    (delivery : NotificationDelivery) : Bool :=
  delivery.id == delivery_id && delivery.tenant_id == tenant_id &&
    delivery.status = .processing && delivery.attempt_count == attempt_count

@[simp] theorem restarted_id (attempt_count : Int) (delivery : NotificationDelivery) :
    (delivery.restarted attempt_count).id = delivery.id := rfl

@[simp] theorem restarted_unique_key (attempt_count : Int) (delivery : NotificationDelivery) :
    (delivery.restarted attempt_count).unique_key = delivery.unique_key := rfl

/-- Sent or skipped. -/
def Final (delivery : NotificationDelivery) : Prop :=
  delivery.status = .sent ∨ delivery.status = .skipped

instance (delivery : NotificationDelivery) : Decidable delivery.Final :=
  inferInstanceAs (Decidable (_ ∨ _))

theorem under_way_iff {delivery_id tenant_id : Uuid} {attempt_count : Int}
    {delivery : NotificationDelivery} :
    delivery.under_way delivery_id tenant_id attempt_count = true ↔
      delivery.id = delivery_id ∧ delivery.tenant_id = tenant_id ∧
        delivery.status = .processing ∧ delivery.attempt_count = attempt_count := by
  simp [under_way, and_assoc]

end NotificationDelivery

namespace Storage

def DEFAULT_IN_APP_CHANNEL_NAME : String := "Default In-App"

/-- Whether an attempt still has to send. -/
inductive ExternalDeliveryStart where
  | AlreadyComplete (delivery_id : Uuid)
  | ReadyToSend (delivery_id : Uuid)
deriving DecidableEq

def external_delivery_start_from_status_and_attempt (delivery_id : Uuid) (status : DeliveryStatus)
    (existing_attempt_count requested_attempt_count : Int) : ExternalDeliveryStart :=
  match status with
  | .sent | .skipped => .AlreadyComplete delivery_id
  | _ =>
    if requested_attempt_count ≤ existing_attempt_count then .AlreadyComplete delivery_id
    else .ReadyToSend delivery_id

section Start
variable {delivery : NotificationDelivery} {attempt_count : Int}

theorem start_complete (h : delivery.Final ∨ attempt_count ≤ delivery.attempt_count) :
    external_delivery_start_from_status_and_attempt delivery.id delivery.status
      delivery.attempt_count attempt_count = .AlreadyComplete delivery.id := by
  unfold external_delivery_start_from_status_and_attempt
  cases hstatus : delivery.status with
  | sent => rfl
  | skipped => rfl
  | processing =>
    refine if_pos (h.resolve_left fun hfinal => ?_)
    rcases hfinal with hsent | hsent <;> exact nomatch hstatus.symm.trans hsent
  | failed =>
    refine if_pos (h.resolve_left fun hfinal => ?_)
    rcases hfinal with hsent | hsent <;> exact nomatch hstatus.symm.trans hsent

theorem start_ready (h : ¬ (delivery.Final ∨ attempt_count ≤ delivery.attempt_count)) :
    external_delivery_start_from_status_and_attempt delivery.id delivery.status
      delivery.attempt_count attempt_count = .ReadyToSend delivery.id := by
  rw [not_or] at h
  obtain ⟨hfinal, holder⟩ := h
  unfold external_delivery_start_from_status_and_attempt
  cases hstatus : delivery.status with
  | sent => exact absurd (.inl hstatus) hfinal
  | skipped => exact absurd (.inr hstatus) hfinal
  | processing => exact if_neg holder
  | failed => exact if_neg holder

end Start

/-! ### Tables -/

/-- What the tenants have set up. -/
structure NotifySettings where
  notification_rules : List NotificationRule
  notification_channels : List NotificationChannel
  telegram_bots : List TelegramBotSecret
  telegram_proxy_url : Uuid → Option String
  unique_rule_id : (notification_rules.map (·.id)).Nodup
  unique_channel_id : (notification_channels.map (·.id)).Nodup

namespace NotifySettings

def empty : NotifySettings where
  notification_rules := []
  notification_channels := []
  telegram_bots := []
  telegram_proxy_url _ := none
  unique_rule_id := List.nodup_nil
  unique_channel_id := List.nodup_nil

/-- The channels there are and the channels that rules name have all been handed out before. -/
def Below (settings : NotifySettings) (next_id : Uuid) : Prop :=
  (∀ channel ∈ settings.notification_channels, channel.id < next_id) ∧
    ∀ rule ∈ settings.notification_rules, ∀ id ∈ rule.channel_ids, id < next_id

variable (settings : NotifySettings)

def has_rule (tenant_id rule_id : Uuid) : Bool :=
  settings.notification_rules.any fun rule => rule.id == rule_id && rule.tenant_id == tenant_id

def has_channel (tenant_id channel_id : Uuid) : Bool :=
  settings.notification_channels.any fun channel =>
    channel.id == channel_id && channel.tenant_id == tenant_id

def has_channel_of_type (tenant_id channel_id : Uuid) (channel_type : String) : Bool :=
  settings.notification_channels.any fun channel =>
    channel.id == channel_id && channel.tenant_id == tenant_id &&
      channel.channel_type == channel_type

def list_enabled_notification_rules (tenant_id : Uuid) : List NotificationRule :=
  (settings.notification_rules.filter fun rule =>
    rule.tenant_id == tenant_id && rule.enabled).insertionSort fun a b => a.created_at ≤ b.created_at

def list_channels_by_ids (tenant_id : Uuid) (channel_ids : List Uuid) : List NotificationChannel :=
  (settings.notification_channels.filter fun channel =>
    channel.tenant_id == tenant_id && channel_ids.contains channel.id).insertionSort
      fun a b => a.created_at ≤ b.created_at

def list_active_channels_by_ids (tenant_id : Uuid) (channel_ids : List Uuid) :
    List NotificationChannel :=
  (settings.notification_channels.filter fun channel =>
    channel.tenant_id == tenant_id && channel.status == "active" &&
      channel_ids.contains channel.id).insertionSort fun a b => a.created_at ≤ b.created_at

def active_in_app (tenant_id : Uuid) (channel : NotificationChannel) : Bool :=
  channel.tenant_id == tenant_id && channel.channel_type == "in_app" && channel.status == "active"

/-- The oldest active in-app channel. -/
def first_in_app_channel (tenant_id : Uuid) : Option NotificationChannel :=
  letI : Preorder Timestamp := Int.instLinearOrder.toPreorder
  (settings.notification_channels.filter (active_in_app tenant_id)).argmin (·.created_at)

/-- The channel the unique index on default channels finds. -/
def default_in_app_channel (tenant_id : Uuid) : Option NotificationChannel :=
  settings.notification_channels.find? fun channel =>
    active_in_app tenant_id channel && channel.name == DEFAULT_IN_APP_CHANNEL_NAME

def get_telegram_bot_secret (tenant_id id : Uuid) : AppResult TelegramBotSecret :=
  required (settings.telegram_bots.find? fun bot => bot.id == id && bot.tenant_id == tenant_id)
    (.NotFound "telegram bot")

end NotifySettings

/-- No two rows have the same key in the unique index. -/
def DistinctKeys (a b : NotificationDelivery) : Prop :=
  ∀ key, a.unique_key = some key → b.unique_key ≠ some key

/-- Settings, deliveries and in-app notifications. Identifiers are handed out in order, so a new one
is never in use. -/
structure DeliveryTables where
  settings : NotifySettings
  notification_deliveries : List NotificationDelivery
  in_app_notifications : List InAppNotification
  next_id : Uuid
  below : settings.Below next_id
  delivery_lt : ∀ delivery ∈ notification_deliveries, delivery.id < next_id
  unique_delivery_id : (notification_deliveries.map (·.id)).Nodup
  unique_key : notification_deliveries.Pairwise DistinctKeys

/-- An external delivery is found by these columns. -/
structure ExternalTarget where
  tenant_id : Uuid
  event_id : Uuid
  rule_id : Uuid
  channel_id : Uuid
  channel_type : String
  idempotency_key : String
deriving DecidableEq

namespace ExternalTarget
variable (target : ExternalTarget)

def key : DeliveryKey :=
  ⟨target.event_id, target.rule_id, target.channel_id, target.idempotency_key⟩

/-- `SELECT_EXTERNAL_NOTIFICATION_DELIVERY_FOR_UPDATE_QUERY`. -/
def selects (delivery : NotificationDelivery) : Bool :=
  delivery.tenant_id == target.tenant_id && delivery.unique_key == some target.key

def new_delivery (id : Uuid) (attempt_count : Int) : NotificationDelivery :=
  { id := id
    tenant_id := target.tenant_id
    event_id := target.event_id
    rule_id := some target.rule_id
    channel_id := some target.channel_id
    channel_type := some target.channel_type
    status := .processing
    attempt_count := attempt_count
    idempotency_key := some target.idempotency_key
    provider_message_id := none
    provider_status_code := none
    provider_response := none
    last_error := none
    sent_at := none
    failure := none }

@[simp] theorem new_delivery_unique_key (id : Uuid) (attempt_count : Int) :
    (target.new_delivery id attempt_count).unique_key = some target.key :=
  rfl

end ExternalTarget

/-- What a begin does to the rows of deliveries, and what it answers. -/
inductive BeginEffect (target : ExternalTarget) (attempt_count : Int) :
    List NotificationDelivery → ExternalDeliveryStart → List NotificationDelivery → Prop where
  | inserted {rows : List NotificationDelivery} {id : Uuid} (hid : ∀ row ∈ rows, row.id ≠ id)
      (hnew : ∀ row ∈ rows, row.unique_key ≠ some target.key) :
      BeginEffect target attempt_count rows (.ReadyToSend id)
        (rows ++ [target.new_delivery id attempt_count])
  | restarted {rows : List NotificationDelivery} {delivery : NotificationDelivery}
      (hmem : delivery ∈ rows) (hsel : target.selects delivery = true)
      (hfinal : ¬ delivery.Final) (holder : delivery.attempt_count < attempt_count) :
      BeginEffect target attempt_count rows (.ReadyToSend delivery.id)
        (Table.update (·.id == delivery.id) (·.restarted attempt_count) rows)
  | complete {rows : List NotificationDelivery} {delivery : NotificationDelivery}
      (hmem : delivery ∈ rows) (hsel : target.selects delivery = true)
      (hdone : delivery.Final ∨ attempt_count ≤ delivery.attempt_count) :
      BeginEffect target attempt_count rows (.AlreadyComplete delivery.id) rows

/-- Rows keep their keys apart in an update that leaves the keys as they are. -/
theorem distinct_keys_update {rows : List NotificationDelivery} {p : NotificationDelivery → Bool}
    {f : NotificationDelivery → NotificationDelivery}
    (hkey : ∀ delivery, (f delivery).unique_key = delivery.unique_key)
    (h : rows.Pairwise DistinctKeys) : (Table.update p f rows).Pairwise DistinctKeys := by
  refine List.pairwise_map.mpr (h.imp fun {a b} hab key ha hb => ?_)
  rw [Table.revise_column hkey] at ha hb
  exact hab key ha hb

instance : Std.Symm DistinctKeys :=
  ⟨fun _ _ hab key hb ha => hab key ha hb⟩

/-- Two rows of one key are one row. -/
theorem same_key {rows : List NotificationDelivery} {a b : NotificationDelivery}
    {key : DeliveryKey} (h : rows.Pairwise DistinctKeys) (ha : a ∈ rows) (hb : b ∈ rows)
    (hkey : a.unique_key = some key) (hkey' : b.unique_key = some key) : a = b := by
  by_contra hne
  exact h.forall ha hb hne key hkey hkey'

theorem ExternalTarget.selects_iff {target : ExternalTarget} {delivery : NotificationDelivery} :
    target.selects delivery = true ↔
      delivery.tenant_id = target.tenant_id ∧ delivery.unique_key = some target.key := by
  simp [ExternalTarget.selects]

namespace BeginEffect
variable {target : ExternalTarget} {attempt_count : Int} {rows rows' : List NotificationDelivery}
  {start : ExternalDeliveryStart} {row : NotificationDelivery}

/-- Every row is still there, under its key and its identifier. -/
theorem kept (h : BeginEffect target attempt_count rows start rows') (hrow : row ∈ rows) :
    ∃ row' ∈ rows', row'.id = row.id ∧ row'.unique_key = row.unique_key := by
  cases h with
  | inserted => exact ⟨row, List.mem_append_left _ hrow, rfl, rfl⟩
  | restarted =>
    refine ⟨_, List.mem_map_of_mem hrow, ?_, ?_⟩
    · exact Table.revise_column (NotificationDelivery.restarted_id attempt_count) row
    · exact Table.revise_column (NotificationDelivery.restarted_unique_key attempt_count) row
  | complete => exact ⟨row, hrow, rfl, rfl⟩

/-- The row of the target is there. -/
theorem has_row (h : BeginEffect target attempt_count rows start rows') :
    ∃ row ∈ rows', row.unique_key = some target.key := by
  cases h with
  | inserted => exact ⟨_, List.mem_append_right _ (List.mem_singleton_self _), rfl⟩
  | restarted hmem hsel hfinal holder =>
    obtain ⟨row', hrow', _, hkey⟩ := (restarted hmem hsel hfinal holder).kept hmem
    exact ⟨row', hrow', hkey.trans (ExternalTarget.selects_iff.mp hsel).2⟩
  | complete hmem hsel => exact ⟨_, hmem, (ExternalTarget.selects_iff.mp hsel).2⟩

theorem distinct_keys (h : BeginEffect target attempt_count rows start rows')
    (hkeys : rows.Pairwise DistinctKeys) : rows'.Pairwise DistinctKeys := by
  cases h with
  | inserted hid hnew =>
    refine List.pairwise_append.mpr ⟨hkeys, List.pairwise_singleton .., ?_⟩
    intro row hrow delivery hdelivery key hkey hkey'
    rw [List.mem_singleton.mp hdelivery, ExternalTarget.new_delivery_unique_key] at hkey'
    exact hnew row hrow (hkey.trans hkey'.symm)
  | restarted => exact distinct_keys_update (fun _ => rfl) hkeys
  | complete => exact hkeys

theorem ids_nodup (h : BeginEffect target attempt_count rows start rows')
    (hids : (rows.map (·.id)).Nodup) : (rows'.map (·.id)).Nodup := by
  cases h with
  | inserted hid =>
    rw [List.map_append, List.nodup_append]
    refine ⟨hids, List.nodup_singleton _, ?_⟩
    intro a ha b hb hab
    obtain ⟨row, hrow, rfl⟩ := List.mem_map.mp ha
    rw [List.mem_singleton.mp hb] at hab
    exact hid row hrow hab
  | restarted =>
    rw [Table.update_column (NotificationDelivery.restarted_id attempt_count)]
    exact hids
  | complete => exact hids

/-- A row that is sent or skipped stays as it is. -/
theorem final_mem (h : BeginEffect target attempt_count rows start rows')
    (hids : (rows.map (·.id)).Nodup) (hrow : row ∈ rows) (hfinal : row.Final) : row ∈ rows' := by
  cases h with
  | inserted => exact List.mem_append_left _ hrow
  | restarted hmem hsel hopen holder =>
    refine Table.mem_update_of_false (beq_eq_false_iff_ne.mpr fun hid => ?_) hrow
    exact hopen (List.inj_on_of_nodup_map hids hrow hmem hid ▸ hfinal)
  | complete => exact hrow

/-- And its target is complete. -/
theorem complete_of_final (h : BeginEffect target attempt_count rows start rows')
    (hkeys : rows.Pairwise DistinctKeys) (hrow : row ∈ rows) (hfinal : row.Final)
    (hkey : row.unique_key = some target.key) : start = .AlreadyComplete row.id := by
  cases h with
  | inserted hid hnew => exact absurd hkey (hnew row hrow)
  | restarted hmem hsel hopen holder =>
    have hsame := same_key hkeys hrow hmem hkey (ExternalTarget.selects_iff.mp hsel).2
    exact absurd (hsame ▸ hfinal) hopen
  | complete hmem hsel =>
    rw [same_key hkeys hrow hmem hkey (ExternalTarget.selects_iff.mp hsel).2]

end BeginEffect

/-- The event a delivery is for exists. -/
def has_event (events : List AddressEvent) (tenant_id event_id : Uuid) : Bool :=
  events.any fun event => event.id == event_id && event.tenant_id == tenant_id

/-- The event, the rule and the channel of a target belong to its tenant. -/
def NotifySettings.has_target (settings : NotifySettings) (events : List AddressEvent)
    (target : ExternalTarget) : Bool :=
  has_event events target.tenant_id target.event_id &&
    settings.has_rule target.tenant_id target.rule_id &&
    settings.has_channel_of_type target.tenant_id target.channel_id target.channel_type

namespace DeliveryTables
variable (t : DeliveryTables)

def empty : DeliveryTables where
  settings := .empty
  notification_deliveries := []
  in_app_notifications := []
  next_id := 0
  below := by constructor <;> simp [NotifySettings.empty]
  delivery_lt := by simp
  unique_delivery_id := List.nodup_nil
  unique_key := List.Pairwise.nil

/-- Adds a row under the next identifier, where the unique index allows it. -/
def add_delivery (delivery : NotificationDelivery) (hid : delivery.id = t.next_id)
    (hkey : ∀ row ∈ t.notification_deliveries, DistinctKeys row delivery) : DeliveryTables :=
  { t with
    notification_deliveries := t.notification_deliveries ++ [delivery]
    next_id := t.next_id + 1
    below := ⟨fun channel hchannel => Nat.lt_succ_of_lt (t.below.1 channel hchannel),
      fun rule hrule id hid => Nat.lt_succ_of_lt (t.below.2 rule hrule id hid)⟩
    delivery_lt := by
      intro row hrow
      rcases List.mem_append.mp hrow with hrow | hrow
      · exact Nat.lt_succ_of_lt (t.delivery_lt row hrow)
      · rw [List.mem_singleton.mp hrow, hid]
        exact Nat.lt_succ_self _
    unique_delivery_id := by
      rw [List.map_append, List.nodup_append]
      refine ⟨t.unique_delivery_id, List.nodup_singleton _, ?_⟩
      intro a ha b hb hab
      obtain ⟨row, hrow, rfl⟩ := List.mem_map.mp ha
      have hlt := t.delivery_lt row hrow
      have hb' : b = delivery.id := by simpa using hb
      exact absurd (hab.trans (hb'.trans hid)) (Nat.ne_of_lt hlt)
    unique_key := by
      refine List.pairwise_append.mpr ⟨t.unique_key, List.pairwise_singleton .., ?_⟩
      intro row hrow b hb
      rw [List.mem_singleton.mp hb]
      exact hkey row hrow }

/-- Changes rows, but not their identifiers; a key may at most be lost. -/
def update_deliveries (p : NotificationDelivery → Bool)
    (f : NotificationDelivery → NotificationDelivery)
    (hid : ∀ delivery, (f delivery).id = delivery.id)
    (hkey : ∀ delivery key, (f delivery).unique_key = some key → delivery.unique_key = some key) :
    DeliveryTables :=
  { t with
    notification_deliveries := Table.update p f t.notification_deliveries
    delivery_lt := by
      intro b hb
      obtain ⟨a, ha, rfl⟩ := Table.mem_update.mp hb
      rw [Table.revise_column hid]
      exact t.delivery_lt a ha
    unique_delivery_id := by
      rw [Table.update_column hid]
      exact t.unique_delivery_id
    unique_key := by
      have hrevise : ∀ a key, (Table.revise p f a).unique_key = some key →
          a.unique_key = some key := by
        intro a key h
        cases hp : p a with
        | true => exact hkey a key (Table.revise_of_true (f := f) hp ▸ h)
        | false => exact Table.revise_of_false (f := f) hp ▸ h
      refine List.pairwise_map.mpr (t.unique_key.imp fun {a b} hab key ha hb => ?_)
      exact hab key (hrevise a key ha) (hrevise b key hb) }

/-! ### The statements of an external delivery -/

section External
variable (events : List AddressEvent) (target : ExternalTarget) (attempt_count : Int)

def conflicts (key : DeliveryKey) : Bool :=
  t.notification_deliveries.any (·.unique_key == some key)

/-- `INSERT_EXTERNAL_NOTIFICATION_DELIVERY_QUERY`. -/
def insert_external_notification_delivery : Option NotificationDelivery × DeliveryTables :=
  if h : t.settings.has_target events target = true ∧ t.conflicts target.key = false then
    let delivery := target.new_delivery t.next_id attempt_count
    (some delivery, t.add_delivery delivery rfl (by
      intro row hrow key hkey hnew
      obtain rfl : target.key = key := Option.some.inj hnew
      have hany := List.any_eq_false.mp h.2 row hrow
      exact hany (beq_iff_eq.mpr hkey)))
  else (none, t)

def select_external_notification_delivery : Option NotificationDelivery :=
  t.notification_deliveries.find? target.selects

/-- `UPDATE_EXTERNAL_NOTIFICATION_DELIVERY_PROCESSING_QUERY`. -/
def update_external_notification_delivery_processing (delivery_id : Uuid) :
    AppResult Unit × DeliveryTables :=
  let older := fun delivery : NotificationDelivery =>
    delivery.id == delivery_id && delivery.tenant_id == target.tenant_id &&
      decide (delivery.attempt_count < attempt_count)
  if t.notification_deliveries.any older then
    (.ok (), t.update_deliveries older (·.restarted attempt_count) (fun _ => rfl)
      fun _ _ h => h)
  else (.error (.NotFound "external notification delivery"), t)

/-- One transaction: the row is inserted, or found and locked. -/
def begin_external_notification_delivery : AppResult ExternalDeliveryStart × DeliveryTables :=
  match t.insert_external_notification_delivery events target attempt_count with
  | (some delivery, inserted) => (.ok (.ReadyToSend delivery.id), inserted)
  | (none, _) =>
    match t.select_external_notification_delivery target with
    | none => (.error (.NotFound "external notification delivery target"), t)
    | some delivery =>
      match external_delivery_start_from_status_and_attempt delivery.id delivery.status
        delivery.attempt_count attempt_count with
      | .AlreadyComplete delivery_id => (.ok (.AlreadyComplete delivery_id), t)
      | .ReadyToSend delivery_id =>
        match t.update_external_notification_delivery_processing target attempt_count
          delivery_id with
        | (.ok (), updated) => (.ok (.ReadyToSend delivery_id), updated)
        | (.error error, _) => (.error error, t)

/-- One row changes: the one whose attempt is under way. -/
def mark_external_notification_delivery (tenant_id delivery_id : Uuid) (attempt_count : Int)
    (f : NotificationDelivery → NotificationDelivery)
    (hid : ∀ delivery, (f delivery).id = delivery.id)
    (hkey : ∀ delivery key, (f delivery).unique_key = some key → delivery.unique_key = some key) :
    AppResult Unit × DeliveryTables :=
  if t.notification_deliveries.any (·.under_way delivery_id tenant_id attempt_count) then
    (.ok (), t.update_deliveries (·.under_way delivery_id tenant_id attempt_count) f hid hkey)
  else (.error (.NotFound "external notification delivery"), t)

def mark_external_notification_delivery_sent (tenant_id delivery_id : Uuid) (attempt_count : Int)
    (sent_at : Timestamp) (provider_message_id : Option String)
    (provider_status_code : Option Int) (provider_response : Option String) :
    AppResult Unit × DeliveryTables :=
  t.mark_external_notification_delivery tenant_id delivery_id attempt_count
    (·.marked_sent sent_at provider_message_id provider_status_code provider_response)
    (fun _ => rfl) fun _ _ h => h

/-- `failure` is not stored; it says what the delivery failed of. -/
def mark_external_notification_delivery_failed (tenant_id delivery_id : Uuid)
    (attempt_count : Int) (failure : DeliveryFailure) (last_error : String)
    (provider_status_code : Option Int) (provider_response : Option String) :
    AppResult Unit × DeliveryTables :=
  t.mark_external_notification_delivery tenant_id delivery_id attempt_count
    (·.marked_failed failure last_error provider_status_code provider_response)
    (fun _ => rfl) fun _ _ h => h

end External

/-! ### The other statements -/

/-- A delivery without idempotency key. -/
def plain_delivery (tenant_id event_id : Uuid) (rule_id channel_id : Option Uuid)
    (channel_type : Option String) (status : DeliveryStatus) (attempt_count : Int)
    (last_error : Option String) (sent_at : Option Timestamp) : NotificationDelivery :=
  { id := t.next_id
    tenant_id := tenant_id
    event_id := event_id
    rule_id := rule_id
    channel_id := channel_id
    channel_type := channel_type
    status := status
    attempt_count := attempt_count
    idempotency_key := none
    provider_message_id := none
    provider_status_code := none
    provider_response := none
    last_error := last_error
    sent_at := sent_at
    failure := none }

theorem unique_key_of_no_key {delivery : NotificationDelivery}
    (h : delivery.idempotency_key = none) : delivery.unique_key = none := by
  unfold NotificationDelivery.unique_key
  split
  · next hkey => exact nomatch h.symm.trans hkey
  · rfl

/-- A row the unique index does not cover can always be added. -/
def add_plain (delivery : NotificationDelivery) (hid : delivery.id = t.next_id)
    (hkey : delivery.idempotency_key = none) : DeliveryTables :=
  t.add_delivery delivery hid fun _ _ _ _ hnew =>
    nomatch (unique_key_of_no_key hkey).symm.trans hnew

section Plain
variable (events : List AddressEvent) (tenant_id event_id : Uuid)

def create_notification_delivery (rule_id channel_id : Option Uuid) (status : DeliveryStatus)
    (attempt_count : Int) (last_error : Option String) (sent_at : Option Timestamp) :
    AppResult Unit × DeliveryTables :=
  if has_event events tenant_id event_id && rule_id.all (t.settings.has_rule tenant_id) &&
      channel_id.all (t.settings.has_channel tenant_id) then
    (.ok (), t.add_plain (t.plain_delivery tenant_id event_id rule_id channel_id none status
      attempt_count last_error sent_at) rfl rfl)
  else (.error (.NotFound "notification delivery target"), t)

/-- `CREATE_IN_APP_NOTIFICATION_QUERY`. -/
def create_in_app_notification (delivery_id : Uuid) (title body : String) :
    AppResult InAppNotification × DeliveryTables :=
  if has_event events tenant_id event_id && t.notification_deliveries.any (fun delivery =>
      delivery.id == delivery_id && delivery.tenant_id == tenant_id &&
        delivery.event_id == event_id) then
    let notification : InAppNotification :=
      { id := t.next_id
        tenant_id := tenant_id
        event_id := event_id
        delivery_id := some delivery_id
        title := title
        body := body }
    (.ok notification, { t with
      in_app_notifications := t.in_app_notifications ++ [notification]
      next_id := t.next_id + 1
      below := ⟨fun channel hchannel => Nat.lt_succ_of_lt (t.below.1 channel hchannel),
        fun rule hrule id hid => Nat.lt_succ_of_lt (t.below.2 rule hrule id hid)⟩
      delivery_lt := fun delivery h => Nat.lt_succ_of_lt (t.delivery_lt delivery h) })
  else (.error (.NotFound "in-app notification target"), t)

/-- One transaction: the delivery and its notification. -/
def create_sent_in_app_delivery (rule_id channel_id : Uuid) (attempt_count : Int)
    (sent_at : Timestamp) (title body : String) : AppResult Unit × DeliveryTables :=
  if has_event events tenant_id event_id && t.settings.has_rule tenant_id rule_id &&
      t.settings.has_channel_of_type tenant_id channel_id "in_app" then
    let delivered := t.add_plain (t.plain_delivery tenant_id event_id (some rule_id)
      (some channel_id) (some "in_app") .sent attempt_count none (some sent_at)) rfl rfl
    match delivered.create_in_app_notification events tenant_id event_id t.next_id title body with
    | (.ok _, created) => (.ok (), created)
    | (.error error, _) => (.error error, t)
  else (.error (.NotFound "notification delivery target"), t)

end Plain

/-- The channel the tenant gets if it has no active in-app channel. -/
def new_in_app_channel (tenant_id : Uuid) : NotificationChannel :=
  { id := t.next_id
    tenant_id := tenant_id
    channel_type := "in_app"
    name := DEFAULT_IN_APP_CHANNEL_NAME
    config := .obj []
    status := "active"
    created_at := t.next_id }

def insert_default_in_app_channel (tenant_id : Uuid) :
    Option NotificationChannel × DeliveryTables :=
  match t.settings.default_in_app_channel tenant_id with
  | some _ => (none, t)
  | none =>
    (some (t.new_in_app_channel tenant_id), { t with
      settings := { t.settings with
        notification_channels :=
          t.settings.notification_channels ++ [t.new_in_app_channel tenant_id]
        unique_channel_id := by
          rw [List.map_append, List.nodup_append]
          refine ⟨t.settings.unique_channel_id, List.nodup_singleton _, ?_⟩
          intro a ha b hb hab
          obtain ⟨channel, hchannel, rfl⟩ := List.mem_map.mp ha
          have hlt := t.below.1 channel hchannel
          have hb' : b = t.next_id := by simpa [new_in_app_channel] using hb
          exact absurd (hab.trans hb') (Nat.ne_of_lt hlt) }
      next_id := t.next_id + 1
      below := by
        refine ⟨?_, fun rule hrule id hid => Nat.lt_succ_of_lt (t.below.2 rule hrule id hid)⟩
        intro channel hchannel
        rcases List.mem_append.mp hchannel with hchannel | hchannel
        · exact Nat.lt_succ_of_lt (t.below.1 channel hchannel)
        · rw [List.mem_singleton.mp hchannel]
          exact Nat.lt_succ_self _
      delivery_lt := fun delivery h => Nat.lt_succ_of_lt (t.delivery_lt delivery h) })

/-- A delivery whose rule or channel is gone loses it. -/
def detached (settings : NotifySettings) (delivery : NotificationDelivery) :
    NotificationDelivery :=
  { delivery with
    rule_id := delivery.rule_id.filter fun id => settings.notification_rules.any (·.id == id)
    channel_id := delivery.channel_id.filter fun id =>
      settings.notification_channels.any (·.id == id) }

theorem detached_unique_key {settings : NotifySettings} {delivery : NotificationDelivery}
    {key : DeliveryKey} (h : (detached settings delivery).unique_key = some key) :
    delivery.unique_key = some key := by
  unfold NotificationDelivery.unique_key at h ⊢
  split at h
  · next rule_id channel_id idempotency_key hrule hchannel hkey =>
    have hsame : delivery.idempotency_key = some idempotency_key := hkey
    rw [(Option.filter_eq_some_iff.mp hrule).1, (Option.filter_eq_some_iff.mp hchannel).1, hsame]
    exact h
  · exact nomatch h

/-- The tenants change their rules, channels and bots. -/
def configure (settings : NotifySettings) (next_id : Uuid) (hnext : t.next_id ≤ next_id)
    (hbelow : settings.Below next_id) : DeliveryTables :=
  { t.update_deliveries (fun _ => true) (detached settings) (fun _ => rfl)
      fun _ _ => detached_unique_key with
    settings := settings
    next_id := next_id
    below := hbelow
    delivery_lt := fun delivery h => Nat.lt_of_lt_of_le
      ((t.update_deliveries (fun _ => true) (detached settings) (fun _ => rfl)
        fun _ _ => detached_unique_key).delivery_lt delivery h) hnext }

/-! ### What a statement does to the rows -/

@[simp] theorem update_deliveries_rows {p : NotificationDelivery → Bool}
    {f : NotificationDelivery → NotificationDelivery} {hid : ∀ delivery, (f delivery).id = delivery.id}
    {hkey : ∀ delivery key, (f delivery).unique_key = some key → delivery.unique_key = some key} :
    (t.update_deliveries p f hid hkey).notification_deliveries =
      Table.update p f t.notification_deliveries :=
  rfl

/-- Two rows of one identifier are one row. -/
theorem same_delivery {a b : NotificationDelivery} (ha : a ∈ t.notification_deliveries)
    (hb : b ∈ t.notification_deliveries) (h : a.id = b.id) : a = b :=
  List.inj_on_of_nodup_map t.unique_delivery_id ha hb h

section Effect
variable {t} {events : List AddressEvent} {target : ExternalTarget} {attempt_count : Int}

/-- A begin that is refused changes nothing, any other does what it answers. -/
theorem begin_cases :
    (∃ message, t.begin_external_notification_delivery events target attempt_count =
      (.error (.NotFound message), t)) ∨
    ∃ start, (t.begin_external_notification_delivery events target attempt_count).1 = .ok start ∧
      BeginEffect target attempt_count t.notification_deliveries start
        (t.begin_external_notification_delivery events target
          attempt_count).2.notification_deliveries := by
  unfold begin_external_notification_delivery
  by_cases hinsert : t.settings.has_target events target = true ∧ t.conflicts target.key = false
  · right
    simp only [insert_external_notification_delivery, dif_pos hinsert]
    refine ⟨_, rfl, .inserted (fun row hrow => ?_) fun row hrow hkey => ?_⟩
    · exact Nat.ne_of_lt (t.delivery_lt row hrow)
    · exact List.any_eq_false.mp hinsert.2 row hrow (beq_iff_eq.mpr hkey)
  · simp only [insert_external_notification_delivery, dif_neg hinsert]
    cases hselect : t.select_external_notification_delivery target with
    | none => exact .inl ⟨_, rfl⟩
    | some delivery =>
      have hmem := List.mem_of_find?_eq_some hselect
      have hsel := List.find?_some hselect
      dsimp only
      by_cases hdone : delivery.Final ∨ attempt_count ≤ delivery.attempt_count
      · rw [start_complete hdone]
        exact .inr ⟨_, rfl, .complete hmem hsel hdone⟩
      · rw [start_ready hdone]
        rw [not_or, Int.not_le] at hdone
        obtain ⟨hfinal, holder⟩ := hdone
        have htenant : delivery.tenant_id = target.tenant_id := by
          rw [ExternalTarget.selects, Bool.and_eq_true] at hsel
          exact beq_iff_eq.mp hsel.1
        have hany : t.notification_deliveries.any (fun row => row.id == delivery.id &&
            row.tenant_id == target.tenant_id && decide (row.attempt_count < attempt_count)) =
            true := List.any_eq_true.mpr ⟨delivery, hmem, by simp [htenant, holder]⟩
        simp only [update_external_notification_delivery_processing, if_pos hany]
        refine .inr ⟨_, rfl, ?_⟩
        have hrows : Table.update (fun row => row.id == delivery.id &&
            row.tenant_id == target.tenant_id && decide (row.attempt_count < attempt_count))
            (·.restarted attempt_count) t.notification_deliveries =
          Table.update (·.id == delivery.id) (·.restarted attempt_count)
            t.notification_deliveries := by
          refine List.map_congr_left fun row hrow => ?_
          by_cases hid : row.id = delivery.id
          · rw [t.same_delivery hrow hmem hid]
            simp [Table.revise, htenant, holder]
          · simp [Table.revise, hid]
        have heffect := BeginEffect.restarted hmem hsel hfinal holder
        rw [← hrows] at heffect
        exact heffect

end Effect

end DeliveryTables

end Storage

end CoinListener
