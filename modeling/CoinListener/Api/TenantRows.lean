import CoinListener.Api.NotificationSettings

/-! What of the notification settings is a tenant's, and what a statement does to it and to what is
the others'. -/
namespace CoinListener.Api
open Foundation Storage Notifier

/-! ### What is a tenant's -/

section Own
variable {Row : Type} {place : Row → Uuid × Uuid} {d id : Uuid} {row : Row}

theorem is_own_iff : is_own place d id row = true ↔ (place row).1 = id ∧ (place row).2 = d := by
  simp [is_own]

theorem is_own_tenant (h : is_own place d id row = true) : (place row).2 = d :=
  (is_own_iff.mp h).2

end Own

/-- A tenant, an address and channels. -/
structure TenantReferences where
  tenant_id : Uuid
  address_id : Option Uuid
  channel_ids : List Uuid

def NotificationRuleRow.references (rule : NotificationRuleRow) : TenantReferences :=
  ⟨rule.tenant_id, rule.address_id, rule.channel_ids⟩

def NotifiedEvent.references (event : NotifiedEvent) : TenantReferences :=
  ⟨event.tenant_id, some event.address_id, []⟩

namespace SettingsTables
variable (t : SettingsTables) (d id : Uuid)

/-- The rows of a tenant, and what all tenants share. -/
def of_tenant : SettingsTables where
  chains := t.chains
  assets := t.assets
  watched_addresses := Table.part (·.tenant_id) d t.watched_addresses
  address_events := Table.part (·.tenant_id) d t.address_events
  notification_channels := Table.part (·.tenant_id) d t.notification_channels
  notification_rules := Table.part (·.tenant_id) d t.notification_rules
  in_app_notifications := Table.part (·.tenant_id) d t.in_app_notifications
  drawn := []

def OwnsAddress : Prop :=
  Table.Owned RuleAddress.place t.drawn d id t.watched_addresses

def OwnsChannel : Prop :=
  Table.Owned NotificationChannelRow.place t.drawn d id t.notification_channels

def OwnsEvent : Prop :=
  Table.Owned NotifiedEvent.place t.drawn d id t.address_events

/-- Whatever the references are to is the tenant's, as long as it exists. -/
def Owns (references : TenantReferences) : Prop :=
  (∀ id ∈ references.address_id, t.OwnsAddress references.tenant_id id) ∧
    ∀ id ∈ references.channel_ids, t.OwnsChannel references.tenant_id id

/-- The address exists, unless there is none. -/
def HasAddress (references : TenantReferences) : Prop :=
  ∀ id ∈ references.address_id, ∃ row ∈ t.watched_addresses, row.id = id

/-- Identifiers are drawn once, rules and events refer to what is their tenant's, and so do
notifications. -/
structure Sound : Prop where
  known_address : ∀ row ∈ t.watched_addresses, row.id ∈ t.drawn
  known_channel : ∀ row ∈ t.notification_channels, row.id ∈ t.drawn
  known_event : ∀ event ∈ t.address_events, event.id ∈ t.drawn
  one_address : (t.watched_addresses.map fun row => row.place.1).Nodup
  one_channel : (t.notification_channels.map fun row => row.place.1).Nodup
  one_event : (t.address_events.map fun event => event.place.1).Nodup
  rule : ∀ rule ∈ t.notification_rules, t.Owns rule.references ∧ t.HasAddress rule.references
  event : ∀ event ∈ t.address_events, t.Owns event.references ∧ t.HasAddress event.references
  notified : ∀ notification ∈ t.in_app_notifications,
    t.OwnsEvent notification.tenant_id notification.event_id ∧
      ∃ event ∈ t.address_events, event.id = notification.event_id

end SettingsTables

/-- No tenant has set up anything. -/
def settings_start (chains : List Chain) (assets : List Asset) : SettingsTables where
  chains := chains
  assets := assets
  watched_addresses := []
  address_events := []
  notification_channels := []
  notification_rules := []
  in_app_notifications := []
  drawn := []

namespace SettingsQuery

/-- Whose rows the statement is about, unless it is about what all tenants share. -/
def tenant : SettingsQuery → Option Uuid
  | .list_notification_channels tenant_id => some tenant_id
  | .insert_notification_channel tenant_id .. => some tenant_id
  | .update_notification_channel tenant_id .. => some tenant_id
  | .delete_notification_channel tenant_id _ => some tenant_id
  | .count_notification_channels tenant_id _ => some tenant_id
  | .first_in_app_channel tenant_id => some tenant_id
  | .insert_default_in_app_channel tenant_id => some tenant_id
  | .default_in_app_channel tenant_id => some tenant_id
  | .list_notification_rules tenant_id => some tenant_id
  | .chain_exists _ => none
  | .address_chain tenant_id _ => some tenant_id
  | .asset_chain _ => none
  | .insert_notification_rule tenant_id _ => some tenant_id
  | .update_notification_rule tenant_id .. => some tenant_id
  | .delete_notification_rule tenant_id _ => some tenant_id
  | .delete_watched_address tenant_id _ => some tenant_id
  | .insert_watched_address tenant_id _ => some tenant_id
  | .list_in_app_notifications tenant_id _ => some tenant_id
  | .mark_in_app_notification_read tenant_id _ => some tenant_id
  | .insert_event tenant_id _ => some tenant_id
  | .create_in_app_notification tenant_id .. => some tenant_id

/-- What the rule or event it writes refers to. -/
def references (d : Uuid) : SettingsQuery → TenantReferences
  | .insert_notification_rule _ values => ⟨d, values.address_id, values.channel_ids⟩
  | .update_notification_rule _ _ values => ⟨d, values.address_id, values.channel_ids⟩
  | .insert_event _ address_id => ⟨d, some address_id, []⟩
  | _ => ⟨d, none, []⟩

def Of (d : Uuid) (q : SettingsQuery) : Prop :=
  ∀ tenant_id ∈ q.tenant, tenant_id = d

/-- A statement about a tenant's own rows, which refers to nothing that is another's. -/
def Allowed (d : Uuid) (t : SettingsTables) (q : SettingsQuery) : Prop :=
  q.Of d ∧ t.Owns (q.references d)

end SettingsQuery

/-! ### What a statement changes -/

/-- What a statement about the rows of `d` may do, with these references in what it writes. -/
inductive SettingsChange (draw : Draw) (d : Uuid) (references : TenantReferences)
    (t : SettingsTables) : SettingsTables → Prop where
  | same : SettingsChange draw d references t t
  | add_channel (channel : NotificationChannelRow) (h : channel.place = (draw.id, d)) :
      SettingsChange draw d references t (t.add_channel channel)
  | set_channel (id : Uuid) (channel_type name : String) (config : Json) (status : String) :
      SettingsChange draw d references t { t with
        notification_channels := Table.update (SettingsTables.is_channel d id)
          (·.set channel_type name config status draw.now) t.notification_channels }
  | delete_channel (id : Uuid) :
      SettingsChange draw d references t (t.delete_notification_channel d id).2
  | add_rule (values : RuleValues) (hfound : t.check_references values = .ok ())
      (h : references = ⟨d, values.address_id, values.channel_ids⟩) :
      SettingsChange draw d references t { t with
        notification_rules := t.notification_rules ++ [SettingsTables.new_rule draw d values] }
  | set_rule (id : Uuid) (values : RuleValues) (hfound : t.check_references values = .ok ())
      (h : references = ⟨d, values.address_id, values.channel_ids⟩) :
      SettingsChange draw d references t { t with
        notification_rules := Table.update (SettingsTables.is_rule d id) (·.set values draw.now)
          t.notification_rules }
  | delete_rule (id : Uuid) : SettingsChange draw d references t (t.delete_notification_rule d id).2
  | delete_address (id : Uuid) :
      SettingsChange draw d references t (t.delete_watched_address d id).2
  | add_address (chain_id : Uuid) :
      SettingsChange draw d references t (t.insert_watched_address draw d chain_id).2
  | mark_read (id : Uuid) :
      SettingsChange draw d references t (t.mark_in_app_notification_read draw d id).2
  | add_event (address_id : Uuid) (hfound : t.watched_addresses.any (·.id == address_id) = true)
      (h : references = ⟨d, some address_id, []⟩) :
      SettingsChange draw d references t { t with
        address_events := t.address_events ++ [⟨draw.id, d, address_id⟩] }
  | add_notification (notification : InAppNotificationRow) (hd : notification.tenant_id = d)
      (hfound : t.address_events.any (SettingsTables.is_event d notification.event_id) = true) :
      SettingsChange draw d references t { t with
        in_app_notifications := t.in_app_notifications ++ [notification] }

section Change
variable {draw : Draw} {d e : Uuid} {references : TenantReferences} {t u : SettingsTables}
  {q : SettingsQuery}

theorem effect_change (h : q.Of d) :
    SettingsChange draw d (q.references d) t (q.effect draw t).2 := by
  cases q with
  | insert_notification_channel tenant_id =>
    obtain rfl := h _ rfl
    simp only [SettingsQuery.effect, SettingsTables.insert_notification_channel]
    split
    · exact .same
    · exact .add_channel _ rfl
  | update_notification_channel tenant_id =>
    obtain rfl := h _ rfl
    simp only [SettingsQuery.effect, SettingsTables.update_notification_channel]
    split
    · exact .same
    · split
      · exact .same
      · exact .set_channel ..
  | delete_notification_channel tenant_id =>
    obtain rfl := h _ rfl
    exact .delete_channel _
  | insert_default_in_app_channel tenant_id =>
    obtain rfl := h _ rfl
    simp only [SettingsQuery.effect, SettingsTables.insert_default_in_app_channel]
    split
    · exact .same
    · exact .add_channel _ rfl
  | insert_notification_rule tenant_id =>
    obtain rfl := h _ rfl
    simp only [SettingsQuery.effect, SettingsTables.insert_notification_rule]
    split
    · exact .same
    · rename_i hfound
      exact .add_rule _ hfound rfl
  | update_notification_rule tenant_id =>
    obtain rfl := h _ rfl
    simp only [SettingsQuery.effect, SettingsTables.update_notification_rule]
    split
    · exact .same
    · split
      · exact .same
      · rename_i hfound
        exact .set_rule _ _ hfound rfl
  | delete_notification_rule tenant_id =>
    obtain rfl := h _ rfl
    exact .delete_rule _
  | delete_watched_address tenant_id =>
    obtain rfl := h _ rfl
    exact .delete_address _
  | insert_watched_address tenant_id =>
    obtain rfl := h _ rfl
    exact .add_address _
  | mark_in_app_notification_read tenant_id =>
    obtain rfl := h _ rfl
    exact .mark_read _
  | insert_event tenant_id =>
    obtain rfl := h _ rfl
    simp only [SettingsQuery.effect, SettingsTables.insert_event]
    split
    · rename_i hfound
      exact .add_event _ hfound rfl
    · exact .same
  | create_in_app_notification tenant_id =>
    obtain rfl := h _ rfl
    simp only [SettingsQuery.effect, SettingsTables.create_in_app_notification]
    split
    · rename_i hfound
      exact .add_notification _ rfl hfound
    · exact .same
  | _ => exact .same

/-- Rows keep their identifiers and tenants, and a new one has the identifier drawn for it. -/
structure SamePlaces (draw : Draw) (d : Uuid) (t u : SettingsTables) : Prop where
  addresses : Table.Descends RuleAddress.place draw.id d t.watched_addresses u.watched_addresses
  channels : Table.Descends NotificationChannelRow.place draw.id d t.notification_channels
    u.notification_channels
  events : Table.Descends NotifiedEvent.place draw.id d t.address_events u.address_events

theorem change_places (h : SettingsChange draw d references t u) : SamePlaces draw d t u := by
  cases h with
  | add_channel channel hplace => exact ⟨.refl _, .append hplace, .refl _⟩
  | set_channel => exact ⟨.refl _, .update fun _ => rfl, .refl _⟩
  | delete_channel => exact ⟨.refl _, .filter, .refl _⟩
  | delete_address => exact ⟨.filter, .refl _, .filter⟩
  | add_address => exact ⟨.append rfl, .refl _, .refl _⟩
  | add_event => exact ⟨.refl _, .refl _, .append rfl⟩
  | _ => exact ⟨.refl _, .refl _, .refl _⟩

theorem found_address {values : RuleValues} (h : t.check_references values = .ok ()) :
    t.HasAddress ⟨d, values.address_id, values.channel_ids⟩ := by
  intro id hid
  obtain ⟨_, _, h⟩ := bind_ok h
  obtain ⟨_, hfound, _⟩ := bind_ok h
  have hany := ensure_ok.mp hfound
  have haddress : values.address_id = some id := hid
  rw [haddress] at hany
  obtain ⟨row, hrow, hrow_id⟩ := List.any_eq_true.mp hany
  exact ⟨row, hrow, beq_iff_eq.mp hrow_id⟩

/-- The address of what is kept goes on existing. -/
def AddressKept (t u : SettingsTables) (references : TenantReferences) : Prop :=
  t.HasAddress references → u.HasAddress references

/-- What is kept when an address is deleted does not refer to it. -/
theorem kept_address {id : Uuid} {kept : TenantReferences}
    (h : ((t.watched_addresses.filter (SettingsTables.is_address d id)).isEmpty ||
      kept.address_id != some id) = true) :
    AddressKept t (t.delete_watched_address d id).2 kept := by
  intro hexists other hother
  obtain ⟨row, hrow, rfl⟩ := hexists other hother
  refine ⟨row, List.mem_filter.mpr ⟨hrow, ?_⟩, rfl⟩
  cases hhit : SettingsTables.is_address d id row with
  | false => rfl
  | true =>
    have hmem := List.mem_filter.mpr ⟨hrow, hhit⟩
    have hid : row.id = id := (is_own_iff.mp hhit).1
    rw [Bool.or_eq_true, List.isEmpty_iff, bne_iff_ne, Option.mem_def.mp hother, hid] at h
    rcases h with hnone | hdiffers
    · rw [hnone] at hmem
      exact absurd hmem List.not_mem_nil
    · exact absurd rfl hdiffers

theorem address_kept_append {row : RuleAddress} (kept : TenantReferences) :
    AddressKept t { t with watched_addresses := t.watched_addresses ++ [row] } kept := by
  intro hexists id hid
  obtain ⟨found, hfound, hfound_id⟩ := hexists id hid
  exact ⟨found, List.mem_append_left _ hfound, hfound_id⟩

/-- A rule refers to what it did before, or has been written. -/
theorem change_rules (h : SettingsChange draw d references t u) {rule : NotificationRuleRow}
    (hrule : rule ∈ u.notification_rules) :
    (∃ old ∈ t.notification_rules, rule.references = old.references ∧
      AddressKept t u rule.references) ∨
    rule.references = references ∧ u.HasAddress references := by
  cases h with
  | add_rule values hfound hwritten =>
    rcases List.mem_append.mp hrule with hold | hnew
    · exact .inl ⟨rule, hold, rfl, fun h => h⟩
    · obtain rfl := List.mem_singleton.mp hnew
      exact .inr ⟨hwritten.symm, hwritten ▸ found_address hfound⟩
  | set_rule id values hfound hwritten =>
    obtain ⟨old, hold, rfl⟩ := Table.mem_update.mp hrule
    cases hhit : SettingsTables.is_rule d id old with
    | true =>
      rw [Table.revise_of_true hhit]
      refine .inr ⟨?_, hwritten ▸ found_address hfound⟩
      have hd : old.tenant_id = d := is_own_tenant hhit
      rw [hwritten, ← hd]
      rfl
    | false =>
      rw [Table.revise_of_false hhit]
      exact .inl ⟨old, hold, rfl, fun h => h⟩
  | delete_rule => exact .inl ⟨rule, List.mem_of_mem_filter hrule, rfl, fun h => h⟩
  | delete_address =>
    obtain ⟨hold, hkept⟩ := List.mem_filter.mp hrule
    exact .inl ⟨rule, hold, rfl, kept_address hkept⟩
  | add_address => exact .inl ⟨rule, hrule, rfl, address_kept_append _⟩
  | _ => exact .inl ⟨rule, hrule, rfl, fun h => h⟩

/-- An event is one of before, or has been written. -/
theorem change_events (h : SettingsChange draw d references t u) {event : NotifiedEvent}
    (hevent : event ∈ u.address_events) :
    event ∈ t.address_events ∧ AddressKept t u event.references ∨
      event.references = references ∧ u.HasAddress references := by
  cases h with
  | add_event address_id hfound hwritten =>
    rcases List.mem_append.mp hevent with hold | hnew
    · exact .inl ⟨hold, fun h => h⟩
    · obtain rfl := List.mem_singleton.mp hnew
      obtain ⟨row, hrow, hrow_id⟩ := List.any_eq_true.mp hfound
      refine .inr ⟨hwritten.symm, hwritten ▸ fun id hid => ⟨row, hrow, ?_⟩⟩
      exact (beq_iff_eq.mp hrow_id).trans (Option.mem_some.mp hid)
  | delete_address id =>
    obtain ⟨hold, hkept⟩ := List.mem_filter.mp hevent
    refine .inl ⟨hold, kept_address ?_⟩
    simpa [NotifiedEvent.references, bne_iff_ne] using hkept
  | add_address => exact .inl ⟨hevent, address_kept_append _⟩
  | _ => exact .inl ⟨hevent, fun h => h⟩

/-- A notification is for the event it was for, which still exists, or is new and for an event of the
tenant. -/
theorem change_notifications (h : SettingsChange draw d references t u)
    {notification : InAppNotificationRow} (hnotification : notification ∈ u.in_app_notifications) :
    (∃ old ∈ t.in_app_notifications, notification.tenant_id = old.tenant_id ∧
      notification.event_id = old.event_id ∧ ∀ event ∈ t.address_events,
        event.id = old.event_id → event ∈ u.address_events) ∨
    notification.tenant_id = d ∧ u.address_events = t.address_events ∧
      ∃ event ∈ t.address_events, event.place = (notification.event_id, d) := by
  cases h with
  | add_event =>
    exact .inl ⟨notification, hnotification, rfl, rfl, fun _ hmem _ => List.mem_append_left _ hmem⟩
  | add_notification new hd hfound =>
    rcases List.mem_append.mp hnotification with hold | hnew
    · exact .inl ⟨notification, hold, rfl, rfl, fun _ hmem _ => hmem⟩
    · obtain rfl := List.mem_singleton.mp hnew
      obtain ⟨event, hevent, hhit⟩ := List.any_eq_true.mp hfound
      obtain ⟨hid, htenant⟩ := is_own_iff.mp hhit
      exact .inr ⟨hd, rfl, event, hevent, Prod.ext hid htenant⟩
  | mark_read id =>
    obtain ⟨old, hold, rfl⟩ := Table.mem_update.mp hnotification
    refine .inl ⟨old, hold, ?_⟩
    cases hhit : SettingsTables.is_notification d id old with
    | true =>
      rw [Table.revise_of_true hhit]
      exact ⟨rfl, rfl, fun _ hmem _ => hmem⟩
    | false =>
      rw [Table.revise_of_false hhit]
      exact ⟨rfl, rfl, fun _ hmem _ => hmem⟩
  | delete_address id =>
    obtain ⟨hold, hkept⟩ := List.mem_filter.mp hnotification
    refine .inl ⟨notification, hold, rfl, rfl, fun event hmem hid =>
      List.mem_filter.mpr ⟨hmem, ?_⟩⟩
    -- an event of the address would have taken the notification with it
    rw [Bool.or_eq_true] at hkept ⊢
    refine hkept.imp_right fun hother => ?_
    rw [bne_iff_ne]
    rintro rfl
    rw [Bool.not_eq_true', SettingsTables.event_at, List.any_eq_false] at hother
    exact hother event hmem (by simp [hid])
  | _ => exact .inl ⟨notification, hnotification, rfl, rfl, fun _ hmem _ => hmem⟩

/-- What belongs to a tenant goes on doing so, whatever is drawn. -/
theorem owns_run (hfresh : draw.id ∉ t.drawn) (hq : q.Of e) (h : t.Owns references) :
    (q.run draw t).2.Owns references := by
  have hchange : SettingsChange draw e (q.references e) t (q.effect draw t).2 := effect_change hq
  have hplaces := change_places hchange
  exact ⟨fun id hid => hplaces.addresses.owned hfresh (h.1 id hid),
    fun id hid => hplaces.channels.owned hfresh (h.2 id hid)⟩

theorem SettingsTables.Sound.run (h : t.Sound) (hq : q.Allowed d t) (hfresh : draw.id ∉ t.drawn) :
    (q.run draw t).2.Sound := by
  have hchange : SettingsChange draw d (q.references d) t (q.effect draw t).2 := effect_change hq.1
  have hplaces := change_places hchange
  constructor
  · exact hplaces.addresses.drawn h.known_address
  · exact hplaces.channels.drawn h.known_channel
  · exact hplaces.events.drawn h.known_event
  · refine hplaces.addresses.nodup h.one_address fun row hrow hid => hfresh ?_
    exact hid ▸ h.known_address row hrow
  · refine hplaces.channels.nodup h.one_channel fun row hrow hid => hfresh ?_
    exact hid ▸ h.known_channel row hrow
  · refine hplaces.events.nodup h.one_event fun event hevent hid => hfresh ?_
    exact hid ▸ h.known_event event hevent
  · intro rule hrule
    rcases change_rules hchange hrule with ⟨old, hold, hsame, hkept⟩ | ⟨hwritten, hfound⟩
    · rw [hsame] at hkept ⊢
      exact ⟨owns_run hfresh hq.1 (h.rule old hold).1, hkept (h.rule old hold).2⟩
    · rw [hwritten]
      exact ⟨owns_run hfresh hq.1 hq.2, hfound⟩
  · intro event hevent
    rcases change_events hchange hevent with ⟨hold, hkept⟩ | ⟨hwritten, hfound⟩
    · exact ⟨owns_run hfresh hq.1 (h.event event hold).1, hkept (h.event event hold).2⟩
    · rw [hwritten]
      exact ⟨owns_run hfresh hq.1 hq.2, hfound⟩
  · intro notification hnotification
    rcases change_notifications hchange hnotification with
      ⟨old, hold, htenant, hsame, hkept⟩ | ⟨htenant, hevents, event, hevent, hplace⟩
    · obtain ⟨howned, event, hevent, hid⟩ := h.notified old hold
      rw [htenant, hsame]
      exact ⟨hplaces.events.owned hfresh howned, event, hkept event hevent hid, hid⟩
    · have howned := Table.Owned.of_nodup h.one_event hevent (h.known_event event hevent)
      rw [hplace] at howned
      rw [htenant]
      exact ⟨hplaces.events.owned hfresh howned, event, hevents.symm ▸ hevent,
        congrArg Prod.fst hplace⟩

end Change

/-! ### What a tenant sees -/

section View
variable {draw : Draw} {d e : Uuid} {references : TenantReferences} {t u : SettingsTables}
  {q : SettingsQuery}

theorem default_in_app_tenant {row : NotificationChannelRow}
    (h : default_in_app d row = true) : row.tenant_id = d := by
  simp only [default_in_app, NotifySettings.active_in_app, Bool.and_eq_true, beq_iff_eq] at h
  exact h.1.1.1

theorem of_tenant_congr (hchains : u.chains = t.chains) (hassets : u.assets = t.assets)
    (haddresses : Table.part (·.tenant_id) d u.watched_addresses =
      Table.part (·.tenant_id) d t.watched_addresses)
    (hevents : Table.part (·.tenant_id) d u.address_events =
      Table.part (·.tenant_id) d t.address_events)
    (hchannels : Table.part (·.tenant_id) d u.notification_channels =
      Table.part (·.tenant_id) d t.notification_channels)
    (hrules : Table.part (·.tenant_id) d u.notification_rules =
      Table.part (·.tenant_id) d t.notification_rules)
    (hnotifications : Table.part (·.tenant_id) d u.in_app_notifications =
      Table.part (·.tenant_id) d t.in_app_notifications) : u.of_tenant d = t.of_tenant d := by
  simp only [SettingsTables.of_tenant, hchains, hassets, haddresses, hevents, hchannels, hrules,
    hnotifications]

/-- An address of another tenant is none that this one refers to. -/
theorem not_referred {id : Uuid} {references : TenantReferences} (he : e ≠ d)
    (howns : t.Owns references) (hd : references.tenant_id = d)
    (hid : references.address_id = some id) :
    (t.watched_addresses.filter (SettingsTables.is_address e id)).isEmpty = true := by
  rw [List.isEmpty_iff, List.filter_eq_nil_iff]
  intro row hrow hhit
  have howned := (howns.1 id hid).2 row hrow
  obtain ⟨hfound, htenant⟩ := is_own_iff.mp hhit
  exact he (htenant.symm.trans ((howned hfound).trans hd))

/-- What others do is not seen. -/
theorem change_unseen (h : SettingsChange draw e references t u) (he : e ≠ d) (ht : t.Sound) :
    u.of_tenant d = t.of_tenant d := by
  cases h with
  | same => rfl
  | add_channel channel hplace =>
    refine of_tenant_congr rfl rfl rfl rfl (Table.part_append_other fun hd => he ?_) rfl rfl
    exact (congrArg Prod.snd hplace).symm.trans hd
  | set_channel =>
    refine of_tenant_congr rfl rfl rfl rfl (Table.part_update_other (fun _ => rfl) ?_) rfl rfl
    exact fun _ hhit hd => he ((is_own_tenant hhit).symm.trans hd)
  | delete_channel =>
    refine of_tenant_congr rfl rfl rfl rfl (Table.part_remove_other ?_) rfl rfl
    exact fun _ hhit hd => he ((is_own_tenant hhit).symm.trans hd)
  | add_rule => exact of_tenant_congr rfl rfl rfl rfl rfl (Table.part_append_other he) rfl
  | set_rule =>
    refine of_tenant_congr rfl rfl rfl rfl rfl (Table.part_update_other (fun _ => rfl) ?_) rfl
    exact fun _ hhit hd => he ((is_own_tenant hhit).symm.trans hd)
  | delete_rule =>
    refine of_tenant_congr rfl rfl rfl rfl rfl (Table.part_remove_other ?_) rfl
    exact fun _ hhit hd => he ((is_own_tenant hhit).symm.trans hd)
  | delete_address id =>
    refine of_tenant_congr rfl rfl (Table.part_remove_other ?_) (Table.part_filter_other ?_) rfl
      (Table.part_filter_other ?_) (Table.part_filter_other ?_)
    · exact fun _ hhit hd => he ((is_own_tenant hhit).symm.trans hd)
    · intro event hevent hd
      rw [Bool.or_eq_true, bne_iff_ne]
      by_cases hid : event.address_id = id
      · exact .inl (not_referred he (ht.event event hevent).1 hd (congrArg some hid))
      · exact .inr hid
    · intro rule hrule hd
      rw [Bool.or_eq_true, bne_iff_ne]
      by_cases hid : rule.address_id = some id
      · exact .inl (not_referred he (ht.rule rule hrule).1 hd hid)
      · exact .inr hid
    · intro notification hmem hd
      rw [Bool.or_eq_true, Bool.not_eq_true']
      cases hat : t.event_at id notification.event_id with
      | false => exact .inr rfl
      | true =>
        -- the event is the tenant's, and so is its address
        obtain ⟨event, hevent, hhit⟩ := List.any_eq_true.mp hat
        simp only [Bool.and_eq_true, beq_iff_eq] at hhit
        have htenant := (ht.notified notification hmem).1.2 event hevent hhit.1
        exact .inl (not_referred he (ht.event event hevent).1 (htenant.trans hd)
          (congrArg some hhit.2))
  | add_address => exact of_tenant_congr rfl rfl (Table.part_append_other he) rfl rfl rfl rfl
  | add_event => exact of_tenant_congr rfl rfl rfl (Table.part_append_other he) rfl rfl rfl
  | mark_read =>
    refine of_tenant_congr rfl rfl rfl rfl rfl rfl (Table.part_update_other (fun _ => rfl) ?_)
    exact fun _ hhit hd => he ((is_own_tenant hhit).symm.trans hd)
  | add_notification notification htenant =>
    refine of_tenant_congr rfl rfl rfl rfl rfl rfl (Table.part_append_other fun hd => he ?_)
    exact htenant.symm.trans hd

/-- The foreign keys of a rule that refers to nothing of another tenant. -/
theorem references_of_tenant {values : RuleValues}
    (h : ∀ id ∈ values.address_id, t.OwnsAddress d id) :
    (t.of_tenant d).check_references values = t.check_references values := by
  unfold SettingsTables.check_references
  have hany : (values.address_id.all fun address_id =>
      (t.of_tenant d).watched_addresses.any (·.id == address_id)) =
      values.address_id.all fun address_id => t.watched_addresses.any (·.id == address_id) := by
    cases hid : values.address_id with
    | none => rfl
    | some id =>
      refine Table.any_part fun row hrow hsame => ?_
      exact (h id hid).2 row hrow (beq_iff_eq.mp hsame)
  rw [hany]
  rfl

theorem channel_conflict_of_tenant (except : Uuid) :
    ((t.of_tenant d).notification_channels.any fun other =>
      other.id != except && default_in_app d other) =
      t.notification_channels.any fun other => other.id != except && default_in_app d other :=
  Table.any_part fun _ _ h => default_in_app_tenant (Bool.and_eq_true_iff.mp h).2

theorem default_conflict_of_tenant :
    (t.of_tenant d).notification_channels.any (default_in_app d) =
      t.notification_channels.any (default_in_app d) :=
  Table.any_part fun _ _ h => default_in_app_tenant h

theorem channel_of_tenant (id : Uuid) :
    (t.of_tenant d).notification_channels.find? (SettingsTables.is_channel d id) =
      t.notification_channels.find? (SettingsTables.is_channel d id) :=
  Table.find_part fun _ h => is_own_tenant h

theorem rule_of_tenant (id : Uuid) :
    (t.of_tenant d).notification_rules.find? (SettingsTables.is_rule d id) =
      t.notification_rules.find? (SettingsTables.is_rule d id) :=
  Table.find_part fun _ h => is_own_tenant h

theorem addresses_of_tenant (id : Uuid) :
    (t.of_tenant d).watched_addresses.filter (SettingsTables.is_address d id) =
      t.watched_addresses.filter (SettingsTables.is_address d id) :=
  Table.filter_part fun _ h => is_own_tenant h

/-- The notifications that are left when events of an address go. -/
theorem notifications_of_tenant (ht : t.Sound) (id : Uuid) (unknown : Bool) :
    ((t.of_tenant d).in_app_notifications.filter fun notification =>
      unknown || !(t.of_tenant d).event_at id notification.event_id) =
      Table.part (·.tenant_id) d (t.in_app_notifications.filter fun notification =>
        unknown || !t.event_at id notification.event_id) := by
  rw [Table.part_filter]
  refine List.filter_congr fun notification hmem => ?_
  obtain ⟨hmem, hd⟩ := Table.mem_part.mp hmem
  have hat : (t.of_tenant d).event_at id notification.event_id =
      t.event_at id notification.event_id := by
    refine Table.any_part fun event hevent hhit => ?_
    simp only [Bool.and_eq_true, beq_iff_eq] at hhit
    exact ((ht.notified notification hmem).1.2 event hevent hhit.1).trans hd
  rw [hat]

/-- A statement of a tenant does to the tenant's rows, and answers, what it would if there were no
others. -/
theorem effect_of_tenant (ht : t.Sound) (h : q.Allowed d t) :
    q.effect draw (t.of_tenant d) = ((q.effect draw t).1, (q.effect draw t).2.of_tenant d) := by
  cases q with
  | list_notification_channels tenant_id =>
    obtain rfl := h.1 _ rfl
    refine congrArg (fun rows => (Except.ok (List.insertionSort _ rows), t.of_tenant tenant_id)) ?_
    exact Table.filter_part fun _ hrow => beq_iff_eq.mp hrow
  | insert_notification_channel tenant_id =>
    obtain rfl := h.1 _ rfl
    simp only [SettingsQuery.effect, SettingsTables.insert_notification_channel,
      default_conflict_of_tenant]
    split
    · rfl
    · simp only [SettingsTables.add_channel, SettingsTables.of_tenant, SettingsTables.new_channel,
        Table.part_append]
  | update_notification_channel tenant_id id channel_type name config status =>
    obtain rfl := h.1 _ rfl
    simp only [SettingsQuery.effect, SettingsTables.update_notification_channel,
      channel_of_tenant]
    cases t.notification_channels.find? (SettingsTables.is_channel tenant_id id) with
    | none => rfl
    | some row =>
      simp only [channel_conflict_of_tenant]
      split
      · rfl
      · simp only [SettingsTables.of_tenant]
        rw [Table.part_update (f := fun row : NotificationChannelRow =>
          row.set channel_type name config status draw.now) fun _ => rfl]
  | delete_notification_channel tenant_id id =>
    obtain rfl := h.1 _ rfl
    have hdeleted : (t.of_tenant tenant_id).notification_channels.filter
        (SettingsTables.is_channel tenant_id id) = t.notification_channels.filter
          (SettingsTables.is_channel tenant_id id) :=
      Table.filter_part fun _ h => is_own_tenant h
    simp only [SettingsQuery.effect, SettingsTables.delete_notification_channel, hdeleted]
    simp only [SettingsTables.of_tenant, Table.part_filter]
  | count_notification_channels tenant_id =>
    obtain rfl := h.1 _ rfl
    refine congrArg (fun rows => (Except.ok (List.length rows), t.of_tenant tenant_id)) ?_
    exact Table.filter_part fun _ hrow => beq_iff_eq.mp (Bool.and_eq_true_iff.mp hrow).1
  | first_in_app_channel tenant_id =>
    obtain rfl := h.1 _ rfl
    have hrows : ((t.of_tenant tenant_id).notification_channels.filter fun row =>
        NotifySettings.active_in_app tenant_id row.toNotificationChannel) =
        t.notification_channels.filter fun row =>
          NotifySettings.active_in_app tenant_id row.toNotificationChannel := by
      refine Table.filter_part fun row hrow => ?_
      simp only [NotifySettings.active_in_app, Bool.and_eq_true, beq_iff_eq] at hrow
      exact hrow.1.1
    simp only [SettingsQuery.effect, SettingsTables.first_in_app_channel, hrows]
  | insert_default_in_app_channel tenant_id =>
    obtain rfl := h.1 _ rfl
    simp only [SettingsQuery.effect, SettingsTables.insert_default_in_app_channel,
      default_conflict_of_tenant]
    split
    · rfl
    · simp only [SettingsTables.add_channel, SettingsTables.of_tenant, SettingsTables.new_channel,
        Table.part_append]
  | default_in_app_channel tenant_id =>
    obtain rfl := h.1 _ rfl
    refine congrArg (fun row => (Except.ok row, t.of_tenant tenant_id)) ?_
    exact Table.find_part fun _ hrow => default_in_app_tenant hrow
  | list_notification_rules tenant_id =>
    obtain rfl := h.1 _ rfl
    refine congrArg (fun rows => (Except.ok (List.insertionSort _ rows), t.of_tenant tenant_id)) ?_
    exact Table.filter_part fun _ hrow => beq_iff_eq.mp hrow
  | chain_exists => rfl
  | address_chain tenant_id address_id =>
    obtain rfl := h.1 _ rfl
    refine congrArg (fun row => (Except.ok (Option.map _ row), t.of_tenant tenant_id)) ?_
    exact Table.find_part fun _ hrow => is_own_tenant hrow
  | asset_chain => rfl
  | insert_notification_rule tenant_id values =>
    obtain rfl := h.1 _ rfl
    have hreferences : (t.of_tenant tenant_id).check_references values =
        t.check_references values := references_of_tenant h.2.1
    simp only [SettingsQuery.effect, SettingsTables.insert_notification_rule, hreferences]
    cases t.check_references values with
    | error error => rfl
    | ok => simp only [SettingsTables.of_tenant, SettingsTables.new_rule, Table.part_append]
  | update_notification_rule tenant_id id values =>
    obtain rfl := h.1 _ rfl
    have hreferences : (t.of_tenant tenant_id).check_references values =
        t.check_references values := references_of_tenant h.2.1
    simp only [SettingsQuery.effect, SettingsTables.update_notification_rule, rule_of_tenant,
      hreferences]
    cases t.notification_rules.find? (SettingsTables.is_rule tenant_id id) with
    | none => rfl
    | some row =>
      cases t.check_references values with
      | error error => rfl
      | ok =>
        simp only [SettingsTables.of_tenant]
        rw [Table.part_update (f := fun row : NotificationRuleRow => row.set values draw.now)
          fun _ => rfl]
  | delete_notification_rule tenant_id id =>
    obtain rfl := h.1 _ rfl
    have hdeleted : (t.of_tenant tenant_id).notification_rules.filter
        (SettingsTables.is_rule tenant_id id) = t.notification_rules.filter
          (SettingsTables.is_rule tenant_id id) :=
      Table.filter_part fun _ h => is_own_tenant h
    simp only [SettingsQuery.effect, SettingsTables.delete_notification_rule, hdeleted]
    simp only [SettingsTables.of_tenant, Table.part_filter]
  | delete_watched_address tenant_id id =>
    obtain rfl := h.1 _ rfl
    simp only [SettingsQuery.effect, SettingsTables.delete_watched_address, addresses_of_tenant,
      notifications_of_tenant ht]
    simp only [SettingsTables.of_tenant, Table.part_filter]
  | insert_watched_address tenant_id chain_id =>
    obtain rfl := h.1 _ rfl
    simp only [SettingsQuery.effect, SettingsTables.insert_watched_address,
      SettingsTables.of_tenant, Table.part_append]
  | list_in_app_notifications tenant_id unread_only =>
    obtain rfl := h.1 _ rfl
    refine congrArg (fun rows => (Except.ok ((List.insertionSort _ rows).take 200),
      t.of_tenant tenant_id)) ?_
    exact Table.filter_part fun _ hrow => beq_iff_eq.mp (Bool.and_eq_true_iff.mp hrow).1
  | mark_in_app_notification_read tenant_id id =>
    obtain rfl := h.1 _ rfl
    have hfound : (t.of_tenant tenant_id).in_app_notifications.find?
        (SettingsTables.is_notification tenant_id id) = t.in_app_notifications.find?
          (SettingsTables.is_notification tenant_id id) :=
      Table.find_part fun _ h => is_own_tenant h
    simp only [SettingsQuery.effect, SettingsTables.mark_in_app_notification_read, hfound]
    simp only [SettingsTables.of_tenant]
    rw [Table.part_update (f := read draw.now) fun _ => rfl]
  | insert_event tenant_id address_id =>
    obtain rfl := h.1 _ rfl
    have hany : (t.of_tenant tenant_id).watched_addresses.any (·.id == address_id) =
        t.watched_addresses.any (·.id == address_id) :=
      Table.any_part fun row hrow hsame => (h.2.1 address_id rfl).2 row hrow (beq_iff_eq.mp hsame)
    simp only [SettingsQuery.effect, SettingsTables.insert_event, hany]
    split
    · simp only [SettingsTables.of_tenant, Table.part_append]
    · rfl
  | create_in_app_notification tenant_id event_id =>
    obtain rfl := h.1 _ rfl
    have hany : (t.of_tenant tenant_id).address_events.any
        (SettingsTables.is_event tenant_id event_id) =
        t.address_events.any (SettingsTables.is_event tenant_id event_id) :=
      Table.any_part fun _ _ hhit => is_own_tenant hhit
    simp only [SettingsQuery.effect, SettingsTables.create_in_app_notification, hany]
    split
    · simp only [SettingsTables.of_tenant, Table.part_append]
    · rfl

end View

end CoinListener.Api
