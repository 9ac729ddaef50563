import CoinListener.Notifier.Batch

/-! Which rules an event matches, which channels these resolve to, and what of this lasts as long as
nobody changes the settings. -/
namespace CoinListener.Notifier
open Foundation Storage Prog

def matching_rules (settings : NotifySettings) (event : AddressEvent) : List NotificationRule :=
  (settings.list_enabled_notification_rules event.tenant_id).filter
    (notification_rule_matches_event · event)

/-- What the channels of a rule resolve to when they are looked up at one moment. -/
def resolved_channels (settings : NotifySettings) (tenant_id : Uuid) (rule : NotificationRule) :
    List ResolvedNotifyChannel :=
  if rule.channel_ids.isEmpty then
    ((settings.first_in_app_channel tenant_id).map ResolvedNotifyChannel.Active).toList
  else
    resolve_explicit_rule_channels rule.channel_ids
      (settings.list_channels_by_ids tenant_id rule.channel_ids)
      (settings.list_active_channels_by_ids tenant_id rule.channel_ids)

/-! ### Default channels -/

/-- The tenant has no active in-app channel but the default one. -/
def DefaultOnly (settings : NotifySettings) (tenant_id : Uuid) : Prop :=
  ∀ channel ∈ settings.notification_channels,
    NotifySettings.active_in_app tenant_id channel = true →
      settings.default_in_app_channel tenant_id = some channel

section Default
variable {settings : NotifySettings} {tenant_id : Uuid} {channel : NotificationChannel}

theorem default_channel_mem (h : settings.default_in_app_channel tenant_id = some channel) :
    channel ∈ settings.notification_channels ∧
      NotifySettings.active_in_app tenant_id channel = true := by
  refine ⟨List.mem_of_find?_eq_some h, ?_⟩
  have hfound := List.find?_some h
  rw [Bool.and_eq_true] at hfound
  exact hfound.1

theorem first_channel_mem (h : settings.first_in_app_channel tenant_id = some channel) :
    channel ∈ settings.notification_channels ∧
      NotifySettings.active_in_app tenant_id channel = true := by
  unfold NotifySettings.first_in_app_channel at h
  exact List.mem_filter.mp (List.argmin_mem h)

theorem first_channel_none (h : settings.first_in_app_channel tenant_id = none)
    (hmem : channel ∈ settings.notification_channels) :
    NotifySettings.active_in_app tenant_id channel = false := by
  unfold NotifySettings.first_in_app_channel at h
  rw [List.argmin_eq_none, List.filter_eq_nil_iff] at h
  exact Bool.not_eq_true _ ▸ h channel hmem

theorem DefaultOnly.of_none (h : settings.first_in_app_channel tenant_id = none) :
    DefaultOnly settings tenant_id := by
  intro channel hmem hactive
  exact nomatch (first_channel_none h hmem).symm.trans hactive

/-- Then the default channel is the first one. -/
theorem DefaultOnly.first (h : DefaultOnly settings tenant_id)
    (hdefault : settings.default_in_app_channel tenant_id = some channel) :
    settings.first_in_app_channel tenant_id = some channel := by
  cases hfirst : settings.first_in_app_channel tenant_id with
  | none =>
    obtain ⟨hmem, hactive⟩ := default_channel_mem hdefault
    exact nomatch (first_channel_none hfirst hmem).symm.trans hactive
  | some first =>
    obtain ⟨hmem, hactive⟩ := first_channel_mem hfirst
    rw [← h first hmem hactive, hdefault]

end Default

/-- An active channel is one of the tenant's. -/
theorem active_resolved_mem {settings : NotifySettings} {tenant_id : Uuid} {rule : NotificationRule}
    {channel : NotificationChannel}
    (h : .Active channel ∈ resolved_channels settings tenant_id rule) :
    channel ∈ settings.notification_channels ∧ channel.tenant_id = tenant_id := by
  unfold resolved_channels at h
  split at h
  · rw [Option.mem_toList, Option.map_eq_some_iff] at h
    obtain ⟨found, hfound, hsame⟩ := h
    obtain rfl := ResolvedNotifyChannel.Active.inj hsame
    obtain ⟨hmem, hactive⟩ := first_channel_mem hfound
    simp only [NotifySettings.active_in_app, Bool.and_eq_true, beq_iff_eq] at hactive
    exact ⟨hmem, hactive.1.1⟩
  · obtain ⟨channel_id, _, hsame⟩ := List.mem_map.mp h
    split at hsame
    · rename_i found hfound
      obtain rfl := ResolvedNotifyChannel.Active.inj hsame
      have hlisted := List.mem_of_find?_eq_some hfound
      rw [NotifySettings.list_active_channels_by_ids, List.mem_insertionSort, List.mem_filter]
        at hlisted
      simp only [Bool.and_eq_true, beq_iff_eq] at hlisted
      exact ⟨hlisted.1, hlisted.2.1.1⟩
    · split at hsame <;> exact nomatch hsame

/-! ### What lasts -/

/-- The same rules, and channels that resolve as before. -/
structure Extends (a b : NotifySettings) : Prop where
  rules : b.notification_rules = a.notification_rules
  channels : ∀ channel ∈ a.notification_channels, channel ∈ b.notification_channels
  listed : ∀ rule ∈ a.notification_rules, ∀ tenant_id,
    b.list_channels_by_ids tenant_id rule.channel_ids =
      a.list_channels_by_ids tenant_id rule.channel_ids
  active : ∀ rule ∈ a.notification_rules, ∀ tenant_id,
    b.list_active_channels_by_ids tenant_id rule.channel_ids =
      a.list_active_channels_by_ids tenant_id rule.channel_ids
  first : ∀ tenant_id channel, a.first_in_app_channel tenant_id = some channel →
    b.first_in_app_channel tenant_id = some channel
  found : ∀ tenant_id channel, a.default_in_app_channel tenant_id = some channel →
    b.default_in_app_channel tenant_id = some channel
  default_only : ∀ tenant_id, DefaultOnly a tenant_id → DefaultOnly b tenant_id

theorem Extends.refl (a : NotifySettings) : Extends a a :=
  ⟨rfl, fun _ h => h, fun _ _ _ => rfl, fun _ _ _ => rfl, fun _ _ h => h, fun _ _ h => h,
    fun _ h => h⟩

theorem Extends.trans {a b c : NotifySettings} (hab : Extends a b) (hbc : Extends b c) :
    Extends a c where
  rules := hbc.rules.trans hab.rules
  channels channel h := hbc.channels channel (hab.channels channel h)
  listed rule hrule tenant_id :=
    (hbc.listed rule (hab.rules ▸ hrule) tenant_id).trans (hab.listed rule hrule tenant_id)
  active rule hrule tenant_id :=
    (hbc.active rule (hab.rules ▸ hrule) tenant_id).trans (hab.active rule hrule tenant_id)
  first tenant_id channel h := hbc.first tenant_id channel (hab.first tenant_id channel h)
  found tenant_id channel h := hbc.found tenant_id channel (hab.found tenant_id channel h)
  default_only tenant_id h := hbc.default_only tenant_id (hab.default_only tenant_id h)

theorem Extends.matching {a b : NotifySettings} (h : Extends a b) (event : AddressEvent) :
    matching_rules b event = matching_rules a event := by
  unfold matching_rules NotifySettings.list_enabled_notification_rules
  rw [h.rules]

/-- Channels that resolve go on to resolve to the same. -/
theorem Extends.resolved {a b : NotifySettings} (h : Extends a b) {rule : NotificationRule}
    (hrule : rule ∈ a.notification_rules) {tenant_id : Uuid}
    (hsome : resolved_channels a tenant_id rule ≠ []) :
    resolved_channels b tenant_id rule = resolved_channels a tenant_id rule := by
  unfold resolved_channels at hsome ⊢
  split
  · rename_i hempty
    rw [if_pos hempty] at hsome
    cases hfirst : a.first_in_app_channel tenant_id with
    | none => exact absurd (by rw [hfirst]; rfl) hsome
    | some channel => rw [h.first tenant_id channel hfirst]
  · rw [h.listed rule hrule tenant_id, h.active rule hrule tenant_id]

theorem mem_matching {settings : NotifySettings} {event : AddressEvent} {rule : NotificationRule}
    (h : rule ∈ matching_rules settings event) : rule ∈ settings.notification_rules := by
  have hlisted := (List.mem_filter.mp h).1
  unfold NotifySettings.list_enabled_notification_rules at hlisted
  rw [List.mem_insertionSort] at hlisted
  exact (List.mem_filter.mp hlisted).1

/-- A tenant is given its default channel when it has no in-app channel. -/
theorem insert_default_extends {t : DeliveryTables} {tenant_id : Uuid}
    (h : DefaultOnly t.settings tenant_id) :
    Extends t.settings (t.insert_default_in_app_channel tenant_id).2.settings := by
  unfold DeliveryTables.insert_default_in_app_channel
  split
  · exact .refl _
  rename_i hnone
  have hno : ∀ channel ∈ t.settings.notification_channels,
      NotifySettings.active_in_app tenant_id channel = false := by
    intro channel hmem
    by_contra hactive
    exact nomatch hnone.symm.trans (h channel hmem (by simpa using hactive))
  have hother : ∀ other, other ≠ tenant_id →
      NotifySettings.active_in_app other (t.new_in_app_channel tenant_id) = false := by
    intro other hne
    simp [NotifySettings.active_in_app, DeliveryTables.new_in_app_channel, hne.symm]
  have hnew : ∀ rule ∈ t.settings.notification_rules,
      rule.channel_ids.contains (t.new_in_app_channel tenant_id).id = false := by
    intro rule hrule
    rw [List.contains_eq_mem, decide_eq_false_iff_not]
    exact fun hmem => Nat.lt_irrefl _ (t.below.2 rule hrule _ hmem)
  refine ⟨rfl, fun channel hmem => List.mem_append_left _ hmem, ?_, ?_, ?_, ?_, ?_⟩
  · intro rule hrule other
    unfold NotifySettings.list_channels_by_ids
    rw [List.filter_append, List.filter_singleton, hnew rule hrule, Bool.and_false]
    simp
  · intro rule hrule other
    unfold NotifySettings.list_active_channels_by_ids
    rw [List.filter_append, List.filter_singleton, hnew rule hrule, Bool.and_false]
    simp
  · intro other channel hfirst
    by_cases hsame : other = tenant_id
    · subst other
      obtain ⟨hmem, hactive⟩ := first_channel_mem hfirst
      exact nomatch (hno channel hmem).symm.trans hactive
    · unfold NotifySettings.first_in_app_channel at hfirst ⊢
      rw [List.filter_append, List.filter_singleton, hother other hsame]
      simpa using hfirst
  · intro other channel hfound
    unfold NotifySettings.default_in_app_channel at hfound ⊢
    rw [List.find?_append, hfound]
    rfl
  · intro other honly channel hmem hactive
    unfold NotifySettings.default_in_app_channel
    rw [List.find?_append]
    rcases List.mem_append.mp hmem with hold | hadded
    · have hfound := honly channel hold hactive
      unfold NotifySettings.default_in_app_channel at hfound
      rw [hfound]
      rfl
    · obtain rfl := List.mem_singleton.mp hadded
      by_cases hsame : other = tenant_id
      · subst other
        unfold NotifySettings.default_in_app_channel at hnone
        rw [hnone, List.find?_singleton, hactive]
        simp [DeliveryTables.new_in_app_channel]
      · exact nomatch (hother other hsame).symm.trans hactive

/-- Either way there is a default channel then. -/
theorem insert_default_found (t : DeliveryTables) (tenant_id : Uuid) :
    ∃ channel, (t.insert_default_in_app_channel tenant_id).2.settings.default_in_app_channel
        tenant_id = some channel ∧
      ∀ inserted ∈ (t.insert_default_in_app_channel tenant_id).1, inserted = channel := by
  unfold DeliveryTables.insert_default_in_app_channel
  split
  · rename_i channel hfound
    exact ⟨channel, hfound, fun _ h => nomatch h⟩
  · rename_i hnone
    refine ⟨t.new_in_app_channel tenant_id, ?_, fun inserted h => (Option.some.inj h).symm⟩
    unfold NotifySettings.default_in_app_channel at hnone ⊢
    rw [List.find?_append, hnone]
    simp [NotifySettings.active_in_app, DeliveryTables.new_in_app_channel]

/-! ### Deliveries -/

/-- The delivery is still there, for the same channel and with no smaller number; one that was sent or
skipped is as it was. -/
structure Continues (a b : NotificationDelivery) : Prop where
  event_id : b.event_id = a.event_id
  rule_id : b.rule_id = a.rule_id
  channel_id : b.channel_id = a.channel_id
  unique_key : b.unique_key = a.unique_key
  attempt_count : a.attempt_count ≤ b.attempt_count
  final : a.Final → b = a

theorem Continues.refl (a : NotificationDelivery) : Continues a a :=
  ⟨rfl, rfl, rfl, rfl, Int.le_refl _, fun _ => rfl⟩

theorem Continues.trans {a b c : NotificationDelivery} (hab : Continues a b)
    (hbc : Continues b c) : Continues a c where
  event_id := hbc.event_id.trans hab.event_id
  rule_id := hbc.rule_id.trans hab.rule_id
  channel_id := hbc.channel_id.trans hab.channel_id
  unique_key := hbc.unique_key.trans hab.unique_key
  attempt_count := Int.le_trans hab.attempt_count hbc.attempt_count
  final h := by
    have hb := hab.final h
    subst hb
    exact hbc.final h

theorem Continues.revise {p : NotificationDelivery → Bool}
    {f : NotificationDelivery → NotificationDelivery} {a : NotificationDelivery}
    (h : p a = true → Continues a (f a)) : Continues a (Table.revise p f a) := by
  cases hp : p a with
  | true =>
    rw [Table.revise_of_true hp]
    exact h hp
  | false =>
    rw [Table.revise_of_false hp]
    exact .refl a

section Deliveries
variable {rows rows' : List NotificationDelivery} {target : ExternalTarget} {attempt_count : Int}
  {start : ExternalDeliveryStart} {t : DeliveryTables}

theorem begin_continues (h : BeginEffect target attempt_count rows start rows')
    {row : NotificationDelivery} (hids : (rows.map (·.id)).Nodup) (hrow : row ∈ rows) :
    ∃ row' ∈ rows', Continues row row' := by
  by_cases hfinal : row.Final
  · exact ⟨row, h.final_mem hids hrow hfinal, .refl row⟩
  cases h with
  | inserted => exact ⟨row, List.mem_append_left _ hrow, .refl row⟩
  | @restarted delivery hmem hsel hopen holder =>
    refine ⟨_, List.mem_map_of_mem hrow, .revise fun hid => ?_⟩
    obtain rfl := List.inj_on_of_nodup_map hids hrow hmem (beq_iff_eq.mp hid)
    exact ⟨rfl, rfl, rfl, rfl, Int.le_of_lt holder, fun h => absurd h hfinal⟩
  | complete => exact ⟨row, hrow, .refl row⟩

/-- After a begin the row of its target is final or no older than the attempt. -/
theorem begin_row (h : BeginEffect target attempt_count rows start rows') :
    ∃ row ∈ rows', row.unique_key = some target.key ∧
      (row.Final ∨ attempt_count ≤ row.attempt_count) := by
  cases h with
  | inserted =>
    exact ⟨_, List.mem_append_right _ (List.mem_singleton_self _), rfl, .inr (Int.le_refl _)⟩
  | @restarted delivery hmem hsel =>
    have hself : Table.revise (·.id == delivery.id) (·.restarted attempt_count) delivery =
        delivery.restarted attempt_count := Table.revise_of_true (beq_self_eq_true _)
    refine ⟨_, Table.mem_update.mpr ⟨delivery, hmem, hself⟩, ?_, .inr (Int.le_refl _)⟩
    exact (ExternalTarget.selects_iff.mp hsel).2
  | complete hmem hsel hdone => exact ⟨_, hmem, (ExternalTarget.selects_iff.mp hsel).2, hdone⟩

/-- A mark changes no delivery that was sent or skipped. -/
theorem mark_continues {tenant_id delivery_id : Uuid}
    {f : NotificationDelivery → NotificationDelivery}
    {hid : ∀ delivery, (f delivery).id = delivery.id}
    {hkey : ∀ delivery key, (f delivery).unique_key = some key → delivery.unique_key = some key}
    (hf : ∀ row : NotificationDelivery, ¬ row.Final → Continues row (f row))
    {row : NotificationDelivery} (hrow : row ∈ t.notification_deliveries) :
    ∃ row' ∈ (t.mark_external_notification_delivery tenant_id delivery_id attempt_count f hid
      hkey).2.notification_deliveries, Continues row row' := by
  unfold DeliveryTables.mark_external_notification_delivery
  split
  · refine ⟨_, Table.mem_update.mpr ⟨row, hrow, rfl⟩, .revise fun hway => hf row ?_⟩
    have hstatus := (NotificationDelivery.under_way_iff.mp hway).2.2.1
    rintro (hsent | hskipped)
    · cases hstatus.symm.trans hsent
    · cases hstatus.symm.trans hskipped
  · exact ⟨row, hrow, .refl row⟩

theorem begin_settings {events : List AddressEvent} :
    (t.begin_external_notification_delivery events target attempt_count).2.settings =
      t.settings := by
  unfold DeliveryTables.begin_external_notification_delivery
    DeliveryTables.insert_external_notification_delivery
    DeliveryTables.update_external_notification_delivery_processing
  grind [DeliveryTables.add_delivery, DeliveryTables.update_deliveries]

theorem mark_settings {tenant_id delivery_id : Uuid}
    {f : NotificationDelivery → NotificationDelivery}
    {hid : ∀ delivery, (f delivery).id = delivery.id}
    {hkey : ∀ delivery key, (f delivery).unique_key = some key → delivery.unique_key = some key} :
    (t.mark_external_notification_delivery tenant_id delivery_id attempt_count f hid
      hkey).2.settings = t.settings := by
  unfold DeliveryTables.mark_external_notification_delivery
  split <;> rfl

/-- An in-app delivery is a new row, where it can be created. -/
theorem in_app_cases (events : List AddressEvent) (tenant_id event_id rule_id channel_id : Uuid)
    (attempt_count : Int) (sent_at : Timestamp) (title body : String) :
    (∃ message, t.create_sent_in_app_delivery events tenant_id event_id rule_id channel_id
      attempt_count sent_at title body = (.error (.NotFound message), t)) ∨
    ((t.create_sent_in_app_delivery events tenant_id event_id rule_id channel_id attempt_count
        sent_at title body).1 = .ok () ∧
      (t.create_sent_in_app_delivery events tenant_id event_id rule_id channel_id attempt_count
        sent_at title body).2.settings = t.settings ∧
      (t.create_sent_in_app_delivery events tenant_id event_id rule_id channel_id attempt_count
        sent_at title body).2.notification_deliveries = t.notification_deliveries ++
          [t.plain_delivery tenant_id event_id (some rule_id) (some channel_id) (some "in_app")
            .sent attempt_count none (some sent_at)]) := by
  unfold DeliveryTables.create_sent_in_app_delivery
  split
  · dsimp only
    unfold DeliveryTables.create_in_app_notification
    split
    · rename_i hcreated
      split at hcreated
      · obtain rfl := congrArg Prod.snd hcreated
        exact .inr ⟨rfl, rfl, rfl⟩
      · exact nomatch congrArg Prod.fst hcreated
    · rename_i hrefused
      split at hrefused
      · exact nomatch congrArg Prod.fst hrefused
      · obtain rfl := Except.error.inj (congrArg Prod.fst hrefused)
        exact .inl ⟨_, rfl⟩
  · exact .inl ⟨_, rfl⟩

end Deliveries

/-! ### Tables -/

/-- No event, row of the outbox or delivery is lost. -/
structure Kept (t u : NotifyTables) : Prop where
  settings : Extends t.deliveries.settings u.deliveries.settings
  events : ∀ event ∈ t.events.address_events, event ∈ u.events.address_events
  rows : ∀ row ∈ t.events.notification_outbox, ∃ row' ∈ u.events.notification_outbox,
    row'.id = row.id ∧ row'.event_id = row.event_id ∧ row'.tenant_id = row.tenant_id
  deliveries : ∀ delivery ∈ t.deliveries.notification_deliveries,
    ∃ delivery' ∈ u.deliveries.notification_deliveries, Continues delivery delivery'

section Tables
variable {t u v : NotifyTables}

theorem Kept.refl (t : NotifyTables) : Kept t t :=
  ⟨.refl _, fun _ h => h, fun row h => ⟨row, h, rfl, rfl, rfl⟩, fun d h => ⟨d, h, .refl d⟩⟩

theorem Kept.trans (htu : Kept t u) (huv : Kept u v) : Kept t v where
  settings := htu.settings.trans huv.settings
  events event h := huv.events event (htu.events event h)
  rows a ha := by
    obtain ⟨b, hb, hid, hevent, htenant⟩ := htu.rows a ha
    obtain ⟨c, hc, hid', hevent', htenant'⟩ := huv.rows b hb
    exact ⟨c, hc, hid'.trans hid, hevent'.trans hevent, htenant'.trans htenant⟩
  deliveries a ha := by
    obtain ⟨b, hb, hab⟩ := htu.deliveries a ha
    obtain ⟨c, hc, hbc⟩ := huv.deliveries b hb
    exact ⟨c, hc, hab.trans hbc⟩

/-- The outbox alone changes, and no row of it is lost. -/
theorem Kept.of_outbox (hdeliveries : u.deliveries = t.deliveries)
    (hevents : u.events.address_events = t.events.address_events)
    {p : NotificationOutboxItem → Bool} {f : NotificationOutboxItem → NotificationOutboxItem}
    (hrows : u.events.notification_outbox = Table.update p f t.events.notification_outbox)
    (hid : ∀ item, (f item).id = item.id) (hevent : ∀ item, (f item).event_id = item.event_id)
    (htenant : ∀ item, (f item).tenant_id = item.tenant_id) : Kept t u where
  settings := hdeliveries ▸ .refl _
  events event h := hevents ▸ h
  rows row hrow := by
    rw [hrows]
    exact ⟨_, Table.mem_update.mpr ⟨row, hrow, rfl⟩, Table.revise_column hid row,
      Table.revise_column hevent row, Table.revise_column htenant row⟩
  deliveries := by
    rw [hdeliveries]
    exact fun d h => ⟨d, h, .refl d⟩

/-- The deliveries alone change. -/
theorem Kept.of_deliveries (hevents : u.events = t.events)
    (hsettings : Extends t.deliveries.settings u.deliveries.settings)
    (h : ∀ delivery ∈ t.deliveries.notification_deliveries,
      ∃ delivery' ∈ u.deliveries.notification_deliveries, Continues delivery delivery') :
    Kept t u := by
  refine ⟨hsettings, ?_, ?_, h⟩
  · rw [hevents]
    exact fun _ h => h
  · rw [hevents]
    exact fun row h => ⟨row, h, rfl, rfl, rfl⟩

/-- A default channel is inserted only where there is no other. -/
def NotifyQuery.Guarded (t : NotifyTables) : NotifyQuery → Prop
  | .insert_default_in_app_channel tenant_id => DefaultOnly t.deliveries.settings tenant_id
  | _ => True

theorem run_kept {choice : ClaimChoice} {q : NotifyQuery} (h : q.Guarded t) :
    Kept t (q.run choice t).2 := by
  cases q with
  | release_stale_notification_outbox stale_before next_attempt_at =>
    exact .of_outbox rfl rfl rfl (fun _ => rfl) (fun _ => rfl) fun _ => rfl
  | claim_due_notification_outbox now worker_id limit =>
    unfold NotifyQuery.run EventTables.claim_due_notification_outbox
    dsimp only
    split
    · exact .refl t
    · split
      · exact .refl t
      · exact .of_outbox rfl rfl rfl (fun _ => rfl) (fun _ => rfl) fun _ => rfl
  | mark_notification_outbox id mark =>
    unfold NotifyQuery.run EventTables.mark_notification_outbox
    dsimp only
    split
    · exact .of_outbox rfl rfl rfl (fun _ => mark.apply_id) (fun _ => mark.apply_event_id)
        fun _ => mark.apply_tenant_id
    · exact .refl t
  | insert_default_in_app_channel tenant_id =>
    refine .of_deliveries rfl (insert_default_extends h) fun d hd => ⟨d, ?_, .refl d⟩
    unfold NotifyQuery.run DeliveryTables.insert_default_in_app_channel
    dsimp only
    split <;> exact hd
  | begin_external_notification_delivery target attempt_count =>
    refine .of_deliveries rfl (begin_settings.symm ▸ .refl _) fun d hd => ?_
    rcases @DeliveryTables.begin_cases t.deliveries t.events.address_events target attempt_count
      with ⟨_, hrefused⟩ | ⟨_, _, heffect⟩
    · refine ⟨d, ?_, .refl d⟩
      simpa [NotifyQuery.run, hrefused] using hd
    · exact begin_continues heffect t.deliveries.unique_delivery_id hd
  | mark_external_notification_delivery_sent _ _ _ sent_at message_id status_code response =>
    refine .of_deliveries rfl (mark_settings.symm ▸ .refl _) fun d hd => ?_
    exact mark_continues (f := (·.marked_sent sent_at message_id status_code response))
      (fun _ hopen => ⟨rfl, rfl, rfl, rfl, Int.le_refl _, fun h => absurd h hopen⟩) hd
  | mark_external_notification_delivery_failed _ _ _ failure last_error status_code response =>
    refine .of_deliveries rfl (mark_settings.symm ▸ .refl _) fun d hd => ?_
    exact mark_continues (f := (·.marked_failed failure last_error status_code response))
      (fun _ hopen => ⟨rfl, rfl, rfl, rfl, Int.le_refl _, fun h => absurd h hopen⟩) hd
  | create_notification_delivery =>
    unfold NotifyQuery.run DeliveryTables.create_notification_delivery
    dsimp only
    split
    · exact .of_deliveries rfl (.refl _) fun d hd => ⟨d, List.mem_append_left _ hd, .refl d⟩
    · exact .refl t
  | create_sent_in_app_delivery tenant_id event_id rule_id channel_id attempt_count sent_at title
      body =>
    rcases in_app_cases (t := t.deliveries) t.events.address_events tenant_id event_id rule_id
      channel_id attempt_count sent_at title body with ⟨_, hrefused⟩ | ⟨_, hsettings, hrows⟩
    · refine .of_deliveries rfl ?_ fun d hd => ⟨d, ?_, .refl d⟩
      · simp only [NotifyQuery.run, hrefused]
        exact .refl _
      · simpa [NotifyQuery.run, hrefused] using hd
    · refine .of_deliveries rfl (hsettings.symm ▸ .refl _) fun d hd => ⟨d, ?_, .refl d⟩
      exact hrows.symm ▸ List.mem_append_left _ hd
  | _ => exact .refl t

theorem others_keep {W : Type} {E : NotifyEdit → Prop} {s t : Notifiers W} (hE : ¬ E .configure)
    (h : NotifyOthers E s t) : Kept s.tables t.tables := by
  cases h with
  | event draft =>
    refine ⟨.refl _, fun event hevent => EventTables.insert_subset hevent, fun row hrow => ?_,
      fun d hd => ⟨d, hd, .refl d⟩⟩
    rcases s.tables.events.insert_cases draft with ⟨_, hsame⟩ | ⟨_, _, _, hrows⟩
    · exact ⟨row, hsame.symm ▸ hrow, rfl, rfl, rfl⟩
    · exact ⟨row, hrows.symm ▸ List.mem_append_left _ hrow, rfl, rfl, rfl⟩
  | manual_retry => exact .of_outbox rfl rfl rfl (fun _ => rfl) (fun _ => rfl) fun _ => rfl
  | configure hconfigure => exact absurd hconfigure hE

end Tables

end CoinListener.Notifier
