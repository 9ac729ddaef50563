import CoinListener.Notifier.Matches
import CoinListener.Notifier.Repeats

/-! The channels of an event one after another: what an attempt leaves behind for each of them, and what
a worker knows on the way. -/
namespace CoinListener.Notifier
open Foundation Storage Prog

/-! ### Records -/

/-- The delivery tells what became of the channel. -/
def ResolvedNotifyChannel.recorded_by (delivery : NotificationDelivery) :
    ResolvedNotifyChannel → Prop
  | .Active channel => delivery.channel_id = some channel.id
  | .Inactive channel_id => delivery.channel_id = some channel_id
  | .Missing channel_id => delivery.channel_id = none ∧ delivery.Final ∧
      delivery.last_error = some (missing_channel_error channel_id)

def HasRecord (t : NotifyTables) (event_id : Uuid) (rule : NotificationRule)
    (channel : ResolvedNotifyChannel) : Prop :=
  ∃ delivery ∈ t.deliveries.notification_deliveries, delivery.event_id = event_id ∧
    delivery.rule_id = some rule.id ∧ channel.recorded_by delivery

/-- The rule has channels, and each of them has its record. -/
def RuleRecorded (t : NotifyTables) (event : AddressEvent) (rule : NotificationRule) : Prop :=
  resolved_channels t.deliveries.settings event.tenant_id rule ≠ [] ∧
    ∀ channel ∈ resolved_channels t.deliveries.settings event.tenant_id rule,
      HasRecord t event.id rule channel

/-- An attempt that is done with the channel leaves a record, and where it had to send, the row of the
delivery is final or no older than the attempt. -/
structure Handled (t : NotifyTables) (task : NotifyEventTask) (rule : NotificationRule)
    (channel : ResolvedNotifyChannel) : Prop where
  recorded : HasRecord t task.event_id rule channel
  begun : ∀ active, channel = .Active active → ∀ channel_type,
    notify_channel_decision active.channel_type = .External channel_type →
    ∃ delivery ∈ t.deliveries.notification_deliveries,
      delivery.unique_key = some (external_target task rule active.id channel_type).key ∧
      (delivery.Final ∨ (task.attempt : Int) ≤ delivery.attempt_count)

/-- The rule has channels, and the attempt is done with each of them. -/
def RuleHandled (t : NotifyTables) (task : NotifyEventTask) (rule : NotificationRule) : Prop :=
  resolved_channels t.deliveries.settings task.tenant_id rule ≠ [] ∧
    ∀ channel ∈ resolved_channels t.deliveries.settings task.tenant_id rule,
      Handled t task rule channel

/-- The event of the row has a record for each channel of each matching rule. -/
def AllRecorded (t : NotifyTables) (row : NotificationOutboxItem) : Prop :=
  ∃ event ∈ t.events.address_events, event.id = row.event_id ∧
    event.tenant_id = row.tenant_id ∧
    ∀ rule ∈ matching_rules t.deliveries.settings event, RuleRecorded t event rule

/-- An attempt on the item is done with all of them. -/
def AllHandled (t : NotifyTables) (item : NotificationOutboxItem) : Prop :=
  ∃ event ∈ t.events.address_events, event.id = item.event_id ∧
    event.tenant_id = item.tenant_id ∧
    ∀ rule ∈ matching_rules t.deliveries.settings event,
      RuleHandled t (notify_task_from_outbox_item item) rule

section Kept
variable {t u : NotifyTables} (h : Kept t u)
include h

theorem Kept.recorded {event_id : Uuid} {rule : NotificationRule}
    {channel : ResolvedNotifyChannel} (hrecorded : HasRecord t event_id rule channel) :
    HasRecord u event_id rule channel := by
  obtain ⟨delivery, hmem, hevent, hrule, hchannel⟩ := hrecorded
  obtain ⟨next, hnext, hcontinues⟩ := h.deliveries delivery hmem
  refine ⟨next, hnext, hcontinues.event_id.trans hevent, hcontinues.rule_id.trans hrule, ?_⟩
  cases channel with
  | Active channel => exact hcontinues.channel_id.trans hchannel
  | Inactive channel_id => exact hcontinues.channel_id.trans hchannel
  | Missing channel_id =>
    have hsame := hcontinues.final hchannel.2.1
    subst hsame
    exact hchannel

theorem Kept.handled {task : NotifyEventTask} {rule : NotificationRule}
    {channel : ResolvedNotifyChannel} (hhandled : Handled t task rule channel) :
    Handled u task rule channel := by
  refine ⟨h.recorded hhandled.recorded, fun active hactive channel_type hdecision => ?_⟩
  obtain ⟨delivery, hmem, hkey, hdone⟩ := hhandled.begun active hactive channel_type hdecision
  obtain ⟨next, hnext, hcontinues⟩ := h.deliveries delivery hmem
  refine ⟨next, hnext, hcontinues.unique_key.trans hkey, ?_⟩
  rcases hdone with hfinal | hattempt
  · exact .inl (hcontinues.final hfinal ▸ hfinal)
  · exact .inr (Int.le_trans hattempt hcontinues.attempt_count)

theorem Kept.rule_handled {task : NotifyEventTask} {rule : NotificationRule}
    (hrule : rule ∈ t.deliveries.settings.notification_rules) (hhandled : RuleHandled t task rule) :
    RuleHandled u task rule := by
  obtain ⟨hsome, hall⟩ := hhandled
  have hsame := h.settings.resolved hrule hsome
  refine ⟨hsame ▸ hsome, fun channel hchannel => ?_⟩
  rw [hsame] at hchannel
  exact h.handled (hall channel hchannel)

theorem Kept.rule_recorded {event : AddressEvent} {rule : NotificationRule}
    (hrule : rule ∈ t.deliveries.settings.notification_rules) (hrecorded : RuleRecorded t event rule) :
    RuleRecorded u event rule := by
  obtain ⟨hsome, hall⟩ := hrecorded
  have hsame := h.settings.resolved hrule hsome
  refine ⟨hsame ▸ hsome, fun channel hchannel => ?_⟩
  rw [hsame] at hchannel
  exact h.recorded (hall channel hchannel)

theorem Kept.all_recorded {row row' : NotificationOutboxItem} (hevent : row'.event_id = row.event_id)
    (htenant : row'.tenant_id = row.tenant_id) (hrecorded : AllRecorded t row) :
    AllRecorded u row' := by
  obtain ⟨event, hmem, hid, hsame, hall⟩ := hrecorded
  refine ⟨event, h.events event hmem, hid.trans hevent.symm, hsame.trans htenant.symm, ?_⟩
  intro rule hrule
  rw [h.settings.matching] at hrule
  exact h.rule_recorded (mem_matching hrule) (hall rule hrule)

theorem Kept.all_handled {item : NotificationOutboxItem} (hhandled : AllHandled t item) :
    AllHandled u item := by
  obtain ⟨event, hmem, hid, htenant, hall⟩ := hhandled
  refine ⟨event, h.events event hmem, hid, htenant, fun rule hrule => ?_⟩
  rw [h.settings.matching] at hrule
  exact h.rule_handled (mem_matching hrule) (hall rule hrule)

end Kept

theorem RuleHandled.recorded {t : NotifyTables} {task : NotifyEventTask} {event : AddressEvent}
    {rule : NotificationRule} (h : RuleHandled t task rule) (hevent : task.event_id = event.id)
    (htenant : task.tenant_id = event.tenant_id) : RuleRecorded t event rule := by
  obtain ⟨hsome, hall⟩ := h
  rw [htenant] at hsome hall
  exact ⟨hsome, fun channel hchannel => hevent ▸ (hall channel hchannel).recorded⟩

theorem AllHandled.recorded {t : NotifyTables} {item : NotificationOutboxItem}
    (h : AllHandled t item) : AllRecorded t item := by
  obtain ⟨event, hmem, hid, htenant, hall⟩ := h
  exact ⟨event, hmem, hid, htenant, fun rule hrule =>
    (hall rule hrule).recorded hid.symm htenant.symm⟩

/-! ### The order of the channels -/

/-- What a record is stored under. -/
structure RecordColumns where
  event_id : Uuid
  rule_id : Option Uuid
  channel_id : Option Uuid

/-- The record a statement sees to. -/
def NotifyStatement.records : NotifyStatement → Option RecordColumns
  | .db (.begin_external_notification_delivery target _) =>
    some ⟨target.event_id, some target.rule_id, some target.channel_id⟩
  | .db (.create_notification_delivery _ event_id rule_id channel_id ..) =>
    some ⟨event_id, rule_id, channel_id⟩
  | .db (.create_sent_in_app_delivery _ event_id rule_id channel_id ..) =>
    some ⟨event_id, some rule_id, some channel_id⟩
  | _ => none

def ResolvedNotifyChannel.stored_channel_id : ResolvedNotifyChannel → Option Uuid
  | .Active channel => some channel.id
  | .Inactive channel_id => some channel_id
  | .Missing _ => none

/-- The record is for a channel of a matching rule, and every channel before it, in the order of the
rules and of the channels of each rule, has its record. -/
def InOrder (t : NotifyTables) (record : RecordColumns) : Prop :=
  ∃ event ∈ t.events.address_events, event.id = record.event_id ∧
    ∃ pre rule post, matching_rules t.deliveries.settings event = pre ++ rule :: post ∧
      record.rule_id = some rule.id ∧ (∀ earlier ∈ pre, RuleRecorded t event earlier) ∧
      ∃ done channel todo,
        resolved_channels t.deliveries.settings event.tenant_id rule = done ++ channel :: todo ∧
        record.channel_id = channel.stored_channel_id ∧
        ∀ earlier ∈ done, HasRecord t event.id rule earlier

/-- The key of an external delivery is the one of a channel of a matching rule. -/
def Matched (t : NotifyTables) (key : DeliveryKey) : Prop :=
  ∃ event ∈ t.events.address_events, ∃ rule ∈ matching_rules t.deliveries.settings event,
    ∃ channel channel_type,
      .Active channel ∈ resolved_channels t.deliveries.settings event.tenant_id rule ∧
      notify_channel_decision channel.channel_type = .External channel_type ∧
      key = ⟨event.id, rule.id, channel.id,
        notification_idempotency_key event.tenant_id event.id rule.id channel.id⟩

/-- Records are made in order, a row is marked delivered when all of them are there, and otherwise
only after a failure. -/
def in_order {W : Type} (w : W) (s : Notifiers W) : NotifyStatement → Prop
  | .db (.insert_default_in_app_channel tenant_id) =>
    DefaultOnly s.tables.deliveries.settings tenant_id
  | .db (.mark_notification_outbox id (.delivered _)) =>
    ∀ row ∈ s.tables.events.notification_outbox, row.id = id → AllRecorded s.tables row
  | .db (.mark_notification_outbox _ _) => s.troubled w = true
  | .db (.begin_external_notification_delivery target _) =>
    InOrder s.tables ⟨target.event_id, some target.rule_id, some target.channel_id⟩ ∧
      Matched s.tables target.key
  | op => ∀ record ∈ op.records, InOrder s.tables record

/-- A statement of an attempt that sees to no record. -/
def NotifyStatement.Neutral (op : NotifyStatement) : Prop :=
  op.Attempt ∧ op.records = none ∧
    ∀ tenant_id, op ≠ .db (.insert_default_in_app_channel tenant_id)

theorem NotifyStatement.Neutral.in_order {W : Type} {w : W} {s : Notifiers W} {op : NotifyStatement}
    (h : op.Neutral) : in_order w s op := by
  obtain ⟨hop, hrecords, hinsert⟩ := h
  cases op with
  | db q => cases q <;> first
    | exact hop.elim
    | exact absurd rfl (hinsert _)
    | exact fun record hrecord => nomatch hrecords.symm.trans hrecord
    | exact nomatch hrecords
  | env_var => exact fun record hrecord => nomatch hrecord
  | send_telegram => exact fun record hrecord => nomatch hrecord
  | send_webhook => exact fun record hrecord => nomatch hrecord

/-- What a worker may rely on while it goes on. -/
def Lasts {W : Type} (w : W) (s t : Notifiers W) : Prop :=
  Kept s.tables t.tables ∧ (s.troubled w = true → t.troubled w = true)

section Steps
variable {W : Type} {s t u : Notifiers W} {w v : W} {op : NotifyStatement} {r : AppResult op.Answer}
  {C : W → Notifiers W → ClaimChoice → NotifyQuery → Prop}

theorem Lasts.refl (w : W) (s : Notifiers W) : Lasts w s s :=
  ⟨.refl _, id⟩

theorem Lasts.trans (hst : Lasts w s t) (htu : Lasts w t u) : Lasts w s u :=
  ⟨hst.1.trans htu.1, fun h => htu.2 (hst.2 h)⟩

variable [DecidableEq W]

theorem learn_troubled_of_attempt {q : NotifyQuery} {r : AppResult q.Answer} (hq : q.Attempt)
    (h : s.troubled w = true) : (s.learn w q r).troubled w = true := by
  unfold Notifiers.learn
  split
  · exact hq.elim
  · exact hq.elim
  · exact hq.elim
  · exact h
  · simp [Notifiers.trouble]

omit [DecidableEq W] in
theorem in_order.guarded {q : NotifyQuery} (h : in_order w s (.db q)) : q.Guarded s.tables := by
  cases q with
  | insert_default_in_app_channel tenant_id => exact h
  | _ => trivial

theorem carried_keeps (hA : in_order w s op) (hs : NotifyCarried C w s op r t) :
    Kept s.tables t.tables := by
  cases hs with
  | db choice hC hfate =>
    rw [learn_tables]
    rcases hfate.state with rfl | rfl
    · exact .refl _
    · exact run_kept hA.guarded
  | _ => exact .refl _

/-- A statement of an attempt takes nothing from its worker. -/
theorem carried_lasts (hop : op.Attempt) (hA : in_order w s op) (hs : NotifyCarried C w s op r t) :
    Lasts w s t := by
  refine ⟨carried_keeps hA hs, fun h => ?_⟩
  cases hs with
  | db choice hC hfate =>
    refine learn_troubled_of_attempt hop ?_
    rcases hfate.state with rfl | rfl <;> exact h
  | env_var => exact h
  | webhook_refused => exact h
  | send_telegram => simp [Notifiers.sent, h]
  | send_webhook => simp [Notifiers.sent, h]

/-- A statement of an attempt that fails is noticed. -/
theorem carried_trouble (hop : op.Attempt) {error : AppError}
    (hs : NotifyCarried C w s op (.error error) t) : t.troubled w = true := by
  generalize hr : (Except.error error : AppResult op.Answer) = r at hs
  cases hs with
  | @db q r u choice hC hfate =>
    subst hr
    cases q <;> first | exact hop.elim | simp [Notifiers.learn, Notifiers.trouble]
  | env_var => cases hr
  | webhook_refused => cases hr
  | send_telegram => cases hr
  | send_webhook => cases hr

theorem carried_troubled_of_ne (hs : NotifyCarried C w s op r t) (hv : v ≠ w) :
    t.troubled v = s.troubled v := by
  cases hs with
  | db choice hC hfate =>
    rw [learn_troubled_of_ne hv]
    rcases hfate.state with rfl | rfl <;> rfl
  | env_var => rfl
  | webhook_refused => rfl
  | send_telegram => simp [Notifiers.sent, hv]
  | send_webhook => simp [Notifiers.sent, hv]

/-- An answer is the statement's own. -/
theorem carried_answer {q : NotifyQuery} {a : q.Answer}
    (hs : NotifyCarried C w s (.db q) (.ok a) t) :
    ∃ choice, (q.run choice s.tables).1 = .ok a ∧ t.tables = (q.run choice s.tables).2 := by
  obtain ⟨choice, u, _, hfate, rfl⟩ := carried_db hs
  obtain ⟨hok, rfl⟩ := hfate.answer
  exact ⟨choice, hok, learn_tables⟩

end Steps

/-! ### What a worker knows -/

section Known
variable {W : Type} (w : W)

/-- What the tables do not lose. -/
def lasting (P : NotifyTables → Prop) (h : ∀ {t u}, Kept t u → P t → P u) :
    Assn (Lasts w) fun _ => True where
  holds s := P s.tables
  stable hs hst := h hst.1 hs
  good _ := trivial

/-- A statement or a send has failed. -/
def in_trouble : Assn (Lasts w) fun _ => True where
  holds s := s.troubled w = true
  stable h hst := hst.2 h
  good _ := trivial

/-- A send that failed transiently has been noticed. -/
def noticed (sent : Except String ExternalSendOutcome) : Assn (Lasts w) fun _ => True where
  holds s := ∀ outcome, sent = .ok outcome → outcome.is_transient_failure = true →
    s.troubled w = true
  stable h hst outcome hsent htransient := hst.2 (h outcome hsent htransient)
  good _ := trivial

/-- The row of a claimed item is the one of its event. -/
def row_known (item : NotificationOutboxItem) : Assn (Lasts w) fun _ => True :=
  lasting w (fun t => ∃ row ∈ t.events.notification_outbox, row.id = item.id ∧
    row.event_id = item.event_id ∧ row.tenant_id = item.tenant_id) (by
      rintro t u h ⟨row, hrow, hid, hevent, htenant⟩
      obtain ⟨next, hnext, hid', hevent', htenant'⟩ := h.rows row hrow
      exact ⟨next, hnext, hid'.trans hid, hevent'.trans hevent, htenant'.trans htenant⟩)

def event_known (event : AddressEvent) : Assn (Lasts w) fun _ => True :=
  lasting w (event ∈ ·.events.address_events) fun h hevent => h.events event hevent

def rules_known (event : AddressEvent) (rules : List NotificationRule) :
    Assn (Lasts w) fun _ => True :=
  lasting w (matching_rules ·.deliveries.settings event = rules) fun h hrules =>
    (h.settings.matching event).trans hrules

def first_known (tenant_id : Uuid) (channel : NotificationChannel) :
    Assn (Lasts w) fun _ => True :=
  lasting w (·.deliveries.settings.first_in_app_channel tenant_id = some channel)
    fun h hfirst => h.settings.first tenant_id channel hfirst

def default_known (tenant_id : Uuid) (channel : NotificationChannel) :
    Assn (Lasts w) fun _ => True :=
  lasting w (·.deliveries.settings.default_in_app_channel tenant_id = some channel)
    fun h hfound => h.settings.found tenant_id channel hfound

def default_only_known (tenant_id : Uuid) : Assn (Lasts w) fun _ => True :=
  lasting w (DefaultOnly ·.deliveries.settings tenant_id) fun h honly =>
    h.settings.default_only tenant_id honly

def listed_known (tenant_id : Uuid) (rule : NotificationRule)
    (existing : List NotificationChannel) : Assn (Lasts w) fun _ => True :=
  lasting w (fun t => rule ∈ t.deliveries.settings.notification_rules ∧
      t.deliveries.settings.list_channels_by_ids tenant_id rule.channel_ids = existing)
    fun h hlisted => ⟨h.settings.rules ▸ hlisted.1,
      (h.settings.listed rule hlisted.1 tenant_id).trans hlisted.2⟩

def channels_known (tenant_id : Uuid) (rule : NotificationRule)
    (channels : List ResolvedNotifyChannel) : Assn (Lasts w) fun _ => True :=
  lasting w (fun t => rule ∈ t.deliveries.settings.notification_rules ∧ channels ≠ [] ∧
    resolved_channels t.deliveries.settings tenant_id rule = channels) (by
      rintro t u h ⟨hrule, hsome, rfl⟩
      exact ⟨h.settings.rules ▸ hrule, hsome, h.settings.resolved hrule hsome⟩)

def rule_done (task : NotifyEventTask) (rule : NotificationRule) : Assn (Lasts w) fun _ => True :=
  lasting w (fun t => rule ∈ t.deliveries.settings.notification_rules ∧ RuleHandled t task rule)
    fun h hrule => ⟨h.settings.rules ▸ hrule.1, h.rule_handled hrule.1 hrule.2⟩

def item_done (item : NotificationOutboxItem) : Assn (Lasts w) fun _ => True :=
  lasting w (AllHandled · item) fun h hdone => h.all_handled hdone

/-- What the result of an attempt on the item tells. -/
def result_known (item : NotificationOutboxItem) : Except AppError Nat → Assn (Lasts w) fun _ => True
  | .ok _ => item_done w item
  | .error _ => in_trouble w

def channel_done (task : NotifyEventTask) (rule : NotificationRule)
    (channel : ResolvedNotifyChannel) : Assn (Lasts w) fun _ => True :=
  lasting w (Handled · task rule channel) fun h hhandled => h.handled hhandled

end Known

/-- A part of an attempt, which knows `P` before it, `Q` once it has returned, and after an error that
there was one, and still `F`. -/
abbrev Recording {W : Type} [DecidableEq W] (Inv : Notifiers W → Prop)
    (C : W → Notifiers W → ClaimChoice → NotifyQuery → Prop) (w : W) {α : Type}
    (F P : Assn (Lasts w) fun _ => True) (p : Notify α)
    (Q : α → Assn (Lasts w) fun _ => True) : Prop :=
  Triple (in_order w) (Within Inv (NotifyCarried C w)) P p Q fun _ => F.and (in_trouble w)

section Parts
variable {W : Type} [DecidableEq W] {Inv : Notifiers W → Prop} {w : W} {α : Type}
  {C : W → Notifiers W → ClaimChoice → NotifyQuery → Prop} {F P : Assn (Lasts w) fun _ => True}
  {op : NotifyStatement} {parsers : Parsers} {task : NotifyEventTask} {event : AddressEvent}
  {rule : NotificationRule} {now : Timestamp}

/-- One statement of an attempt. -/
theorem Recording.perform {Q : op.Answer → Assn (Lasts w) fun _ => True} (hop : op.Attempt)
    (hF : ∀ s, P.holds s → F.holds s) (hA : ∀ s, P.holds s → in_order w s op)
    (hQ : ∀ s a t, P.holds t → NotifyCarried C w s op (.ok a) t → (Q a).holds t) :
    Recording Inv C w F P (Prog.perform op) Q := by
  refine Triple.perform hA fun s hs r t ht => ?_
  have hkept : P.holds t := P.stable hs (carried_lasts hop (hA s hs) ht.2.1)
  cases r with
  | ok a => exact hQ s a t hkept ht.2.1
  | error error => exact ⟨hF t hkept, carried_trouble hop ht.2.1⟩

/-- A statement that sees to no record. -/
theorem Recording.neutral (hop : op.Neutral) (hF : ∀ s, P.holds s → F.holds s) :
    Recording Inv C w F P (Prog.perform op) fun _ => P :=
  .perform hop.1 hF (fun _ _ => hop.in_order) fun _ _ _ hkept _ => hkept

/-- A statement against the tables, and what its answer tells the rest of the program. -/
theorem Recording.asks {β : Type} {q : NotifyQuery} {f : q.Answer → Notify β}
    {Q : β → Assn (Lasts w) fun _ => True} (hop : NotifyStatement.Attempt (.db q))
    (hA : ∀ s, P.holds s → in_order w s (.db q)) (hF : ∀ s, P.holds s → F.holds s)
    (h : ∀ (s : Notifiers W) a t choice, P.holds t → (q.run choice s.tables).1 = .ok a →
      t.tables = (q.run choice s.tables).2 →
      ∃ M : Assn (Lasts w) fun _ => True, M.holds t ∧ Recording Inv C w F M (f a) Q) :
    Recording Inv C w F P ((query q).bind f) Q := by
  refine Triple.bind_perform hA fun s hs r t ht => ?_
  have hkept : P.holds t := P.stable hs (carried_lasts hop (hA s hs) ht.2.1)
  cases r with
  | ok a =>
    obtain ⟨choice, hok, htables⟩ := carried_answer ht.2.1
    exact h s a t choice hkept hok htables
  | error error => exact ⟨hF t hkept, carried_trouble hop ht.2.1⟩

/-- The default channel, found or created, is the tenant's first one. -/
theorem default_recording {tenant_id : Uuid} (hF : ∀ s, P.holds s → F.holds s) :
    Recording Inv C w F P (get_or_create_default_in_app_channel tenant_id) fun channel =>
      P.and (first_known w tenant_id channel) := by
  have hfirst : ∀ s : Notifiers W, in_order w s (.db (.first_in_app_channel tenant_id)) :=
    fun s => NotifyStatement.Neutral.in_order ⟨trivial, rfl, nofun⟩
  have hdefault : ∀ s : Notifiers W, in_order w s (.db (.default_in_app_channel tenant_id)) :=
    fun s => NotifyStatement.Neutral.in_order ⟨trivial, rfl, nofun⟩
  refine .asks trivial (fun s _ => hfirst s) hF fun s first t choice hP hok htables => ?_
  have hfound : t.tables.deliveries.settings.first_in_app_channel tenant_id = first := by
    rw [htables]
    exact Except.ok.inj hok
  cases first with
  | some channel =>
    exact ⟨P.and (first_known w tenant_id channel), ⟨hP, hfound⟩, .done fun _ h => h⟩
  | none =>
    refine ⟨P.and (default_only_known w tenant_id), ⟨hP, .of_none hfound⟩, ?_⟩
    refine .asks trivial (fun s hs => hs.2) (fun s hs => hF s hs.1)
      fun s inserted t choice hs hok htables => ?_
    obtain ⟨channel, hchannel, hsame⟩ := insert_default_found s.tables.deliveries tenant_id
    have hanswer : (s.tables.deliveries.insert_default_in_app_channel tenant_id).1 = inserted :=
      Except.ok.inj hok
    have hnow : t.tables.deliveries.settings.default_in_app_channel tenant_id = some channel := by
      rw [htables]
      exact hchannel
    have hknown : (P.and (first_known w tenant_id channel)).holds t :=
      ⟨hs.1, DefaultOnly.first hs.2 hnow⟩
    cases inserted with
    | some inserted =>
      obtain rfl := hsame inserted hanswer
      exact ⟨_, hknown, .done fun _ h => h⟩
    | none =>
      refine ⟨(P.and (first_known w tenant_id channel)).and (default_known w tenant_id channel),
        ⟨hknown, hnow⟩, .asks trivial (fun s _ => hdefault s) (fun s hs => hF s hs.1.1)
          fun s found t choice hs hok htables => ?_⟩
      have hanswer : t.tables.deliveries.settings.default_in_app_channel tenant_id = found := by
        rw [htables]
        exact Except.ok.inj hok
      obtain rfl := hs.2.symm.trans hanswer
      exact ⟨_, hs.1, .done fun _ h => h⟩

/-- A rule is resolved as at one moment, and not to nothing. -/
theorem resolve_recording (hrule : ∀ s, P.holds s →
      rule ∈ s.tables.deliveries.settings.notification_rules)
    (hF : ∀ s, P.holds s → F.holds s) {tenant_id : Uuid} :
    Recording Inv C w F P (resolve_rule_channels tenant_id rule) fun channels =>
      P.and (channels_known w tenant_id rule channels) := by
  have hlist : ∀ s : Notifiers W, in_order w s
      (.db (.list_channels_by_ids tenant_id rule.channel_ids)) :=
    fun s => NotifyStatement.Neutral.in_order ⟨trivial, rfl, nofun⟩
  have hactive : ∀ s : Notifiers W, in_order w s
      (.db (.list_active_channels_by_ids tenant_id rule.channel_ids)) :=
    fun s => NotifyStatement.Neutral.in_order ⟨trivial, rfl, nofun⟩
  unfold resolve_rule_channels
  split
  · rename_i hempty
    refine .bind (Lasts.refl w) (default_recording hF) fun channel => .done fun s hs => ⟨hs.1, ?_⟩
    refine ⟨hrule s hs.1, List.cons_ne_nil _ _, ?_⟩
    have hfirst : s.tables.deliveries.settings.first_in_app_channel tenant_id = some channel := hs.2
    unfold resolved_channels
    rw [if_pos hempty, hfirst]
    rfl
  · rename_i hnonempty
    refine .asks trivial (fun s _ => hlist s) hF fun s existing t choice hs hok htables => ?_
    have hexisting : t.tables.deliveries.settings.list_channels_by_ids tenant_id
        rule.channel_ids = existing := by
      rw [htables]
      exact Except.ok.inj hok
    refine ⟨P.and (listed_known w tenant_id rule existing), ⟨hs, hrule t hs, hexisting⟩, ?_⟩
    refine .asks trivial (fun s _ => hactive s) (fun s hs => hF s hs.1)
      fun s active t choice hs hok htables => ?_
    have hfound : t.tables.deliveries.settings.list_active_channels_by_ids tenant_id
        rule.channel_ids = active := by
      rw [htables]
      exact Except.ok.inj hok
    have hresolved : resolved_channels t.tables.deliveries.settings tenant_id rule =
        resolve_explicit_rule_channels rule.channel_ids existing active := by
      unfold resolved_channels
      rw [if_neg hnonempty, hs.2.2, hfound]
    refine ⟨P.and (channels_known w tenant_id rule (resolve_explicit_rule_channels rule.channel_ids
      existing active)), ⟨hs.1, hs.2.1, fun hnil => hnonempty ?_, hresolved⟩, .done fun _ h => h⟩
    rw [resolve_explicit_rule_channels, List.map_eq_nil_iff] at hnil
    rw [hnil]
    rfl

/-! ### One channel -/

theorem credentials_recording (config : TelegramChannelConfig)
    (hF : ∀ s, P.holds s → F.holds s) :
    Recording Inv C w F P (telegram_credentials task config) fun _ => P := by
  unfold telegram_credentials
  split
  · refine .bind (Lasts.refl w) (Q := fun _ => P) ?_ fun result => ?_
    · exact .attempt (Recording.neutral (F := P) ⟨trivial, rfl, nofun⟩ fun _ h => h)
        (fun _ _ h => h) fun _ _ h => h.1
    cases result with
    | error error => exact .done fun _ h => h
    | ok bot =>
      dsimp only
      split <;> exact .done fun _ h => h
  · refine .bind (Lasts.refl w) (Q := fun _ => P) ?_ fun token => ?_
    · split
      · exact Recording.neutral ⟨trivial, rfl, nofun⟩ hF
      · exact .done fun _ h => h
    cases token with
    | none => exact .done fun _ h => h
    | some token =>
      exact .bind (Lasts.refl w) (Recording.neutral ⟨trivial, rfl, nofun⟩ hF) fun _ =>
        .done fun _ h => h

theorem secret_recording (secret_env : Option String) (hF : ∀ s, P.holds s → F.holds s) :
    Recording Inv C w F P (load_optional_env_secret secret_env) fun _ => P := by
  cases secret_env with
  | none => exact .done fun _ h => h
  | some name =>
    refine .bind (Lasts.refl w) (Recording.neutral ⟨trivial, rfl, nofun⟩ hF) fun secret => ?_
    cases secret <;> exact .done fun _ h => h

omit [DecidableEq W] in
/-- What was not sent has not failed transiently. -/
theorem noticed_error {message : String} {s : Notifiers W} :
    (noticed w (.error message)).holds s :=
  fun _ hsent => nomatch hsent

theorem telegram_recording (pair : DeliveryPair) (channel : NotificationChannel)
    (hF : ∀ s, P.holds s → F.holds s) :
    Recording Inv C w F P (telegram_outcome parsers task event pair channel) fun sent =>
      P.and (noticed w sent) := by
  unfold telegram_outcome
  split
  · exact .done fun _ h => ⟨h, noticed_error⟩
  · refine .bind (Lasts.refl w) (credentials_recording _ hF) fun credentials => ?_
    cases credentials with
    | error message => exact .done fun _ h => ⟨h, noticed_error⟩
    | ok credentials =>
      refine .bind (Lasts.refl w) (Q := fun outcome => P.and (noticed w (.ok outcome))) ?_
        fun outcome => .done fun _ h => h
      refine Recording.perform trivial hF (fun _ _ record hrecord => nomatch hrecord)
        fun s outcome t hP hs => ⟨hP, fun other hother htransient => ?_⟩
      obtain rfl := Except.ok.inj hother
      cases hs with
      | send_telegram => simp [Notifiers.sent, htransient]

theorem webhook_recording (pair : DeliveryPair) (key : String) (channel : NotificationChannel)
    (hF : ∀ s, P.holds s → F.holds s) :
    Recording Inv C w F P (webhook_outcome parsers task event pair key channel) fun sent =>
      P.and (noticed w sent) := by
  unfold webhook_outcome
  split
  · exact .done fun _ h => ⟨h, noticed_error⟩
  · refine .bind (Lasts.refl w) (secret_recording _ hF) fun secret => ?_
    cases secret with
    | error message => exact .done fun _ h => ⟨h, noticed_error⟩
    | ok secret =>
      refine Recording.perform trivial hF (fun _ _ record hrecord => nomatch hrecord)
        fun s outcome t hP hs => ⟨hP, fun other hother htransient => ?_⟩
      cases hs with
      | webhook_refused => exact nomatch hother
      | send_webhook outcome =>
        obtain rfl := Except.ok.inj hother
        simp [Notifiers.sent, htransient]

/-- Only a transient failure is an error. -/
theorem record_recording (delivery_id : Uuid) (outcome : ExternalSendOutcome)
    (hF : ∀ s, P.holds s → F.holds s) :
    Recording Inv C w F (P.and (noticed w (.ok outcome)))
      (record_outcome task now delivery_id outcome) fun _ => P := by
  have hF' : ∀ s, (P.and (noticed w (.ok outcome))).holds s → F.holds s := fun s h => hF s h.1
  cases outcome with
  | Sent metadata =>
    exact .bind (Lasts.refl w) (Recording.neutral ⟨trivial, rfl, nofun⟩ hF') fun _ =>
      .done fun _ h => h.1
  | PermanentFailure metadata =>
    exact .bind (Lasts.refl w) (Recording.neutral ⟨trivial, rfl, nofun⟩ hF') fun _ =>
      .done fun _ h => h.1
  | TransientFailure metadata =>
    exact .bind (Lasts.refl w) (Recording.neutral ⟨trivial, rfl, nofun⟩ hF') fun _ =>
      .fail fun s h => ⟨hF s h.1, h.2 _ rfl rfl⟩

omit [DecidableEq W] in
theorem key_columns {delivery : NotificationDelivery} {target : ExternalTarget}
    (h : delivery.unique_key = some target.key) : delivery.event_id = target.event_id ∧
      delivery.rule_id = some target.rule_id ∧ delivery.channel_id = some target.channel_id := by
  unfold NotificationDelivery.unique_key at h
  split at h
  · rename_i hrule hchannel hkey
    obtain ⟨hevent, hsame, hother, _⟩ := DeliveryKey.mk.inj (Option.some.inj h)
    exact ⟨hevent, hsame ▸ hrule, hother ▸ hchannel⟩
  · exact nomatch h

theorem external_recording {channel_id : Uuid} {channel : ResolvedNotifyChannel}
    (channel_type : ExternalChannelType)
    (hdone : ∀ t : NotifyTables, (∃ delivery ∈ t.deliveries.notification_deliveries,
        delivery.unique_key = some (external_target task rule channel_id channel_type).key ∧
        (delivery.Final ∨ (task.attempt : Int) ≤ delivery.attempt_count)) →
      Handled t task rule channel)
    (horder : ∀ s, P.holds s →
      InOrder s.tables ⟨task.event_id, some rule.id, some channel_id⟩)
    (hmatched : ∀ s, P.holds s →
      Matched s.tables (external_target task rule channel_id channel_type).key)
    (hchannel : ∀ s, P.holds s → ∃ found ∈ s.tables.deliveries.settings.notification_channels,
      found.id = channel_id ∧ found.tenant_id = task.tenant_id)
    (hF : ∀ s, P.holds s → F.holds s) :
    Recording Inv C w F P
      (process_external_channel_delivery parsers task event rule now channel_id channel_type)
      fun _ => P.and (channel_done w task rule channel) := by
  let handled := P.and (channel_done w task rule channel)
  have hF' : ∀ s, handled.holds s → F.holds s := fun s h => hF s h.1
  refine .asks trivial (fun s hs => ⟨horder s hs, hmatched s hs⟩) hF
    fun s start t choice hs hok htables => ?_
  refine ⟨handled, ⟨hs, hdone t.tables ?_⟩, ?_⟩
  · rcases @DeliveryTables.begin_cases s.tables.deliveries s.tables.events.address_events
      (external_target task rule channel_id channel_type) task.attempt with
      ⟨_, hrefused⟩ | ⟨_, _, heffect⟩
    · exact nomatch (congrArg Prod.fst hrefused).symm.trans hok
    · rw [htables]
      exact begin_row heffect
  cases start with
  | AlreadyComplete delivery_id => exact .done fun _ h => h
  | ReadyToSend delivery_id =>
    have hneutral : ∀ s : Notifiers W, in_order w s
        (.db (.list_channels_by_ids task.tenant_id [channel_id])) :=
      fun s => NotifyStatement.Neutral.in_order ⟨trivial, rfl, nofun⟩
    refine .asks trivial (fun s _ => hneutral s) hF' fun s channels t choice hs hok htables => ?_
    refine ⟨handled, hs, ?_⟩
    obtain ⟨found, hfound, hid, htenant⟩ := hchannel t hs.1
    have hmem : found ∈ channels := by
      have hanswer : t.tables.deliveries.settings.list_channels_by_ids task.tenant_id
          [channel_id] = channels := by
        rw [htables]
        exact Except.ok.inj hok
      rw [← hanswer, NotifySettings.list_channels_by_ids, List.mem_insertionSort]
      exact List.mem_filter.mpr ⟨hfound, by simp [hid, htenant]⟩
    cases channels with
    | nil => exact absurd hmem List.not_mem_nil
    | cons first rest =>
      refine .bind (Lasts.refl w) (Q := fun sent => handled.and (noticed w sent)) ?_
        fun sent => ?_
      · cases channel_type with
        | Telegram => exact telegram_recording _ first hF'
        | Webhook => exact webhook_recording _ _ first hF'
      · cases sent with
        | error message =>
          have hmark : Recording Inv C w F handled (query (.mark_external_notification_delivery_failed
              task.tenant_id delivery_id task.attempt .not_sent message none none))
              fun _ => handled := .neutral ⟨trivial, rfl, nofun⟩ hF'
          exact hmark.consequence (fun _ h => h.1) (fun _ _ h => h) fun _ _ h => h
        | ok outcome => exact record_recording delivery_id outcome hF'

omit [DecidableEq W] in
/-- A delivery that has been created is a record. -/
theorem created_recorded {t : NotifyTables} {choice : ClaimChoice} {tenant_id event_id : Uuid}
    {channel_id : Option Uuid} {status : DeliveryStatus} {attempt_count : Int}
    {last_error : Option String} {sent_at : Option Timestamp} {channel : ResolvedNotifyChannel}
    (hok : (NotifyQuery.run choice t (.create_notification_delivery tenant_id event_id
      (some rule.id) channel_id status attempt_count last_error sent_at)).1 = .ok ())
    (hrecord : ∀ delivery : NotificationDelivery, delivery.channel_id = channel_id →
      delivery.status = status → delivery.last_error = last_error → channel.recorded_by delivery) :
    HasRecord (NotifyQuery.run choice t (.create_notification_delivery tenant_id event_id
      (some rule.id) channel_id status attempt_count last_error sent_at)).2 event_id rule
        channel := by
  unfold NotifyQuery.run DeliveryTables.create_notification_delivery at hok ⊢
  dsimp only at hok ⊢
  split at hok
  · rename_i htarget
    rw [if_pos htarget]
    exact ⟨_, List.mem_append_right _ (List.mem_singleton_self _), rfl, rfl, hrecord _ rfl rfl rfl⟩
  · cases hok

theorem delivery_recording {channel : ResolvedNotifyChannel} (plan : NotifyDeliveryPlan)
    (hdone : ∀ t : NotifyTables, (∃ delivery ∈ t.deliveries.notification_deliveries,
        delivery.event_id = task.event_id ∧ delivery.rule_id = some rule.id ∧
        delivery.channel_id = some plan.channel_id) →
      (∀ channel_type, plan.external_channel_type = some channel_type →
        ∃ delivery ∈ t.deliveries.notification_deliveries,
          delivery.unique_key = some (external_target task rule plan.channel_id channel_type).key ∧
          (delivery.Final ∨ (task.attempt : Int) ≤ delivery.attempt_count)) →
      Handled t task rule channel)
    (hinternal : plan.create_in_app = true → plan.external_channel_type = none)
    (horder : ∀ s, P.holds s →
      InOrder s.tables ⟨task.event_id, some rule.id, some plan.channel_id⟩)
    (hmatched : ∀ channel_type, plan.external_channel_type = some channel_type → ∀ s, P.holds s →
      Matched s.tables (external_target task rule plan.channel_id channel_type).key)
    (hchannel : ∀ channel_type, plan.external_channel_type = some channel_type → ∀ s, P.holds s →
      ∃ found ∈ s.tables.deliveries.settings.notification_channels,
        found.id = plan.channel_id ∧ found.tenant_id = task.tenant_id)
    (hF : ∀ s, P.holds s → F.holds s) :
    Recording Inv C w F P (process_channel_delivery parsers task event rule now plan)
      fun _ => P.and (channel_done w task rule channel) := by
  unfold process_channel_delivery
  split
  · rename_i hin_app
    refine Recording.perform trivial hF (fun s hs record hsees => ?_)
      fun s a t hs hcarried => ⟨hs, hdone t.tables ?_ fun channel_type hexternal => ?_⟩
    · obtain rfl := Option.some.inj hsees
      exact horder s hs
    · obtain ⟨choice, hok, htables⟩ := carried_answer hcarried
      rw [htables]
      rcases in_app_cases (t := s.tables.deliveries) s.tables.events.address_events task.tenant_id
        task.event_id rule.id plan.channel_id task.attempt now
        (build_in_app_notification_content event).1 (build_in_app_notification_content event).2 with
        ⟨_, hrefused⟩ | ⟨_, _, hrows⟩
      · exact nomatch (congrArg Prod.fst hrefused).symm.trans hok
      · exact ⟨_, hrows.symm ▸ List.mem_append_right _ (List.mem_singleton_self _), rfl, rfl, rfl⟩
    · exact nomatch (hinternal hin_app).symm.trans hexternal
  · split
    · rename_i channel_type hexternal
      refine external_recording channel_type (fun t hbegun => hdone t ?_ ?_) horder
        (hmatched channel_type hexternal) (hchannel channel_type hexternal) hF
      · obtain ⟨delivery, hmem, hkey, _⟩ := hbegun
        exact ⟨delivery, hmem, key_columns hkey⟩
      · intro other hother
        obtain rfl := Option.some.inj (hexternal.symm.trans hother)
        exact hbegun
    · rename_i hnone
      refine Recording.perform trivial hF (fun s hs record hsees => ?_)
        fun s a t hs hcarried => ⟨hs, hdone t.tables ?_ fun channel_type hexternal => ?_⟩
      · obtain rfl := Option.some.inj hsees
        exact horder s hs
      · obtain ⟨choice, hok, htables⟩ := carried_answer hcarried
        rw [htables]
        have hinactive : ∀ delivery : NotificationDelivery,
            delivery.channel_id = some plan.channel_id → delivery.status = plan.status →
              delivery.last_error = plan.last_error →
                (ResolvedNotifyChannel.Inactive plan.channel_id).recorded_by delivery :=
          fun _ hid _ _ => hid
        exact created_recorded hok hinactive
      · exact nomatch hnone.symm.trans hexternal

omit [DecidableEq W] in
theorem plan_external (channel : NotificationChannel) (channel_type : ExternalChannelType) :
    (build_delivery_plan channel).external_channel_type = some channel_type ↔
      notify_channel_decision channel.channel_type = .External channel_type := by
  unfold build_delivery_plan
  split
  · rename_i hdecision
    simp [hdecision]
  · rename_i other hdecision
    simp [hdecision]
  · rename_i hdecision
    simp [hdecision]

theorem channel_recording (channel : ResolvedNotifyChannel)
    (horder : ∀ s, P.holds s →
      InOrder s.tables ⟨task.event_id, some rule.id, channel.stored_channel_id⟩)
    (hchannel : ∀ found, channel = .Active found → ∀ s, P.holds s →
      found ∈ s.tables.deliveries.settings.notification_channels ∧
        found.tenant_id = task.tenant_id)
    (hmatched : ∀ found, channel = .Active found → ∀ channel_type,
      notify_channel_decision found.channel_type = .External channel_type → ∀ s, P.holds s →
        Matched s.tables (external_target task rule found.id channel_type).key)
    (hF : ∀ s, P.holds s → F.holds s) :
    Recording Inv C w F P (process_resolved_channel parsers task event rule now channel)
      fun _ => P.and (channel_done w task rule channel) := by
  cases channel with
  | Active found =>
    have hid := plan_channel_id found
    refine delivery_recording (build_delivery_plan found) (fun t hrecord hbegun => ?_)
      (fun hin_app => ?_) ?_ (fun channel_type hexternal => ?_) (fun channel_type _ s hs => ?_) hF
    · rw [hid] at hrecord hbegun
      refine ⟨hrecord, fun active hactive channel_type hdecision => ?_⟩
      obtain rfl := ResolvedNotifyChannel.Active.inj hactive
      exact hbegun channel_type ((plan_external found channel_type).mpr hdecision)
    · unfold build_delivery_plan at hin_app ⊢
      split at hin_app <;> first | rfl | exact nomatch hin_app
    · rw [hid]
      exact horder
    · rw [hid]
      exact hmatched found rfl channel_type ((plan_external found channel_type).mp hexternal)
    · obtain ⟨hmem, htenant⟩ := hchannel found rfl s hs
      exact ⟨found, hmem, hid.symm, htenant⟩
  | Inactive channel_id =>
    refine @delivery_recording W _ Inv w C F P parsers task event rule now _
      (build_unavailable_channel_delivery_plan channel_id) (fun t hrecord _ => ?_)
      (fun hin_app => nomatch hin_app) horder (fun channel_type hexternal => ?_)
      (fun channel_type hexternal => ?_) hF
    · exact ⟨hrecord, fun active hactive => nomatch hactive⟩
    · exact nomatch hexternal
    · exact nomatch hexternal
  | Missing channel_id =>
    refine Recording.perform trivial hF (fun s hs record hsees => ?_)
      fun s a t hs hcarried => ⟨hs, ?_, fun active hactive => nomatch hactive⟩
    · obtain rfl := Option.some.inj hsees
      exact horder s hs
    · obtain ⟨choice, hok, htables⟩ := carried_answer hcarried
      rw [htables]
      exact created_recorded hok fun delivery hid hstatus herror => ⟨hid, .inr hstatus, herror⟩

/-! ### One item -/

/-- What is known when these rules of the event are done. -/
def walking (w : W) (items : List NotificationOutboxItem) (task : NotifyEventTask)
    (event : AddressEvent) (rules pre : List NotificationRule) : Assn (Lasts w) fun _ => True :=
  (((Assn.every items (row_known w)).and (event_known w event)).and
    (rules_known w event rules)).and (Assn.every pre (rule_done w task))

/-- What is known when these channels of the next rule are done too. -/
def walking_rule (w : W) (items : List NotificationOutboxItem) (task : NotifyEventTask)
    (event : AddressEvent) (rules pre : List NotificationRule) (rule : NotificationRule)
    (channels done : List ResolvedNotifyChannel) : Assn (Lasts w) fun _ => True :=
  ((walking w items task event rules pre).and (channels_known w task.tenant_id rule channels)).and
    (Assn.every done (channel_done w task rule))

section Walk
variable {items : List NotificationOutboxItem} {rules pre post : List NotificationRule}
  {channels done todo : List ResolvedNotifyChannel} {channel : ResolvedNotifyChannel}

theorem resolve_step (hrules : rules = pre ++ rule :: post) :
    Recording Inv C w (Assn.every items (row_known w)) (walking w items task event rules pre)
      (resolve_rule_channels task.tenant_id rule)
      fun channels => walking_rule w items task event rules pre rule channels [] := by
  have hresolve := @resolve_recording W _ Inv w C (Assn.every items (row_known w))
    (walking w items task event rules pre) rule (fun s hs => ?_) (fun s hs => hs.1.1.1)
    task.tenant_id
  · exact hresolve.consequence (fun _ h => h)
      (fun channels s hs => ⟨hs, fun _ hdone => absurd hdone List.not_mem_nil⟩) fun _ _ h => h
  · have hmatching : matching_rules s.tables.deliveries.settings event = rules := hs.1.2
    refine @mem_matching _ event rule ?_
    rw [hmatching, hrules]
    exact List.mem_append_right _ (List.mem_cons_self ..)

theorem channel_step (hevent : task.event_id = event.id) (htenant : task.tenant_id = event.tenant_id)
    (hrules : rules = pre ++ rule :: post) (hchannels : channels = done ++ channel :: todo) :
    Recording Inv C w (Assn.every items (row_known w))
      (walking_rule w items task event rules pre rule channels done)
      (process_resolved_channel parsers task event rule now channel)
      fun _ => walking_rule w items task event rules pre rule channels (done ++ [channel]) := by
  refine (@channel_recording W _ Inv w C _
    (walking_rule w items task event rules pre rule channels done) parsers task event rule now
    channel (fun s hs => ?_) (fun found hactive s hs => ?_)
    (fun found hactive channel_type hdecision s hs => ?_) fun s hs =>
      hs.1.1.1.1.1).consequence (fun _ h => h) (fun _ s hs => ?_) fun _ _ h => h
  · obtain ⟨⟨⟨⟨⟨_, hknown⟩, hmatching⟩, hpre⟩, _, _, hresolved⟩, hdone⟩ := hs
    refine ⟨event, hknown, hevent.symm, pre, rule, post, hmatching.trans hrules, rfl,
      fun earlier hearlier => (hpre earlier hearlier).2.recorded hevent htenant, done, channel,
      todo, ?_, rfl, fun earlier hearlier => hevent ▸ (hdone earlier hearlier).recorded⟩
    rw [← htenant]
    exact hresolved.trans hchannels
  · obtain ⟨⟨_, _, _, hresolved⟩, _⟩ := hs
    refine @active_resolved_mem _ _ rule found ?_
    rw [hresolved, hchannels, ← hactive]
    exact List.mem_append_right _ (List.mem_cons_self ..)
  · obtain ⟨⟨⟨⟨⟨_, hknown⟩, hmatching⟩, _⟩, _, _, hresolved⟩, _⟩ := hs
    have hsame : matching_rules s.tables.deliveries.settings event = rules := hmatching
    refine ⟨event, hknown, rule, ?_, found, channel_type, ?_, hdecision, ?_⟩
    · rw [hsame, hrules]
      exact List.mem_append_right _ (List.mem_cons_self ..)
    · rw [← htenant, hresolved, hchannels, ← hactive]
      exact List.mem_append_right _ (List.mem_cons_self ..)
    · rw [← hevent, ← htenant]
      rfl
  · obtain ⟨⟨hbefore, hdone⟩, hchannel⟩ := hs
    refine ⟨hbefore, fun other hother => ?_⟩
    rcases List.mem_append.mp hother with hold | hnew
    · exact hdone other hold
    · obtain rfl := List.mem_singleton.mp hnew
      exact hchannel

omit [DecidableEq W] in
theorem rule_walked {s : Notifiers W}
    (hs : (walking_rule w items task event rules pre rule channels channels).holds s) :
    (walking w items task event rules (pre ++ [rule])).holds s := by
  obtain ⟨⟨⟨hbefore, hpre⟩, hrule, hsome, hresolved⟩, hdone⟩ := hs
  refine ⟨hbefore, fun other hother => ?_⟩
  rcases List.mem_append.mp hother with hold | hnew
  · exact hpre other hold
  · obtain rfl := List.mem_singleton.mp hnew
    exact ⟨hrule, hresolved ▸ hsome, hresolved ▸ hdone⟩

theorem rules_recording (hevent : task.event_id = event.id)
    (htenant : task.tenant_id = event.tenant_id) :
    Recording Inv C w (Assn.every items (row_known w)) (walking w items task event rules [])
      (Prog.forEach (process_rule parsers task event now) rules)
      fun _ => walking w items task event rules rules :=
  rules_walk (Lasts.refl w) (fun _ _ _ hrules => resolve_step hrules)
    (fun _ _ _ hrules _ _ _ _ hchannels => channel_step hevent htenant hrules hchannels)
    fun _ _ _ _ hs => rule_walked hs

end Walk

/-- The event of an item. -/
theorem event_read {item : NotificationOutboxItem} {items : List NotificationOutboxItem} :
    Recording Inv C w (Assn.every items (row_known w)) (Assn.every items (row_known w))
      (query (.get_address_event item.event_id item.tenant_id))
      fun event => ((Assn.every items (row_known w)).and (event_known w event)).given
        (event.id = item.event_id ∧ event.tenant_id = item.tenant_id) := by
  refine @Recording.perform W _ Inv w C _ _ (.db (.get_address_event item.event_id item.tenant_id)) _
    trivial (fun s hs => hs) (fun s _ => ?_) fun s event t hs hcarried => ?_
  · exact NotifyStatement.Neutral.in_order ⟨trivial, rfl, nofun⟩
  obtain ⟨choice, hok, htables⟩ := carried_answer hcarried
  have hanswer : required (s.tables.events.address_events.find? fun event =>
      event.id == item.event_id && event.tenant_id == item.tenant_id)
        (.NotFound "address event") = .ok event := hok
  generalize hfind : (s.tables.events.address_events.find? fun event =>
      event.id == item.event_id && event.tenant_id == item.tenant_id) = found at hanswer
  cases found with
  | none => exact nomatch hanswer
  | some found =>
    obtain rfl := Except.ok.inj hanswer
    have hsame := List.find?_some hfind
    rw [Bool.and_eq_true, beq_iff_eq, beq_iff_eq] at hsame
    have htables' : t.tables = s.tables := htables
    have hnow : found ∈ t.tables.events.address_events :=
      htables' ▸ List.mem_of_find?_eq_some hfind
    exact ⟨hsame, hs, hnow⟩

/-- The rules of the tenant. -/
theorem rules_read {items : List NotificationOutboxItem} :
    Recording Inv C w (Assn.every items (row_known w))
      ((Assn.every items (row_known w)).and (event_known w event))
      (query (.list_enabled_notification_rules event.tenant_id))
      fun rules => walking w items task event
        (rules.filter (notification_rule_matches_event · event)) [] := by
  refine @Recording.perform W _ Inv w C _ _
    (.db (.list_enabled_notification_rules event.tenant_id)) _ trivial (fun s hs => hs.1)
    (fun s _ => ?_) fun s rules t hs hcarried => ?_
  · exact NotifyStatement.Neutral.in_order ⟨trivial, rfl, nofun⟩
  obtain ⟨choice, hok, htables⟩ := carried_answer hcarried
  have hmatching : matching_rules t.tables.deliveries.settings event =
      rules.filter (notification_rule_matches_event · event) := by
    rw [htables]
    exact congrArg (List.filter (notification_rule_matches_event · event)) (Except.ok.inj hok)
  exact ⟨⟨hs, hmatching⟩, fun _ hpre => absurd hpre List.not_mem_nil⟩

omit [DecidableEq W] in
theorem item_walked {item : NotificationOutboxItem} {items : List NotificationOutboxItem}
    {rules : List NotificationRule} {s : Notifiers W}
    (hid : event.id = item.event_id) (htenant : event.tenant_id = item.tenant_id)
    (hs : (walking w items (notify_task_from_outbox_item item) event rules rules).holds s) :
    ((Assn.every items (row_known w)).and (item_done w item)).holds s := by
  obtain ⟨⟨⟨hrows, hknown⟩, hrules⟩, hdone⟩ := hs
  refine ⟨hrows, event, hknown, hid, htenant, fun rule hrule => ?_⟩
  have hsame : matching_rules s.tables.deliveries.settings event = rules := hrules
  exact (hdone rule (hsame ▸ hrule)).2

theorem item_recording {item : NotificationOutboxItem} {items : List NotificationOutboxItem} :
    Recording Inv C w (Assn.every items (row_known w)) (Assn.every items (row_known w))
      (process_notification_outbox_item parsers item now)
      fun _ => (Assn.every items (row_known w)).and (item_done w item) := by
  refine .bind (Lasts.refl w) event_read fun event => .from_given fun hevent => ?_
  obtain ⟨hid, htenant⟩ := hevent
  have hread := @rules_read W _ Inv w C (notify_task_from_outbox_item item) event items
  rw [htenant] at hread
  refine .bind (Lasts.refl w) hread fun rules => ?_
  refine .bind (Lasts.refl w) (rules_recording hid.symm htenant.symm) fun _ => .done fun s hs => ?_
  exact item_walked hid htenant hs

end Parts

end CoinListener.Notifier
