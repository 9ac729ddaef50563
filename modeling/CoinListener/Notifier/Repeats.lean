import CoinListener.Foundation.Given
import CoinListener.Notifier.Ownership

/-! What is done to a channel once an attempt has had its last word on it: an in-app notification was
created, or a send failed for good. -/
namespace CoinListener.Notifier
open Foundation Storage Prog

variable {W : Type} {K : DeliveryAct → Prop}

/-! ### Acts -/

/-- The channel that a statement does something to. -/
def NotifyStatement.acts_on : NotifyStatement → Option DeliveryPair
  | .db (.create_sent_in_app_delivery _ event_id rule_id channel_id ..) =>
    some ⟨event_id, rule_id, channel_id⟩
  | .send_telegram pair .. => some pair
  | .send_webhook pair .. => some pair
  | _ => none

/-- Nothing of this kind has been done for the event. -/
def Untouched (K : DeliveryAct → Prop) (s : Notifiers W) (event_id : Uuid) : Prop :=
  ∀ entry ∈ s.log, K entry.act → entry.pair.event_id ≠ event_id

/-- A claim takes no row on which an attempt is still under way, and none for whose event something of
this kind has been done. -/
def ClaimsUntouched (K : DeliveryAct → Prop) (w : W) (s : Notifiers W) (choice : ClaimChoice) :
    NotifyQuery → Prop
  | .claim_due_notification_outbox now worker_id limit =>
    Unshared w s choice (.claim_due_notification_outbox now worker_id limit) ∧
      ∀ row ∈ s.tables.events.due now limit choice.skipped, Untouched K s row.event_id
  | _ => True

/-- Once something of this kind has been done to a channel, nothing is done to it any more. -/
def Concluded (K : DeliveryAct → Prop) (log : List DeliveryEntry) : Prop :=
  log.Pairwise fun a b => K a.act → b.pair ≠ a.pair

structure ActsOnce (K : DeliveryAct → Prop) (s : Notifiers W) : Prop where
  exclusive : Exclusive s
  concluded : Concluded K s.log

/-- A worker acts for the rows it has claimed, on channels that are not concluded. -/
def acts_open (K : DeliveryAct → Prop) (w : W) (s : Notifiers W) (op : NotifyStatement) : Prop :=
  ∀ pair ∈ op.acts_on, (∃ item ∈ s.live w, item.event_id = pair.event_id) ∧
    ∀ entry ∈ s.log, K entry.act → entry.pair ≠ pair

/-- What a worker has claimed, and the channels that may be concluded for the events of these rows. -/
def awaiting (K : DeliveryAct → Prop) (w : W)
    (i : List NotificationOutboxItem × (DeliveryPair → Prop)) (s : Notifiers W) : Prop :=
  s.live w = i.1 ∧ ∀ item ∈ i.1, ∀ entry ∈ s.log, K entry.act →
    entry.pair.event_id = item.event_id → i.2 entry.pair

def DeliveryAct.is_permanent_failure : DeliveryAct → Bool
  | .send (.PermanentFailure _) => true
  | _ => false

section Steps
variable [DecidableEq W] {s t : Notifiers W} {v w : W} {op : NotifyStatement}
  {r : AppResult op.Answer} {C : W → Notifiers W → ClaimChoice → NotifyQuery → Prop}
  {items : List NotificationOutboxItem} {D D' : DeliveryPair → Prop}

/-- A statement adds at most one entry, for the channel it acts on. -/
theorem carried_log (h : NotifyCarried C w s op r t) :
    t.log = s.log ∨ ∃ pair ∈ op.acts_on, ∃ attempt_count act,
      t.log = s.log ++ [⟨pair, attempt_count, act⟩] := by
  cases h with
  | @db q r u choice hC hfate =>
    rw [learn_log]
    rcases hfate.state with rfl | rfl
    · exact .inl rfl
    cases q with
    | create_sent_in_app_delivery =>
      simp only [Notifiers.query, created_in_app]
      split
      · exact .inr ⟨_, rfl, _, _, rfl⟩
      · exact .inl (List.append_nil _)
    | _ => exact .inl (List.append_nil _)
  | env_var => exact .inl rfl
  | webhook_refused => exact .inl rfl
  | send_telegram => exact .inr ⟨_, rfl, _, _, rfl⟩
  | send_webhook => exact .inr ⟨_, rfl, _, _, rfl⟩

theorem mem_carried_log (h : NotifyCarried C w s op r t) {entry : DeliveryEntry}
    (hentry : entry ∈ t.log) : entry ∈ s.log ∨ entry.pair ∈ op.acts_on := by
  rcases carried_log h with hsame | ⟨pair, hpair, attempt_count, act, hlog⟩
  · exact .inl (hsame ▸ hentry)
  · rw [hlog] at hentry
    rcases List.mem_append.mp hentry with hold | hnew
    · exact .inl hold
    · obtain rfl := List.mem_singleton.mp hnew
      exact .inr hpair

theorem Concluded.statement (h : Concluded K s.log) (hA : acts_open K w s op)
    (hs : NotifyCarried C w s op r t) : Concluded K t.log := by
  rcases carried_log hs with hsame | ⟨pair, hpair, attempt_count, act, hlog⟩
  · rwa [hsame]
  · rw [hlog]
    refine List.pairwise_append.mpr ⟨h, List.pairwise_singleton .., fun a ha b hb hK => ?_⟩
    obtain rfl := List.mem_singleton.mp hb
    exact ((hA pair hpair).2 a ha hK).symm

omit [DecidableEq W] in
/-- Two claims of one event are one. -/
theorem Exclusive.same_event (h : Exclusive s) {a b : NotificationOutboxItem} (ha : a ∈ s.live v)
    (hb : b ∈ s.live w) (hevent : a.event_id = b.event_id) : v = w ∧ a.id = b.id := by
  obtain ⟨x, hx, hax⟩ := h.row v a ha
  obtain ⟨y, hy, hby⟩ := h.row w b hb
  have hrows : x = y := EventTables.same_event_row hx hy
    (hax.event_id.trans (hevent.trans hby.event_id.symm))
  have hid : a.id = b.id := by rw [← hax.id, hrows, hby.id]
  by_cases hvw : v = w
  · exact ⟨hvw, hid⟩
  · exact absurd hid (h.apart v w hvw a ha b hb)

/-- Within an attempt, the channels that may be concluded are those acted on. -/
theorem awaiting_step (h : awaiting K w (items, D) s) (hop : op.Attempt)
    (hs : NotifyCarried C w s op r t) (hacts : ∀ pair ∈ op.acts_on, D' pair)
    (hD : ∀ pair, D pair → D' pair) : awaiting K w (items, D') t := by
  refine ⟨(congrFun (carried_live_of_attempt hop hs) w).trans h.1, ?_⟩
  intro item hitem entry hentry hK hevent
  rcases mem_carried_log hs hentry with hold | hnew
  · exact hD _ (h.2 item hitem entry hold hK hevent)
  · exact hacts _ hnew

omit [DecidableEq W] in
theorem awaiting_mono (h : awaiting K w (items, D) s) (hD : ∀ pair, D pair → D' pair) :
    awaiting K w (items, D') s :=
  ⟨h.1, fun item hitem entry hentry hK hevent => hD _ (h.2 item hitem entry hentry hK hevent)⟩

/-- What others act on is for other events. -/
theorem awaiting_others (h : ActsOnce K s) (hA : acts_open K w s op)
    (hs : NotifyCarried C w s op r t) (hv : v ≠ w) : Keeps (awaiting K v) s t := by
  rintro ⟨items, D⟩ ⟨hlive, hD⟩
  refine ⟨(carried_live_of_ne hs hv).trans hlive, ?_⟩
  intro item hitem entry hentry hK hevent
  rcases mem_carried_log hs hentry with hold | hnew
  · exact hD item hitem entry hold hK hevent
  · obtain ⟨other, hother, hsame⟩ := (hA _ hnew).1
    have hown : item ∈ s.live v := hlive ▸ hitem
    exact absurd (h.exclusive.same_event hown hother (hevent.symm.trans hsame.symm)).1 hv

end Steps

/-! ### One channel -/

/-- Statements that act on no channel. -/
def NotifyStatement.Inert (op : NotifyStatement) : Prop :=
  op.Attempt ∧ op.acts_on = none

theorem NotifyStatement.Quiet.inert {op : NotifyStatement} (h : op.Quiet) : op.Inert := by
  refine ⟨h.attempt, ?_⟩
  cases op with
  | db q => cases q <;> first | rfl | exact h.elim
  | env_var => rfl
  | send_telegram => exact h.elim
  | send_webhook => exact h.elim

/-- A part of an attempt, from what may be concluded before it to what may be concluded after it. -/
abbrev Acting [DecidableEq W] (K : DeliveryAct → Prop) (w : W) {α : Type}
    (i : List NotificationOutboxItem × (DeliveryPair → Prop)) (p : Notify α)
    (j : List NotificationOutboxItem × (DeliveryPair → Prop)) : Prop :=
  Triple (acts_open K w) (Within (ActsOnce K) (NotifyCarried (ClaimsUntouched K) w))
    (Assn.of (awaiting K w) i) p (fun _ => .of (awaiting K w) j) fun _ => .of (awaiting K w) j

section Channel
variable [DecidableEq W] {w : W} {α : Type} {p : Notify α} {item : NotificationOutboxItem}
  {rest items : List NotificationOutboxItem} {D : DeliveryPair → Prop} {pair : DeliveryPair}

theorem awaiting_inert {s t : Notifiers W} {op : NotifyStatement} {r : AppResult op.Answer}
    {C : W → Notifiers W → ClaimChoice → NotifyQuery → Prop} (h : awaiting K w (items, D) s)
    (hs : NotifyCarried C w s op r t) (hop : op.Inert) : awaiting K w (items, D) t :=
  awaiting_step h hop.1 hs (fun _ hpair => nomatch hop.2.symm.trans hpair) fun _ h => h

theorem Acting.inert (hp : p.Only NotifyStatement.Inert) : Acting K w (items, D) p (items, D) := by
  refine .of_only hp (fun op hop s _ pair hpair => ?_) fun op hop s hs r t ht => ?_
  · exact nomatch hop.2.symm.trans hpair
  · exact awaiting_inert hs ht.2.1 hop

/-- What may be concluded once this channel may be. -/
abbrev with_pair (D : DeliveryPair → Prop) (pair : DeliveryPair) : DeliveryPair → Prop :=
  fun other => D other ∨ other = pair

theorem Acting.weaken {D' : DeliveryPair → Prop} (hp : Acting K w (items, D) p (items, D))
    (hD : ∀ pair, D pair → D' pair) : Acting K w (items, D) p (items, D') :=
  hp.consequence (fun _ h => h) (fun _ _ h => awaiting_mono h hD) fun _ _ h => awaiting_mono h hD

/-- The one statement that acts on the channel. -/
theorem Acting.act {op : NotifyStatement} (hop : op.Attempt) (hacts : op.acts_on = some pair)
    (hevent : item.event_id = pair.event_id) (hopen : ¬ D pair) :
    Acting K w (item :: rest, D) (Prog.perform op) (item :: rest, with_pair D pair) := by
  have hself : ∀ other ∈ op.acts_on, other = pair := fun other hother =>
    Option.some.inj (hother.symm.trans hacts)
  refine .perform (fun s hs other hother => ?_) fun s hs r t ht => ?_
  · obtain rfl := hself other hother
    refine ⟨⟨item, hs.1 ▸ List.mem_cons_self .., hevent⟩, fun entry hentry hK hsame => hopen ?_⟩
    rw [← hsame]
    exact hs.2 item (List.mem_cons_self ..) entry hentry hK (by rw [hsame, hevent])
  · have hnext : awaiting K w (item :: rest, with_pair D pair) t := awaiting_step hs hop ht.2.1
      (fun other hother => .inr (hself other hother)) fun _ h => .inl h
    cases r with
    | ok _ => exact hnext
    | error _ => exact hnext

variable {parsers : Parsers} {task : NotifyEventTask} {event : AddressEvent}
  {rule : NotificationRule} {now : Timestamp}

theorem telegram_acts (channel : NotificationChannel) (hevent : item.event_id = pair.event_id)
    (hopen : ¬ D pair) :
    Acting K w (item :: rest, D) (telegram_outcome parsers task event pair channel)
      (item :: rest, with_pair D pair) := by
  unfold telegram_outcome
  split
  · exact (Acting.inert .done).weaken fun _ => .inl
  · refine .bind Keeps.refl (Q := fun _ => .of (awaiting K w) (item :: rest, D)) ?_
      fun credentials => ?_
    · exact (Acting.inert ((credentials_quiet _).mono fun _ h => h.inert)).consequence
        (fun _ h => h) (fun _ _ h => h) fun _ _ h => awaiting_mono h fun _ => .inl
    · cases credentials with
      | error message => exact (Acting.inert .done).weaken fun _ => .inl
      | ok credentials =>
        exact .bind Keeps.refl (Acting.act trivial rfl hevent hopen) fun _ => .done fun _ h => h

theorem webhook_acts (key : String) (channel : NotificationChannel)
    (hevent : item.event_id = pair.event_id) (hopen : ¬ D pair) :
    Acting K w (item :: rest, D) (webhook_outcome parsers task event pair key channel)
      (item :: rest, with_pair D pair) := by
  unfold webhook_outcome
  split
  · exact (Acting.inert .done).weaken fun _ => .inl
  · refine .bind Keeps.refl (Q := fun _ => .of (awaiting K w) (item :: rest, D)) ?_ fun secret => ?_
    · exact (Acting.inert ((secret_quiet _).mono fun _ h => h.inert)).consequence
        (fun _ h => h) (fun _ _ h => h) fun _ _ h => awaiting_mono h fun _ => .inl
    · cases secret with
      | error message => exact (Acting.inert .done).weaken fun _ => .inl
      | ok secret => exact Acting.act trivial rfl hevent hopen

/-- The part before the act leaves the channel as it is. -/
theorem Acting.before {β : Type} {f : α → Notify β} (hp : p.Only NotifyStatement.Inert)
    (hf : ∀ a, Acting K w (items, D) (f a) (items, with_pair D pair)) :
    Acting K w (items, D) (p.bind f) (items, with_pair D pair) := by
  refine .bind Keeps.refl (Q := fun _ => .of (awaiting K w) (items, D)) ?_ hf
  exact (Acting.inert hp).consequence (fun _ h => h) (fun _ _ h => h)
    fun _ _ h => awaiting_mono h fun _ => .inl

theorem external_acts (channel_id : Uuid) (channel_type : ExternalChannelType)
    (hevent : item.event_id = task.event_id) (hopen : ¬ D ⟨task.event_id, rule.id, channel_id⟩) :
    Acting K w (item :: rest, D)
      (process_external_channel_delivery parsers task event rule now channel_id channel_type)
      (item :: rest, with_pair D ⟨task.event_id, rule.id, channel_id⟩) := by
  refine Acting.before (.perform ⟨trivial, rfl⟩) fun start => ?_
  cases start with
  | AlreadyComplete delivery_id => exact (Acting.inert .done).weaken fun _ => .inl
  | ReadyToSend delivery_id =>
    refine Acting.before (.perform ⟨trivial, rfl⟩) fun channels => ?_
    refine Acting.before .lift fun channel => ?_
    refine .bind Keeps.refl (Q := fun _ => .of (awaiting K w) (item :: rest,
      with_pair D ⟨task.event_id, rule.id, channel_id⟩)) ?_ fun sent => ?_
    · cases channel_type with
      | Telegram => exact telegram_acts channel hevent hopen
      | Webhook => exact webhook_acts _ channel hevent hopen
    · cases sent with
      | error message => exact Acting.inert (.perform ⟨trivial, rfl⟩)
      | ok outcome =>
        exact Acting.inert (record_only delivery_id outcome (fun _ _ _ => ⟨trivial, rfl⟩)
          fun _ _ _ _ => ⟨trivial, rfl⟩)

theorem delivery_acts (plan : NotifyDeliveryPlan) (hevent : item.event_id = task.event_id)
    (hopen : ¬ D ⟨task.event_id, rule.id, plan.channel_id⟩) :
    Acting K w (item :: rest, D) (process_channel_delivery parsers task event rule now plan)
      (item :: rest, with_pair D ⟨task.event_id, rule.id, plan.channel_id⟩) := by
  unfold process_channel_delivery
  split
  · exact Acting.act trivial rfl hevent hopen
  · split
    · exact external_acts _ _ hevent hopen
    · refine (Acting.inert (Only.perform ?_)).weaken fun _ => .inl
      exact ⟨trivial, rfl⟩

/-- The channel of a rule, also where there is none. -/
def ResolvedNotifyChannel.channel_id : ResolvedNotifyChannel → Uuid
  | .Active channel => channel.id
  | .Inactive channel_id => channel_id
  | .Missing channel_id => channel_id

theorem plan_channel_id (channel : NotificationChannel) :
    (build_delivery_plan channel).channel_id = channel.id := by
  unfold build_delivery_plan
  split <;> rfl

theorem channel_acts (channel : ResolvedNotifyChannel) (hevent : item.event_id = task.event_id)
    (hopen : ¬ D ⟨task.event_id, rule.id, channel.channel_id⟩) :
    Acting K w (item :: rest, D) (process_resolved_channel parsers task event rule now channel)
      (item :: rest, with_pair D ⟨task.event_id, rule.id, channel.channel_id⟩) := by
  cases channel with
  | Active channel =>
    have hplan := @delivery_acts W K _ w item rest D parsers task event rule now
      (build_delivery_plan channel) hevent
    rw [plan_channel_id] at hplan
    exact hplan hopen
  | Inactive channel_id =>
    exact @delivery_acts W K _ w item rest D parsers task event rule now
      (build_unavailable_channel_delivery_plan channel_id) hevent hopen
  | Missing channel_id =>
    refine (Acting.inert (Only.perform ?_)).weaken fun _ => .inl
    exact ⟨trivial, rfl⟩

end Channel

/-! ### One item -/

/-- A rule has no channel twice. -/
theorem resolve_distinct (tenant_id : Uuid) (rule : NotificationRule) :
    (resolve_rule_channels tenant_id rule).Given (fun _ _ => True) NotifyStatement.Quiet
      fun channels => (channels.map ResolvedNotifyChannel.channel_id).Nodup := by
  unfold resolve_rule_channels
  split
  · refine .bind (P := fun _ => True) ?_ fun channel _ => .done (List.nodup_singleton _)
    refine .bind_only (.perform trivial) fun first => ?_
    cases first with
    | some channel => exact .done trivial
    | none =>
      refine .bind_only (.perform trivial) fun inserted => ?_
      cases inserted with
      | some channel => exact .done trivial
      | none => exact .bind_only (.perform trivial) fun _ => .lift fun _ _ => trivial
  · refine .bind_only (.perform trivial) fun existing => ?_
    refine .bind_only (.perform trivial) fun active => .done ?_
    have hids : (resolve_explicit_rule_channels rule.channel_ids existing active).map
        ResolvedNotifyChannel.channel_id = rule.channel_ids := by
      unfold resolve_explicit_rule_channels
      rw [List.map_map]
      conv => rhs; rw [← List.map_id rule.channel_ids]
      refine List.map_congr_left fun channel_id _ => ?_
      simp only [Function.comp_apply, id_eq]
      split
      · next channel hchannel =>
        have hfound : (channel.id == channel_id) = true :=
          List.find?_some (p := fun other : NotificationChannel => other.id == channel_id) hchannel
        exact beq_iff_eq.mp hfound
      · split <;> rfl
    rw [hids]
    exact rule.unique_channel_ids

section Item
variable [DecidableEq W] {w : W} {item : NotificationOutboxItem}
  {rest : List NotificationOutboxItem} {parsers : Parsers} {now : Timestamp}

/-- The channels of an event. -/
abbrev of_event (event_id : Uuid) : DeliveryPair → Prop :=
  fun pair => pair.event_id = event_id

/-- The channels of these rules. -/
abbrev of_rules (event_id : Uuid) (rules : List NotificationRule) : DeliveryPair → Prop :=
  fun pair => pair.event_id = event_id ∧ pair.rule_id ∈ rules.map (·.id)

/-- The channels of these rules, and these channels of the next one. -/
abbrev of_channels (event_id : Uuid) (rules : List NotificationRule) (rule : NotificationRule)
    (channels : List ResolvedNotifyChannel) : DeliveryPair → Prop :=
  fun pair => pair.event_id = event_id ∧ (pair.rule_id ∈ rules.map (·.id) ∨
    pair.rule_id = rule.id ∧ pair.channel_id ∈ channels.map ResolvedNotifyChannel.channel_id)

theorem rules_act {task : NotifyEventTask} {event : AddressEvent} {rules : List NotificationRule}
    (hevent : item.event_id = task.event_id) (hrules : (rules.map (·.id)).Nodup) :
    Triple (acts_open K w) (Within (ActsOnce K) (NotifyCarried (ClaimsUntouched K) w))
      (Assn.of (awaiting K w) (item :: rest, of_rules task.event_id []))
      (Prog.forEach (process_rule parsers task event now) rules)
      (fun _ => .of (awaiting K w) (item :: rest, of_rules task.event_id rules))
      fun _ => .of (awaiting K w) (item :: rest, of_event task.event_id) := by
  refine rules_walk Keeps.refl
    (J := fun pre => .of (awaiting K w) (item :: rest, of_rules task.event_id pre))
    (M := fun pre rule channels done => (Assn.of (awaiting K w) (item :: rest,
      of_channels task.event_id pre rule done)).given
        (channels.map ResolvedNotifyChannel.channel_id).Nodup) ?_ ?_ ?_
  · intro pre rule post _
    refine (Triple.of_given (resolve_distinct task.tenant_id rule)
      (fun op hop s _ pair hpair => ?_) fun op hop s hs r t ht => ?_).consequence (fun _ h => h)
        (fun channels s hs => ⟨hs.1, awaiting_mono hs.2 fun pair hpair => ⟨hpair.1, .inl hpair.2⟩⟩)
        fun _ _ h => awaiting_mono h fun pair hpair => hpair.1
    · exact nomatch hop.inert.2.symm.trans hpair
    · exact awaiting_inert hs ht.2.1 hop.inert
  · intro pre rule post hsplit channels done channel todo hchannels
    have hrule : rule.id ∉ pre.map (·.id) := by
      rw [hsplit, List.map_append, List.map_cons, List.nodup_append] at hrules
      exact fun hmem => hrules.2.2 _ hmem _ (List.mem_cons_self ..) rfl
    refine Triple.given fun hdistinct => ?_
    have hchannel : channel.channel_id ∉ done.map ResolvedNotifyChannel.channel_id := by
      rw [hchannels, List.map_append, List.map_cons, List.nodup_append] at hdistinct
      exact fun hmem => hdistinct.2.2 _ hmem _ (List.mem_cons_self ..) rfl
    have hopen : ¬ of_channels task.event_id pre rule done
        ⟨task.event_id, rule.id, channel.channel_id⟩ := by
      rintro ⟨_, hmem | ⟨_, hmem⟩⟩
      · exact hrule hmem
      · exact hchannel hmem
    refine (channel_acts channel hevent hopen).consequence (fun _ h => h)
      (fun _ _ h => awaiting_mono h ?_) fun _ _ h => awaiting_mono h ?_
    · rintro pair (⟨hpair, hmem | ⟨hsame, hmem⟩⟩ | rfl)
      · exact ⟨hpair, .inl hmem⟩
      · refine ⟨hpair, .inr ⟨hsame, ?_⟩⟩
        rw [List.map_append]
        exact List.mem_append_left _ hmem
      · refine ⟨rfl, .inr ⟨rfl, ?_⟩⟩
        rw [List.map_append]
        exact List.mem_append_right _ (List.mem_cons_self ..)
    · rintro pair (⟨hpair, _⟩ | rfl)
      · exact hpair
      · rfl
  · rintro pre rule channels s ⟨_, h⟩
    refine awaiting_mono h ?_
    rintro pair ⟨hpair, hmem | ⟨hsame, _⟩⟩
    · refine ⟨hpair, ?_⟩
      rw [List.map_append]
      exact List.mem_append_left _ hmem
    · refine ⟨hpair, ?_⟩
      rw [List.map_append, hsame]
      exact List.mem_append_right _ (List.mem_cons_self ..)

omit [DecidableEq W] in
theorem enabled_rules_distinct (settings : NotifySettings) (event : AddressEvent)
    (tenant_id : Uuid) : (((settings.list_enabled_notification_rules tenant_id).filter
      (notification_rule_matches_event · event)).map (·.id)).Nodup := by
  have hall : ((settings.notification_rules.filter fun rule =>
      rule.tenant_id == tenant_id && rule.enabled).map (·.id)).Nodup :=
    settings.unique_rule_id.sublist (List.filter_sublist.map _)
  have hsorted : ((settings.list_enabled_notification_rules tenant_id).map (·.id)).Nodup :=
    ((List.perm_insertionSort _ _).map _).nodup_iff.mpr hall
  exact hsorted.sublist (List.filter_sublist.map _)

/-- From an item whose event is untouched to one on whose channels something may have been done. -/
theorem item_acts : Triple (acts_open K w)
    (Within (ActsOnce K) (NotifyCarried (ClaimsUntouched K) w))
    (Assn.of (awaiting K w) (item :: rest, fun _ => False))
    (process_notification_outbox_item parsers item now)
    (fun _ => .of (awaiting K w) (item :: rest, of_event item.event_id))
    fun _ => .of (awaiting K w) (item :: rest, of_event item.event_id) := by
  let untouched : Assn (Keeps (awaiting K w)) fun _ => True :=
    .of (awaiting K w) (item :: rest, fun _ => False)
  refine .bind_perform (fun s _ pair hpair => nomatch hpair) fun s hs r t ht => ?_
  have hkept := awaiting_inert hs ht.2.1 ⟨trivial, rfl⟩
  cases r with
  | error e => exact awaiting_mono hkept fun _ h => h.elim
  | ok event =>
    refine ⟨untouched, hkept, .bind_perform (fun s _ pair hpair => nomatch hpair)
      fun s hs r t ht => ?_⟩
    have hkept := awaiting_inert hs ht.2.1 ⟨trivial, rfl⟩
    cases r with
    | error e => exact awaiting_mono hkept fun _ h => h.elim
    | ok rules =>
      refine ⟨untouched, hkept, ?_⟩
      obtain ⟨choice, u, _, hfate, _⟩ := carried_db ht.2.1
      obtain ⟨hanswer, _⟩ := hfate.answer
      obtain rfl := Except.ok.inj hanswer
      have hwalk := @rules_act W K _ w item rest parsers now (notify_task_from_outbox_item item) event
        _ rfl (enabled_rules_distinct s.tables.deliveries.settings event item.tenant_id)
      refine .bind Keeps.refl (hwalk.consequence (fun _ h => awaiting_mono h fun _ h => h.elim)
        (fun _ _ h => h) fun _ _ h => h) fun _ => .done fun _ h => ?_
      exact awaiting_mono h fun _ hpair => hpair.1

end Item

/-! ### Runs -/

section Run
variable [DecidableEq W] {s t : Notifiers W} {v w : W} {items : List NotificationOutboxItem}
  {setup : NotifierSetup W}

omit [DecidableEq W] in
theorem awaiting_nothing : awaiting K w ([], fun _ => False) s ↔ s.live w = [] :=
  ⟨fun h => h.1, fun h => ⟨h, fun _ hitem => absurd hitem List.not_mem_nil⟩⟩

/-- A claim takes rows whose events are untouched. -/
theorem awaiting_claim {now : Timestamp} {worker_id : String} {limit : Int}
    (h : NotifyCarried (ClaimsUntouched K) w s
      (.db (.claim_due_notification_outbox now worker_id limit)) (.ok items) t) :
    awaiting K w (items, fun _ => False) t := by
  obtain ⟨choice, u, hC, hfate, rfl⟩ := carried_db h
  have hlog : u.log = s.log := by
    rcases hfate.state with rfl | rfl
    · rfl
    · exact List.append_nil _
  refine ⟨learn_claim_live, fun item hitem entry hentry hK hevent => ?_⟩
  rw [learn_log, hlog] at hentry
  obtain ⟨row, hrow, rfl⟩ := List.mem_map.mp ((claim_answered hfate).2.subset hitem)
  exact hC.2 row hrow entry hentry hK hevent

theorem claim_error_live {now : Timestamp} {worker_id : String} {limit : Int} {error : AppError}
    {C : W → Notifiers W → ClaimChoice → NotifyQuery → Prop}
    (h : NotifyCarried C w s (.db (.claim_due_notification_outbox now worker_id limit))
      (.error error) t) : t.live w = s.live w := by
  obtain ⟨choice, u, _, hfate, rfl⟩ := carried_db h
  change u.live w = s.live w
  rcases hfate.state with rfl | rfl <;> rfl

/-- When an item is marked, the others of the batch are for other events. -/
theorem awaiting_mark {item : NotificationOutboxItem} {rest : List NotificationOutboxItem}
    {mark : OutboxMark} (hinv : ActsOnce K s)
    (hs : awaiting K w (item :: rest, of_event item.event_id) s)
    (h : NotifyCarried (ClaimsUntouched K) w s (.db (.mark_notification_outbox item.id mark))
      (.ok ()) t) : awaiting K w (rest, fun _ => False) t := by
  obtain ⟨choice, u, _, hfate, rfl⟩ := carried_db h
  have hlive : s.live w = item :: rest := hs.1
  have hu : u.live = s.live ∧ u.log = s.log := by
    rcases hfate.state with rfl | rfl
    · exact ⟨rfl, rfl⟩
    · exact ⟨rfl, List.append_nil _⟩
  refine ⟨learn_mark_live ((congrFun hu.1 w).trans hs.1) ?_,
    fun other hother entry hentry hK hevent => ?_⟩
  · rw [hu.1]
    exact hinv.exclusive.nodup w
  · rw [learn_log, hu.2] at hentry
    have hmem := List.mem_cons_of_mem item hother
    have hsame : entry.pair.event_id = item.event_id := hs.2 other hmem entry hentry hK hevent
    have hown : other ∈ s.live w := hlive ▸ hmem
    have hfirst : item ∈ s.live w := hlive ▸ List.mem_cons_self ..
    have hid := (hinv.exclusive.same_event hown hfirst (hevent.symm.trans hsame)).2
    have hnodup := hinv.exclusive.nodup w
    rw [hlive, List.map_cons, List.nodup_cons] at hnodup
    exact hnodup.1 (hid ▸ List.mem_map_of_mem hother)

theorem mark_error_live {id : Uuid} {mark : OutboxMark} {error : AppError}
    {C : W → Notifiers W → ClaimChoice → NotifyQuery → Prop}
    (h : NotifyCarried C w s (.db (.mark_notification_outbox id mark)) (.error error) t) :
    t.live w = [] := by
  obtain ⟨choice, u, _, _, rfl⟩ := carried_db h
  exact learn_mark_error_live

theorem batch_acts (now : Timestamp) :
    Triple (acts_open K w) (Within (ActsOnce K) (NotifyCarried (ClaimsUntouched K) w))
      (Assn.of (awaiting K w) ([], fun _ => False))
      (process_notification_outbox_batch setup.parsers (setup.worker_id w) setup.config now)
      (fun _ => .of (awaiting K w) ([], fun _ => False))
      fun _ => .of (awaiting K w) ([], fun _ => False) := by
  refine batch_walk Keeps.refl (J := fun items => .of (awaiting K w) (items, fun _ => False))
    ?_ ?_ fun items => ?_
  · refine .perform (fun _ _ pair hpair => nomatch hpair) fun s hs r t ht => ?_
    obtain ⟨choice, u, _, hfate, rfl⟩ := carried_db ht.2.1
    have hlive : u.live w = [] := by
      rcases hfate.state with rfl | rfl <;> exact hs.1
    cases r with
    | ok _ => exact awaiting_nothing.mpr hlive
    | error _ => exact awaiting_nothing.mpr hlive
  · refine .perform (fun _ _ pair hpair => nomatch hpair) fun s hs r t ht => ?_
    cases r with
    | ok items => exact awaiting_claim ht.2.1
    | error e => exact awaiting_nothing.mpr ((claim_error_live ht.2.1).trans hs.1)
  · refine items_walk Keeps.refl (J := fun items => .of (awaiting K w) (items, fun _ => False))
      (M := fun item rest _ => .of (awaiting K w) (item :: rest, of_event item.event_id))
      (fun item rest => item_acts) (fun item rest result => ?_) items
    refine .perform (fun _ _ pair hpair => nomatch hpair) fun s hs r t ht => ?_
    cases r with
    | ok _ => exact awaiting_mark ht.1 hs ht.2.1
    | error e => exact awaiting_nothing.mpr (mark_error_live ht.2.1)

theorem acts_once_rules (setup : NotifierSetup W) (E : NotifyEdit → Prop) :
    Crew.Rules (NotifyCarried (ClaimsUntouched K)) (NotifyOthers E) (NotifyLaunch setup)
      (ActsOnce (W := W) K) (acts_open K) (fun w => Keeps (awaiting K w)) fun _ _ _ => True where
  refl _ := Keeps.refl
  trans _ := Keeps.trans
  launch_inv := by
    intro w s p t h hl
    exact ⟨h.exclusive.launch hl, by cases hl <;> exact h.concluded⟩
  launch_safe := by
    intro w s p t h hl
    cases hl with
    | batch now =>
      refine ((batch_acts now).safe _ ?_).mono fun _ _ _ _ => trivial
      exact awaiting_nothing.mpr (Function.update_self ..)
    | stop => exact fun _ _ => ⟨trivial, trivial⟩
  launch_others := by
    rintro w v s p t _ hl hv ⟨items, D⟩ ⟨hlive, hD⟩
    refine ⟨(launch_live_of_ne hl hv).trans hlive, ?_⟩
    cases hl <;> exact hD
  statement_inv := by
    intro w s op r t h hA hs
    refine ⟨h.exclusive.statement (fun w s choice q hC => ?_) hs, h.concluded.statement hA hs⟩
    cases q with
    | claim_due_notification_outbox => exact hC.1
    | _ => trivial
  statement_others h hA hs hv := awaiting_others h hA hs hv
  others_inv := by
    intro s t h ho
    exact ⟨h.exclusive.others ho, by cases ho <;> exact h.concluded⟩
  others := by
    rintro w s t _ ho ⟨items, D⟩ ⟨hlive, hD⟩
    refine ⟨(congrFun (others_live ho) w).trans hlive, ?_⟩
    cases ho <;> exact hD

/-- As long as no claim takes a row on which an attempt is under way, or one for whose event something
of the kind has been done, nothing follows what concludes a channel. -/
theorem concluded_run {deliveries : DeliveryTables} {ps : W → Notify Nat}
    (hrun : Relation.ReflTransGen (NotifyStep setup (ClaimsUntouched K) fun _ => True)
      (notify_start deliveries) (s, ps)) : Concluded K s.log := by
  have hstart : Crew.Good (NotifyCarried (ClaimsUntouched K)) (ActsOnce K) (acts_open K)
      (fun w : W => Keeps (awaiting K w)) (fun _ _ _ => True)
      (notify_start (W := W) deliveries).1 (notify_start (W := W) deliveries).2 :=
    ⟨⟨.start deliveries, List.Pairwise.nil⟩, fun _ _ _ => ⟨trivial, trivial⟩⟩
  exact (hstart.run (acts_once_rules setup fun _ => True) hrun).inv.concluded

/-- As long as no claim takes a row on which an attempt is under way, or one for whose event there is an
in-app notification, no channel gets a second one. -/
theorem in_app_created_once {deliveries : DeliveryTables} {ps : W → Notify Nat}
    (hrun : Relation.ReflTransGen (NotifyStep setup (ClaimsUntouched (· = .in_app)) fun _ => True)
      (notify_start deliveries) (s, ps)) :
    ((s.log.filter (·.act = .in_app)).map (·.pair)).Nodup := by
  have hconcluded := concluded_run hrun
  refine List.pairwise_map.mpr ((hconcluded.filter _).imp_of_mem fun ha _ h hsame => ?_)
  exact h (of_decide_eq_true (List.mem_filter.mp ha).2) hsame.symm

/-- As long as no claim takes a row on which an attempt is under way, or one for whose event a send has
failed for good, nothing is sent to a channel after that. -/
theorem permanent_failure_last {deliveries : DeliveryTables} {ps : W → Notify Nat}
    (hrun : Relation.ReflTransGen
      (NotifyStep setup (ClaimsUntouched (·.is_permanent_failure = true)) fun _ => True)
      (notify_start deliveries) (s, ps)) :
    s.log.Pairwise fun a b => a.act.is_permanent_failure = true → b.pair ≠ a.pair :=
  concluded_run hrun

end Run

/-! ### Three channels -/

instance {W : Type} [Fintype W] (K : DeliveryAct → Prop) [DecidablePred K] (w : W)
    (s : Notifiers W) (choice : ClaimChoice) :
    (q : NotifyQuery) → Decidable (ClaimsUntouched K w s choice q)
  | .claim_due_notification_outbox now worker_id limit => inferInstanceAs (Decidable
      (Unshared w s choice (.claim_due_notification_outbox now worker_id limit) ∧
        ∀ row ∈ s.tables.events.due now limit choice.skipped, ∀ entry ∈ s.log, K entry.act →
          entry.pair.event_id ≠ row.event_id))
  | .release_stale_notification_outbox .. | .mark_notification_outbox .. | .get_address_event ..
  | .list_enabled_notification_rules .. | .list_channels_by_ids ..
  | .list_active_channels_by_ids .. | .first_in_app_channel .. | .insert_default_in_app_channel ..
  | .default_in_app_channel .. | .get_telegram_bot_secret .. | .get_telegram_proxy_url ..
  | .begin_external_notification_delivery .. | .mark_external_notification_delivery_sent ..
  | .mark_external_notification_delivery_failed .. | .create_notification_delivery ..
  | .create_sent_in_app_delivery .. => .isTrue trivial

def bell : NotificationChannel :=
  { id := 1, tenant_id := 3, channel_type := "in_app", name := "bell", config := .obj []
    status := "active", created_at := 0 }

def chat (id : Uuid) : NotificationChannel :=
  { id := id, tenant_id := 3, channel_type := "telegram", name := "chat"
    config := .obj [("bot_token_env", .str "BOT_TOKEN"), ("chat_id", .str "42")]
    status := "active", created_at := 0 }

/-- Every event of the tenant goes to the bell and to two chats. -/
def every_event : NotificationRule :=
  { id := 4, tenant_id := 3, chain_id := none, address_id := none, asset_id := none
    event_type := none, is_transfer := none, min_amount_raw := none, direction := none
    channel_ids := [1, 5, 6], enabled := true, created_at := 0
    unique_channel_ids := by decide }

def three_channels : NotifySettings where
  notification_rules := [every_event]
  notification_channels := [bell, chat 5, chat 6]
  telegram_bots := []
  telegram_proxy_url _ := none
  unique_rule_id := by decide
  unique_channel_id := by decide

def three_deliveries : DeliveryTables :=
  no_deliveries three_channels 10 ⟨by decide, by decide⟩

def rejected_metadata : ExternalSendMetadata :=
  ⟨some "chat not found", none, some 400, none⟩

/-- The first chat does not exist, and the second one can be reached or not. -/
def chat_outcome (reached : Bool) (pair : DeliveryPair) : ExternalSendOutcome :=
  if pair.channel_id = 5 then .PermanentFailure rejected_metadata
  else if reached then .Sent delivered_metadata
  else .TransientFailure ⟨some "connection closed", none, none, none⟩

def after_batch (reached : Bool) (now : Timestamp) (s : Notifiers Bool) : Notifiers Bool :=
  (Prog.eval (answered (chat_outcome reached) true) (batch_of two_notifiers true now)
    (s.set_live true [])).2

/-- The event comes in, and a notifier processes it. -/
theorem one_batch_run {C : Bool → Notifiers Bool → ClaimChoice → NotifyQuery → Prop}
    {E : NotifyEdit → Prop} (setup : NotifierSetup Bool) (outcome : DeliveryPair → ExternalSendOutcome)
    (ok : Notifiers Bool → NotifyQuery → Bool)
    (hok : ∀ s q, ok s q = true → C true s .plain q)
    (hp : Prog.along (answered outcome true) (respects ok) (batch_of setup true 0)
      ((one_event three_deliveries).set_live true []) = true) :
    ∃ qs, Relation.ReflTransGen (NotifyStep setup C E) (notify_start three_deliveries)
      ((Prog.eval (answered outcome true) (batch_of setup true 0)
        ((one_event three_deliveries).set_live true [])).2, qs) := by
  have hevent : NotifyStep setup C E (notify_start three_deliveries)
      (one_event three_deliveries, fun _ => .done 0) := .others (.event transfer_draft)
  obtain ⟨qs, hbatch⟩ := batch_run setup ok hok outcome 0 (one_event three_deliveries)
    (fun _ => .done 0) hp
  exact ⟨qs, .head hevent hbatch⟩

/-- Every statement of a single batch is allowed. -/
def untouched_so_far (K : DeliveryAct → Prop) [DecidablePred K] (s : Notifiers Bool)
    (q : NotifyQuery) : Bool :=
  decide (ClaimsUntouched K true s .plain q)

theorem two_batches_run (E : NotifyEdit → Prop) :
    ∃ qs, Relation.ReflTransGen (NotifyStep two_notifiers (fun _ _ _ _ => True) E)
      (notify_start three_deliveries)
      (after_batch false 1000 (after_batch false 0 (one_event three_deliveries)), qs) := by
  have hevent : NotifyStep two_notifiers (fun _ _ _ _ => True) E
      (notify_start three_deliveries) (one_event three_deliveries, fun _ => .done 0) :=
    .others (.event transfer_draft)
  obtain ⟨ps, hfirst⟩ := batch_run (w := true) (C := fun _ _ _ _ => True) two_notifiers
    (fun _ _ => true) (fun _ _ _ => trivial) (chat_outcome false) 0
    (one_event three_deliveries) (fun _ => .done 0) (by decide +kernel)
  obtain ⟨qs, hsecond⟩ := batch_run (w := true) (C := fun _ _ _ _ => True) two_notifiers
    (fun _ _ => true) (fun _ _ _ => trivial) (chat_outcome false) 1000
    (after_batch false 0 (one_event three_deliveries)) ps (by decide +kernel)
  exact ⟨qs, .head hevent (hfirst.trans hsecond)⟩

/-- One attempt rings the bell once. -/
theorem in_app_created_once_one_batch :
    (after_batch true 0 (one_event three_deliveries)).log.length = 3 ∧
    (((after_batch true 0 (one_event three_deliveries)).log.filter (·.act = .in_app)).map
      (·.pair)).Nodup := by
  obtain ⟨qs, hrun⟩ := one_batch_run two_notifiers (chat_outcome true)
    (untouched_so_far (· = .in_app)) (fun s q h => of_decide_eq_true h) (by decide +kernel)
  exact ⟨by decide +kernel, in_app_created_once hrun⟩

theorem permanent_failure_last_one_batch :
    (after_batch true 0 (one_event three_deliveries)).log.length = 3 ∧
    (after_batch true 0 (one_event three_deliveries)).log.Pairwise fun a b =>
      a.act.is_permanent_failure = true → b.pair ≠ a.pair := by
  obtain ⟨qs, hrun⟩ := one_batch_run two_notifiers (chat_outcome true)
    (untouched_so_far (·.is_permanent_failure = true)) (fun s q h => of_decide_eq_true h)
    (by decide +kernel)
  exact ⟨by decide +kernel, permanent_failure_last hrun⟩

/-- The second attempt, which the second chat is the reason for, rings the bell again. -/
theorem in_app_created_twice : ∃ (s : Notifiers Bool) (ps : Bool → Notify Nat),
    Relation.ReflTransGen (NotifyStep two_notifiers (fun _ _ _ _ => True) fun _ => True)
      (notify_start three_deliveries) (s, ps) ∧
    ¬ ((s.log.filter (·.act = .in_app)).map (·.pair)).Nodup := by
  obtain ⟨qs, hrun⟩ := two_batches_run fun _ => True
  exact ⟨_, qs, hrun, by decide +kernel⟩

/-- It sends to the first chat again too, and nobody has asked for a retry. -/
theorem permanent_failure_sent_again : ∃ (s : Notifiers Bool) (ps : Bool → Notify Nat),
    Relation.ReflTransGen
      (NotifyStep two_notifiers (fun _ _ _ _ => True) (· ≠ .manual_retry))
      (notify_start three_deliveries) (s, ps) ∧
    ¬ s.log.Pairwise fun a b => a.act.is_permanent_failure = true → b.pair ≠ a.pair := by
  obtain ⟨qs, hrun⟩ := two_batches_run (· ≠ .manual_retry)
  exact ⟨_, qs, hrun, by decide +kernel⟩

end CoinListener.Notifier
