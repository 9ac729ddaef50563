import CoinListener.Notifier.Aging

/-! A row is delivered when no delivery of its event is open, as long as attempts on it do not overlap. -/
namespace CoinListener.Notifier
open Foundation Storage Prog

/-! ### What holds in every state -/

/-- Each external channel of each matching rule has a delivery, and no delivery of the event is
open. -/
def AllClosed (t : NotifyTables) (row : NotificationOutboxItem) : Prop :=
  (∃ event ∈ t.events.address_events, event.id = row.event_id ∧
    event.tenant_id = row.tenant_id ∧
    ∀ rule ∈ matching_rules t.deliveries.settings event, ∀ channel channel_type,
      .Active channel ∈ resolved_channels t.deliveries.settings event.tenant_id rule →
      notify_channel_decision channel.channel_type = .External channel_type →
      ∃ delivery ∈ t.deliveries.notification_deliveries, delivery.event_id = event.id ∧
        delivery.rule_id = some rule.id ∧ delivery.channel_id = some channel.id ∧
        Closed delivery) ∧
  ∀ delivery ∈ t.deliveries.notification_deliveries, delivery.event_id = row.event_id →
    Closed delivery

/-- A claim takes no row on which an attempt is still under way, and none whose next attempt has no
number of its own. -/
def ClaimsFresh {W : Type} (w : W) (s : Notifiers W) (choice : ClaimChoice) : NotifyQuery → Prop
  | .claim_due_notification_outbox now worker_id limit =>
    Unshared w s choice (.claim_due_notification_outbox now worker_id limit) ∧
      ∀ row ∈ s.tables.events.due now limit choice.skipped, row.attempt_count < 65535
  | _ => True

theorem ClaimsFresh.unshared {W : Type} {w : W} {s : Notifiers W} {choice : ClaimChoice}
    {q : NotifyQuery} (h : ClaimsFresh w s choice q) : Unshared w s choice q := by
  cases q with
  | claim_due_notification_outbox => exact h.1
  | _ => trivial

/-- An open delivery is one of a channel of a matching rule, at an attempt on the row of its event. -/
structure Attempted {W : Type} (s : Notifiers W) : Prop where
  exclusive : Exclusive s
  same_event : ∀ a ∈ s.tables.events.address_events, ∀ b ∈ s.tables.events.address_events,
    a.id = b.id → a = b
  counter : ∀ row ∈ s.tables.events.notification_outbox, 0 ≤ row.attempt_count
  attempts : ∀ row ∈ s.tables.events.notification_outbox,
    ∀ delivery ∈ s.tables.deliveries.notification_deliveries,
      delivery.event_id = row.event_id → ¬ Closed delivery →
        delivery.attempt_count ≤ notification_outbox_task_attempt row.attempt_count
  matched : ∀ delivery ∈ s.tables.deliveries.notification_deliveries, ¬ Closed delivery →
    ∃ key, delivery.unique_key = some key ∧ Matched s.tables key
  working : ∀ w, ∀ item ∈ s.live w, ∀ row ∈ s.tables.events.notification_outbox,
    row.id = item.id → row.status ≠ .delivered
  delivered : ∀ row ∈ s.tables.events.notification_outbox, row.status = .delivered →
    ∀ delivery ∈ s.tables.deliveries.notification_deliveries,
      delivery.event_id = row.event_id → Closed delivery

theorem Kept.matched {t u : NotifyTables} (h : Kept t u) {key : DeliveryKey}
    (hmatched : Matched t key) : Matched u key := by
  obtain ⟨event, hevent, rule, hrule, channel, channel_type, hchannel, hdecision, hkey⟩ := hmatched
  have hsome : resolved_channels t.deliveries.settings event.tenant_id rule ≠ [] :=
    List.ne_nil_of_mem hchannel
  refine ⟨event, h.events event hevent, rule, ?_, channel, channel_type, ?_, hdecision, hkey⟩
  · rw [h.settings.matching]
    exact hrule
  · rw [h.settings.resolved (mem_matching hrule) hsome]
    exact hchannel

theorem unique_key_event {delivery : NotificationDelivery} {key : DeliveryKey}
    (h : delivery.unique_key = some key) : delivery.event_id = key.event_id := by
  unfold NotificationDelivery.unique_key at h
  split at h
  · exact congrArg DeliveryKey.event_id (Option.some.inj h)
  · cases h

/-! ### Numbers of attempts -/

theorem task_attempt_mono {a b : Int} (h : a ≤ b) :
    notification_outbox_task_attempt a ≤ notification_outbox_task_attempt b := by
  unfold notification_outbox_task_attempt
  split <;> split <;> omega

/-- Below the end of its range, the next attempt has a number of its own. -/
theorem task_attempt_succ {a : Int} (h : 0 ≤ a) (hlt : a < 65535) :
    notification_outbox_task_attempt a < notification_outbox_task_attempt (a + 1) := by
  unfold notification_outbox_task_attempt
  split <;> split <;> omega

section Steps
variable {W : Type} [DecidableEq W] {s t : Notifiers W} {v w : W} {op : NotifyStatement}
  {r : AppResult op.Answer} {C : W → Notifiers W → ClaimChoice → NotifyQuery → Prop}
  {item : NotificationOutboxItem} {delivery : NotificationDelivery}

omit [DecidableEq W] in
/-- When an attempt is done with the channels of its item, nothing of it is open. -/
theorem Attempted.closed (h : Attempted s) (hhandled : AllHandled s.tables item)
    (holder : Older s.tables item)
    (hmem : delivery ∈ s.tables.deliveries.notification_deliveries)
    (hevent : delivery.event_id = item.event_id) : Closed delivery := by
  by_contra hopen
  obtain ⟨event, hknown, hid, htenant, hall⟩ := hhandled
  obtain ⟨key, hkey, event', hknown', rule, hrule, channel, channel_type, hchannel, hdecision,
    rfl⟩ := h.matched delivery hmem hopen
  have hsame : event' = event := by
    refine h.same_event event' hknown' event hknown ?_
    exact (unique_key_event hkey).symm.trans (hevent.trans hid.symm)
  subst hsame
  obtain ⟨_, hchannels⟩ := hall rule hrule
  have hown : (notify_task_from_outbox_item item).tenant_id = event'.tenant_id := htenant.symm
  rw [hown] at hchannels
  obtain ⟨row, hrow, hrow_key, hdone⟩ :=
    (hchannels _ hchannel).begun channel rfl channel_type hdecision
  have htarget : (external_target (notify_task_from_outbox_item item) rule channel.id
      channel_type).key = ⟨event'.id, rule.id, channel.id,
        notification_idempotency_key event'.tenant_id event'.id rule.id channel.id⟩ := by
    rw [hid, htenant]
    rfl
  rw [htarget] at hrow_key
  obtain rfl := same_key s.tables.deliveries.unique_key hrow hmem hrow_key hkey
  rcases hdone with hfinal | hattempt
  · exact hopen (.inl hfinal)
  · exact absurd (holder row hrow hevent hopen) (Int.not_lt.mpr hattempt)

/-- What is open after a statement was so before, or is begun for an item of the worker. -/
theorem opened_by (hA : in_order w s op) (hB : as_claimed w s op) (hs : NotifyCarried C w s op r t)
    (hmem : delivery ∈ t.tables.deliveries.notification_deliveries) (hopen : ¬ Closed delivery) :
    OpenBefore s.tables delivery ∨
      (∃ item ∈ s.live w, delivery.event_id = item.event_id ∧
        delivery.attempt_count = notification_outbox_task_attempt item.attempt_count) ∧
      (∃ key, delivery.unique_key = some key ∧ Matched s.tables key) ∧
      ∃ target attempt_count,
        op = .db (.begin_external_notification_delivery target attempt_count) := by
  rcases carried_opens hB.creates hs hmem hopen with
    hbefore | ⟨target, attempt_count, rfl, hkey, hattempt⟩
  · exact .inl hbefore
  · obtain ⟨item, hitem, hevent, hnumber⟩ := hB
    refine .inr ⟨⟨item, hitem, ?_, hattempt.trans hnumber⟩, ⟨target.key, hkey, hA.2⟩, target,
      attempt_count, rfl⟩
    exact (key_columns hkey).1.trans hevent.symm

/-- What a worker has claimed it had claimed before, or is being processed. -/
theorem carried_live (hs : NotifyCarried C w s op r t) (hitem : item ∈ t.live v) :
    item ∈ s.live v ∨ ∃ row ∈ t.tables.events.notification_outbox, row.id = item.id ∧
      row.status = .processing := by
  cases hs with
  | @db q r u choice hC hfate =>
    by_cases hq : ∃ now worker_id limit, q = .claim_due_notification_outbox now worker_id limit
    · obtain ⟨now, worker_id, limit, rfl⟩ := hq
      by_cases hv : v = w
      · subst v
        cases r with
        | error error =>
          refine .inl ?_
          have hlive : item ∈ u.live w := hitem
          rcases hfate.state with rfl | rfl <;> exact hlive
        | ok items =>
          rw [learn_claim_live] at hitem
          obtain ⟨rfl, hperm⟩ := claim_answered hfate
          obtain ⟨due, hdue, rfl⟩ := List.mem_map.mp (hperm.subset hitem)
          refine .inr ⟨due.claimed now worker_id, ?_, rfl, rfl⟩
          rcases query_claim_cases s w choice now worker_id limit with ⟨_, herror, _⟩ |
            ⟨_, _, _, hrows, _⟩
          · exact nomatch herror.symm.trans hfate.answer.1
          · rw [learn_tables, hrows]
            refine Table.mem_update.mpr ⟨due, (EventTables.mem_due hdue).1, ?_⟩
            exact Table.revise_of_true (List.any_eq_true.mpr ⟨due, hdue, beq_self_eq_true _⟩)
      · rw [learn_live_of_ne hv] at hitem
        refine .inl ?_
        rcases hfate.state with rfl | rfl <;> exact hitem
    · have hq' : ∀ now worker_id limit, q ≠ .claim_due_notification_outbox now worker_id limit :=
        fun now worker_id limit hsame => hq ⟨now, worker_id, limit, hsame⟩
      have hlive : item ∈ u.live v := (learn_sublist hq' v).subset hitem
      refine .inl ?_
      rcases hfate.state with rfl | rfl <;> exact hlive
  | _ => exact .inl hitem

/-- A worker that has marked a row is done with it. -/
theorem carried_mark_live {id : Uuid} {mark : OutboxMark} {r : AppResult Unit}
    (hs : NotifyCarried C w s (.db (.mark_notification_outbox id mark)) r t)
    (hitem : item ∈ t.live w) : item.id ≠ id := by
  obtain ⟨choice, u, _, _, rfl⟩ := carried_db hs
  cases r with
  | ok _ =>
    have hlive : item ∈ (u.live w).filter (·.id != id) := by
      simpa [Notifiers.learn, Notifiers.set_live] using hitem
    exact bne_iff_ne.mp (List.mem_filter.mp hlive).2
  | error error =>
    rw [learn_mark_error_live] at hitem
    exact absurd hitem List.not_mem_nil

theorem carried_events (hs : NotifyCarried C w s op r t) :
    t.tables.events.address_events = s.tables.events.address_events := by
  cases hs with
  | @db q r u choice hC hfate =>
    rw [learn_tables]
    rcases hfate.state with rfl | rfl
    · rfl
    cases q with
    | claim_due_notification_outbox now worker_id limit =>
      unfold Notifiers.query NotifyQuery.run EventTables.claim_due_notification_outbox
      dsimp only
      split
      · rfl
      · split <;> rfl
    | mark_notification_outbox id mark =>
      unfold Notifiers.query NotifyQuery.run EventTables.mark_notification_outbox
      dsimp only
      split <;> rfl
    | _ => rfl
  | _ => rfl

theorem Attempted.statement (h : Attempted s) (hA : in_order w s op) (hB : as_claimed w s op)
    (hs : NotifyCarried ClaimsFresh w s op r t) : Attempted t where
  exclusive := h.exclusive.statement (fun _ _ _ _ hC => hC.unshared) hs
  same_event := by
    rw [carried_events hs]
    exact h.same_event
  counter row hrow := by
    obtain ⟨old, hold, hafter⟩ := carried_row hs hrow
    exact (h.counter old hold).trans hafter.attempt_count
  attempts row hrow delivery hmem hevent hopen := by
    obtain ⟨old, hold, hafter⟩ := carried_row hs hrow
    have hnumber := Int.ofNat_le.mpr (task_attempt_mono hafter.attempt_count)
    refine Int.le_trans ?_ hnumber
    rw [hafter.event_id] at hevent
    rcases opened_by hA hB hs hmem hopen with
      ⟨before, hbefore, hbefore_open, hsame⟩ | ⟨⟨item, hitem, hown, hattempt⟩, _⟩
    · rw [hsame.attempt_count]
      exact h.attempts old hold before hbefore (hsame.event_id.symm.trans hevent) hbefore_open
    · obtain ⟨found, hfound, hclaimed⟩ := h.exclusive.row w item hitem
      obtain rfl := EventTables.same_event_row hold hfound
        (hevent.symm.trans (hown.trans hclaimed.event_id.symm))
      rw [hattempt, hclaimed.attempt_count]
  matched delivery hmem hopen := by
    have hkept := carried_keeps hA hs
    rcases opened_by hA hB hs hmem hopen with
      ⟨before, hbefore, hbefore_open, hsame⟩ | ⟨_, ⟨key, hkey, hmatched⟩, _⟩
    · obtain ⟨key, hkey, hmatched⟩ := h.matched before hbefore hbefore_open
      exact ⟨key, hsame.unique_key.trans hkey, hkept.matched hmatched⟩
    · exact ⟨key, hkey, hkept.matched hmatched⟩
  working v item hitem row hrow hid hstatus := by
    rcases carried_live hs hitem with hlive | ⟨found, hfound, hsame, hprocessing⟩
    · obtain ⟨old, hold, hafter⟩ := carried_row hs hrow
      have hid' : old.id = item.id := hafter.id.symm.trans hid
      rcases hafter.delivered hstatus with hbefore | ⟨now, rfl⟩
      · exact h.working v item hlive old hold hid' hbefore
      · -- the worker that marks the row is the one that has claimed it
        obtain ⟨own, hown, hsame, _⟩ := hB
        by_cases hv : v = w
        · subst v
          exact carried_mark_live hs hitem hid'.symm
        · exact h.exclusive.apart v w hv item hlive own hown (hid'.symm.trans hsame.symm)
    · obtain rfl := EventTables.same_row hrow hfound (hid.trans hsame.symm)
      exact nomatch hstatus.symm.trans hprocessing
  delivered row hrow hstatus delivery hmem hevent := by
    by_contra hopen
    obtain ⟨old, hold, hafter⟩ := carried_row hs hrow
    rw [hafter.event_id] at hevent
    rcases opened_by hA hB hs hmem hopen with
      ⟨before, hbefore, hbefore_open, hsame⟩ | ⟨⟨item, hitem, hown, _⟩, _, target, attempt, rfl⟩
    · have hevent' : before.event_id = old.event_id := hsame.event_id.symm.trans hevent
      rcases hafter.delivered hstatus with hdelivered | ⟨now, rfl⟩
      · exact hbefore_open (h.delivered old hold hdelivered before hbefore hevent')
      · obtain ⟨item, hitem, hid, hdone⟩ := hB
        obtain ⟨hhandled, holder⟩ := hdone now rfl
        have hclaimed := h.exclusive.claimed_row hitem hold hid.symm
        exact hbefore_open (h.closed hhandled holder hbefore (hevent'.trans hclaimed.event_id))
    · obtain ⟨found, hfound, hclaimed⟩ := h.exclusive.row w item hitem
      obtain rfl := EventTables.same_event_row hold hfound
        (hevent.symm.trans (hown.trans hclaimed.event_id.symm))
      rcases hafter.delivered hstatus with hdelivered | ⟨now, hmark⟩
      · exact h.working w item hitem old hold hclaimed.id hdelivered
      · exact nomatch hmark

omit [DecidableEq W] in
/-- What others do to the rows: nothing that matters here, or they add one for a new event. -/
theorem others_row {E : NotifyEdit → Prop} (ho : NotifyOthers E s t) {row : NotificationOutboxItem}
    (hrow : row ∈ t.tables.events.notification_outbox) :
    (∃ old ∈ s.tables.events.notification_outbox, row.id = old.id ∧
      row.event_id = old.event_id ∧ row.attempt_count = old.attempt_count ∧
      (row.status = .delivered → old.status = .delivered)) ∨
    row.attempt_count = 0 ∧ row.status = .pending ∧
      ∀ event ∈ s.tables.events.address_events, event.id ≠ row.event_id := by
  cases ho with
  | event draft =>
    rcases s.tables.events.insert_cases draft with ⟨_, hsame⟩ | ⟨_, _, _, hrows⟩
    · dsimp only at hrow
      rw [hsame] at hrow
      exact .inl ⟨row, hrow, rfl, rfl, rfl, id⟩
    · dsimp only at hrow
      rw [hrows] at hrow
      rcases List.mem_append.mp hrow with hold | hnew
      · exact .inl ⟨row, hold, rfl, rfl, rfl, id⟩
      · obtain rfl := List.mem_singleton.mp hnew
        exact .inr ⟨rfl, rfl, fun event hevent => Nat.ne_of_lt (s.tables.events.event_ids event hevent)⟩
  | manual_retry hE id tenant_id now =>
    obtain ⟨old, hold, rfl⟩ := Table.mem_update.mp hrow
    refine .inl ⟨old, hold, ?_⟩
    unfold Table.revise
    split
    · exact ⟨rfl, rfl, rfl, nofun⟩
    · exact ⟨rfl, rfl, rfl, fun h => h⟩
  | configure => exact .inl ⟨row, hrow, rfl, rfl, rfl, id⟩

omit [DecidableEq W] in
theorem others_deliveries {E : NotifyEdit → Prop} (hE : ¬ E .configure) (ho : NotifyOthers E s t) :
    t.tables.deliveries = s.tables.deliveries := by
  cases ho with
  | event draft => rfl
  | manual_retry => rfl
  | configure hconfigure => exact absurd hconfigure hE

omit [DecidableEq W] in
theorem Attempted.others {E : NotifyEdit → Prop} (hE : ¬ E .configure) (h : Attempted s)
    (ho : NotifyOthers E s t) : Attempted t where
  exclusive := h.exclusive.others ho
  same_event := by
    cases ho with
    | event draft =>
      rcases s.tables.events.insert_cases draft with ⟨_, hsame⟩ | ⟨_, _, hevents, _⟩
      · dsimp only
        rw [hsame]
        exact h.same_event
      · have hnew : ∀ a ∈ s.tables.events.address_events,
            a.id ≠ (s.tables.events.new_event draft).id :=
          fun a ha => Nat.ne_of_lt (s.tables.events.event_ids a ha)
        dsimp only
        rw [hevents]
        intro a ha b hb hid
        rcases List.mem_append.mp ha with ha | ha <;> rcases List.mem_append.mp hb with hb | hb
        · exact h.same_event a ha b hb hid
        · obtain rfl := List.mem_singleton.mp hb
          exact absurd hid (hnew a ha)
        · obtain rfl := List.mem_singleton.mp ha
          exact absurd hid.symm (hnew b hb)
        · rw [List.mem_singleton.mp ha, List.mem_singleton.mp hb]
    | manual_retry => exact h.same_event
    | configure => exact h.same_event
  counter row hrow := by
    rcases others_row ho hrow with ⟨old, hold, _, _, hattempt, _⟩ | ⟨hattempt, _⟩
    · exact hattempt ▸ h.counter old hold
    · exact Int.le_of_eq hattempt.symm
  attempts row hrow delivery hmem hevent hopen := by
    rw [others_deliveries hE ho] at hmem
    rcases others_row ho hrow with ⟨old, hold, _, hsame, hattempt, _⟩ | ⟨_, _, hfresh⟩
    · rw [hattempt]
      exact h.attempts old hold delivery hmem (hevent.trans hsame) hopen
    · obtain ⟨key, hkey, event, hknown, _, _, _, _, _, _, rfl⟩ := h.matched delivery hmem hopen
      refine absurd ?_ (hfresh event hknown)
      rw [← hevent]
      exact (unique_key_event hkey).symm
  matched delivery hmem hopen := by
    have hkept := others_keep hE ho
    rw [others_deliveries hE ho] at hmem
    obtain ⟨key, hkey, hmatched⟩ := h.matched delivery hmem hopen
    exact ⟨key, hkey, hkept.matched hmatched⟩
  working v item hitem row hrow hid hstatus := by
    rw [others_live ho] at hitem
    rcases others_row ho hrow with ⟨old, hold, hsame, _, _, hdelivered⟩ | ⟨_, hpending, _⟩
    · exact h.working v item hitem old hold (hsame.symm.trans hid) (hdelivered hstatus)
    · exact nomatch hstatus.symm.trans hpending
  delivered row hrow hstatus delivery hmem hevent := by
    rw [others_deliveries hE ho] at hmem
    rcases others_row ho hrow with ⟨old, hold, _, hsame, _, hdelivered⟩ | ⟨_, hpending, _⟩
    · exact h.delivered old hold (hdelivered hstatus) delivery hmem (hevent.trans hsame)
    · exact nomatch hstatus.symm.trans hpending

theorem Attempted.launch {setup : NotifierSetup W} {p : Notify Nat} (h : Attempted s)
    (hl : NotifyLaunch setup w s p t) : Attempted t := by
  have hexclusive := h.exclusive.launch hl
  have hlive : ∀ v, ∀ item ∈ t.live v, item ∈ s.live v := by
    intro v item hitem
    by_cases hv : v = w
    · subst v
      cases hl <;> simp [Notifiers.set_live] at hitem
    · rwa [launch_live_of_ne hl hv] at hitem
  have htables : t.tables = s.tables := by cases hl <;> rfl
  refine ⟨hexclusive, ?_, ?_, ?_, ?_, fun v item hitem => ?_, ?_⟩
  · exact htables ▸ h.same_event
  · exact htables ▸ h.counter
  · exact htables ▸ h.attempts
  · exact htables ▸ h.matched
  · rw [htables]
    exact h.working v item (hlive v item hitem)
  · exact htables ▸ h.delivered

end Steps

/-! ### One batch -/

/-- What a worker may rely on of the tables and of its items. -/
def Undisturbed {W : Type} (w : W) (s t : Notifiers W) : Prop :=
  Lasts w s t ∧ Calm w s t

/-- Records are made in order, and deliveries are opened and rows marked by those who have claimed
them. -/
def careful {W : Type} (w : W) (s : Notifiers W) (op : NotifyStatement) : Prop :=
  in_order w s op ∧ as_claimed w s op

section Batch
variable {W : Type} [DecidableEq W] {s t : Notifiers W} {w : W} {op : NotifyStatement}
  {r : AppResult op.Answer} {item : NotificationOutboxItem} {rest : List NotificationOutboxItem}

omit [DecidableEq W] in
theorem Undisturbed.refl (w : W) (s : Notifiers W) : Undisturbed w s s :=
  ⟨Lasts.refl w s, Calm.refl w s⟩

omit [DecidableEq W] in
theorem Undisturbed.trans {u : Notifiers W} (hst : Undisturbed w s t) (htu : Undisturbed w t u) :
    Undisturbed w s u :=
  ⟨hst.1.trans htu.1, hst.2.trans htu.2⟩

/-- Items claimed and not yet tried, and what is known of their rows. -/
def queued (w : W) (items : List NotificationOutboxItem) : Assn (Undisturbed w) fun _ => True :=
  ((Assn.every items (row_known w)).under fun _ _ h => h.1).and
    ((untried w items).under fun _ _ h => h.2)

/-- Before an item is marked. -/
def tried (w : W) (item : NotificationOutboxItem) (rest : List NotificationOutboxItem) :
    Except AppError Nat → Assn (Undisturbed w) fun _ => True
  | .ok n => (((Assn.every (item :: rest) (row_known w)).and (result_known w item (.ok n))).under
      fun _ _ h => h.1).and ((trying w item rest nothing).under fun _ _ h => h.2)
  | .error error => (((Assn.every (item :: rest) (row_known w)).and
      (result_known w item (.error error))).under fun _ _ h => h.1).and
        ((trying w item rest fun _ => True).under fun _ _ h => h.2)

theorem item_careful {parsers : Parsers} {now : Timestamp} :
    Triple (careful w) (Within Attempted (NotifyCarried ClaimsFresh w)) (queued w (item :: rest))
      (process_notification_outbox_item parsers item now)
      (fun n => tried w item rest (.ok n)) fun error => tried w item rest (.error error) := by
  have hrecording := @item_recording W _ Attempted w ClaimsFresh parsers now item (item :: rest)
  have htrying := @item_trying W _ w Attempted ClaimsFresh item rest
    (fun _ h => h.exclusive) parsers now
  refine ((hrecording.under fun _ _ h => h.1).both (htrying.under fun _ _ h => h.2)).consequence
    (fun s hs => ?_) (fun _ _ h => h) fun _ _ h => h
  obtain ⟨hrows, hlive, holder⟩ := hs
  refine ⟨hrows, hlive, fun other hother => holder other (List.mem_cons_of_mem _ hother), ?_⟩
  exact fun delivery hmem hevent hopen => .inl (holder item (List.mem_cons_self ..) delivery hmem
    hevent hopen)

omit [DecidableEq W] in
/-- The items of a worker at any time are the ones it has not tried and the one at hand. -/
theorem tried_cases {result : Except AppError Nat} (hs : (tried w item rest result).holds s) :
    ((Assn.every (item :: rest) (row_known w)).and (result_known w item result)).holds s ∧
      s.live w = item :: rest ∧ (∀ other ∈ rest, Older s.tables other) ∧
      ∀ n, result = .ok n → AllHandled s.tables item ∧ Older s.tables item := by
  cases result with
  | ok n =>
    obtain ⟨hknown, hlive, hrest, hitem⟩ := hs
    refine ⟨hknown, hlive, hrest, fun _ _ => ⟨hknown.2, fun delivery hmem hevent hopen => ?_⟩⟩
    exact (hitem delivery hmem hevent hopen).resolve_right fun h => h
  | error error =>
    obtain ⟨hknown, hlive, hrest, _⟩ := hs
    exact ⟨hknown, hlive, hrest, nofun⟩

theorem mark_careful {config : NotificationOutboxDispatcherConfig} {now : Timestamp}
    {result : Except AppError Nat} :
    Triple (careful w) (Within Attempted (NotifyCarried ClaimsFresh w)) (tried w item rest result)
      (query (.mark_notification_outbox item.id
        (outbox_mark config now item.attempt_count result)))
      (fun _ => queued w rest) fun _ => queued w [] := by
  have hcareful : ∀ s, (tried w item rest result).holds s → careful w s
      (.db (.mark_notification_outbox item.id
        (outbox_mark config now item.attempt_count result))) := by
    intro s hs
    obtain ⟨hknown, hlive, _, hresult⟩ := tried_cases hs
    refine ⟨mark_in_order hknown, item, hlive ▸ List.mem_cons_self .., rfl, fun at_time hmark => ?_⟩
    cases result with
    | ok n => exact hresult n rfl
    | error error =>
      unfold outbox_mark at hmark
      dsimp only at hmark
      split at hmark <;> exact nomatch hmark
  refine .perform hcareful fun s hs r t ht => ?_
  obtain ⟨hknown, hlive, hrest, _⟩ := tried_cases hs
  have hkept := carried_keeps (hcareful s hs).1 ht.2.1
  obtain ⟨choice, u, _, hfate, rfl⟩ := carried_db ht.2.1
  have hu : u.live = s.live ∧ u.tables.deliveries = s.tables.deliveries := by
    rcases hfate.state with rfl | rfl
    · exact ⟨rfl, rfl⟩
    · exact ⟨rfl, run_deliveries fun h => h⟩
  cases r with
  | error error => exact ⟨fun _ hmem => absurd hmem List.not_mem_nil, learn_mark_error_live,
      fun _ hmem => absurd hmem List.not_mem_nil⟩
  | ok _ =>
    refine ⟨row_known_kept hkept fun other hother => ?_, learn_mark_live ?_ ?_, ?_⟩
    · exact hknown.1 other (List.mem_cons_of_mem _ hother)
    · exact (congrFun hu.1 w).trans hlive
    · rw [hu.1]
      exact ht.1.exclusive.nodup w
    · intro other hother delivery hmem
      rw [learn_tables, hu.2] at hmem
      exact hrest other hother delivery hmem

omit [DecidableEq W] in
/-- What is open of the event of a row when the row is claimed dates from earlier attempts. -/
theorem claimed_older {row : NotificationOutboxItem} {now : Timestamp} {worker_id : String}
    (h : Attempted s) (hrow : row ∈ s.tables.events.notification_outbox)
    (hlt : row.attempt_count < 65535) : Older s.tables (row.claimed now worker_id) := by
  intro delivery hmem hevent hopen
  have hattempt := h.attempts row hrow delivery hmem hevent hopen
  have hnext := Int.ofNat_lt.mpr (task_attempt_succ (h.counter row hrow) hlt)
  exact Int.lt_of_le_of_lt hattempt hnext

theorem claim_careful {now : Timestamp} {worker_id : String} {limit : Int} :
    Triple (careful w) (Within Attempted (NotifyCarried ClaimsFresh w)) (queued w [])
      (query (.claim_due_notification_outbox now worker_id limit)) (queued w)
      fun _ => queued w [] := by
  have hcareful : ∀ s : Notifiers W,
      careful w s (.db (.claim_due_notification_outbox now worker_id limit)) :=
    fun s => ⟨(fun _ hrecord => nomatch hrecord), trivial⟩
  refine .perform (fun s _ => hcareful s) fun s hs r t ht => ?_
  obtain ⟨hinv, hcarried, _⟩ := ht
  have hkept := carried_keeps (hcareful s).1 hcarried
  obtain ⟨choice, u, hC, hfate, rfl⟩ := carried_db hcarried
  cases r with
  | error error =>
    refine ⟨fun _ hmem => absurd hmem List.not_mem_nil, ?_,
      fun _ hmem => absurd hmem List.not_mem_nil⟩
    change u.live w = []
    rcases hfate.state with rfl | rfl <;> exact hs.2.1
  | ok items =>
    obtain ⟨rfl, hperm⟩ := claim_answered hfate
    refine ⟨fun item hitem => ?_, learn_claim_live, fun item hitem => ?_⟩
    all_goals
      obtain ⟨row, hdue, rfl⟩ := List.mem_map.mp (hperm.subset hitem)
      have hrow := (EventTables.mem_due hdue).1
    · exact hkept.rows row hrow
    · intro delivery hmem
      rw [learn_tables] at hmem
      have hsame : (s.query w choice
          (.claim_due_notification_outbox now worker_id limit)).2.tables.deliveries =
            s.tables.deliveries := run_deliveries fun h => h
      rw [hsame] at hmem
      exact claimed_older hinv hrow (hC.2 row hdue) delivery hmem

theorem batch_careful {setup : NotifierSetup W} (now : Timestamp) :
    Triple (careful w) (Within Attempted (NotifyCarried ClaimsFresh w)) (queued w [])
      (process_notification_outbox_batch setup.parsers (setup.worker_id w) setup.config now)
      (fun _ => queued w []) fun _ => queued w [] := by
  refine batch_walk (Undisturbed.refl w) (J := queued w) ?_ claim_careful fun items => ?_
  · refine .perform (fun s _ => ⟨(fun _ hrecord => nomatch hrecord), trivial⟩)
      fun s hs r t ht => ?_
    obtain ⟨choice, u, _, hfate, rfl⟩ := carried_db ht.2.1
    have hlive : u.live w = [] := by
      rcases hfate.state with rfl | rfl <;> exact hs.2.1
    have hqueued : ∀ t : Notifiers W, t.live w = [] → (queued w []).holds t := fun t h =>
      ⟨fun _ hmem => absurd hmem List.not_mem_nil, h, fun _ hmem => absurd hmem List.not_mem_nil⟩
    cases r with
    | ok _ => exact hqueued _ hlive
    | error _ => exact hqueued _ hlive
  · exact items_walk (Undisturbed.refl w) (M := fun item rest result => tried w item rest result)
      (fun item rest => item_careful) (fun item rest result => mark_careful) items

end Batch

/-! ### Runs -/

section Run
variable {W : Type} [DecidableEq W] {s : Notifiers W} {E : NotifyEdit → Prop}
  {setup : NotifierSetup W}

theorem closed_rules (setup : NotifierSetup W) (hE : ¬ E .configure) :
    Crew.Rules (NotifyCarried ClaimsFresh) (NotifyOthers E) (NotifyLaunch setup)
      (Attempted (W := W)) careful Undisturbed fun _ _ _ => True where
  refl := Undisturbed.refl
  trans w _ _ _ hab hbc := hab.trans hbc
  launch_inv h hl := h.launch hl
  launch_safe := by
    intro w s p t h hl
    cases hl with
    | batch now =>
      refine ((batch_careful now).safe _ ?_).mono fun _ _ _ _ => trivial
      exact ⟨fun _ hmem => absurd hmem List.not_mem_nil, Function.update_self ..,
        fun _ hmem => absurd hmem List.not_mem_nil⟩
    | stop => exact fun _ _ => ⟨trivial, trivial⟩
  launch_others := by
    intro w v s p t _ hl hv
    have hlive := launch_live_of_ne hl hv
    cases hl <;> exact ⟨⟨.refl _, fun h => by simpa [Notifiers.set_live, hv] using h⟩, hlive,
      fun _ _ _ hmem _ hopen => .of_mem hmem hopen⟩
  statement_inv h hA hs := h.statement hA.1 hA.2 hs
  statement_others := by
    intro w v s op r t h hA hs hv
    refine ⟨⟨carried_keeps hA.1 hs, fun h => (carried_troubled_of_ne hs hv).trans h⟩,
      carried_live_of_ne hs hv, fun item hitem delivery hmem hevent hopen => ?_⟩
    rcases opened_by hA.1 hA.2 hs hmem hopen with hbefore | ⟨⟨other, hother, hown, _⟩, _⟩
    · exact hbefore
    · exact absurd (h.exclusive.same_event hitem hother (hevent.symm.trans hown)).1 hv
  others_inv h ho := h.others hE ho
  others := by
    intro w s t _ ho
    refine ⟨⟨others_keep hE ho, fun h => ?_⟩, congrFun (others_live ho) w,
      fun item _ delivery hmem _ hopen => ?_⟩
    · cases ho <;> exact h
    · rw [others_deliveries hE ho] at hmem
      exact .of_mem hmem hopen

omit [DecidableEq W] in
/-- Before any event there is no delivery. -/
theorem Attempted.start (settings : NotifySettings) (next_id : Uuid) (h : settings.Below next_id) :
    Attempted (notify_start (W := W) (no_deliveries settings next_id h)).1 := by
  refine ⟨.start _, ?_, ?_, ?_, ?_, ?_, ?_⟩ <;>
    simp [notify_start, no_deliveries, EventTables.empty]

theorem closed_run (hE : ¬ E .configure) {settings : NotifySettings} {next_id : Uuid}
    {hbelow : settings.Below next_id} {ps : W → Notify Nat}
    (hrun : Relation.ReflTransGen (NotifyStep setup ClaimsFresh E)
      (notify_start (no_deliveries settings next_id hbelow)) (s, ps)) : Attempted s := by
  have hstart : Crew.Good (NotifyCarried ClaimsFresh) Attempted careful (Undisturbed (W := W))
      (fun _ _ _ => True) (notify_start (W := W) (no_deliveries settings next_id hbelow)).1
      (notify_start (W := W) (no_deliveries settings next_id hbelow)).2 :=
    ⟨.start settings next_id hbelow, fun _ _ _ => ⟨trivial, trivial⟩⟩
  exact (hstart.run (closed_rules setup hE) hrun).inv

end Run

/-! ### Two attempts on one row -/

/-- The first notifier has sent to the first chat. -/
def first_chat_sent : Notify Nat × Notifiers Bool :=
  Prog.advance (answered all_sent true) 13 (batch_of two_notifiers true 0)
    ((one_event three_deliveries).set_live true [])

/-- The second one has released the row, claimed it, and is about to send to the second chat. -/
def second_chat_begun : Notify Nat × Notifiers Bool :=
  Prog.advance (answered all_sent false) 9 (batch_of two_notifiers false 1000)
    (first_chat_sent.2.set_live false [])

/-- The first one has left the second chat to the other and marked the row. -/
def first_done : Notify Nat × Notifiers Bool :=
  Prog.advance (answered all_sent true) 2 first_chat_sent.1 second_chat_begun.2

instance {W : Type} [Fintype W] (w : W) (s : Notifiers W) (choice : ClaimChoice) :
    (q : NotifyQuery) → Decidable (ClaimsFresh w s choice q)
  | .claim_due_notification_outbox now worker_id limit => inferInstanceAs (Decidable
      (Unshared w s choice (.claim_due_notification_outbox now worker_id limit) ∧
        ∀ row ∈ s.tables.events.due now limit choice.skipped, row.attempt_count < 65535))
  | .release_stale_notification_outbox .. | .mark_notification_outbox .. | .get_address_event ..
  | .list_enabled_notification_rules .. | .list_channels_by_ids ..
  | .list_active_channels_by_ids .. | .first_in_app_channel .. | .insert_default_in_app_channel ..
  | .default_in_app_channel .. | .get_telegram_bot_secret .. | .get_telegram_proxy_url ..
  | .begin_external_notification_delivery .. | .mark_external_notification_delivery_sent ..
  | .mark_external_notification_delivery_failed .. | .create_notification_delivery ..
  | .create_sent_in_app_delivery .. => .isTrue trivial

end CoinListener.Notifier
