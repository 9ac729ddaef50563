import CoinListener.Notifier.Recorded

/-! External deliveries that are not closed, and the attempt each of them is at. -/
namespace CoinListener.Notifier
open Foundation Storage Prog

/-! ### Closed deliveries -/

/-- Sent, skipped, or failed for good. -/
def Closed (delivery : NotificationDelivery) : Prop :=
  delivery.Final ∨ (delivery.status = .failed ∧
    (delivery.failure = some .permanent ∨ delivery.failure = some .not_sent))

instance (delivery : NotificationDelivery) : Decidable (Closed delivery) :=
  inferInstanceAs (Decidable (_ ∨ _))

/-- The delivery is still at the same attempt. -/
structure SameAttempt (a b : NotificationDelivery) : Prop where
  id : b.id = a.id
  event_id : b.event_id = a.event_id
  unique_key : b.unique_key = a.unique_key
  attempt_count : b.attempt_count = a.attempt_count

theorem SameAttempt.refl (a : NotificationDelivery) : SameAttempt a a :=
  ⟨rfl, rfl, rfl, rfl⟩

theorem SameAttempt.trans {a b c : NotificationDelivery} (hab : SameAttempt a b)
    (hbc : SameAttempt b c) : SameAttempt a c :=
  ⟨hbc.id.trans hab.id, hbc.event_id.trans hab.event_id, hbc.unique_key.trans hab.unique_key,
    hbc.attempt_count.trans hab.attempt_count⟩

/-- A delivery that was open before too, and was at the same attempt. -/
def OpenBefore (t : NotifyTables) (delivery : NotificationDelivery) : Prop :=
  ∃ before ∈ t.deliveries.notification_deliveries, ¬ Closed before ∧ SameAttempt before delivery

theorem OpenBefore.of_mem {t : NotifyTables} {delivery : NotificationDelivery}
    (h : delivery ∈ t.deliveries.notification_deliveries) (hopen : ¬ Closed delivery) :
    OpenBefore t delivery :=
  ⟨delivery, h, hopen, .refl delivery⟩

section Rows
variable {t : DeliveryTables} {rows rows' : List NotificationDelivery} {target : ExternalTarget}
  {attempt_count : Int} {start : ExternalDeliveryStart} {delivery : NotificationDelivery}

theorem not_closed_of_processing (h : delivery.status = .processing) : ¬ Closed delivery := by
  rintro ((hsent | hskipped) | ⟨hfailed, _⟩)
  · exact nomatch h.symm.trans hsent
  · exact nomatch h.symm.trans hskipped
  · exact nomatch h.symm.trans hfailed

/-- What a begin opens is the delivery of its target. -/
theorem begin_opens (h : BeginEffect target attempt_count rows start rows')
    (hids : (rows.map (·.id)).Nodup) (hmem : delivery ∈ rows') (hopen : ¬ Closed delivery) :
    (∃ before ∈ rows, ¬ Closed before ∧ SameAttempt before delivery) ∨
      start = .ReadyToSend delivery.id ∧ delivery.unique_key = some target.key ∧
        delivery.attempt_count = attempt_count := by
  cases h with
  | inserted =>
    rcases List.mem_append.mp hmem with hold | hnew
    · exact .inl ⟨delivery, hold, hopen, .refl delivery⟩
    · obtain rfl := List.mem_singleton.mp hnew
      exact .inr ⟨rfl, rfl, rfl⟩
  | @restarted found hfound hsel =>
    obtain ⟨before, hbefore, rfl⟩ := Table.mem_update.mp hmem
    by_cases hid : before.id = found.id
    · obtain rfl := List.inj_on_of_nodup_map hids hbefore hfound hid
      have hself : Table.revise (·.id == before.id) (·.restarted attempt_count) before =
          before.restarted attempt_count := Table.revise_of_true (beq_self_eq_true _)
      rw [hself]
      exact .inr ⟨rfl, (ExternalTarget.selects_iff.mp hsel).2, rfl⟩
    · have hother : Table.revise (·.id == found.id) (·.restarted attempt_count) before = before :=
        Table.revise_of_false (beq_eq_false_iff_ne.mpr hid)
      rw [hother] at hopen ⊢
      exact .inl ⟨before, hbefore, hopen, .refl before⟩
  | complete => exact .inl ⟨delivery, hmem, hopen, .refl delivery⟩

section Mark
variable {tenant_id delivery_id : Uuid} {f : NotificationDelivery → NotificationDelivery}
  {hid : ∀ delivery, (f delivery).id = delivery.id}
  {hkey : ∀ delivery key, (f delivery).unique_key = some key → delivery.unique_key = some key}

/-- A mark opens nothing. -/
theorem mark_opens (hf : ∀ delivery, SameAttempt delivery (f delivery))
    (hmem : delivery ∈ (t.mark_external_notification_delivery tenant_id delivery_id attempt_count f
      hid hkey).2.notification_deliveries) (hopen : ¬ Closed delivery) :
    ∃ before ∈ t.notification_deliveries, ¬ Closed before ∧ SameAttempt before delivery := by
  unfold DeliveryTables.mark_external_notification_delivery at hmem
  split at hmem
  · obtain ⟨before, hbefore, rfl⟩ := Table.mem_update.mp hmem
    refine ⟨before, hbefore, ?_⟩
    cases hway : before.under_way delivery_id tenant_id attempt_count with
    | true =>
      rw [Table.revise_of_true hway]
      have hstatus := (NotificationDelivery.under_way_iff.mp hway).2.2.1
      exact ⟨not_closed_of_processing hstatus, hf before⟩
    | false =>
      rw [Table.revise_of_false hway] at hopen ⊢
      exact ⟨hopen, .refl before⟩
  · exact ⟨delivery, hmem, hopen, .refl delivery⟩

/-- A mark that was carried out has closed its delivery, unless it is one of a transient failure. -/
theorem mark_closes (hf : ∀ delivery, Closed (f delivery))
    (hok : (t.mark_external_notification_delivery tenant_id delivery_id attempt_count f hid
      hkey).1 = .ok ())
    (hmem : delivery ∈ (t.mark_external_notification_delivery tenant_id delivery_id attempt_count f
      hid hkey).2.notification_deliveries) (hopen : ¬ Closed delivery) :
    delivery.id ≠ delivery_id := by
  unfold DeliveryTables.mark_external_notification_delivery at hok hmem
  split at hok
  · rename_i hany
    rw [if_pos hany] at hmem
    obtain ⟨marked, hmarked, hway⟩ := List.any_eq_true.mp hany
    obtain ⟨before, hbefore, rfl⟩ := Table.mem_update.mp hmem
    intro hsame
    rw [Table.revise_column hid] at hsame
    have hmarked_id := (NotificationDelivery.under_way_iff.mp hway).1
    obtain rfl := t.same_delivery hbefore hmarked (hsame.trans hmarked_id.symm)
    rw [Table.revise_of_true hway] at hopen
    exact hopen (hf before)
  · cases hok

end Mark

end Rows

/-! ### Statements -/

/-- A delivery is created as sent or as skipped. -/
def NotifyQuery.CreatesFinal : NotifyQuery → Prop
  | .create_notification_delivery _ _ _ _ status .. => status = .sent ∨ status = .skipped
  | _ => True

def NotifyStatement.CreatesFinal : NotifyStatement → Prop
  | .db q => q.CreatesFinal
  | _ => True

/-- Only a begin opens a delivery. -/
theorem run_opens {q : NotifyQuery} {choice : ClaimChoice} {t : NotifyTables}
    {delivery : NotificationDelivery} (hq : q.CreatesFinal)
    (hmem : delivery ∈ (q.run choice t).2.deliveries.notification_deliveries)
    (hopen : ¬ Closed delivery) :
    OpenBefore t delivery ∨ ∃ target attempt_count,
      q = .begin_external_notification_delivery target attempt_count ∧
        delivery.unique_key = some target.key ∧ delivery.attempt_count = attempt_count := by
  cases q with
  | begin_external_notification_delivery target attempt_count =>
    rcases @DeliveryTables.begin_cases t.deliveries t.events.address_events target attempt_count
      with ⟨_, hrefused⟩ | ⟨_, _, heffect⟩
    · simp only [NotifyQuery.run, hrefused] at hmem
      exact .inl (.of_mem hmem hopen)
    · rcases begin_opens heffect t.deliveries.unique_delivery_id hmem hopen with
        hbefore | ⟨_, hkey, hattempt⟩
      · exact .inl hbefore
      · exact .inr ⟨target, attempt_count, rfl, hkey, hattempt⟩
  | insert_default_in_app_channel tenant_id =>
    refine .inl (.of_mem ?_ hopen)
    unfold NotifyQuery.run DeliveryTables.insert_default_in_app_channel at hmem
    dsimp only at hmem
    split at hmem <;> exact hmem
  | mark_external_notification_delivery_sent _ _ _ sent_at message_id status_code response =>
    exact .inl (mark_opens (f := (·.marked_sent sent_at message_id status_code response))
      (fun _ => ⟨rfl, rfl, rfl, rfl⟩) hmem hopen)
  | mark_external_notification_delivery_failed _ _ _ failure last_error status_code response =>
    exact .inl (mark_opens (f := (·.marked_failed failure last_error status_code response))
      (fun _ => ⟨rfl, rfl, rfl, rfl⟩) hmem hopen)
  | create_notification_delivery =>
    unfold NotifyQuery.run DeliveryTables.create_notification_delivery at hmem
    dsimp only at hmem
    split at hmem
    · rcases List.mem_append.mp hmem with hold | hnew
      · exact .inl (.of_mem hold hopen)
      · obtain rfl := List.mem_singleton.mp hnew
        exact absurd (.inl hq) hopen
    · exact .inl (.of_mem hmem hopen)
  | create_sent_in_app_delivery tenant_id event_id rule_id channel_id attempt_count sent_at title
      body =>
    rcases in_app_cases (t := t.deliveries) t.events.address_events tenant_id event_id rule_id
      channel_id attempt_count sent_at title body with ⟨_, hrefused⟩ | ⟨_, _, hrows⟩
    · simp only [NotifyQuery.run, hrefused] at hmem
      exact .inl (.of_mem hmem hopen)
    · simp only [NotifyQuery.run, hrows] at hmem
      rcases List.mem_append.mp hmem with hold | hnew
      · exact .inl (.of_mem hold hopen)
      · obtain rfl := List.mem_singleton.mp hnew
        exact absurd (.inl (.inl rfl)) hopen
  | _ => exact .inl (.of_mem hmem hopen)

section Steps
variable {W : Type} [DecidableEq W] {s t : Notifiers W} {w : W} {op : NotifyStatement}
  {r : AppResult op.Answer} {C : W → Notifiers W → ClaimChoice → NotifyQuery → Prop}

theorem carried_opens {delivery : NotificationDelivery} (hop : op.CreatesFinal)
    (hs : NotifyCarried C w s op r t)
    (hmem : delivery ∈ t.tables.deliveries.notification_deliveries) (hopen : ¬ Closed delivery) :
    OpenBefore s.tables delivery ∨ ∃ target attempt_count,
      op = .db (.begin_external_notification_delivery target attempt_count) ∧
        delivery.unique_key = some target.key ∧ delivery.attempt_count = attempt_count := by
  cases hs with
  | db choice hC hfate =>
    rw [learn_tables] at hmem
    rcases hfate.state with rfl | rfl
    · exact .inl (.of_mem hmem hopen)
    · rcases run_opens hop hmem hopen with hbefore | ⟨target, attempt_count, rfl, hnew⟩
      · exact .inl hbefore
      · exact .inr ⟨target, attempt_count, rfl, hnew⟩
  | _ => exact .inl (.of_mem hmem hopen)

end Steps

/-! ### What a worker may open -/

/-- What is open of the event of the item dates from earlier attempts. -/
def Older (t : NotifyTables) (item : NotificationOutboxItem) : Prop :=
  ∀ delivery ∈ t.deliveries.notification_deliveries, delivery.event_id = item.event_id →
    ¬ Closed delivery → delivery.attempt_count < notification_outbox_task_attempt item.attempt_count

/-- A worker begins deliveries of the items it has claimed, under the attempt of its claim, and marks an
item delivered when it is done with all its channels and none of them is left open. -/
def as_claimed {W : Type} (w : W) (s : Notifiers W) : NotifyStatement → Prop
  | .db (.begin_external_notification_delivery target attempt_count) =>
    ∃ item ∈ s.live w, item.event_id = target.event_id ∧
      attempt_count = notification_outbox_task_attempt item.attempt_count
  | .db (.mark_notification_outbox id mark) =>
    ∃ item ∈ s.live w, item.id = id ∧
      ∀ now, mark = .delivered now → AllHandled s.tables item ∧ Older s.tables item
  | op => op.CreatesFinal

theorem as_claimed.creates {W : Type} {w : W} {s : Notifiers W} {op : NotifyStatement}
    (h : as_claimed w s op) : op.CreatesFinal := by
  cases op with
  | db q => cases q <;> first | exact h | trivial
  | _ => trivial

/-- To the worker, the others open nothing that belongs to its items. -/
structure Calm {W : Type} (w : W) (s t : Notifiers W) : Prop where
  live : t.live w = s.live w
  deliveries : ∀ item ∈ s.live w, ∀ delivery ∈ t.tables.deliveries.notification_deliveries,
    delivery.event_id = item.event_id → ¬ Closed delivery → OpenBefore s.tables delivery

section Calm
variable {W : Type} {s t u : Notifiers W} {w : W}

theorem Calm.refl (w : W) (s : Notifiers W) : Calm w s s :=
  ⟨rfl, fun _ _ _ hmem _ hopen => .of_mem hmem hopen⟩

theorem Calm.trans (hst : Calm w s t) (htu : Calm w t u) : Calm w s u := by
  refine ⟨htu.live.trans hst.live, fun item hitem delivery hmem hevent hopen => ?_⟩
  obtain ⟨next, hnext, hnext_open, hsame⟩ :=
    htu.deliveries item (hst.live ▸ hitem) delivery hmem hevent hopen
  obtain ⟨first, hfirst, hfirst_open, hearlier⟩ :=
    hst.deliveries item hitem next hnext (hsame.event_id.symm.trans hevent) hnext_open
  exact ⟨first, hfirst, hfirst_open, hearlier.trans hsame⟩

theorem Older.calm {item : NotificationOutboxItem} (h : Older s.tables item)
    (hitem : item ∈ s.live w) (hst : Calm w s t) : Older t.tables item := by
  intro delivery hmem hevent hopen
  obtain ⟨before, hbefore, hbefore_open, hsame⟩ := hst.deliveries item hitem delivery hmem hevent hopen
  rw [hsame.attempt_count]
  exact h before hbefore (hsame.event_id.symm.trans hevent) hbefore_open

end Calm

/-! ### One attempt -/

section Assertions
variable {W : Type} (w : W)

/-- The claimed items, of which nothing is open yet in this attempt. -/
def untried (items : List NotificationOutboxItem) : Assn (Calm w) fun _ => True where
  holds s := s.live w = items ∧ ∀ item ∈ items, Older s.tables item
  stable := by
    rintro s t ⟨hlive, holder⟩ hst
    refine ⟨hst.live.trans hlive, fun item hitem => (holder item hitem).calm ?_ hst⟩
    rw [hlive]
    exact hitem
  good _ := trivial

/-- The item at hand, of which at most these deliveries are open in this attempt. -/
def trying (item : NotificationOutboxItem) (rest : List NotificationOutboxItem)
    (opened : Uuid → Prop) : Assn (Calm w) fun _ => True where
  holds s := s.live w = item :: rest ∧ (∀ other ∈ rest, Older s.tables other) ∧
    ∀ delivery ∈ s.tables.deliveries.notification_deliveries,
      delivery.event_id = item.event_id → ¬ Closed delivery →
        delivery.attempt_count < notification_outbox_task_attempt item.attempt_count ∨
          opened delivery.id
  stable := by
    rintro s t ⟨hlive, holder, hitem⟩ hst
    refine ⟨hst.live.trans hlive, fun other hother => (holder other hother).calm ?_ hst,
      fun delivery hmem hevent hopen => ?_⟩
    · rw [hlive]
      exact List.mem_cons_of_mem _ hother
    · have hown : item ∈ s.live w := hlive ▸ List.mem_cons_self ..
      obtain ⟨before, hbefore, hbefore_open, hsame⟩ :=
        hst.deliveries item hown delivery hmem hevent hopen
      rw [hsame.attempt_count, hsame.id]
      exact hitem before hbefore (hsame.event_id.symm.trans hevent) hbefore_open
  good _ := trivial

end Assertions

/-- No delivery. -/
abbrev nothing : Uuid → Prop :=
  fun _ => False

/-- What a begin has opened. -/
def begun : ExternalDeliveryStart → Uuid → Prop
  | .AlreadyComplete _ => nothing
  | .ReadyToSend delivery_id => (· = delivery_id)

/-- A part of an attempt on the item, from what is open before it to what is open after it. After an
error anything may be open. -/
abbrev Trying {W : Type} [DecidableEq W] (Inv : Notifiers W → Prop)
    (C : W → Notifiers W → ClaimChoice → NotifyQuery → Prop) (w : W)
    (item : NotificationOutboxItem) (rest : List NotificationOutboxItem) {α : Type}
    (before : Uuid → Prop) (p : Notify α) (after : α → Uuid → Prop) : Prop :=
  Triple (as_claimed w) (Within Inv (NotifyCarried C w)) (trying w item rest before) p
    (fun a => trying w item rest (after a)) fun _ => trying w item rest fun _ => True

/-- Statements of an attempt that open nothing. -/
def NotifyStatement.Idle : NotifyStatement → Prop
  | .db (.begin_external_notification_delivery ..) => False
  | op => op.Attempt ∧ op.CreatesFinal

theorem NotifyStatement.Idle.attempt {op : NotifyStatement} (h : op.Idle) :
    op.Attempt ∧ op.CreatesFinal := by
  cases op with
  | db q => cases q <;> first | exact h.elim | exact h
  | _ => exact h

theorem NotifyStatement.Quiet.idle {op : NotifyStatement} (h : op.Quiet) : op.Idle := by
  cases op with
  | db q => cases q <;> first | exact h.elim | exact ⟨trivial, trivial⟩
  | env_var => exact ⟨trivial, trivial⟩
  | send_telegram => exact h.elim
  | send_webhook => exact h.elim

section Try
variable {W : Type} [DecidableEq W] {s t : Notifiers W} {w : W} {Inv : Notifiers W → Prop}
  {C : W → Notifiers W → ClaimChoice → NotifyQuery → Prop} {item : NotificationOutboxItem}
  {rest : List NotificationOutboxItem} {α : Type} {p : Notify α} {opened opened' : Uuid → Prop}

omit [DecidableEq W] in
theorem trying_mono (h : (trying w item rest opened).holds s) (hle : ∀ id, opened id → opened' id) :
    (trying w item rest opened').holds s := by
  obtain ⟨hlive, hrest, hitem⟩ := h
  exact ⟨hlive, hrest, fun delivery hmem hevent hopen =>
    (hitem delivery hmem hevent hopen).imp_right (hle _)⟩

theorem trying_idle {op : NotifyStatement} {r : AppResult op.Answer} (hop : op.Idle)
    (h : (trying w item rest opened).holds s) (hs : NotifyCarried C w s op r t) :
    (trying w item rest opened).holds t := by
  obtain ⟨hattempt, hcreates⟩ := hop.attempt
  have hbefore : ∀ delivery ∈ t.tables.deliveries.notification_deliveries, ¬ Closed delivery →
      OpenBefore s.tables delivery := by
    intro delivery hmem hopen
    rcases carried_opens hcreates hs hmem hopen with hbefore | ⟨target, attempt_count, rfl, _⟩
    · exact hbefore
    · exact hop.elim
  refine (trying w item rest opened).stable h ⟨?_, fun _ _ delivery hmem _ hopen =>
    hbefore delivery hmem hopen⟩
  exact congrFun (carried_live_of_attempt hattempt hs) w

theorem Trying.idle (hp : p.Only NotifyStatement.Idle) :
    Trying Inv C w item rest opened p fun _ => opened := by
  have hkeeps : Triple (as_claimed w) (Within Inv (NotifyCarried C w)) (trying w item rest opened) p
      (fun _ => trying w item rest opened) fun _ => trying w item rest opened := by
    refine .of_only hp (fun op hop s _ => ?_) fun op hop s hs r t ht => trying_idle hop hs ht.2.1
    obtain ⟨hattempt, hcreates⟩ := hop.attempt
    cases op with
    | db q => cases q <;> first | exact hop.elim | exact hattempt.elim | exact hcreates
    | _ => exact hcreates
  exact hkeeps.consequence (fun _ h => h) (fun _ _ h => h) fun _ _ h => trying_mono h fun _ _ => trivial

/-- A begin opens at most the delivery it answers. -/
theorem Trying.begin (hInv : ∀ s, Inv s → Exclusive s) {target : ExternalTarget}
    {attempt_count : Int} (hevent : target.event_id = item.event_id)
    (hattempt : attempt_count = notification_outbox_task_attempt item.attempt_count) :
    Trying Inv C w item rest nothing
      (query (.begin_external_notification_delivery target attempt_count)) begun := by
  refine .perform (fun s hs => ⟨item, hs.1 ▸ List.mem_cons_self .., hevent.symm, hattempt⟩)
    fun s hs r t ht => ?_
  obtain ⟨hinv, hcarried, _⟩ := ht
  obtain ⟨hlive, hrest, hitem⟩ := hs
  have hop : NotifyStatement.Attempt
      (.db (.begin_external_notification_delivery target attempt_count)) := trivial
  have hcreates : NotifyStatement.CreatesFinal
      (.db (.begin_external_notification_delivery target attempt_count)) := trivial
  have hlive' : t.live w = item :: rest :=
    (congrFun (carried_live_of_attempt hop hcarried) w).trans hlive
  have hrest' : ∀ other ∈ rest, Older t.tables other := by
    intro other hother delivery hmem hsame hopen
    rcases carried_opens hcreates hcarried hmem hopen with
      ⟨before, hbefore, hbefore_open, hsame'⟩ | ⟨target', attempt', hbegin, hkey, _⟩
    · rw [hsame'.attempt_count]
      exact hrest other hother before hbefore (hsame'.event_id.symm.trans hsame) hbefore_open
    · -- the new delivery is for another event
      obtain ⟨rfl, rfl⟩ := NotifyQuery.begin_external_notification_delivery.inj
        (NotifyStatement.db.inj hbegin)
      have hother' : other ∈ s.live w := hlive ▸ List.mem_cons_of_mem _ hother
      have hown : item ∈ s.live w := hlive ▸ List.mem_cons_self ..
      have hevents : other.event_id = item.event_id :=
        hsame.symm.trans ((key_columns hkey).1.trans hevent)
      have hid := ((hInv s hinv).same_event hother' hown hevents).2
      have hnodup := (hInv s hinv).nodup w
      rw [hlive, List.map_cons, List.nodup_cons] at hnodup
      exact absurd (hid ▸ List.mem_map_of_mem hother) hnodup.1
  cases r with
  | error error => exact ⟨hlive', hrest', fun _ _ _ _ => .inr trivial⟩
  | ok start =>
    refine ⟨hlive', hrest', fun delivery hmem hsame hopen => ?_⟩
    obtain ⟨choice, hok, htables⟩ := carried_answer hcarried
    rw [htables] at hmem
    rcases @DeliveryTables.begin_cases s.tables.deliveries s.tables.events.address_events target
      attempt_count with ⟨_, hrefused⟩ | ⟨start', hstart, heffect⟩
    · exact nomatch (congrArg Prod.fst hrefused).symm.trans hok
    · obtain rfl := Except.ok.inj (hstart.symm.trans hok)
      rcases begin_opens heffect s.tables.deliveries.unique_delivery_id hmem hopen with
        ⟨before, hbefore, hbefore_open, hsame'⟩ | ⟨rfl, _, _⟩
      · rw [hsame'.attempt_count]
        exact .inl ((hitem before hbefore (hsame'.event_id.symm.trans hsame)
          hbefore_open).resolve_right fun h => h)
      · exact .inr rfl

/-- A mark that closes the open delivery leaves none. -/
theorem Trying.mark {q : NotifyQuery} {delivery_id : Uuid}
    (hq : NotifyStatement.Idle (.db q))
    (hcloses : ∀ t choice a, (q.run choice t).1 = .ok a →
      ∀ delivery ∈ (q.run choice t).2.deliveries.notification_deliveries, ¬ Closed delivery →
        delivery.id ≠ delivery_id) :
    Trying Inv C w item rest (· = delivery_id) (query q) fun _ => nothing := by
  refine .perform (fun s _ => ?_) fun s hs r t ht => ?_
  · obtain ⟨hattempt, hcreates⟩ := hq.attempt
    cases q <;> first | exact hq.elim | exact hattempt.elim | exact hcreates
  have hkept := trying_idle hq hs ht.2.1
  cases r with
  | error error => exact trying_mono hkept fun _ _ => trivial
  | ok a =>
    obtain ⟨hlive, hrest, hitem⟩ := hkept
    obtain ⟨choice, hok, htables⟩ := carried_answer ht.2.1
    refine ⟨hlive, hrest, fun delivery hmem hevent hopen => ?_⟩
    refine .inl ((hitem delivery hmem hevent hopen).resolve_right fun hid => ?_)
    rw [htables] at hmem
    exact hcloses _ choice a hok delivery hmem hopen hid

/-- The part before it opens nothing. -/
theorem Trying.before {β : Type} {f : α → Notify β} {after : β → Uuid → Prop}
    (hp : p.Only NotifyStatement.Idle)
    (hf : ∀ a, Trying Inv C w item rest opened (f a) after) :
    Trying Inv C w item rest opened (p.bind f) after :=
  .bind (Calm.refl w) (Trying.idle hp) hf

section Channel
variable {parsers : Parsers} {task : NotifyEventTask} {event : AddressEvent}
  {rule : NotificationRule} {now : Timestamp}

theorem not_sent_trying (delivery_id : Uuid) (message : String) :
    Trying Inv C w item rest (· = delivery_id)
      (query (.mark_external_notification_delivery_failed task.tenant_id delivery_id task.attempt
        .not_sent message none none)) fun _ => nothing :=
  .mark ⟨trivial, trivial⟩ fun _ _ _ hok _ hmem hopen =>
    mark_closes (fun _ => .inr ⟨rfl, .inr rfl⟩) hok hmem hopen

/-- Only a transient failure leaves the delivery open, and that is an error. -/
theorem outcome_trying (delivery_id : Uuid) (outcome : ExternalSendOutcome) :
    Trying Inv C w item rest (· = delivery_id) (record_outcome task now delivery_id outcome)
      fun _ => nothing := by
  cases outcome with
  | Sent metadata =>
    refine .bind (Calm.refl w) (Q := fun _ => trying w item rest nothing) ?_ fun _ =>
      .done fun _ h => h
    exact Trying.mark ⟨trivial, trivial⟩ fun _ _ _ hok _ hmem hopen =>
      mark_closes (fun _ => .inl (.inl rfl)) hok hmem hopen
  | PermanentFailure metadata =>
    refine .bind (Calm.refl w) (Q := fun _ => trying w item rest nothing) ?_ fun _ =>
      .done fun _ h => h
    exact Trying.mark ⟨trivial, trivial⟩ fun _ _ _ hok _ hmem hopen =>
      mark_closes (fun _ => .inr ⟨rfl, .inl rfl⟩) hok hmem hopen
  | TransientFailure metadata =>
    refine Trying.before (.perform ⟨trivial, trivial⟩) fun _ => .fail fun _ h => ?_
    exact trying_mono h fun _ _ => trivial

theorem external_trying (hInv : ∀ s, Inv s → Exclusive s) (channel_id : Uuid)
    (channel_type : ExternalChannelType) (hevent : task.event_id = item.event_id)
    (hattempt : task.attempt = notification_outbox_task_attempt item.attempt_count) :
    Trying Inv C w item rest nothing
      (process_external_channel_delivery parsers task event rule now channel_id channel_type)
      fun _ => nothing := by
  refine .bind (Calm.refl w) (Trying.begin hInv hevent (congrArg Int.ofNat hattempt)) fun start => ?_
  cases start with
  | AlreadyComplete delivery_id => exact .done fun _ h => h
  | ReadyToSend delivery_id =>
    refine Trying.before (.perform ⟨trivial, trivial⟩) fun channels => ?_
    refine Trying.before .lift fun channel => ?_
    refine Trying.before ?_ fun sent => ?_
    · cases channel_type with
      | Telegram =>
        exact telegram_only (fun _ h => h.idle) _ _ fun _ _ _ _ => ⟨trivial, trivial⟩
      | Webhook => exact webhook_only (fun _ h => h.idle) _ _ _ fun _ _ => ⟨trivial, trivial⟩
    · cases sent with
      | error message => exact not_sent_trying delivery_id message
      | ok outcome => exact outcome_trying delivery_id outcome

/-- Where a plan creates a delivery outright, the delivery is final. -/
theorem plan_final (channel : NotificationChannel)
    (h : (build_delivery_plan channel).external_channel_type = none) :
    (build_delivery_plan channel).status = .sent ∨
      (build_delivery_plan channel).status = .skipped := by
  unfold build_delivery_plan at h ⊢
  split at h
  · exact .inl rfl
  · exact nomatch h
  · exact .inr rfl

theorem delivery_trying (hInv : ∀ s, Inv s → Exclusive s) (plan : NotifyDeliveryPlan)
    (hplan : plan.external_channel_type = none → plan.status = .sent ∨ plan.status = .skipped)
    (hevent : task.event_id = item.event_id)
    (hattempt : task.attempt = notification_outbox_task_attempt item.attempt_count) :
    Trying Inv C w item rest nothing (process_channel_delivery parsers task event rule now plan)
      fun _ => nothing := by
  unfold process_channel_delivery
  split
  · exact Trying.idle (.perform ⟨trivial, trivial⟩)
  · split
    · exact external_trying hInv _ _ hevent hattempt
    · rename_i hnone
      exact Trying.idle (.perform ⟨trivial, hplan hnone⟩)

theorem channel_trying (hInv : ∀ s, Inv s → Exclusive s) (channel : ResolvedNotifyChannel)
    (hevent : task.event_id = item.event_id)
    (hattempt : task.attempt = notification_outbox_task_attempt item.attempt_count) :
    Trying Inv C w item rest nothing
      (process_resolved_channel parsers task event rule now channel) fun _ => nothing := by
  cases channel with
  | Active channel => exact delivery_trying hInv _ (plan_final channel) hevent hattempt
  | Inactive channel_id =>
    exact @delivery_trying W _ w Inv C item rest parsers task event rule now hInv
      (build_unavailable_channel_delivery_plan channel_id) (fun _ => .inr rfl) hevent hattempt
  | Missing channel_id => exact Trying.idle (.perform ⟨trivial, .inr rfl⟩)

end Channel

/-- An attempt that returns leaves nothing of its item open. -/
theorem item_trying (hInv : ∀ s, Inv s → Exclusive s) {parsers : Parsers} {now : Timestamp} :
    Trying Inv C w item rest nothing (process_notification_outbox_item parsers item now)
      fun _ => nothing := by
  refine Trying.before (.perform ⟨trivial, trivial⟩) fun event => ?_
  refine Trying.before (.perform ⟨trivial, trivial⟩) fun rules => ?_
  refine .bind (Calm.refl w) (Q := fun _ => trying w item rest nothing) ?_ fun _ =>
    .done fun _ h => h
  refine rules_walk (Calm.refl w) (J := fun _ => trying w item rest nothing)
    (M := fun _ _ _ _ => trying w item rest nothing) ?_ ?_ fun _ _ _ _ h => h
  · intro pre rule post _
    exact Trying.idle ((resolve_quiet _).mono fun _ h => h.idle)
  · intro pre rule post _ channels done channel todo _
    exact channel_trying hInv channel rfl rfl

end Try

end CoinListener.Notifier
