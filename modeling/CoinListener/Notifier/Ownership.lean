import CoinListener.Notifier.Batch
import Mathlib.Data.Fintype.Defs

/-! Whose claim a mark ends: rows are marked by their identifier and status alone. -/
namespace CoinListener.Notifier
open Foundation Storage

/-! ### Claims and rows -/

/-- A row after its claim: as claimed, or no longer being processed. -/
structure Claimed (item row : NotificationOutboxItem) : Prop where
  id : row.id = item.id
  event_id : row.event_id = item.event_id
  tenant_id : row.tenant_id = item.tenant_id
  attempt_count : row.attempt_count = item.attempt_count
  locked_by : row.status = .processing → row.locked_by = item.locked_by

theorem Claimed.refl (item : NotificationOutboxItem) : Claimed item item :=
  ⟨rfl, rfl, rfl, rfl, fun _ => rfl⟩

theorem Claimed.trans {a b c : NotificationOutboxItem} (hab : Claimed a b) (hbc : Claimed b c)
    (hstatus : c.status = .processing → b.status = .processing) : Claimed a c where
  id := hbc.id.trans hab.id
  event_id := hbc.event_id.trans hab.event_id
  tenant_id := hbc.tenant_id.trans hab.tenant_id
  attempt_count := hbc.attempt_count.trans hab.attempt_count
  locked_by h := (hbc.locked_by h).trans (hab.locked_by (hstatus h))

/-- The row goes on without a new claim. -/
def Steady (a b : NotificationOutboxItem) : Prop :=
  Claimed a b ∧ (b.status = .processing → a.status = .processing)

theorem Steady.refl (a : NotificationOutboxItem) : Steady a a :=
  ⟨.refl a, id⟩

/-- A change that ends the processing of a row is steady. -/
theorem Steady.idle {a b : NotificationOutboxItem} (hid : b.id = a.id)
    (hevent : b.event_id = a.event_id) (htenant : b.tenant_id = a.tenant_id)
    (hattempt : b.attempt_count = a.attempt_count) (h : b.status ≠ .processing) : Steady a b :=
  ⟨⟨hid, hevent, htenant, hattempt, fun hb => absurd hb h⟩, fun hb => absurd hb h⟩

/-- No row is lost, and none is claimed. -/
def SteadyRows (t u : EventTables) : Prop :=
  ∀ a ∈ t.notification_outbox, ∃ b ∈ u.notification_outbox, Steady a b

theorem SteadyRows.refl (t : EventTables) : SteadyRows t t :=
  fun a ha => ⟨a, ha, .refl a⟩

section Tables
variable {t u : EventTables}

theorem SteadyRows.update {p : NotificationOutboxItem → Bool}
    {f : NotificationOutboxItem → NotificationOutboxItem}
    (hu : u.notification_outbox = Table.update p f t.notification_outbox)
    (h : ∀ item, Steady item (f item)) : SteadyRows t u := by
  intro a ha
  rw [hu]
  refine ⟨_, Table.mem_update.mpr ⟨a, ha, rfl⟩, ?_⟩
  cases hp : p a with
  | true =>
    rw [Table.revise_of_true hp]
    exact h a
  | false =>
    rw [Table.revise_of_false hp]
    exact .refl a

theorem mark_steady (id : Uuid) (mark : OutboxMark) :
    SteadyRows t (t.mark_notification_outbox id mark).2 := by
  unfold EventTables.mark_notification_outbox
  split
  · exact .update rfl fun _ => .idle mark.apply_id mark.apply_event_id mark.apply_tenant_id
      mark.apply_attempt_count mark.apply_status
  · exact .refl t

theorem insert_steady (draft : AddressEventDraft) :
    SteadyRows t (t.insert_event_and_outbox_if_not_exists draft).2 := by
  intro a ha
  rcases t.insert_cases draft with ⟨_, hr⟩ | ⟨_, _, _, ho⟩
  · rw [hr]
    exact ⟨a, ha, .refl a⟩
  · rw [ho]
    exact ⟨a, List.mem_append_left _ ha, .refl a⟩

end Tables

/-- No statement but a claim claims a row. -/
theorem run_steady {q : NotifyQuery} {choice : ClaimChoice} {t : NotifyTables}
    (h : ∀ now worker_id limit, q ≠ .claim_due_notification_outbox now worker_id limit) :
    SteadyRows t.events (q.run choice t).2.events := by
  cases q with
  | release_stale_notification_outbox =>
    exact .update rfl fun item => .idle rfl rfl rfl rfl nofun
  | claim_due_notification_outbox now worker_id limit => exact absurd rfl (h now worker_id limit)
  | mark_notification_outbox id mark => exact mark_steady id mark
  | _ => exact .refl _

theorem others_steady {W : Type} {E : NotifyEdit → Prop} {s t : Notifiers W}
    (h : NotifyOthers E s t) : SteadyRows s.tables.events t.tables.events := by
  cases h with
  | event draft => exact insert_steady draft
  | manual_retry => exact .update rfl fun item => .idle rfl rfl rfl rfl nofun
  | configure => exact .refl _

/-! ### One attempt at a time -/

/-- A claim takes no row on which an attempt is still under way. -/
def Unshared {W : Type} (_ : W) (s : Notifiers W) (choice : ClaimChoice) : NotifyQuery → Prop
  | .claim_due_notification_outbox now _ limit =>
    ∀ row ∈ s.tables.events.due now limit choice.skipped, ∀ v, ∀ item ∈ s.live v, item.id ≠ row.id
  | _ => True

/-- Each claim still under way is the last one of its row. -/
structure Exclusive {W : Type} (s : Notifiers W) : Prop where
  row : ∀ w, ∀ item ∈ s.live w, ∃ row ∈ s.tables.events.notification_outbox, Claimed item row
  nodup : ∀ w, ((s.live w).map (·.id)).Nodup
  apart : ∀ v w, v ≠ w → ∀ a ∈ s.live v, ∀ b ∈ s.live w, a.id ≠ b.id

section Exclusive
variable {W : Type} [DecidableEq W] {s t : Notifiers W} {w : W} {q : NotifyQuery}
  {choice : ClaimChoice} {op : NotifyStatement} {r : AppResult op.Answer}

omit [DecidableEq W] in
/-- Fewer claims and steady rows. -/
theorem Exclusive.steady (h : Exclusive s) (hrows : SteadyRows s.tables.events t.tables.events)
    (hlive : ∀ w, (t.live w).Sublist (s.live w)) : Exclusive t where
  row w item hitem := by
    obtain ⟨row, hrow, hclaimed⟩ := h.row w item ((hlive w).subset hitem)
    obtain ⟨next, hnext, hsteady, hstatus⟩ := hrows row hrow
    exact ⟨next, hnext, hclaimed.trans hsteady hstatus⟩
  nodup w := (h.nodup w).sublist ((hlive w).map _)
  apart v w hv a ha b hb := h.apart v w hv a ((hlive v).subset ha) b ((hlive w).subset hb)

omit [DecidableEq W] in
/-- The claimed item of a row. -/
theorem Exclusive.claimed_row (h : Exclusive s) {item row : NotificationOutboxItem}
    (hitem : item ∈ s.live w) (hrow : row ∈ s.tables.events.notification_outbox)
    (hid : row.id = item.id) : Claimed item row := by
  obtain ⟨found, hfound, hclaimed⟩ := h.row w item hitem
  rwa [EventTables.same_row hrow hfound (hid.trans hclaimed.id.symm)]

theorem Exclusive.set_live_nil (h : Exclusive s) : Exclusive (s.set_live w []) := by
  refine h.steady (.refl _) fun v => ?_
  by_cases hv : v = w
  · subst v
    simp [Notifiers.set_live]
  · simp [Notifiers.set_live, hv]

/-- An answer to anything but a claim takes no row more. -/
theorem learn_sublist {r : AppResult q.Answer}
    (hq : ∀ now worker_id limit, q ≠ .claim_due_notification_outbox now worker_id limit) (v : W) :
    ((s.learn w q r).live v).Sublist (s.live v) := by
  by_cases hv : v = w
  · subst v
    unfold Notifiers.learn
    split
    · exact absurd rfl (hq _ _ _)
    · simp [Notifiers.set_live]
    · simp [Notifiers.set_live]
    · exact .refl _
    · exact .refl _
  · rw [learn_live_of_ne hv]

/-- A claim makes its worker's items the rows it has taken. -/
theorem Exclusive.claim {now : Timestamp} {worker_id : String} {limit : Int}
    (h : Exclusive s)
    (hC : Unshared w s choice (.claim_due_notification_outbox now worker_id limit))
    {r : AppResult (List NotificationOutboxItem)} {u : Notifiers W}
    (hfate : Fate AppError.Database s
      (s.query w choice (.claim_due_notification_outbox now worker_id limit)) r u)
    (honce : LiveOnce (u.learn w (.claim_due_notification_outbox now worker_id limit) r)) :
    Exclusive (u.learn w (.claim_due_notification_outbox now worker_id limit) r) := by
  have hkept : Exclusive u := by
    rcases hfate.state with rfl | rfl
    · exact h
    · rcases query_claim_cases s w choice now worker_id limit with ⟨_, _, htables, _⟩ |
        ⟨_, _, _, hrows, _⟩
      · exact h.steady (by rw [htables]; exact .refl _) fun v => .refl _
      · refine ⟨fun v item hitem => ?_, h.nodup, h.apart⟩
        obtain ⟨row, hrow, hclaimed⟩ := h.row v item hitem
        refine ⟨row, hrows.symm ▸ Table.mem_update_of_false ?_ hrow, hclaimed⟩
        rw [List.any_eq_false]
        intro due hdue hsame
        exact hC due hdue v item hitem (hclaimed.id.symm.trans (beq_iff_eq.mp hsame).symm)
  cases r with
  | error e => exact ⟨hkept.row, hkept.nodup, hkept.apart⟩
  | ok items =>
    obtain ⟨rfl, hperm⟩ := claim_answered hfate
    have hmem : ∀ item ∈ items, ∃ row ∈ s.tables.events.due now limit choice.skipped,
        item = row.claimed now worker_id := by
      intro item hitem
      obtain ⟨row, hrow, hsame⟩ := List.mem_map.mp (hperm.subset hitem)
      exact ⟨row, hrow, hsame.symm⟩
    have hfresh : ∀ v, ∀ a ∈ s.live v, ∀ b ∈ items, a.id ≠ b.id := by
      intro v a ha b hb
      obtain ⟨row, hrow, rfl⟩ := hmem b hb
      exact hC row hrow v a ha
    refine ⟨fun v item hitem => ?_, honce, fun v x hv a ha b hb => ?_⟩
    · by_cases hv : v = w
      · subst v
        rw [learn_claim_live] at hitem
        obtain ⟨row, hrow, rfl⟩ := hmem item hitem
        rcases query_claim_cases s w choice now worker_id limit with ⟨_, herror, _⟩ |
          ⟨_, _, _, hrows, _⟩
        · exact nomatch herror.symm.trans hfate.answer.1
        · refine ⟨row.claimed now worker_id, ?_, .refl _⟩
          refine hrows.symm ▸ Table.mem_update.mpr ⟨row, (EventTables.mem_due hrow).1, ?_⟩
          exact Table.revise_of_true (List.any_eq_true.mpr ⟨row, hrow, beq_self_eq_true _⟩)
      · rw [learn_live_of_ne hv] at hitem
        exact hkept.row v item hitem
    · by_cases hvw : v = w
      · subst v
        rw [learn_claim_live] at ha
        rw [learn_live_of_ne hv.symm] at hb
        exact (hfresh x b hb a ha).symm
      · rw [learn_live_of_ne hvw] at ha
        by_cases hx : x = w
        · subst x
          rw [learn_claim_live] at hb
          exact hfresh v a ha b hb
        · rw [learn_live_of_ne hx] at hb
          exact h.apart v x hv a ha b hb

/-- Any statement keeps one attempt at a time, if claims do. -/
theorem Exclusive.statement {C : W → Notifiers W → ClaimChoice → NotifyQuery → Prop}
    (hC : ∀ w s choice q, C w s choice q → Unshared w s choice q) (h : Exclusive s)
    (hs : NotifyCarried C w s op r t) : Exclusive t := by
  have honce : LiveOnce t := LiveOnce.statement h.nodup hs
  cases hs with
  | @db q r u choice hallowed hfate =>
    by_cases hq : ∃ now worker_id limit, q = .claim_due_notification_outbox now worker_id limit
    · obtain ⟨now, worker_id, limit, rfl⟩ := hq
      exact h.claim (hC _ _ _ _ hallowed) hfate honce
    · have hq' : ∀ now worker_id limit, q ≠ .claim_due_notification_outbox now worker_id limit :=
        fun now worker_id limit hsame => hq ⟨now, worker_id, limit, hsame⟩
      have hu : SteadyRows s.tables.events u.tables.events ∧ u.live = s.live := by
        rcases hfate.state with rfl | rfl
        · exact ⟨.refl _, rfl⟩
        · exact ⟨run_steady hq', rfl⟩
      refine h.steady ?_ fun v => ?_
      · rw [learn_tables]
        exact hu.1
      · rw [← hu.2]
        exact learn_sublist hq' v
  | env_var => exact h
  | send_telegram => exact h.steady (.refl _) fun v => .refl _
  | webhook_refused => exact h
  | send_webhook => exact h.steady (.refl _) fun v => .refl _

omit [DecidableEq W] in
theorem Exclusive.others {E : NotifyEdit → Prop} (h : Exclusive s) (ho : NotifyOthers E s t) :
    Exclusive t := by
  refine h.steady (others_steady ho) fun v => ?_
  cases ho <;> exact .refl _

theorem Exclusive.launch {setup : NotifierSetup W} {p : Notify Nat} (h : Exclusive s)
    (hl : NotifyLaunch setup w s p t) : Exclusive t := by
  cases hl <;> exact h.set_live_nil

omit [DecidableEq W] in
theorem Exclusive.start (deliveries : DeliveryTables) :
    Exclusive (notify_start (W := W) deliveries).1 := by
  constructor <;> simp [notify_start]

end Exclusive

/-! ### The marks -/

/-- The mark ends the claim of the worker that issued it. -/
def OutboxMarking.Current (marking : OutboxMarking) : Prop :=
  ∃ item, marking.claim = some item ∧ marking.found.locked_by = item.locked_by ∧
    marking.found.attempt_count = item.attempt_count

structure OwnMarks {W : Type} (s : Notifiers W) : Prop where
  exclusive : Exclusive s
  marks : ∀ marking ∈ s.marks, marking.Current

/-- A worker marks only what it has claimed. -/
def marks_claimed {W : Type} (w : W) (s : Notifiers W) : NotifyStatement → Prop
  | .db (.mark_notification_outbox id _) => ∃ item ∈ s.live w, item.id = id
  | _ => True

section Own
variable {W : Type} [DecidableEq W] {s t : Notifiers W} {w : W} {op : NotifyStatement}
  {r : AppResult op.Answer}

theorem mem_marked_rows {q : NotifyQuery} {tables : NotifyTables}
    {marked : NotificationOutboxItem × OutboxMark} (h : marked ∈ marked_rows tables q) :
    marked.1 ∈ tables.events.notification_outbox ∧ marked.1.status = .processing ∧
      q = .mark_notification_outbox marked.1.id marked.2 := by
  cases q with
  | mark_notification_outbox id mark =>
    obtain ⟨row, hrow, rfl⟩ := List.mem_map.mp h
    obtain ⟨hmem, hmarkable⟩ := List.mem_filter.mp hrow
    obtain ⟨rfl, hstatus⟩ := EventTables.markable_iff.mp hmarkable
    exact ⟨hmem, hstatus, rfl⟩
  | _ => exact nomatch h

omit [DecidableEq W] in
/-- A claimed item is found by its identifier. -/
theorem Exclusive.claim_of (h : Exclusive s) {item : NotificationOutboxItem}
    (hitem : item ∈ s.live w) : s.claim_of w item.id = some item := by
  have hfind := Table.find_of_mem (h.nodup w) hitem
  unfold Table.find at hfind
  rw [Notifiers.claim_of, ← hfind]
  congr 1

theorem OwnMarks.statement (h : OwnMarks s) (hA : marks_claimed w s op)
    (hs : NotifyCarried Unshared w s op r t) : OwnMarks t := by
  refine ⟨h.exclusive.statement (fun _ _ _ _ hC => hC) hs, ?_⟩
  cases hs with
  | @db q r u choice hallowed hfate =>
    rw [learn_marks]
    rcases hfate.state with rfl | rfl
    · exact h.marks
    · intro marking hmarking
      rcases List.mem_append.mp hmarking with hold | hnew
      · exact h.marks marking hold
      · obtain ⟨marked, hmarked, rfl⟩ := List.mem_map.mp hnew
        obtain ⟨hmem, hstatus, rfl⟩ := mem_marked_rows hmarked
        obtain ⟨item, hitem, hid⟩ := hA
        have hclaimed := h.exclusive.claimed_row hitem hmem hid.symm
        refine ⟨item, ?_, hclaimed.locked_by hstatus, hclaimed.attempt_count⟩
        rw [← hid]
        exact h.exclusive.claim_of hitem
  | env_var => exact h.marks
  | send_telegram => exact h.marks
  | webhook_refused => exact h.marks
  | send_webhook => exact h.marks

theorem own_marks_rules (setup : NotifierSetup W) (E : NotifyEdit → Prop) :
    Prog.Crew.Rules (NotifyCarried Unshared) (NotifyOthers E) (NotifyLaunch setup)
      (OwnMarks (W := W)) marks_claimed (fun w => Prog.Keeps (holding w)) fun _ _ _ => True := by
  refine holding_rules ?_ ?_ (fun s h => h.exclusive.nodup) ?_ ?_ ?_
  · intro w s op hop
    cases op with
    | db q => cases q <;> first | trivial | exact absurd rfl (hop _ _)
    | _ => trivial
  · intro w now item rest result s hlive
    exact ⟨item, hlive ▸ List.mem_cons_self .., rfl⟩
  · intro w s p t h hl
    exact ⟨h.exclusive.launch hl, by cases hl <;> exact h.marks⟩
  · intro w s op r t h hA hs
    exact h.statement hA hs
  · intro s t h ho
    exact ⟨h.exclusive.others ho, by cases ho <;> exact h.marks⟩

/-- As long as no row is claimed while an attempt on it is still under way, a mark that changes a
row ends the claim of the worker that issued it. -/
theorem marks_are_current {setup : NotifierSetup W} {deliveries : DeliveryTables}
    {s : Notifiers W} {ps : W → Notify Nat}
    (hrun : Relation.ReflTransGen (NotifyStep setup Unshared fun _ => True)
      (notify_start deliveries) (s, ps)) : ∀ marking ∈ s.marks, marking.Current := by
  have hstart : Prog.Crew.Good (NotifyCarried Unshared) OwnMarks marks_claimed
      (fun w : W => Prog.Keeps (holding w)) (fun _ _ _ => True)
      (notify_start (W := W) deliveries).1 (notify_start (W := W) deliveries).2 :=
    ⟨⟨.start deliveries, by simp [notify_start]⟩, fun _ _ _ => ⟨trivial, trivial⟩⟩
  exact (hstart.run (own_marks_rules setup fun _ => True) hrun).inv.marks

end Own

/-! ### Two notifiers on one row -/

section Answered
variable {W : Type} [DecidableEq W]

/-- Every statement is answered, and every send has the outcome given for its pair. -/
def answered (outcome : DeliveryPair → ExternalSendOutcome) (w : W) (s : Notifiers W) :
    (op : NotifyStatement) → AppResult op.Answer × Notifiers W
  | .db q => ((s.query w .plain q).1, (s.query w .plain q).2.learn w q (s.query w .plain q).1)
  | .env_var _ => (.ok (some "secret"), s)
  | .send_telegram pair attempt_count .. =>
    (.ok (outcome pair), s.sent w pair attempt_count (outcome pair))
  | .send_webhook pair attempt_count .. =>
    (.ok (.ok (outcome pair)), s.sent w pair attempt_count (outcome pair))

theorem answered_carried {outcome : DeliveryPair → ExternalSendOutcome} {w : W} {s : Notifiers W}
    {C : W → Notifiers W → ClaimChoice → NotifyQuery → Prop} (op : NotifyStatement)
    (hC : ∀ q, op = .db q → C w s .plain q) :
    NotifyCarried C w s op (answered outcome w s op).1 (answered outcome w s op).2 := by
  cases op with
  | db q => exact .db .plain (hC q rfl) .answered
  | env_var => exact .env_var _
  | send_telegram => exact .send_telegram _
  | send_webhook => exact .send_webhook _

/-- The batch of a notifier. -/
def batch_of (setup : NotifierSetup W) (w : W) (now : Timestamp) : Notify Nat :=
  process_notification_outbox_batch setup.parsers (setup.worker_id w) setup.config now

variable {setup : NotifierSetup W} {C : W → Notifiers W → ClaimChoice → NotifyQuery → Prop}
  {E : NotifyEdit → Prop}

/-- A worker goes on for so many statements. -/
theorem more_steps {w : W} (hC : ∀ s q, C w s .plain q)
    (outcome : DeliveryPair → ExternalSendOutcome) (n : Nat) {p : Notify Nat} (s : Notifiers W)
    (ps : W → Notify Nat) (hw : ps w = p) :
    Relation.ReflTransGen (NotifyStep setup C E) (s, ps)
      ((Prog.advance (answered outcome w) n p s).2,
        Function.update ps w (Prog.advance (answered outcome w) n p s).1) :=
  Prog.Crew.of_advance (fun s op => answered_carried op fun q _ => hC s q) n s ps hw

/-- A worker begins a batch. -/
theorem batch_steps {w : W} (hC : ∀ s q, C w s .plain q)
    (outcome : DeliveryPair → ExternalSendOutcome) (now : Timestamp) (n : Nat) (s : Notifiers W)
    (ps : W → Notify Nat) :
    Relation.ReflTransGen (NotifyStep setup C E) (s, ps)
      ((Prog.advance (answered outcome w) n (batch_of setup w now) (s.set_live w [])).2,
        Function.update ps w
          (Prog.advance (answered outcome w) n (batch_of setup w now) (s.set_live w [])).1) := by
  have hlaunch : NotifyStep setup C E (s, ps)
      (s.set_live w [], Function.update ps w (batch_of setup w now)) := .launch w (.batch now)
  have hmore := Relation.ReflTransGen.head hlaunch (more_steps hC outcome n
    (s.set_live w []) (Function.update ps w (batch_of setup w now)) (Function.update_self ..))
  rwa [Function.update_idem] at hmore

/-- Every statement of a batch respects the condition on its way. -/
def respects (ok : Notifiers W → NotifyQuery → Bool) (s : Notifiers W) : NotifyStatement → Bool
  | .db q => ok s q
  | _ => true

/-- A worker carries out a batch. -/
theorem batch_run (setup : NotifierSetup W) (ok : Notifiers W → NotifyQuery → Bool)
    {w : W} (hok : ∀ s q, ok s q = true → C w s .plain q)
    (outcome : DeliveryPair → ExternalSendOutcome) (now : Timestamp) (s : Notifiers W)
    (ps : W → Notify Nat)
    (hp : Prog.along (answered outcome w) (respects ok) (batch_of setup w now)
      (s.set_live w []) = true) :
    ∃ qs, Relation.ReflTransGen (NotifyStep setup C E) (s, ps)
      ((Prog.eval (answered outcome w) (batch_of setup w now) (s.set_live w [])).2, qs) := by
  obtain ⟨qs, hqs, _⟩ := Prog.Crew.of_eval (H := NotifyCarried C) (E := NotifyOthers E)
    (w := w) (fun s op hop => answered_carried op fun q hq => hok s q (by
      subst hq
      exact hop)) (s.set_live w []) hp (Function.update ps w (batch_of setup w now)) (by simp)
  exact ⟨qs, .head (.launch w (.batch now)) hqs⟩

end Answered

instance {W : Type} [Fintype W] (w : W) (s : Notifiers W) (choice : ClaimChoice) :
    (q : NotifyQuery) → Decidable (Unshared w s choice q)
  | .claim_due_notification_outbox now _ limit => inferInstanceAs (Decidable (∀ row ∈
      s.tables.events.due now limit choice.skipped, ∀ v, ∀ item ∈ s.live v, item.id ≠ row.id))
  | .release_stale_notification_outbox .. | .mark_notification_outbox .. | .get_address_event ..
  | .list_enabled_notification_rules .. | .list_channels_by_ids ..
  | .list_active_channels_by_ids .. | .first_in_app_channel .. | .insert_default_in_app_channel ..
  | .default_in_app_channel .. | .get_telegram_bot_secret .. | .get_telegram_proxy_url ..
  | .begin_external_notification_delivery .. | .mark_external_notification_delivery_sent ..
  | .mark_external_notification_delivery_failed .. | .create_notification_delivery ..
  | .create_sent_in_app_delivery .. => .isTrue trivial

def delivered_metadata : ExternalSendMetadata :=
  ⟨none, some "1", some 200, some "ok"⟩

/-- Every send succeeds. -/
def all_sent (_ : DeliveryPair) : ExternalSendOutcome :=
  .Sent delivered_metadata

/-- No identifier and no URL is read. -/
def no_parsers : Parsers where
  parse_uuid _ := none
  parse_url _ := none

def dispatcher_config : NotificationOutboxDispatcherConfig :=
  { batch_size := 50, max_attempts := 10, stale_lock_seconds := 300 }

def two_notifiers : NotifierSetup Bool :=
  { parsers := no_parsers
    config := dispatcher_config
    worker_id := fun w => if w then "notifier-1" else "notifier-2" }

def transfer_draft : AddressEventDraft :=
  { tenant_id := 3, chain_id := 1, address_id := 0, asset_id := 5, event_type := "transfer"
    direction := "inbound", is_transfer := true, tx_hash := some "0xab", log_index := some 0
    block_number := some 100, block_hash := none, confirmations := 12, from_address := none
    to_address := none, amount_raw := some "7", amount_decimal := some "7"
    balance_before_raw := none, balance_after_raw := none, balance_delta_raw := none
    metadata := .obj [] }

/-- One event, whose row is due. -/
def one_event {W : Type} (deliveries : DeliveryTables) : Notifiers W :=
  let s := (notify_start (W := W) deliveries).1
  { s with tables := { s.tables with
    events := (s.tables.events.insert_event_and_outbox_if_not_exists transfer_draft).2 } }

/-- The first notifier is about to mark its row delivered. -/
def first_slow : Notify Nat × Notifiers Bool :=
  Prog.advance (answered all_sent true) 4 (batch_of two_notifiers true 0)
    ((one_event .empty).set_live true [])

/-- The second one has released the row and claimed it. -/
def second_claimed : Notify Nat × Notifiers Bool :=
  Prog.advance (answered all_sent false) 2 (batch_of two_notifiers false 1000)
    (first_slow.2.set_live false [])

/-- The first one has gone on. -/
def first_late : Notify Nat × Notifiers Bool :=
  Prog.advance (answered all_sent true) 1 first_slow.1 second_claimed.2

instance (marking : OutboxMarking) : Decidable marking.Current :=
  decidable_of_iff (marking.claim.any fun item =>
    marking.found.locked_by = item.locked_by ∧ marking.found.attempt_count = item.attempt_count) (by
      simp [OutboxMarking.Current, Option.any_eq_true])

/-- A notifier that was overtaken marks the row of the one that claimed it after it. -/
theorem late_mark_ends_another_claim : ∃ (s : Notifiers Bool) (ps : Bool → Notify Nat),
    Relation.ReflTransGen (NotifyStep two_notifiers (fun _ _ _ _ => True) fun _ => True)
      (notify_start .empty) (s, ps) ∧ ∃ marking ∈ s.marks, ¬ marking.Current := by
  have hevent : NotifyStep two_notifiers (fun _ _ _ _ => True) (fun _ => True)
      (notify_start .empty) (one_event .empty, fun _ => .done 0) := .others (.event transfer_draft)
  have hfirst := Relation.ReflTransGen.head hevent
    (batch_steps (w := true) (fun _ _ => trivial) all_sent 0 4 _ _)
  have hsecond := hfirst.trans (batch_steps (w := false) (fun _ _ => trivial) all_sent 1000 2 _ _)
  have hlate := hsecond.trans
    (more_steps (w := true) (fun _ _ => trivial) all_sent 1 _ _ (by simp; rfl))
  exact ⟨first_late.2, _, hlate, by decide +kernel⟩

/-- A single notifier ends its own claim. -/
theorem marks_are_current_one_row :
    (Prog.eval (answered all_sent true) (batch_of two_notifiers true 0)
      ((one_event .empty).set_live true [])).2.marks ≠ [] ∧
    ∀ marking ∈ (Prog.eval (answered all_sent true) (batch_of two_notifiers true 0)
      ((one_event .empty).set_live true [])).2.marks, marking.Current := by
  have hevent : NotifyStep two_notifiers Unshared (fun _ => True)
      (notify_start .empty) (one_event .empty, fun _ => .done 0) := .others (.event transfer_draft)
  obtain ⟨qs, hbatch⟩ := batch_run two_notifiers (C := Unshared) (E := fun _ => True)
    (fun s q => decide (Unshared true s .plain q)) (fun s q h => of_decide_eq_true h) all_sent
    0 (one_event .empty) (fun _ => .done 0) (by decide +kernel)
  exact ⟨by decide +kernel, marks_are_current (.head hevent hbatch)⟩

end CoinListener.Notifier
