import CoinListener.Foundation.Crew
import CoinListener.Notifier.Dispatch

/-! Several notifiers at work on one database, with other clients and crashes at any point. -/
namespace CoinListener.Notifier
open Foundation Storage

structure NotifyTables where
  events : EventTables
  deliveries : DeliveryTables

/-- The statement carried out. -/
def NotifyQuery.run (choice : ClaimChoice) (t : NotifyTables) :
    (q : NotifyQuery) → AppResult q.Answer × NotifyTables
  | .release_stale_notification_outbox stale_before next_attempt_at =>
    (.ok (t.events.release_stale_notification_outbox stale_before next_attempt_at).1,
      { t with events :=
          (t.events.release_stale_notification_outbox stale_before next_attempt_at).2 })
  | .claim_due_notification_outbox now worker_id limit =>
    ((t.events.claim_due_notification_outbox now worker_id limit choice).1,
      { t with events := (t.events.claim_due_notification_outbox now worker_id limit choice).2 })
  | .mark_notification_outbox id mark =>
    ((t.events.mark_notification_outbox id mark).1,
      { t with events := (t.events.mark_notification_outbox id mark).2 })
  | .get_address_event event_id tenant_id =>
    (required (t.events.address_events.find? fun event =>
      event.id == event_id && event.tenant_id == tenant_id) (.NotFound "address event"), t)
  | .list_enabled_notification_rules tenant_id =>
    (.ok (t.deliveries.settings.list_enabled_notification_rules tenant_id), t)
  | .list_channels_by_ids tenant_id channel_ids =>
    (.ok (t.deliveries.settings.list_channels_by_ids tenant_id channel_ids), t)
  | .list_active_channels_by_ids tenant_id channel_ids =>
    (.ok (t.deliveries.settings.list_active_channels_by_ids tenant_id channel_ids), t)
  | .first_in_app_channel tenant_id =>
    (.ok (t.deliveries.settings.first_in_app_channel tenant_id), t)
  | .insert_default_in_app_channel tenant_id =>
    (.ok (t.deliveries.insert_default_in_app_channel tenant_id).1,
      { t with deliveries := (t.deliveries.insert_default_in_app_channel tenant_id).2 })
  | .default_in_app_channel tenant_id =>
    (.ok (t.deliveries.settings.default_in_app_channel tenant_id), t)
  | .get_telegram_bot_secret tenant_id id =>
    (t.deliveries.settings.get_telegram_bot_secret tenant_id id, t)
  | .get_telegram_proxy_url tenant_id => (.ok (t.deliveries.settings.telegram_proxy_url tenant_id), t)
  | .begin_external_notification_delivery target attempt_count =>
    let began := t.deliveries.begin_external_notification_delivery t.events.address_events target
      attempt_count
    (began.1, { t with deliveries := began.2 })
  | .mark_external_notification_delivery_sent tenant_id delivery_id attempt_count sent_at
      provider_message_id provider_status_code provider_response =>
    let marked := t.deliveries.mark_external_notification_delivery_sent tenant_id delivery_id
      attempt_count sent_at provider_message_id provider_status_code provider_response
    (marked.1, { t with deliveries := marked.2 })
  | .mark_external_notification_delivery_failed tenant_id delivery_id attempt_count failure
      last_error provider_status_code provider_response =>
    let marked := t.deliveries.mark_external_notification_delivery_failed tenant_id delivery_id
      attempt_count failure last_error provider_status_code provider_response
    (marked.1, { t with deliveries := marked.2 })
  | .create_notification_delivery tenant_id event_id rule_id channel_id status attempt_count
      last_error sent_at =>
    let created := t.deliveries.create_notification_delivery t.events.address_events tenant_id
      event_id rule_id channel_id status attempt_count last_error sent_at
    (created.1, { t with deliveries := created.2 })
  | .create_sent_in_app_delivery tenant_id event_id rule_id channel_id attempt_count sent_at title
      body =>
    let created := t.deliveries.create_sent_in_app_delivery t.events.address_events tenant_id
      event_id rule_id channel_id attempt_count sent_at title body
    (created.1, { t with deliveries := created.2 })

/-! ### The system -/

/-- What is done to a channel: an in-app notification is created, or a send has an outcome. -/
inductive DeliveryAct where
  | in_app
  | send (outcome : ExternalSendOutcome)
deriving DecidableEq

structure DeliveryEntry where
  pair : DeliveryPair
  attempt_count : Int
  act : DeliveryAct
deriving DecidableEq

/-- A mark that changed a row: the claim of the worker that issued it, and the row it found. -/
structure OutboxMarking where
  claim : Option NotificationOutboxItem
  found : NotificationOutboxItem
  mark : OutboxMark
  troubled : Bool
deriving DecidableEq

/-- The database and what each worker is doing. `live` are the rows a worker has claimed and not yet
marked; `troubled` tells whether a statement or a send has failed since. The rest is history: the
claims and marks of rows, and what was done to the channels. -/
structure Notifiers (W : Type) where
  tables : NotifyTables
  live : W → List NotificationOutboxItem
  troubled : W → Bool
  claims : List Uuid
  marks : List OutboxMarking
  log : List DeliveryEntry

/-- The rows a statement claims. -/
def claimed_rows (choice : ClaimChoice) (t : NotifyTables) : NotifyQuery → List Uuid
  | .claim_due_notification_outbox now worker_id limit =>
    match (t.events.claim_due_notification_outbox now worker_id limit choice).1 with
    | .ok items => items.map (·.id)
    | .error _ => []
  | _ => []

/-- The rows a statement marks. -/
def marked_rows (t : NotifyTables) : NotifyQuery → List (NotificationOutboxItem × OutboxMark)
  | .mark_notification_outbox id mark =>
    (t.events.notification_outbox.filter (EventTables.markable id)).map (·, mark)
  | _ => []

/-- The in-app notifications a statement creates. -/
def created_in_app (t : NotifyTables) : NotifyQuery → List DeliveryEntry
  | .create_sent_in_app_delivery tenant_id event_id rule_id channel_id attempt_count sent_at title
      body =>
    match (t.deliveries.create_sent_in_app_delivery t.events.address_events tenant_id event_id
      rule_id channel_id attempt_count sent_at title body).1 with
    | .ok _ => [⟨⟨event_id, rule_id, channel_id⟩, attempt_count, .in_app⟩]
    | .error _ => []
  | _ => []

namespace Notifiers
variable {W : Type} [DecidableEq W] (s : Notifiers W) (w : W)

/-- The worker's claim of a row. -/
def claim_of (id : Uuid) : Option NotificationOutboxItem :=
  (s.live w).find? (·.id == id)

/-- The statement of a worker carried out. -/
def query (choice : ClaimChoice) (q : NotifyQuery) : AppResult q.Answer × Notifiers W :=
  ((q.run choice s.tables).1, { s with
    tables := (q.run choice s.tables).2
    claims := s.claims ++ claimed_rows choice s.tables q
    marks := s.marks ++ (marked_rows s.tables q).map fun marked =>
      ⟨s.claim_of w marked.1.id, marked.1, marked.2, s.troubled w⟩
    log := s.log ++ created_in_app s.tables q })

def set_live (items : List NotificationOutboxItem) : Notifiers W :=
  { s with live := Function.update s.live w items, troubled := Function.update s.troubled w false }

def trouble : Notifiers W :=
  { s with troubled := Function.update s.troubled w true }

/-- What the answer means to the worker: it has claimed rows, is done with one, gives up the rest of
its batch, or has met an error. -/
def learn : (q : NotifyQuery) → AppResult q.Answer → Notifiers W
  | .claim_due_notification_outbox .., .ok items => s.set_live w items
  | .mark_notification_outbox id _, .ok _ => s.set_live w ((s.live w).filter (·.id != id))
  | .mark_notification_outbox .., .error _ => s.set_live w []
  | _, .ok _ => s
  | _, .error _ => s.trouble w

/-- A send has an outcome. -/
def sent (pair : DeliveryPair) (attempt_count : Int) (outcome : ExternalSendOutcome) :
    Notifiers W :=
  { s with
    log := s.log ++ [⟨pair, attempt_count, .send outcome⟩]
    troubled := Function.update s.troubled w (s.troubled w || outcome.is_transient_failure) }

end Notifiers

/-- What may become of a statement, under a condition on those against the database. The environment
and the providers may answer anything. -/
inductive NotifyCarried {W : Type} [DecidableEq W]
    (C : W → Notifiers W → ClaimChoice → NotifyQuery → Prop) (w : W) (s : Notifiers W) :
    (op : NotifyStatement) → AppResult op.Answer → Notifiers W → Prop where
  | db {q r t} (choice : ClaimChoice) (hC : C w s choice q)
      (h : Fate AppError.Database s (s.query w choice q) r t) :
      NotifyCarried C w s (.db q) r (t.learn w q r)
  | env_var {name} (value : Option String) : NotifyCarried C w s (.env_var name) (.ok value) s
  | send_telegram {pair attempt_count config bot_token text proxy_url}
      (outcome : ExternalSendOutcome) :
      NotifyCarried C w s (.send_telegram pair attempt_count config bot_token text proxy_url)
        (.ok outcome) (s.sent w pair attempt_count outcome)
  | webhook_refused {pair attempt_count config event key secret} (message : String) :
      NotifyCarried C w s (.send_webhook pair attempt_count config event key secret)
        (.ok (.error message)) s
  | send_webhook {pair attempt_count config event key secret} (outcome : ExternalSendOutcome) :
      NotifyCarried C w s (.send_webhook pair attempt_count config event key secret)
        (.ok (.ok outcome)) (s.sent w pair attempt_count outcome)

/-- What users may do while notifiers run. -/
inductive NotifyEdit where
  | manual_retry | configure
deriving DecidableEq

/-- Scans add events; users retry rows and change their settings, as far as `E` allows. -/
inductive NotifyOthers {W : Type} (E : NotifyEdit → Prop) : Notifiers W → Notifiers W → Prop where
  | event {s} (draft : AddressEventDraft) :
      NotifyOthers E s { s with tables := { s.tables with
        events := (s.tables.events.insert_event_and_outbox_if_not_exists draft).2 } }
  | manual_retry {s} (hE : E .manual_retry) (id tenant_id : Uuid) (now : Timestamp) :
      NotifyOthers E s { s with tables := { s.tables with
        events := s.tables.events.manual_retry_notification_outbox id tenant_id now } }
  | configure {s} (hE : E .configure) (settings : NotifySettings) (next_id : Uuid)
      (hnext : s.tables.deliveries.next_id ≤ next_id) (hbelow : settings.Below next_id) :
      NotifyOthers E s { s with tables := { s.tables with
        deliveries := s.tables.deliveries.configure settings next_id hnext hbelow } }

/-- How the notifiers are set up. -/
structure NotifierSetup (W : Type) where
  parsers : Parsers
  config : NotificationOutboxDispatcherConfig
  worker_id : W → String

/-- A worker begins its next batch, or stops; whatever it was doing is cut off. -/
inductive NotifyLaunch {W : Type} [DecidableEq W] (setup : NotifierSetup W) (w : W)
    (s : Notifiers W) : Notify Nat → Notifiers W → Prop where
  | batch (now : Timestamp) : NotifyLaunch setup w s
      (process_notification_outbox_batch setup.parsers (setup.worker_id w) setup.config now)
      (s.set_live w [])
  | stop : NotifyLaunch setup w s (.done 0) (s.set_live w [])

abbrev NotifyStep {W : Type} [DecidableEq W] (setup : NotifierSetup W)
    (C : W → Notifiers W → ClaimChoice → NotifyQuery → Prop) (E : NotifyEdit → Prop) :
    Notifiers W × (W → Notify Nat) → Notifiers W × (W → Notify Nat) → Prop :=
  Prog.Crew (NotifyCarried C) (NotifyOthers E) (NotifyLaunch setup)

/-- No event yet, and nothing delivered. -/
def no_deliveries (settings : NotifySettings) (next_id : Uuid) (h : settings.Below next_id) :
    DeliveryTables where
  settings := settings
  notification_deliveries := []
  in_app_notifications := []
  next_id := next_id
  below := h
  delivery_lt := by simp
  unique_delivery_id := List.nodup_nil
  unique_key := List.Pairwise.nil

def notify_start {W : Type} (deliveries : DeliveryTables) : Notifiers W × (W → Notify Nat) :=
  ({ tables := { events := .empty, deliveries := deliveries }
     live := fun _ => []
     troubled := fun _ => false
     claims := [], marks := [], log := [] }, fun _ => .done 0)

/-! ### What a statement leaves alone -/

/-- The statements of an attempt between its claim and its mark. -/
def NotifyQuery.Attempt : NotifyQuery → Prop
  | .release_stale_notification_outbox .. => False
  | .claim_due_notification_outbox .. => False
  | .mark_notification_outbox .. => False
  | _ => True

section Frame
variable {choice : ClaimChoice} {t : NotifyTables} {q : NotifyQuery}

theorem run_events (h : q.Attempt) : (q.run choice t).2.events = t.events := by
  cases q <;> first | rfl | exact h.elim

theorem attempt_claims (h : q.Attempt) : claimed_rows choice t q = [] := by
  cases q <;> first | rfl | exact h.elim

theorem attempt_marks (h : q.Attempt) : marked_rows t q = [] := by
  cases q <;> first | rfl | exact h.elim

/-- The other statements are about the outbox alone. -/
theorem run_deliveries (h : ¬ q.Attempt) : (q.run choice t).2.deliveries = t.deliveries := by
  cases q <;> first | rfl | exact (h trivial).elim

theorem outbox_created (h : ¬ q.Attempt) : created_in_app t q = [] := by
  cases q <;> first | rfl | exact (h trivial).elim

end Frame

section Learn
variable {W : Type} [DecidableEq W] {s : Notifiers W} {w v : W} {q : NotifyQuery}
  {r : AppResult q.Answer}

/-- What a worker may learn from an answer. -/
theorem learn_cases (s : Notifiers W) (w : W) (q : NotifyQuery) (r : AppResult q.Answer) :
    (∃ items, s.learn w q r = s.set_live w items) ∨ s.learn w q r = s ∨
      s.learn w q r = s.trouble w := by
  unfold Notifiers.learn
  split
  · exact .inl ⟨_, rfl⟩
  · exact .inl ⟨_, rfl⟩
  · exact .inl ⟨_, rfl⟩
  · exact .inr (.inl rfl)
  · exact .inr (.inr rfl)

@[simp] theorem learn_tables : (s.learn w q r).tables = s.tables := by
  rcases learn_cases s w q r with ⟨items, hlearn⟩ | hlearn | hlearn <;> rw [hlearn] <;> rfl

@[simp] theorem learn_claims : (s.learn w q r).claims = s.claims := by
  rcases learn_cases s w q r with ⟨items, hlearn⟩ | hlearn | hlearn <;> rw [hlearn] <;> rfl

@[simp] theorem learn_marks : (s.learn w q r).marks = s.marks := by
  rcases learn_cases s w q r with ⟨items, hlearn⟩ | hlearn | hlearn <;> rw [hlearn] <;> rfl

@[simp] theorem learn_log : (s.learn w q r).log = s.log := by
  rcases learn_cases s w q r with ⟨items, hlearn⟩ | hlearn | hlearn <;> rw [hlearn] <;> rfl

theorem learn_live_of_ne (h : v ≠ w) : (s.learn w q r).live v = s.live v := by
  rcases learn_cases s w q r with ⟨items, hlearn⟩ | hlearn | hlearn <;> rw [hlearn]
  · exact Function.update_of_ne h ..
  · rfl

theorem learn_troubled_of_ne (h : v ≠ w) : (s.learn w q r).troubled v = s.troubled v := by
  rcases learn_cases s w q r with ⟨items, hlearn⟩ | hlearn | hlearn <;> rw [hlearn]
  · exact Function.update_of_ne h ..
  · exact Function.update_of_ne h ..

/-- Within an attempt an answer changes no claim. -/
theorem learn_live_of_attempt (h : q.Attempt) : (s.learn w q r).live = s.live := by
  cases q <;> first | exact h.elim | (cases r <;> rfl)

@[simp] theorem learn_claim_live {now : Timestamp} {worker_id : String} {limit : Int}
    {items : List NotificationOutboxItem} :
    (s.learn w (.claim_due_notification_outbox now worker_id limit) (.ok items)).live w =
      items := by
  change (s.set_live w items).live w = items
  simp [Notifiers.set_live]

/-- A marked item is no longer claimed. -/
theorem learn_mark_live {item : NotificationOutboxItem} {rest : List NotificationOutboxItem}
    {mark : OutboxMark} (hlive : s.live w = item :: rest)
    (hnodup : ((s.live w).map (·.id)).Nodup) :
    (s.learn w (.mark_notification_outbox item.id mark) (.ok ())).live w = rest := by
  rw [hlive, List.map_cons, List.nodup_cons] at hnodup
  have hrest : rest.filter (·.id != item.id) = rest := by
    refine List.filter_eq_self.mpr fun other hother => ?_
    rw [bne_iff_ne]
    intro hsame
    exact hnodup.1 (hsame ▸ List.mem_map_of_mem hother)
  change (s.set_live w ((s.live w).filter (·.id != item.id))).live w = rest
  simp [Notifiers.set_live, hlive, hrest]

@[simp] theorem learn_mark_error_live {id : Uuid} {mark : OutboxMark} {error : AppError} :
    (s.learn w (.mark_notification_outbox id mark) (.error error)).live w = [] := by
  change (s.set_live w []).live w = []
  simp [Notifiers.set_live]

end Learn

section Carried
variable {W : Type} [DecidableEq W] {s t : Notifiers W} {w v : W} {op : NotifyStatement}
  {r : AppResult op.Answer} {C : W → Notifiers W → ClaimChoice → NotifyQuery → Prop}

/-- A statement is about the claims of its own worker. -/
theorem carried_live_of_ne (h : NotifyCarried C w s op r t) (hv : v ≠ w) :
    t.live v = s.live v := by
  cases h with
  | db choice hC hfate =>
    rw [learn_live_of_ne hv]
    rcases hfate.state with rfl | rfl <;> rfl
  | _ => rfl

theorem launch_live_of_ne {setup : NotifierSetup W} {p : Notify Nat}
    (h : NotifyLaunch setup w s p t) (hv : v ≠ w) : t.live v = s.live v := by
  cases h <;> simp [Notifiers.set_live, hv]

omit [DecidableEq W] in
theorem others_live {E : NotifyEdit → Prop} (h : NotifyOthers E s t) : t.live = s.live := by
  cases h <;> rfl

/-- A statement against the database, and what its worker learns. -/
theorem carried_db {q : NotifyQuery} {r : AppResult q.Answer}
    (h : NotifyCarried C w s (.db q) r t) : ∃ choice u, C w s choice q ∧
      Fate AppError.Database s (s.query w choice q) r u ∧ t = u.learn w q r := by
  cases h with
  | db choice hC hfate => exact ⟨choice, _, hC, hfate, rfl⟩

omit [DecidableEq W] in
/-- What a claim does to the tables: nothing, or it takes the rows that are due. -/
theorem query_claim_cases (s : Notifiers W) (w : W) (choice : ClaimChoice) (now : Timestamp)
    (worker_id : String) (limit : Int) :
    (∃ e, (s.query w choice (.claim_due_notification_outbox now worker_id limit)).1 = .error e ∧
      (s.query w choice (.claim_due_notification_outbox now worker_id limit)).2.tables = s.tables ∧
      (s.query w choice (.claim_due_notification_outbox now worker_id limit)).2.claims =
        s.claims) ∨
    ∃ items, (s.query w choice (.claim_due_notification_outbox now worker_id limit)).1 = .ok items ∧
      items.Perm ((s.tables.events.due now limit choice.skipped).map (·.claimed now worker_id)) ∧
      (s.query w choice (.claim_due_notification_outbox now worker_id
        limit)).2.tables.events.notification_outbox =
        Table.update (fun item =>
            (s.tables.events.due now limit choice.skipped).any (·.id == item.id))
          (·.claimed now worker_id) s.tables.events.notification_outbox ∧
      (s.query w choice (.claim_due_notification_outbox now worker_id limit)).2.claims =
        s.claims ++ items.map (·.id) := by
  rcases s.tables.events.claim_cases now worker_id limit choice with ⟨message, hrefused⟩ |
    ⟨items, hanswer, hperm, hrows⟩
  · left
    refine ⟨.Database message, congrArg Prod.fst hrefused, ?_, ?_⟩
    · simp [Notifiers.query, NotifyQuery.run, hrefused]
    · simp [Notifiers.query, claimed_rows, hrefused]
  · right
    refine ⟨items, hanswer, hperm, hrows, ?_⟩
    simp [Notifiers.query, claimed_rows, hanswer]

omit [DecidableEq W] in
/-- A claim that was answered. -/
theorem claim_answered {choice : ClaimChoice} {now : Timestamp} {worker_id : String} {limit : Int}
    {items : List NotificationOutboxItem} {u : Notifiers W}
    (h : Fate AppError.Database s
      (s.query w choice (.claim_due_notification_outbox now worker_id limit)) (.ok items) u) :
    u = (s.query w choice (.claim_due_notification_outbox now worker_id limit)).2 ∧
      items.Perm ((s.tables.events.due now limit choice.skipped).map
        (·.claimed now worker_id)) := by
  obtain ⟨hok, rfl⟩ := h.answer
  refine ⟨rfl, ?_⟩
  rcases query_claim_cases s w choice now worker_id limit with ⟨e, herror, _⟩ |
    ⟨answer, hanswer, hperm, _⟩
  · exact nomatch herror.symm.trans hok
  · rwa [Except.ok.inj (hok.symm.trans hanswer)]

/-! ### Each row once -/

/-- No worker has claimed a row twice. -/
def LiveOnce (s : Notifiers W) : Prop :=
  ∀ w, ((s.live w).map (·.id)).Nodup

theorem LiveOnce.set_live (h : LiveOnce s) {items : List NotificationOutboxItem}
    (hitems : (items.map (·.id)).Nodup) : LiveOnce (s.set_live w items) := by
  intro v
  by_cases hv : v = w
  · subst v
    simpa [Notifiers.set_live] using hitems
  · simpa [Notifiers.set_live, hv] using h v

theorem LiveOnce.statement (h : LiveOnce s) (hs : NotifyCarried C w s op r t) : LiveOnce t := by
  cases hs with
  | @db q r u choice hC hfate =>
    have hu : LiveOnce u := by
      rcases hfate.state with rfl | rfl <;> exact h
    unfold Notifiers.learn
    split
    · refine hu.set_live ?_
      rw [((claim_answered hfate).2.map _).nodup_iff, List.map_map]
      exact s.tables.events.due_nodup ..
    · exact hu.set_live ((hu w).sublist (List.filter_sublist.map _))
    · exact hu.set_live List.nodup_nil
    · exact hu
    · exact hu
  | _ => exact h

theorem LiveOnce.launch {setup : NotifierSetup W} {p : Notify Nat} (h : LiveOnce s)
    (hl : NotifyLaunch setup w s p t) : LiveOnce t := by
  cases hl <;> exact h.set_live List.nodup_nil

end Carried

end CoinListener.Notifier
