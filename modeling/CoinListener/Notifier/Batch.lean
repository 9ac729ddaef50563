import CoinListener.Notifier.Workers

/-! How a batch goes on from one item to the next, from one rule to the next and from one channel to
the next, whatever is to be shown of it. -/
namespace CoinListener.Notifier
open Foundation Storage Prog

/-! ### From one part to the next -/

section Walk
variable {σ : Type} {A : σ → NotifyStatement → Prop}
  {H : σ → (op : NotifyStatement) → AppResult op.Answer → σ → Prop} {R : σ → σ → Prop}
  {I : σ → Prop} {parsers : Parsers} {config : NotificationOutboxDispatcherConfig}
  {now : Timestamp} {E : Assn R I}

/-- `J` holds of the items to come, `M` before an item is marked. -/
theorem items_walk {J : List NotificationOutboxItem → Assn R I}
    {M : NotificationOutboxItem → List NotificationOutboxItem → Except AppError Nat → Assn R I}
    (hR : ∀ s, R s s)
    (hitem : ∀ item rest, Triple A H (J (item :: rest))
      (process_notification_outbox_item parsers item now)
      (fun n => M item rest (.ok n)) (fun error => M item rest (.error error)))
    (hmark : ∀ item rest result, Triple A H (M item rest result)
      (query (.mark_notification_outbox item.id
        (outbox_mark config now item.attempt_count result))) (fun _ => J rest) fun _ => E)
    (items : List NotificationOutboxItem) :
    Triple A H (J items) (Prog.forEach (process_and_mark parsers config now) items)
      (fun _ => J []) fun _ => E := by
  induction items with
  | nil => exact .done fun _ h => h
  | cons item rest ih =>
    have hprocess : Triple A H (J (item :: rest)) (process_and_mark parsers config now item)
        (fun _ => J rest) fun _ => E := by
      refine .bind (Q := fun result => M item rest result) hR ?_ fun result => ?_
      · exact .attempt (hitem item rest) (fun _ _ h => h) fun _ _ h => h
      · exact .bind hR (hmark item rest result) fun _ => .done fun _ h => h
    refine .bind hR hprocess fun _ => ?_
    exact .bind hR ih fun _ => .done fun _ h => h

theorem batch_walk {J : List NotificationOutboxItem → Assn R I} {worker_id : String}
    (hR : ∀ s, R s s)
    (hrelease : Triple A H E (query (.release_stale_notification_outbox
      (now - config.stale_lock_seconds) now)) (fun _ => E) fun _ => E)
    (hclaim : Triple A H E (query (.claim_due_notification_outbox now worker_id config.batch_size))
      J fun _ => E)
    (hitems : ∀ items, Triple A H (J items)
      (Prog.forEach (process_and_mark parsers config now) items) (fun _ => E) fun _ => E) :
    Triple A H E (process_notification_outbox_batch parsers worker_id config now) (fun _ => E)
      fun _ => E := by
  refine .bind hR hrelease fun _ => ?_
  refine .bind hR hclaim fun items => ?_
  exact .bind hR (hitems items) fun _ => .done fun _ h => h

/-- `J` holds of the rules that are done, `M` of the channels of the rule at hand that are done. -/
theorem rules_walk {task : NotifyEventTask} {event : AddressEvent} {F : AppError → Assn R I}
    {J : List NotificationRule → Assn R I}
    {M : List NotificationRule → NotificationRule → List ResolvedNotifyChannel →
      List ResolvedNotifyChannel → Assn R I} (hR : ∀ s, R s s) {rules : List NotificationRule}
    (hresolve : ∀ pre rule post, rules = pre ++ rule :: post →
      Triple A H (J pre) (resolve_rule_channels task.tenant_id rule)
        (fun channels => M pre rule channels []) F)
    (hchannel : ∀ pre rule post, rules = pre ++ rule :: post →
      ∀ channels, ∀ done channel todo, channels = done ++ channel :: todo →
        Triple A H (M pre rule channels done)
          (process_resolved_channel parsers task event rule now channel)
          (fun _ => M pre rule channels (done ++ [channel])) F)
    (hrule : ∀ pre rule channels s, (M pre rule channels channels).holds s →
      (J (pre ++ [rule])).holds s) :
    Triple A H (J []) (Prog.forEach (process_rule parsers task event now) rules)
      (fun _ => J rules) F := by
  refine .forEach hR [] rules fun pre rule post hrules => ?_
  rw [List.nil_append]
  refine .bind hR (hresolve pre rule post hrules) fun channels => ?_
  have hchannels : Triple A H (M pre rule channels [])
      (Prog.forEach (fun channel => do
        process_resolved_channel parsers task event rule now channel
        return [()]) channels) (fun _ => M pre rule channels channels) F := by
    refine .forEach (J := M pre rule channels) hR [] channels fun done channel todo hsplit => ?_
    rw [List.nil_append]
    exact .bind hR (hchannel pre rule post hrules channels done channel todo hsplit) fun _ =>
      .done fun _ h => h
  exact hchannels.consequence (fun _ h => h) (fun _ => hrule pre rule channels) fun _ _ h => h

end Walk

/-! ### The statements of each part -/

/-- The statements of an attempt between its claim and its mark. -/
def NotifyStatement.Attempt : NotifyStatement → Prop
  | .db q => q.Attempt
  | _ => True

/-- Those that neither send nor touch a delivery. -/
def NotifyStatement.Quiet : NotifyStatement → Prop
  | .db (.get_address_event ..) => True
  | .db (.list_enabled_notification_rules _) => True
  | .db (.list_channels_by_ids ..) => True
  | .db (.list_active_channels_by_ids ..) => True
  | .db (.first_in_app_channel _) => True
  | .db (.insert_default_in_app_channel _) => True
  | .db (.default_in_app_channel _) => True
  | .db (.get_telegram_bot_secret ..) => True
  | .db (.get_telegram_proxy_url _) => True
  | .env_var _ => True
  | _ => False

theorem NotifyStatement.Quiet.attempt {op : NotifyStatement} (h : op.Quiet) : op.Attempt := by
  cases op with
  | db q => cases q <;> first | exact h.elim | trivial
  | _ => trivial

section Only
variable {parsers : Parsers} {task : NotifyEventTask} {event : AddressEvent}
  {rule : NotificationRule} {now : Timestamp}

theorem resolve_quiet (tenant_id : Uuid) :
    (resolve_rule_channels tenant_id rule).Only NotifyStatement.Quiet := by
  unfold resolve_rule_channels
  split
  · refine Only.bind ?_ fun _ => Only.done
    refine Only.bind (Only.perform trivial) fun first => ?_
    cases first with
    | some channel => exact Only.done
    | none =>
      refine Only.bind (Only.perform trivial) fun inserted => ?_
      cases inserted with
      | some channel => exact Only.done
      | none => exact Only.bind (Only.perform trivial) fun _ => Only.lift
  · refine Only.bind (Only.perform trivial) fun _ => ?_
    exact Only.bind (Only.perform trivial) fun _ => Only.done

theorem credentials_quiet (config : TelegramChannelConfig) :
    (telegram_credentials task config).Only NotifyStatement.Quiet := by
  unfold telegram_credentials
  split
  · refine Only.bind (Only.attempt (Only.perform trivial)) fun result => ?_
    cases result with
    | error error => exact Only.done
    | ok bot =>
      dsimp only
      split <;> exact Only.done
  · refine Only.bind ?_ fun token => ?_
    · split
      · exact Only.perform trivial
      · exact Only.done
    · cases token with
      | none => exact Only.done
      | some token => exact Only.bind (Only.perform trivial) fun _ => Only.done

theorem secret_quiet (secret_env : Option String) :
    (load_optional_env_secret secret_env).Only NotifyStatement.Quiet := by
  cases secret_env with
  | none => exact Only.done
  | some name =>
    refine Only.bind (Only.perform trivial) fun secret => ?_
    cases secret <;> exact Only.done

/-- Before a send nothing is asked that matters. -/
theorem telegram_only {S : NotifyStatement → Prop} (hquiet : ∀ op : NotifyStatement, op.Quiet → S op)
    (pair : DeliveryPair) (channel : NotificationChannel)
    (hsend : ∀ config bot_token text proxy_url,
      S (.send_telegram pair task.attempt config bot_token text proxy_url)) :
    (telegram_outcome parsers task event pair channel).Only S := by
  unfold telegram_outcome
  split
  · exact Only.done
  · refine Only.bind ((credentials_quiet _).mono hquiet) fun credentials => ?_
    cases credentials with
    | error message => exact Only.done
    | ok credentials => exact Only.bind (Only.perform (hsend ..)) fun _ => Only.done

theorem webhook_only {S : NotifyStatement → Prop} (hquiet : ∀ op : NotifyStatement, op.Quiet → S op)
    (pair : DeliveryPair) (key : String) (channel : NotificationChannel)
    (hsend : ∀ config secret,
      S (.send_webhook pair task.attempt config event key secret)) :
    (webhook_outcome parsers task event pair key channel).Only S := by
  unfold webhook_outcome
  split
  · exact Only.done
  · refine Only.bind ((secret_quiet _).mono hquiet) fun secret => ?_
    cases secret with
    | error message => exact Only.done
    | ok secret => exact Only.perform (hsend ..)

theorem record_only {S : NotifyStatement → Prop} (delivery_id : Uuid) (outcome : ExternalSendOutcome)
    (hsent : ∀ message_id status_code response,
      S (.db (.mark_external_notification_delivery_sent task.tenant_id delivery_id task.attempt now
        message_id status_code response)))
    (hfailed : ∀ failure last_error status_code response,
      S (.db (.mark_external_notification_delivery_failed task.tenant_id delivery_id task.attempt
        failure last_error status_code response))) :
    (record_outcome task now delivery_id outcome).Only S := by
  cases outcome with
  | Sent => exact Only.bind (Only.perform (hsent ..)) fun _ => Only.lift
  | PermanentFailure => exact Only.bind (Only.perform (hfailed ..)) fun _ => Only.lift
  | TransientFailure => exact Only.bind (Only.perform (hfailed ..)) fun _ => Only.lift

theorem external_attempt (channel_id : Uuid) (channel_type : ExternalChannelType) :
    (process_external_channel_delivery parsers task event rule now channel_id channel_type).Only
      NotifyStatement.Attempt := by
  refine Only.bind (Only.perform trivial) fun start => ?_
  cases start with
  | AlreadyComplete delivery_id => exact Only.done
  | ReadyToSend delivery_id =>
    refine Only.bind (Only.perform trivial) fun channels => ?_
    refine Only.bind Only.lift fun channel => ?_
    refine Only.bind ?_ fun sent => ?_
    · cases channel_type with
      | Telegram => exact telegram_only (fun _ h => h.attempt) _ _ fun _ _ _ _ => trivial
      | Webhook => exact webhook_only (fun _ h => h.attempt) _ _ _ fun _ _ => trivial
    · cases sent with
      | error message => exact Only.perform trivial
      | ok outcome =>
        exact record_only delivery_id outcome (fun _ _ _ => trivial) fun _ _ _ _ => trivial

theorem delivery_attempt (plan : NotifyDeliveryPlan) :
    (process_channel_delivery parsers task event rule now plan).Only NotifyStatement.Attempt := by
  unfold process_channel_delivery
  split
  · exact Only.perform trivial
  · split
    · exact external_attempt _ _
    · exact Only.perform trivial

theorem channel_attempt (channel : ResolvedNotifyChannel) :
    (process_resolved_channel parsers task event rule now channel).Only
      NotifyStatement.Attempt := by
  cases channel with
  | Active channel => exact delivery_attempt _
  | Inactive channel_id => exact @delivery_attempt parsers task event rule now _
  | Missing channel_id => exact Only.perform trivial

theorem item_attempt (item : NotificationOutboxItem) :
    (process_notification_outbox_item parsers item now).Only NotifyStatement.Attempt := by
  refine Only.bind (Only.perform trivial) fun event => ?_
  refine Only.bind (Only.perform trivial) fun rules => ?_
  refine Only.bind (Only.forEach fun rule _ => ?_) fun _ => Only.done
  refine Only.bind ((resolve_quiet _).mono fun _ h => h.attempt) fun channels => ?_
  exact Only.forEach fun channel _ => Only.bind (channel_attempt channel) fun _ => Only.done

end Only

/-! ### What a worker has claimed -/

/-- What a worker has claimed and not yet marked. -/
def holding {W : Type} (w : W) (items : List NotificationOutboxItem) (s : Notifiers W) : Prop :=
  s.live w = items

section Holding
variable {W : Type} [DecidableEq W] {w : W} {Inv : Notifiers W → Prop}
  {C : W → Notifiers W → ClaimChoice → NotifyQuery → Prop} {setup : NotifierSetup W}

/-- Within an attempt no claim changes. -/
theorem carried_live_of_attempt {s t : Notifiers W} {op : NotifyStatement} {r : AppResult op.Answer}
    (hop : op.Attempt) (h : NotifyCarried C w s op r t) : t.live = s.live := by
  cases h with
  | db choice hC hfate =>
    rw [learn_live_of_attempt hop]
    rcases hfate.state with rfl | rfl <;> rfl
  | _ => rfl

/-- The rest of the batch is still claimed whatever an attempt does. -/
theorem attempt_holding {A : Notifiers W → NotifyStatement → Prop} {α : Type} {p : Notify α}
    {items : List NotificationOutboxItem} (hp : p.Only NotifyStatement.Attempt)
    (hA : ∀ op, NotifyStatement.Attempt op → ∀ s, A s op) :
    Triple A (Within Inv (NotifyCarried C w)) (Assn.of (holding w) items) p
      (fun _ => .of (holding w) items) fun _ => .of (holding w) items := by
  refine .of_only hp (fun op hop s _ => hA op hop s) fun op hop s hs r t ht => ?_
  obtain ⟨_, hcarried, _⟩ := ht
  exact (congrFun (carried_live_of_attempt hop hcarried) w).trans hs

variable {A : W → Notifiers W → NotifyStatement → Prop}
  (hA : ∀ w s op, (∀ id mark, op ≠ .db (.mark_notification_outbox id mark)) → A w s op)
  (hmark : ∀ w now item rest result s, s.live w = item :: rest → A w s
    (.db (.mark_notification_outbox item.id
      (outbox_mark setup.config now item.attempt_count result))))
  (honce : ∀ s, Inv s → LiveOnce s)
include hA hmark honce

/-- A batch marks what it has claimed. -/
theorem batch_holding (now : Timestamp) :
    Triple (A w) (Within Inv (NotifyCarried C w)) (Assn.of (holding w) [])
      (process_notification_outbox_batch setup.parsers (setup.worker_id w) setup.config now)
      (fun _ => .of (holding w) []) fun _ => .of (holding w) [] := by
  refine batch_walk Keeps.refl (J := fun items => .of (holding w) items) ?_ ?_ fun items => ?_
  · refine .perform (fun _ _ => hA _ _ _ nofun) fun s hs r t ht => ?_
    obtain ⟨choice, u, _, hfate, rfl⟩ := carried_db ht.2.1
    have hlive : u.live w = [] := by
      rcases hfate.state with rfl | rfl <;> exact hs
    cases r <;> exact hlive
  · refine .perform (fun _ _ => hA _ _ _ nofun) fun s hs r t ht => ?_
    obtain ⟨choice, u, _, hfate, rfl⟩ := carried_db ht.2.1
    cases r with
    | ok items => exact learn_claim_live
    | error error =>
      show u.live w = []
      rcases hfate.state with rfl | rfl <;> exact hs
  · refine items_walk Keeps.refl (M := fun item rest _ => .of (holding w) (item :: rest))
      (fun item rest => ?_) (fun item rest result => ?_) items
    · refine attempt_holding (item_attempt item) fun op hop s => hA _ _ _ fun id mark hsame => ?_
      subst hsame
      exact hop
    · refine .perform (fun s hs => hmark w now item rest result s hs) fun s hs r t ht => ?_
      obtain ⟨choice, u, _, hfate, rfl⟩ := carried_db ht.2.1
      have hu : u.live = s.live := by rcases hfate.state with rfl | rfl <;> rfl
      cases r with
      | ok _ =>
        refine learn_mark_live ((congrFun hu w).trans hs) ?_
        rw [hu]
        exact honce s ht.1 w
      | error error => exact learn_mark_error_live

/-- Where the marks are all that matters, a crew goes by what each worker has claimed. -/
theorem holding_rules {E : NotifyEdit → Prop}
    (hlaunch : ∀ {w s p t}, Inv s → NotifyLaunch setup w s p t → Inv t)
    (hstatement : ∀ {w s op r t}, Inv s → A w s op → NotifyCarried C w s op r t → Inv t)
    (hothers : ∀ {s t}, Inv s → NotifyOthers E s t → Inv t) :
    Crew.Rules (NotifyCarried C) (NotifyOthers E) (NotifyLaunch setup) Inv A
      (fun w => Keeps (holding w)) fun _ _ _ => True where
  refl _ := Keeps.refl
  trans _ := Keeps.trans
  launch_inv := hlaunch
  launch_safe := by
    intro w s p t h hl
    cases hl with
    | batch now =>
      refine ((batch_holding hA hmark honce now).safe _ ?_).mono fun _ _ _ _ => trivial
      exact Function.update_self ..
    | stop => exact fun _ _ => ⟨trivial, trivial⟩
  launch_others := by
    intro w v s p t _ hl hv items hitems
    exact (launch_live_of_ne hl hv).trans hitems
  statement_inv := hstatement
  statement_others := by
    intro w v s op r t _ _ hs hv items hitems
    exact (carried_live_of_ne hs hv).trans hitems
  others_inv := hothers
  others := by
    intro w s t _ ho items hitems
    exact (congrFun (others_live ho) w).trans hitems

end Holding

end CoinListener.Notifier
