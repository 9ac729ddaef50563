import CoinListener.Notifier.Ownership

/-! How often a row is claimed: the limit is looked at only where an attempt reports an error. -/
namespace CoinListener.Notifier
open Foundation Storage

/-- Neither the release of stale locks nor the retry of an attempt that another claim has overtaken
reaches a row that has used up its attempts. -/
def WithinLimit {W : Type} (config : NotificationOutboxDispatcherConfig) (w : W) (s : Notifiers W)
    (_ : ClaimChoice) : NotifyQuery → Prop
  | .release_stale_notification_outbox stale_before _ =>
    ∀ row ∈ s.tables.events.notification_outbox, row.stale stale_before = true →
      row.attempt_count < config.max_attempts
  | .mark_notification_outbox id (.retryable ..) =>
    ∀ row ∈ s.tables.events.notification_outbox, EventTables.markable id row = true →
      (s.claim_of w id).map (·.attempt_count) ≠ some row.attempt_count →
        row.attempt_count < config.max_attempts
  | _ => True

/-- The counter of each row is the number of its claims, and no row that has used up its attempts
waits for another one. -/
structure Counted {W : Type} (max_attempts : Int) (s : Notifiers W) : Prop where
  once : LiveOnce s
  known : ∀ id ∈ s.claims, ∃ row ∈ s.tables.events.notification_outbox, row.id = id
  count : ∀ row ∈ s.tables.events.notification_outbox,
    (s.claims.count row.id : Int) = row.attempt_count
  limit : ∀ row ∈ s.tables.events.notification_outbox, row.attempt_count ≤ max_attempts
  waiting : ∀ row ∈ s.tables.events.notification_outbox, row.waiting = true →
    row.attempt_count < max_attempts

/-- An attempt asks for a retry only if attempts are left. -/
def retries_below {W : Type} (max_attempts : Int) (w : W) (s : Notifiers W) :
    NotifyStatement → Prop
  | .db (.mark_notification_outbox id (.retryable ..)) =>
    ∃ item, s.claim_of w id = some item ∧ item.attempt_count < max_attempts
  | _ => True

/-- The row goes on without a new claim, and waits only if attempts are left. -/
def Bounded (max_attempts : Int) (a b : NotificationOutboxItem) : Prop :=
  b.id = a.id ∧ b.attempt_count = a.attempt_count ∧
    (b.waiting = true → a.waiting = true ∨ a.attempt_count < max_attempts)

section Limit
variable {W : Type} [DecidableEq W] {s t : Notifiers W} {w : W} {op : NotifyStatement}
  {r : AppResult op.Answer} {config : NotificationOutboxDispatcherConfig} {max_attempts : Int}

omit [DecidableEq W] in
/-- Rows that go on without a claim stay counted. -/
theorem Counted.bounded {u : Notifiers W} (h : Counted max_attempts s) (honce : LiveOnce u)
    (hclaims : u.claims = s.claims)
    (hback : ∀ b ∈ u.tables.events.notification_outbox,
      ∃ a ∈ s.tables.events.notification_outbox, Bounded max_attempts a b)
    (hforth : ∀ a ∈ s.tables.events.notification_outbox,
      ∃ b ∈ u.tables.events.notification_outbox, b.id = a.id) : Counted max_attempts u where
  once := honce
  known id hid := by
    rw [hclaims] at hid
    obtain ⟨a, ha, rfl⟩ := h.known id hid
    exact hforth a ha
  count b hb := by
    obtain ⟨a, ha, hid, hattempt, _⟩ := hback b hb
    rw [hclaims, hid, hattempt]
    exact h.count a ha
  limit b hb := by
    obtain ⟨a, ha, _, hattempt, _⟩ := hback b hb
    rw [hattempt]
    exact h.limit a ha
  waiting b hb hwaiting := by
    obtain ⟨a, ha, _, hattempt, hbound⟩ := hback b hb
    rw [hattempt]
    rcases hbound hwaiting with hold | hlt
    · exact h.waiting a ha hold
    · exact hlt

omit [DecidableEq W] in
/-- An update of rows that keeps their counters and gives back only rows with attempts left. -/
theorem Counted.update {u : Notifiers W} {p : NotificationOutboxItem → Bool}
    {f : NotificationOutboxItem → NotificationOutboxItem} (h : Counted max_attempts s)
    (honce : LiveOnce u) (hclaims : u.claims = s.claims)
    (hrows : u.tables.events.notification_outbox =
      Table.update p f s.tables.events.notification_outbox)
    (hf : ∀ a ∈ s.tables.events.notification_outbox, p a = true → Bounded max_attempts a (f a)) :
    Counted max_attempts u := by
  have hrevise : ∀ a ∈ s.tables.events.notification_outbox,
      Bounded max_attempts a (Table.revise p f a) := by
    intro a ha
    cases hp : p a with
    | true =>
      rw [Table.revise_of_true hp]
      exact hf a ha hp
    | false =>
      rw [Table.revise_of_false hp]
      exact ⟨rfl, rfl, .inl⟩
  refine h.bounded honce hclaims (fun b hb => ?_) fun a ha => ?_
  · rw [hrows] at hb
    obtain ⟨a, ha, rfl⟩ := Table.mem_update.mp hb
    exact ⟨a, ha, hrevise a ha⟩
  · rw [hrows]
    exact ⟨_, Table.mem_update.mpr ⟨a, ha, rfl⟩, (hrevise a ha).1⟩

omit [DecidableEq W] in
/-- Each claimed row is counted once more. -/
theorem Counted.claim {choice : ClaimChoice} {now : Timestamp} {worker_id : String} {limit : Int}
    (h : Counted max_attempts s) {u : Notifiers W}
    (hu : u = (s.query w choice (.claim_due_notification_outbox now worker_id limit)).2) :
    Counted max_attempts u := by
  subst hu
  rcases query_claim_cases s w choice now worker_id limit with ⟨_, _, htables, hclaims⟩ |
    ⟨items, _, hperm, hrows, hclaims⟩
  · refine h.bounded h.once hclaims (fun b hb => ?_) fun a ha => ?_
    · rw [htables] at hb
      exact ⟨b, hb, rfl, rfl, .inl⟩
    · rw [htables]
      exact ⟨a, ha, rfl⟩
  · have hids : (items.map (·.id)).Perm
        ((s.tables.events.due now limit choice.skipped).map (·.id)) := by
      have hmap := hperm.map (·.id)
      rwa [List.map_map] at hmap
    have hdue : ∀ a : NotificationOutboxItem, a.id ∈ items.map (·.id) ↔
        ∃ row ∈ s.tables.events.due now limit choice.skipped, row.id = a.id := by
      intro a
      rw [hids.mem_iff, List.mem_map]
    have hone : ∀ row ∈ s.tables.events.due now limit choice.skipped,
        (items.map (·.id)).count row.id = 1 := by
      intro row hrow
      refine List.count_eq_one_of_mem ?_ (hids.mem_iff.mpr (List.mem_map_of_mem hrow))
      exact hids.nodup_iff.mpr (s.tables.events.due_nodup now limit choice.skipped)
    constructor
    · exact h.once
    · intro id hid
      rw [hclaims] at hid
      have hsome : ∃ a ∈ s.tables.events.notification_outbox, a.id = id := by
        rcases List.mem_append.mp hid with hold | hnew
        · exact h.known id hold
        · obtain ⟨row, hrow, hsame⟩ := List.mem_map.mp (hids.mem_iff.mp hnew)
          exact ⟨row, (EventTables.mem_due hrow).1, hsame⟩
      obtain ⟨a, ha, rfl⟩ := hsome
      rw [hrows]
      exact EventTables.claim_row ha
    all_goals
      intro b hb
      rw [hrows] at hb
      rcases EventTables.mem_claim hb with ⟨hold, hother⟩ | ⟨row, hrow, rfl⟩
    · have hout : b.id ∉ items.map (·.id) := by
        intro hmem
        obtain ⟨row, hrow, hid⟩ := (hdue b).mp hmem
        exact hother row hrow hid
      rw [hclaims, List.count_append, List.count_eq_zero_of_not_mem hout]
      exact h.count b hold
    · have hcount := h.count row (EventTables.mem_due hrow).1
      rw [hclaims, List.count_append]
      show ((s.claims.count row.id + (items.map (·.id)).count row.id : Nat) : Int) =
        row.attempt_count + 1
      rw [hone row hrow, ← hcount]
      rfl
    · exact h.limit b hold
    · exact h.waiting row (EventTables.mem_due hrow).1 (EventTables.due_waiting hrow)
    · exact h.waiting b hold
    · exact nofun

theorem Counted.statement (h : Counted config.max_attempts s)
    (hA : retries_below config.max_attempts w s op)
    (hs : NotifyCarried (WithinLimit config) w s op r t) : Counted config.max_attempts t := by
  have honce := h.once.statement hs
  cases hs with
  | @db q r u choice hC hfate =>
    have hu : Counted config.max_attempts u := by
      rcases hfate.state with rfl | rfl
      · exact h
      · by_cases hq : q.Attempt
        · refine h.bounded h.once ?_ (fun b hb => ?_) fun a ha => ?_
          · simp [Notifiers.query, attempt_claims hq]
          · simp only [Notifiers.query, run_events hq] at hb
            exact ⟨b, hb, rfl, rfl, .inl⟩
          · simp only [Notifiers.query, run_events hq]
            exact ⟨a, ha, rfl⟩
        · cases q with
          | release_stale_notification_outbox stale_before next_attempt_at =>
            refine h.update h.once (List.append_nil _) rfl fun a ha hstale => ?_
            exact ⟨rfl, rfl, fun _ => .inr (hC a ha hstale)⟩
          | claim_due_notification_outbox now worker_id limit => exact h.claim rfl
          | mark_notification_outbox id mark =>
            rcases s.tables.events.mark_cases id mark with ⟨hrefused, _⟩ | ⟨_, _, _, _, hrows⟩
            · refine h.bounded h.once (List.append_nil _) (fun b hb => ?_) fun a ha => ?_
              · simp only [Notifiers.query, NotifyQuery.run, hrefused] at hb
                exact ⟨b, hb, rfl, rfl, .inl⟩
              · simp only [Notifiers.query, NotifyQuery.run, hrefused]
                exact ⟨a, ha, rfl⟩
            · refine h.update h.once (List.append_nil _) hrows fun a ha hmark => ?_
              refine ⟨mark.apply_id, mark.apply_attempt_count, fun hwaiting => ?_⟩
              cases mark with
              | delivered => cases hwaiting
              | failed => cases hwaiting
              | retryable =>
                obtain ⟨item, hitem, hlt⟩ := hA
                by_cases hsame : item.attempt_count = a.attempt_count
                · exact .inr (hsame ▸ hlt)
                · refine .inr (hC a ha hmark ?_)
                  rw [hitem]
                  exact fun heq => hsame (Option.some.inj heq)
          | _ => exact (hq trivial).elim
    exact ⟨honce, by simpa using hu.known, by simpa using hu.count, by simpa using hu.limit,
      by simpa using hu.waiting⟩
  | env_var => exact h
  | webhook_refused => exact h
  | send_telegram => exact ⟨honce, h.known, h.count, h.limit, h.waiting⟩
  | send_webhook => exact ⟨honce, h.known, h.count, h.limit, h.waiting⟩

omit [DecidableEq W] in
theorem Counted.others (hmax : 0 < max_attempts) (h : Counted max_attempts s)
    (ho : NotifyOthers (· = .configure) s t) : Counted max_attempts t := by
  cases ho with
  | event draft =>
    rcases s.tables.events.insert_cases draft with ⟨_, hr⟩ | ⟨_, _, _, hrows⟩
    · rw [hr]
      exact ⟨h.once, h.known, h.count, h.limit, h.waiting⟩
    · have hnew : ∀ b ∈ s.tables.events.notification_outbox ++
          [s.tables.events.new_outbox_row draft],
          b ∈ s.tables.events.notification_outbox ∨ b = s.tables.events.new_outbox_row draft :=
        fun b hb => (List.mem_append.mp hb).imp_right List.mem_singleton.mp
      constructor
      · exact h.once
      · intro id hid
        obtain ⟨row, hrow, hsame⟩ := h.known id hid
        exact ⟨row, hrows ▸ List.mem_append_left _ hrow, hsame⟩
      all_goals
        intro b hb
        rw [hrows] at hb
        rcases hnew b hb with hold | rfl
      · exact h.count b hold
      · refine Int.natCast_eq_zero.mpr (List.count_eq_zero_of_not_mem fun hid => ?_)
        obtain ⟨row, hrow, hsame⟩ := h.known _ hid
        exact absurd hsame (Nat.ne_of_lt (s.tables.events.outbox_ids row hrow))
      · exact h.limit b hold
      · exact hmax.le
      · exact h.waiting b hold
      · exact fun _ => hmax
  | manual_retry hE => exact nomatch hE
  | configure => exact ⟨h.once, h.known, h.count, h.limit, h.waiting⟩

omit [DecidableEq W] in
theorem Counted.start (deliveries : DeliveryTables) :
    Counted max_attempts (notify_start (W := W) deliveries).1 := by
  constructor <;> simp [notify_start, EventTables.empty, LiveOnce]

theorem limit_rules (setup : NotifierSetup W) (hmax : 0 < setup.config.max_attempts) :
    Prog.Crew.Rules (NotifyCarried (WithinLimit setup.config)) (NotifyOthers (· = .configure))
      (NotifyLaunch setup) (Counted (W := W) setup.config.max_attempts)
      (retries_below setup.config.max_attempts) (fun w => Prog.Keeps (holding w))
      fun _ _ _ => True := by
  refine holding_rules ?_ ?_ (fun s h => h.once) ?_ ?_ ?_
  · intro w s op hop
    cases op with
    | db q => cases q <;> first | trivial | exact absurd rfl (hop _ _)
    | _ => trivial
  · intro w now item rest result s hlive
    cases result with
    | ok n => trivial
    | error error =>
      by_cases hfail : notification_outbox_should_fail item.attempt_count
        setup.config.max_attempts = true
      · rw [outbox_mark, if_pos hfail]
        trivial
      · rw [outbox_mark, if_neg hfail]
        refine ⟨item, by simp [Notifiers.claim_of, hlive], ?_⟩
        simpa [notification_outbox_should_fail] using hfail
  · intro w s p t h hl
    have honce := h.once.launch hl
    cases hl <;> exact ⟨honce, h.known, h.count, h.limit, h.waiting⟩
  · intro w s op r t h hA hs
    exact h.statement hA hs
  · intro s t h ho
    exact h.others hmax ho

/-- As long as neither a stale release nor an overtaken retry reaches a row that has used up its
attempts, no row is claimed more often than that, and such a row is not claimed again. -/
theorem claims_within_limit {setup : NotifierSetup W} (hmax : 0 < setup.config.max_attempts)
    {deliveries : DeliveryTables} {s : Notifiers W} {ps : W → Notify Nat}
    (hrun : Relation.ReflTransGen
      (NotifyStep setup (WithinLimit setup.config) (· = .configure))
      (notify_start deliveries) (s, ps)) :
    (∀ id, (s.claims.count id : Int) ≤ setup.config.max_attempts) ∧
    ∀ row ∈ s.tables.events.notification_outbox,
      (s.claims.count row.id : Int) = setup.config.max_attempts →
        row.status ≠ .pending ∧ row.status ≠ .retryable := by
  have hstart : Prog.Crew.Good (NotifyCarried (WithinLimit setup.config))
      (Counted setup.config.max_attempts) (retries_below setup.config.max_attempts)
      (fun w : W => Prog.Keeps (holding w)) (fun _ _ _ => True)
      (notify_start (W := W) deliveries).1 (notify_start (W := W) deliveries).2 :=
    ⟨.start deliveries, fun _ _ _ => ⟨trivial, trivial⟩⟩
  have h := (hstart.run (limit_rules setup hmax) hrun).inv
  constructor
  · intro id
    by_cases hid : id ∈ s.claims
    · obtain ⟨row, hrow, rfl⟩ := h.known id hid
      rw [h.count row hrow]
      exact h.limit row hrow
    · rw [List.count_eq_zero_of_not_mem hid]
      exact hmax.le
  · intro row hrow hused
    rw [h.count row hrow] at hused
    have hnot : ¬ row.waiting = true := fun hwaiting =>
      absurd hused (Int.ne_of_lt (h.waiting row hrow hwaiting))
    rw [NotificationOutboxItem.waiting_iff, not_or] at hnot
    exact hnot

end Limit

/-! ### A notifier that crashes -/

/-- One attempt for each row. -/
def one_attempt : NotifierSetup Bool :=
  { two_notifiers with config := { dispatcher_config with max_attempts := 1 } }

/-- The notifier has claimed its row. -/
def crashed : Notify Nat × Notifiers Bool :=
  Prog.advance (answered all_sent true) 2 (batch_of one_attempt true 0)
    ((one_event .empty).set_live true [])

/-- It crashes, starts again, and has claimed the row once more. -/
def claimed_again : Notify Nat × Notifiers Bool :=
  Prog.advance (answered all_sent true) 2 (batch_of one_attempt true 1000)
    (crashed.2.set_live true [])

/-- A notifier that crashes in its only attempt is given another one. -/
theorem stale_release_ignores_limit : ∃ (s : Notifiers Bool) (ps : Bool → Notify Nat),
    Relation.ReflTransGen (NotifyStep one_attempt (fun _ _ _ _ => True) (· = .configure))
      (notify_start .empty) (s, ps) ∧
    ∃ id, ¬ (s.claims.count id : Int) ≤ one_attempt.config.max_attempts := by
  have hevent : NotifyStep one_attempt (fun _ _ _ _ => True) (· = .configure)
      (notify_start .empty) (one_event .empty, fun _ => .done 0) := .others (.event transfer_draft)
  have hcrash := Relation.ReflTransGen.head hevent
    (batch_steps (w := true) (fun _ _ => trivial) all_sent 0 2 _ _)
  have hagain := hcrash.trans
    (batch_steps (w := true) (fun _ _ => trivial) all_sent 1000 2 _ _)
  exact ⟨claimed_again.2, _, hagain, 0, by decide +kernel⟩

/-- Every release and every mark of a single notifier. -/
def keeps_limit (config : NotificationOutboxDispatcherConfig) (s : Notifiers Bool) :
    NotifyQuery → Bool
  | .release_stale_notification_outbox stale_before _ =>
    s.tables.events.notification_outbox.all fun row =>
      !row.stale stale_before || decide (row.attempt_count < config.max_attempts)
  | .mark_notification_outbox _ (.retryable ..) => false
  | _ => true

theorem keeps_limit_within {config : NotificationOutboxDispatcherConfig} {w : Bool}
    {s : Notifiers Bool} {q : NotifyQuery} (h : keeps_limit config s q = true) :
    WithinLimit config w s .plain q := by
  cases q with
  | release_stale_notification_outbox stale_before next_attempt_at =>
    intro row hrow hstale
    have hrow := List.all_eq_true.mp h row hrow
    simpa [hstale] using hrow
  | mark_notification_outbox id mark => cases mark <;> trivial
  | _ => trivial

/-- An attempt that succeeds is the only one. -/
theorem claims_within_limit_one_row :
    (Prog.eval (answered all_sent true) (batch_of one_attempt true 0)
      ((one_event .empty).set_live true [])).2.claims = [0] ∧
    ∀ id, ((Prog.eval (answered all_sent true) (batch_of one_attempt true 0)
      ((one_event .empty).set_live true [])).2.claims.count id : Int) ≤ 1 := by
  have hevent : NotifyStep one_attempt (WithinLimit one_attempt.config) (· = .configure)
      (notify_start .empty) (one_event .empty, fun _ => .done 0) := .others (.event transfer_draft)
  obtain ⟨qs, hbatch⟩ := batch_run one_attempt (w := true)
    (C := WithinLimit one_attempt.config) (E := (· = .configure))
    (keeps_limit one_attempt.config) (fun s q h => keeps_limit_within h)
    all_sent 0 (one_event .empty) (fun _ => .done 0) (by decide +kernel)
  exact ⟨by decide +kernel, (claims_within_limit (by decide) (.head hevent hbatch)).1⟩

end CoinListener.Notifier
