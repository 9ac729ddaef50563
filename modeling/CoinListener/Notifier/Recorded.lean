import CoinListener.Notifier.AttemptLimit
import CoinListener.Notifier.Handling

/-! A row is marked delivered only when every channel of every matching rule has its record, and the
channels are taken in order. -/
namespace CoinListener.Notifier
open Foundation Storage Prog

/-! ### One batch -/

section Batch
variable {W : Type} [DecidableEq W] {Inv : Notifiers W → Prop} {w : W}
  {C : W → Notifiers W → ClaimChoice → NotifyQuery → Prop} {now : Timestamp}

omit [DecidableEq W] in
theorem row_known_kept {s t : Notifiers W} {items : List NotificationOutboxItem}
    (h : Kept s.tables t.tables) (hs : (Assn.every items (row_known w)).holds s) :
    (Assn.every items (row_known w)).holds t := by
  intro item hitem
  obtain ⟨row, hrow, hid, hevent, htenant⟩ := hs item hitem
  obtain ⟨next, hnext, hid', hevent', htenant'⟩ := h.rows row hrow
  exact ⟨next, hnext, hid'.trans hid, hevent'.trans hevent, htenant'.trans htenant⟩

omit [DecidableEq W] in
/-- The mark of an attempt fits its result. -/
theorem mark_in_order {s : Notifiers W} {item : NotificationOutboxItem}
    {rest : List NotificationOutboxItem} {config : NotificationOutboxDispatcherConfig}
    {result : Except AppError Nat}
    (hs : ((Assn.every (item :: rest) (row_known w)).and (result_known w item result)).holds s) :
    in_order w s (.db (.mark_notification_outbox item.id
      (outbox_mark config now item.attempt_count result))) := by
  obtain ⟨hrows, hresult⟩ := hs
  cases result with
  | ok n =>
    intro row hrow hid
    obtain ⟨own, hown, hownid, hevent, htenant⟩ := hrows item (List.mem_cons_self ..)
    obtain rfl := EventTables.same_row hrow hown (hid.trans hownid.symm)
    exact (Kept.refl s.tables).all_recorded hevent htenant hresult.recorded
  | error error =>
    unfold outbox_mark
    dsimp only
    split <;> exact hresult

theorem batch_recording {setup : NotifierSetup W} (now : Timestamp) :
    Triple (in_order w) (Within Inv (NotifyCarried C w)) (lasting w (fun _ => True) fun _ h => h)
      (process_notification_outbox_batch setup.parsers (setup.worker_id w) setup.config now)
      (fun _ => lasting w (fun _ => True) fun _ h => h)
      fun _ => lasting w (fun _ => True) fun _ h => h := by
  refine batch_walk (Lasts.refl w) (J := fun items => Assn.every items (row_known w)) ?_ ?_
    fun items => ?_
  · refine .perform (fun _ _ record hrecord => nomatch hrecord) fun s _ r t _ => ?_
    cases r <;> exact trivial
  · refine .perform (fun _ _ record hrecord => nomatch hrecord) fun s _ r t ht => ?_
    cases r with
    | error error => exact trivial
    | ok items =>
      have hA : in_order w s (.db (.claim_due_notification_outbox now (setup.worker_id w)
          setup.config.batch_size)) := fun record hrecord => nomatch hrecord
      have hkept := carried_keeps hA ht.2.1
      intro item hitem
      obtain ⟨choice, u, _, hfate, _⟩ := carried_db ht.2.1
      obtain ⟨row, hrow, rfl⟩ := List.mem_map.mp ((claim_answered hfate).2.subset hitem)
      exact hkept.rows row (EventTables.mem_due hrow).1
  · refine (items_walk (Lasts.refl w) (J := fun items => Assn.every items (row_known w))
      (M := fun item rest result =>
        (Assn.every (item :: rest) (row_known w)).and (result_known w item result))
      (fun item rest => item_recording) (fun item rest result => ?_) items).consequence
        (fun _ h => h) (fun _ _ _ => trivial) fun _ _ h => h
    refine .perform (fun s hs => mark_in_order hs) fun s hs r t ht => ?_
    have hkept := carried_keeps (mark_in_order hs) ht.2.1
    cases r with
    | error error => exact trivial
    | ok _ =>
      refine row_known_kept hkept fun other hother => ?_
      exact hs.1 other (List.mem_cons_of_mem _ hother)

end Batch

/-! ### Runs -/

/-- Rows marked delivered have all their records, and the other marks follow a failure. -/
structure Accounted {W : Type} (s : Notifiers W) : Prop where
  delivered : ∀ row ∈ s.tables.events.notification_outbox, row.status = .delivered →
    AllRecorded s.tables row
  marks : ∀ marking ∈ s.marks, (∃ now, marking.mark = .delivered now) ∨ marking.troubled = true

section Run
variable {W : Type} [DecidableEq W] {s t : Notifiers W} {w : W} {op : NotifyStatement}
  {r : AppResult op.Answer} {C : W → Notifiers W → ClaimChoice → NotifyQuery → Prop}
  {E : NotifyEdit → Prop} {setup : NotifierSetup W} {deliveries : DeliveryTables}

/-- A row after a statement: it counts no fewer attempts, and if it is delivered, it was before or is
being marked so. -/
structure RowAfter (op : NotifyStatement) (a b : NotificationOutboxItem) : Prop where
  id : b.id = a.id
  event_id : b.event_id = a.event_id
  tenant_id : b.tenant_id = a.tenant_id
  attempt_count : a.attempt_count ≤ b.attempt_count
  delivered : b.status = .delivered → a.status = .delivered ∨
    ∃ now, op = .db (.mark_notification_outbox a.id (.delivered now))

omit [DecidableEq W] in
theorem RowAfter.same {row : NotificationOutboxItem} : RowAfter op row row :=
  ⟨rfl, rfl, rfl, Int.le_refl _, .inl⟩

omit [DecidableEq W] in
theorem run_row {q : NotifyQuery} {choice : ClaimChoice} {t : NotifyTables}
    {row : NotificationOutboxItem} (hrow : row ∈ (q.run choice t).2.events.notification_outbox) :
    ∃ old ∈ t.events.notification_outbox, RowAfter (.db q) old row := by
  by_cases hq : q.Attempt
  · rw [run_events hq] at hrow
    exact ⟨row, hrow, .same⟩
  cases q with
  | release_stale_notification_outbox stale_before next_attempt_at =>
    obtain ⟨old, hold, rfl⟩ := Table.mem_update.mp hrow
    refine ⟨old, hold, ?_⟩
    cases hstale : old.stale stale_before with
    | true =>
      rw [Table.revise_of_true hstale]
      exact ⟨rfl, rfl, rfl, Int.le_refl _, fun h => by cases h⟩
    | false =>
      rw [Table.revise_of_false hstale]
      exact .same
  | claim_due_notification_outbox now worker_id limit =>
    rcases t.events.claim_cases now worker_id limit choice with ⟨_, hrefused⟩ | ⟨_, _, _, hrows⟩
    · simp only [NotifyQuery.run, hrefused] at hrow
      exact ⟨row, hrow, .same⟩
    · simp only [NotifyQuery.run] at hrow
      rw [hrows] at hrow
      rcases EventTables.mem_claim hrow with ⟨hold, _⟩ | ⟨due, hdue, rfl⟩
      · exact ⟨row, hold, .same⟩
      · refine ⟨due, (EventTables.mem_due hdue).1, rfl, rfl, rfl, ?_, fun h => by cases h⟩
        exact Int.le_of_lt (Int.lt_succ _)
  | mark_notification_outbox id mark =>
    rcases t.events.mark_cases id mark with ⟨hrefused, _⟩ | ⟨_, _, _, _, hrows⟩
    · simp only [NotifyQuery.run, hrefused] at hrow
      exact ⟨row, hrow, .same⟩
    · simp only [NotifyQuery.run] at hrow
      rw [hrows] at hrow
      obtain ⟨old, hold, rfl⟩ := Table.mem_update.mp hrow
      refine ⟨old, hold, ?_⟩
      cases hmarkable : EventTables.markable id old with
      | true =>
        rw [Table.revise_of_true hmarkable]
        obtain ⟨rfl, _⟩ := EventTables.markable_iff.mp hmarkable
        refine ⟨mark.apply_id, mark.apply_event_id, mark.apply_tenant_id,
          Int.le_of_eq mark.apply_attempt_count.symm, fun hstatus => ?_⟩
        obtain ⟨now, rfl⟩ := mark.apply_delivered hstatus
        exact .inr ⟨now, rfl⟩
      | false =>
        rw [Table.revise_of_false hmarkable]
        exact .same
  | _ => exact (hq trivial).elim

theorem carried_row (hs : NotifyCarried C w s op r t) {row : NotificationOutboxItem}
    (hrow : row ∈ t.tables.events.notification_outbox) :
    ∃ old ∈ s.tables.events.notification_outbox, RowAfter op old row := by
  cases hs with
  | db choice hC hfate =>
    rw [learn_tables] at hrow
    rcases hfate.state with rfl | rfl
    · exact ⟨row, hrow, .same⟩
    · exact run_row hrow
  | _ => exact ⟨row, hrow, .same⟩

theorem Accounted.statement (h : Accounted s) (hA : in_order w s op)
    (hs : NotifyCarried C w s op r t) : Accounted t := by
  have hkept := carried_keeps hA hs
  refine ⟨fun row hrow hstatus => ?_, ?_⟩
  · obtain ⟨old, hold, hafter⟩ := carried_row hs hrow
    rcases hafter.delivered hstatus with hbefore | ⟨now, rfl⟩
    · exact hkept.all_recorded hafter.event_id hafter.tenant_id (h.delivered old hold hbefore)
    · exact hkept.all_recorded hafter.event_id hafter.tenant_id (hA old hold rfl)
  cases hs with
  | @db q r u choice hC hfate =>
    rw [learn_marks]
    rcases hfate.state with rfl | rfl
    · exact h.marks
    intro marking hmarking
    rcases List.mem_append.mp hmarking with hold | hnew
    · exact h.marks marking hold
    · obtain ⟨marked, hmarked, rfl⟩ := List.mem_map.mp hnew
      obtain ⟨_, _, rfl⟩ := mem_marked_rows hmarked
      cases hmark : marked.2 with
      | delivered now => exact .inl ⟨now, rfl⟩
      | retryable =>
        rw [hmark] at hA
        exact .inr hA
      | failed =>
        rw [hmark] at hA
        exact .inr hA
  | _ => exact h.marks

omit [DecidableEq W] in
theorem Accounted.others (hE : ¬ E .configure) (h : Accounted s) (ho : NotifyOthers E s t) :
    Accounted t := by
  have hkept := others_keep hE ho
  cases ho with
  | event draft =>
    refine ⟨fun row hrow hstatus => ?_, h.marks⟩
    rcases s.tables.events.insert_cases draft with ⟨_, hsame⟩ | ⟨_, _, _, hrows⟩
    · dsimp only at hrow
      rw [hsame] at hrow
      exact hkept.all_recorded rfl rfl (h.delivered row hrow hstatus)
    · dsimp only at hrow
      rw [hrows] at hrow
      rcases List.mem_append.mp hrow with hold | hnew
      · exact hkept.all_recorded rfl rfl (h.delivered row hold hstatus)
      · obtain rfl := List.mem_singleton.mp hnew
        exact nomatch hstatus
  | manual_retry _ id tenant_id now =>
    refine ⟨fun row hrow hstatus => ?_, h.marks⟩
    obtain ⟨old, hold, rfl⟩ := Table.mem_update.mp hrow
    unfold Table.revise at hstatus ⊢
    split at hstatus
    · exact nomatch hstatus
    · rename_i hother
      rw [if_neg hother]
      exact hkept.all_recorded rfl rfl (h.delivered old hold hstatus)
  | configure hconfigure => exact absurd hconfigure hE

theorem recorded_rules (setup : NotifierSetup W) (hE : ¬ E .configure) :
    Crew.Rules (NotifyCarried C) (NotifyOthers E) (NotifyLaunch setup) (Accounted (W := W))
      in_order Lasts fun _ _ _ => True where
  refl := Lasts.refl
  trans w _ _ _ hab hbc := hab.trans hbc
  launch_inv := by
    intro w s p t h hl
    cases hl <;> exact ⟨h.delivered, h.marks⟩
  launch_safe := by
    intro w s p t h hl
    cases hl with
    | batch now => exact ((batch_recording now).safe _ trivial).mono fun _ _ _ _ => trivial
    | stop => exact fun _ _ => ⟨trivial, trivial⟩
  launch_others := by
    intro w v s p t _ hl hv
    cases hl <;> exact ⟨.refl _, fun h => by simpa [Notifiers.set_live, hv] using h⟩
  statement_inv h hA hs := h.statement hA hs
  statement_others := by
    intro w v s op r t _ hA hs hv
    exact ⟨carried_keeps hA hs, fun h => (carried_troubled_of_ne hs hv).trans h⟩
  others_inv h ho := h.others hE ho
  others := by
    intro w s t _ ho
    refine ⟨others_keep hE ho, fun h => ?_⟩
    cases ho <;> exact h

theorem recorded_run (hE : ¬ E .configure) {ps : W → Notify Nat}
    (hrun : Relation.ReflTransGen (NotifyStep setup C E) (notify_start deliveries) (s, ps)) :
    Crew.Good (NotifyCarried C) Accounted in_order Lasts (fun _ _ _ => True) s ps := by
  have hstart : Crew.Good (NotifyCarried C) Accounted in_order (Lasts (W := W))
      (fun _ _ _ => True) (notify_start (W := W) deliveries).1
      (notify_start (W := W) deliveries).2 :=
    ⟨⟨fun _ hrow => absurd hrow List.not_mem_nil, fun _ hmark => absurd hmark List.not_mem_nil⟩,
      fun _ _ _ => ⟨trivial, trivial⟩⟩
  exact hstart.run (recorded_rules setup hE) hrun

/-- As long as nobody changes the settings, a delivered row has a record for each channel of each
matching rule, a row is marked otherwise only after a failure, and a record is made only when the
channels before it have theirs. -/
theorem channels_recorded {ps : W → Notify Nat}
    (hrun : Relation.ReflTransGen (NotifyStep setup (fun _ _ _ _ => True) (· ≠ .configure))
      (notify_start deliveries) (s, ps)) :
    (∀ row ∈ s.tables.events.notification_outbox, row.status = .delivered →
      AllRecorded s.tables row) ∧
    (∀ marking ∈ s.marks, (∃ now, marking.mark = .delivered now) ∨ marking.troubled = true) ∧
    ∀ w op rest record, ps w = .ask op rest → op.records = some record →
      InOrder s.tables record := by
  have hfixed : ¬ (NotifyEdit.configure ≠ .configure) := fun h => h rfl
  have hgood := recorded_run (E := (· ≠ .configure)) hfixed hrun
  refine ⟨hgood.inv.delivered, hgood.inv.marks, fun w op rest record hp hrecord => ?_⟩
  have hA := hgood.allowed (recorded_rules setup hfixed) hp
  cases op with
  | db q =>
    cases q with
    | begin_external_notification_delivery =>
      obtain rfl := Option.some.inj hrecord
      exact hA.1
    | create_notification_delivery => exact hA record hrecord
    | create_sent_in_app_delivery => exact hA record hrecord
    | _ => exact nomatch hrecord
  | env_var => exact nomatch hrecord
  | send_telegram => exact nomatch hrecord
  | send_webhook => exact nomatch hrecord

end Run

/-! ### A chat that cannot be reached -/

instance (delivery : NotificationDelivery) :
    (channel : ResolvedNotifyChannel) → Decidable (channel.recorded_by delivery)
  | .Active _ => inferInstanceAs (Decidable (_ = _))
  | .Inactive _ => inferInstanceAs (Decidable (_ = _))
  | .Missing _ => inferInstanceAs (Decidable (_ ∧ _ ∧ _))

instance (t : NotifyTables) (event_id : Uuid) (rule : NotificationRule)
    (channel : ResolvedNotifyChannel) : Decidable (HasRecord t event_id rule channel) :=
  inferInstanceAs (Decidable (∃ delivery ∈ t.deliveries.notification_deliveries, _))

instance (t : NotifyTables) (event : AddressEvent) (rule : NotificationRule) :
    Decidable (RuleRecorded t event rule) :=
  inferInstanceAs (Decidable (_ ∧ ∀ channel ∈ resolved_channels _ _ _, _))

instance (t : NotifyTables) (row : NotificationOutboxItem) : Decidable (AllRecorded t row) :=
  inferInstanceAs (Decidable (∃ event ∈ t.events.address_events, _))

/-- The first chat cannot be reached. -/
def first_unreachable (pair : DeliveryPair) : ExternalSendOutcome :=
  if pair.channel_id = 5 then .TransientFailure ⟨some "connection closed", none, none, none⟩
  else .Sent delivered_metadata

/-- The row has failed, and nothing was ever tried with the second chat. -/
theorem later_channel_unrecorded : ∃ (s : Notifiers Bool) (ps : Bool → Notify Nat),
    Relation.ReflTransGen (NotifyStep one_attempt (fun _ _ _ _ => True) (· ≠ .configure))
      (notify_start three_deliveries) (s, ps) ∧
    ∃ row ∈ s.tables.events.notification_outbox,
      (row.status = .delivered ∨ row.status = .failed) ∧ ¬ AllRecorded s.tables row := by
  obtain ⟨qs, hrun⟩ := one_batch_run (C := fun _ _ _ _ => True) (E := (· ≠ .configure)) one_attempt
    first_unreachable (fun _ _ => true) (fun _ _ _ => trivial) (by decide +kernel)
  exact ⟨_, qs, hrun, by decide +kernel⟩

/-- That the first chat does not exist keeps nothing from the second one. -/
theorem channels_recorded_one_batch :
    (∃ row ∈ (after_batch true 0 (one_event three_deliveries)).tables.events.notification_outbox,
      row.status = .delivered) ∧
    ∀ row ∈ (after_batch true 0 (one_event three_deliveries)).tables.events.notification_outbox,
      row.status = .delivered →
        AllRecorded (after_batch true 0 (one_event three_deliveries)).tables row := by
  obtain ⟨qs, hrun⟩ := one_batch_run (C := fun _ _ _ _ => True) (E := (· ≠ .configure))
    two_notifiers (chat_outcome true) (fun _ _ => true) (fun _ _ _ => trivial) (by decide +kernel)
  exact ⟨by decide +kernel, (channels_recorded hrun).1⟩

end CoinListener.Notifier
