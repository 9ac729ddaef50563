import CoinListener.Foundation.Select
import CoinListener.Scheduler.ScheduleRuns

/-! What one tick of the scheduler enqueues. -/
namespace CoinListener.Scheduler
open Foundation Storage Transaction

/-! ### One address -/

namespace Schedule
variable (t : Schedule) (tick : Timestamp)

def due : List ScheduledAddress :=
  t.watched_addresses.filter (t.is_due tick)

/-- The schedule after a scan of the address is enqueued. -/
def enqueued (job : ScanJob) (row : ScheduledAddress) : Schedule :=
  ScheduleChange.replay [.new_job job,
    .address (row.moved_on (next_scan_at_from tick row.scan_interval_seconds))] t

end Schedule

/-- The job that a tick enqueues for an address. -/
structure ScheduledJob (job_max_attempts : Int) (tick : Timestamp) (row : ScheduledAddress)
    (job : ScanJob) : Prop where
  address_id : job.address_id = row.id
  tenant_id : job.tenant_id = row.tenant_id
  chain_id : job.chain_id = row.chain_id
  status : job.status = .pending
  attempt_count : job.attempt_count = 0
  max_attempts : job.max_attempts = job_max_attempts
  next_attempt_at : job.next_attempt_at = tick
  scheduled : job.retry_of_scan_run_id = none

section One
variable {t : Schedule} {tick : Timestamp} {job_max_attempts : Int} {row other : ScheduledAddress}
  {job : ScanJob}

theorem first_due_of_free :
    t.first_due (fun _ => false) tick = (t.due tick).argmin ScheduledAddress.due_order := by
  unfold Schedule.first_due Schedule.due
  congr 1
  exact List.filter_congr fun row _ => by simp

theorem due_job_of_moved {a : ScheduledAddress} (h : ScheduledJob job_max_attempts tick row job)
    (hid : a.id = row.id) : (t.enqueued tick job row).is_due tick a = false := by
  have hactive : (t.enqueued tick job row).scan_jobs.any
      (fun job => job.address_id == a.id && job.active) = true := by
    refine List.any_eq_true.mpr ⟨job, List.mem_append_right _ (List.mem_singleton_self _), ?_⟩
    simp [hid, h.address_id, ScanJob.active, h.status]
  simp [Schedule.is_due, hactive]

theorem due_of_other (h : ScheduledJob job_max_attempts tick row job) (hid : other.id ≠ row.id) :
    (t.enqueued tick job row).is_due tick other = t.is_due tick other := by
  have hsame : (t.enqueued tick job row).scan_jobs.any
      (fun job => job.address_id == other.id && job.active) =
        t.scan_jobs.any fun job => job.address_id == other.id && job.active := by
    change (t.scan_jobs ++ [job]).any _ = _
    have hne : (job.address_id == other.id) = false :=
      beq_false_of_ne fun heq => hid (heq.symm.trans h.address_id)
    simp [hne]
  simp only [Schedule.is_due, hsame]

/-- An address that was enqueued is due no more, and the others are as before. -/
theorem due_enqueued (hids : (t.watched_addresses.map (·.id)).Nodup)
    (hrow : row ∈ t.watched_addresses) (h : ScheduledJob job_max_attempts tick row job) :
    (t.enqueued tick job row).due tick = (t.due tick).erase row := by
  have hnodup : t.watched_addresses.Nodup := .of_map _ hids
  have hdue_nodup : (t.due tick).Nodup := hnodup.filter _
  rw [hdue_nodup.erase_eq_filter]
  unfold Schedule.due
  rw [List.filter_filter]
  change (Table.update (fun r => r.id == row.id) (fun _ =>
    row.moved_on (next_scan_at_from tick row.scan_interval_seconds)) t.watched_addresses).filter _ = _
  unfold Table.update
  rw [List.filter_map]
  have hkeep : ∀ a ∈ t.watched_addresses,
      ((t.enqueued tick job row).is_due tick ∘ Table.revise (fun r => r.id == row.id) fun _ =>
        row.moved_on (next_scan_at_from tick row.scan_interval_seconds)) a =
          (a != row && t.is_due tick a) := by
    intro a ha
    by_cases hid : a.id = row.id
    · obtain rfl := List.inj_on_of_nodup_map hids ha hrow hid
      have hrevise : Table.revise (fun r => r.id == a.id)
          (fun _ => a.moved_on (next_scan_at_from tick a.scan_interval_seconds)) a = _ :=
        Table.revise_of_true (beq_self_eq_true _)
      rw [Function.comp_apply, hrevise, due_job_of_moved (a := a.moved_on _) h rfl]
      simp
    · have hne : a ≠ row := fun heq => hid (congrArg _ heq)
      have hrevise : Table.revise (fun r => r.id == row.id)
          (fun _ => row.moved_on (next_scan_at_from tick row.scan_interval_seconds)) a = a :=
        Table.revise_of_false (beq_false_of_ne hid)
      rw [Function.comp_apply, hrevise, due_of_other h hid]
      simp [hne]
  rw [List.filter_congr hkeep]
  refine (List.map_congr_left fun a ha => ?_).trans (List.map_id' _)
  obtain ⟨hmem, hkept⟩ := List.mem_filter.mp ha
  simp only [Bool.and_eq_true, bne_iff_ne] at hkept
  refine Table.revise_of_false (beq_false_of_ne fun hid => hkept.1 ?_)
  exact List.inj_on_of_nodup_map hids hmem hrow hid

end One

/-! ### One round -/

set_option linter.unusedSectionVars false

/-- No transaction is open, and nobody holds a lock. -/
structure Quiet {W : Type} (s : ScheduleWorld W) (w : W) : Prop where
  free : ∀ k, s.owner k = none
  log : s.log w = []

section Round
variable {W : Type} [DecidableEq W] {s : ScheduleWorld W} {w : W} {tick : Timestamp}
  {job_max_attempts : Int} {row : ScheduledAddress}

theorem Quiet.view (h : Quiet s w) : s.view schedule_schema w = s.tables := by
  unfold World.view
  rw [h.log]
  rfl

theorem Quiet.first_due (h : Quiet s w) : (s.view schedule_schema w).first_due
    (s.locked_by_other w) tick = (s.tables.due tick).argmin ScheduledAddress.due_order := by
  have hnone : s.locked_by_other w = fun _ => false := by
    funext k
    simp [World.locked_by_other, h.free k]
  rw [h.view, hnone, first_due_of_free]

/-- The locks of a transaction are its own. -/
def Alone (s : ScheduleWorld W) (w : W) : Prop :=
  ∀ k, s.owner k = none ∨ s.owner k = some w

theorem Alone.perform {A : Type} (h : Alone s w)
    (e : Effect ScheduleChange ScheduleKey AppError A) : Alone (s.perform w e) w := by
  intro k
  by_cases hk : k ∈ e.locks
  · exact .inr (if_pos hk)
  · have hsame : (s.perform w e).owner k = s.owner k := if_neg hk
    rw [hsame]
    exact h k

theorem Alone.quiet (h : Alone s w) : Quiet (s.abandon w) w := by
  refine ⟨fun k => ?_, Function.update_self ..⟩
  by_cases hk : s.owner k = some w
  · exact if_pos hk
  · exact (if_neg hk).trans ((h k).resolve_right hk)

theorem Alone.committed (h : Alone s w) : Quiet (s.commit schedule_schema w) w :=
  ⟨h.quiet.free, h.quiet.log⟩

theorem Quiet.alone (h : Quiet s w) (now : Timestamp) : Alone (s.start w now) w :=
  fun k => .inl (h.free k)

/-- The statement carried out. -/
def after (s : ScheduleWorld W) (w : W) (statement : ScheduleStatement) : ScheduleWorld W :=
  s.perform w (s.effect schedule_schema w statement)

theorem statement_evaluated (s : ScheduleWorld W) (w : W) (statement : ScheduleStatement) :
    Prog.eval (World.alone schedule_schema w) (schedule_statement statement) s =
      ((s.effect schedule_schema w statement).answer, after s w statement) :=
  Prog.eval_perform ..

theorem view_after (s : ScheduleWorld W) (w : W) (statement : ScheduleStatement) :
    (after s w statement).view schedule_schema w =
      ScheduleChange.replay (s.effect schedule_schema w statement).log (s.view schedule_schema w) :=
  World.view_perform ..

theorem claim_evaluated (tick : Timestamp) (h : Quiet s w) :
    Prog.eval (World.alone schedule_schema w)
      (schedule_statement (.claim_one_due_scan_address_for_update tick)) (s.start w 0) =
      (.ok (((s.tables.due tick).argmin ScheduledAddress.due_order).map (·.candidate)),
        after (s.start w 0) w (.claim_one_due_scan_address_for_update tick)) := by
  have hquiet : Quiet (s.start w 0) w := ⟨h.free, h.log⟩
  rw [statement_evaluated, claim_effect_answer, hquiet.first_due]
  rfl

/-- The round whose body has come to this end. -/
theorem round_evaluated {claimed : Option Bool} {t : ScheduleWorld W}
    (h : Prog.eval (World.alone schedule_schema w) (claim_and_enqueue job_max_attempts tick)
      (s.start w 0) = (.ok claimed, t)) :
    Prog.eval (World.alone schedule_schema w) (enqueue_next job_max_attempts tick) s =
      (.ok claimed, if claimed.isSome then t.commit schedule_schema w else t.abandon w) := by
  have hbegin : Prog.eval (World.alone schedule_schema w) schedule_begin s =
      (.ok (), s.start w 0) := rfl
  have hbody : Prog.eval (World.alone schedule_schema w)
      (claim_and_enqueue job_max_attempts tick).attempt (s.start w 0) = (.ok (.ok claimed), t) := by
    rw [Prog.eval_attempt, h]
  rw [enqueue_next, Prog.bind_eq, Prog.eval_bind_ok _ hbegin, Prog.bind_eq,
    Prog.eval_bind_ok _ hbody]
  cases claimed with
  | none => rfl
  | some inserted => rfl

/-- Where no address is due a round changes nothing. -/
theorem enqueue_next_none (job_max_attempts : Int) (h : Quiet s w)
    (hnone : (s.tables.due tick).argmin ScheduledAddress.due_order = none) :
    ∃ t, Prog.eval (World.alone schedule_schema w) (enqueue_next job_max_attempts tick) s =
      (.ok none, t) ∧ t.tables = s.tables ∧ Quiet t w := by
  have hclaim := claim_evaluated tick h
  rw [hnone] at hclaim
  have hbody : Prog.eval (World.alone schedule_schema w) (claim_and_enqueue job_max_attempts tick)
      (s.start w 0) =
        (.ok none, after (s.start w 0) w (.claim_one_due_scan_address_for_update tick)) := by
    rw [claim_and_enqueue, Prog.bind_eq, Prog.eval_bind_ok _ hclaim]
    rfl
  exact ⟨_, round_evaluated hbody, rfl, ((h.alone 0).perform _).quiet⟩

theorem new_scheduled_job (t : Schedule) (now : Timestamp) (next_id : Uuid) :
    ScheduledJob job_max_attempts tick row ((t.scan_tables next_id).new_job now row.tenant_id row.id
      row.chain_id job_max_attempts tick none) :=
  ⟨rfl, rfl, rfl, rfl, rfl, rfl, rfl, rfl⟩

theorem insert_evaluated (job_max_attempts : Int) (tick : Timestamp)
    (haddress : (s.view schedule_schema w).address row.id = some row)
    (hvacant : ((s.view schedule_schema w).scan_tables s.next_id).active_job row.id = none) :
    ∃ job, ScheduledJob job_max_attempts tick row job ∧
      Prog.eval (World.alone schedule_schema w)
        (schedule_statement (.insert_scheduled_scan_job row.candidate job_max_attempts tick)) s =
          (.ok (some job),
            after s w (.insert_scheduled_scan_job row.candidate job_max_attempts tick)) ∧
      (after s w (.insert_scheduled_scan_job row.candidate job_max_attempts tick)).view
        schedule_schema w = (ScheduleChange.new_job job).apply (s.view schedule_schema w) := by
  obtain ⟨job, hnew, hjob⟩ : ∃ job, ScheduledJob job_max_attempts tick row job ∧
      (((s.view schedule_schema w).scan_tables s.next_id).insert_scheduled_scan_job (s.started w)
        row.candidate job_max_attempts tick).1 = some job := by
    refine ⟨_, new_scheduled_job (s.view schedule_schema w) (s.started w) s.next_id, ?_⟩
    unfold ScanTables.insert_scheduled_scan_job
    have hnone : ((s.view schedule_schema w).scan_tables s.next_id).active_job row.candidate.id =
        none := hvacant
    rw [hnone]
    rfl
  have hanswer : (s.effect schedule_schema w
      (.insert_scheduled_scan_job row.candidate job_max_attempts tick)).answer = .ok (some job) := by
    change (Schedule.insert_scheduled_scan_job ..).answer = _
    unfold Schedule.insert_scheduled_scan_job
    have hfound : (s.view schedule_schema w).address row.candidate.id = some row := haddress
    rw [hjob]
    simp only [hfound, Option.isNone_some, Bool.false_eq_true, if_false]
  refine ⟨job, hnew, ?_, ?_⟩
  · rw [statement_evaluated, hanswer]
  · rw [view_after, insert_effect_some hjob haddress]
    rfl

theorem mark_evaluated (haddress : (s.view schedule_schema w).address row.id = some row)
    (next : Timestamp) :
    Prog.eval (World.alone schedule_schema w)
        (schedule_statement (.mark_claimed_scan_enqueued row.id next)) s =
          (.ok (), after s w (.mark_claimed_scan_enqueued row.id next)) ∧
      (after s w (.mark_claimed_scan_enqueued row.id next)).view schedule_schema w =
        (ScheduleChange.address (row.moved_on next)).apply (s.view schedule_schema w) := by
  constructor
  · rw [statement_evaluated]
    refine Prod.ext ?_ rfl
    change (Schedule.ensure_updated ((s.view schedule_schema w).address row.id) _).answer = _
    rw [haddress]
    rfl
  · rw [view_after]
    change ScheduleChange.replay
      (Schedule.ensure_updated ((s.view schedule_schema w).address row.id) _).log _ = _
    rw [haddress]
    rfl

/-- The first due address is moved on and has its job. -/
theorem enqueue_next_some (job_max_attempts : Int) (h : Quiet s w)
    (hids : (s.tables.watched_addresses.map (·.id)).Nodup)
    (hfirst : (s.tables.due tick).argmin ScheduledAddress.due_order = some row) :
    ∃ t job, Prog.eval (World.alone schedule_schema w) (enqueue_next job_max_attempts tick) s =
      (.ok (some true), t) ∧ ScheduledJob job_max_attempts tick row job ∧
        t.tables = s.tables.enqueued tick job row ∧ Quiet t w := by
  obtain ⟨hrow, hdue⟩ := List.mem_filter.mp (List.argmin_mem hfirst)
  have hquiet : Quiet (s.start w 0) w := ⟨h.free, h.log⟩
  have hclaim := claim_evaluated tick h
  rw [hfirst] at hclaim
  generalize hclaimed : after (s.start w 0) w (.claim_one_due_scan_address_for_update tick) = claimed
    at hclaim
  have halone : Alone claimed w := hclaimed ▸ (h.alone 0).perform _
  have hview : claimed.view schedule_schema w = s.tables := by
    rw [← hclaimed, view_after]
    exact hquiet.view
  have haddress : (claimed.view schedule_schema w).address row.id = some row := by
    rw [hview]
    exact address_of_mem hids hrow
  have hvacant : ((claimed.view schedule_schema w).scan_tables claimed.next_id).active_job row.id =
      none := by
    rw [hview]
    refine List.find?_eq_none.mpr fun job hjob => ?_
    simp only [Schedule.is_due, Bool.and_eq_true, Bool.not_eq_true'] at hdue
    have hidle := List.any_eq_false.mp hdue.2 job hjob
    simpa [and_comm] using hidle
  obtain ⟨job, hjob, hinsert, hinserted⟩ := insert_evaluated job_max_attempts tick haddress hvacant
  generalize hworld : after claimed w
    (.insert_scheduled_scan_job row.candidate job_max_attempts tick) = inserted at hinsert hinserted
  have halone : Alone inserted w := hworld ▸ halone.perform _
  have haddress : (inserted.view schedule_schema w).address row.id = some row := by
    rw [hinserted]
    exact haddress
  obtain ⟨hmark, hmarked⟩ := mark_evaluated haddress
    (next_scan_at_from tick row.scan_interval_seconds)
  have hbody : Prog.eval (World.alone schedule_schema w) (claim_and_enqueue job_max_attempts tick)
      (s.start w 0) = (.ok (some true), after inserted w (.mark_claimed_scan_enqueued row.id
        (next_scan_at_from tick row.scan_interval_seconds))) := by
    rw [claim_and_enqueue, Prog.bind_eq, Prog.eval_bind_ok _ hclaim]
    change Prog.eval _ ((schedule_statement _).bind _) _ = _
    rw [Prog.eval_bind_ok _ hinsert, Prog.bind_eq]
    change Prog.eval _ ((schedule_statement (.mark_claimed_scan_enqueued row.id
      (next_scan_at_from tick row.scan_interval_seconds))).bind _) _ = _
    rw [Prog.eval_bind_ok _ hmark]
    rfl
  refine ⟨_, job, round_evaluated hbody, hjob, ?_, (halone.perform _).committed⟩
  change (after inserted w _).view schedule_schema w = _
  rw [hmarked, hinserted, hview]
  rfl

end Round

/-! ### The tick -/

/-- The schedule after these addresses were enqueued, each with a job of its own. -/
structure Enqueues (job_max_attempts : Int) (tick : Timestamp) (rows : List ScheduledAddress)
    (t u : Schedule) : Prop where
  addresses : u.watched_addresses = t.watched_addresses.map fun row =>
    if row ∈ rows then row.moved_on (next_scan_at_from tick row.scan_interval_seconds) else row
  jobs : ∃ jobs, u.scan_jobs = t.scan_jobs ++ jobs ∧
    List.Forall₂ (ScheduledJob job_max_attempts tick) rows jobs

section Loop
variable {W : Type} [DecidableEq W] {s : ScheduleWorld W} {w : W} {tick : Timestamp}
  {job_max_attempts : Int} {row : ScheduledAddress} {rows : List ScheduledAddress}
  {t u : Schedule} {job : ScanJob}

theorem Enqueues.nothing (t : Schedule) : Enqueues job_max_attempts tick [] t t :=
  ⟨by simp, [], (List.append_nil _).symm, .nil⟩

theorem moved_on_id (row : ScheduledAddress) (next : Timestamp) :
    (row.moved_on next).id = row.id := rfl

/-- One address, and then the others. -/
theorem Enqueues.cons (hids : (t.watched_addresses.map (·.id)).Nodup)
    (hrow : row ∈ t.watched_addresses) (hjob : ScheduledJob job_max_attempts tick row job)
    (hrows : ∀ other ∈ rows, other ∈ (t.due tick).erase row)
    (h : Enqueues job_max_attempts tick rows (t.enqueued tick job row) u) :
    Enqueues job_max_attempts tick (row :: rows) t u := by
  have hnodup : (t.due tick).Nodup := List.Nodup.filter _ (.of_map _ hids)
  have hother : ∀ other ∈ rows, other ∈ t.watched_addresses ∧ other ≠ row := by
    intro other hmem
    obtain ⟨hne, hdue⟩ := hnodup.mem_erase_iff.mp (hrows other hmem)
    exact ⟨(List.mem_filter.mp hdue).1, hne⟩
  have hjobs := h.jobs
  obtain ⟨jobs, hu, hall⟩ := hjobs
  refine ⟨?_, job :: jobs, ?_, .cons hjob hall⟩
  · rw [h.addresses]
    change (Table.update (fun r => r.id == row.id) (fun _ =>
      row.moved_on (next_scan_at_from tick row.scan_interval_seconds)) t.watched_addresses).map _ = _
    unfold Table.update
    rw [List.map_map]
    refine List.map_congr_left fun a ha => ?_
    by_cases hid : a.id = row.id
    · obtain rfl := List.inj_on_of_nodup_map hids ha hrow hid
      have hrevise : Table.revise (fun r => r.id == a.id)
          (fun _ => a.moved_on (next_scan_at_from tick a.scan_interval_seconds)) a = _ :=
        Table.revise_of_true (beq_self_eq_true _)
      -- the row that was moved on is none of the other ones
      have hleft : a.moved_on (next_scan_at_from tick a.scan_interval_seconds) ∉ rows := by
        intro hmem
        obtain ⟨hin, hne⟩ := hother _ hmem
        exact hne (List.inj_on_of_nodup_map hids hin ha (moved_on_id ..))
      rw [Function.comp_apply, hrevise, if_neg hleft, if_pos (List.mem_cons_self ..)]
    · have hne : a ≠ row := fun heq => hid (congrArg _ heq)
      have hrevise : Table.revise (fun r => r.id == row.id)
          (fun _ => row.moved_on (next_scan_at_from tick row.scan_interval_seconds)) a = a :=
        Table.revise_of_false (beq_false_of_ne hid)
      rw [Function.comp_apply, hrevise]
      simp [List.mem_cons, hne]
  · rw [hu]
    change t.scan_jobs ++ [job] ++ jobs = _
    rw [List.append_assoc]
    rfl

theorem signal_evaluated (s : ScheduleWorld W) (h : Quiet s w) :
    ∃ t, Prog.eval (World.alone schedule_schema w) (schedule_statement .signal).attempt s =
      (.ok (.ok ()), t) ∧ t.tables = s.tables ∧ Quiet t w := by
  refine ⟨after s w .signal, ?_, rfl, h.free, ?_⟩
  · rw [Prog.eval_attempt, statement_evaluated]
    rfl
  · have hlog : (after s w .signal).log w = s.log w ++ [] := Function.update_self ..
    rw [hlog, h.log]
    rfl

theorem enqueue_up_to_evaluated (job_max_attempts : Int) (tick : Timestamp) (rounds enqueued : Nat)
    (hquiet : Quiet s w)
    (hids : (s.tables.watched_addresses.map (·.id)).Nodup) :
    ∃ t, Prog.eval (World.alone schedule_schema w)
        (enqueue_up_to job_max_attempts tick rounds enqueued) s =
          (.ok (enqueued + (Select.first ScheduledAddress.due_order rounds
            (s.tables.due tick)).length), t) ∧
      Enqueues job_max_attempts tick (Select.first ScheduledAddress.due_order rounds
        (s.tables.due tick)) s.tables t.tables ∧ Quiet t w := by
  induction rounds generalizing s enqueued with
  | zero => exact ⟨s, rfl, .nothing _, hquiet⟩
  | succ rounds ih =>
    cases hfirst : (s.tables.due tick).argmin ScheduledAddress.due_order with
    | none =>
      obtain ⟨t, hround, htables, ht⟩ := enqueue_next_none job_max_attempts hquiet hfirst
      rw [Select.first_none hfirst]
      refine ⟨t, ?_, htables ▸ .nothing _, ht⟩
      rw [enqueue_up_to, Prog.bind_eq, Prog.eval_bind_ok _ hround]
      rfl
    | some row =>
      obtain ⟨a, job, hround, hjob, htables, ha⟩ := enqueue_next_some job_max_attempts hquiet hids hfirst
      obtain ⟨b, hsignal, hsame, hb⟩ := signal_evaluated a ha
      have hrow := (List.mem_filter.mp (List.argmin_mem hfirst)).1
      have hnext : b.tables = s.tables.enqueued tick job row := hsame.trans htables
      have hnext_ids : (b.tables.watched_addresses.map (·.id)).Nodup := by
        rw [hnext]
        exact address_ids_written (t := (ScheduleChange.new_job job).apply s.tables) hids
      have hdue : b.tables.due tick = (s.tables.due tick).erase row := by
        rw [hnext]
        exact due_enqueued hids hrow hjob
      obtain ⟨t, hloop, henqueues, ht⟩ := ih (enqueued + 1) hb hnext_ids
      rw [hdue] at hloop henqueues
      rw [Select.first_some hfirst]
      refine ⟨t, ?_, ?_, ht⟩
      · rw [enqueue_up_to, Prog.bind_eq, Prog.eval_bind_ok _ hround]
        change Prog.eval _ ((schedule_statement .signal).attempt.bind _) _ = _
        rw [Prog.eval_bind_ok _ hsignal, hloop, List.length_cons]
        congr 2
        omega
      · refine .cons hids hrow hjob (fun other hother => Select.mem_of_first hother) ?_
        rw [← hnext]
        exact henqueues

end Loop

/-- A tick that nobody interrupts enqueues the first due addresses in their order, as many as a tick
may, answers how many it has enqueued, and leaves everything else as it is. -/
theorem tick_enqueues_first_due {W : Type} [DecidableEq W] {s : ScheduleWorld W} {w : W}
    (hquiet : Quiet s w) (hids : (s.tables.watched_addresses.map (·.id)).Nodup)
    (job_max_attempts : Int) (tick : Timestamp) (batch_size : Int) :
    ∃ rows t, Prog.eval (World.alone schedule_schema w)
        (enqueue_due_addresses job_max_attempts tick batch_size) s = (.ok rows.length, t) ∧
      rows.Subperm (s.tables.due tick) ∧
      rows.length = min batch_size.toNat (s.tables.due tick).length ∧
      (rows.Pairwise fun a b => a.due_order ≤ b.due_order) ∧
      (∀ a ∈ s.tables.due tick, a ∉ rows → ∀ b ∈ rows, b.due_order ≤ a.due_order) ∧
      Enqueues job_max_attempts tick rows s.tables t.tables ∧ Quiet t w := by
  obtain ⟨t, heval, henqueues, ht⟩ := enqueue_up_to_evaluated job_max_attempts tick
    batch_size.toNat 0 hquiet hids
  rw [Nat.zero_add] at heval
  exact ⟨_, t, heval, Select.first_subperm .., Select.first_length .., Select.first_sorted ..,
    fun a ha hleft => Select.first_le ha hleft, henqueues, ht⟩

def two_due : ScheduleWorld Unit :=
  let row (id : Uuid) (next_scan_at : Timestamp) : ScheduledAddress :=
    { id := id, tenant_id := 7, chain_id := 8, scan_interval_seconds := 60, status := "active"
      next_scan_at := some next_scan_at, last_scanned_at := none, created_at := 0, advances := 0 }
  { empty_schedule with
    tables := { watched_addresses := [row 1 20, row 2 10, row 3 500], scan_jobs := [] }
    next_id := 4 }

theorem tick_enqueues_first_due_two : ∃ rows t, Prog.eval (World.alone schedule_schema ())
      (enqueue_due_addresses 5 100 1) two_due = (.ok rows.length, t) ∧
    rows.Subperm (two_due.tables.due 100) ∧
    rows.length = min 1 (two_due.tables.due 100).length ∧
    (rows.Pairwise fun a b => a.due_order ≤ b.due_order) ∧
    (∀ a ∈ two_due.tables.due 100, a ∉ rows → ∀ b ∈ rows, b.due_order ≤ a.due_order) ∧
    Enqueues 5 100 rows two_due.tables t.tables ∧ Quiet t () :=
  tick_enqueues_first_due ⟨fun _ => rfl, rfl⟩ (by decide) 5 100 1

end CoinListener.Scheduler
