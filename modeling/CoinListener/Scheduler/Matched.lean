import CoinListener.Scheduler.Slots

/-! The schedule in every run: one active job for an address, and a job for every time it was moved
on. -/
namespace CoinListener.Scheduler
open Foundation Storage Transaction

set_option linter.unusedSectionVars false

/-! ### The tables -/

/-- Every address has been moved on as often as it has jobs, but for jobs of retries. -/
structure Matched (t : Schedule) : Prop where
  address_ids : (t.watched_addresses.map (·.id)).Nodup
  one_active : OneActive t.scan_jobs
  scheduled_le : ∀ row ∈ t.watched_addresses, t.scheduled_jobs row.id ≤ row.advances
  le_jobs : ∀ row ∈ t.watched_addresses, row.advances ≤ t.jobs_of row.id

/-- What is known when a transaction may be committed: what it has changed, and why that is right. -/
inductive Settled : List ScheduleChange → List ScheduleFact → Prop where
  | nothing {facts} : Settled [] facts
  | enqueued {job row next} (haddress : job.address_id = row.id)
    (hscheduled : job.retry_of_scan_run_id = none) :
    Settled [.new_job job, .address (row.moved_on next)]
      [.address row, .idle row.id row.advances, .vacant row.id]
  | passed_over {row next} : Settled [.address (row.moved_on next)]
      [.address row, .idle row.id row.advances, .taken row.id row.advances]
  | retried {job run_id} (hretry : job.retry_of_scan_run_id = some run_id) :
    Settled [.new_job job] [.vacant job.address_id]
  | requeued (address_id job_id run_id now next_attempt_at max_attempts) :
    Settled [.requeued address_id job_id run_id now next_attempt_at max_attempts] []
  | written {row row'} (hid : row'.id = row.id) (hadvances : row'.advances = row.advances) :
    Settled [.address row'] [.address row]
  | created {row} (hadvances : row.advances = 0) : Settled [.new_address row] [.no_address row.id]
  | deleted (id) : Settled [.no_address id] []

section Tables
variable {t u : Schedule} {row row' : ScheduledAddress} {job : ScanJob}

def ScheduleChange.replay (changes : List ScheduleChange) (t : Schedule) : Schedule :=
  changes.foldl (fun t c => c.apply t) t

theorem Matched.of_same_jobs (h : Matched t) (hsame : SameJobs t u)
    (haddresses : u.watched_addresses = t.watched_addresses) : Matched u := by
  refine ⟨haddresses ▸ h.address_ids, hsame.one_active h.one_active, fun row hrow => ?_,
    fun row hrow => ?_⟩
  · rw [haddresses] at hrow
    exact Nat.le_trans (hsame.scheduled row.id) (h.scheduled_le row hrow)
  · rw [haddresses] at hrow
    have hcount := hsame.jobs row.id
    have hle := h.le_jobs row hrow
    omega

theorem Matched.edited (h : Matched t) (hedit : ScheduleEdit t u) : Matched u :=
  h.of_same_jobs (.of_moves hedit.2) hedit.1

/-- The rows after one of them is written. -/
theorem mem_address_written {r : ScheduledAddress}
    (h : r ∈ ((ScheduleChange.address row').apply t).watched_addresses) :
    r = row' ∨ (r ∈ t.watched_addresses ∧ r.id ≠ row'.id) := by
  obtain ⟨old, hold, rfl⟩ := Table.mem_update.mp h
  by_cases heq : old.id = row'.id
  · exact .inl (Table.revise_of_true (beq_iff_eq.mpr heq))
  · have hsame : Table.revise (·.id == row'.id) (fun _ => row') old = old :=
      Table.revise_of_false (beq_false_of_ne heq)
    rw [hsame]
    exact .inr ⟨hold, heq⟩

theorem address_ids_written (h : (t.watched_addresses.map (·.id)).Nodup) :
    (((ScheduleChange.address row').apply t).watched_addresses.map (·.id)).Nodup := by
  have hsame : ((ScheduleChange.address row').apply t).watched_addresses.map (·.id) =
      t.watched_addresses.map (·.id) := by
    change (Table.update _ _ _).map _ = _
    unfold Table.update
    rw [List.map_map]
    refine List.map_congr_left fun old _ => ?_
    unfold Table.revise
    simp only [Function.comp_apply]
    split
    · rename_i heq
      exact (beq_iff_eq.mp heq).symm
    · rfl
  exact hsame ▸ h

/-- A transaction that is settled leaves the schedule in order. -/
theorem Settled.matched {changes : List ScheduleChange} {facts : List ScheduleFact}
    (hsettled : Settled changes facts) (hfacts : ∀ f ∈ facts, f.holds t) (h : Matched t) :
    Matched (ScheduleChange.replay changes t) := by
  cases hsettled with
  | nothing => exact h
  | @enqueued job row next haddress hscheduled =>
    have hrow : row ∈ t.watched_addresses := hfacts _ (List.mem_cons_self ..)
    have hvacant : ∀ other ∈ t.scan_jobs, other.address_id = row.id → other.active = false :=
      hfacts (.vacant row.id) (by simp)
    have hsame : (row.moved_on next).id = row.id := rfl
    refine ⟨address_ids_written h.address_ids, one_active_new h.one_active (haddress ▸ hvacant),
      fun r hr => ?_, fun r hr => ?_⟩
    · have hscheduled_count := scheduled_jobs_new (t := t) job r.id
      rcases mem_address_written hr with rfl | ⟨hr, hne⟩
      · have hle := h.scheduled_le row hrow
        rw [hsame, if_pos ⟨haddress, hscheduled⟩] at hscheduled_count
        exact hscheduled_count.trans_le (Nat.succ_le_succ hle)
      · have hle := h.scheduled_le r hr
        rw [if_neg fun ⟨heq, _⟩ => hne (heq.symm.trans haddress)] at hscheduled_count
        exact hscheduled_count.trans_le hle
    · have hjob_count := jobs_of_new (t := t) job r.id
      rcases mem_address_written hr with rfl | ⟨hr, hne⟩
      · have hle := h.le_jobs row hrow
        rw [hsame, if_pos haddress] at hjob_count
        exact (Nat.succ_le_succ hle).trans_eq hjob_count.symm
      · have hle := h.le_jobs r hr
        rw [if_neg fun heq => hne (heq.symm.trans haddress)] at hjob_count
        exact hle.trans_eq hjob_count.symm
  | @passed_over row next =>
    have hrow : row ∈ t.watched_addresses := hfacts _ (List.mem_cons_self ..)
    have htaken : row.advances < t.jobs_of row.id := hfacts (.taken row.id row.advances) (by simp)
    refine ⟨address_ids_written h.address_ids, h.one_active, fun r hr => ?_, fun r hr => ?_⟩
    · rcases mem_address_written hr with rfl | ⟨hr, _⟩
      · exact Nat.le_succ_of_le (h.scheduled_le row hrow)
      · exact h.scheduled_le r hr
    · rcases mem_address_written hr with rfl | ⟨hr, _⟩
      · exact htaken
      · exact h.le_jobs r hr
  | @retried job run_id hretry =>
    have hvacant : ∀ other ∈ t.scan_jobs, other.address_id = job.address_id → other.active = false :=
      hfacts _ (List.mem_cons_self ..)
    refine ⟨h.address_ids, one_active_new h.one_active hvacant, fun r hr => ?_, fun r hr => ?_⟩
    · have hcount := scheduled_jobs_new (t := t) job r.id
      rw [if_neg fun ⟨_, hnone⟩ => nomatch hretry.symm.trans hnone] at hcount
      exact hcount.trans_le (h.scheduled_le r hr)
    · have hcount := jobs_of_new (t := t) job r.id
      have hle := h.le_jobs r hr
      exact Nat.le_trans hle (hcount ▸ Nat.le_add_right ..)
  | requeued address_id => exact h.of_same_jobs (.of_requeued address_id ..) rfl
  | @written row row' hid hadvances =>
    have hrow : row ∈ t.watched_addresses := hfacts _ (List.mem_cons_self ..)
    refine ⟨address_ids_written h.address_ids, h.one_active, fun r hr => ?_, fun r hr => ?_⟩
    · rcases mem_address_written hr with rfl | ⟨hr, _⟩
      · rw [hid, hadvances]
        exact h.scheduled_le row hrow
      · exact h.scheduled_le r hr
    · rcases mem_address_written hr with rfl | ⟨hr, _⟩
      · rw [hid, hadvances]
        exact h.le_jobs row hrow
      · exact h.le_jobs r hr
  | @created row hadvances =>
    obtain ⟨hnew, hnone⟩ := hfacts _ (List.mem_cons_self ..)
    refine ⟨?_, h.one_active, fun r hr => ?_, fun r hr => ?_⟩
    · change ((t.watched_addresses ++ [row]).map (·.id)).Nodup
      rw [List.map_append]
      refine h.address_ids.append (List.nodup_singleton _) fun id hid hrow => ?_
      obtain ⟨r, hr, rfl⟩ := List.mem_map.mp hid
      exact hnew r hr (List.mem_singleton.mp hrow)
    · rcases List.mem_append.mp hr with hr | hr
      · exact h.scheduled_le r hr
      · obtain rfl := List.mem_singleton.mp hr
        exact hnone.trans_le (Nat.zero_le _)
    · rcases List.mem_append.mp hr with hr | hr
      · exact h.le_jobs r hr
      · obtain rfl := List.mem_singleton.mp hr
        rw [hadvances]
        exact Nat.zero_le _
  | deleted id =>
    have hother : ∀ r ∈ ((ScheduleChange.no_address id).apply t).watched_addresses,
        r ∈ t.watched_addresses ∧ r.id ≠ id := by
      intro r hr
      obtain ⟨hr, hne⟩ := List.mem_filter.mp hr
      exact ⟨hr, by simpa using hne⟩
    refine ⟨h.address_ids.sublist (List.filter_sublist.map _), h.one_active.sublist List.filter_sublist,
      fun r hr => ?_, fun r hr => ?_⟩
    · obtain ⟨hr, hne⟩ := hother r hr
      exact Nat.le_trans (Nat.le_of_eq (scheduled_jobs_deleted hne)) (h.scheduled_le r hr)
    · obtain ⟨hr, hne⟩ := hother r hr
      exact Nat.le_trans (h.le_jobs r hr) (Nat.le_of_eq (jobs_of_deleted hne).symm)

/-! ### Identifiers -/

/-- The identifiers of addresses are those given out. -/
structure Schedule.Below (t : Schedule) (n : Uuid) : Prop where
  addresses : ∀ row ∈ t.watched_addresses, row.id < n
  jobs : ∀ job ∈ t.scan_jobs, job.address_id < n

def ScheduleChange.Below (n : Uuid) : ScheduleChange → Prop
  | .new_address row => row.id < n
  | .address row => row.id < n
  | .new_job job => job.address_id < n
  | _ => True

theorem ScheduleChange.Below.mono {c : ScheduleChange} {m n : Uuid} (h : c.Below m) (hmn : m ≤ n) :
    c.Below n := by
  cases c with
  | new_address => exact Nat.lt_of_lt_of_le h hmn
  | address => exact Nat.lt_of_lt_of_le h hmn
  | no_address => trivial
  | new_job => exact Nat.lt_of_lt_of_le h hmn
  | requeued => trivial

namespace Schedule.Below
variable {m n : Uuid}

theorem mono (h : t.Below m) (hmn : m ≤ n) : t.Below n :=
  ⟨fun row hrow => Nat.lt_of_lt_of_le (h.addresses row hrow) hmn,
    fun job hjob => Nat.lt_of_lt_of_le (h.jobs job hjob) hmn⟩

theorem of_same_jobs (h : t.Below n) (hsame : SameJobs t u)
    (haddresses : u.watched_addresses = t.watched_addresses) : u.Below n := by
  refine ⟨haddresses ▸ h.addresses, fun job' hjob' => ?_⟩
  obtain ⟨job, hjob, hgoes⟩ := hsame.address_ids job' hjob'
  exact hgoes.address_id ▸ h.jobs job hjob

theorem apply {c : ScheduleChange} (h : t.Below n) (hc : c.Below n) : (c.apply t).Below n := by
  cases c with
  | new_address row =>
    refine ⟨fun r hr => ?_, h.jobs⟩
    rcases List.mem_append.mp hr with hr | hr
    · exact h.addresses r hr
    · exact List.mem_singleton.mp hr ▸ hc
  | address row =>
    refine ⟨fun r hr => ?_, h.jobs⟩
    rcases mem_address_written hr with rfl | ⟨hr, _⟩
    · exact hc
    · exact h.addresses r hr
  | no_address id =>
    exact ⟨fun r hr => h.addresses r (List.mem_filter.mp hr).1,
      fun job hjob => h.jobs job (List.mem_filter.mp hjob).1⟩
  | new_job job =>
    refine ⟨h.addresses, fun other hother => ?_⟩
    rcases List.mem_append.mp hother with hother | hother
    · exact h.jobs other hother
    · exact List.mem_singleton.mp hother ▸ hc
  | requeued address_id => exact h.of_same_jobs (.of_requeued address_id ..) rfl

theorem replay {log : List ScheduleChange} (h : t.Below n) (hlog : ∀ c ∈ log, c.Below n) :
    (ScheduleChange.replay log t).Below n := by
  induction log generalizing t with
  | nil => exact h
  | cons c log ih =>
    exact ih (h.apply (hlog c (List.mem_cons_self ..)))
      fun d hd => hlog d (List.mem_cons_of_mem _ hd)

end Schedule.Below

/-! ### Statements -/

section Effects
variable {now : Timestamp} {next_id : Uuid} {skipped : ScheduleKey → Bool}
  {statement : ScheduleStatement} {c : ScheduleChange}

theorem address_mem {id : Uuid} (h : t.address id = some row) :
    row ∈ t.watched_addresses ∧ row.id = id := by
  have hid := List.find?_some h
  exact ⟨List.mem_of_find?_eq_some h, by simpa using hid⟩

theorem tenant_address_mem {id tenant_id : Uuid} (h : t.tenant_address id tenant_id = some row) :
    row ∈ t.watched_addresses :=
  List.mem_of_find?_eq_some h

theorem address_of_mem (hids : (t.watched_addresses.map (·.id)).Nodup)
    (hrow : row ∈ t.watched_addresses) : t.address row.id = some row := by
  have hfound : (t.address row.id).isSome = true :=
    List.find?_isSome.mpr ⟨row, hrow, beq_self_eq_true _⟩
  obtain ⟨found, hfound⟩ := Option.isSome_iff_exists.mp hfound
  obtain ⟨hmem, hid⟩ := address_mem hfound
  rw [hfound, List.inj_on_of_nodup_map hids hmem hrow hid]

/-- What a row is written over with keeps its identifier. -/
theorem ensure_updated_log {found : Option ScheduledAddress}
    {change : ScheduledAddress → ScheduledAddress}
    (h : c ∈ (Schedule.ensure_updated found change).log) :
    ∃ row, found = some row ∧ c = .address (change row) := by
  cases found with
  | none => exact nomatch h
  | some row => exact ⟨row, rfl, List.mem_singleton.mp h⟩

/-- A scheduled job is inserted where no other one is active. -/
theorem scheduled_job_some {candidate : ScanAddressCandidate} {max_attempts : Int}
    {next_attempt_at : Timestamp}
    (h : ((t.scan_tables next_id).insert_scheduled_scan_job now candidate max_attempts
      next_attempt_at).1 = some job) :
    (t.scan_tables next_id).active_job candidate.id = none ∧
      job = (t.scan_tables next_id).new_job now candidate.tenant_id candidate.id candidate.chain_id
        max_attempts next_attempt_at none := by
  unfold ScanTables.insert_scheduled_scan_job at h
  split at h
  · exact nomatch h
  · rename_i hnone
    exact ⟨hnone, (Option.some.inj h).symm⟩

theorem scheduled_job_none {candidate : ScanAddressCandidate} {max_attempts : Int}
    {next_attempt_at : Timestamp}
    (h : ((t.scan_tables next_id).insert_scheduled_scan_job now candidate max_attempts
      next_attempt_at).1 = none) :
    ∃ job, (t.scan_tables next_id).active_job candidate.id = some job := by
  unfold ScanTables.insert_scheduled_scan_job at h
  split at h
  · rename_i job hjob
    exact ⟨job, hjob⟩
  · exact nomatch h

/-- What the insert for a retry does. -/
theorem retry_log (t : Schedule) (now : Timestamp) (next_id tenant_id address_id chain_id run_id : Uuid)
    (max_attempts : Int) (next_attempt_at : Timestamp) :
    (t.insert_retry_scan_job now next_id tenant_id address_id chain_id run_id max_attempts
        next_attempt_at).log = [] ∨
      (∃ job_id, (t.insert_retry_scan_job now next_id tenant_id address_id chain_id run_id
        max_attempts next_attempt_at).log =
          [.requeued address_id job_id run_id now next_attempt_at max_attempts]) ∨
      ∃ row job, t.address address_id = some row ∧
        (t.scan_tables next_id).active_job address_id = none ∧ job.address_id = address_id ∧
        job.retry_of_scan_run_id = some run_id ∧
        (t.insert_retry_scan_job now next_id tenant_id address_id chain_id run_id max_attempts
          next_attempt_at).log = [.new_job job] := by
  simp only [Schedule.insert_retry_scan_job, ScanTables.insert_retry_scan_job]
  cases hactive : (t.scan_tables next_id).active_job address_id with
  | some active =>
    dsimp only
    split
    · exact .inl rfl
    · exact .inr (.inl ⟨_, rfl⟩)
    · rename_i h _
      cases h
  | none =>
    dsimp only
    cases haddress : t.address address_id with
    | none => exact .inl rfl
    | some row => exact .inr (.inr ⟨row, _, rfl, rfl, rfl, rfl, rfl⟩)

end Effects

end Tables

end CoinListener.Scheduler
