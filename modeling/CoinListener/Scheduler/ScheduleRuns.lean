import CoinListener.Scheduler.Matched

/-! What each call knows of the schedule when it commits, and from it what every run keeps. -/
namespace CoinListener.Scheduler
open Foundation Storage Transaction

set_option linter.unusedSectionVars false

variable {W : Type} [DecidableEq W] {s t : ScheduleWorld W} {w : W}
  {changes : List ScheduleChange} {facts : List ScheduleFact}

/-! ### The invariant -/

/-- The committed schedule is in order, and every identifier is one of those given out. -/
structure ScheduleOrder (s : ScheduleWorld W) : Prop where
  matched : Matched s.tables
  below : s.tables.Below s.next_id
  log : ∀ w, ∀ c ∈ s.log w, c.Below s.next_id

theorem schedule_effect_below {t : Schedule} {now : Timestamp} {next_id : Uuid}
    {skipped : ScheduleKey → Bool} {statement : ScheduleStatement} {c : ScheduleChange}
    (h : t.Below next_id) (hc : c ∈ (t.effect now next_id skipped statement).log) :
    c.Below (next_id + (t.effect now next_id skipped statement).new_ids) := by
  have hwritten : ∀ {found change}, c ∈ (Schedule.ensure_updated found change).log →
      (∀ row, found = some row → row ∈ t.watched_addresses) → (∀ row, (change row).id = row.id) →
        c.Below next_id := by
    intro found change hc hfound hid
    obtain ⟨row, hrow, rfl⟩ := ensure_updated_log hc
    have hlt := h.addresses row (hfound row hrow)
    rw [← hid row] at hlt
    exact hlt
  cases statement with
  | claim_one_due_scan_address_for_update => exact nomatch hc
  | signal => exact nomatch hc
  | insert_scheduled_scan_job candidate max_attempts next_attempt_at =>
    simp only [Schedule.effect, Schedule.insert_scheduled_scan_job] at hc ⊢
    split at hc
    · exact nomatch hc
    · rename_i job hjob
      split at hc
      · exact nomatch hc
      · rename_i hfound
        obtain ⟨_, rfl⟩ := scheduled_job_some hjob
        obtain rfl := List.mem_singleton.mp hc
        obtain ⟨row, hrow⟩ := Option.ne_none_iff_exists'.mp fun hnone =>
          hfound (Option.isNone_iff_eq_none.mpr hnone)
        obtain ⟨hmem, hid⟩ := address_mem hrow
        have hlt := h.addresses row hmem
        rw [hid] at hlt
        exact Nat.lt_add_right _ hlt
  | mark_claimed_scan_enqueued address_id next_scan_at =>
    exact (hwritten hc (fun row hrow => (address_mem hrow).1) fun _ => rfl).mono (Nat.le_add_right ..)
  | finish_address_scan address_id last_scanned_at next_scan_at =>
    exact (hwritten hc (fun row hrow => (address_mem hrow).1) fun _ => rfl).mono (Nat.le_add_right ..)
  | update_watched_address id tenant_id chain_id scan_interval_seconds status =>
    exact (hwritten hc (fun row hrow => tenant_address_mem hrow) fun _ => rfl).mono
      (Nat.le_add_right ..)
  | ensure_watched_address_update id tenant_id =>
    obtain ⟨row, hrow, rfl⟩ := List.mem_map.mp hc
    exact h.addresses row (tenant_address_mem (Option.mem_toList.mp hrow))
  | create_watched_address =>
    obtain rfl := List.mem_singleton.mp hc
    exact Nat.lt_succ_self next_id
  | delete_watched_address id tenant_id =>
    simp only [Schedule.effect] at hc
    split at hc
    · exact List.mem_singleton.mp hc ▸ trivial
    · exact nomatch hc
  | insert_retry_scan_job tenant_id address_id chain_id run_id max_attempts next_attempt_at =>
    have hlog : c ∈ (t.insert_retry_scan_job now next_id tenant_id address_id chain_id run_id
        max_attempts next_attempt_at).log := hc
    have hcases := retry_log t now next_id tenant_id address_id chain_id run_id max_attempts
        next_attempt_at
    rcases hcases with hnone | ⟨job_id, hrequeued⟩ | ⟨row, job, hrow, _, haddress, _, hnew⟩
    · rw [hnone] at hlog
      exact nomatch hlog
    · rw [hrequeued] at hlog
      exact List.mem_singleton.mp hlog ▸ trivial
    · rw [hnew] at hlog
      obtain rfl := List.mem_singleton.mp hlog
      obtain ⟨hmem, hid⟩ := address_mem hrow
      have hlt := h.addresses row hmem
      rw [hid, ← haddress] at hlt
      exact Nat.lt_add_right _ hlt

namespace ScheduleOrder

theorem perform {statement : ScheduleStatement} (h : ScheduleOrder s) :
    ScheduleOrder (s.perform w (s.effect schedule_schema w statement)) := by
  have hle : s.next_id ≤ (s.effect schedule_schema w statement).next_id := schedule_schema.next_id_le
  have hview : (s.view schedule_schema w).Below s.next_id := h.below.replay (h.log w)
  refine ⟨h.matched, h.below.mono hle, fun v c hc => ?_⟩
  by_cases hv : v = w
  · subst v
    have hlog : (s.perform w (s.effect schedule_schema w statement)).log w =
        s.log w ++ (s.effect schedule_schema w statement).log := Function.update_self ..
    rw [hlog] at hc
    rcases List.mem_append.mp hc with hold | hnew
    · exact (h.log w c hold).mono hle
    · exact schedule_effect_below hview hnew
  · have hlog : (s.perform w (s.effect schedule_schema w statement)).log v = s.log v :=
      Function.update_of_ne hv ..
    rw [hlog] at hc
    exact (h.log v c hc).mono hle

theorem start (h : ScheduleOrder s) (now : Timestamp) : ScheduleOrder (s.start w now) :=
  ⟨h.matched, h.below, h.log⟩

theorem abandon_log (h : ScheduleOrder s) (v : W) :
    ∀ c ∈ (s.abandon w).log v, c.Below s.next_id := by
  intro c hc
  by_cases hv : v = w
  · subst v
    have hlog : (s.abandon w).log w = [] := Function.update_self ..
    rw [hlog] at hc
    exact absurd hc List.not_mem_nil
  · have hlog : (s.abandon w).log v = s.log v := Function.update_of_ne hv ..
    rw [hlog] at hc
    exact h.log v c hc

theorem abandon (h : ScheduleOrder s) : ScheduleOrder (s.abandon w) :=
  ⟨h.matched, h.below, h.abandon_log⟩

theorem edited (h : ScheduleOrder s) (hedited : Edited ScheduleEdit s t) : ScheduleOrder t := by
  obtain ⟨tables, hedit, rfl⟩ := hedited
  exact ⟨h.matched.edited hedit, h.below.of_same_jobs (.of_moves hedit.2) hedit.1, h.log⟩

end ScheduleOrder

/-! ### Transactions -/

abbrev schedule_knows (w : W) :=
  knows schedule_facts (fun _ => true) w

abbrev schedule_knows_some (w : W) :=
  knows_some schedule_facts (fun _ => true) w

abbrev schedule_anything (w : W) :=
  anything schedule_facts w

abbrev ScheduleDoes {α : Type} (w : W) :=
  Does (α := α) AppError.Database schedule_facts ScheduleOrder (fun _ _ => True) w

section Knowledge
variable (h : Knows schedule_facts (fun _ => true) w changes facts s)
include h

theorem schedule_log : s.log w = changes := by
  have hlog := h.log
  rwa [List.filter_eq_self.mpr fun _ _ => rfl] at hlog

theorem schedule_view : s.view schedule_schema w = ScheduleChange.replay changes s.tables := by
  unfold World.view
  rw [schedule_log h]
  rfl

/-- A settled transaction may be committed. -/
theorem commit_settled (hsettled : Settled changes facts) (horder : ScheduleOrder s) :
    ScheduleOrder (s.commit schedule_schema w) := by
  refine ⟨?_, horder.below.replay (horder.log w), horder.abandon_log⟩
  change Matched (s.view schedule_schema w)
  rw [schedule_view h]
  exact hsettled.matched h.holds horder.matched

end Knowledge

/-- Nothing changed yet: what is seen is what is committed. -/
theorem view_of_nothing (h : Knows schedule_facts (fun _ => true) w [] facts s) :
    s.view schedule_schema w = s.tables :=
  schedule_view h

/-- The statement that a call of one statement consists of. -/
theorem statement_settles {statement : ScheduleStatement}
    (h : ∀ (t : Schedule) (now next_id) (skipped : ScheduleKey → Bool), Matched t → t.Below next_id →
      ∃ more, Settled (t.effect now next_id skipped statement).log more ∧
        (∀ f ∈ more, f.holds t) ∧
        ∀ f ∈ more, ∀ k ∈ f.keys, k ∈ (t.effect now next_id skipped statement).log.flatMap
          ScheduleChange.keys) :
    ScheduleDoes w (schedule_knows w [] []) (schedule_statement statement)
      (fun _ => schedule_knows_some w Settled) (schedule_anything w) := by
  refine ask_does fun s hsound hs a _ => ?_
  have hview := view_of_nothing hs
  obtain ⟨more, hsettled, hholds, hlocked⟩ := h (s.view schedule_schema w) (s.started w) s.next_id
    (s.locked_by_other w) (hview.symm ▸ hsound.sound.matched) (hview.symm ▸ hsound.sound.below)
  have hnext := hs.perform (e := s.effect schedule_schema w statement) more (hview ▸ hholds)
    fun f hf k hk => .inl (List.mem_append_right _ (hlocked f hf k hk))
  rw [List.filter_eq_self.mpr fun _ _ => rfl] at hnext
  exact ⟨_, more, hsettled, hnext⟩

theorem call_does {statement : ScheduleStatement}
    (h : ScheduleDoes w (schedule_knows w [] []) (schedule_statement statement)
      (fun _ => schedule_knows_some w Settled) (schedule_anything w)) :
    ScheduleDoes w (schedule_knows w [] []) (schedule_call statement)
      (fun _ => schedule_knows w [] []) (schedule_knows w [] []) := by
  refine .bind (Interference.refl w) (transaction_does h fun a s hs hsound => ?_) fun _ =>
    .done fun _ hs => hs
  obtain ⟨changes, facts, hsettled, hs⟩ := hs
  exact ⟨commit_settled hs hsettled hsound.sound, trivial⟩

/-! ### Calls of one statement -/

section Calls
variable {tables : Schedule} {now : Timestamp} {next_id : Uuid} {skipped : ScheduleKey → Bool}

/-- A row is written over, but its identifier and its count stay. -/
theorem written_settles {found : Option ScheduledAddress}
    {change : ScheduledAddress → ScheduledAddress}
    (hfound : ∀ row, found = some row → row ∈ tables.watched_addresses)
    (hid : ∀ row, (change row).id = row.id) (hadvances : ∀ row, (change row).advances = row.advances) :
    ∃ more, Settled (found.toList.map fun row => .address (change row)) more ∧
      (∀ f ∈ more, f.holds tables) ∧ ∀ f ∈ more, ∀ k ∈ f.keys,
        k ∈ (found.toList.map fun row => ScheduleChange.address (change row)).flatMap
          ScheduleChange.keys := by
  cases found with
  | none => exact ⟨[], .nothing, nofun, nofun⟩
  | some row =>
    refine ⟨[.address row], .written (hid row) (hadvances row), fun f hf => ?_, fun f hf k hk => ?_⟩
    · obtain rfl := List.mem_singleton.mp hf
      exact hfound row rfl
    · obtain rfl := List.mem_singleton.mp hf
      obtain rfl := List.mem_singleton.mp hk
      simp [ScheduleChange.keys, hid]

theorem ensure_updated_log_eq (found : Option ScheduledAddress)
    (change : ScheduledAddress → ScheduledAddress) : (Schedule.ensure_updated found change).log =
      found.toList.map fun row => ScheduleChange.address (change row) := by
  cases found <;> rfl

theorem active_job_none_vacant {address_id : Uuid}
    (h : (tables.scan_tables next_id).active_job address_id = none) :
    ∀ job ∈ tables.scan_jobs, job.address_id = address_id → job.active = false := by
  intro job hjob haddress
  cases hactive : job.active with
  | false => rfl
  | true => exact absurd haddress (active_job_none h hjob hactive)

theorem retry_settles (tenant_id address_id chain_id run_id : Uuid) (max_attempts : Int)
    (next_attempt_at : Timestamp) : ScheduleDoes w (schedule_knows w [] [])
      (schedule_statement (.insert_retry_scan_job tenant_id address_id chain_id run_id max_attempts
        next_attempt_at)) (fun _ => schedule_knows_some w Settled) (schedule_anything w) := by
  refine statement_settles fun t now next_id skipped _ _ => ?_
  have hcases := retry_log t now next_id tenant_id address_id chain_id run_id max_attempts
        next_attempt_at
  change ∃ more, Settled (t.insert_retry_scan_job now next_id tenant_id address_id chain_id run_id
    max_attempts next_attempt_at).log more ∧ _ ∧ ∀ f ∈ more, ∀ k ∈ f.keys,
      k ∈ (t.insert_retry_scan_job now next_id tenant_id address_id chain_id run_id max_attempts
        next_attempt_at).log.flatMap ScheduleChange.keys
  rcases hcases with hnone | ⟨job_id, hrequeued⟩ | ⟨_, job, _, hvacant, haddress, hretry, hnew⟩
  · rw [hnone]
    exact ⟨[], .nothing, nofun, nofun⟩
  · rw [hrequeued]
    exact ⟨[], .requeued .., nofun, nofun⟩
  · rw [hnew]
    refine ⟨[.vacant job.address_id], .retried hretry, fun f hf => ?_, fun f hf k hk => ?_⟩
    · obtain rfl := List.mem_singleton.mp hf
      rw [haddress]
      exact active_job_none_vacant hvacant
    · obtain rfl := List.mem_singleton.mp hf
      obtain rfl := List.mem_singleton.mp hk
      exact List.mem_flatMap.mpr ⟨_, List.mem_singleton_self _, active_job_mem_keys job⟩

theorem finish_settles (address_id : Uuid) (last_scanned_at next_scan_at : Timestamp) :
    ScheduleDoes w (schedule_knows w [] [])
      (schedule_statement (.finish_address_scan address_id last_scanned_at next_scan_at))
      (fun _ => schedule_knows_some w Settled) (schedule_anything w) := by
  refine statement_settles fun t now next_id skipped _ _ => ?_
  simp only [Schedule.effect, ensure_updated_log_eq]
  exact written_settles (fun row hrow => (address_mem hrow).1) (fun _ => rfl) fun _ => rfl

theorem update_settles (id tenant_id chain_id : Uuid) (scan_interval_seconds : Int)
    (status : String) : ScheduleDoes w (schedule_knows w [] []) (schedule_statement
      (.update_watched_address id tenant_id chain_id scan_interval_seconds status))
      (fun _ => schedule_knows_some w Settled) (schedule_anything w) := by
  refine statement_settles fun t now next_id skipped _ _ => ?_
  simp only [Schedule.effect, ensure_updated_log_eq]
  exact written_settles (fun row hrow => tenant_address_mem hrow) (fun _ => rfl) fun _ => rfl

theorem ensure_settles (id tenant_id : Uuid) : ScheduleDoes w (schedule_knows w [] [])
    (schedule_statement (.ensure_watched_address_update id tenant_id))
    (fun _ => schedule_knows_some w Settled) (schedule_anything w) := by
  refine statement_settles fun t now next_id skipped _ _ => ?_
  exact written_settles (fun row hrow => tenant_address_mem hrow) (fun _ => rfl) fun _ => rfl

/-- No job can have the identifier of a new address. -/
theorem create_settles (tenant_id chain_id : Uuid) (scan_interval_seconds : Int) (status : String) :
    ScheduleDoes w (schedule_knows w [] []) (schedule_statement
      (.create_watched_address tenant_id chain_id scan_interval_seconds status))
      (fun _ => schedule_knows_some w Settled) (schedule_anything w) := by
  refine statement_settles fun t now next_id skipped _ hbelow => ?_
  refine ⟨[.no_address next_id], .created rfl, fun f hf => ?_, fun f hf k hk => ?_⟩
  · obtain rfl := List.mem_singleton.mp hf
    refine ⟨fun row hrow => Nat.ne_of_lt (hbelow.addresses row hrow), ?_⟩
    refine List.countP_eq_zero.mpr fun job hjob hcounted => ?_
    simp only [Bool.and_eq_true, beq_iff_eq] at hcounted
    exact Nat.ne_of_lt (hbelow.jobs job hjob) hcounted.1
  · obtain rfl := List.mem_singleton.mp hf
    exact List.mem_flatMap.mpr ⟨_, List.mem_singleton_self _, hk⟩

theorem delete_settles (id tenant_id : Uuid) : ScheduleDoes w (schedule_knows w [] [])
    (schedule_statement (.delete_watched_address id tenant_id))
    (fun _ => schedule_knows_some w Settled) (schedule_anything w) := by
  refine statement_settles fun t now next_id skipped _ _ => ?_
  simp only [Schedule.effect]
  cases t.tenant_address id tenant_id with
  | none => exact ⟨[], .nothing, nofun, nofun⟩
  | some row => exact ⟨[], .deleted row.id, nofun, nofun⟩

end Calls

/-! ### A tick -/

/-- The address is claimed. -/
inductive Locked (candidate : ScanAddressCandidate) : List ScheduleChange → List ScheduleFact → Prop where
  | locked (row : ScheduledAddress) (hrow : row.candidate = candidate) :
    Locked candidate [] [.address row, .idle row.id row.advances]

/-- Its job is inserted, or some other one has come first. -/
inductive Inserted (row : ScheduledAddress) : List ScheduleChange → List ScheduleFact → Prop where
  | enqueued {job : ScanJob} (haddress : job.address_id = row.id)
    (hscheduled : job.retry_of_scan_run_id = none) :
    Inserted row [.new_job job] [.address row, .idle row.id row.advances, .vacant row.id]
  | conflict : Inserted row [] [.address row, .idle row.id row.advances, .taken row.id row.advances]

section Tick
variable {job_max_attempts : Int} {now : Timestamp} {row : ScheduledAddress}

theorem first_due_mem {tables : Schedule} {skipped : ScheduleKey → Bool}
    (h : tables.first_due skipped now = some row) :
    row ∈ tables.watched_addresses ∧ tables.is_due now row = true ∧
      skipped (.address row.id) = false := by
  obtain ⟨hmem, hdue⟩ := List.mem_filter.mp (List.argmin_mem h)
  simp only [Bool.and_eq_true, Bool.not_eq_true'] at hdue
  exact ⟨hmem, hdue⟩

/-- The jobs of a due address are all inactive. -/
theorem due_idle {tables : Schedule} (h : tables.is_due now row = true) :
    tables.inactive_jobs row.id = tables.jobs_of row.id := by
  simp only [Schedule.is_due, Bool.and_eq_true, Bool.not_eq_true'] at h
  refine List.countP_congr fun job hjob => ?_
  have hidle := List.any_eq_false.mp h.2 job hjob
  simp only [Bool.and_eq_true, beq_iff_eq] at hidle ⊢
  constructor
  · exact fun hcounted => hcounted.1
  · intro haddress
    refine ⟨haddress, ?_⟩
    cases hactive : job.active with
    | false => rfl
    | true => exact absurd ⟨haddress, hactive⟩ hidle

/-- What is known with the address that was claimed. -/
def claimed_address (w : W) (candidate : Option ScanAddressCandidate) :
    Prog.Assn (Interference schedule_facts w) fun _ => True :=
  match candidate with
  | none => schedule_knows w [] []
  | some candidate => schedule_knows_some w (Locked candidate)

theorem claim_effect_answer (s : ScheduleWorld W) (w : W) (now : Timestamp) :
    (s.effect schedule_schema w (.claim_one_due_scan_address_for_update now)).answer =
      .ok (((s.view schedule_schema w).first_due (s.locked_by_other w) now).map (·.candidate)) :=
  rfl

theorem claim_effect_locks (s : ScheduleWorld W) (w : W) (now : Timestamp) :
    (s.effect schedule_schema w (.claim_one_due_scan_address_for_update now)).locks =
      ((s.view schedule_schema w).first_due (s.locked_by_other w) now).toList.map
        (ScheduleKey.address ·.id) :=
  List.append_nil _

theorem claim_does : ScheduleDoes w (schedule_knows w [] [])
    (schedule_statement (.claim_one_due_scan_address_for_update now)) (claimed_address w)
    (schedule_anything w) := by
  refine ask_does fun s hsound hs candidate hanswer => ?_
  have hview := view_of_nothing hs
  have hcandidate := Except.ok.inj ((claim_effect_answer s w now).symm.trans hanswer)
  have hlocks := claim_effect_locks s w now
  cases hdue : (s.view schedule_schema w).first_due (s.locked_by_other w) now with
  | none =>
    rw [hdue] at hcandidate
    subst hcandidate
    exact hs.perform (e := s.effect schedule_schema w (.claim_one_due_scan_address_for_update now)) []
      nofun nofun
  | some row =>
    rw [hdue] at hcandidate hlocks
    subst hcandidate
    obtain ⟨hmem, his_due, _⟩ := first_due_mem hdue
    rw [hview] at hmem his_due
    refine ⟨_, _, .locked row rfl, ?_⟩
    refine hs.perform (e := s.effect schedule_schema w (.claim_one_due_scan_address_for_update now))
      [ScheduleFact.address row, ScheduleFact.idle row.id row.advances] (fun f hf => ?_)
      fun f hf k hk => .inl ?_
    · simp only [List.mem_cons, List.not_mem_nil, or_false] at hf
      rcases hf with rfl | rfl
      · exact hmem
      · exact (hsound.sound.matched.le_jobs row hmem).trans_eq (due_idle his_due).symm
    · have hkey : k = .address row.id := by
        simp only [List.mem_cons, List.not_mem_nil, or_false] at hf
        rcases hf with rfl | rfl <;> exact List.mem_singleton.mp hk
      rw [hlocks, hkey]
      exact List.mem_singleton_self _

theorem insert_effect_none {s : ScheduleWorld W} {candidate : ScanAddressCandidate}
    (h : (((s.view schedule_schema w).scan_tables s.next_id).insert_scheduled_scan_job (s.started w)
      candidate job_max_attempts now).1 = none) :
    (s.effect schedule_schema w (.insert_scheduled_scan_job candidate job_max_attempts now)).log =
      [] := by
  change (Schedule.insert_scheduled_scan_job ..).log = _
  unfold Schedule.insert_scheduled_scan_job
  rw [h]

theorem insert_effect_some {s : ScheduleWorld W} {candidate : ScanAddressCandidate} {job : ScanJob}
    (h : (((s.view schedule_schema w).scan_tables s.next_id).insert_scheduled_scan_job (s.started w)
      candidate job_max_attempts now).1 = some job)
    (haddress : (s.view schedule_schema w).address candidate.id = some row) :
    (s.effect schedule_schema w (.insert_scheduled_scan_job candidate job_max_attempts now)).log =
      [.new_job job] := by
  change (Schedule.insert_scheduled_scan_job ..).log = _
  unfold Schedule.insert_scheduled_scan_job
  rw [h]
  simp [haddress]

theorem insert_does : ScheduleDoes w
    (schedule_knows w [] [.address row, .idle row.id row.advances])
    (schedule_statement (.insert_scheduled_scan_job row.candidate job_max_attempts now))
    (fun _ => schedule_knows_some w (Inserted row)) (schedule_anything w) := by
  refine ask_does fun s hsound hs inserted _ => ?_
  have hview := view_of_nothing hs
  have hrow : row ∈ s.tables.watched_addresses := hs.holds _ (List.mem_cons_self ..)
  have hidle : row.advances ≤ s.tables.inactive_jobs row.id :=
    hs.holds (.idle row.id row.advances) (by simp)
  have howned : ∀ k, k = .address row.id → s.owner k = some w := by
    rintro k rfl
    exact hs.locked (.address row) (List.mem_cons_self ..) _ (List.mem_singleton_self _)
  cases hjob : (((s.view schedule_schema w).scan_tables s.next_id).insert_scheduled_scan_job
      (s.started w) row.candidate job_max_attempts now).1 with
  | none =>
    obtain ⟨active, hactive⟩ := scheduled_job_none hjob
    obtain ⟨hmem, hisactive, haddress⟩ := active_job_mem hactive
    rw [hview] at hmem
    -- an active job beside the inactive ones that were there when the address was claimed
    have htaken : row.advances < s.tables.jobs_of row.id :=
      Nat.lt_of_le_of_lt hidle (inactive_lt_jobs hmem haddress hisactive)
    refine ⟨_, _, .conflict, ?_⟩
    have hnext := hs.perform (e := s.effect schedule_schema w
      (.insert_scheduled_scan_job row.candidate job_max_attempts now))
      [ScheduleFact.taken row.id row.advances] (fun f hf => List.mem_singleton.mp hf ▸ htaken)
        fun f hf k hk => by
        obtain rfl := List.mem_singleton.mp hf
        exact .inr (howned k (List.mem_singleton.mp hk))
    rw [insert_effect_none hjob] at hnext
    exact hnext
  | some job =>
    obtain ⟨hvacant, hnew⟩ := scheduled_job_some hjob
    have haddress : (s.view schedule_schema w).address row.candidate.id = some row := by
      rw [hview]
      exact address_of_mem hsound.sound.matched.address_ids hrow
    have hlog := insert_effect_some hjob haddress
    have hmem_log : ScheduleChange.new_job job ∈ (s.effect schedule_schema w
        (.insert_scheduled_scan_job row.candidate job_max_attempts now)).log := by
      rw [hlog]
      exact List.mem_singleton_self _
    have hjob_address : job.address_id = row.id := by rw [hnew]; rfl
    have hscheduled : job.retry_of_scan_run_id = none := by rw [hnew]; rfl
    refine ⟨_, _, .enqueued hjob_address hscheduled, ?_⟩
    have hnext := hs.perform (e := s.effect schedule_schema w
      (.insert_scheduled_scan_job row.candidate job_max_attempts now)) [ScheduleFact.vacant row.id]
      (fun f hf => by
        obtain rfl := List.mem_singleton.mp hf
        have hnone := active_job_none_vacant hvacant
        rw [hview] at hnone
        exact hnone) fun f hf k hk => by
        obtain rfl := List.mem_singleton.mp hf
        obtain rfl := List.mem_singleton.mp hk
        refine .inl (List.mem_append_right _ (List.mem_flatMap.mpr ⟨.new_job job, hmem_log, ?_⟩))
        exact hjob_address ▸ active_job_mem_keys job
    rw [hlog] at hnext
    exact hnext

theorem Inserted.address {tables : Schedule} (h : Inserted row changes facts)
    (hids : (tables.watched_addresses.map (·.id)).Nodup) (hfacts : ∀ f ∈ facts, f.holds tables) :
    (ScheduleChange.replay changes tables).address row.id = some row := by
  cases h with
  | enqueued => exact address_of_mem hids (hfacts _ (List.mem_cons_self ..))
  | conflict => exact address_of_mem hids (hfacts _ (List.mem_cons_self ..))

theorem Inserted.settled (h : Inserted row changes facts) (next : Timestamp) :
    Settled (changes ++ [.address (row.moved_on next)]) facts := by
  cases h with
  | enqueued haddress hscheduled => exact .enqueued haddress hscheduled
  | conflict => exact .passed_over

theorem mark_does {next : Timestamp} : ScheduleDoes w (schedule_knows_some w (Inserted row))
    (schedule_statement (.mark_claimed_scan_enqueued row.id next))
    (fun _ => schedule_knows_some w Settled) (schedule_anything w) := by
  refine does_of_each fun changes facts hinserted => ask_does fun s hsound hs a _ => ?_
  have haddress : (s.view schedule_schema w).address row.id = some row := by
    rw [schedule_view hs]
    exact hinserted.address hsound.sound.matched.address_ids hs.holds
  have hlog : (s.effect schedule_schema w (.mark_claimed_scan_enqueued row.id next)).log =
      [.address (row.moved_on next)] := by
    change (Schedule.ensure_updated ((s.view schedule_schema w).address row.id) _).log = _
    rw [haddress]
    rfl
  have hnext := hs.perform (e := s.effect schedule_schema w (.mark_claimed_scan_enqueued row.id next))
    [] nofun nofun
  rw [hlog, List.append_nil] at hnext
  exact ⟨_, facts, hinserted.settled next, hnext⟩

/-- What is known when an address was claimed and its scan enqueued. -/
def claimed_and_enqueued (w : W) (claimed : Option Bool) :
    Prog.Assn (Interference schedule_facts w) fun _ => True :=
  match claimed with
  | none => schedule_knows w [] []
  | some _ => schedule_knows_some w Settled

theorem claim_and_enqueue_does : ScheduleDoes w (schedule_knows w [] [])
    (claim_and_enqueue job_max_attempts now) (claimed_and_enqueued w) (schedule_anything w) := by
  refine .bind (Interference.refl w) claim_does fun candidate => ?_
  cases candidate with
  | none => exact .done fun _ hs => hs
  | some candidate =>
    refine does_of_each fun changes facts hlocked => ?_
    obtain ⟨row, rfl⟩ := hlocked
    refine .bind (Interference.refl w) insert_does fun inserted => ?_
    exact .bind (Interference.refl w) mark_does fun _ => .done fun _ hs => hs

theorem enqueue_next_does : ScheduleDoes w (schedule_knows w [] [])
    (enqueue_next job_max_attempts now) (fun _ => schedule_knows w [] []) (schedule_knows w [] []) := by
  refine .bind (Interference.refl w) (Q := fun _ => schedule_knows w [] []) ?_ fun _ => ?_
  · refine .perform (fun _ _ => trivial) fun s hs r t ht => ?_
    obtain ⟨_, hcarried, _⟩ := ht
    cases hcarried with
    | begun started => exact hs.start started
    | not_begun => exact hs
  refine .bind (Interference.refl w) (Q := fun r => match r with
    | .ok claimed => claimed_and_enqueued w claimed
    | .error _ => schedule_anything w) ?_ fun result => ?_
  · exact .attempt claim_and_enqueue_does (fun _ _ hs => hs) fun _ _ hs => hs
  -- whatever is rolled back, nothing is known afterwards
  have hrollback : ∀ P : Prog.Assn (Interference schedule_facts w) fun _ => True,
      ScheduleDoes w P schedule_rollback (fun _ => schedule_knows w [] []) (schedule_knows w [] []) := by
    refine fun P => .perform (fun _ _ => trivial) fun s _ r t ht => ?_
    obtain ⟨_, hcarried, _⟩ := ht
    cases hcarried with
    | rolled_back =>
      cases r with
      | ok _ => exact Knows.abandon
      | error _ => exact Knows.abandon
  cases result with
  | error e =>
    refine .bind (Interference.refl w) (Q := fun _ => schedule_knows w [] []) ?_
      fun _ => .fail fun _ hs => hs
    exact .attempt (hrollback _) (fun _ _ hs => hs) fun _ _ hs => hs
  | ok claimed =>
    cases claimed with
    | none => exact .bind (Interference.refl w) (hrollback _) fun _ => .done fun _ hs => hs
    | some inserted =>
      refine .bind (Interference.refl w) (Q := fun _ => schedule_knows w [] []) ?_
        fun _ => .done fun _ hs => hs
      refine .perform (fun s hs hsound => ?_) fun s hs r t ht => ?_
      · obtain ⟨changes, facts, hsettled, hs⟩ := hs
        exact ⟨commit_settled hs hsettled hsound.sound, trivial⟩
      · obtain ⟨_, hcarried, _⟩ := ht
        cases hcarried with
        | committed => exact Knows.commit
        | not_committed => exact Knows.abandon
        | commit_lost => exact Knows.commit

theorem signal_does : ScheduleDoes w (schedule_knows w [] []) (schedule_statement .signal).attempt
    (fun _ => schedule_knows w [] []) (schedule_knows w [] []) := by
  refine .attempt (does_of_only (T := fun op => op = .ask .signal) (.perform rfl) ?_)
    (fun _ _ hs => hs) fun _ _ hs => hs
  rintro op rfl
  exact ⟨.signal, rfl, fun _ _ _ _ _ hc => absurd hc List.not_mem_nil⟩

theorem enqueue_up_to_does (rounds enqueued : Nat) : ScheduleDoes w (schedule_knows w [] [])
    (enqueue_up_to job_max_attempts now rounds enqueued) (fun _ => schedule_knows w [] [])
    (schedule_knows w [] []) := by
  induction rounds generalizing enqueued with
  | zero => exact .done fun _ hs => hs
  | succ rounds ih =>
    refine .bind (Interference.refl w) enqueue_next_does fun claimed => ?_
    cases claimed with
    | none => exact .done fun _ hs => hs
    | some inserted =>
      cases inserted with
      | false => exact ih enqueued
      | true => exact .bind (Interference.refl w) signal_does fun _ => ih (enqueued + 1)

end Tick

/-! ### Every run -/

theorem request_does {p : ScheduleProg Unit} (h : ScheduleRequest p) (w : W) :
    ScheduleDoes w (schedule_knows w [] []) p (fun _ => schedule_knows w [] [])
      (schedule_knows w [] []) := by
  cases h with
  | tick => exact .bind (Interference.refl w) (enqueue_up_to_does _ _) fun _ => .done fun _ hs => hs
  | retry => exact call_does (retry_settles ..)
  | finish => exact call_does (finish_settles ..)
  | create => exact call_does (create_settles ..)
  | update => exact call_does (update_settles ..)
  | ensure => exact call_does (ensure_settles ..)
  | delete => exact call_does (delete_settles ..)

theorem schedule_rules : Prog.Crew.Rules (Carried schedule_schema AppError.Database)
    (Edited ScheduleEdit) (Launch (W := W) ScheduleRequest) (Sound schedule_schema ScheduleOrder)
    (MayCommit schedule_schema ScheduleOrder fun _ _ => True) (Interference schedule_facts)
    fun _ _ _ => True :=
  rules (fun hsound _ => hsound.sound.perform) (fun h => h.start _) ScheduleOrder.abandon
    ScheduleOrder.edited fun _ hp w => request_does hp w

/-- Nothing is watched yet, and no client is at work. -/
structure ScheduleStart (s : ScheduleWorld W) (ps : W → ScheduleProg Unit) : Prop where
  addresses : s.tables.watched_addresses = []
  jobs : s.tables.scan_jobs = []
  log : ∀ w, s.log w = []
  idle : ∀ w, ps w = .done ()

theorem ScheduleStart.good {ps : W → ScheduleProg Unit} (h : ScheduleStart s ps) :
    Prog.Crew.Good (Carried schedule_schema AppError.Database) (Sound schedule_schema ScheduleOrder)
      (MayCommit schedule_schema ScheduleOrder fun _ _ => True) (Interference schedule_facts)
      (fun _ _ _ => True) s ps := by
  refine ⟨⟨fun w c hc => ?_, ⟨?_, ?_, ?_, ?_⟩, ⟨?_, ?_⟩, fun w c hc => ?_⟩, fun w => ?_⟩
  · exact absurd (h.log w ▸ hc) List.not_mem_nil
  · rw [h.addresses]
    exact List.nodup_nil
  · rw [h.jobs]
    exact List.Pairwise.nil
  · exact fun row hrow => absurd (h.addresses ▸ hrow) List.not_mem_nil
  · exact fun row hrow => absurd (h.addresses ▸ hrow) List.not_mem_nil
  · exact fun row hrow => absurd (h.addresses ▸ hrow) List.not_mem_nil
  · exact fun job hjob => absurd (h.jobs ▸ hjob) List.not_mem_nil
  · exact absurd (h.log w ▸ hc) List.not_mem_nil
  · rw [h.idle w]
    exact fun _ _ => ⟨trivial, trivial⟩

/-- Whatever schedulers, workers and users do at the same time, an address has one active job at
most, it is moved on in the schedule for every job that was scheduled for it, and it is never moved
on without a job of its own. -/
theorem every_move_has_its_job {ps qs : W → ScheduleProg Unit} (hstart : ScheduleStart s ps)
    (hrun : Relation.ReflTransGen ScheduleStep (s, ps) (t, qs)) :
    OneActive t.tables.scan_jobs ∧ ∀ row ∈ t.tables.watched_addresses,
      t.tables.scheduled_jobs row.id ≤ row.advances ∧ row.advances ≤ t.tables.jobs_of row.id := by
  have hmatched := (hstart.good.run schedule_rules hrun).inv.sound.matched
  exact ⟨hmatched.one_active, fun row hrow =>
    ⟨hmatched.scheduled_le row hrow, hmatched.le_jobs row hrow⟩⟩

def empty_schedule : ScheduleWorld Unit :=
  { tables := { watched_addresses := [], scan_jobs := [] }
    next_id := 1
    owner := fun _ => none
    log := fun _ => []
    started := fun _ => 0 }

def create_address : ScheduleProg Unit :=
  schedule_call (.create_watched_address 7 8 60 "active")

def tick_once : ScheduleProg Unit :=
  (enqueue_due_addresses 10 5 100).bind fun _ => .done ()

def after_call (p : ScheduleProg Unit) (s : ScheduleWorld Unit) : ScheduleWorld Unit :=
  (Prog.eval (World.alone schedule_schema ()) p (s.abandon ())).2

def never_waits (p : ScheduleProg Unit) (s : ScheduleWorld Unit) : Bool :=
  Prog.along (World.alone schedule_schema ()) (World.unblocked schedule_schema ()) p (s.abandon ())

/-- An address is created, and the next tick enqueues its scan. -/
def created_and_enqueued : ScheduleWorld Unit :=
  after_call tick_once (after_call create_address empty_schedule)

theorem call_run {p : ScheduleProg Unit} (hp : ScheduleRequest p) (s : ScheduleWorld Unit)
    (ps : Unit → ScheduleProg Unit) (hfree : never_waits p s = true) :
    ∃ qs, Relation.ReflTransGen ScheduleStep (s, ps) (after_call p s, qs) :=
  alone_run hp s ps hfree

theorem every_move_has_its_job_enqueued :
    created_and_enqueued.tables.watched_addresses.map (·.advances) = [1] ∧
      OneActive created_and_enqueued.tables.scan_jobs ∧
      ∀ row ∈ created_and_enqueued.tables.watched_addresses,
        created_and_enqueued.tables.scheduled_jobs row.id ≤ row.advances ∧
          row.advances ≤ created_and_enqueued.tables.jobs_of row.id := by
  have hstart : ScheduleStart empty_schedule fun _ => .done () :=
    ⟨rfl, rfl, fun _ => rfl, fun _ => rfl⟩
  have hcreate : ScheduleRequest create_address := .create 7 8 60 "active"
  have htick : ScheduleRequest tick_once := .tick 10 5 100
  obtain ⟨qs, hcreated⟩ := call_run hcreate empty_schedule (fun _ => .done ()) (by decide +kernel)
  obtain ⟨rs, hticked⟩ := call_run htick (after_call create_address empty_schedule) qs
    (by decide +kernel)
  exact ⟨by decide +kernel, every_move_has_its_job hstart (hcreated.trans hticked)⟩

end CoinListener.Scheduler
