import CoinListener.Storage.ScanRetry

/-! A scan run is retried at most once, and a call that fails leaves no trace. -/
namespace CoinListener.Storage
open Foundation

/-! ### What a call knows -/

/-- How far a call for the run has come. -/
inductive RetryPhase where
  | untouched (id : Uuid)
  | claimed (id tenant_id : Uuid)
  | ready (id : Uuid)
  | accepted
  | unchanged
  | failed

/-- Where a call with this error stands: only the database can leave it in doubt. -/
def failed_phase : AppError → RetryPhase
  | .Database _ => .failed
  | _ => .unchanged

section Phases
variable {W : Type}

def retry_known (w : W) : RetryPhase → RetryState W → Prop
  | .untouched id, s => s.calling w = id ∧ ¬ s.touched w
  | .claimed id tenant_id, s => s.calling w = id ∧ ¬ s.touched w ∧
    ∃ run, (s.writes w).run = some run ∧ run.id = id ∧ run.tenant_id = tenant_id
  | .ready id, s => s.calling w = id ∧ ¬ s.touched w ∧
    ∃ run, (s.writes w).run = some run ∧ run.id = id ∧ Enqueued run.metadata
  | .accepted, s => s.calling w ∈ s.accepted
  | .unchanged, s => ¬ s.touched w
  | .failed, s => ¬ s.touched w ∨ s.lost w

/-- Only what has been noted on the run is committed. -/
def retry_permitted (w : W) (s : RetryState W) : RetryStatement → Prop
  | .commit => ∃ run, (s.writes w).run = some run ∧ run.id = s.calling w ∧ Enqueued run.metadata
  | _ => True

/-- What others leave alone. -/
structure Undisturbed (w : W) (s t : RetryState W) : Prop where
  writes : t.writes w = s.writes w
  calling : t.calling w = s.calling w
  touched : t.touched w = s.touched w
  lost : t.lost w = s.lost w
  accepted : ∀ id ∈ s.accepted, id ∈ t.accepted

theorem Undisturbed.keeps {w : W} {s t : RetryState W} (h : Undisturbed w s t) :
    Prog.Keeps (retry_known w) s t := by
  intro phase hs
  cases phase with
  | untouched id => exact ⟨h.calling.trans hs.1, h.touched ▸ hs.2⟩
  | claimed id tenant_id => exact ⟨h.calling.trans hs.1, h.touched ▸ hs.2.1, h.writes ▸ hs.2.2⟩
  | ready id => exact ⟨h.calling.trans hs.1, h.touched ▸ hs.2.1, h.writes ▸ hs.2.2⟩
  | accepted =>
    have haccepted := h.accepted _ hs
    rw [← h.calling] at haccepted
    exact haccepted
  | unchanged =>
    have hunchanged : ¬ s.touched w := hs
    rw [← h.touched] at hunchanged
    exact hunchanged
  | failed =>
    have hfailed : ¬ s.touched w ∨ s.lost w := hs
    rw [← h.touched, ← h.lost] at hfailed
    exact hfailed

end Phases

/-! ### The invariant -/

/-- A run accepted once carries the notes of its retry; an open transaction holds a run that has not
been accepted, and holds it alone. -/
structure RetryInvariant {W : Type} (s : RetryState W) : Prop where
  run_lt : ∀ run ∈ s.tables.scan_runs, run.id < s.tables.next_id
  writes_lt : ∀ w run, (s.writes w).run = some run → run.id < s.tables.next_id
  accepted_lt : ∀ id ∈ s.accepted, id < s.tables.next_id
  exclusive : ∀ v w a b, (s.writes v).run = some a → (s.writes w).run = some b → a.id = b.id → v = w
  enqueued : ∀ id ∈ s.accepted, ∀ run ∈ s.tables.scan_runs, run.id = id → Enqueued run.metadata
  open_run : ∀ w run, (s.writes w).run = some run → run.id ∉ s.accepted
  once : s.accepted.Nodup

section Invariant
variable {W : Type} [DecidableEq W] {timestamptz : String → Option Timestamp} {s t : RetryState W}
  {w : W} {now : Timestamp}

/-- Only the writes of one transaction change: to none, to a version of what it held, or to a run it
may hold. -/
theorem RetryInvariant.write (h : RetryInvariant s) {writes : Writes}
    (hrun : ∀ run, writes.run = some run → s.RunFree w run.id ∧ run.id ∉ s.accepted ∧
      run.id < s.tables.next_id) : RetryInvariant (s.write w writes) := by
  have hwrites : ∀ v run, ((s.write w writes).writes v).run = some run →
      (v = w ∧ writes.run = some run) ∨ (v ≠ w ∧ (s.writes v).run = some run) := by
    intro v run hv
    by_cases hsame : v = w
    · subst hsame
      exact .inl ⟨rfl, by simpa [RetryState.write] using hv⟩
    · exact .inr ⟨hsame, by simpa [RetryState.write, hsame] using hv⟩
  constructor
  · exact h.run_lt
  · intro v run hv
    rcases hwrites v run hv with ⟨_, hown⟩ | ⟨_, hold⟩
    · exact (hrun run hown).2.2
    · exact h.writes_lt v run hold
  · exact h.accepted_lt
  · intro u v a b ha hb hid
    rcases hwrites u a ha with ⟨rfl, hown⟩ | ⟨hu, hold⟩
    · rcases hwrites v b hb with ⟨rfl, _⟩ | ⟨hv, hold⟩
      · rfl
      · exact absurd hid.symm ((hrun a hown).1 v hv b hold)
    · rcases hwrites v b hb with ⟨rfl, hown⟩ | ⟨_, hold'⟩
      · exact absurd hid ((hrun b hown).1 u hu a hold)
      · exact h.exclusive u v a b hold hold' hid
  · exact h.enqueued
  · intro v run hv
    rcases hwrites v run hv with ⟨_, hown⟩ | ⟨_, hold⟩
    · exact (hrun run hown).2.1
    · exact h.open_run v run hold
  · exact h.once

omit [DecidableEq W] in
/-- What a transaction holds already it may go on holding. -/
theorem RetryInvariant.held (h : RetryInvariant s) {run : ScanRun}
    (hrun : (s.writes w).run = some run) :
    s.RunFree w run.id ∧ run.id ∉ s.accepted ∧ run.id < s.tables.next_id := by
  refine ⟨fun v hv other hother hid => ?_, h.open_run w run hrun, h.writes_lt w run hrun⟩
  exact hv (h.exclusive v w other run hother hrun hid)

theorem RetryInvariant.empty (h : RetryInvariant s) : RetryInvariant (s.write w .empty) :=
  h.write fun _ hrun => by cases hrun

omit [DecidableEq W] in
/-- The claim: the run found has not been accepted. -/
theorem claim_found {id tenant_id : Uuid} {stale : Timestamp} {run : ScanRun}
    (h : RetryInvariant s)
    (hfind : s.tables.scan_runs.find? (fun run => run.id == id && run.tenant_id == tenant_id &&
      retry_claimable timestamptz stale run.metadata) = some run) :
    run.id = id ∧ run.tenant_id = tenant_id ∧ run.id ∉ s.accepted ∧
      run.id < s.tables.next_id := by
  have hmem := List.mem_of_find?_eq_some hfind
  have hfound := List.find?_some hfind
  simp only [Bool.and_eq_true, beq_iff_eq] at hfound
  refine ⟨hfound.1.1, hfound.1.2, fun haccepted => ?_, h.run_lt run hmem⟩
  have hnotes := h.enqueued _ haccepted run hmem rfl
  rw [hnotes.not_claimable] at hfound
  exact nomatch hfound.2

/-- A run after a commit is as it was, or the version of the transaction. -/
theorem mem_commit {writes : Writes} {t : ScanTables} {run : ScanRun}
    (hrun : run ∈ (t.commit writes).scan_runs) : run ∈ t.scan_runs ∨ writes.run = some run := by
  unfold ScanTables.commit at hrun
  cases hwrites : writes.run with
  | none =>
    rw [hwrites] at hrun
    exact .inl hrun
  | some version =>
    rw [hwrites] at hrun
    obtain ⟨old, hold, hrevise⟩ := Table.mem_update.mp hrun
    unfold Table.revise at hrevise
    split at hrevise
    · exact .inr (congrArg some hrevise)
    · exact .inl (hrevise ▸ hold)

/-- Where the transaction has a version of a run, it is the only one after the commit. -/
theorem mem_commit_version {writes : Writes} {t : ScanTables} {run version : ScanRun}
    (hversion : writes.run = some version) (hrun : run ∈ (t.commit writes).scan_runs)
    (hid : run.id = version.id) : run = version := by
  unfold ScanTables.commit at hrun
  rw [hversion] at hrun
  obtain ⟨old, _, rfl⟩ := Table.mem_update.mp hrun
  unfold Table.revise at hid ⊢
  split
  · rfl
  · rename_i hother
    rw [if_neg hother] at hid
    exact absurd (by simp [hid]) hother

theorem RetryInvariant.commit (h : RetryInvariant s) : RetryInvariant (s.commit w) := by
  have hempty := h.empty (w := w)
  constructor
  · intro run hrun
    rcases mem_commit hrun with hold | hversion
    · exact h.run_lt run hold
    · exact h.writes_lt w run hversion
  · exact hempty.writes_lt
  · exact h.accepted_lt
  · exact hempty.exclusive
  · intro id hid run hrun hsame
    rcases mem_commit hrun with hold | hversion
    · exact h.enqueued id hid run hold hsame
    · exact absurd (hsame ▸ hid) (h.open_run w run hversion)
  · exact hempty.open_run
  · exact h.once

/-- The run of an answered commit has not been accepted before, and carries its notes now. -/
theorem RetryInvariant.accept (h : RetryInvariant s)
    (hready : ∃ run, (s.writes w).run = some run ∧ run.id = s.calling w ∧ Enqueued run.metadata) :
    RetryInvariant { s.commit w with accepted := s.accepted ++ [s.calling w] } := by
  obtain ⟨version, hversion, hid, hnotes⟩ := hready
  have hcommit := h.commit (w := w)
  constructor
  · exact hcommit.run_lt
  · exact hcommit.writes_lt
  · intro id hmem
    rcases List.mem_append.mp hmem with hold | hnew
    · exact h.accepted_lt id hold
    · rw [List.mem_singleton.mp hnew, ← hid]
      exact h.writes_lt w version hversion
  · exact hcommit.exclusive
  · intro id hmem run hrun hsame
    rcases List.mem_append.mp hmem with hold | hnew
    · exact hcommit.enqueued id hold run hrun hsame
    · rw [List.mem_singleton.mp hnew, ← hid] at hsame
      rw [mem_commit_version hversion hrun hsame]
      exact hnotes
  · intro v run hv hmem
    rcases List.mem_append.mp hmem with hold | hnew
    · exact hcommit.open_run v run hv hold
    · by_cases hsame : v = w
      · subst hsame
        simp [RetryState.commit, RetryState.write, Writes.empty] at hv
      · have hother : (s.writes v).run = some run := by
          simpa [RetryState.commit, RetryState.write, hsame] using hv
        refine hsame (h.exclusive v w run version hother hversion ?_)
        rw [hid]
        exact List.mem_singleton.mp hnew
  · refine List.nodup_append.mpr ⟨h.once, List.nodup_singleton _, ?_⟩
    intro a ha b hb hab
    rw [List.mem_singleton.mp hb, ← hid] at hab
    exact h.open_run w version hversion (hab ▸ ha)

/-! ### Statements -/

theorem RetryInvariant.insert (h : RetryInvariant s) (tenant_id address_id chain_id id : Uuid)
    (max_attempts : Int) (next_attempt_at : Timestamp) :
    RetryInvariant (s.insert_retry_scan_job w now tenant_id address_id chain_id id max_attempts
      next_attempt_at).2 := by
  have hwrite : ∀ job, RetryInvariant (s.write w { s.writes w with job := job }) := fun job =>
    h.write fun run hrun => h.held hrun
  unfold RetryState.insert_retry_scan_job
  split
  · split
    · exact hwrite _
    · exact h
  · have hnew := hwrite (some (s.tables.new_job now tenant_id address_id chain_id max_attempts
      next_attempt_at (some id)))
    constructor
    · exact fun run hrun => Nat.lt_succ_of_lt (hnew.run_lt run hrun)
    · exact fun v run hv => Nat.lt_succ_of_lt (hnew.writes_lt v run hv)
    · exact fun id hid => Nat.lt_succ_of_lt (hnew.accepted_lt id hid)
    · exact hnew.exclusive
    · exact hnew.enqueued
    · exact hnew.open_run
    · exact hnew.once

theorem RetryInvariant.statement {op : RetryStatement} {r : AppResult op.Answer}
    (h : RetryInvariant s) (hA : retry_permitted w s op) (hs : RetryCarried timestamptz w s op r t) :
    RetryInvariant t := by
  cases hs with
  | refused => exact h
  | commit_refused => exact h.empty
  | commit_lost =>
    have hcommit := h.commit (w := w)
    exact ⟨hcommit.run_lt, hcommit.writes_lt, hcommit.accepted_lt, hcommit.exclusive,
      hcommit.enqueued, hcommit.open_run, hcommit.once⟩
  | answered now hfree =>
    cases op with
    | begin => exact h.empty
    | select_retry_scan_run => exact h
    | claim_retry_scan_run id tenant_id task_id claimed_at stale =>
      simp only [RetryStatement.run, RetryState.claim_retry_scan_run]
      split
      · rename_i run hfind
        obtain ⟨hid, _, haccepted, hlt⟩ := claim_found h hfind
        refine h.write fun version hversion => ?_
        obtain rfl := Option.some.inj hversion
        exact ⟨hid ▸ hfree, haccepted, hlt⟩
      · exact h
    | insert_retry_scan_job => exact h.insert ..
    | mark_retry_scan_run_enqueued id tenant_id job_id enqueued_at =>
      refine h.write fun version hversion => ?_
      obtain ⟨run, hrun, rfl⟩ := Option.map_eq_some_iff.mp hversion
      have hheld := h.held hrun
      split
      · exact hheld
      · exact hheld
    | commit => exact h.accept hA
    | rollback => exact h.empty

omit [DecidableEq W] in
theorem RetryInvariant.others (h : RetryInvariant s) (ho : RetryOthers s t) : RetryInvariant t := by
  cases ho with
  | edit => exact ⟨h.run_lt, h.writes_lt, h.accepted_lt, h.exclusive, h.enqueued, h.open_run, h.once⟩
  | statement q r hfate =>
    rcases hfate.state with rfl | ⟨now, skipped, rfl⟩
    · exact h
    have hnext : s.tables.next_id ≤ (q.run now skipped s.tables).2.next_id := by
      rcases run_ids s.tables now skipped q with hnext | ⟨hnext, _⟩
      · rw [hnext]
        exact Nat.le_succ _
      · rw [hnext]
    constructor
    · exact run_lt_statement h.run_lt q
    · exact fun v run hv => Nat.lt_of_lt_of_le (h.writes_lt v run hv) hnext
    · exact fun id hid => Nat.lt_of_lt_of_le (h.accepted_lt id hid) hnext
    · exact h.exclusive
    · intro id hid run hrun hsame
      rcases (run_runs s.tables now skipped q).mem hrun with hold | ⟨old, hold, hstep⟩ | hnew
      · exact h.enqueued id hid run hold hsame
      · have hnotes := h.enqueued id hid old hold (hstep.id ▸ hsame)
        cases hstep <;> exact hnotes.merge _
      · exact absurd (hsame ▸ hnew.id) (Nat.ne_of_lt (h.accepted_lt id hid))
    · exact h.open_run
    · exact h.once

theorem undisturbed_write {v : W} (hv : v ≠ w) (writes : Writes) :
    Undisturbed v s (s.write w writes) :=
  ⟨by simp [RetryState.write, hv], rfl, rfl, rfl, fun _ h => h⟩

theorem undisturbed_commit {v : W} (hv : v ≠ w) : Undisturbed v s (s.commit w) :=
  ⟨by simp [RetryState.commit, RetryState.write, hv], rfl, by simp [RetryState.commit, hv], rfl,
    fun _ h => h⟩

theorem undisturbed_statement {v : W} {op : RetryStatement} {r : AppResult op.Answer} (hv : v ≠ w)
    (hs : RetryCarried timestamptz w s op r t) : Undisturbed v s t := by
  have hrefl : Undisturbed v s s := ⟨rfl, rfl, rfl, rfl, fun _ h => h⟩
  have hcommit := undisturbed_commit (s := s) hv
  cases hs with
  | refused => exact hrefl
  | commit_refused => exact undisturbed_write hv _
  | commit_lost =>
    exact ⟨hcommit.writes, hcommit.calling, hcommit.touched, by simp [hv],
      hcommit.accepted⟩
  | answered now hfree =>
    cases op with
    | begin => exact undisturbed_write hv _
    | select_retry_scan_run => exact hrefl
    | claim_retry_scan_run =>
      simp only [RetryStatement.run, RetryState.claim_retry_scan_run]
      split
      · exact undisturbed_write hv _
      · exact hrefl
    | insert_retry_scan_job =>
      simp only [RetryStatement.run, RetryState.insert_retry_scan_job]
      split
      · split
        · exact undisturbed_write hv _
        · exact hrefl
      · exact ⟨by simp [RetryState.write, hv], rfl, rfl, rfl, fun _ h => h⟩
    | mark_retry_scan_run_enqueued => exact undisturbed_write hv _
    | commit =>
      exact ⟨hcommit.writes, hcommit.calling, hcommit.touched, hcommit.lost,
        fun _ h => List.mem_append_left _ h⟩
    | rollback => exact undisturbed_write hv _

end Invariant

/-! ### The call -/

section Call
open Prog
variable {W : Type} [DecidableEq W] {timestamptz : String → Option Timestamp} {w : W}

/-- A part of a call, from one phase to another. -/
abbrev CallPhase (timestamptz : String → Option Timestamp) (w : W) {α : Type} (i : RetryPhase)
    (p : RetryProg α) (j : α → RetryPhase) (k : AppError → RetryPhase) : Prop :=
  Triple (retry_permitted w) (Within RetryInvariant (RetryCarried timestamptz w))
    (Assn.of (retry_known w) i) p (fun a => Assn.of (retry_known w) (j a))
    fun e => Assn.of (retry_known w) (k e)

/-- Anything but the commit. -/
def Plain : RetryStatement → Prop
  | .commit => False
  | _ => True

/-- A statement before the commit: carried out, or refused without effect. -/
theorem statement_phase {i : RetryPhase} {k : AppError → RetryPhase} (op : RetryStatement)
    (hop : Plain op) {j : op.Answer → RetryPhase}
    (hfail : ∀ s message, retry_known w i s → retry_known w (k (.Database message)) s)
    (hrun : ∀ s now, RetryInvariant s → retry_known w i s →
      retry_known w (j (op.run timestamptz now s w).1) (op.run timestamptz now s w).2) :
    CallPhase timestamptz w i (retry_statement op) j k := by
  refine .perform (fun s _ => ?_) fun s hs r t ht => ?_
  · cases op <;> trivial
  · obtain ⟨hinv, hcarried, _⟩ := ht
    cases hcarried with
    | answered now => exact hrun s now hinv hs
    | refused message => exact hfail s message hs
    | commit_refused => exact hop.elim
    | commit_lost => exact hop.elim

theorem claim_phase (id tenant_id : Uuid) (task_id claimed_at : String) (stale : Timestamp) :
    CallPhase timestamptz w (.untouched id)
      (retry_statement (.claim_retry_scan_run id tenant_id task_id claimed_at stale))
      (fun claimed => if claimed.isSome then .claimed id tenant_id else .untouched id)
      (fun _ => .untouched id) := by
  refine statement_phase (.claim_retry_scan_run id tenant_id task_id claimed_at stale) trivial
    (fun _ _ h => h) fun s now hinv h => ?_
  cases hfind : s.tables.scan_runs.find? (fun run => run.id == id && run.tenant_id == tenant_id &&
      retry_claimable timestamptz stale run.metadata) with
  | some run =>
    obtain ⟨hid, htenant, _⟩ := claim_found hinv hfind
    simp only [RetryStatement.run, RetryState.claim_retry_scan_run, hfind]
    refine ⟨h.1, h.2, claimed_for_retry now task_id claimed_at run, ?_, hid, htenant⟩
    simp [RetryState.write]
  | none =>
    simp only [RetryStatement.run, RetryState.claim_retry_scan_run, hfind]
    exact h

theorem insert_phase (id tenant_id address_id chain_id : Uuid) (max_attempts : Int)
    (next_attempt_at : Timestamp) {tenant : Uuid} :
    CallPhase timestamptz w (.claimed id tenant)
      (retry_statement (.insert_retry_scan_job tenant_id address_id chain_id id max_attempts
        next_attempt_at)) (fun _ => .claimed id tenant) (fun _ => .untouched id) := by
  refine statement_phase (.insert_retry_scan_job tenant_id address_id chain_id id max_attempts
    next_attempt_at) trivial (fun _ _ h => ⟨h.1, h.2.1⟩) fun s now _ h => ?_
  obtain ⟨hcalling, htouched, run, hrun, hid, htenant⟩ := h
  have hwrite : ∀ job, retry_known w (.claimed id tenant)
      (s.write w { s.writes w with job := job }) := fun job =>
    ⟨hcalling, htouched, run, by simpa [RetryState.write] using hrun, hid, htenant⟩
  simp only [RetryStatement.run, RetryState.insert_retry_scan_job]
  split
  · split
    · exact hwrite _
    · exact ⟨hcalling, htouched, run, hrun, hid, htenant⟩
  · exact hwrite _

theorem mark_phase (id tenant_id : Uuid) (job_id enqueued_at : String) :
    CallPhase timestamptz w (.claimed id tenant_id)
      (retry_statement (.mark_retry_scan_run_enqueued id tenant_id job_id enqueued_at))
      (fun _ => .ready id) (fun _ => .untouched id) := by
  refine statement_phase (.mark_retry_scan_run_enqueued id tenant_id job_id enqueued_at) trivial
    (fun _ _ h => ⟨h.1, h.2.1⟩) fun s now _ h => ?_
  obtain ⟨hcalling, htouched, run, hrun, hid, htenant⟩ := h
  refine ⟨hcalling, htouched, enqueued_for_retry now job_id enqueued_at run, ?_, hid,
    enqueued_for_retry_enqueued ..⟩
  simp [RetryStatement.run, RetryState.mark_retry_scan_run_enqueued, RetryState.write, hrun, hid,
    htenant]

theorem in_transaction_phase (to_rfc3339 : Timestamp → String) (tenant_id id : Uuid)
    (now stale : Timestamp) (max_attempts : Int) (new_task_id : Uuid) :
    CallPhase timestamptz w (.untouched id)
      (retry_scan_run_job_in_transaction to_rfc3339 tenant_id id now stale max_attempts new_task_id)
      (fun _ => .ready id) (fun _ => .untouched id) := by
  refine .bind Keeps.refl (Q := fun _ => Assn.of (retry_known w) (.untouched id)) ?_ fun row => ?_
  · exact statement_phase (.select_retry_scan_run id tenant_id) trivial (fun _ _ h => h)
      fun _ _ _ h => h
  refine .bind_lift (fun row _ => ?_) fun _ _ _ h => h
  refine .bind_lift (fun _ _ => ?_) fun _ _ _ h => h
  refine .bind Keeps.refl (claim_phase id tenant_id _ _ stale) fun claimed => ?_
  cases claimed with
  | none => exact .fail fun _ h => h
  | some claimed =>
    refine .bind_lift (fun _ _ => ?_) fun _ hnone => nomatch hnone
    refine .bind Keeps.refl (insert_phase id row.tenant_id row.address_id row.chain_id max_attempts
      now) fun job => ?_
    refine .bind_lift (fun job _ => ?_) fun _ _ _ h => ⟨h.1, h.2.1⟩
    exact .bind Keeps.refl (mark_phase id tenant_id _ _) fun _ => .done fun _ h => h

omit [DecidableEq W] in
/-- An error after the rollback: nothing has been changed. -/
theorem unchanged_failed {s : RetryState W} (error : AppError) (h : ¬ s.touched w) :
    retry_known w (failed_phase error) s := by
  cases error with
  | Database message => exact .inl h
  | _ => exact h

/-- The whole call: what it has to say is true of the tables. -/
theorem call_phase (to_rfc3339 : Timestamp → String) (tenant_id id : Uuid) (now stale : Timestamp)
    (max_attempts : Int) (new_task_id : Uuid) :
    CallPhase timestamptz w (.untouched id)
      (retry_scan_run_job to_rfc3339 tenant_id id now stale max_attempts new_task_id)
      (fun _ => .accepted) failed_phase := by
  refine .bind Keeps.refl (Q := fun _ => Assn.of (retry_known w) (.untouched id)) ?_ fun _ => ?_
  · exact statement_phase .begin trivial (fun _ _ h => .inl h.2) fun _ _ _ h => h
  refine .bind Keeps.refl (Q := fun r => Assn.of (retry_known w) (match r with
    | .ok _ => .ready id
    | .error _ => .untouched id)) ?_ fun result => ?_
  · exact .attempt (in_transaction_phase to_rfc3339 tenant_id id now stale max_attempts new_task_id)
      (fun _ _ h => h) fun _ _ h => h
  cases result with
  | error error =>
    refine .bind Keeps.refl (Q := fun _ => Assn.of (retry_known w) (.untouched id)) ?_ fun _ =>
      .fail fun _ h => unchanged_failed error h.2
    exact statement_phase .rollback trivial (fun _ _ h => .inl h.2) fun _ _ _ h => h
  | ok job =>
    refine .bind Keeps.refl (Q := fun _ => Assn.of (retry_known w) .accepted) ?_ fun _ =>
      .done fun _ h => h
    refine .perform (fun s hs => ?_) fun s hs r t ht => ?_
    · obtain ⟨hcalling, _, run, hrun, hid, hnotes⟩ := hs
      exact ⟨run, hrun, hid.trans hcalling.symm, hnotes⟩
    · obtain ⟨_, hcarried, _⟩ := ht
      cases hcarried with
      | answered => exact List.mem_append_right _ (List.mem_singleton_self _)
      | refused => exact .inl hs.2.1
      | commit_refused => exact .inl hs.2.1
      | commit_lost =>
        right
        simp

end Call

/-! ### The system -/

section System
variable {W : Type} [DecidableEq W] {to_rfc3339 : Timestamp → String}
  {timestamptz : String → Option Timestamp}

theorem launch_inv {w : W} {s t : RetryState W} {p : RetryProg ScanJob} (h : RetryInvariant s)
    (hlaunch : RetryLaunch to_rfc3339 w s p t) : RetryInvariant t := by
  obtain ⟨tenant_id, id, now, stale, max_attempts, task_id, _, rfl⟩ := hlaunch
  have hempty := h.empty (w := w)
  exact ⟨hempty.run_lt, hempty.writes_lt, hempty.accepted_lt, hempty.exclusive, hempty.enqueued,
    hempty.open_run, hempty.once⟩

/-- What is true when a call has returned. -/
def Returned (w : W) : AppResult ScanJob → RetryState W → Prop
  | .ok _, s => s.calling w ∈ s.accepted
  | .error error, s => retry_known w (failed_phase error) s

theorem retry_rules : Prog.Crew.Rules (RetryCarried timestamptz) RetryOthers
    (RetryLaunch to_rfc3339) (RetryInvariant (W := W)) retry_permitted
    (fun w => Prog.Keeps (retry_known w)) Returned where
  refl _ := Prog.Keeps.refl
  trans _ := Prog.Keeps.trans
  launch_inv := launch_inv
  launch_safe := by
    rintro w s p t h ⟨tenant_id, id, now, stale, max_attempts, task_id, rfl, rfl⟩
    have hcall : CallPhase timestamptz w (.untouched id)
        (retry_scan_run_job to_rfc3339 tenant_id id now stale max_attempts task_id)
        (fun _ => .accepted) failed_phase :=
      call_phase to_rfc3339 tenant_id id now stale max_attempts task_id
    refine (hcall.safe _ ?_).mono fun r t _ hr => ?_
    · exact ⟨by simp, by simp⟩
    · cases r with
      | ok job => exact hr
      | error e => exact hr
  launch_others := by
    rintro w v s p t _ ⟨tenant_id, id, now, stale, max_attempts, task_id, rfl, rfl⟩ hv
    have hwrite := undisturbed_write (s := s) hv .empty
    exact Undisturbed.keeps
      ⟨hwrite.writes, by simp [hv], by simp [hv], by simp [hv], fun _ h => h⟩
  statement_inv h hA hs := h.statement hA hs
  statement_others _ _ hs hv := (undisturbed_statement hv hs).keeps
  others_inv h ho := h.others ho
  others := by
    intro w s t _ ho
    refine Undisturbed.keeps ?_
    cases ho <;> exact ⟨rfl, rfl, rfl, rfl, fun _ h => h⟩

omit [DecidableEq W] in
theorem RetryInvariant.start : RetryInvariant (retry_start (W := W)).1 := by
  constructor <;> simp [retry_start, Writes.empty]

theorem retry_good {s : RetryState W} {ps : W → RetryProg ScanJob}
    (hrun : Relation.ReflTransGen (RetryStep to_rfc3339 timestamptz) retry_start (s, ps)) :
    Prog.Crew.Good (RetryCarried timestamptz) RetryInvariant retry_permitted
      (fun w => Prog.Keeps (retry_known w)) Returned s ps := by
  have hstart : Prog.Crew.Good (RetryCarried timestamptz) RetryInvariant retry_permitted
      (fun w : W => Prog.Keeps (retry_known w)) Returned retry_start.1 retry_start.2 :=
    ⟨.start, fun w t ht => ⟨trivial, ht .unchanged not_false⟩⟩
  exact hstart.run retry_rules hrun

/-- Whatever callers, workers and the scheduler do, no run is accepted for a retry twice, and a call
that returned a job is the accepted one. A call that returned an error has changed no job and no run,
unless its own commit took effect and the database failed to say so. -/
theorem retry_accepted_once {s : RetryState W} {ps : W → RetryProg ScanJob}
    (hrun : Relation.ReflTransGen (RetryStep to_rfc3339 timestamptz) retry_start (s, ps)) :
    s.accepted.Nodup ∧ ∀ w,
      (∀ job, ps w = .done job → s.calling w ∈ s.accepted) ∧
      (∀ error, ps w = .fail error →
        ¬ s.touched w ∨ s.lost w ∧ ∃ message, error = .Database message) := by
  have hgood := retry_good hrun
  refine ⟨hgood.inv.once, fun w => ⟨fun job hjob => ?_, fun error herror => ?_⟩⟩
  · have hsafe := hgood.safe w
    rw [hjob] at hsafe
    exact (hsafe s (Prog.Keeps.refl s)).2
  · have hsafe := hgood.safe w
    rw [herror] at hsafe
    have hreturned := (hsafe s (Prog.Keeps.refl s)).2
    cases error with
    | Database message => exact hreturned.imp_right fun hlost => ⟨hlost, message, rfl⟩
    | _ => exact .inl hreturned

end System

/-! ### One call that nobody interrupts -/

section OneCall
variable {timestamptz : String → Option Timestamp} {to_rfc3339 : Timestamp → String}

/-- Before any call on these tables. -/
def uncalled (tables : ScanTables) : RetryState Unit :=
  { (retry_start (W := Unit)).1 with tables := tables }

def after_queries (queries : List JobQuery) (tables : ScanTables) : ScanTables :=
  queries.foldl (fun t q => (q.run 0 (fun _ => false) t).2) tables

/-- With no transaction open others are free to act. -/
theorem queries_run {ps : Unit → RetryProg ScanJob} (queries : List JobQuery)
    (tables : ScanTables) :
    Relation.ReflTransGen (RetryStep to_rfc3339 timestamptz) (uncalled tables, ps)
      (uncalled (after_queries queries tables), ps) := by
  induction queries generalizing tables with
  | nil => exact .refl
  | cons q queries ih =>
    have hfate : q.Fate tables (q.run 0 (fun _ => false) tables).1
        (q.run 0 (fun _ => false) tables).2 := ⟨0, fun _ => false, .answered⟩
    have hlocks : (uncalled tables).RespectsLocks (q.run 0 (fun _ => false) tables).2 := by
      simp [RetryState.RespectsLocks, uncalled, retry_start, Writes.empty]
    have hstep : RetryOthers (uncalled tables) (uncalled (q.run 0 (fun _ => false) tables).2) :=
      .statement q _ hfate hlocks
    exact .head (.others hstep) (ih _)

def watched_row : WatchedAddress :=
  { id := 10, tenant_id := 1, chain_id := 2, address := "0xaaaa", label := none,
    priority := "normal", scan_interval_seconds := 60, transfer_filter_enabled := true,
    balance_change_filter_enabled := true, status := "active" }

def one_watched : ScanTables :=
  { ScanTables.empty with watched_addresses := [watched_row] }

/-- The scan of an address that failed and is not tried again. -/
def failed_scan : ScanTables :=
  after_queries
    [.insert_scheduled_scan_job (watched 10) 1 0,
      .claim_due_scan_job "worker" 60,
      .create_scan_run ⟨0, 10, 1, 2, 1, 0⟩ ⟨⟨10, 1, 2, "0xaaaa"⟩, "evm"⟩ "worker" 0 [],
      .finish_scan_job_and_run 0 "worker" (.dead_letter "timeout") 1
        ⟨.failed, 0, 0, some "timeout", []⟩] one_watched

theorem failed_scan_run :
    Relation.ReflTransGen (RetryStep to_rfc3339 timestamptz) retry_start
      (uncalled failed_scan, retry_start.2) := by
  have hedit : RetryOthers (retry_start (W := Unit)).1 (uncalled one_watched) :=
    .edit [] [watched_row]
  exact .head (.others hedit) (queries_run _ one_watched)

/-- Answers to a call; the answer to the commit may get lost. -/
def retry_answered (lost : Bool) (s : RetryState Unit) (op : RetryStatement) :
    AppResult op.Answer × RetryState Unit :=
  match op, lost with
  | .commit, true => (.error (.Database "connection reset"),
    { s.commit () with lost := Function.update s.lost () True })
  | op, _ => (.ok (op.run (fun _ => none) 0 s ()).1, (op.run (fun _ => none) 0 s ()).2)

/-- The failed run is retried. -/
def retry_call : RetryProg ScanJob :=
  retry_scan_run_job (fun _ => "2026-01-01T00:00:00Z") 1 1 0 (-60) 3 7

def called : RetryState Unit :=
  { (uncalled failed_scan).write () .empty with
    calling := Function.update (fun _ => 0) () 1
    touched := Function.update (fun _ => False) () False
    lost := Function.update (fun _ => False) () False }

def retried (lost : Bool) : AppResult ScanJob × RetryState Unit :=
  Prog.eval (retry_answered lost) retry_call called

theorem retry_answered_carried (lost : Bool) (s : RetryState Unit) (op : RetryStatement) :
    RetryCarried (fun _ => none) () s op (retry_answered lost s op).1
      (retry_answered lost s op).2 := by
  have hanswered : op.Free s () := by
    cases op with
    | claim_retry_scan_run => exact fun v hv => absurd rfl hv
    | insert_retry_scan_job => exact fun v hv => absurd rfl hv
    | _ => trivial
  cases op with
  | commit =>
    cases lost with
    | true => exact .commit_lost "connection reset"
    | false => exact .answered 0 hanswered
  | _ => exact .answered 0 hanswered

theorem retried_run (lost : Bool) : ∃ ps : Unit → RetryProg ScanJob,
    Relation.ReflTransGen (RetryStep (fun _ => "2026-01-01T00:00:00Z") fun _ => none)
      retry_start ((retried lost).2, ps) ∧ ps () = Prog.lift (retried lost).1 := by
  have hpasses := Prog.along_true (retry_answered lost) retry_call called
  have hlaunch : RetryStep (fun _ => "2026-01-01T00:00:00Z") (fun _ => none)
      (uncalled failed_scan, retry_start.2) (called, Function.update retry_start.2 () retry_call) :=
    .launch () ⟨1, 1, 0, -60, 3, 7, rfl, rfl⟩
  obtain ⟨ps, hcall, hdone⟩ := Prog.Crew.of_eval (H := RetryCarried fun _ => none) (w := ())
    (fun s op _ => retry_answered_carried lost s op) called hpasses
    (Function.update retry_start.2 () retry_call) (by simp)
  exact ⟨ps, failed_scan_run.trans (.head hlaunch hcall), hdone⟩

theorem retried_answer : (retried false).1.isOk = true := by
  rfl

theorem retry_accepted_once_one_call : (retried false).2.accepted.Nodup ∧
    (retried false).2.calling () ∈ (retried false).2.accepted := by
  obtain ⟨ps, hrun, hdone⟩ := retried_run false
  obtain ⟨hnodup, hcalls⟩ := retry_accepted_once hrun
  cases hanswer : (retried false).1 with
  | ok job => exact ⟨hnodup, (hcalls ()).1 job (by rw [hdone, hanswer]; rfl)⟩
  | error error => exact nomatch hanswer ▸ retried_answer

/-- The database enqueues the job and notes it on the run, but the call returns an error. -/
theorem unanswered_commit_retries : ∃ (s : RetryState Unit) (ps : Unit → RetryProg ScanJob),
    Relation.ReflTransGen (RetryStep (fun _ => "2026-01-01T00:00:00Z") fun _ => none)
      retry_start (s, ps) ∧ (∃ error, ps () = .fail error) ∧ s.touched () := by
  obtain ⟨ps, hrun, hdone⟩ := retried_run true
  refine ⟨_, ps, hrun, ⟨.Database "connection reset", hdone⟩, .inr (.inl fun hjobs => ?_)⟩
  have hlength := congrArg List.length hjobs
  exact absurd hlength (by decide +kernel)

end OneCall

end CoinListener.Storage
