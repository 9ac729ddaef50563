import CoinListener.Worker.Hosts
import CoinListener.Worker.ScanAddress
import CoinListener.Worker.ScanLoop

/-! How many events an attempt stores, and how many its scan run counts. -/
namespace CoinListener.Worker
open Foundation Storage

/-! ### An attempt and the scan in it -/

/-- A statement of the loop or of the scan it starts. -/
inductive AttemptStatement where
  | job (s : JobStatement)
  | scan (s : Statement)
  | active_rpc_provider_candidates (chain_id : Uuid) (now : Timestamp)
  | try_acquire_provider_qps (provider_id : Uuid) (now : Timestamp)
  | record_provider_success (provider_id : Uuid) (now : Timestamp)
  | record_provider_failure (provider_id : Uuid) (now : Timestamp) (error : AppError)
  | finish_address_scan (address_id : Uuid) (now : Timestamp)

abbrev AttemptStatement.Answer : AttemptStatement → Type
  | .job s => s.Answer
  | .scan s => s.Answer
  | .active_rpc_provider_candidates .. => List Provider
  | .try_acquire_provider_qps .. => Bool
  | .record_provider_success .. => Unit
  | .record_provider_failure .. => Unit
  | .finish_address_scan .. => Unit

abbrev AttemptProg (α : Type) := Prog AttemptStatement AttemptStatement.Answer AppError α

/-- The statements of a scan, as statements of an attempt. -/
def scanning {α : Type} : Scan α → AttemptProg α
  | .done a => .done a
  | .fail e => .fail e
  | .ask op rest => .ask (.scan op) fun r => scanning (rest r)

/-- The loop over the candidates, with the rate limiter and the health records. -/
def scan_available (chain_id : Uuid) (now : Timestamp) (scan : Provider → Scan (List AddressEvent)) :
    List Provider → Option AppError → AttemptProg (List AddressEvent)
  | [], last_provider_error =>
    Prog.fail (provider_attempts_exhausted_error chain_id last_provider_error)
  | provider :: candidates, last_provider_error => do
    let acquired ← Prog.perform (.try_acquire_provider_qps provider.id now : AttemptStatement)
    if !acquired then scan_available chain_id now scan candidates last_provider_error
    else do
      let result ← (scanning (scan provider)).attempt
      match result with
      | .ok events => do
        let _ ← (Prog.perform (.record_provider_success provider.id now : AttemptStatement)).attempt
        return events
      | .error error =>
        if is_provider_availability_error error then do
          let _ ← (Prog.perform
            (.record_provider_failure provider.id now error : AttemptStatement)).attempt
          scan_available chain_id now scan candidates (some error)
        else Prog.fail error

def scan_with_candidates (chain_id : Uuid) (now : Timestamp)
    (scan : Provider → Scan (List AddressEvent)) : AttemptProg (List AddressEvent) := do
  let candidates ←
    Prog.perform (.active_rpc_provider_candidates chain_id now : AttemptStatement)
  if candidates.isEmpty then Prog.fail (provider_capacity_error chain_id)
  else scan_available chain_id now scan candidates none

def scan_chain (task : ScanAddressTask) (now : Timestamp) (context : ScanAddressContext)
    (scan : ScanAddressContext → Provider → Scan (List AddressEvent)) :
    AttemptProg ScanTaskOutcome := do
  let events ← scan_with_candidates context.chain_id now (scan context)
  Prog.perform (.finish_address_scan task.address_id now : AttemptStatement)
  return .Scanned events.length

def process_locked_scan_task (task : ScanAddressTask) (now : Timestamp) :
    AttemptProg ScanTaskOutcome := do
  let context ← Prog.perform (.job (.db (.scan_run_context task)) : AttemptStatement)
  match scan_plan_for_chain context.chain_type with
  | .EvmNativeBalance =>
    scan_chain task now context.toScanAddressContext scan_evm_address_with_provider
  | .Tron => scan_chain task now context.toScanAddressContext scan_tron_address_with_provider
  | .Btc => scan_chain task now context.toScanAddressContext scan_btc_address_with_provider
  | .Unsupported chain_type => do
    Prog.perform (.finish_address_scan task.address_id now : AttemptStatement)
    return .UnsupportedChain chain_type

/-- A part of the loop, with the scan in the place where the loop asks for it. -/
def with_scan {α : Type} : JobProg α → AttemptProg α
  | .done a => .done a
  | .fail e => .fail e
  | .ask (.process_scan_task task now) rest =>
    (process_locked_scan_task task now).attempt.bind fun r => with_scan (rest r)
  | .ask (.db q) rest => .ask (.job (.db q)) fun r => with_scan (rest r)
  | .ask .utc_now rest => .ask (.job .utc_now) fun r => with_scan (rest r)
  | .ask .renewal_lost rest => .ask (.job .renewal_lost) fun r => with_scan (rest r)

/-- What a worker does with a job it has claimed. -/
def attempt (worker_id : String) (job : ScanJob) : AttemptProg Unit :=
  with_scan (process_claimed_job worker_id job)

/-! ### What is counted -/

/-- The tables; the run that the attempt has created, and the events it has inserted with each
provider it tried, the latest first. -/
structure AttemptWorld where
  jobs : ScanTables
  db : Db
  run : Option Uuid
  tries : List Nat

namespace AttemptWorld

/-- A job is claimed, and nothing is done about it yet. -/
def start (jobs : ScanTables) (db : Db) : AttemptWorld :=
  { jobs := jobs, db := db, run := none, tries := [] }

variable (w : AttemptWorld)

def inserted : Nat :=
  w.tries.sum

/-- With the provider tried last. -/
def inserted_last : Nat :=
  w.tries.headD 0

/-- The events that a statement adds are counted for the provider tried last. -/
def store (db : Db) : AttemptWorld :=
  { w with
    db := db
    tries := match w.tries with
      | [] => []
      | n :: earlier =>
        (n + (db.events.address_events.length - w.db.events.address_events.length)) :: earlier }

/-- A run created by the statement is the one of the attempt. -/
def job_done (q : JobQuery) (jobs : ScanTables) : AttemptWorld :=
  { w with
    jobs := jobs
    run := match q with
      | .create_scan_run .. => if jobs.next_id = w.jobs.next_id then w.run else some w.jobs.next_id
      | _ => w.run }

end AttemptWorld

/-- The run a statement finishes, and how. -/
def JobQuery.finishes : JobQuery → Option (Uuid × RunFinish)
  | .finish_scan_run scan_run_id finish => some (scan_run_id, finish)
  | .finish_scan_job_and_run _ _ _ scan_run_id finish => some (scan_run_id, finish)
  | _ => none

/-- What may become of a statement of the attempt. Providers may answer anything. -/
inductive AttemptCarried (w : AttemptWorld) :
    (op : AttemptStatement) → AppResult op.Answer → AttemptWorld → Prop where
  | job {q r jobs} (h : q.Fate w.jobs r jobs) : AttemptCarried w (.job (.db q)) r (w.job_done q jobs)
  | told {s r} (h : s.Silent) : AttemptCarried w (.job s) r w
  | query {q r db} (h : Query.Fate w.db q r db) : AttemptCarried w (.scan (.db q)) r (w.store db)
  | request {c r} : AttemptCarried w (.scan (.remote c)) r w
  | candidates {chain_id now r} :
    AttemptCarried w (.active_rpc_provider_candidates chain_id now) r w
  | acquired {provider_id now} :
    AttemptCarried w (.try_acquire_provider_qps provider_id now) (.ok true)
      { w with tries := 0 :: w.tries }
  | not_acquired {provider_id now r} (h : r ≠ .ok true) :
    AttemptCarried w (.try_acquire_provider_qps provider_id now) r w
  | success {provider_id now r} : AttemptCarried w (.record_provider_success provider_id now) r w
  | failure {provider_id now error r} :
    AttemptCarried w (.record_provider_failure provider_id now error) r w
  | finish {address_id now r} : AttemptCarried w (.finish_address_scan address_id now) r w

/-- What others do meanwhile: anything to the scanned tables, and any statement against the queue
but one that finishes this run, which only this attempt knows. -/
inductive AttemptOthers (w : AttemptWorld) : AttemptWorld → Prop where
  | statement {u} (q : JobQuery) (r : AppResult q.Answer)
    (hq : ∀ id finish, JobQuery.finishes q = some (id, finish) → w.run ≠ some id)
    (h : q.Fate w.jobs r u) :
    AttemptOthers w { w with jobs := u }
  | edit (chains : List Chain) (watched_addresses : List WatchedAddress) :
    AttemptOthers w
      { w with jobs := { w.jobs with chains := chains, watched_addresses := watched_addresses } }
  | annotate (metadata : ScanRun → Metadata) :
    AttemptOthers w { w with
      jobs := { w.jobs with
        scan_runs := w.jobs.scan_runs.map fun run => { run with metadata := metadata run } } }
  | db (db : Db) : AttemptOthers w { w with db := db }

/-- An attempt on its way. A crash leaves it where it is while others go on. -/
abbrev AttemptRun : AttemptWorld × AttemptProg Unit → AttemptWorld × AttemptProg Unit → Prop :=
  Relation.ReflTransGen (Prog.Turn AttemptCarried AttemptOthers fun _ _ _ => False)

/-! ### The run of the attempt -/

section Rows
variable {w : AttemptWorld} {jobs : ScanTables} {q : JobQuery} {r : AppResult q.Answer}
  {old run : ScanRun} {finish : RunFinish} {id : Uuid}

/-- Its count is left alone; at most it is taken from a worker that has lost its lease. -/
def Spared (old run : ScanRun) : Prop :=
  run.event_count = old.event_count ∧
    (run.status = old.status ∨ old.status = .running ∧ run.status = .failed)

/-- A run after a statement: spared, or finished by it. -/
theorem run_cases (hfate : q.Fate w.jobs r jobs)
    (hrun : run ∈ jobs.scan_runs) (hold : run.id < w.jobs.next_id) :
    (∃ old ∈ w.jobs.scan_runs, old.id = run.id ∧ Spared old run) ∨
      ∃ finish, JobQuery.finishes q = some (run.id, finish) ∧ run.status = finish.status ∧
        run.event_count = finish.event_count := by
  rcases hfate.state with rfl | ⟨now, skipped, rfl⟩
  · exact Or.inl ⟨run, hrun, rfl, rfl, Or.inl rfl⟩
  rcases (run_runs w.jobs now skipped q).mem hrun with hsame | ⟨old, hmem, hstep⟩ | hnew
  · exact Or.inl ⟨run, hsame, rfl, rfl, Or.inl rfl⟩
  · cases hstep with
    | reclaimed _ hrunning => exact Or.inl ⟨old, hmem, rfl, rfl, Or.inr ⟨hrunning, rfl⟩⟩
    | finished => exact Or.inr ⟨_, rfl, rfl, rfl⟩
    | finished_with_job => exact Or.inr ⟨_, rfl, rfl, rfl⟩
  · exact absurd hold (hnew.id ▸ lt_irrefl _)

theorem next_id_mono (hfate : q.Fate w.jobs r jobs) : w.jobs.next_id ≤ jobs.next_id := by
  rcases hfate.state with rfl | ⟨now, skipped, rfl⟩
  · exact le_refl _
  · rcases run_ids w.jobs now skipped q with h | ⟨h, _⟩
    · exact h ▸ Nat.le_succ _
    · exact h.ge

/-- A successful run counts what the last provider inserted, any other run counts nothing. -/
def Fits (w : AttemptWorld) (status : ScanRunStatus) (event_count : Int) : Prop :=
  event_count = if status = .success then min (w.inserted_last : Int) 2147483647 else 0

/-- What holds of the attempt's own run. -/
structure Audited (w : AttemptWorld) : Prop where
  queue : QueueInvariant w.jobs
  known : ∀ id, w.run = some id → id < w.jobs.next_id
  fits : ∀ run ∈ w.jobs.scan_runs, w.run = some run.id → Fits w run.status run.event_count

/-- The run is not finished as a success. -/
def Unfinished (w : AttemptWorld) : Prop :=
  ∀ run ∈ w.jobs.scan_runs, w.run = some run.id → run.status ≠ .success

theorem Spared.fits (h : Spared old run) (hfits : Fits w old.status old.event_count) :
    Fits w run.status run.event_count := by
  obtain ⟨hcount, hstatus | ⟨hrunning, hfailed⟩⟩ := h
  · rw [Fits, hcount, hstatus]
    exact hfits
  · rw [Fits, hrunning] at hfits
    rw [Fits, hcount, hfailed]
    exact hfits

theorem Spared.unfinished (h : Spared old run) (hold : old.status ≠ .success) :
    run.status ≠ .success := by
  rcases h.2 with hstatus | ⟨_, hfailed⟩
  · exact hstatus ▸ hold
  · rw [hfailed]
    exact nofun

/-- A statement that finishes the run, if it does, as it should. -/
theorem Audited.statement (h : Audited w) (hfate : q.Fate w.jobs r jobs)
    (hfinish : ∀ id finish, JobQuery.finishes q = some (id, finish) → w.run = some id →
      Fits w finish.status finish.event_count) : Audited { w with jobs := jobs } where
  queue := h.queue.move (.statement q r hfate)
  known id hid := lt_of_lt_of_le (h.known id hid) (next_id_mono hfate)
  fits run hrun hid := by
    rcases run_cases hfate hrun (h.known _ hid) with ⟨old, hold, hsame, hspared⟩ |
      ⟨finish, hq, hstatus, hcount⟩
    · exact hspared.fits (h.fits old hold (hsame ▸ hid))
    · rw [hstatus, hcount]
      exact hfinish _ _ hq hid

theorem Unfinished.statement (h : Unfinished w) (haudited : Audited w)
    (hfate : q.Fate w.jobs r jobs)
    (hq : ∀ id finish, JobQuery.finishes q = some (id, finish) → w.run ≠ some id) :
    Unfinished { w with jobs := jobs } := by
  intro run hrun hid
  rcases run_cases hfate hrun (haudited.known _ hid) with
    ⟨old, hold, hsame, hspared⟩ | ⟨finish, hfinishes, _⟩
  · exact hspared.unfinished (h old hold (hsame ▸ hid))
  · exact absurd hid (hq _ _ hfinishes)

/-- The run is created: it is running, and counts nothing yet. -/
theorem Audited.created {task : ScanAddressTask} {context : ScanRunContext} {worker_id : String}
    {started_at : Timestamp} {metadata : Metadata} {r : AppResult ScanRun}
    (h : Audited w) (hnone : w.run = none)
    (hfate : (JobQuery.create_scan_run task context worker_id started_at metadata).Fate w.jobs r
      jobs) :
    Audited (w.job_done (.create_scan_run task context worker_id started_at metadata) jobs) ∧
      ∀ run, r = .ok run →
        (w.job_done (.create_scan_run task context worker_id started_at metadata) jobs).run =
          some run.id ∧
        Unfinished (w.job_done (.create_scan_run task context worker_id started_at metadata)
          jobs) := by
  have hqueue : QueueInvariant jobs := h.queue.move
    (.statement (.create_scan_run task context worker_id started_at metadata) r hfate)
  by_cases hid : jobs.next_id = w.jobs.next_id
  · have hrun : (w.job_done (.create_scan_run task context worker_id started_at metadata)
        jobs).run = none := by simp [AttemptWorld.job_done, hid, hnone]
    refine ⟨⟨hqueue, fun id he => ?_, fun run _ he => ?_⟩, fun run hr => ?_⟩
    · cases hrun.symm.trans he
    · cases hrun.symm.trans he
    subst hr
    obtain ⟨now, skipped, hanswer, rfl⟩ := hfate.answer
    rcases create_run_cases w.jobs now task context worker_id started_at metadata with
      hfail | ⟨_, hdone⟩
    · rw [JobQuery.run, hfail] at hanswer
      cases hanswer
    · rw [JobQuery.run, hdone] at hid
      exact absurd hid (Nat.succ_ne_self _)
  · have hrun : (w.job_done (.create_scan_run task context worker_id started_at metadata)
        jobs).run = some w.jobs.next_id := by simp [AttemptWorld.job_done, hid]
    have hnew : ∀ run ∈ jobs.scan_runs, run.id = w.jobs.next_id →
        run.status = .running ∧ run.event_count = 0 := by
      intro run hmem hrun_id
      rcases hfate.state with rfl | ⟨now, skipped, rfl⟩
      · exact absurd rfl hid
      rcases (run_runs w.jobs now skipped _).mem hmem with hold | ⟨old, hold, hstep⟩ | hnew
      · exact absurd (h.queue.keyed.run_lt run hold) (hrun_id ▸ lt_irrefl _)
      · cases hstep
      · cases hnew
        exact ⟨rfl, rfl⟩
    refine ⟨⟨hqueue, fun id he => ?_, fun run hmem he => ?_⟩, fun run hr => ⟨?_, ?_⟩⟩
    · obtain rfl := Option.some.inj (hrun.symm.trans he)
      exact lt_of_le_of_ne (next_id_mono hfate) (Ne.symm hid)
    · obtain ⟨hstatus, hcount⟩ := hnew run hmem (Option.some.inj (hrun.symm.trans he)).symm
      rw [Fits, hstatus, hcount]
      rfl
    · subst hr
      obtain ⟨now, skipped, hanswer, rfl⟩ := hfate.answer
      rcases create_run_cases w.jobs now task context worker_id started_at metadata with
        hfail | ⟨_, hdone⟩
      · rw [JobQuery.run, hfail] at hanswer
        cases hanswer
      · rw [JobQuery.run, hdone] at hanswer
        rw [hrun, ← Except.ok.inj hanswer]
        rfl
    · intro run' hmem he
      rw [(hnew run' hmem (Option.some.inj (hrun.symm.trans he)).symm).1]
      intro h
      cases h

end Rows

/-! ### How far the attempt has come -/

inductive AttemptPhase where
  | before
  | created (id : Uuid)
  | trying (id : Uuid) (n : Nat)
  | ended

/-- With `trying` the provider tried last has inserted so many events. -/
def AttemptPhase.holds : AttemptPhase → AttemptWorld → Prop
  | .before, w => Audited w ∧ w.run = none
  | .created id, w => Audited w ∧ w.run = some id ∧ Unfinished w
  | .trying id n, w => Audited w ∧ w.run = some id ∧ Unfinished w ∧ w.tries.head? = some n
  | .ended, w => Audited w

theorem AttemptPhase.audited {i : AttemptPhase} {w : AttemptWorld} (h : i.holds w) : Audited w := by
  cases i with
  | ended => exact h
  | _ => exact h.1

/-- Everything but the tables stays, and the run is still counted as before. -/
theorem AttemptOthers.keeps {w u : AttemptWorld} (h : AttemptOthers w u) :
    Prog.Keeps AttemptPhase.holds w u := by
  have hsame : Audited w → Audited u ∧ u.run = w.run ∧ u.tries = w.tries ∧
      (Unfinished w → Unfinished u) := by
    intro hw
    cases h with
    | statement q r hq hfate =>
      exact ⟨hw.statement hfate fun id finish hf hid => absurd hid (hq id finish hf), rfl, rfl,
        fun hu => hu.statement hw hfate hq⟩
    | edit chains watched_addresses =>
      exact ⟨⟨hw.queue.move (.edit chains watched_addresses), hw.known, hw.fits⟩, rfl, rfl, id⟩
    | annotate metadata =>
      refine ⟨⟨hw.queue.move (.annotate metadata), hw.known, fun run hrun hid => ?_⟩, rfl, rfl,
        fun hu run hrun hid => ?_⟩
      · obtain ⟨old, hold, rfl⟩ := List.mem_map.mp hrun
        exact hw.fits old hold hid
      · obtain ⟨old, hold, rfl⟩ := List.mem_map.mp hrun
        exact hu old hold hid
    | db db => exact ⟨⟨hw.queue, hw.known, hw.fits⟩, rfl, rfl, id⟩
  intro i hi
  obtain ⟨haudited, hrun, htries, hunfinished⟩ := hsame (AttemptPhase.audited hi)
  cases i with
  | before => exact ⟨haudited, hrun.trans hi.2⟩
  | created id => exact ⟨haudited, hrun.trans hi.2.1, hunfinished hi.2.2⟩
  | trying id n =>
    exact ⟨haudited, hrun.trans hi.2.1, hunfinished hi.2.2.1, htries ▸ hi.2.2.2⟩
  | ended => exact haudited

/-- The phase as an assertion. -/
def at_phase (i : AttemptPhase) : Prog.Assn (Prog.Keeps AttemptPhase.holds) Audited where
  holds := i.holds
  stable h hkeep := hkeep i h
  good := AttemptPhase.audited

/-- From one phase to another, or to `e` where the program fails. -/
abbrev Attempts {α : Type} (i : AttemptPhase) (p : AttemptProg α) (j : α → AttemptPhase)
    (e : AttemptPhase) : Prop :=
  Prog.Triple Prog.Any AttemptCarried (at_phase i) p (fun a => at_phase (j a)) fun _ => at_phase e


/-! ### A scan counts what it inserts -/

section Counting
variable {w t : AttemptWorld} {id : Uuid} {n k : Nat} {α β : Type}

theorem scanning_bind (p : Scan α) (f : α → Scan β) :
    scanning (p.bind f) = (scanning p).bind fun a => scanning (f a) := by
  induction p with
  | done a => rfl
  | fail e => rfl
  | ask op rest ih => exact congrArg (Prog.ask (AttemptStatement.scan op)) (funext fun r => ih r)

theorem scanning_lift (x : AppResult α) : scanning (Prog.lift x : Scan α) = Prog.lift x := by
  cases x <;> rfl

/-- The statements that insert no event. -/
def InsertsNone : Statement → Prop
  | .db (.insert_event_and_outbox_if_not_exists _) => False
  | _ => True

/-- While the run is unfinished, counting goes on. -/
theorem Audited.recount (h : Audited w) (hunfinished : Unfinished w) (hjobs : t.jobs = w.jobs)
    (hrun : t.run = w.run) : Audited t ∧ Unfinished t := by
  have hstatus : Unfinished t := by
    intro run hmem hid
    exact hunfinished run (hjobs ▸ hmem) (hrun ▸ hid)
  refine ⟨⟨hjobs ▸ h.queue, fun id hid => hjobs ▸ h.known id (hrun ▸ hid), fun run hmem hid => ?_⟩,
    hstatus⟩
  have hfits := h.fits run (hjobs ▸ hmem) (hrun ▸ hid)
  rw [Fits, if_neg (hstatus run hmem hid)]
  rwa [Fits, if_neg (hstatus run hmem hid)] at hfits

/-- So many events are added. -/
theorem trying_store {db : Db} {more : Nat} (h : (AttemptPhase.trying id n).holds w)
    (hmore : db.events.address_events.length = w.db.events.address_events.length + more) :
    (AttemptPhase.trying id (n + more)).holds (w.store db) := by
  obtain ⟨haudited, hrun, hunfinished, htry⟩ := h
  obtain ⟨haudited, hunfinished⟩ := haudited.recount (t := w.store db) hunfinished rfl rfl
  refine ⟨haudited, hrun, hunfinished, ?_⟩
  cases htries : w.tries with
  | nil =>
    rw [htries] at htry
    exact nomatch htry
  | cons m earlier =>
    rw [htries] at htry
    obtain rfl := Option.some.inj htry
    simp [AttemptWorld.store, htries, hmore]

theorem trying_same {db : Db} (h : (AttemptPhase.trying id n).holds w)
    (hsame : db.events.address_events = w.db.events.address_events) :
    (AttemptPhase.trying id n).holds (w.store db) := by
  have hcount : db.events.address_events.length = w.db.events.address_events.length + 0 :=
    congrArg List.length hsame
  exact trying_store h hcount

theorem trying_created (h : (AttemptPhase.trying id n).holds w) :
    (AttemptPhase.created id).holds w :=
  ⟨h.1, h.2.1, h.2.2.1⟩

/-- Only an insert adds an event. -/
theorem run_events {q : Query} (hq : InsertsNone (.db q)) (db : Db) :
    (q.run db).2.events = db.events := by
  cases q with
  | insert_event_and_outbox_if_not_exists draft => exact hq.elim
  | _ => rfl

theorem insert_events (draft : AddressEventDraft) (db : Db) :
    (db.insert_event_and_outbox_if_not_exists draft).2.events.address_events.length =
      db.events.address_events.length +
        (db.insert_event_and_outbox_if_not_exists draft).1.toList.length := by
  simp only [Db.insert_event_and_outbox_if_not_exists]
  rcases db.events.insert_cases draft with ⟨_, h⟩ | ⟨_, hanswer, hevents, _⟩
  · rw [h]
    rfl
  · rw [hevents, hanswer, List.length_append]
    rfl

/-- The rest of a scan that has inserted `k` of the events it will return. -/
def Counts (k : Nat) (p : Scan (List AddressEvent)) : Prop :=
  ∀ id n, Attempts (.trying id (n + k)) (scanning p) (fun events => .trying id (n + events.length))
    (.created id)

theorem quiet_scan {p : Scan α} (hp : p.Only InsertsNone) :
    Attempts (.trying id n) (scanning p) (fun _ => .trying id n) (.created id) := by
  induction p with
  | done a => exact .done fun _ h => h
  | fail e => exact .fail fun _ h => trying_created h
  | ask op rest ih =>
    obtain ⟨hop, hrest⟩ := Prog.Only.ask_iff.mp hp
    refine .ask (fun _ _ => trivial) fun w hw r t ht => ⟨at_phase (.trying id n), ?_, ih r (hrest r)⟩
    cases ht with
    | query hfate =>
      rcases hfate.state with rfl | rfl
      · exact trying_same hw rfl
      · exact trying_same hw (congrArg EventTables.address_events (run_events hop _))
    | request => exact hw

theorem Counts.done (events : List AddressEvent) : Counts events.length (.done events) :=
  fun _ _ => .done fun _ h => h

theorem Counts.fail (e : AppError) : Counts k (.fail e) :=
  fun _ _ => .fail fun _ h => trying_created h

theorem Counts.after {p : Scan α} {f : α → Scan (List AddressEvent)} (hp : p.Only InsertsNone)
    (hf : ∀ a, Counts k (f a)) : Counts k (p.bind f) := by
  intro id n
  rw [scanning_bind]
  exact .bind Prog.Keeps.refl (quiet_scan hp) fun a => hf a id n

theorem Counts.bind {p : Scan (List AddressEvent)}
    {f : List AddressEvent → Scan (List AddressEvent)} (hp : Counts 0 p)
    (hf : ∀ events, Counts (k + events.length) (f events)) : Counts k (p.bind f) := by
  intro id n
  rw [scanning_bind]
  refine .bind Prog.Keeps.refl (hp id (n + k)) fun events => ?_
  have hrest := hf events id n
  rwa [← Nat.add_assoc] at hrest

theorem Counts.forEach {f : α → Scan (List AddressEvent)} {items : List α}
    (h : ∀ a ∈ items, Counts 0 (f a)) : Counts 0 (Prog.forEach f items) := by
  induction items with
  | nil => exact Counts.done []
  | cons a items ih =>
    refine .bind (h a (List.mem_cons_self ..)) fun xs => ?_
    refine .bind (ih fun b hb => h b (List.mem_cons_of_mem _ hb)) fun ys => ?_
    have hjoined := Counts.done (xs ++ ys)
    rwa [List.length_append, ← Nat.zero_add xs.length] at hjoined

theorem insert_event_counts (draft : AddressEventDraft) : Counts 0 (insert_event draft) := by
  intro id n
  refine .ask (fun _ _ => trivial) fun w hw r t ht => ?_
  cases ht with
  | @query _ _ db hfate =>
    cases r with
    | ok event =>
      obtain ⟨hanswer, hdb⟩ := hfate.answer
      obtain rfl : (w.db.insert_event_and_outbox_if_not_exists draft).1 = event :=
        Except.ok.inj hanswer
      obtain rfl : (w.db.insert_event_and_outbox_if_not_exists draft).2 = db := hdb
      exact ⟨at_phase (.trying id (n + _)), trying_store hw (insert_events draft w.db),
        .done fun _ h => h⟩
    | error e =>
      refine ⟨at_phase (.created id), ?_, .fail fun _ h => h⟩
      rcases hfate.state with rfl | rfl
      · exact trying_created (trying_same hw rfl)
      · exact trying_created (trying_store hw (insert_events draft w.db))

/-! ### The scans of the chains -/

section Chains
open Prog
variable {context : ScanAddressContext} {provider : Provider}

theorem quiet_lift {x : AppResult α} : (Prog.lift x : Scan α).Only InsertsNone :=
  Only.lift

theorem quiet_read {q : Query} (hq : InsertsNone (.db q)) : (query q).Only InsertsNone :=
  Only.perform hq

theorem quiet_write_cursor (cursor_type : String) (value : Option Int) :
    (write_cursor context cursor_type value).Only InsertsNone := by
  cases value with
  | some value => exact Only.perform trivial
  | none => exact Only.done

theorem erc20_asset_counts (watched_topic : String) (range : BlockRange) (asset : Asset) :
    Counts 0 (scan_erc20_asset context watched_topic range asset) := by
  unfold scan_erc20_asset
  split
  · exact Counts.done []
  · refine Counts.forEach fun filter _ => ?_
    refine Counts.after (eth_get_logs_only (fun _ => trivial) filter) fun logs => ?_
    refine Counts.forEach fun log _ => ?_
    exact Counts.after quiet_lift fun transfer => insert_event_counts _

theorem erc20_transfers_counts (latest_block default_confirmations : Int)
    (selected_assets : List Asset) :
    Counts 0 (scan_evm_erc20_transfers context latest_block default_confirmations
      selected_assets) := by
  refine Counts.after (quiet_read trivial) fun cursor => Counts.after quiet_lift fun range => ?_
  cases range with
  | none => exact Counts.done []
  | some range =>
    dsimp only
    split
    · exact Counts.done []
    refine Counts.after quiet_lift fun topic => Counts.after quiet_lift fun ranges => ?_
    refine Counts.forEach fun range _ => ?_
    refine Counts.bind (Counts.forEach fun asset _ => erc20_asset_counts topic range asset)
      fun events => Counts.after (quiet_read trivial) fun _ => ?_
    rw [Nat.zero_add]
    exact Counts.done events

theorem evm_native_counts (asset : Asset) (block_number : Int) :
    Counts 0 (scan_evm_native_balance_with_context context asset provider block_number) := by
  refine Counts.after (call_only (fun _ => trivial) _) fun balance_hex => ?_
  refine Counts.after quiet_lift fun balance_raw => Counts.after quiet_lift fun balance_decimal => ?_
  refine Counts.after (quiet_read trivial) fun current => ?_
  refine Counts.after (quiet_read trivial) fun previous => ?_
  cases previous with
  | none => exact Counts.done []
  | some previous =>
    dsimp only
    split
    · exact Counts.after quiet_lift fun draft => insert_event_counts draft
    · exact Counts.done []

theorem evm_counts : Counts 0 (scan_evm_address_with_provider context provider) := by
  refine Counts.after quiet_lift fun _ => Counts.after (quiet_read trivial) fun chain => ?_
  refine Counts.after (quiet_read trivial) fun native_asset => ?_
  refine Counts.after (quiet_read trivial) fun selected_assets => Counts.after quiet_lift fun _ => ?_
  refine Counts.after (Only.bind (call_only (fun _ => trivial) _) fun _ => Only.lift)
    fun latest_block => ?_
  refine Counts.bind ?_ fun events => Counts.bind (erc20_transfers_counts _ _ _) fun transfers => ?_
  · split
    · exact evm_native_counts native_asset latest_block
    · exact Counts.done []
  · rw [Nat.zero_add, ← List.length_append]
    exact Counts.done _

theorem tron_counts : Counts 0 (scan_tron_address_with_provider context provider) := by
  refine Counts.after quiet_lift fun _ => Counts.after (quiet_read trivial) fun native_asset => ?_
  refine Counts.after (quiet_read trivial) fun selected_assets => Counts.after quiet_lift fun _ => ?_
  refine Counts.after (quiet_read trivial) fun trx_cursor => ?_
  refine Counts.after ?_ fun trx_transfers => ?_
  · split
    · exact trx_pages_only (fun _ => trivial) ..
    · exact Only.done
  refine Counts.after (quiet_read trivial) fun trc20_cursor => ?_
  refine Counts.after (trc20_assets_pages_only (fun _ => trivial) ..) fun trc20 => ?_
  refine Counts.bind (Counts.forEach fun _ _ => insert_event_counts _) fun trx_events => ?_
  refine Counts.bind (Counts.forEach fun _ _ => insert_event_counts _) fun trc20_events => ?_
  refine Counts.after (quiet_write_cursor ..) fun _ => Counts.after (quiet_write_cursor ..) fun _ => ?_
  rw [Nat.zero_add, ← List.length_append]
  exact Counts.done _

theorem btc_counts : Counts 0 (scan_btc_address_with_provider context provider) := by
  refine Counts.after quiet_lift fun _ => Counts.after (quiet_read trivial) fun native_asset => ?_
  refine Counts.after (quiet_read trivial) fun selected_assets => ?_
  split
  · exact Counts.done []
  refine Counts.after quiet_lift fun _ => ?_
  refine Counts.after (address_balance_only (fun _ => trivial) _) fun balance => ?_
  refine Counts.after (quiet_read trivial) fun _ => Counts.after (quiet_read trivial) fun cursor => ?_
  refine Counts.after (btc_pages_only (fun _ => trivial) ..) fun transfers => ?_
  refine Counts.bind (Counts.forEach fun _ _ => insert_event_counts _) fun events => ?_
  refine Counts.after (quiet_write_cursor ..) fun _ => ?_
  rw [Nat.zero_add]
  exact Counts.done events

end Chains

end Counting

/-! ### The attempt -/

section Attempt
variable {w t : AttemptWorld} {id : Uuid} {α β : Type}

/-- A statement that changes nothing that is counted. -/
theorem told_phase {op : AttemptStatement} (i : AttemptPhase)
    (h : ∀ w r t, AttemptCarried w op r t → t = w) :
    Attempts i (Prog.perform op) (fun _ => i) i := by
  refine .perform (fun _ _ => trivial) fun w hw r t ht => ?_
  obtain rfl := h w r t ht
  cases r with
  | ok a => exact hw
  | error e => exact hw

theorem told_attempt {op : AttemptStatement} (i : AttemptPhase)
    (h : ∀ w r t, AttemptCarried w op r t → t = w) :
    Attempts i (Prog.perform op).attempt (fun _ => i) i :=
  .attempt (told_phase i h) (fun _ _ h => h) fun _ _ h => h

theorem scan_available_counts {chain_id : Uuid} {now : Timestamp}
    {scan : Provider → Scan (List AddressEvent)} (hscan : ∀ provider, Counts 0 (scan provider))
    (candidates : List Provider) (last_provider_error : Option AppError) :
    Attempts (.created id) (scan_available chain_id now scan candidates last_provider_error)
      (fun events => .trying id events.length) (.created id) := by
  induction candidates generalizing last_provider_error with
  | nil => exact .fail fun _ h => h
  | cons provider candidates ih =>
    refine .bind_perform (fun _ _ => trivial) fun w hw r t ht => ?_
    cases ht with
    | acquired =>
      obtain ⟨haudited, hunfinished⟩ := hw.1.recount (t := { w with tries := 0 :: w.tries }) hw.2.2
        rfl rfl
      refine ⟨at_phase (.trying id 0), ⟨haudited, hw.2.1, hunfinished, rfl⟩, ?_⟩
      refine .bind Prog.Keeps.refl (Q := fun r => at_phase (match r with
        | .ok events => .trying id events.length
        | .error _ => .created id)) ?_ fun result => ?_
      · have hone := hscan provider id 0
        simp only [Nat.zero_add] at hone
        exact .attempt hone (fun _ _ h => h) fun _ _ h => h
      · cases result with
        | ok events =>
          refine .bind Prog.Keeps.refl ?_ fun _ => .done fun _ h => h
          refine (told_attempt (.trying id events.length) ?_).consequence (fun _ h => h)
            (fun _ _ h => h) fun _ _ h => trying_created h
          intro w r t ht
          cases ht
          rfl
        | error error =>
          dsimp only
          split
          · refine .bind Prog.Keeps.refl (told_attempt (.created id) ?_) fun _ => ih _
            intro w r t ht
            cases ht
            rfl
          · exact .fail fun _ h => h
    | not_acquired hne =>
      cases r with
      | error e => exact hw
      | ok acquired =>
        cases acquired with
        | true => exact absurd rfl hne
        | false => exact ⟨at_phase (.created id), hw, ih last_provider_error⟩

/-- The phase after a scan with this outcome. -/
def after_scanned (id : Uuid) : ScanTaskOutcome → AttemptPhase
  | .Scanned event_count => .trying id event_count
  | _ => .created id

theorem finish_address_scan_phase (i : AttemptPhase) (address_id : Uuid) (now : Timestamp) :
    Attempts i (Prog.perform (.finish_address_scan address_id now)) (fun _ => i) i := by
  refine told_phase i fun w r t ht => ?_
  cases ht
  rfl

theorem scan_chain_counts {task : ScanAddressTask} {now : Timestamp} {context : ScanAddressContext}
    {scan : ScanAddressContext → Provider → Scan (List AddressEvent)}
    (hscan : ∀ provider, Counts 0 (scan context provider)) :
    Attempts (.created id) (scan_chain task now context scan) (after_scanned id) (.created id) := by
  refine .bind Prog.Keeps.refl (Q := fun events => at_phase (.trying id events.length)) ?_
    fun events => ?_
  · refine .bind Prog.Keeps.refl (told_phase (.created id) ?_) fun candidates => ?_
    · intro w r t ht
      cases ht
      rfl
    · split
      · exact .fail fun _ h => h
      · exact scan_available_counts hscan candidates none
  · refine .bind Prog.Keeps.refl ?_ fun _ => .done fun _ h => h
    exact (finish_address_scan_phase (.trying id events.length) _ _).consequence (fun _ h => h)
      (fun _ _ h => h) fun _ _ h => trying_created h

theorem process_locked_scan_task_counts (task : ScanAddressTask) (now : Timestamp) :
    Attempts (.created id) (process_locked_scan_task task now) (after_scanned id)
      (.created id) := by
  refine .bind Prog.Keeps.refl (Q := fun _ => at_phase (.created id)) ?_ fun context => ?_
  · refine .perform (fun _ _ => trivial) fun w hw r t ht => ?_
    cases ht with
    | job hfate =>
      obtain ⟨now, skipped, hfate⟩ := hfate
      rcases hfate.state with rfl | rfl <;> cases r <;> exact hw
    | told h => exact h.elim
  · split
    · exact scan_chain_counts fun _ => evm_counts
    · exact scan_chain_counts fun _ => tron_counts
    · exact scan_chain_counts fun _ => btc_counts
    · exact .bind Prog.Keeps.refl (finish_address_scan_phase (.created id) _ _)
        fun _ => .done fun _ h => h

theorem with_scan_bind (p : JobProg α) (f : α → JobProg β) :
    with_scan (p.bind f) = (with_scan p).bind fun a => with_scan (f a) := by
  induction p with
  | done a => rfl
  | fail e => rfl
  | ask op rest ih =>
    cases op with
    | process_scan_task task now =>
      simp only [with_scan, Prog.ask_bind, ih]
      exact (Prog.bind_assoc ..).symm
    | _ => exact congrArg (Prog.ask _) (funext fun r => ih r)

theorem with_scan_attempt (p : JobProg α) : with_scan p.attempt = (with_scan p).attempt := by
  induction p with
  | done a => rfl
  | fail e => rfl
  | ask op rest ih =>
    cases op with
    | process_scan_task task now =>
      simp only [with_scan, Prog.attempt, ih]
      exact (Prog.attempt_bind_attempt ..).symm
    | _ => exact congrArg (Prog.ask _) (funext fun r => ih r)

theorem with_scan_lift (x : AppResult α) : with_scan (Prog.lift x : JobProg α) = Prog.lift x := by
  cases x <;> rfl

/-- Where the loop asks for the scan, it is made. -/
theorem with_scan_process (task : ScanAddressTask) (now : Timestamp) :
    with_scan (process_scan_task task now) = process_locked_scan_task task now := by
  have hlift : (fun r => with_scan (Prog.lift r : JobProg ScanTaskOutcome)) = Prog.lift :=
    funext with_scan_lift
  exact (congrArg (Prog.bind _) hlift).trans (Prog.attempt_lift _)

theorem with_scan_query (q : JobQuery) :
    with_scan (job_query q) = Prog.perform (.job (.db q) : AttemptStatement) :=
  congrArg (Prog.ask _) (funext with_scan_lift)

theorem with_scan_utc_now : with_scan utc_now = Prog.perform (.job .utc_now : AttemptStatement) :=
  congrArg (Prog.ask _) (funext with_scan_lift)

theorem with_scan_renewal_lost : with_scan renewal_lost =
    Prog.perform (.job .renewal_lost : AttemptStatement) :=
  congrArg (Prog.ask _) (funext with_scan_lift)

theorem fails_over {i e : AttemptPhase} {p : AttemptProg α} {j : α → AttemptPhase}
    (h : Attempts i p j e) : Attempts i p j .ended :=
  h.consequence (fun _ h => h) (fun _ _ h => h) fun _ _ h => AttemptPhase.audited h

theorem silent_phase {s : JobStatement} (i : AttemptPhase) (hs : s.Silent) :
    Attempts i (Prog.perform (.job s)) (fun _ => i) i := by
  refine told_phase i fun w r t ht => ?_
  cases ht with
  | job hfate => exact hs.elim
  | told h => rfl

/-- A statement against the queue. -/
theorem query_phase {q : JobQuery} {i e : AttemptPhase} {j : q.Answer → AttemptPhase}
    (h : ∀ w r t, i.holds w → q.Fate w.jobs r t → match r with
      | .ok a => (j a).holds (w.job_done q t)
      | .error _ => e.holds (w.job_done q t)) :
    Attempts i (with_scan (job_query q)) j e := by
  rw [with_scan_query]
  refine .perform (fun _ _ => trivial) fun w hw r t ht => ?_
  cases ht with
  | job hfate =>
    have hnext := h w r _ hw hfate
    cases r with
    | ok a => exact hnext
    | error e => exact hnext
  | told h => exact h.elim

theorem create_scan_run_phase (task : ScanAddressTask) (started_at : Timestamp)
    (worker_id : String) :
    Attempts .before (with_scan (create_scan_run_for_task task started_at worker_id))
      (fun run => .created run.id) .ended := by
  simp only [create_scan_run_for_task, Prog.bind_eq, with_scan_bind]
  refine .bind Prog.Keeps.refl (Q := fun _ => at_phase .before) ?_ fun context => ?_
  · refine query_phase fun w r t hw hfate => ?_
    have hsame : t = w.jobs := by rcases hfate.state with h | ⟨now, skipped, h⟩ <;> exact h
    cases r with
    | ok context => exact hsame ▸ hw
    | error e => exact hsame ▸ hw.1
  · refine query_phase fun w r t hw hfate => ?_
    obtain ⟨haudited, hrun⟩ := hw.1.created hw.2 hfate
    cases r with
    | ok run => exact ⟨haudited, hrun run rfl⟩
    | error e => exact haudited

/-- The phase once the result of the scan is known. -/
def scan_ended : AppResult ScanRun → AppResult ScanTaskOutcome → AttemptPhase
  | .ok run, .ok outcome => after_scanned run.id outcome
  | .ok run, .error _ => .created run.id
  | .error _, _ => .ended

theorem scan_audited_phase (task : ScanAddressTask) (started_at : Timestamp) (run : ScanRun) :
    Attempts (.created run.id) (with_scan (scan_audited task started_at (.ok run)))
      (scan_ended (.ok run)) .ended := by
  simp only [scan_audited, Prog.bind_eq, with_scan_bind, with_scan_renewal_lost]
  refine .bind Prog.Keeps.refl (Q := fun _ => at_phase (.created run.id)) ?_ fun lost => ?_
  · exact fails_over (silent_phase (.created run.id) (by trivial))
  cases lost with
  | true => exact .done fun _ h => h
  | false =>
    simp only [Bool.false_eq_true, if_false, with_scan_attempt, with_scan_process]
    exact .attempt (process_locked_scan_task_counts task started_at) (fun _ _ h => h)
      fun _ _ h => h

/-- What is written to the run is what it should count. -/
theorem run_finish_fits {run : ScanRun} {result : AppResult ScanTaskOutcome} {now : Timestamp}
    (h : (scan_ended (.ok run) result).holds w) :
    Fits w (run_finish_for_result result now).status
      (run_finish_for_result result now).event_count := by
  cases result with
  | error error => rfl
  | ok outcome =>
    cases outcome with
    | Locked => rfl
    | UnsupportedChain chain_type => rfl
    | Scanned event_count =>
      have hlast : w.inserted_last = event_count := by
        rw [AttemptWorld.inserted_last, List.headD_eq_head?_getD, h.2.2.2]
        rfl
      rw [Fits, hlast]
      rfl

/-- A statement that may finish the run, with a count that fits. -/
theorem finish_phase {q : JobQuery} {i : AttemptPhase}
    (hq : ∀ task context worker_id started_at metadata,
      q ≠ .create_scan_run task context worker_id started_at metadata)
    (h : ∀ w, i.holds w → ∀ id finish, JobQuery.finishes q = some (id, finish) →
      Fits w finish.status finish.event_count) :
    Attempts i (with_scan (job_query q)) (fun _ => .ended) .ended := by
  refine query_phase fun w r t hw hfate => ?_
  have hdone : w.job_done q t = { w with jobs := t } := by
    cases q with
    | create_scan_run task context worker_id started_at metadata =>
      exact absurd rfl (hq task context worker_id started_at metadata)
    | _ => rfl
  have hover : Audited (w.job_done q t) := by
    rw [hdone]
    exact (AttemptPhase.audited hw).statement hfate fun id finish hf _ => h w hw id finish hf
  cases r with
  | ok a => exact hover
  | error e => exact hover

theorem finalize_phase (worker_id : String) (job : ScanJob) (scan_run_result : AppResult ScanRun)
    (result : AppResult ScanTaskOutcome) :
    Attempts (scan_ended scan_run_result result)
      (with_scan (finalize worker_id job (scan_run_result.toOption.map (·.id)) result))
      (fun _ => .ended) .ended := by
  simp only [finalize, Prog.bind_eq, with_scan_bind, with_scan_utc_now, with_scan_attempt]
  refine .bind Prog.Keeps.refl (Q := fun _ => at_phase (scan_ended scan_run_result result)) ?_
    fun now => ?_
  · exact fails_over (silent_phase _ (by trivial))
  refine .bind Prog.Keeps.refl (Q := fun _ => at_phase .ended) ?_ fun finished => ?_
  · refine .attempt (Q := fun _ => at_phase .ended) (E := fun _ => at_phase .ended) ?_
      (fun _ _ h => h) fun _ _ h => h
    cases scan_run_result with
    | error e =>
      exact finish_phase (by exact nofun) fun w hw id finish hq => nomatch hq
    | ok run =>
      refine finish_phase (by exact nofun) fun w hw id finish hq => ?_
      obtain ⟨_, rfl⟩ := Prod.mk.inj (Option.some.inj hq)
      exact run_finish_fits hw
  · cases finished with
    | ok done => exact .done fun _ h => h
    | error error =>
      cases scan_run_result with
      | error e => exact .done fun _ h => h
      | ok run =>
        simp only [Except.toOption, Option.map_some, with_scan_bind, with_scan_utc_now,
          with_scan_attempt]
        refine .bind Prog.Keeps.refl (Q := fun _ => at_phase .ended)
          (silent_phase .ended (by trivial)) fun now => ?_
        refine .bind Prog.Keeps.refl (Q := fun _ => at_phase .ended) ?_ fun _ => .done fun _ h => h
        refine .attempt (finish_phase (by exact nofun) fun w _ id finish hq => ?_) (fun _ _ h => h)
          fun _ _ h => h
        obtain ⟨_, rfl⟩ := Prod.mk.inj (Option.some.inj hq)
        rfl

/-- What a worker does with a job leaves the run with what it should count. -/
theorem attempt_counts (worker_id : String) (job : ScanJob) :
    Attempts .before (attempt worker_id job) (fun _ => .ended) .ended := by
  simp only [attempt, process_claimed_job, Prog.bind_eq, with_scan_bind, with_scan_utc_now,
    with_scan_attempt]
  refine .bind Prog.Keeps.refl (Q := fun _ => at_phase .before) ?_ fun enqueued_at => ?_
  · exact fails_over (silent_phase .before (by trivial))
  refine .bind Prog.Keeps.refl (Q := fun _ => at_phase .before) ?_ fun started_at => ?_
  · exact fails_over (silent_phase .before (by trivial))
  refine .bind Prog.Keeps.refl (Q := fun r => at_phase (match r with
    | .ok run => .created run.id
    | .error _ => .ended)) ?_ fun scan_run_result => ?_
  · exact .attempt (create_scan_run_phase _ _ _) (fun _ _ h => h) fun _ _ h => h
  refine .bind Prog.Keeps.refl (Q := fun result => at_phase (scan_ended scan_run_result result)) ?_
    fun result => finalize_phase worker_id job scan_run_result result
  cases scan_run_result with
  | ok run => exact scan_audited_phase _ _ run
  | error e => exact .done fun _ h => h

end Attempt

theorem inserted_last_le (w : AttemptWorld) : w.inserted_last ≤ w.inserted := by
  cases htries : w.tries with
  | nil => simp [AttemptWorld.inserted_last, AttemptWorld.inserted, htries]
  | cons n earlier => simp [AttemptWorld.inserted_last, AttemptWorld.inserted, htries]

/-- A run leaves out what earlier providers inserted, and everything where it fails. -/
theorem Fits.count_iff {w : AttemptWorld} {status : ScanRunStatus} {event_count : Int}
    (h : Fits w status event_count) :
    event_count = min (w.inserted : Int) 2147483647 ↔ w.inserted = 0 ∨ status = .success ∧
      (w.inserted = w.inserted_last ∨ 2147483647 ≤ w.inserted_last) := by
  have hle := inserted_last_le w
  rw [Fits] at h
  by_cases hstatus : status = .success
  · rw [if_pos hstatus] at h
    simp only [hstatus, true_and]
    omega
  · rw [if_neg hstatus] at h
    simp only [hstatus, false_and, or_false]
    omega

/-- However often the scan goes on with another provider and wherever the attempt fails or is cut
off, its run counts the events inserted exactly if there are none, or the scan succeeded and the
provider tried last inserted all of them, or as many as the column holds. -/
theorem event_count_iff {jobs : ScanTables} {db : Db} {worker_id : String} {job : ScanJob}
    {w : AttemptWorld} {p : AttemptProg Unit} {run : ScanRun} (hreach : Reachable jobs)
    (hrun : AttemptRun (.start jobs db, attempt worker_id job) (w, p))
    (hmem : run ∈ w.jobs.scan_runs) (hown : w.run = some run.id) :
    run.event_count = min (w.inserted : Int) 2147483647 ↔ w.inserted = 0 ∨
      run.status = .success ∧ (w.inserted = w.inserted_last ∨ 2147483647 ≤ w.inserted_last) := by
  have hstart : AttemptPhase.before.holds (.start jobs db) :=
    ⟨⟨QueueInvariant.reachable hreach, nofun, fun _ _ h => nomatch h⟩, rfl⟩
  have haudited : Audited w := Prog.Turn.invariant (A := Prog.Any) (I := Audited)
    (R := Prog.Keeps AttemptPhase.holds) (Q := fun r => (at_phase .ended).holds)
    Prog.Keeps.refl Prog.Keeps.trans (fun _ _ h => h.keeps) (fun _ _ _ _ h => h.elim) hrun
    (((attempt_counts worker_id job).safe _ hstart).mono fun r _ _ h => by
      cases r with
      | ok _ => exact h
      | error _ => exact h)
  exact (haudited.fits run hmem hown).count_iff

/-! ### A balance change, and a provider that fails after it -/

def ether : Asset :=
  { id := 4, chain_id := 1, asset_type := "native", symbol := "ETH", name := "Ether",
    contract_address := none, decimals := 18, status := "active" }

def dai : Asset :=
  { id := 5, chain_id := 1, asset_type := "erc20", symbol := "DAI", name := "Dai",
    contract_address := some "0xcccccccccccccccccccccccccccccccccccccccc", decimals := 18,
    status := "active" }

/-- Both assets are selected, and the balance was one wei at the last scan. -/
def one_wei : Db where
  chains := [ethereum]
  assets := [ether, dai]
  watched_address_assets := [(2, 4), (2, 5)]
  scan_cursors := []
  balance_snapshots :=
    [{ tenant_id := 3, chain_id := 1, address_id := 2, asset_id := 4, balance_raw := "1",
       balance_decimal := "0.000000000000000001", block_number := none, block_hash := none,
       source_provider_id := none, id := 0, observed_at := 0 }]
  clock := 1
  events := .empty

def candidate (id : Uuid) : Provider :=
  { id := id, chain_id := 1, name := "rpc", base_url := "https://rpc.example", timeout_ms := 1000 }

/-- The balance is two wei; so many providers fail when asked for logs. -/
def answered_by (failing : Nat) (w : AttemptWorld) :
    (op : AttemptStatement) → AppResult op.Answer × AttemptWorld
  | .job (.db q) =>
    ((q.run 0 (fun _ => false) w.jobs).1, w.job_done q (q.run 0 (fun _ => false) w.jobs).2)
  | .job .utc_now => (.ok 0, w)
  | .job .renewal_lost => (.ok false, w)
  | .job (.process_scan_task ..) => (.error (.Config "not asked for"), w)
  | .scan (.db q) => ((q.run w.db).1, w.store (q.run w.db).2)
  | .scan (.remote .eth_block_number) => (.ok "0x64", w)
  | .scan (.remote (.eth_get_balance _)) => (.ok "0x2", w)
  | .scan (.remote (.eth_get_logs _)) =>
    (if w.tries.length ≤ failing then .error (.Config "eth_getLogs request failed") else .ok [], w)
  | .scan (.remote _) => (.error (.Config "not asked for"), w)
  | .active_rpc_provider_candidates .. => (.ok [candidate 7, candidate 8], w)
  | .try_acquire_provider_qps .. => (.ok true, { w with tries := 0 :: w.tries })
  | .record_provider_success .. => (.ok (), w)
  | .record_provider_failure .. => (.ok (), w)
  | .finish_address_scan .. => (.ok (), w)

theorem answered_by_carried (failing : Nat) (w : AttemptWorld) (op : AttemptStatement) :
    AttemptCarried w op (answered_by failing w op).1 (answered_by failing w op).2 := by
  cases op with
  | job s =>
    cases s with
    | db q => exact .job ⟨0, fun _ => false, .answered⟩
    | _ => exact .told trivial
  | scan s =>
    cases s with
    | db q => exact .query .answered
    | remote c => cases c <;> exact .request
  | active_rpc_provider_candidates => exact .candidates
  | try_acquire_provider_qps => exact .acquired
  | record_provider_success => exact .success
  | record_provider_failure => exact .failure
  | finish_address_scan => exact .finish

/-- The scheduled job, claimed. -/
def claimed : ScanJob × ScanTables :=
  let (job, jobs) := (one_job 3).claim_due_scan_job 0 (fun _ => false) "worker" 60
  (job.getD (one_job 3 |>.new_job 0 0 0 0 0 0 none), jobs)

theorem claimed_reachable : Reachable claimed.2 :=
  .tail (.tail (.single (.edit [ethereum] [watched_address]))
    (.statement (schedule 3) _ ⟨0, fun _ => false, .answered⟩))
    (.statement (.claim_due_scan_job "worker" 60) _ ⟨0, fun _ => false, .answered⟩)

def after_attempt (failing : Nat) : AttemptWorld :=
  ((attempt "worker" claimed.1).eval (answered_by failing) (.start claimed.2 one_wei)).2

theorem after_attempt_runs (failing : Nat) :
    ∃ p, AttemptRun (.start claimed.2 one_wei, attempt "worker" claimed.1)
      (after_attempt failing, p) :=
  Prog.Turn.of_eval (fun w op => ⟨w, Or.inl rfl, answered_by_carried failing w op⟩) _ _

/-- The run of the attempt, with its count and how it ended. -/
def AttemptWorld.counted (w : AttemptWorld) : List (ScanRunStatus × Int) :=
  (w.jobs.scan_runs.filter fun run => some run.id == w.run).map fun run =>
    (run.status, run.event_count)

theorem counted_row {w : AttemptWorld} {status : ScanRunStatus} {event_count : Int}
    (h : w.counted = [(status, event_count)]) :
    ∃ run ∈ w.jobs.scan_runs, w.run = some run.id ∧ run.status = status ∧
      run.event_count = event_count := by
  have hmem : (status, event_count) ∈ w.counted := by simp [h]
  simp only [AttemptWorld.counted, List.mem_map, List.mem_filter, beq_iff_eq] at hmem
  obtain ⟨run, ⟨hmem, hown⟩, hrow⟩ := hmem
  exact ⟨run, hmem, hown.symm, (Prod.mk.inj hrow).1, (Prod.mk.inj hrow).2⟩

theorem event_count_one_provider :
    ∃ run ∈ (after_attempt 0).jobs.scan_runs, run.status = .success ∧
      run.event_count = min ((after_attempt 0).inserted : Int) 2147483647 := by
  have hcounted : (after_attempt 0).counted = [(.success, 1)] ∧ (after_attempt 0).tries = [1] := by
    decide +kernel
  obtain ⟨run, hmem, hown, hstatus, _⟩ := counted_row hcounted.1
  obtain ⟨p, hrun⟩ := after_attempt_runs 0
  refine ⟨run, hmem, hstatus,
    (event_count_iff claimed_reachable hrun hmem hown).mpr (Or.inr ⟨hstatus, ?_⟩)⟩
  left
  rw [AttemptWorld.inserted, AttemptWorld.inserted_last, hcounted.2]
  rfl

/-- The first provider stores the balance change and fails, the second finds nothing new. -/
theorem failover_uncounted :
    ∃ jobs db worker_id job w p run, Reachable jobs ∧
      AttemptRun (.start jobs db, attempt worker_id job) (w, p) ∧ run ∈ w.jobs.scan_runs ∧
      w.run = some run.id ∧ run.status = .success ∧ run.event_count = 0 ∧ w.inserted = 1 := by
  have hcounted : (after_attempt 1).counted = [(.success, 0)] ∧ (after_attempt 1).inserted = 1 := by
    decide +kernel
  obtain ⟨run, hmem, hown, hstatus, hcount⟩ := counted_row hcounted.1
  obtain ⟨p, hrun⟩ := after_attempt_runs 1
  exact ⟨_, _, _, _, _, p, run, claimed_reachable, hrun, hmem, hown, hstatus, hcount, hcounted.2⟩

end CoinListener.Worker
