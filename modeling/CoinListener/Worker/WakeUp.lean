import CoinListener.Core.PlainFormats
import CoinListener.Storage.ScanQueue
import CoinListener.Worker.ScanLoop

/-! Waking idle workers. A worker waits only where a claim has handed it nothing, and a signal that
has been given is not lost while there is a job for it. -/
namespace CoinListener.Worker
open Foundation Storage

/-! ### The loop -/

/-- What the whole loop asks for. -/
inductive LoopStatement where
  | job (op : JobStatement)
  | worker_shutdown_requested
  | process_one_address_import_task (worker_id : String)
  | wait_for_signal (timeout_seconds : Nat)
  | sleep (ms : Nat)

abbrev LoopStatement.Answer : LoopStatement → Type
  | .job op => op.Answer
  | .worker_shutdown_requested => Bool
  | .process_one_address_import_task _ => Bool
  | .wait_for_signal _ => Bool
  | .sleep _ => Unit

abbrev LoopProg (α : Type) := Prog LoopStatement LoopStatement.Answer AppError α

def of_job {α : Type} : JobProg α → LoopProg α
  | .done a => .done a
  | .fail e => .fail e
  | .ask op rest => .ask (.job op) fun r => of_job (rest r)

/-- What the loop does about the claim's answer. -/
def after_claim (worker_id : String) (job_idle_sleep_ms : Nat) :
    AppResult (Option ScanJob) → LoopProg Unit
  | .ok (some job) => of_job (process_claimed_job worker_id job)
  | .ok none => do
    let signalled ← (Prog.perform (LoopStatement.wait_for_signal 5)).attempt
    match signalled with
    | .ok _ => return ()
    | .error _ => Prog.perform (LoopStatement.sleep job_idle_sleep_ms)
  | .error _ => Prog.perform (LoopStatement.sleep job_idle_sleep_ms)

/-- One pass of the loop. It returns whether there is to be another one. -/
def pass (worker_id : String) (lease_ttl_seconds : Int) (job_idle_sleep_ms : Nat) :
    LoopProg Bool := do
  let requested ← Prog.perform LoopStatement.worker_shutdown_requested
  if requested then return false
  else do
    let _ ← (Prog.perform (LoopStatement.process_one_address_import_task worker_id)).attempt
    let claimed ←
      (Prog.perform (LoopStatement.job (.db (.claim_due_scan_job worker_id lease_ttl_seconds)))).attempt
    after_claim worker_id job_idle_sleep_ms claimed
    return true

/-! ### Waiting and stopping -/

def Waiting (p : LoopProg Bool) : Prop :=
  ∃ timeout_seconds rest, p = .ask (.wait_for_signal timeout_seconds) rest

/-- Neither waiting for a signal nor shut down: the worker asks for a job before it does either. -/
def Awake (p : LoopProg Bool) : Prop :=
  ¬ Waiting p ∧ p ≠ .done false

/-- An answer after which a worker may wait or stop. -/
inductive Idles : (op : LoopStatement) → AppResult op.Answer → Prop where
  | unclaimed {worker_id lease_ttl_seconds} :
    Idles (.job (.db (.claim_due_scan_job worker_id lease_ttl_seconds))) (.ok none)
  | stopping : Idles .worker_shutdown_requested (.ok true)

/-- Only such an answer puts the worker to rest. -/
def Diligent : LoopProg Bool → Prop
  | .done _ => True
  | .fail _ => True
  | .ask op rest => ∀ r, Diligent (rest r) ∧ (¬ Idles op r → Awake (rest r))

theorem awake_done : Awake (.done true) := by
  constructor
  · rintro ⟨_, _, h⟩
    exact nomatch h
  · simp

theorem awake_fail (e : AppError) : Awake (.fail e) := by
  constructor
  · rintro ⟨_, _, h⟩
    exact nomatch h
  · exact nofun

theorem awake_ask {op : LoopStatement} {rest : AppResult op.Answer → LoopProg Bool}
    (h : ∀ timeout_seconds, op ≠ .wait_for_signal timeout_seconds) : Awake (.ask op rest) := by
  constructor
  · rintro ⟨timeout_seconds, _, heq⟩
    injection heq with hop
    exact h timeout_seconds hop
  · exact nofun

/-- Work on a job is followed by another pass. -/
theorem diligent_of_job {α : Type} (p : JobProg α) :
    Diligent ((of_job p).bind fun _ => .done true) ∧ Awake ((of_job p).bind fun _ => .done true) := by
  induction p with
  | done a => exact ⟨trivial, awake_done⟩
  | fail e => exact ⟨trivial, awake_fail e⟩
  | ask op rest ih => exact ⟨fun r => ⟨(ih r).1, fun _ => (ih r).2⟩, awake_ask nofun⟩

theorem diligent_sleep (ms : Nat) :
    Diligent ((Prog.perform (LoopStatement.sleep ms)).bind fun _ => .done true) := by
  rintro (e | a)
  · exact ⟨trivial, fun _ => awake_fail e⟩
  · exact ⟨trivial, fun _ => awake_done⟩

theorem diligent_after_claim (worker_id : String) (job_idle_sleep_ms : Nat)
    (claimed : AppResult (Option ScanJob)) :
    Diligent ((after_claim worker_id job_idle_sleep_ms claimed).bind fun _ => .done true) ∧
      (claimed ≠ .ok none →
        Awake ((after_claim worker_id job_idle_sleep_ms claimed).bind fun _ => .done true)) := by
  rcases claimed with e | _ | job
  · exact ⟨diligent_sleep job_idle_sleep_ms, fun _ => awake_ask nofun⟩
  · refine ⟨?_, fun h => absurd rfl h⟩
    rintro (e | signalled)
    · exact ⟨diligent_sleep job_idle_sleep_ms, fun _ => awake_ask nofun⟩
    · exact ⟨trivial, fun _ => awake_done⟩
  · exact ⟨(diligent_of_job _).1, fun _ => (diligent_of_job _).2⟩

theorem pass_diligent (worker_id : String) (lease_ttl_seconds : Int) (job_idle_sleep_ms : Nat) :
    Diligent (pass worker_id lease_ttl_seconds job_idle_sleep_ms) := by
  rintro (e | requested)
  · exact ⟨trivial, fun _ => awake_fail e⟩
  · cases requested with
    | true => exact ⟨trivial, fun h => absurd .stopping h⟩
    | false =>
      have hclaim : ∀ claimed : AppResult (Option ScanJob),
          Diligent ((Prog.lift claimed).attempt.bind fun claimed =>
            (after_claim worker_id job_idle_sleep_ms claimed).bind fun _ => .done true) ∧
          (¬ Idles (.job (.db (.claim_due_scan_job worker_id lease_ttl_seconds))) claimed →
            Awake ((Prog.lift claimed).attempt.bind fun claimed =>
              (after_claim worker_id job_idle_sleep_ms claimed).bind fun _ => .done true)) := by
        intro claimed
        obtain ⟨hdiligent, hawake⟩ := diligent_after_claim worker_id job_idle_sleep_ms claimed
        rcases claimed with e | _ | job
        · exact ⟨hdiligent, fun _ => hawake nofun⟩
        · exact ⟨hdiligent, fun h => absurd .unclaimed h⟩
        · exact ⟨hdiligent, fun _ => hawake nofun⟩
      refine ⟨fun imported => ?_, fun _ => awake_ask nofun⟩
      cases imported with
      | error e => exact ⟨hclaim, fun _ => awake_ask nofun⟩
      | ok imported => exact ⟨hclaim, fun _ => awake_ask nofun⟩

/-! ### Runs -/

/-- The tables and the list of signals. -/
structure WakeSystem where
  tables : ScanTables
  queue : List String

section System
variable (formats : WireFormats) (C : Condition) (shutdown : Bool)

/-- What may become of a worker's statement. A wait is answered at the moment it takes a payload, or
when it times out; an import stores addresses. -/
inductive LoopStep (s : WakeSystem) :
    (op : LoopStatement) → AppResult op.Answer → WakeSystem → Prop where
  | job {op r u} (h : Carried C s.tables op r u) : LoopStep s (.job op) r { s with tables := u }
  | running : LoopStep s .worker_shutdown_requested (.ok false) s
  | stopping (h : shutdown = true) : LoopStep s .worker_shutdown_requested (.ok true) s
  | imported {worker_id} (r : AppResult Bool) (watched_addresses : List WatchedAddress) :
    LoopStep s (.process_one_address_import_task worker_id) r
      { s with tables := { s.tables with watched_addresses := watched_addresses } }
  | waited {timeout_seconds r values}
    (h : Fate AppError.Redis s.queue (ScanQueue.wait_for_signal formats s.queue) r values) :
    LoopStep s (.wait_for_signal timeout_seconds) r { s with queue := values }
  | slept {ms} : LoopStep s (.sleep ms) (.ok ()) s

/-- What schedulers, the API and older versions do meanwhile. -/
inductive Meanwhile : WakeSystem → WakeSystem → Prop where
  | tables {s u} (h : Others C s.tables u) : Meanwhile s { s with tables := u }
  | signal {s} : Meanwhile s { s with queue := ScanQueue.signal s.queue }
  | push {s} (payload : String) : Meanwhile s { s with queue := payload :: s.queue }

/-- A worker begins another pass, or is restarted. -/
def Begin {W : Type} (names : W → String) (w : W) (s : WakeSystem) (p : LoopProg Bool)
    (t : WakeSystem) : Prop :=
  t = s ∧ ∃ lease_ttl_seconds job_idle_sleep_ms,
    p = pass (names w) lease_ttl_seconds job_idle_sleep_ms

abbrev WakeStep {W : Type} [DecidableEq W] (names : W → String) :
    WakeSystem × (W → LoopProg Bool) → WakeSystem × (W → LoopProg Bool) → Prop :=
  Prog.Crew (fun _ => LoopStep formats C shutdown) (Meanwhile C) (Begin names)

end System

/-- Nothing is enqueued and no worker has started. -/
def stopped {W : Type} (queue : List String) : WakeSystem × (W → LoopProg Bool) :=
  (⟨.empty, queue⟩, fun _ => .done false)

/-- Whenever a worker claims, this job is due and not locked by another transaction. -/
def OnOffer (job_id : Uuid) : Condition := fun t q r u =>
  ∀ worker_id lease_ttl_seconds, q = .claim_due_scan_job worker_id lease_ttl_seconds →
    ∃ now skipped, Fate AppError.Database t (q.run now skipped t) r u ∧ skipped job_id = false ∧
      ∃ job ∈ t.scan_jobs, job.id = job_id ∧ job.claimable now = true

section Runs
variable {W : Type} [DecidableEq W] {formats : WireFormats} {C : Condition} {shutdown : Bool}
  {names : W → String} {s t : WakeSystem} {ps qs : W → LoopProg Bool} {job_id : Uuid}

theorem diligent_step (hstep : WakeStep formats C shutdown names (s, ps) (t, qs))
    (h : ∀ w, Diligent (ps w)) : ∀ w, Diligent (qs w) := by
  intro v
  cases hstep with
  | @launch _ _ _ p w hlaunch =>
    by_cases hv : v = w
    · subst v
      obtain ⟨_, ttl, ms, rfl⟩ := hlaunch
      simpa using pass_diligent (names w) ttl ms
    · simpa [hv] using h v
  | @statement _ _ _ op rest r w hp hs =>
    by_cases hv : v = w
    · subst v
      have hask := h w
      rw [hp] at hask
      simpa using (hask r).1
    · simpa [hv] using h v
  | others => exact h v

theorem diligent_run {d : WakeSystem × (W → LoopProg Bool)} {c : WakeSystem × (W → LoopProg Bool)}
    (hrun : Relation.ReflTransGen (WakeStep formats C shutdown names) c d)
    (h : ∀ w, Diligent (c.2 w)) : ∀ w, Diligent (d.2 w) := by
  induction hrun with
  | refl => exact h
  | tail _ hstep ih => exact diligent_step hstep ih

/-- A claim finds something while the job is on offer. -/
theorem claim_on_offer {t u : ScanTables} {worker_id : String} {lease_ttl_seconds : Int}
    (hC : OnOffer job_id t (.claim_due_scan_job worker_id lease_ttl_seconds) (.ok none) u) :
    False := by
  obtain ⟨now, skipped, hfate, hskipped, job, hjob, rfl, hclaimable⟩ := hC _ _ rfl
  obtain ⟨first, hfirst, _⟩ := due_first hjob hclaimable hskipped
  obtain ⟨hanswer, _⟩ := hfate.answer
  simp [JobQuery.run, ScanTables.claim_due_scan_job, hfirst] at hanswer

/-- So no answer puts a worker to rest. -/
theorem LoopStep.not_idles {op : LoopStatement} {r : AppResult op.Answer}
    (h : LoopStep formats (OnOffer job_id) false s op r t) : ¬ Idles op r := by
  intro hidles
  cases hidles with
  | unclaimed =>
    cases h with
    | job hcarried =>
      cases hcarried with
      | db _ hC => exact claim_on_offer hC
  | stopping =>
    cases h with
    | stopping hshutdown => cases hshutdown

/-- A signal is in the list, or a worker is awake. -/
def Signalled (s : WakeSystem) (ps : W → LoopProg Bool) : Prop :=
  SCAN_WAKE_SIGNAL_PAYLOAD ∈ s.queue ∨ ∃ w, Awake (ps w)

theorem Signalled.step (h : Signalled s ps) (hdiligent : ∀ w, Diligent (ps w))
    (hstep : WakeStep formats (OnOffer job_id) false names (s, ps) (t, qs)) : Signalled t qs := by
  cases hstep with
  | @launch _ _ _ p w hlaunch =>
    obtain ⟨_, ttl, ms, rfl⟩ := hlaunch
    refine .inr ⟨w, ?_⟩
    rw [Function.update_self]
    exact awake_ask nofun
  | @statement _ _ _ op rest r w hp hs =>
    have hask := hdiligent w
    rw [hp] at hask
    refine .inr ⟨w, ?_⟩
    rw [Function.update_self]
    exact (hask r).2 hs.not_idles
  | others hmeanwhile =>
    rcases h with hqueue | hawake
    · refine .inl ?_
      cases hmeanwhile with
      | tables => exact hqueue
      | signal => exact ScanQueue.signal_keeps hqueue
      | push payload => exact List.mem_cons_of_mem _ hqueue
    · exact .inr hawake

end Runs

/-! ### One worker -/

/-- The worker waits: a claim has just handed it nothing. -/
def waiting_worker (_ : Unit) : LoopProg Bool :=
  (after_claim "worker" 1000 (.ok none)).bind fun _ => .done true

/-- What it does once the claim is answered. -/
def claimed_worker (job : ScanJob) (_ : Unit) : LoopProg Bool :=
  (after_claim "worker" 1000 (.ok (some job))).bind fun _ => .done true

def only_job : ScanJob :=
  one_address.new_job 0 3 2 1 3 0 none

abbrev SampleStep (C : Condition) (shutdown : Bool) :
    WakeSystem × (Unit → LoopProg Bool) → WakeSystem × (Unit → LoopProg Bool) → Prop :=
  WakeStep PlainFormats.formats C shutdown sole_worker

theorem sole_begin {C : Condition} {shutdown : Bool} (s : WakeSystem) (ps : Unit → LoopProg Bool) :
    SampleStep C shutdown (s, ps) (s, fun _ => pass "worker" 60 1000) :=
  .launch () ⟨rfl, 60, 1000, rfl⟩

theorem sole_statement {C : Condition} {shutdown : Bool} {s t : WakeSystem} {op : LoopStatement}
    {rest : AppResult op.Answer → LoopProg Bool} {r : AppResult op.Answer}
    (h : LoopStep PlainFormats.formats C shutdown s op r t) :
    SampleStep C shutdown (s, fun _ => .ask op rest) (t, fun _ => rest r) :=
  .statement () rfl h

/-- A pass up to its claim. -/
theorem pass_to_claim {C : Condition} {shutdown : Bool} (s : WakeSystem) (ps : Unit → LoopProg Bool)
    {claimed : Option ScanJob} {u : ScanTables}
    (hclaim : Carried C s.tables (.db (.claim_due_scan_job "worker" 60)) (.ok claimed) u) :
    Relation.ReflTransGen (SampleStep C shutdown) (s, ps) ({ s with tables := u }, fun _ =>
      (after_claim "worker" 1000 (.ok claimed)).bind fun _ => .done true) :=
  .head (sole_begin s ps) <| .head (sole_statement .running) <|
    .head (sole_statement (.imported (.ok false) s.tables.watched_addresses)) <|
      .single (sole_statement (LoopStep.job hclaim))

theorem idle_run : Relation.ReflTransGen (SampleStep Unconditional false) (stopped [])
    (⟨one_job 3, []⟩, waiting_worker) := by
  have hclaim : Carried Unconditional .empty (.db (.claim_due_scan_job "worker" 60)) (.ok none) .empty :=
    .db ⟨0, fun _ => false, .answered⟩ trivial
  refine (pass_to_claim _ _ hclaim).trans ?_
  refine .head (.others (.tables (.edit [ethereum] [watched_address]))) (.single ?_)
  exact .others (.tables (.statement (schedule 3) _ trivial (fun _ h => Option.some.inj h ▸ by decide)
    ⟨0, fun _ => false, .answered⟩ trivial))

theorem woken_run : Relation.ReflTransGen (SampleStep (OnOffer 0) false)
    (⟨one_job 3, ScanQueue.signal []⟩, waiting_worker)
    (⟨((one_job 3).claim_due_scan_job 0 (fun _ => false) "worker" 60).2, []⟩,
      claimed_worker (only_job.claimed 0 "worker" 60)) := by
  refine .head (sole_statement (.waited .answered)) ?_
  have hfate : Fate AppError.Database (one_job 3)
      ((JobQuery.claim_due_scan_job "worker" 60).run 0 (fun _ => false) (one_job 3))
      (.ok (some (only_job.claimed 0 "worker" 60)))
      ((one_job 3).claim_due_scan_job 0 (fun _ => false) "worker" 60).2 := .answered
  have hoffer : OnOffer 0 (one_job 3) (.claim_due_scan_job "worker" 60)
      (.ok (some (only_job.claimed 0 "worker" 60)))
      ((one_job 3).claim_due_scan_job 0 (fun _ => false) "worker" 60).2 := by
    intro worker_id ttl hq
    exact ⟨0, fun _ => false, hfate, rfl, only_job, List.mem_singleton_self _, rfl, rfl⟩
  exact pass_to_claim (s := ⟨one_job 3, []⟩) _ (.db ⟨0, fun _ => false, hfate⟩ hoffer)

/-! ### Every run -/

section Every
variable {W : Type} [DecidableEq W] {formats : WireFormats} {C : Condition} {shutdown : Bool}
  {names : W → String} {s t : WakeSystem} {ps qs : W → LoopProg Bool} {job_id : Uuid}

/-- A signal that is given while a job waits is not lost: from then on and for as long as every claim
finds the job on offer and no worker shuts down, the signal is in the list or some worker is awake. -/
theorem signal_not_lost {queue : List String}
    (hbefore : Relation.ReflTransGen (WakeStep formats C shutdown names) (stopped queue) (s, ps))
    (hrun : Relation.ReflTransGen (WakeStep formats (OnOffer job_id) false names)
      ({ s with queue := ScanQueue.signal s.queue }, ps) (t, qs)) :
    Signalled t qs := by
  have hdiligent : ∀ w, Diligent (ps w) := diligent_run hbefore fun _ => trivial
  have hall : ∀ d, Relation.ReflTransGen (WakeStep formats (OnOffer job_id) false names)
      ({ s with queue := ScanQueue.signal s.queue }, ps) d →
      (∀ w, Diligent (d.2 w)) ∧ Signalled d.1 d.2 := by
    intro d hd
    induction hd with
    | refl => exact ⟨hdiligent, .inl (ScanQueue.signal_mem s.queue)⟩
    | tail _ hstep ih => exact ⟨diligent_step hstep ih.1, ih.2.step ih.1 hstep⟩
  exact (hall _ hrun).2

theorem signal_not_lost_woken : Signalled
    ⟨((one_job 3).claim_due_scan_job 0 (fun _ => false) "worker" 60).2, []⟩
    (claimed_worker (only_job.claimed 0 "worker" 60)) :=
  signal_not_lost idle_run woken_run

end Every

end CoinListener.Worker
