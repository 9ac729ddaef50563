import CoinListener.Storage.ProviderHealth
import CoinListener.Worker.AttemptCount

/-! The loop over the candidates of a chain: rate limits, availability errors and health updates. What
the scan with one provider comes to is left open here. -/
namespace CoinListener.Worker.ProviderLoop
open Foundation Storage

/-! ### The three loops -/

inductive LoopStatement where
  | active_rpc_provider_candidates (chain_id : Uuid) (now : Timestamp)
  | try_acquire_provider_qps (provider_id : Uuid) (qps_limit : Int) (now : Timestamp)
  | scan_evm_address_with_provider (context : ScanAddressContext) (provider : ProviderConfig)
  | scan_tron_address_with_provider (context : ScanAddressContext) (provider : ProviderConfig)
  | scan_btc_address_with_provider (context : ScanAddressContext) (provider : ProviderConfig)
  | record (call : HealthCall)

abbrev LoopStatement.Answer : LoopStatement → Type
  | .active_rpc_provider_candidates .. => List ProviderCandidate
  | .try_acquire_provider_qps .. => Bool
  | .scan_evm_address_with_provider .. => List AddressEvent
  | .scan_tron_address_with_provider .. => List AddressEvent
  | .scan_btc_address_with_provider .. => List AddressEvent
  | .record _ => Unit

abbrev LoopProg (α : Type) := Prog LoopStatement LoopStatement.Answer AppError α

/-- The body of the loops, and what follows them. -/
def scan_candidates (chain_id : Uuid) (now : Timestamp)
    (scan : ProviderConfig → LoopProg (List AddressEvent)) :
    List ProviderCandidate → Option AppError → LoopProg (List AddressEvent)
  | [], last_provider_error =>
    Prog.fail (provider_attempts_exhausted_error chain_id last_provider_error)
  | candidate :: candidates, last_provider_error => do
    let provider := candidate.provider
    let acquired ← Prog.perform
      (.try_acquire_provider_qps provider.id provider.qps_limit now : LoopStatement)
    if !acquired then scan_candidates chain_id now scan candidates last_provider_error
    else do
      let result ← (scan provider).attempt
      match result with
      | .ok events => do
        let _ ← (Prog.perform (.record (.success provider.id now) : LoopStatement)).attempt
        return events
      | .error error =>
        if is_provider_availability_error error then do
          let _ ← (Prog.perform (.record (.failure provider.id now error) : LoopStatement)).attempt
          scan_candidates chain_id now scan candidates (some error)
        else Prog.fail error

def scan_providers (context : ScanAddressContext) (now : Timestamp)
    (scan : ProviderConfig → LoopProg (List AddressEvent)) : LoopProg (List AddressEvent) := do
  let candidates ←
    Prog.perform (.active_rpc_provider_candidates context.chain_id now : LoopStatement)
  if candidates.isEmpty then Prog.fail (provider_capacity_error context.chain_id)
  else scan_candidates context.chain_id now scan candidates none

def scan_evm_address (context : ScanAddressContext) (now : Timestamp) :
    LoopProg (List AddressEvent) :=
  scan_providers context now fun provider =>
    Prog.perform (.scan_evm_address_with_provider context provider : LoopStatement)

def scan_tron_address (context : ScanAddressContext) (now : Timestamp) :
    LoopProg (List AddressEvent) :=
  scan_providers context now fun provider =>
    Prog.perform (.scan_tron_address_with_provider context provider : LoopStatement)

def scan_btc_address (context : ScanAddressContext) (now : Timestamp) :
    LoopProg (List AddressEvent) :=
  scan_providers context now fun provider =>
    Prog.perform (.scan_btc_address_with_provider context provider : LoopStatement)

/-! ### The scans in their place -/

/-- A provider of which nothing else is known. -/
def plain_candidate (provider : Provider) : ProviderCandidate :=
  { provider := { provider with
      provider_type := "rpc", priority := 0, qps_limit := 0, status := "active" }
    health := none }

/-- The loop inside an attempt, with the scan of a provider carried out where the loop asks for
it. -/
def in_attempt {α : Type} : LoopProg α → AttemptProg α
  | .done a => .done a
  | .fail e => .fail e
  | .ask (.active_rpc_provider_candidates chain_id now) rest =>
    .ask (.active_rpc_provider_candidates chain_id now) fun r =>
      in_attempt (rest (r.map (List.map plain_candidate)))
  | .ask (.try_acquire_provider_qps provider_id _ now) rest =>
    .ask (.try_acquire_provider_qps provider_id now) fun r => in_attempt (rest r)
  | .ask (.scan_evm_address_with_provider context provider) rest =>
    (scanning (Worker.scan_evm_address_with_provider context provider.toProvider)).attempt.bind
      fun r => in_attempt (rest r)
  | .ask (.scan_tron_address_with_provider context provider) rest =>
    (scanning (Worker.scan_tron_address_with_provider context provider.toProvider)).attempt.bind
      fun r => in_attempt (rest r)
  | .ask (.scan_btc_address_with_provider context provider) rest =>
    (scanning (Worker.scan_btc_address_with_provider context provider.toProvider)).attempt.bind
      fun r => in_attempt (rest r)
  | .ask (.record (.success provider_id now)) rest =>
    .ask (.record_provider_success provider_id now) fun r => in_attempt (rest r)
  | .ask (.record (.failure provider_id now error)) rest =>
    .ask (.record_provider_failure provider_id now error) fun r => in_attempt (rest r)

section InAttempt
variable {context : ScanAddressContext} {chain_id : Uuid} {now : Timestamp}
  {scan : Provider → Scan (List AddressEvent)}
  {loop : ProviderConfig → LoopProg (List AddressEvent)}
  (hscan : ∀ provider (f : AppResult (List AddressEvent) → LoopProg (List AddressEvent)),
    in_attempt ((loop provider).attempt.bind f) =
      (scanning (scan provider.toProvider)).attempt.bind fun r => in_attempt (f r))
include hscan

theorem in_attempt_candidates (providers : List Provider) (last_provider_error : Option AppError) :
    in_attempt (scan_candidates chain_id now loop (providers.map plain_candidate)
      last_provider_error) = scan_available chain_id now scan providers last_provider_error := by
  induction providers generalizing last_provider_error with
  | nil => rfl
  | cons provider providers ih =>
    refine congrArg (Prog.ask _) (funext fun r => ?_)
    cases r with
    | error e => rfl
    | ok acquired =>
      cases acquired with
      | false => exact ih last_provider_error
      | true =>
        refine (hscan (plain_candidate provider).provider _).trans ?_
        refine congrArg (Prog.bind _) (funext fun result => ?_)
        cases result with
        | ok events =>
          refine congrArg (Prog.ask _) (funext fun r => ?_)
          cases r with
          | ok => rfl
          | error => rfl
        | error error =>
          by_cases herror : is_provider_availability_error error = true
          · simp only [herror, if_true]
            refine congrArg (Prog.ask _) (funext fun r => ?_)
            cases r with
            | ok => exact ih (some error)
            | error => exact ih (some error)
          · simp only [herror, if_false, Bool.false_eq_true]
            rfl

theorem in_attempt_providers : in_attempt (scan_providers context now loop) =
    scan_with_candidates context.chain_id now scan := by
  refine congrArg (Prog.ask _) (funext fun r => ?_)
  cases r with
  | error e => rfl
  | ok providers =>
    cases providers with
    | nil => rfl
    | cons provider providers => exact in_attempt_candidates hscan (provider :: providers) none

end InAttempt

/-- With the scans in their place the loops are those of an attempt. -/
theorem scan_evm_address_in_attempt (context : ScanAddressContext) (now : Timestamp) :
    in_attempt (scan_evm_address context now) = scan_with_candidates context.chain_id now
      (Worker.scan_evm_address_with_provider context) :=
  in_attempt_providers fun provider f => by
    refine congrArg (Prog.bind _) (funext fun r => ?_)
    cases r <;> rfl

theorem scan_tron_address_in_attempt (context : ScanAddressContext) (now : Timestamp) :
    in_attempt (scan_tron_address context now) = scan_with_candidates context.chain_id now
      (Worker.scan_tron_address_with_provider context) :=
  in_attempt_providers fun provider f => by
    refine congrArg (Prog.bind _) (funext fun r => ?_)
    cases r <;> rfl

theorem scan_btc_address_in_attempt (context : ScanAddressContext) (now : Timestamp) :
    in_attempt (scan_btc_address context now) = scan_with_candidates context.chain_id now
      (Worker.scan_btc_address_with_provider context) :=
  in_attempt_providers fun provider f => by
    refine congrArg (Prog.bind _) (funext fun r => ?_)
    cases r <;> rfl

/-! ### A round -/

/-- What a round depends on. -/
structure LoopSetting where
  granted : Uuid → Bool
  outcome : ProviderConfig → AppResult (List AddressEvent)
  recorded : HealthCall → Bool

/-- The tables, which providers were tried, and the health updates, in order. -/
structure LoopWorld where
  tables : ProviderTables
  tried : List ProviderConfig
  updates : List HealthCall

namespace LoopSetting
variable (setting : LoopSetting)

/-- The tables after a health update, which may fail. -/
def update (tables : ProviderTables) (call : HealthCall) : ProviderTables :=
  if setting.recorded call then
    match call.record tables with
    | .ok tables => tables
    | .error _ => tables
  else tables

def update_answer (tables : ProviderTables) (call : HealthCall) : AppResult Unit :=
  if setting.recorded call then (call.record tables).map fun _ => ()
  else .error (.Database "connection closed")

def tries (w : LoopWorld) (provider : ProviderConfig) : AppResult (List AddressEvent) × LoopWorld :=
  (setting.outcome provider, { w with tried := w.tried ++ [provider] })

def answer (w : LoopWorld) : (s : LoopStatement) → AppResult s.Answer × LoopWorld
  | .active_rpc_provider_candidates chain_id now =>
    (.ok (w.tables.active_rpc_provider_candidates chain_id now), w)
  | .try_acquire_provider_qps provider_id _ _ =>
    (.ok (setting.granted provider_id), w)
  | .scan_evm_address_with_provider _ provider => setting.tries w provider
  | .scan_tron_address_with_provider _ provider => setting.tries w provider
  | .scan_btc_address_with_provider _ provider => setting.tries w provider
  | .record call =>
    (setting.update_answer w.tables call,
      { w with tables := setting.update w.tables call, updates := w.updates ++ [call] })

/-! ### What a round comes to -/

/-- The provider is not available: the next one is tried. -/
def unavailable (provider : ProviderConfig) : Bool :=
  match setting.outcome provider with
  | .ok _ => false
  | .error error => is_provider_availability_error error

/-- Those that the limiter lets through. -/
def allowed (providers : List ProviderConfig) : List ProviderConfig :=
  providers.filter (setting.granted ·.id)

/-- They are tried until one is available. -/
def attempts (providers : List ProviderConfig) : List ProviderConfig :=
  (setting.allowed providers).takeWhile setting.unavailable ++
    ((setting.allowed providers).find? (!setting.unavailable ·)).toList

def error_of (provider : ProviderConfig) : Option AppError :=
  match setting.outcome provider with
  | .ok _ => none
  | .error error => some error

/-- The outcome of the first provider tried that is available, or else the last error. -/
def result (chain_id : Uuid) (last_provider_error : Option AppError)
    (providers : List ProviderConfig) : AppResult (List AddressEvent) :=
  match (setting.allowed providers).find? (!setting.unavailable ·) with
  | some provider => setting.outcome provider
  | none => .error (provider_attempts_exhausted_error chain_id
      (((setting.allowed providers).getLast?.bind setting.error_of).or last_provider_error))

/-- One for a success or an availability error, none for another error. -/
def health_update (now : Timestamp) (provider : ProviderConfig) : Option HealthCall :=
  match setting.outcome provider with
  | .ok _ => some (.success provider.id now)
  | .error error =>
    if is_provider_availability_error error then some (.failure provider.id now error) else none

/-- The world after a round over these providers. -/
def after (now : Timestamp) (w : LoopWorld) (providers : List ProviderConfig) : LoopWorld :=
  let updates := (setting.attempts providers).filterMap (setting.health_update now)
  { tables := updates.foldl setting.update w.tables
    tried := w.tried ++ setting.attempts providers
    updates := w.updates ++ updates }

section Cons
variable {setting : LoopSetting} {chain_id : Uuid} {last : Option AppError}
  {provider : ProviderConfig} {providers : List ProviderConfig} {events : List AddressEvent}
  {error : AppError}

theorem attempts_denied (h : setting.granted provider.id = false) :
    setting.attempts (provider :: providers) = setting.attempts providers := by
  simp [attempts, allowed, h]

theorem result_denied (h : setting.granted provider.id = false) :
    setting.result chain_id last (provider :: providers) =
      setting.result chain_id last providers := by
  simp [result, allowed, h]

theorem attempts_available (h : setting.granted provider.id = true)
    (havailable : setting.unavailable provider = false) :
    setting.attempts (provider :: providers) = [provider] := by
  simp [attempts, allowed, h, havailable]

theorem result_available (h : setting.granted provider.id = true)
    (havailable : setting.unavailable provider = false) :
    setting.result chain_id last (provider :: providers) = setting.outcome provider := by
  simp [result, allowed, h, havailable]

theorem attempts_unavailable (h : setting.granted provider.id = true)
    (hunavailable : setting.unavailable provider = true) :
    setting.attempts (provider :: providers) = provider :: setting.attempts providers := by
  simp [attempts, allowed, h, hunavailable]

theorem error_of_unavailable (h : setting.unavailable provider = true) :
    ∃ error, setting.error_of provider = some error := by
  unfold unavailable at h
  unfold error_of
  split at h
  · exact nomatch h
  · exact ⟨_, rfl⟩

theorem result_unavailable (h : setting.granted provider.id = true)
    (houtcome : setting.outcome provider = .error error)
    (hunavailable : setting.unavailable provider = true) :
    setting.result chain_id last (provider :: providers) =
      setting.result chain_id (some error) providers := by
  have hallowed : setting.allowed (provider :: providers) = provider :: setting.allowed providers :=
    List.filter_cons_of_pos h
  unfold result
  rw [hallowed, List.find?_cons_of_neg (by simp [hunavailable])]
  cases hfound : (setting.allowed providers).find? (!setting.unavailable ·) with
  | some found => rfl
  | none =>
    have hall : ∀ p ∈ setting.allowed providers, setting.unavailable p = true := by
      simpa using hfound
    have herror : setting.error_of provider = some error := by
      unfold error_of
      rw [houtcome]
    -- With others after it, the last one has an error of its own.
    cases hlast : (setting.allowed providers).getLast? with
    | none =>
      have hnone : setting.allowed providers = [] := List.getLast?_eq_none_iff.mp hlast
      simp [hnone, herror]
    | some p =>
      obtain ⟨e, he⟩ := error_of_unavailable (hall p (List.mem_of_getLast? hlast))
      simp [List.getLast?_cons, hlast, he]

end Cons

end LoopSetting

section Round
open LoopSetting
variable {setting : LoopSetting} {chain_id : Uuid} {now : Timestamp}
  {loop : ProviderConfig → LoopProg (List AddressEvent)}
  (hloop : ∀ w provider, Prog.eval setting.answer (loop provider).attempt w =
    (.ok (setting.outcome provider), (setting.tries w provider).2))
include hloop

/-- The loop from any point on. -/
theorem eval_candidates (candidates : List ProviderCandidate) (last : Option AppError)
    (w : LoopWorld) :
    Prog.eval setting.answer (scan_candidates chain_id now loop candidates last) w =
      (setting.result chain_id last (candidates.map (·.provider)),
        setting.after now w (candidates.map (·.provider))) := by
  induction candidates generalizing last w with
  | nil => simp [scan_candidates, LoopSetting.result, after, attempts, allowed]
  | cons candidate candidates ih =>
    rw [List.map_cons]
    cases hgranted : setting.granted candidate.provider.id with
    | false =>
      have hstep : Prog.eval setting.answer
          (scan_candidates chain_id now loop (candidate :: candidates) last) w =
          Prog.eval setting.answer (scan_candidates chain_id now loop candidates last) w := by
        simp [scan_candidates, Prog.perform, LoopSetting.answer, hgranted]
      rw [hstep, ih, result_denied hgranted]
      unfold after
      rw [attempts_denied hgranted]
    | true =>
      have htried := hloop w candidate.provider
      cases houtcome : setting.outcome candidate.provider with
      | ok events =>
        have havailable : setting.unavailable candidate.provider = false := by
          simp [unavailable, houtcome]
        have hupdate : setting.health_update now candidate.provider =
            some (.success candidate.provider.id now) := by
          simp [health_update, houtcome]
        rw [houtcome] at htried
        rw [result_available hgranted havailable, houtcome]
        unfold after
        rw [attempts_available hgranted havailable]
        simp [scan_candidates, Prog.perform, LoopSetting.answer, hgranted, Prog.eval_bind_ok _ htried,
          Prog.attempt, Prog.lift_attempt_bind, tries, hupdate]
      | error error =>
        rw [houtcome] at htried
        by_cases herror : is_provider_availability_error error = true
        · have hunavailable : setting.unavailable candidate.provider = true := by
            simp [unavailable, houtcome, herror]
          have hupdate : setting.health_update now candidate.provider =
              some (.failure candidate.provider.id now error) := by
            simp [health_update, houtcome, herror]
          rw [result_unavailable hgranted houtcome hunavailable]
          unfold after
          rw [attempts_unavailable hgranted hunavailable]
          simp [scan_candidates, Prog.perform, LoopSetting.answer, hgranted,
            Prog.eval_bind_ok _ htried, Prog.attempt, Prog.lift_attempt_bind, tries, hupdate, herror,
            ih, after]
        · have havailable : setting.unavailable candidate.provider = false := by
            simp [unavailable, houtcome, herror]
          have hupdate : setting.health_update now candidate.provider = none := by
            simp [health_update, houtcome, herror]
          rw [result_available hgranted havailable, houtcome]
          unfold after
          rw [attempts_available hgranted havailable]
          simp [scan_candidates, Prog.perform, LoopSetting.answer, hgranted,
            Prog.eval_bind_ok _ htried, tries, hupdate, herror]

/-- The whole round. Without any candidate there is no round. -/
theorem eval_providers (context : ScanAddressContext) (w : LoopWorld) :
    Prog.eval setting.answer (scan_providers context now loop) w =
      (setting.result context.chain_id none
          ((w.tables.active_rpc_provider_candidates context.chain_id now).map (·.provider)),
        setting.after now w
          ((w.tables.active_rpc_provider_candidates context.chain_id now).map (·.provider))) := by
  have hstep : Prog.eval setting.answer (scan_providers context now loop) w =
      Prog.eval setting.answer
        (if (w.tables.active_rpc_provider_candidates context.chain_id now).isEmpty then
          Prog.fail (provider_capacity_error context.chain_id)
        else scan_candidates context.chain_id now loop
          (w.tables.active_rpc_provider_candidates context.chain_id now) none) w := rfl
  rw [hstep, ← eval_candidates hloop]
  cases w.tables.active_rpc_provider_candidates context.chain_id now with
  | nil => rfl
  | cons candidate candidates => rfl

end Round

/-! ### The candidates -/

namespace LoopSetting
variable {setting : LoopSetting} {providers : List ProviderConfig}

/-- Only those that the limiter lets through are tried. -/
theorem attempts_allowed : (setting.attempts providers).Sublist (setting.allowed providers) := by
  unfold attempts
  generalize setting.allowed providers = allowed
  induction allowed with
  | nil => exact List.Sublist.refl []
  | cons provider allowed ih =>
    cases hunavailable : setting.unavailable provider with
    | true => simpa [hunavailable] using ih
    | false => simp [hunavailable]

/-- Nobody is tried twice, and the order is kept. -/
theorem attempts_sublist : (setting.attempts providers).Sublist providers :=
  attempts_allowed.trans List.filter_sublist

end LoopSetting

section Order
variable {t : ProviderTables} {chain_id : Uuid} {now : Timestamp} {a b c : ProviderConfig}

/-- The candidates, in the order in which they are tried. -/
abbrev candidates (t : ProviderTables) (chain_id : Uuid) (now : Timestamp) : List ProviderConfig :=
  (t.active_rpc_provider_candidates chain_id now).map (·.provider)

theorem before_iff : ProviderTables.candidate_before a b = true ↔
    a.priority < b.priority ∨ (a.priority = b.priority ∧ a.name ≤ b.name) := by
  simp [ProviderTables.candidate_before]

theorem before_total (a b : ProviderConfig) :
    ProviderTables.candidate_before a b = true ∨ ProviderTables.candidate_before b a = true := by
  simp only [before_iff]
  obtain hlt | heq | hlt := lt_trichotomy a.priority b.priority
  · exact .inl (.inl hlt)
  · obtain hname | hname := String.le_total a.name b.name
    · exact .inl (.inr ⟨heq, hname⟩)
    · exact .inr (.inr ⟨heq.symm, hname⟩)
  · exact .inr (.inl hlt)

theorem before_trans (hab : ProviderTables.candidate_before a b = true)
    (hbc : ProviderTables.candidate_before b c = true) :
    ProviderTables.candidate_before a c = true := by
  simp only [before_iff] at *
  obtain hab | ⟨hab, hname⟩ := hab
  · obtain hbc | ⟨hbc, -⟩ := hbc
    · exact .inl (hab.trans hbc)
    · exact .inl (hbc ▸ hab)
  · obtain hbc | ⟨hbc, hname'⟩ := hbc
    · exact .inl (hab ▸ hbc)
    · exact .inr ⟨hab.trans hbc, String.le_trans hname hname'⟩

/-- `ORDER BY priority ASC, name ASC`. -/
theorem candidates_sorted : (candidates t chain_id now).Pairwise fun a b =>
    a.priority < b.priority ∨ (a.priority = b.priority ∧ a.name ≤ b.name) := by
  have : Std.Total (ProviderTables.candidate_before · · = true) := ⟨before_total⟩
  have : IsTrans ProviderConfig (ProviderTables.candidate_before · · = true) :=
    ⟨fun _ _ _ => before_trans⟩
  have hsorted := List.pairwise_insertionSort (ProviderTables.candidate_before · · = true)
    (t.providers.filter fun provider =>
      ProviderTables.usable chain_id provider && t.enabled_at now provider.id)
  exact List.pairwise_map.mpr (List.pairwise_map.mpr (hsorted.imp fun h => before_iff.mp h))

/-- Every candidate is another provider. -/
theorem candidates_nodup : ((candidates t chain_id now).map (·.id)).Nodup := by
  have hids : ((t.providers.filter fun provider =>
      ProviderTables.usable chain_id provider && t.enabled_at now provider.id).map (·.id)).Nodup :=
    t.provider_ids.sublist (List.filter_sublist.map _)
  have hperm := (List.perm_insertionSort (ProviderTables.candidate_before · · = true)
    (t.providers.filter fun provider =>
      ProviderTables.usable chain_id provider && t.enabled_at now provider.id)).map (·.id)
  have hsorted := hperm.nodup_iff.mpr hids
  simpa [candidates, ProviderTables.active_rpc_provider_candidates, Function.comp_def] using hsorted

end Order

/-! ### The three loops are one -/

section Loops
open LoopSetting
variable (setting : LoopSetting) (context : ScanAddressContext) (now : Timestamp) (w : LoopWorld)

/-- What a round over the candidates of the chain comes to. -/
def LoopSetting.round : AppResult (List AddressEvent) × LoopWorld :=
  (setting.result context.chain_id none (candidates w.tables context.chain_id now),
    setting.after now w (candidates w.tables context.chain_id now))

theorem scan_evm_address_round :
    Prog.eval setting.answer (scan_evm_address context now) w = setting.round context now w := by
  refine eval_providers (fun w provider => ?_) context w
  cases h : setting.outcome provider <;>
    simp [Prog.perform, Prog.attempt, Prog.lift, LoopSetting.answer, tries, h]

theorem scan_tron_address_round :
    Prog.eval setting.answer (scan_tron_address context now) w = setting.round context now w := by
  refine eval_providers (fun w provider => ?_) context w
  cases h : setting.outcome provider <;>
    simp [Prog.perform, Prog.attempt, Prog.lift, LoopSetting.answer, tries, h]

theorem scan_btc_address_round :
    Prog.eval setting.answer (scan_btc_address context now) w = setting.round context now w := by
  refine eval_providers (fun w provider => ?_) context w
  cases h : setting.outcome provider <;>
    simp [Prog.perform, Prog.attempt, Prog.lift, LoopSetting.answer, tries, h]

/-- Whatever the limiter grants and each scan comes to, the three loops try the same providers, once
each and in order, with the same result and the same health updates. -/
theorem scan_address_rounds :
    (∀ program ∈ [scan_evm_address context now, scan_tron_address context now,
        scan_btc_address context now],
      Prog.eval setting.answer program w =
        (setting.result context.chain_id none (candidates w.tables context.chain_id now),
          setting.after now w (candidates w.tables context.chain_id now))) ∧
    (candidates w.tables context.chain_id now).Pairwise (fun a b =>
      a.priority < b.priority ∨ (a.priority = b.priority ∧ a.name ≤ b.name)) ∧
    ((candidates w.tables context.chain_id now).map (·.id)).Nodup ∧
    (setting.attempts (candidates w.tables context.chain_id now)).Sublist
      (candidates w.tables context.chain_id now) ∧
    (∀ provider ∈ setting.attempts (candidates w.tables context.chain_id now),
      setting.granted provider.id = true) := by
  refine ⟨?_, candidates_sorted, candidates_nodup, attempts_sublist, ?_⟩
  · intro program hprogram
    simp only [List.mem_cons, List.not_mem_nil, or_false] at hprogram
    rcases hprogram with rfl | rfl | rfl
    · exact scan_evm_address_round setting context now w
    · exact scan_tron_address_round setting context now w
    · exact scan_btc_address_round setting context now w
  · intro provider hprovider
    exact (List.mem_filter.mp (attempts_allowed.subset hprovider)).2

end Loops

end CoinListener.Worker.ProviderLoop
