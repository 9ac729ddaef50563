import CoinListener.Core.Models
import CoinListener.Foundation.Replace
import CoinListener.Foundation.Table
import Mathlib.Data.List.Sort

/-! The health of providers: failures in a row, and the cooldown of a provider that keeps failing.

Calls are given in the order in which their statements are carried out. The time in a call is the one
at which its scan has started. -/
namespace CoinListener.Storage
open Foundation

def PROVIDER_CIRCUIT_FAILURE_THRESHOLD : Int := 3
def PROVIDER_CIRCUIT_COOLDOWN_SECONDS : Int := 300
def PROVIDER_LAST_ERROR_MAX_CHARS : Nat := 500

/-! ### Tables -/

/-- A provider as it is configured. -/
structure ProviderConfig extends Provider where
  provider_type : String
  priority : Int
  qps_limit : Int
  status : String
deriving DecidableEq

structure ProviderHealthRow where
  provider_id : Uuid
  consecutive_failures : Int
  last_success_at : Option Timestamp
  last_failure_at : Option Timestamp
  disabled_until : Option Timestamp
  last_error : Option String
deriving DecidableEq

structure ProviderTables where
  providers : List ProviderConfig
  provider_health : List ProviderHealthRow
  provider_ids : (providers.map (·.id)).Nodup
  health_ids : (provider_health.map (·.provider_id)).Nodup

structure ProviderCandidate where
  provider : ProviderConfig
  health : Option ProviderHealthRow
deriving DecidableEq

/-! ### Error texts -/

/-- The value after each marker is left out, up to a separator; `rounds` bounds the markers. -/
def redact_from (marker : List Char) : Nat → List Char → List Char
  | 0, remaining => remaining
  | rounds + 1, remaining =>
    match Text.find marker remaining with
    | none => remaining
    | some index =>
      let after_marker := remaining.drop (index + marker.length)
      let next_separator := ((after_marker.findIdx? (· == '&')).or
        (after_marker.findIdx? (· == ' '))).getD after_marker.length
      remaining.take (index + marker.length) ++
        redact_from marker rounds (after_marker.drop next_separator)

def redact_query_value (input marker : String) : String :=
  String.ofList (redact_from marker.toList input.toList.length input.toList)

def sanitize_provider_error (error : String) : String :=
  let sanitized := Text.replace "token=" "token=<redacted>" error
  let sanitized := Text.replace "api_key=" "api_key=<redacted>" sanitized
  let sanitized := Text.replace "key=" "key=<redacted>" sanitized
  let sanitized := redact_query_value sanitized "token=<redacted>"
  let sanitized := redact_query_value sanitized "api_key=<redacted>"
  let sanitized := redact_query_value sanitized "key=<redacted>"
  String.ofList (sanitized.toList.take PROVIDER_LAST_ERROR_MAX_CHARS)

/-! ### Statements -/

/-- What a success makes of the row of its provider. -/
def health_after_success (provider_id : Uuid) (now : Timestamp) :
    Option ProviderHealthRow → ProviderHealthRow
  | none =>
    { provider_id := provider_id
      consecutive_failures := 0
      last_success_at := some now
      last_failure_at := none
      disabled_until := none
      last_error := none }
  | some row =>
    { row with
      consecutive_failures := 0
      last_success_at := some now
      disabled_until := none
      last_error := none }

/-- What a failure makes of it. The first failure inserts the row. -/
def health_after_failure (provider_id : Uuid) (now : Timestamp) (last_error : String) :
    Option ProviderHealthRow → ProviderHealthRow
  | none =>
    { provider_id := provider_id
      consecutive_failures := 1
      last_success_at := none
      last_failure_at := some now
      disabled_until := none
      last_error := some last_error }
  | some row =>
    { row with
      consecutive_failures := row.consecutive_failures + 1
      last_failure_at := some now
      disabled_until :=
        if PROVIDER_CIRCUIT_FAILURE_THRESHOLD ≤ row.consecutive_failures + 1 then
          some (now + PROVIDER_CIRCUIT_COOLDOWN_SECONDS)
        else row.disabled_until
      last_error := some last_error }

namespace ProviderTables
variable (t : ProviderTables)

def health (provider_id : Uuid) : Option ProviderHealthRow :=
  Table.find (·.provider_id) provider_id t.provider_health

def put_health (row : ProviderHealthRow) : ProviderTables :=
  { t with
    provider_health := Table.put (·.provider_id) row t.provider_health
    health_ids := Table.put_nodup t.health_ids }

/-- `RECORD_PROVIDER_SUCCESS_QUERY`. -/
def record_provider_success (provider_id : Uuid) (now : Timestamp) : AppResult ProviderTables :=
  .ok (t.put_health (health_after_success provider_id now (t.health provider_id)))

/-- `RECORD_PROVIDER_FAILURE_QUERY`. The count is a 32-bit integer. -/
def record_provider_failure (provider_id : Uuid) (now : Timestamp) (error : AppError) :
    AppResult ProviderTables :=
  let row := health_after_failure provider_id now (sanitize_provider_error error.to_string)
    (t.health provider_id)
  if row.consecutive_failures ≤ 2147483647 then .ok (t.put_health row)
  else .error (.Database "integer out of range")

/-- The circuit of a provider is closed at that time. -/
def enabled_at (now : Timestamp) (provider_id : Uuid) : Bool :=
  ((t.health provider_id).bind (·.disabled_until)).all (· ≤ now)

def candidate_before (a b : ProviderConfig) : Bool :=
  a.priority < b.priority || (a.priority == b.priority && a.name ≤ b.name)

/-- An active RPC provider of the chain. -/
def usable (chain_id : Uuid) (provider : ProviderConfig) : Bool :=
  provider.chain_id == chain_id && provider.provider_type == "rpc" && provider.status == "active"

/-- `ACTIVE_RPC_PROVIDER_CANDIDATES_QUERY`. -/
def active_rpc_provider_candidates (chain_id : Uuid) (now : Timestamp) : List ProviderCandidate :=
  ((t.providers.filter fun provider =>
      usable chain_id provider && t.enabled_at now provider.id).insertionSort
    (candidate_before · · = true)).map fun provider => ⟨provider, t.health provider.id⟩

end ProviderTables

/-! ### Histories -/

inductive HealthCall where
  | success (provider_id : Uuid) (now : Timestamp)
  | failure (provider_id : Uuid) (now : Timestamp) (error : AppError)
deriving DecidableEq

def HealthCall.record (t : ProviderTables) : HealthCall → AppResult ProviderTables
  | .success provider_id now => t.record_provider_success provider_id now
  | .failure provider_id now error => t.record_provider_failure provider_id now error

/-- The tables after these calls. A call that fails changes nothing, and is not among them. -/
def record_all (calls : List HealthCall) (t : ProviderTables) : AppResult ProviderTables :=
  calls.foldlM HealthCall.record t

/-- What a call adds to the failures of the provider. -/
def HealthCall.failures (provider_id : Uuid) (before : List Timestamp) : HealthCall → List Timestamp
  | .success id _ => if id = provider_id then [] else before
  | .failure id now _ => if id = provider_id then before ++ [now] else before

/-- The times in the failures of the provider since its last success, in the order in which they were
recorded. -/
def failures_since_success (provider_id : Uuid) (calls : List HealthCall) : List Timestamp :=
  calls.foldl (HealthCall.failures provider_id) []

/-- The end of the cooldown after these failures. -/
def cooldown_end (failures : List Timestamp) : Option Timestamp :=
  if PROVIDER_CIRCUIT_FAILURE_THRESHOLD ≤ failures.length then
    failures.getLast?.map (· + PROVIDER_CIRCUIT_COOLDOWN_SECONDS)
  else none

namespace ProviderTables

def consecutive_failures (t : ProviderTables) (provider_id : Uuid) : Int :=
  ((t.health provider_id).map (·.consecutive_failures)).getD 0

def disabled_until (t : ProviderTables) (provider_id : Uuid) : Option Timestamp :=
  (t.health provider_id).bind (·.disabled_until)

/-- The row of the provider agrees with its failures since the last success. -/
structure Counts (t : ProviderTables) (provider_id : Uuid) (failures : List Timestamp) : Prop where
  consecutive_failures : t.consecutive_failures provider_id = failures.length
  disabled_until : t.disabled_until provider_id = cooldown_end failures

variable {t u : ProviderTables} {provider_id : Uuid} {failures : List Timestamp}

theorem health_put_self (row : ProviderHealthRow) :
    (t.put_health row).health row.provider_id = some row :=
  Table.find_put_self row t.provider_health

theorem health_put_of_ne {row : ProviderHealthRow} (h : provider_id ≠ row.provider_id) :
    (t.put_health row).health provider_id = t.health provider_id :=
  Table.find_put_of_ne h

theorem health_provider {row : ProviderHealthRow} (h : t.health provider_id = some row) :
    row.provider_id = provider_id :=
  Table.find_key h

theorem success_provider (now : Timestamp) :
    (health_after_success provider_id now (t.health provider_id)).provider_id = provider_id := by
  cases h : t.health provider_id with
  | none => rfl
  | some row =>
    have hrow : row.provider_id = provider_id := health_provider h
    exact hrow

theorem failure_provider (now : Timestamp) (last_error : String) :
    (health_after_failure provider_id now last_error (t.health provider_id)).provider_id =
      provider_id := by
  cases h : t.health provider_id with
  | none => rfl
  | some row =>
    have hrow : row.provider_id = provider_id := health_provider h
    exact hrow

theorem Counts.of_health (h : t.Counts provider_id failures)
    (hsame : u.health provider_id = t.health provider_id) : u.Counts provider_id failures := by
  obtain ⟨hcount, huntil⟩ := h
  unfold ProviderTables.consecutive_failures at hcount
  unfold ProviderTables.disabled_until at huntil
  refine ⟨?_, ?_⟩
  · unfold ProviderTables.consecutive_failures
    rw [hsame, hcount]
  · unfold ProviderTables.disabled_until
    rw [hsame, huntil]

theorem Counts.success (now : Timestamp) :
    (t.put_health (health_after_success provider_id now (t.health provider_id))).Counts
      provider_id [] := by
  have hrow : (t.put_health (health_after_success provider_id now (t.health provider_id))).health
      provider_id = some (health_after_success provider_id now (t.health provider_id)) := by
    have hput := health_put_self (t := t)
      (health_after_success provider_id now (t.health provider_id))
    rwa [success_provider] at hput
  constructor
  · unfold ProviderTables.consecutive_failures
    rw [hrow]
    cases t.health provider_id <;> rfl
  · unfold ProviderTables.disabled_until
    rw [hrow]
    cases t.health provider_id <;> rfl

theorem cooldown_end_append (now : Timestamp) :
    cooldown_end (failures ++ [now]) =
      if PROVIDER_CIRCUIT_FAILURE_THRESHOLD ≤ (failures.length : Int) + 1 then
        some (now + PROVIDER_CIRCUIT_COOLDOWN_SECONDS)
      else none := by
  simp [cooldown_end]

/-- Below the threshold there is no cooldown to keep. -/
theorem cooldown_end_of_lt (h : ¬ PROVIDER_CIRCUIT_FAILURE_THRESHOLD ≤ (failures.length : Int) + 1) :
    cooldown_end failures = none := by
  refine if_neg fun hlong => h ?_
  unfold PROVIDER_CIRCUIT_FAILURE_THRESHOLD at hlong ⊢
  omega

theorem Counts.failure (h : t.Counts provider_id failures) (now : Timestamp) (last_error : String) :
    (t.put_health (health_after_failure provider_id now last_error (t.health provider_id))).Counts
      provider_id (failures ++ [now]) := by
  have hrow : (t.put_health (health_after_failure provider_id now last_error
      (t.health provider_id))).health provider_id =
      some (health_after_failure provider_id now last_error (t.health provider_id)) := by
    have hput := health_put_self (t := t)
      (health_after_failure provider_id now last_error (t.health provider_id))
    rwa [failure_provider] at hput
  obtain ⟨hcount, huntil⟩ := h
  unfold ProviderTables.consecutive_failures at hcount
  unfold ProviderTables.disabled_until at huntil
  constructor
  · unfold ProviderTables.consecutive_failures
    rw [hrow, List.length_append]
    cases hold : t.health provider_id with
    | none =>
      rw [hold] at hcount
      change (0 : Int) = failures.length at hcount
      change (1 : Int) = ((failures.length + 1 : Nat) : Int)
      omega
    | some row =>
      rw [hold] at hcount
      change row.consecutive_failures = failures.length at hcount
      change row.consecutive_failures + 1 = ((failures.length + 1 : Nat) : Int)
      omega
  · unfold ProviderTables.disabled_until
    rw [hrow, cooldown_end_append]
    cases hold : t.health provider_id with
    | none =>
      rw [hold] at hcount
      change (0 : Int) = failures.length at hcount
      rw [← hcount]
      rfl
    | some row =>
      rw [hold] at hcount huntil
      change row.consecutive_failures = failures.length at hcount
      change row.disabled_until = cooldown_end failures at huntil
      rw [← hcount]
      by_cases hlong : PROVIDER_CIRCUIT_FAILURE_THRESHOLD ≤ row.consecutive_failures + 1
      · rw [if_pos hlong]
        exact if_pos hlong
      · rw [if_neg hlong]
        refine (if_neg hlong).trans (huntil.trans (cooldown_end_of_lt ?_))
        rwa [← hcount]

theorem Counts.record {call : HealthCall} (h : t.Counts provider_id failures)
    (hcall : call.record t = .ok u) : u.Counts provider_id (call.failures provider_id failures) := by
  cases call with
  | success id now =>
    cases hcall
    by_cases hid : id = provider_id
    · subst id
      rw [HealthCall.failures, if_pos rfl]
      exact .success now
    · rw [HealthCall.failures, if_neg hid]
      refine h.of_health (health_put_of_ne ?_)
      rw [success_provider]
      exact fun heq => hid heq.symm
  | failure id now error =>
    simp only [HealthCall.record, record_provider_failure] at hcall
    split at hcall
    · cases hcall
      by_cases hid : id = provider_id
      · subst id
        rw [HealthCall.failures, if_pos rfl]
        exact h.failure now _
      · rw [HealthCall.failures, if_neg hid]
        refine h.of_health (health_put_of_ne ?_)
        rw [failure_provider]
        exact fun heq => hid heq.symm
    · exact nomatch hcall

theorem Counts.record_all {calls : List HealthCall} (h : t.Counts provider_id failures)
    (hcalls : record_all calls t = .ok u) :
    u.Counts provider_id (calls.foldl (HealthCall.failures provider_id) failures) := by
  induction calls generalizing t failures with
  | nil =>
    cases hcalls
    exact h
  | cons call calls ih =>
    obtain ⟨v, hfirst, hrest⟩ := bind_ok hcalls
    exact ih (h.record hfirst) hrest

/-- What the calls do not touch. -/
theorem providers_record_all {calls : List HealthCall} (hcalls : Storage.record_all calls t = .ok u) :
    u.providers = t.providers := by
  induction calls generalizing t with
  | nil =>
    cases hcalls
    rfl
  | cons call calls ih =>
    obtain ⟨v, hfirst, hrest⟩ := bind_ok hcalls
    refine (ih hrest).trans ?_
    cases call with
    | success id now =>
      cases hfirst
      rfl
    | failure id now error =>
      simp only [HealthCall.record, record_provider_failure] at hfirst
      split at hfirst
      · cases hfirst
        rfl
      · exact nomatch hfirst

theorem mem_candidates {chain_id : Uuid} {now : Timestamp} {candidate : ProviderCandidate} :
    candidate ∈ t.active_rpc_provider_candidates chain_id now ↔
      candidate.provider ∈ t.providers ∧ usable chain_id candidate.provider = true ∧
        t.enabled_at now candidate.provider.id = true ∧
        candidate.health = t.health candidate.provider.id := by
  unfold active_rpc_provider_candidates
  rw [List.mem_map]
  constructor
  · rintro ⟨provider, hmem, rfl⟩
    rw [List.mem_insertionSort, List.mem_filter, Bool.and_eq_true] at hmem
    exact ⟨hmem.1, hmem.2.1, hmem.2.2, rfl⟩
  · rintro ⟨hmem, husable, henabled, hhealth⟩
    refine ⟨candidate.provider, ?_, by rw [← hhealth]⟩
    rw [List.mem_insertionSort, List.mem_filter, Bool.and_eq_true]
    exact ⟨hmem, husable, henabled⟩

theorem enabled_at_iff {now : Timestamp} :
    t.enabled_at now provider_id = true ↔ ∀ until_ ∈ t.disabled_until provider_id, until_ ≤ now := by
  unfold enabled_at disabled_until
  cases (t.health provider_id).bind (·.disabled_until) with
  | none => simp
  | some until_ => simp

end ProviderTables

/-! ### The cooldown -/

/-- After any calls on an empty table: the count is that of the failures since the last success, and
an active RPC provider is a candidate unless there are three of them and the one recorded last is less
than the cooldown ago. A failure that is not older than the one recorded last never shortens the
cooldown. -/
theorem cooldown_of_last_failure {t u : ProviderTables} {calls : List HealthCall}
    (hstart : t.provider_health = []) (hcalls : record_all calls t = .ok u) (provider_id : Uuid) :
    u.consecutive_failures provider_id = (failures_since_success provider_id calls).length ∧
      (∀ provider ∈ u.providers, provider.id = provider_id → ∀ chain_id now,
        ProviderTables.usable chain_id provider = true →
          ((∃ candidate ∈ u.active_rpc_provider_candidates chain_id now,
              candidate.provider = provider) ↔
            ¬ (3 ≤ (failures_since_success provider_id calls).length ∧
              ∃ failed_at ∈ (failures_since_success provider_id calls).getLast?,
                now < failed_at + 300))) ∧
      ∀ now error v, HealthCall.record u (.failure provider_id now error) = .ok v →
        (∀ failed_at ∈ (failures_since_success provider_id calls).getLast?, failed_at ≤ now) →
          ∀ earlier ∈ u.disabled_until provider_id,
            ∃ later ∈ v.disabled_until provider_id, earlier ≤ later := by
  have hnone : t.health provider_id = none := by
    unfold ProviderTables.health
    rw [hstart]
    rfl
  have hempty : t.Counts provider_id [] := by
    constructor
    · unfold ProviderTables.consecutive_failures
      rw [hnone]
      rfl
    · unfold ProviderTables.disabled_until
      rw [hnone]
      rfl
  have hcounts : u.Counts provider_id (failures_since_success provider_id calls) :=
    hempty.record_all hcalls
  generalize failures_since_success provider_id calls = failures at hcounts ⊢
  refine ⟨hcounts.consecutive_failures, ?_, ?_⟩
  · rintro provider hprovider rfl chain_id now husable
    have hcandidate : (∃ candidate ∈ u.active_rpc_provider_candidates chain_id now,
        candidate.provider = provider) ↔ u.enabled_at now provider.id = true := by
      constructor
      · rintro ⟨candidate, hmem, rfl⟩
        exact (ProviderTables.mem_candidates.mp hmem).2.2.1
      · intro henabled
        exact ⟨⟨provider, u.health provider.id⟩,
          ProviderTables.mem_candidates.mpr ⟨hprovider, husable, henabled, rfl⟩, rfl⟩
    rw [hcandidate, ProviderTables.enabled_at_iff, hcounts.disabled_until]
    unfold cooldown_end PROVIDER_CIRCUIT_FAILURE_THRESHOLD PROVIDER_CIRCUIT_COOLDOWN_SECONDS
    by_cases hlong : 3 ≤ failures.length
    · have hint : (3 : Int) ≤ failures.length := by omega
      rw [if_pos hint]
      cases failures.getLast? with
      | none => simp
      | some failed_at => simp [hlong]
    · have hint : ¬ (3 : Int) ≤ failures.length := by omega
      rw [if_neg hint]
      simp [hlong]
  · intro now error v hrecord hlast earlier hearlier
    have hnext := hcounts.record hrecord
    rw [hcounts.disabled_until] at hearlier
    rw [hnext.disabled_until, HealthCall.failures, if_pos rfl, ProviderTables.cooldown_end_append]
    unfold cooldown_end at hearlier
    split at hearlier
    · rename_i hlong
      have hlonger : PROVIDER_CIRCUIT_FAILURE_THRESHOLD ≤ (failures.length : Int) + 1 := by omega
      rw [if_pos hlonger]
      obtain ⟨failed_at, hfailed, rfl⟩ := Option.map_eq_some_iff.mp hearlier
      exact ⟨_, rfl, Int.add_le_add_right (hlast failed_at hfailed) _⟩
    · exact nomatch hearlier

/-- Two scans of the same provider, the slower of which has started first. -/
def failing_provider : ProviderTables :=
  { providers := [{ id := 1, chain_id := 2, name := "rpc", base_url := "", timeout_ms := 1000,
                    provider_type := "rpc", priority := 0, qps_limit := 1, status := "active" }]
    provider_health := []
    provider_ids := List.nodup_singleton _
    health_ids := List.nodup_nil }

def failure_at (now : Timestamp) : HealthCall :=
  .failure 1 now .Unauthorized

theorem cooldown_of_last_failure_three :
    ∃ u, record_all [failure_at 1000, failure_at 1000, failure_at 1000] failing_provider = .ok u ∧
      u.consecutive_failures 1 = 3 := by
  have hcalls : record_all [failure_at 1000, failure_at 1000, failure_at 1000] failing_provider =
      .ok _ := rfl
  exact ⟨_, hcalls, (cooldown_of_last_failure rfl hcalls 1).1⟩

/-- A fourth failure, of a scan that has started at `0`, ends the cooldown of the others. -/
theorem cooldown_shortened :
    ∃ u v, record_all [failure_at 1000, failure_at 1000, failure_at 1000] failing_provider = .ok u ∧
      HealthCall.record u (failure_at 0) = .ok v ∧ v.consecutive_failures 1 = 4 ∧
      u.active_rpc_provider_candidates 2 1001 = [] ∧
      (v.active_rpc_provider_candidates 2 1001).map (·.provider.id) = [1] := by
  refine ⟨_, _, rfl, rfl, ?_, ?_, ?_⟩
  · decide +kernel
  · decide +kernel
  · decide +kernel

end CoinListener.Storage
