import CoinListener.Frontend.RealtimeConnection

/-! What holds of a page's realtime connection in every run. -/
namespace CoinListener.Frontend
open Foundation

@[simp] theorem SocketState.live_close (socket : SocketState) : socket.close.live = socket.live := by
  cases socket <;> rfl

theorem countP_modify_close (sockets : List SocketState) (i : Nat) :
    (sockets.modify i SocketState.close).countP SocketState.live =
      sockets.countP SocketState.live := by
  induction sockets generalizing i with
  | nil => simp
  | cons socket sockets ih =>
    cases i with
    | zero => simp [List.countP_cons]
    | succ i => simp [List.countP_cons, ih]

namespace Realtime

/-- At most one thing is under way. A live socket is the current one and a pending timer the current
one, until the page stops the connection; then no timer is pending and every socket is on its way to
be closed. -/
structure Single (s : Realtime) : Prop where
  one : s.busy ≤ 1
  current : ∀ (i : Nat) socket, s.sockets[i]? = some socket → socket.live = true →
    s.stopped = true ∨ s.socket = some i
  timer : ∀ timer ∈ s.timers, s.reconnectTimer = some timer
  silent : s.stopped = true → s.timers = [] ∧ ∀ socket ∈ s.sockets, socket = .closing ∨ socket = .closed

variable {options : RealtimeOptions} {s t : Realtime} {i : Nat} {socket : SocketState}

/-! ### The parts -/

theorem call_single (h : s.Single) (c : RealtimeCall) : (s.call c).Single :=
  ⟨h.one, h.current, h.timer, h.silent⟩

@[simp] theorem close_busy (s : Realtime) : s.close.busy = s.busy := by
  unfold close
  split
  · simp [busy, live_sockets, countP_modify_close]
  · rfl

@[simp] theorem close_stopped (s : Realtime) : s.close.stopped = s.stopped := by
  unfold close
  split <;> rfl

@[simp] theorem close_timers (s : Realtime) : s.close.timers = s.timers := by
  unfold close
  split <;> rfl

@[simp] theorem close_timer (s : Realtime) : s.close.reconnectTimer = s.reconnectTimer := by
  unfold close
  split <;> rfl

@[simp] theorem close_variable (s : Realtime) : s.close.socket = s.socket := by
  unfold close
  split <;> rfl

theorem close_at {j : Nat} (h : s.close.sockets[j]? = some socket) :
    ∃ before, s.sockets[j]? = some before ∧
      (socket = before ∧ s.socket ≠ some j ∨ socket = before.close) := by
  unfold close at h
  split at h
  · rename_i i hi
    rw [List.getElem?_modify] at h
    split at h
    · obtain ⟨before, hbefore, rfl⟩ := Option.map_eq_some_iff.mp h
      exact ⟨before, hbefore, .inr rfl⟩
    · rename_i hne
      refine ⟨socket, by simpa using h, .inl ⟨rfl, ?_⟩⟩
      rw [hi]
      simpa using hne
  · rename_i hnone
    exact ⟨socket, h, .inl ⟨rfl, by simp [hnone]⟩⟩

theorem close_single (h : s.Single) : s.close.Single := by
  constructor
  · rw [close_busy]
    exact h.one
  · intro j socket hj hlive
    rw [close_stopped, close_variable]
    obtain ⟨before, hbefore, ⟨rfl, _⟩ | rfl⟩ := close_at hj
    · exact h.current j socket hbefore hlive
    · exact h.current j before hbefore (by simpa using hlive)
  · rw [close_timers, close_timer]
    exact h.timer
  · rw [close_stopped, close_timers]
    intro hstopped
    refine ⟨(h.silent hstopped).1, fun socket hmem => ?_⟩
    obtain ⟨j, hj⟩ := List.mem_iff_getElem?.mp hmem
    obtain ⟨before, hbefore, ⟨rfl, _⟩ | rfl⟩ := close_at hj
    · exact (h.silent hstopped).2 _ (List.mem_of_getElem? hbefore)
    · rcases (h.silent hstopped).2 _ (List.mem_of_getElem? hbefore) with rfl | rfl
      · exact .inl rfl
      · exact .inr rfl

/-- Nothing is under way. -/
theorem busy_zero (h : s.busy = 0) :
    (∀ (i : Nat) (socket : SocketState), s.sockets[i]? = some socket → socket.live = false) ∧
      s.timers = [] ∧ s.probes = 0 := by
  have hlive : s.live_sockets = 0 := by simp only [busy] at h; omega
  have htimers : s.timers.length = 0 := by simp only [busy] at h; omega
  have hprobes : s.probes = 0 := by simp only [busy] at h; omega
  refine ⟨fun i socket hi => ?_, List.length_eq_zero_iff.mp htimers, hprobes⟩
  have hnone := List.countP_eq_zero.mp hlive socket (List.mem_of_getElem? hi)
  simpa using hnone

theorem scheduleReconnect_single (hbusy : s.busy = 0) (hgoing : s.stopped = false) :
    s.scheduleReconnect.Single := by
  obtain ⟨hsockets, htimers, hprobes⟩ := busy_zero hbusy
  have hlive : s.live_sockets = 0 := by simp only [busy] at hbusy; omega
  have hfields : s.scheduleReconnect.timers = [s.next_timer] ∧
      s.scheduleReconnect.reconnectTimer = some s.next_timer ∧
      s.scheduleReconnect.sockets = s.sockets ∧ s.scheduleReconnect.socket = s.socket ∧
      s.scheduleReconnect.stopped = s.stopped ∧ s.scheduleReconnect.probes = s.probes := by
    simp only [scheduleReconnect, cleanupTimer]
    split <;> simp [htimers]
  obtain ⟨htimer, hcurrent, hsame, hvariable, hstopped, hprobe⟩ := hfields
  constructor
  · simp only [busy, live_sockets, htimer, hsame, hprobe, hprobes]
    simp only [live_sockets] at hlive
    simp [hlive]
  · intro j socket hj hlive'
    rw [hsame] at hj
    rw [hsockets j socket hj] at hlive'
    exact nomatch hlive'
  · intro timer hmem
    rw [htimer] at hmem
    rw [hcurrent, List.mem_singleton.mp hmem]
  · intro hover
    rw [hstopped, hgoing] at hover
    exact nomatch hover

theorem connect_single (h : s.Single) (hbusy : s.busy = 0) : (s.connect options).Single := by
  unfold connect
  split
  · exact h
  · rename_i hended
    have hgoing : s.stopped = false := by
      simp only [ended, Bool.or_eq_true, not_or, Bool.not_eq_true] at hended
      exact hended.1
    obtain ⟨hsockets, htimers, hprobes⟩ := busy_zero hbusy
    have hlive : s.sockets.countP SocketState.live = 0 := by
      simp only [busy, live_sockets] at hbusy
      omega
    constructor
    · simp [busy, live_sockets, List.countP_append, hlive, htimers, hprobes, List.countP_cons,
        SocketState.live]
    · intro j socket hj hlive'
      dsimp only at hj ⊢
      rcases Nat.lt_trichotomy j s.sockets.length with hlt | heq | hgt
      · rw [List.getElem?_append_left hlt] at hj
        rw [hsockets j socket hj] at hlive'
        cases hlive'
      · exact .inr (by rw [heq])
      · rw [List.getElem?_eq_none (by simp; omega)] at hj
        cases hj
    · intro timer hmem
      dsimp only at hmem
      rw [htimers] at hmem
      cases hmem
    · intro hover
      dsimp only at hover
      rw [hgoing] at hover
      cases hover

/-- The live socket that closes was all that was under way. -/
theorem closed_single (h : s.Single) (hi : s.sockets[i]? = some socket)
    (hlive : socket.live = true) :
    (s.set_socket i .closed).Single ∧ (s.set_socket i .closed).busy = 0 := by
  obtain ⟨hlt, hget⟩ := List.getElem?_eq_some_iff.mp hi
  have hclosed : SocketState.closed.live = false := rfl
  have hcount : (s.set_socket i .closed).live_sockets = s.live_sockets - 1 := by
    simp [live_sockets, set_socket, List.countP_set hlt, hget, hlive, hclosed]
  have hpos : 0 < s.live_sockets :=
    List.countP_pos_iff.mpr ⟨socket, List.mem_of_getElem? hi, hlive⟩
  have hbusy : (s.set_socket i .closed).busy = 0 := by
    have hone := h.one
    have hrest : (s.set_socket i .closed).timers = s.timers ∧
        (s.set_socket i .closed).probes = s.probes := ⟨rfl, rfl⟩
    simp only [busy, hcount, hrest] at hone ⊢
    omega
  refine ⟨⟨by omega, ?_, h.timer, ?_⟩, hbusy⟩
  · intro j later hj hlater
    rw [(busy_zero hbusy).1 j later hj] at hlater
    exact nomatch hlater
  · intro hstopped
    refine ⟨(h.silent hstopped).1, fun later hmem => ?_⟩
    rcases List.mem_or_eq_of_mem_set hmem with hold | rfl
    · exact (h.silent hstopped).2 later hold
    · exact .inr rfl

theorem opened_single (h : s.Single) (hi : s.sockets[i]? = some .connecting) :
    (s.set_socket i .opened).Single := by
  obtain ⟨hlt, hget⟩ := List.getElem?_eq_some_iff.mp hi
  have hcount : (s.set_socket i .opened).live_sockets = s.live_sockets := by
    have hpos : 0 < s.live_sockets :=
      List.countP_pos_iff.mpr ⟨_, List.mem_of_getElem? hi, rfl⟩
    simp only [live_sockets] at hpos
    simp [live_sockets, set_socket, List.countP_set hlt, hget, SocketState.live]
    omega
  constructor
  · have hone := h.one
    have hrest : (s.set_socket i .opened).timers = s.timers ∧
        (s.set_socket i .opened).probes = s.probes := ⟨rfl, rfl⟩
    simp only [busy, hcount, hrest] at hone ⊢
    omega
  · intro j later hj hlater
    by_cases hj' : i = j
    · subst hj'
      exact h.current i _ hi rfl
    · refine h.current j later ?_ hlater
      simpa [set_socket, hj'] using hj
  · exact h.timer
  · intro hstopped
    rcases (h.silent hstopped).2 _ (List.mem_of_getElem? hi) with hconnecting | hconnecting
    · exact nomatch hconnecting
    · exact nomatch hconnecting

/-- Where at most one timer is pending, it is the one that is cleared. -/
theorem cleaned (h : s.Single) :
    { s with stopped := true }.cleanupTimer.timers = [] ∧
      { s with stopped := true }.cleanupTimer.sockets = s.sockets ∧
      { s with stopped := true }.cleanupTimer.socket = s.socket ∧
      { s with stopped := true }.cleanupTimer.probes = s.probes ∧
      { s with stopped := true }.cleanupTimer.stopped = true := by
  have hlength : s.timers.length ≤ 1 := by
    have hone := h.one
    simp only [busy] at hone
    omega
  simp only [cleanupTimer]
  cases htimers : s.timers with
  | nil => split <;> exact ⟨rfl, rfl, rfl, rfl, rfl⟩
  | cons timer rest =>
    have hcurrent := h.timer timer (htimers ▸ List.mem_cons_self ..)
    rw [htimers, List.length_cons] at hlength
    obtain rfl : rest = [] := List.length_eq_zero_iff.mp (by omega)
    simp [hcurrent]

theorem stop_single (h : s.Single) : s.stop.Single := by
  obtain ⟨htimers, hsockets, hvariable, hprobes, hstopped⟩ := cleaned h
  have hstop : s.stop.stopped = true := by
    simp [stop, hstopped]
  have htimers' : s.stop.timers = [] := by
    simp [stop, htimers]
  constructor
  · have hsame : s.stop.busy = { s with stopped := true }.cleanupTimer.busy := by
      change { s with stopped := true }.cleanupTimer.close.busy = _
      rw [close_busy]
    have hone := h.one
    rw [hsame]
    simp only [busy, live_sockets, htimers, hsockets, hprobes, List.length_nil] at hone ⊢
    omega
  · intro j socket _ _
    exact .inl hstop
  · intro timer hmem
    rw [htimers'] at hmem
    exact nomatch hmem
  · intro _
    refine ⟨htimers', fun socket hmem => ?_⟩
    obtain ⟨j, hj⟩ := List.mem_iff_getElem?.mp hmem
    obtain ⟨before, hbefore, ⟨rfl, hother⟩ | rfl⟩ := close_at hj
    · rw [hsockets] at hbefore
      rw [hvariable] at hother
      by_cases hlive : socket.live = true
      · rcases h.current j socket hbefore hlive with hover | hcurrent
        · exact (h.silent hover).2 socket (List.mem_of_getElem? hbefore)
        · exact absurd hcurrent hother
      · exact .inr (by simpa [SocketState.live] using hlive)
    · cases before with
      | closed => exact .inr rfl
      | _ => exact .inl rfl

/-! ### Every event -/

theorem going (h : ¬ s.ended options = true) : s.stopped = false := by
  simp only [ended, Bool.or_eq_true, not_or, Bool.not_eq_true] at h
  exact h.1

theorem probe_single (h : s.Single) (hbusy : s.busy = 0) : { s with probes := s.probes + 1 }.Single := by
  obtain ⟨_, _, hprobes⟩ := busy_zero hbusy
  refine ⟨?_, h.current, h.timer, h.silent⟩
  simp only [busy] at hbusy ⊢
  simp only [live_sockets] at hbusy ⊢
  omega

theorem onclose_single (h : s.Single) (hbusy : s.busy = 0) (code : Nat) :
    (s.onclose options code).Single := by
  unfold onclose
  split
  · exact h
  · rename_i hended
    split
    · exact call_single h _
    · split
      · unfold probeUnauthorized
        split
        · exact h
        · exact probe_single h hbusy
      · exact scheduleReconnect_single hbusy (going hended)

/-- A request that verified the session was all that was under way. -/
theorem probed_single (h : s.Single) (hprobes : 0 < s.probes) :
    { s with probes := s.probes - 1 }.Single ∧ { s with probes := s.probes - 1 }.busy = 0 := by
  have hone := h.one
  have hbusy : { s with probes := s.probes - 1 }.busy = 0 := by
    simp only [busy, live_sockets] at hone ⊢
    omega
  exact ⟨⟨by omega, h.current, h.timer, h.silent⟩, hbusy⟩

theorem single_event (h : s.Single) (hevent : RealtimeEvent options s t) : t.Single := by
  cases hevent with
  | opened i hi =>
    have hopened := opened_single h hi
    unfold onopen
    split
    · exact close_single hopened
    · have hreset : { s.set_socket i .opened with opened := true, attempt := 0 }.Single :=
        ⟨hopened.one, hopened.current, hopened.timer, hopened.silent⟩
      exact call_single hreset _
  | message i data hi =>
    unfold onmessage
    split
    · exact h
    · split
      · exact call_single h _
      · exact h
  | failed i hi hlive => exact close_single h
  | closed i code hi hlive =>
    obtain ⟨hclosed, hbusy⟩ := closed_single h hi hlive
    exact onclose_single hclosed hbusy code
  | fired timer hmem =>
    have hone := h.one
    have hlength := List.length_erase_of_mem hmem
    have hpos := List.length_pos_of_mem hmem
    have hbusy : { s with timers := s.timers.erase timer }.busy = 0 := by
      simp only [busy, live_sockets] at hone ⊢
      omega
    refine connect_single ⟨by omega, h.current, ?_, ?_⟩ hbusy
    · intro later hlater
      exact h.timer later (List.mem_of_mem_erase hlater)
    · intro hstopped
      rw [(h.silent hstopped).1] at hmem
      exact nomatch hmem
  | verified hprobes =>
    obtain ⟨hprobed, hbusy⟩ := probed_single h hprobes
    unfold verified
    split
    · exact hprobed
    · rename_i hended
      exact scheduleReconnect_single hbusy (going hended)
  | rejected status hprobes =>
    obtain ⟨hprobed, hbusy⟩ := probed_single h hprobes
    unfold rejected
    split
    · exact hprobed
    · rename_i hended
      split
      · exact call_single hprobed _
      · exact scheduleReconnect_single hbusy (going hended)
  | stop => exact stop_single h
  | session_changed generation hgeneration => exact ⟨h.one, h.current, h.timer, h.silent⟩

theorem single_start (options : RealtimeOptions) (sessionGeneration : Nat) :
    (connectRealtimeNotifications options sessionGeneration).Single := by
  refine connect_single ⟨Nat.zero_le _, ?_, ?_, ?_⟩ rfl
  · intro i socket hi
    exact nomatch hi
  · intro timer hmem
    exact nomatch hmem
  · exact nofun

/-! ### What is done for the page -/

/-- What one event adds to the calls so far, and what it makes of the number of attempts. -/
inductive Progress (calls : List RealtimeCall) (attempt : Nat) (t : Realtime) : Prop where
  | silent (hcalls : t.calls = calls) (hattempt : t.attempt = attempt)
  | notified (payload : Json) (hcalls : t.calls = .notified payload :: calls)
    (hattempt : t.attempt = attempt)
  | unauthorized (hcalls : t.calls = .unauthorized :: calls) (hattempt : t.attempt = attempt)
    (hbusy : t.busy = 0)
  | opened (hcalls : t.calls = .opened :: calls) (hattempt : t.attempt = 0)
  | waiting (hcalls : t.calls = .waiting (reconnectDelayMs attempt) :: calls)
    (hattempt : t.attempt = attempt + 1)

@[simp] theorem close_calls (s : Realtime) : s.close.calls = s.calls := by
  unfold close
  split <;> rfl

@[simp] theorem close_attempt (s : Realtime) : s.close.attempt = s.attempt := by
  unfold close
  split <;> rfl

@[simp] theorem cleanupTimer_calls (s : Realtime) : s.cleanupTimer.calls = s.calls := by
  unfold cleanupTimer
  split <;> rfl

@[simp] theorem cleanupTimer_attempt (s : Realtime) : s.cleanupTimer.attempt = s.attempt := by
  unfold cleanupTimer
  split <;> rfl

theorem scheduleReconnect_progress (s : Realtime) : Progress s.calls s.attempt s.scheduleReconnect :=
  .waiting (by simp [scheduleReconnect]) (by simp [scheduleReconnect])

theorem onclose_progress (hbusy : s.busy = 0) (code : Nat) :
    Progress s.calls s.attempt (s.onclose options code) := by
  unfold onclose
  split
  · exact .silent rfl rfl
  · split
    · exact .unauthorized rfl rfl hbusy
    · split
      · unfold probeUnauthorized
        split
        · exact .silent rfl rfl
        · exact .silent rfl rfl
      · exact scheduleReconnect_progress s

theorem rejected_progress (hbusy : s.busy = 0) (status : Option Nat) :
    Progress s.calls s.attempt (s.rejected options status) := by
  unfold rejected
  split
  · exact .silent rfl rfl
  · split
    · exact .unauthorized rfl rfl hbusy
    · exact scheduleReconnect_progress s

theorem event_progress (h : s.Single) (hevent : RealtimeEvent options s t) :
    Progress s.calls s.attempt t := by
  cases hevent with
  | opened i hi =>
    unfold onopen
    split
    · exact .silent (close_calls _) (close_attempt _)
    · exact .opened rfl rfl
  | message i data hi =>
    unfold onmessage
    split
    · exact .silent rfl rfl
    · split
      · exact .notified _ rfl rfl
      · exact .silent rfl rfl
  | failed i hi hlive => exact .silent (close_calls _) (close_attempt _)
  | closed i code hi hlive =>
    obtain ⟨_, hbusy⟩ := closed_single h hi hlive
    exact onclose_progress hbusy code
  | fired timer hmem =>
    unfold connect
    split <;> exact .silent rfl rfl
  | verified hprobes =>
    unfold verified
    split
    · exact .silent rfl rfl
    · exact scheduleReconnect_progress { s with probes := s.probes - 1 }
  | rejected status hprobes =>
    obtain ⟨_, hbusy⟩ := probed_single h hprobes
    exact rejected_progress hbusy status
  | stop => exact .silent (by simp [stop]) (by simp [stop])
  | session_changed generation hgeneration => exact .silent rfl rfl

/-! ### After a refusal -/

/-- Where nothing is under way, nothing more is done. -/
theorem idle_event (hbusy : s.busy = 0) (hevent : RealtimeEvent options s t) :
    t.busy = 0 ∧ t.calls = s.calls := by
  obtain ⟨hsockets, htimers, hprobes⟩ := busy_zero hbusy
  cases hevent with
  | opened i hi => exact nomatch hsockets i _ hi
  | message i data hi => exact nomatch hsockets i _ hi
  | failed i hi hlive => exact absurd hlive (by simp [hsockets i _ hi])
  | closed i code hi hlive => exact absurd hlive (by simp [hsockets i _ hi])
  | fired timer hmem =>
    rw [htimers] at hmem
    exact nomatch hmem
  | verified hpos =>
    rw [hprobes] at hpos
    exact nomatch hpos
  | rejected status hpos =>
    rw [hprobes] at hpos
    exact nomatch hpos
  | stop =>
    have hcleaned : { s with stopped := true }.cleanupTimer.busy = 0 := by
      unfold cleanupTimer
      split
      · simp only [busy, live_sockets, htimers] at hbusy ⊢
        exact hbusy
      · exact hbusy
    refine ⟨(close_busy _).trans hcleaned, ?_⟩
    simp [stop]
  | session_changed => exact ⟨hbusy, rfl⟩

/-- The page has not been told to give up, or this was the last thing it was told. -/
def GivenUp (s : Realtime) : Prop :=
  RealtimeCall.unauthorized ∉ s.calls ∨ ∃ before, s.calls = .unauthorized :: before ∧
    RealtimeCall.unauthorized ∉ before ∧ s.busy = 0

theorem givenUp_event (h : s.Single) (hgiven : s.GivenUp) (hevent : RealtimeEvent options s t) :
    t.GivenUp := by
  rcases hgiven with hnot | ⟨before, hcalls, hbefore, hbusy⟩
  · cases event_progress h hevent with
    | silent hcalls => exact .inl (hcalls ▸ hnot)
    | notified payload hcalls => exact .inl (by simp [hcalls, hnot])
    | unauthorized hcalls _ hbusy => exact .inr ⟨s.calls, hcalls, hnot, hbusy⟩
    | opened hcalls => exact .inl (by simp [hcalls, hnot])
    | waiting hcalls => exact .inl (by simp [hcalls, hnot])
  · obtain ⟨hidle, hsame⟩ := idle_event hbusy hevent
    exact .inr ⟨before, hsame.trans hcalls, hbefore, hidle⟩

/-! ### Waits -/

/-- The waits since the connection was last opened, latest first. -/
def waits : List RealtimeCall → List Nat
  | [] => []
  | .waiting delay_ms :: calls => delay_ms :: waits calls
  | .opened :: _ => []
  | .notified _ :: calls => waits calls
  | .unauthorized :: calls => waits calls

def BacksOff (s : Realtime) : Prop :=
  waits s.calls = ((List.range s.attempt).map reconnectDelayMs).reverse

theorem backsOff_event (h : s.Single) (hback : s.BacksOff) (hevent : RealtimeEvent options s t) :
    t.BacksOff := by
  unfold BacksOff at hback ⊢
  cases event_progress h hevent with
  | silent hcalls hattempt => rw [hcalls, hattempt, hback]
  | notified payload hcalls hattempt => rw [hcalls, hattempt, waits, hback]
  | unauthorized hcalls hattempt hbusy => rw [hcalls, hattempt, waits, hback]
  | opened hcalls hattempt => simp [hcalls, hattempt, waits]
  | waiting hcalls hattempt =>
    rw [hcalls, hattempt, waits, hback, List.range_succ]
    simp

/-! ### After the end -/

/-- The connection was not made for a session that is yet to come. -/
def NotAhead (options : RealtimeOptions) (s : Realtime) : Prop :=
  ∀ generation, options.generation = some generation → generation ≤ s.sessionGeneration

@[simp] theorem close_generation (s : Realtime) : s.close.sessionGeneration = s.sessionGeneration := by
  unfold close
  split <;> rfl

@[simp] theorem cleanupTimer_generation (s : Realtime) :
    s.cleanupTimer.sessionGeneration = s.sessionGeneration := by
  unfold cleanupTimer
  split <;> rfl

@[simp] theorem scheduleReconnect_generation (s : Realtime) :
    s.scheduleReconnect.sessionGeneration = s.sessionGeneration := by
  simp [scheduleReconnect]

theorem onclose_generation (s : Realtime) (code : Nat) :
    (s.onclose options code).sessionGeneration = s.sessionGeneration := by
  unfold onclose
  split
  · rfl
  · split
    · rfl
    · split
      · unfold probeUnauthorized
        split <;> rfl
      · exact scheduleReconnect_generation s

theorem generation_event (hevent : RealtimeEvent options s t) :
    s.sessionGeneration ≤ t.sessionGeneration := by
  cases hevent with
  | opened i hi =>
    unfold onopen
    split
    · exact (close_generation (s.set_socket i .opened)).ge
    · exact le_rfl
  | message i data hi =>
    unfold onmessage
    split
    · exact le_rfl
    · split <;> exact le_rfl
  | failed i hi hlive => exact (close_generation s).ge
  | closed i code hi hlive => exact (onclose_generation (s.set_socket i .closed) code).ge
  | fired timer hmem =>
    unfold connect
    split <;> exact le_rfl
  | verified hprobes =>
    unfold verified
    split
    · exact le_rfl
    · exact (scheduleReconnect_generation { s with probes := s.probes - 1 }).ge
  | rejected status hprobes =>
    unfold rejected
    split
    · exact le_rfl
    · split
      · exact le_rfl
      · exact (scheduleReconnect_generation { s with probes := s.probes - 1 }).ge
  | stop => simp [stop]
  | session_changed generation hgeneration => exact hgeneration

theorem notAhead_event (h : s.NotAhead options) (hevent : RealtimeEvent options s t) :
    t.NotAhead options := by
  intro generation hgeneration
  exact (h generation hgeneration).trans (generation_event hevent)

/-- What an event leaves as it is once the connection has ended. -/
structure Silent (s t : Realtime) : Prop where
  calls : t.calls = s.calls
  sockets : t.sockets.length = s.sockets.length
  timers : t.next_timer = s.next_timer

theorem close_silent (s : Realtime) : Silent s s.close := by
  refine ⟨close_calls s, ?_, ?_⟩ <;> unfold close <;> split <;> simp

theorem cleanupTimer_silent (s : Realtime) : Silent s s.cleanupTimer := by
  refine ⟨cleanupTimer_calls s, ?_, ?_⟩ <;> unfold cleanupTimer <;> split <;> rfl

@[simp] theorem close_ended (s : Realtime) : s.close.ended options = s.ended options := by
  simp [ended, isStale]

/-- A session that has been left behind is not caught up with. -/
theorem ended_later {generation : Nat} (hahead : s.NotAhead options)
    (hended : s.ended options = true) (hlater : s.sessionGeneration ≤ generation) :
    { s with sessionGeneration := generation }.ended options = true := by
  simp only [ended, isStale, Bool.or_eq_true, Option.any_eq_true, bne_iff_ne] at hended ⊢
  refine hended.imp_right fun hstale => ?_
  obtain ⟨own, hown, hne⟩ := hstale
  have hbefore := hahead own hown
  exact ⟨own, hown, by omega⟩

theorem ended_event (hahead : s.NotAhead options) (hended : s.ended options = true)
    (hevent : RealtimeEvent options s t) : t.ended options = true ∧ Silent s t := by
  cases hevent with
  | opened i hi =>
    have hset : (s.set_socket i .opened).ended options = true := hended
    have hclose := close_silent (s.set_socket i .opened)
    rw [onopen, if_pos hset, close_ended]
    exact ⟨hset, hclose.calls, by rw [hclose.sockets]; simp [set_socket], hclose.timers⟩
  | message i data hi =>
    rw [onmessage, if_pos hended]
    exact ⟨hended, rfl, rfl, rfl⟩
  | failed i hi hlive => exact ⟨(close_ended s).trans hended, close_silent s⟩
  | closed i code hi hlive =>
    have hset : (s.set_socket i .closed).ended options = true := hended
    rw [onclose, if_pos hset]
    exact ⟨hset, rfl, by simp [set_socket], rfl⟩
  | fired timer hmem =>
    have herased : { s with timers := s.timers.erase timer }.ended options = true := hended
    rw [connect, if_pos herased]
    exact ⟨hended, rfl, rfl, rfl⟩
  | verified hprobes =>
    have hprobed : { s with probes := s.probes - 1 }.ended options = true := hended
    rw [verified, if_pos hprobed]
    exact ⟨hended, rfl, rfl, rfl⟩
  | rejected status hprobes =>
    have hprobed : { s with probes := s.probes - 1 }.ended options = true := hended
    rw [rejected, if_pos hprobed]
    exact ⟨hended, rfl, rfl, rfl⟩
  | stop =>
    have hcleaned := cleanupTimer_silent { s with stopped := true }
    have hclosed := close_silent { s with stopped := true }.cleanupTimer
    refine ⟨?_, hclosed.calls.trans hcleaned.calls, hclosed.sockets.trans hcleaned.sockets,
      hclosed.timers.trans hcleaned.timers⟩
    have hstopped : { s with stopped := true }.cleanupTimer.stopped = true := by
      unfold cleanupTimer
      split <;> rfl
    simp [ended, stop, hstopped]
  | session_changed generation hlater => exact ⟨ended_later hahead hended hlater, rfl, rfl, rfl⟩

/-! ### Runs -/

section Runs
variable {sessionGeneration : Nat}

theorem single_run (h : RealtimeReachable options sessionGeneration s) : s.Single := by
  induction h with
  | refl => exact single_start options sessionGeneration
  | tail _ hevent ih => exact single_event ih hevent

theorem start_calls (options : RealtimeOptions) (sessionGeneration : Nat) :
    (connectRealtimeNotifications options sessionGeneration).calls = [] ∧
      (connectRealtimeNotifications options sessionGeneration).attempt = 0 ∧
      (connectRealtimeNotifications options sessionGeneration).sessionGeneration =
        sessionGeneration := by
  unfold connectRealtimeNotifications connect
  split <;> exact ⟨rfl, rfl, rfl⟩

theorem givenUp_run (h : RealtimeReachable options sessionGeneration s) : s.GivenUp := by
  induction h with
  | refl =>
    refine .inl ?_
    rw [(start_calls options sessionGeneration).1]
    exact List.not_mem_nil
  | tail hrun hevent ih => exact givenUp_event (single_run hrun) ih hevent

theorem idle_run (hbusy : s.busy = 0) (hrun : Relation.ReflTransGen (RealtimeEvent options) s t) :
    t.busy = 0 ∧ t.calls = s.calls := by
  induction hrun with
  | refl => exact ⟨hbusy, rfl⟩
  | tail _ hevent ih =>
    obtain ⟨hidle, hsame⟩ := idle_event ih.1 hevent
    exact ⟨hidle, hsame.trans ih.2⟩

theorem notAhead_run (h : RealtimeReachable options sessionGeneration s)
    (hsession : ∀ generation, options.generation = some generation → generation ≤ sessionGeneration) :
    s.NotAhead options := by
  induction h with
  | refl =>
    intro generation hgeneration
    rw [(start_calls options sessionGeneration).2.2]
    exact hsession generation hgeneration
  | tail _ hevent ih => exact notAhead_event ih hevent

end Runs

end Realtime

/-! ### One connection -/

namespace SampleConnection
open Realtime

def options : RealtimeOptions where
  generation := some 1
  verifyAuth := true

/-- The first socket is closed before it has been opened. -/
def unopened : Realtime :=
  ((connectRealtimeNotifications options 1).set_socket 0 .closed).onclose options 1006

/-- The session is still valid. -/
def waiting : Realtime :=
  { unopened with probes := unopened.probes - 1 }.verified options

def again : Realtime :=
  { waiting with timers := waiting.timers.erase 0 }.connect options

/-- The server refuses the token of the second one. -/
def refused : Realtime :=
  (again.set_socket 1 .closed).onclose options 1008

theorem waiting_reachable : RealtimeReachable options 1 waiting :=
  .tail (.single (.closed 0 1006 rfl rfl)) (.verified Nat.one_pos)

theorem refused_reachable : RealtimeReachable options 1 refused := by
  have hagain : RealtimeReachable options 1 again :=
    waiting_reachable.tail (.fired 0 (List.mem_singleton_self 0))
  exact hagain.tail (.closed 1 1008 rfl rfl)

end SampleConnection

/-! ### Every run -/

section Every
variable {options : RealtimeOptions} {sessionGeneration : Nat} {s t : Realtime}

/-- At most one socket, timer or request that verifies the session is under way at any time, and a
page that has stopped the connection is left with sockets that close and no timer. -/
theorem one_connection (h : RealtimeReachable options sessionGeneration s) : s.Single :=
  Realtime.single_run h

theorem one_connection_refused : SampleConnection.refused.Single :=
  one_connection SampleConnection.refused_reachable

/-- The page is told at most once that it is not authorized, and nothing else afterwards. -/
theorem refusal_is_last (h : RealtimeReachable options sessionGeneration s)
    (hrefused : .unauthorized ∈ s.calls) (hrun : Relation.ReflTransGen (RealtimeEvent options) s t) :
    ∃ before, t.calls = .unauthorized :: before ∧ .unauthorized ∉ before ∧ t.calls = s.calls := by
  rcases Realtime.givenUp_run h with hnot | ⟨before, hcalls, hbefore, hbusy⟩
  · exact absurd hrefused hnot
  · obtain ⟨_, hsame⟩ := Realtime.idle_run hbusy hrun
    exact ⟨before, hsame.trans hcalls, hbefore, hsame⟩

theorem refusal_is_last_stopped : ∃ before,
    SampleConnection.refused.stop.calls = .unauthorized :: before ∧ .unauthorized ∉ before ∧
      SampleConnection.refused.stop.calls = SampleConnection.refused.calls :=
  refusal_is_last SampleConnection.refused_reachable (List.mem_cons_self ..)
    (.single .stop)

/-- Once the page has stopped the connection or its session has changed, no handler is called, no
socket made and no timer set. -/
theorem quiet_once_ended
    (hsession : ∀ generation, options.generation = some generation → generation ≤ sessionGeneration)
    (h : RealtimeReachable options sessionGeneration s) (hended : s.ended options = true)
    (hrun : Relation.ReflTransGen (RealtimeEvent options) s t) : Realtime.Silent s t := by
  have hall : t.NotAhead options ∧ t.ended options = true ∧ Realtime.Silent s t := by
    induction hrun with
    | refl => exact ⟨Realtime.notAhead_run h hsession, hended, rfl, rfl, rfl⟩
    | tail _ hevent ih =>
      obtain ⟨hahead, hended, hsilent⟩ := ih
      obtain ⟨hlater, hstep⟩ := Realtime.ended_event hahead hended hevent
      exact ⟨Realtime.notAhead_event hahead hevent, hlater, hstep.calls.trans hsilent.calls,
        hstep.sockets.trans hsilent.sockets, hstep.timers.trans hsilent.timers⟩
  exact hall.2.2

theorem quiet_once_ended_waiting : Realtime.Silent
    { SampleConnection.waiting with sessionGeneration := 2 }
    ({ SampleConnection.waiting with
      sessionGeneration := 2
      timers := [] }.connect SampleConnection.options) :=
  quiet_once_ended (by rintro _ ⟨⟩; exact le_rfl)
    (SampleConnection.waiting_reachable.tail (.session_changed 2 (by decide))) rfl
    (.single (.fired 0 (List.mem_singleton_self 0)))

/-- Between two times the connection is opened, the waits before the next attempt are one second, two,
four and so on up to half a minute. -/
theorem backs_off (h : RealtimeReachable options sessionGeneration s) :
    Realtime.waits s.calls = ((List.range s.attempt).map reconnectDelayMs).reverse := by
  induction h with
  | refl =>
    obtain ⟨hcalls, hattempt, _⟩ := Realtime.start_calls options sessionGeneration
    rw [hcalls, hattempt]
    rfl
  | tail hrun hevent ih => exact Realtime.backsOff_event (Realtime.single_run hrun) ih hevent

theorem backs_off_refused : Realtime.waits SampleConnection.refused.calls =
    ((List.range SampleConnection.refused.attempt).map reconnectDelayMs).reverse :=
  backs_off SampleConnection.refused_reachable

end Every

end CoinListener.Frontend
