import CoinListener.Api.Realtime
import CoinListener.Core.PlainFormats
import Mathlib.Data.List.Nodup

/-! What the browsers are shown of the stored notifications, in every run of the realtime channel. -/
namespace CoinListener.Api
open Foundation Frontend

set_option linter.unusedSectionVars false

section Delivery

variable {W C : Type} [DecidableEq W] [DecidableEq C] {formats : WireFormats} {capacity : Nat}
  {s t : RealtimeSystem W C} {heard pending : List InAppNotificationRow} {hub : RealtimeHub}
  {row : InAppNotificationRow} {w : W} {c : C} {connection : Connection}
  {sent : List RealtimeServerMessage} {message : RealtimeServerMessage} {label : RealtimeLabel W C}

/-! ### Channels and connections -/

/-- The messages of the tenant's notifications that the listener has heard of. -/
def tenant_messages (heard : List InAppNotificationRow) (tenant_id : Uuid) :
    List RealtimeServerMessage :=
  (heard.filter (·.tenant_id == tenant_id)).map notification_message

def HubFollows (hub : RealtimeHub) (heard : List InAppNotificationRow) : Prop :=
  ∀ tenant_id sent, hub tenant_id = some sent → sent.Sublist (tenant_messages heard tenant_id)

/-- A connection has written what it has taken from its tenant's channel, but for a last message it
may have failed on. -/
structure ConnectionFollows (hub : RealtimeHub) (connection : Connection) : Prop where
  channel : ∃ sent, hub connection.tenant_id = some sent ∧
    Broadcast.Follows sent connection.receiver
  written : connection.notifications <+: connection.receiver.taken
  live : connection.live = true → connection.notifications = connection.receiver.taken

theorem tenant_messages_append (heard : List InAppNotificationRow) (row : InAppNotificationRow)
    (tenant_id : Uuid) : tenant_messages (heard ++ [row]) tenant_id =
      tenant_messages heard tenant_id ++
        if row.tenant_id = tenant_id then [notification_message row] else [] := by
  by_cases h : row.tenant_id = tenant_id <;> simp [tenant_messages, h]

theorem mem_tenant_messages {tenant_id : Uuid} (h : message ∈ tenant_messages heard tenant_id) :
    ∃ row ∈ heard, row.tenant_id = tenant_id ∧ notification_message row = message := by
  obtain ⟨row, hrow, rfl⟩ := List.mem_map.mp h
  obtain ⟨hheard, htenant⟩ := List.mem_filter.mp hrow
  exact ⟨row, hheard, by simpa using htenant, rfl⟩

theorem broadcast_other {tenant_id : Uuid} (h : message.tenant_id ≠ tenant_id) :
    (hub.broadcast_async message) tenant_id = hub tenant_id := by
  unfold RealtimeHub.broadcast_async
  cases hub message.tenant_id with
  | some sent => exact Function.update_of_ne h.symm ..
  | none => rfl

theorem broadcast_self (h : hub message.tenant_id = some sent) :
    (hub.broadcast_async message) message.tenant_id = some (sent ++ [message]) := by
  unfold RealtimeHub.broadcast_async
  rw [h]
  exact Function.update_self ..

theorem broadcast_none (h : hub message.tenant_id = none) : hub.broadcast_async message = hub := by
  unfold RealtimeHub.broadcast_async
  rw [h]

theorem HubFollows.broadcast (h : HubFollows hub heard) (row : InAppNotificationRow) :
    HubFollows (hub.broadcast_async (notification_message row)) (heard ++ [row]) := by
  intro tenant_id sent hsent
  rw [tenant_messages_append]
  by_cases htenant : row.tenant_id = tenant_id
  · subst htenant
    cases hold : hub row.tenant_id with
    | none =>
      rw [broadcast_none hold, hold] at hsent
      exact nomatch hsent
    | some old =>
      have hnew : (hub.broadcast_async (notification_message row)) row.tenant_id = _ :=
        broadcast_self hold
      obtain rfl := Option.some.inj (hnew.symm.trans hsent)
      rw [if_pos rfl]
      exact (h _ _ hold).append (List.Sublist.refl _)
  · have hother : (hub.broadcast_async (notification_message row)) tenant_id = hub tenant_id :=
      broadcast_other htenant
    rw [hother] at hsent
    exact (h _ _ hsent).trans (List.sublist_append_left ..)

theorem ConnectionFollows.broadcast (h : ConnectionFollows hub connection)
    (message : RealtimeServerMessage) :
    ConnectionFollows (hub.broadcast_async message) connection := by
  obtain ⟨sent, hsent, hfollows⟩ := h.channel
  refine ⟨?_, h.written, h.live⟩
  by_cases htenant : message.tenant_id = connection.tenant_id
  · refine ⟨sent ++ [message], ?_, hfollows.send _⟩
    rw [← htenant] at hsent ⊢
    exact broadcast_self hsent
  · exact ⟨sent, (broadcast_other htenant).trans hsent, hfollows⟩

theorem subscribe_hub (hub : RealtimeHub) (tenant_id other : Uuid) (h : hub other = some sent) :
    (hub.subscribe_async tenant_id).2 other = some sent := by
  by_cases hother : other = tenant_id
  · subst hother
    simp [RealtimeHub.subscribe_async, h]
  · simp [RealtimeHub.subscribe_async, hother, h]

theorem HubFollows.subscribe (h : HubFollows hub heard) (tenant_id : Uuid) :
    HubFollows (hub.subscribe_async tenant_id).2 heard := by
  intro other sent hsent
  by_cases hother : other = tenant_id
  · subst hother
    cases hold : hub other with
    | none =>
      have hempty : sent = [] := by simpa [RealtimeHub.subscribe_async, hold] using hsent.symm
      exact hempty ▸ List.nil_sublist _
    | some old =>
      obtain rfl := Option.some.inj ((subscribe_hub hub other other hold).symm.trans hsent)
      exact h _ _ hold
  · have hsame : hub other = some sent := by
      simpa [RealtimeHub.subscribe_async, hother] using hsent
    exact h _ _ hsame

theorem ConnectionFollows.subscribe (h : ConnectionFollows hub connection) (tenant_id : Uuid) :
    ConnectionFollows (hub.subscribe_async tenant_id).2 connection := by
  obtain ⟨sent, hsent, hfollows⟩ := h.channel
  exact ⟨⟨sent, subscribe_hub hub _ _ hsent, hfollows⟩, h.written, h.live⟩

theorem ConnectionFollows.fresh (hub : RealtimeHub) (tenant_id : Uuid) :
    ConnectionFollows (hub.subscribe_async tenant_id).2
      { tenant_id := tenant_id, receiver := (hub.subscribe_async tenant_id).1, written := []
        live := true } := by
  refine ⟨⟨(hub tenant_id).getD [], ?_, Broadcast.Follows.subscribe _⟩, List.nil_prefix,
    fun _ => rfl⟩
  simp [RealtimeHub.subscribe_async]

/-! ### One step of a connection -/

theorem advance_message {next : Nat}
    (h : Broadcast.receive capacity sent connection.receiver.next = (.message message, next)) :
    (connection.advance capacity sent).receiver.taken = connection.receiver.taken ++ [message] := by
  simp [Connection.advance, Broadcast.Receiver.advance, h]

theorem advance_lagged {missed next : Nat}
    (h : Broadcast.receive capacity sent connection.receiver.next = (.lagged missed, next)) :
    (connection.advance capacity sent).receiver.taken = connection.receiver.taken := by
  simp [Connection.advance, Broadcast.Receiver.advance, h]

theorem ConnectionFollows.advance (h : ConnectionFollows hub connection)
    (hsent : hub connection.tenant_id = some sent) :
    ∃ sent', hub (connection.advance capacity sent).tenant_id = some sent' ∧
      Broadcast.Follows sent' (connection.advance capacity sent).receiver := by
  obtain ⟨sent', hsent', hfollows⟩ := h.channel
  obtain rfl := Option.some.inj (hsent.symm.trans hsent')
  exact ⟨sent, hsent, hfollows.advance⟩

theorem ConnectionFollows.lag {missed next : Nat} (h : ConnectionFollows hub connection)
    (hsent : hub connection.tenant_id = some sent)
    (hreceive : Broadcast.receive capacity sent connection.receiver.next = (.lagged missed, next)) :
    ConnectionFollows hub (connection.advance capacity sent) := by
  refine ⟨h.advance hsent, ?_, fun hlive => ?_⟩
  · rw [advance_lagged hreceive]
    exact h.written
  · rw [advance_lagged hreceive]
    exact h.live hlive

theorem notifications_write (connection : Connection) (message : RealtimeServerMessage) :
    (connection.write message).notifications = connection.notifications ++
      if message.message_type == "in_app_notification.created" then [message] else [] := by
  by_cases h : message.message_type == "in_app_notification.created" <;>
    simp [Connection.write, Connection.notifications, h]

theorem ConnectionFollows.deliver {next : Nat} (h : ConnectionFollows hub connection)
    (hlive : connection.live = true) (hsent : hub connection.tenant_id = some sent)
    (hreceive : Broadcast.receive capacity sent connection.receiver.next = (.message message, next))
    (htype : message.message_type = "in_app_notification.created") :
    ConnectionFollows hub ((connection.advance capacity sent).write message) := by
  have hwritten : ((connection.advance capacity sent).write message).notifications =
      ((connection.advance capacity sent).write message).receiver.taken := by
    have htaken := advance_message hreceive
    rw [notifications_write, if_pos (beq_iff_eq.mpr htype)]
    exact (congrArg (· ++ [message]) (h.live hlive)).trans htaken.symm
  exact ⟨h.advance hsent, hwritten ▸ List.prefix_rfl, fun _ => hwritten⟩

theorem ConnectionFollows.undelivered {next : Nat} (h : ConnectionFollows hub connection)
    (hsent : hub connection.tenant_id = some sent)
    (hreceive : Broadcast.receive capacity sent connection.receiver.next = (.message message, next)) :
    ConnectionFollows hub (connection.advance capacity sent).stop := by
  refine ⟨h.advance hsent, ?_, nofun⟩
  have htaken : (connection.advance capacity sent).stop.receiver.taken = _ := advance_message hreceive
  rw [htaken]
  exact h.written.trans (List.prefix_append ..)

theorem ConnectionFollows.ping (h : ConnectionFollows hub connection) (sent_at : Timestamp) :
    ConnectionFollows hub (connection.write (.Ping sent_at)) := by
  have hsame : (connection.write (.Ping sent_at)).notifications = connection.notifications := by
    rw [notifications_write]
    exact List.append_nil _
  refine ⟨h.channel, ?_, fun hlive => ?_⟩
  · rw [hsame]
    exact h.written
  · rw [hsame]
    exact h.live hlive

theorem ConnectionFollows.stop (h : ConnectionFollows hub connection) :
    ConnectionFollows hub connection.stop :=
  ⟨h.channel, h.written, nofun⟩

/-! ### The whole way -/

/-- Every stored notification is published once at most: it is about to be, its payload is on its way
to the listener, or the listener has heard of it. -/
structure OnTheWay (formats : WireFormats) (s : RealtimeSystem W C)
    (heard pending : List InAppNotificationRow) : Prop where
  stored_once : (s.rows.map (·.id)).Nodup
  sized : ∀ row ∈ s.rows, row.Sized
  listener : s.listener.getD [] = pending.map formats.notify_payload
  published_once : (heard ++ pending).Nodup
  published : ∀ row ∈ heard ++ pending, row ∈ s.rows
  announcing : ∀ w row, s.announcing w = some row → row ∈ s.rows ∧ row ∉ heard ++ pending
  one_notifier : ∀ v w row, s.announcing v = some row → s.announcing w = some row → v = w
  hub : HubFollows s.hub heard
  connections : ∀ c connection, s.connections c = some connection →
    ConnectionFollows s.hub connection

theorem OnTheWay.start : OnTheWay formats (.start : RealtimeSystem W C) [] [] := by
  constructor <;> simp [RealtimeSystem.start, HubFollows]

namespace OnTheWay

theorem store (h : OnTheWay formats s heard pending) (hidle : s.announcing w = none)
    (hsized : row.Sized) (hnew : ∀ old ∈ s.rows, old.id ≠ row.id) :
    OnTheWay formats { s.announce w (some row) with rows := s.rows ++ [row] } heard pending := by
  have hfresh : row ∉ s.rows := fun hmem => hnew row hmem rfl
  have hannounced : ∀ v other, Function.update s.announcing w (some row) v = some other →
      (v = w ∧ other = row) ∨ (v ≠ w ∧ s.announcing v = some other) := by
    intro v other hv
    by_cases hvw : v = w
    · subst hvw
      rw [Function.update_self] at hv
      exact .inl ⟨rfl, (Option.some.inj hv).symm⟩
    · rw [Function.update_of_ne hvw] at hv
      exact .inr ⟨hvw, hv⟩
  constructor
  · simp only [List.map_append, List.map_cons, List.map_nil]
    refine h.stored_once.append (List.nodup_singleton _) ?_
    intro id hid hrow
    obtain ⟨old, hold, rfl⟩ := List.mem_map.mp hid
    exact hnew old hold (List.mem_singleton.mp hrow)
  · intro other hother
    rcases List.mem_append.mp hother with hold | hrow
    · exact h.sized other hold
    · exact List.mem_singleton.mp hrow ▸ hsized
  · exact h.listener
  · exact h.published_once
  · exact fun other hother => List.mem_append_left _ (h.published other hother)
  · intro v other hv
    rcases hannounced v other hv with ⟨_, rfl⟩ | ⟨_, hv⟩
    · exact ⟨List.mem_append_right _ (List.mem_singleton_self _),
        fun hmem => hfresh (h.published _ hmem)⟩
    · exact ⟨List.mem_append_left _ (h.announcing v other hv).1, (h.announcing v other hv).2⟩
  · intro v u other hv hu
    rcases hannounced v other hv with ⟨rfl, rfl⟩ | ⟨_, hbefore⟩
    · rcases hannounced u other hu with ⟨rfl, _⟩ | ⟨_, hold⟩
      · rfl
      · exact absurd (h.announcing u _ hold).1 hfresh
    · rcases hannounced u other hu with ⟨rfl, rfl⟩ | ⟨_, hold⟩
      · exact absurd (h.announcing v _ hbefore).1 hfresh
      · exact h.one_notifier v u other hbefore hold
  · exact h.hub
  · exact h.connections

/-- What a notifier was about to publish is forgotten. -/
theorem abandon (h : OnTheWay formats s heard pending) (w : W) :
    OnTheWay formats (s.announce w none) heard pending := by
  have hannounced : ∀ v row, Function.update s.announcing w none v = some row →
      v ≠ w ∧ s.announcing v = some row := by
    intro v row hv
    by_cases hvw : v = w
    · subst hvw
      rw [Function.update_self] at hv
      exact nomatch hv
    · rw [Function.update_of_ne hvw] at hv
      exact ⟨hvw, hv⟩
  refine { h with announcing := ?_, one_notifier := ?_ }
  · intro v row hv
    exact h.announcing v row (hannounced v row hv).2
  · intro v u row hv hu
    exact h.one_notifier v u row (hannounced v row hv).2 (hannounced u row hu).2

/-- A payload is published: it waits for the listener if there is one, and is lost otherwise. -/
theorem publish (h : OnTheWay formats s heard pending) (hrow : s.announcing w = some row) :
    OnTheWay formats { s.announce w none with
      listener := s.listener.map (· ++ [formats.notify_payload row]) } heard
        (if s.listener.isSome then pending ++ [row] else pending) := by
  have hforgotten := h.abandon w
  cases hlistener : s.listener with
  | none =>
    refine { hforgotten with listener := ?_ }
    have hempty := h.listener
    rw [hlistener] at hempty
    exact hempty
  | some payloads =>
    have hsame := h.listener
    rw [hlistener] at hsame
    have hnot := (h.announcing w row hrow).2
    simp only [Option.isSome_some, if_true]
    refine { hforgotten with
      listener := ?_, published_once := ?_, published := ?_, announcing := ?_ }
    · simp only [Option.map_some, Option.getD_some, List.map_append, List.map_cons, List.map_nil]
      exact congrArg (· ++ _) hsame
    · rw [← List.append_assoc]
      refine h.published_once.append (List.nodup_singleton _) ?_
      intro other hother hrow
      exact hnot (List.mem_singleton.mp hrow ▸ hother)
    · intro other hother
      rw [← List.append_assoc] at hother
      rcases List.mem_append.mp hother with hold | hnew
      · exact h.published other hold
      · exact List.mem_singleton.mp hnew ▸ (h.announcing w row hrow).1
    · intro v other hv
      obtain ⟨hmem, hother⟩ := hforgotten.announcing v other hv
      refine ⟨hmem, fun hnow => ?_⟩
      rw [← List.append_assoc] at hnow
      rcases List.mem_append.mp hnow with hold | hnew
      · exact hother hold
      · obtain rfl := List.mem_singleton.mp hnew
        by_cases hvw : v = w
        · subst hvw
          have hnone : Function.update s.announcing v none v = none := Function.update_self ..
          exact nomatch hnone.symm.trans hv
        · have hv' : Function.update s.announcing w none v = s.announcing v :=
            Function.update_of_ne hvw ..
          exact hvw (h.one_notifier v w other (hv'.symm.trans hv) hrow)

theorem hear {payload : String} {rest : List String} (h : OnTheWay formats s heard pending)
    (hlistener : s.listener = some (payload :: rest)) :
    ∃ row pending', pending = row :: pending' ∧
      (s.heard formats payload rest).hub = s.hub.broadcast_async (notification_message row) ∧
      OnTheWay formats (s.heard formats payload rest) (heard ++ [row]) pending' := by
  have hsame := h.listener
  rw [hlistener] at hsame
  cases pending with
  | nil => exact nomatch hsame
  | cons row pending =>
    obtain ⟨hpayload, hrest⟩ := List.cons.inj hsame
    have hmem : row ∈ s.rows := h.published row (by simp)
    have hsplit : heard ++ [row] ++ pending = heard ++ row :: pending := by simp
    have hread : formats.message_from_notify_payload payload = some (notification_message row) := by
      rw [hpayload]
      exact formats.payload_read_back (h.sized row hmem)
    have hhub : (s.heard formats payload rest).hub =
        s.hub.broadcast_async (notification_message row) := by
      simp [RealtimeSystem.heard, hread]
    refine ⟨row, pending, rfl, hhub, ?_⟩
    constructor
    · exact h.stored_once
    · exact h.sized
    · exact hrest
    · exact hsplit ▸ h.published_once
    · exact hsplit ▸ h.published
    · exact hsplit ▸ h.announcing
    · exact h.one_notifier
    · exact hhub ▸ h.hub.broadcast row
    · intro c connection hc
      exact hhub ▸ (h.connections c connection hc).broadcast _

/-- A step of one connection. -/
theorem set_connection (h : OnTheWay formats s heard pending)
    (hnew : ConnectionFollows s.hub connection) :
    OnTheWay formats (s.set_connection c connection) heard pending := by
  refine { h with connections := ?_ }
  intro d other hd
  by_cases hdc : d = c
  · subst hdc
    have hself : Function.update s.connections d (some connection) d = some connection :=
      Function.update_self ..
    obtain rfl := Option.some.inj (hself.symm.trans hd)
    exact hnew
  · have hother : Function.update s.connections c (some connection) d = s.connections d :=
      Function.update_of_ne hdc ..
    exact h.connections d other (hother.symm.trans hd)

theorem connect (h : OnTheWay formats s heard pending) (tenant_id : Uuid) :
    OnTheWay formats { s with hub := (s.hub.subscribe_async tenant_id).2 } heard pending := by
  refine { h with hub := ?_, connections := ?_ }
  · exact h.hub.subscribe tenant_id
  · exact fun c connection hc => (h.connections c connection hc).subscribe tenant_id

/-- Only notifications are sent to a channel. -/
theorem sent_type {tenant_id : Uuid} (h : OnTheWay formats s heard pending)
    (hsent : s.hub tenant_id = some sent) (hmessage : message ∈ sent) :
    message.message_type = "in_app_notification.created" := by
  obtain ⟨row, _, _, rfl⟩ := mem_tenant_messages ((h.hub _ _ hsent).subset hmessage)
  rfl

theorem step (h : OnTheWay formats s heard pending)
    (hstep : RealtimeStep formats capacity label s t) :
    ∃ heard' pending', OnTheWay formats t heard' pending' := by
  cases hstep with
  | store w row hidle hsized hnew => exact ⟨_, _, h.store hidle hsized hnew⟩
  | publish w row hrow => exact ⟨_, _, h.publish hrow⟩
  | abandon w => exact ⟨_, _, h.abandon w⟩
  | listen hnone =>
    refine ⟨heard, pending, { h with listener := ?_ }⟩
    have hempty := h.listener
    rw [hnone] at hempty
    exact hempty
  | disconnect =>
    have hheard : ∀ row ∈ heard ++ [], row ∈ heard ++ pending := by
      intro row hrow
      rw [List.append_nil] at hrow
      exact List.mem_append_left _ hrow
    refine ⟨heard, [],
      { h with listener := rfl, published_once := ?_, published := ?_, announcing := ?_ }⟩
    · rw [List.append_nil]
      exact (List.nodup_append.mp h.published_once).1
    · exact fun row hrow => h.published row (hheard row hrow)
    · exact fun w row hrow => ⟨(h.announcing w row hrow).1,
        fun hmem => (h.announcing w row hrow).2 (hheard row hmem)⟩
  | hear hlistener =>
    obtain ⟨row, pending', _, _, hnext⟩ := h.hear hlistener
    exact ⟨_, _, hnext⟩
  | connect c tenant_id hnone =>
    exact ⟨_, _, (h.connect tenant_id).set_connection (ConnectionFollows.fresh s.hub tenant_id)⟩
  | lag hc hlive hsent hreceive =>
    exact ⟨_, _, h.set_connection ((h.connections _ _ hc).lag hsent hreceive)⟩
  | deliver hc hlive hsent hreceive =>
    obtain ⟨hmessage, _, _⟩ := Broadcast.receive_message hreceive
    have htype := h.sent_type hsent (List.mem_of_getElem? hmessage)
    exact ⟨_, _, h.set_connection ((h.connections _ _ hc).deliver hlive hsent hreceive htype)⟩
  | undelivered hc hlive hsent hreceive =>
    exact ⟨_, _, h.set_connection ((h.connections _ _ hc).undelivered hsent hreceive)⟩
  | ping sent_at hc hlive =>
    exact ⟨_, _, h.set_connection ((h.connections _ _ hc).ping sent_at)⟩
  | close hc => exact ⟨_, _, h.set_connection (h.connections _ _ hc).stop⟩

theorem run (hrun : Relation.ReflTransGen (RealtimeMove formats capacity) s t)
    (h : OnTheWay formats s heard pending) :
    ∃ heard' pending', OnTheWay formats t heard' pending' := by
  induction hrun with
  | refl => exact ⟨heard, pending, h⟩
  | tail _ hmove ih =>
    obtain ⟨label, hstep⟩ := hmove
    obtain ⟨_, _, hbefore⟩ := ih
    exact hbefore.step hstep

end OnTheWay

/-! ### What is shown -/

theorem shown_of_notifications {written : List RealtimeServerMessage}
    {rows : List InAppNotificationRow}
    (h : written.filter (fun message => message.message_type == "in_app_notification.created") =
      rows.map notification_message) :
    (written.map formats.message_text).filterMap shownBy = rows.map (shown_of formats) := by
  induction written generalizing rows with
  | nil =>
    obtain rfl := List.map_eq_nil_iff.mp h.symm
    rfl
  | cons message written ih =>
    cases message with
    | InAppNotificationCreated row =>
      cases rows with
      | nil => exact nomatch h
      | cons first rows =>
        obtain ⟨hfirst, hrest⟩ := List.cons.inj h
        obtain rfl := RealtimeServerMessage.InAppNotificationCreated.inj hfirst
        have hshown : shownBy (formats.message_text (.InAppNotificationCreated row)) = some _ :=
          notification_received formats row
        rw [List.map_cons, List.filterMap_cons_some hshown, ih hrest, List.map_cons]
    | Ping sent_at =>
      have hnone := ping_not_received formats sent_at
      have hrest : written.filter _ = rows.map notification_message := h
      rw [List.map_cons, List.filterMap_cons_none hnone, ih hrest]

theorem ConnectionFollows.rows (h : ConnectionFollows hub connection) (hhub : HubFollows hub heard) :
    ∃ rows : List InAppNotificationRow,
      rows.Sublist (heard.filter (·.tenant_id == connection.tenant_id)) ∧
      connection.notifications = rows.map notification_message := by
  obtain ⟨sent, hsent, hfollows⟩ := h.channel
  have htaken : connection.receiver.taken.Sublist sent :=
    hfollows.taken.trans ((List.drop_sublist ..).trans (List.take_sublist ..))
  exact List.sublist_map_iff.mp
    ((h.written.sublist.trans htaken).trans (hhub connection.tenant_id sent hsent))

/-! ### What is not lost -/

/-- What a step must not do if nothing is to be lost on the way to this connection. -/
def RealtimeLabel.lossless (c : C) : RealtimeLabel W C → Prop
  | .abandon _ | .disconnect => False
  | .lag d | .undelivered d | .close d => d ≠ c
  | _ => True

/-- Where a notification is while it has not been lost. -/
inductive Underway (formats : WireFormats) (s : RealtimeSystem W C) (connection : Connection)
    (row : InAppNotificationRow) : Prop where
  | announced (w : W) (h : s.announcing w = some row)
  | published (h : formats.notify_payload row ∈ s.listener.getD [])
  | sent (sent : List RealtimeServerMessage) (hsent : s.hub connection.tenant_id = some sent)
    (h : notification_message row ∈ sent.drop connection.receiver.next)
  | shown (h : shown_of formats row ∈ connection.shown formats)

theorem shown_write (connection : Connection) (message : RealtimeServerMessage)
    {notification : ShownNotification} (h : notification ∈ connection.shown formats) :
    notification ∈ (connection.write message).shown formats := by
  rw [Connection.shown, Connection.write, List.map_append, List.filterMap_append]
  exact List.mem_append_left _ h

theorem shown_written (connection : Connection) (row : InAppNotificationRow) :
    shown_of formats row ∈ (connection.write (notification_message row)).shown formats := by
  rw [Connection.shown, Connection.write, List.map_append, List.filterMap_append]
  refine List.mem_append_right _ (List.mem_filterMap.mpr ?_)
  exact ⟨_, List.mem_singleton_self _, notification_received formats row⟩

/-- The connection is live, the listener is connected, and none of the tenant's notifications that
were stored since is lost. -/
structure Lossless (formats : WireFormats) (c : C) (tenant_id : Uuid)
    (before : List InAppNotificationRow) (s : RealtimeSystem W C) (connection : Connection) :
    Prop where
  listener : ∃ payloads, s.listener = some payloads
  connected : s.connections c = some connection
  live : connection.live = true
  tenant : connection.tenant_id = tenant_id
  underway : ∀ row ∈ s.rows, row ∉ before → row.tenant_id = tenant_id →
    Underway formats s connection row

namespace Lossless

variable {tenant_id : Uuid} {before : List InAppNotificationRow}

theorem store (h : Lossless formats c tenant_id before s connection) (hidle : s.announcing w = none) :
    Lossless formats c tenant_id before
      { s.announce w (some row) with rows := s.rows ++ [row] } connection := by
  refine ⟨h.listener, h.connected, h.live, h.tenant, ?_⟩
  intro other hother hnew htenant
  rcases List.mem_append.mp hother with hold | hrow
  · cases h.underway other hold hnew htenant with
    | announced v hv =>
      have hvw : v ≠ w := by
        rintro rfl
        exact nomatch hidle.symm.trans hv
      exact .announced v ((Function.update_of_ne hvw ..).trans hv)
    | published hpublished => exact .published hpublished
    | sent sent hsent hmem => exact .sent sent hsent hmem
    | shown hshown => exact .shown hshown
  · obtain rfl := List.mem_singleton.mp hrow
    exact .announced w (Function.update_self ..)

theorem publish (h : Lossless formats c tenant_id before s connection)
    (hrow : s.announcing w = some row) :
    Lossless formats c tenant_id before { s.announce w none with
      listener := s.listener.map (· ++ [formats.notify_payload row]) } connection := by
  obtain ⟨payloads, hpayloads⟩ := h.listener
  have hlistener : s.listener.map (· ++ [formats.notify_payload row]) =
      some (payloads ++ [formats.notify_payload row]) := by rw [hpayloads]; rfl
  refine ⟨⟨_, hlistener⟩, h.connected, h.live, h.tenant, ?_⟩
  intro other hother hnew htenant
  cases h.underway other hother hnew htenant with
  | announced v hv =>
    by_cases hvw : v = w
    · subst hvw
      obtain rfl := Option.some.inj (hrow.symm.trans hv)
      refine .published ?_
      simp [hpayloads]
    · exact .announced v ((Function.update_of_ne hvw ..).trans hv)
  | published hpublished =>
    rw [hpayloads] at hpublished
    refine .published ?_
    simp only [hpayloads, Option.map_some, Option.getD_some]
    exact List.mem_append_left _ hpublished
  | sent sent hsent hmem => exact .sent sent hsent hmem
  | shown hshown => exact .shown hshown

/-- What was sent before stays sent, and what the listener has heard of is sent now. -/
theorem hear {payload : String} {rest : List String}
    (h : Lossless formats c tenant_id before s connection)
    (hway : OnTheWay formats s heard pending) (hlistener : s.listener = some (payload :: rest)) :
    Lossless formats c tenant_id before (s.heard formats payload rest) connection := by
  obtain ⟨first, _, hpending, hhub, _⟩ := hway.hear hlistener
  obtain ⟨sent, hsent, hfollows⟩ := (hway.connections c connection h.connected).channel
  have hkept : ∀ message ∈ sent.drop connection.receiver.next, ∃ sent',
      (s.heard formats payload rest).hub connection.tenant_id = some sent' ∧
        message ∈ sent'.drop connection.receiver.next := by
    intro message hmem
    rw [hhub]
    by_cases hother : (notification_message first).tenant_id = connection.tenant_id
    · refine ⟨sent ++ [notification_message first], ?_, ?_⟩
      · rw [← hother] at hsent ⊢
        exact broadcast_self hsent
      · rw [List.drop_append_of_le_length hfollows.next_le]
        exact List.mem_append_left _ hmem
    · exact ⟨sent, (broadcast_other hother).trans hsent, hmem⟩
  refine ⟨⟨rest, rfl⟩, h.connected, h.live, h.tenant, ?_⟩
  intro row hrow hnew htenant
  cases h.underway row hrow hnew htenant with
  | announced v hv => exact .announced v hv
  | published hpublished =>
    rw [hlistener] at hpublished
    rcases List.mem_cons.mp hpublished with hfirst | hlater
    · have hread := formats.payload_read_back (hway.sized row hrow)
      have hself : (s.heard formats payload rest).hub =
          s.hub.broadcast_async (notification_message row) := by
        rw [hfirst] at hread
        simp only [RealtimeSystem.heard, hread]
      have htenant' : (notification_message row).tenant_id = connection.tenant_id :=
        htenant.trans h.tenant.symm
      refine .sent (sent ++ [notification_message row]) ?_ ?_
      · rw [hself]
        rw [← htenant'] at hsent ⊢
        exact broadcast_self hsent
      · rw [List.drop_append_of_le_length hfollows.next_le]
        exact List.mem_append_right _ (List.mem_singleton_self _)
    · exact .published hlater
  | sent sent' hsent' hmem =>
    obtain rfl := Option.some.inj (hsent.symm.trans hsent')
    obtain ⟨sent', hsent', hmem'⟩ := hkept _ hmem
    exact .sent sent' hsent' hmem'
  | shown hshown => exact .shown hshown

/-- What another connection does takes nothing away. -/
theorem other {d : C} {new : Connection} (h : Lossless formats c tenant_id before s connection)
    (hother : d ≠ c) : Lossless formats c tenant_id before (s.set_connection d new) connection := by
  refine ⟨h.listener, ?_, h.live, h.tenant, ?_⟩
  · exact (Function.update_of_ne hother.symm ..).trans h.connected
  · intro row hrow hnew htenant
    cases h.underway row hrow hnew htenant with
    | announced v hv => exact .announced v hv
    | published hpublished => exact .published hpublished
    | sent sent hsent hmem => exact .sent sent hsent hmem
    | shown hshown => exact .shown hshown

theorem subscribed (h : Lossless formats c tenant_id before s connection) (newcomer : Uuid) :
    Lossless formats c tenant_id before { s with hub := (s.hub.subscribe_async newcomer).2 }
      connection := by
  refine ⟨h.listener, h.connected, h.live, h.tenant, ?_⟩
  intro row hrow hnew htenant
  cases h.underway row hrow hnew htenant with
  | announced v hv => exact .announced v hv
  | published hpublished => exact .published hpublished
  | sent sent hsent hmem => exact .sent sent (subscribe_hub s.hub _ _ hsent) hmem
  | shown hshown => exact .shown hshown

theorem deliver {next : Nat} (h : Lossless formats c tenant_id before s connection)
    (hsent : s.hub connection.tenant_id = some sent)
    (hreceive : Broadcast.receive capacity sent connection.receiver.next = (.message message, next)) :
    Lossless formats c tenant_id before
      (s.set_connection c ((connection.advance capacity sent).write message))
      ((connection.advance capacity sent).write message) := by
  obtain ⟨hmessage, hnext, _⟩ := Broadcast.receive_message hreceive
  have hposition : ((connection.advance capacity sent).write message).receiver.next =
      connection.receiver.next + 1 := by
    simp [Connection.advance, Connection.write, Broadcast.Receiver.advance, hreceive, hnext]
  refine ⟨h.listener, Function.update_self .., h.live, h.tenant, ?_⟩
  intro row hrow hnew htenant
  cases h.underway row hrow hnew htenant with
  | announced v hv => exact .announced v hv
  | published hpublished => exact .published hpublished
  | sent sent' hsent' hmem =>
    obtain rfl := Option.some.inj (hsent.symm.trans hsent')
    obtain ⟨hlt, hget⟩ := List.getElem?_eq_some_iff.mp hmessage
    rw [List.drop_eq_getElem_cons hlt, hget] at hmem
    rcases List.mem_cons.mp hmem with hfirst | hlater
    · refine .shown ?_
      rw [← hfirst]
      exact shown_written _ row
    · refine .sent sent hsent ?_
      rw [hposition]
      exact hlater
  | shown hshown => exact .shown (shown_write (connection.advance capacity sent) message hshown)

theorem ping (h : Lossless formats c tenant_id before s connection) (sent_at : Timestamp) :
    Lossless formats c tenant_id before (s.set_connection c (connection.write (.Ping sent_at)))
      (connection.write (.Ping sent_at)) := by
  refine ⟨h.listener, Function.update_self .., h.live, h.tenant, ?_⟩
  intro row hrow hnew htenant
  cases h.underway row hrow hnew htenant with
  | announced v hv => exact .announced v hv
  | published hpublished => exact .published hpublished
  | sent sent hsent hmem => exact .sent sent hsent hmem
  | shown hshown => exact .shown (shown_write connection _ hshown)

theorem step (h : Lossless formats c tenant_id before s connection)
    (hway : OnTheWay formats s heard pending) (hlossless : label.lossless c)
    (hstep : RealtimeStep formats capacity label s t) :
    ∃ connection', Lossless formats c tenant_id before t connection' := by
  cases hstep with
  | store w row hidle => exact ⟨_, h.store hidle⟩
  | publish w row hrow => exact ⟨_, h.publish hrow⟩
  | abandon w => exact hlossless.elim
  | listen hnone =>
    obtain ⟨payloads, hpayloads⟩ := h.listener
    exact nomatch hnone.symm.trans hpayloads
  | disconnect => exact hlossless.elim
  | hear hlistener => exact ⟨_, h.hear hway hlistener⟩
  | connect d newcomer hnone =>
    have hother : d ≠ c := by
      rintro rfl
      exact nomatch hnone.symm.trans h.connected
    exact ⟨_, (h.subscribed newcomer).other hother⟩
  | lag hd hlive hsent hreceive => exact ⟨_, h.other hlossless⟩
  | deliver hd hlive hsent hreceive =>
    rename_i d _ _ _ _
    by_cases hdc : d = c
    · subst hdc
      obtain rfl := Option.some.inj (h.connected.symm.trans hd)
      exact ⟨_, h.deliver hsent hreceive⟩
    · exact ⟨_, h.other hdc⟩
  | undelivered hd hlive hsent hreceive => exact ⟨_, h.other hlossless⟩
  | ping sent_at hd hlive =>
    rename_i d _
    by_cases hdc : d = c
    · subst hdc
      obtain rfl := Option.some.inj (h.connected.symm.trans hd)
      exact ⟨_, h.ping sent_at⟩
    · exact ⟨_, h.other hdc⟩
  | close hd => exact ⟨_, h.other hlossless⟩

end Lossless

/-- Any step that loses nothing on the way to this connection. -/
def LosslessMove (formats : WireFormats) (capacity : Nat) (c : C) (s t : RealtimeSystem W C) : Prop :=
  ∃ label : RealtimeLabel W C, label.lossless c ∧ RealtimeStep formats capacity label s t

theorem Lossless.run {tenant_id : Uuid} {before : List InAppNotificationRow}
    (hrun : Relation.ReflTransGen (LosslessMove formats capacity c) s t)
    (h : Lossless formats c tenant_id before s connection) (hway : OnTheWay formats s heard pending) :
    ∃ connection' heard' pending', Lossless formats c tenant_id before t connection' ∧
      OnTheWay formats t heard' pending' := by
  induction hrun with
  | refl => exact ⟨connection, heard, pending, h, hway⟩
  | tail _ hmove ih =>
    obtain ⟨label, hlossless, hstep⟩ := hmove
    obtain ⟨_, _, _, hbefore, hwaybefore⟩ := ih
    obtain ⟨_, hnext⟩ := hbefore.step hwaybefore hlossless hstep
    obtain ⟨_, _, hwaynext⟩ := hwaybefore.step hstep
    exact ⟨_, _, _, hnext, hwaynext⟩

end Delivery

/-! ### One notification, all the way -/

namespace Sample
open PlainFormats

def row : InAppNotificationRow where
  id := 1
  tenant_id := 2
  event_id := 3
  delivery_id := none
  title := "Deposit"
  body := "1 ETH"
  read_at := none
  created_at := 0

theorem row_sized : row.Sized :=
  ⟨by decide, by decide, by decide, nofun⟩

def browser : Connection where
  tenant_id := 2
  receiver := Broadcast.subscribe []
  written := []
  live := true

/-- One browser of the tenant is connected. -/
def connected : RealtimeSystem Unit Unit :=
  let listening : RealtimeSystem Unit Unit := { RealtimeSystem.start with listener := some [] }
  { listening.set_connection () browser with
    hub := (listening.hub.subscribe_async 2).2 }

theorem connected_run : Relation.ReflTransGen (RealtimeMove formats 1) .start connected := by
  have hlisten : RealtimeMove formats 1 (.start : RealtimeSystem Unit Unit)
      { RealtimeSystem.start with listener := some [] } := ⟨_, .listen rfl⟩
  exact (Relation.ReflTransGen.single hlisten).tail ⟨_, .connect () 2 rfl⟩

def published : RealtimeSystem Unit Unit :=
  let stored := { connected.announce () (some row) with rows := connected.rows ++ [row] }
  { stored.announce () none with
    listener := stored.listener.map (· ++ [formats.notify_payload row]) }

def heard : RealtimeSystem Unit Unit :=
  published.heard formats (formats.notify_payload row) []

def delivered : RealtimeSystem Unit Unit :=
  heard.set_connection () ((browser.advance 1 [notification_message row]).write
    (notification_message row))

theorem delivered_run : Relation.ReflTransGen (LosslessMove formats 1 ()) connected delivered := by
  have hstore : LosslessMove formats 1 () connected
      { connected.announce () (some row) with rows := connected.rows ++ [row] } :=
    ⟨.store (), trivial, .store () row rfl row_sized nofun⟩
  have hpublish : LosslessMove formats 1 ()
      { connected.announce () (some row) with rows := connected.rows ++ [row] } published :=
    ⟨.publish (), trivial, .publish () row rfl⟩
  have hhear : LosslessMove formats 1 () published heard := ⟨.hear, trivial, .hear rfl⟩
  have hsent : heard.hub browser.tenant_id = some [notification_message row] := by
    simp only [heard, RealtimeSystem.heard, formats.payload_read_back row_sized]
    rfl
  have hreceive : Broadcast.receive 1 [notification_message row] browser.receiver.next =
      (.message (notification_message row), 1) := rfl
  have hconnected : heard.connections () = some browser := rfl
  have hdeliver : LosslessMove formats 1 () heard delivered :=
    ⟨.deliver (), trivial, .deliver hconnected rfl hsent hreceive⟩
  exact (((Relation.ReflTransGen.single hstore).tail hpublish).tail hhear).tail hdeliver

theorem lossless_moves {capacity : Nat} {s : RealtimeSystem Unit Unit}
    (h : Relation.ReflTransGen (LosslessMove formats capacity ()) connected s) :
    Relation.ReflTransGen (RealtimeMove formats capacity) connected s := by
  induction h with
  | refl => exact .refl
  | tail _ hmove ih =>
    obtain ⟨label, _, hstep⟩ := hmove
    exact ih.tail ⟨label, hstep⟩

end Sample

/-! ### Every run -/

variable {W C : Type} [DecidableEq W] [DecidableEq C] {formats : WireFormats} {capacity : Nat}
  {s t : RealtimeSystem W C} {c : C} {connection : Connection}

/-- In every run, whatever is lost on the way, a browser is shown stored notifications of its own
tenant, as they were stored and each once at most. -/
theorem shown_notifications
    (hrun : Relation.ReflTransGen (RealtimeMove formats capacity) (.start : RealtimeSystem W C) s)
    (hc : s.connections c = some connection) :
    ∃ rows : List InAppNotificationRow, connection.shown formats = rows.map (shown_of formats) ∧
      (rows.map (·.id)).Nodup ∧ ∀ row ∈ rows, row ∈ s.rows ∧ row.tenant_id = connection.tenant_id := by
  obtain ⟨heard, pending, hway⟩ := OnTheWay.run hrun .start
  obtain ⟨rows, hsub, hnotifications⟩ := (hway.connections c connection hc).rows hway.hub
  have hheard : ∀ row ∈ rows, row ∈ heard ∧ row.tenant_id = connection.tenant_id := by
    intro row hrow
    obtain ⟨hmem, htenant⟩ := List.mem_filter.mp (hsub.subset hrow)
    exact ⟨hmem, by simpa using htenant⟩
  have hstored : ∀ row ∈ rows, row ∈ s.rows :=
    fun row hrow => hway.published row (List.mem_append_left _ (hheard row hrow).1)
  have hnodup : rows.Nodup :=
    (hsub.trans List.filter_sublist).nodup (List.nodup_append.mp hway.published_once).1
  refine ⟨rows, shown_of_notifications hnotifications, ?_,
    fun row hrow => ⟨hstored row hrow, (hheard row hrow).2⟩⟩
  refine List.Nodup.map_on (fun a ha b hb hab => ?_) hnodup
  exact List.inj_on_of_nodup_map hway.stored_once (hstored a ha) (hstored b hb) hab

theorem shown_notifications_delivered : ∃ rows : List InAppNotificationRow,
    Connection.shown PlainFormats.formats
      ((Sample.browser.advance 1 [notification_message Sample.row]).write
        (notification_message Sample.row)) = rows.map (shown_of PlainFormats.formats) ∧
      (rows.map (·.id)).Nodup ∧ ∀ row ∈ rows, row ∈ Sample.delivered.rows ∧ row.tenant_id = 2 :=
  shown_notifications (c := ()) (s := Sample.delivered)
    (Sample.connected_run.trans (Sample.lossless_moves Sample.delivered_run)) rfl

end CoinListener.Api
