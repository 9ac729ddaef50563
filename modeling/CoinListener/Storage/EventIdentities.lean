import CoinListener.Storage.EventRace

/-! The events that racing calls leave: one for each transfer passed, and a row for each event. -/
namespace CoinListener.Storage
open Foundation

/-! ### What is promised -/

/-- The committed tables: a completed call has its event, an event comes from a call, a transfer is
stored once, and events and rows go together. -/
structure EventRace.Kept {W : Type} (s : EventRace W) : Prop where
  stored : ∀ draft ∈ s.completed, ∀ key, draft.unique_transfer = some key → s.HasEvent key
  passed : ∀ e ∈ s.address_events, e.toAddressEventDraft ∈ s.passed
  once : s.address_events.Pairwise Distinct
  notified : ∀ e ∈ s.address_events, ∃ row ∈ s.notification_outbox, row.event_id = e.id
  one_row : (s.notification_outbox.map (·.event_id)).Nodup
  has_event : ∀ row ∈ s.notification_outbox, ∃ e ∈ s.address_events, e.id = row.event_id

namespace OpenEvent

/-- What a transaction holds once its call is done with the draft. -/
inductive Holds (draft : AddressEventDraft) : Option AddressEvent → OpenEvent → Prop where
  | known : Holds draft none .idle
  | stored {event row} (hdraft : event.toAddressEventDraft = draft) (hrow : row.event_id = event.id) :
    Holds draft (some event) (.notified event row)

end OpenEvent

/-- A commit comes at the end of a call, and a row is for the event of its own transaction. -/
def event_permitted {W : Type} (w : W) (s : EventRace W) : EventStatement → Prop
  | .commit draft => (∃ event, OpenEvent.Holds draft event (s.opened w)) ∧
    ∀ key, draft.unique_transfer = some key → s.opened w = .idle → s.HasEvent key
  | .insert_notification_outbox_for_event _ event_id =>
    ∃ event, s.opened w = .inserted event ∧ event.id = event_id
  | .insert_event_if_not_exists draft => draft ∈ s.passed
  | _ => True

/-- What a transaction holds is nobody else's. -/
structure EventInvariant {W : Type} (s : EventRace W) : Prop where
  kept : s.Kept
  id_lt : ∀ e ∈ s.address_events, e.id < s.next_id
  held : ∀ w, ∀ event ∈ (s.opened w).events, event.id < s.next_id ∧
    event.toAddressEventDraft ∈ s.passed ∧
    ∀ e ∈ s.address_events, e.id ≠ event.id ∧ Distinct e event
  apart : ∀ v w, v ≠ w → ∀ a ∈ (s.opened v).events, ∀ b ∈ (s.opened w).events,
    a.id ≠ b.id ∧ Distinct a b
  row : ∀ w event row, s.opened w = .notified event row → row.event_id = event.id

section Invariant
variable {W : Type} [DecidableEq W] {s t : EventRace W} {w : W}

theorem open_event_cases {v : W} (opened : OpenEvent) :
    (v = w ∧ (s.set_opened w opened).opened v = opened) ∨
      (v ≠ w ∧ (s.set_opened w opened).opened v = s.opened v) := by
  by_cases hsame : v = w
  · subst hsame
    exact .inl ⟨rfl, by simp [EventRace.set_opened]⟩
  · exact .inr ⟨hsame, by simp [EventRace.set_opened, hsame]⟩

/-- A transaction may hold an event that is nobody else's, with its row. -/
theorem EventInvariant.set_opened (h : EventInvariant s) {opened : OpenEvent}
    (hheld : ∀ event ∈ opened.events, event.id < s.next_id ∧
      event.toAddressEventDraft ∈ s.passed ∧
      (∀ e ∈ s.address_events, e.id ≠ event.id ∧ Distinct e event) ∧
      ∀ v, v ≠ w → ∀ other ∈ (s.opened v).events, other.id ≠ event.id ∧ Distinct other event)
    (hrow : ∀ event row, opened = .notified event row → row.event_id = event.id) :
    EventInvariant (s.set_opened w opened) := by
  refine ⟨⟨h.kept.stored, h.kept.passed, h.kept.once, h.kept.notified, h.kept.one_row,
    h.kept.has_event⟩, h.id_lt, ?_, ?_, ?_⟩
  · intro v event hevent
    rcases open_event_cases (s := s) (w := w) (v := v) opened with ⟨_, hown⟩ | ⟨_, hold⟩
    · rw [hown] at hevent
      obtain ⟨hlt, hpassed, hrows, _⟩ := hheld event hevent
      exact ⟨hlt, hpassed, hrows⟩
    · rw [hold] at hevent
      exact h.held v event hevent
  · intro u v huv a ha b hb
    rcases open_event_cases (s := s) (w := w) (v := u) opened with ⟨rfl, hown⟩ | ⟨hu, hold⟩
    · rcases open_event_cases (s := s) (w := u) (v := v) opened with ⟨rfl, _⟩ | ⟨hv, hold⟩
      · exact absurd rfl huv
      · rw [hown] at ha
        rw [hold] at hb
        obtain ⟨hid, hkey⟩ := (hheld a ha).2.2.2 v hv b hb
        exact ⟨hid.symm, Std.Symm.symm _ _ hkey⟩
    · rw [hold] at ha
      rcases open_event_cases (s := s) (w := w) (v := v) opened with ⟨rfl, hown⟩ | ⟨_, hold'⟩
      · rw [hown] at hb
        exact (hheld b hb).2.2.2 u hu a ha
      · rw [hold'] at hb
        exact h.apart u v huv a ha b hb
  · intro v event row hv
    rcases open_event_cases (s := s) (w := w) (v := v) opened with ⟨_, hown⟩ | ⟨_, hold⟩
    · exact hrow event row (hown.symm.trans hv)
    · exact h.row v event row (hold.symm.trans hv)

theorem EventInvariant.idle (h : EventInvariant s) : EventInvariant (s.set_opened w .idle) := by
  refine h.set_opened ?_ ?_
  · intro event hevent
    cases hevent
  · intro event row hrow
    cases hrow

omit [DecidableEq W] in
theorem EventRace.conflicts_iff {draft : AddressEventDraft} : s.conflicts draft = true ↔
    ∃ key, draft.unique_transfer = some key ∧ s.HasEvent key := by
  cases h : draft.unique_transfer <;> simp [EventRace.conflicts, EventRace.HasEvent, h]

theorem EventInvariant.insert (h : EventInvariant s) {draft : AddressEventDraft}
    (hpassed : draft ∈ s.passed)
    (hfree : ∀ key, draft.unique_transfer = some key → s.TransferFree w key) :
    EventInvariant (s.insert_event_if_not_exists w draft).2 := by
  unfold EventRace.insert_event_if_not_exists
  split
  · exact h
  · rename_i hnew
    have hnext : EventInvariant { s with next_id := s.next_id + 1 } := by
      refine ⟨⟨h.kept.stored, h.kept.passed, h.kept.once, h.kept.notified, h.kept.one_row,
        h.kept.has_event⟩, fun e he => Nat.lt_succ_of_lt (h.id_lt e he), ?_, h.apart, h.row⟩
      intro v event hevent
      obtain ⟨hlt, hrest⟩ := h.held v event hevent
      exact ⟨Nat.lt_succ_of_lt hlt, hrest⟩
    refine hnext.set_opened (w := w) ?_ ?_
    · intro event hevent
      obtain rfl := List.mem_singleton.mp hevent
      refine ⟨Nat.lt_succ_self _, hpassed, fun e he => ⟨Nat.ne_of_lt (h.id_lt e he), ?_⟩, ?_⟩
      · intro key hkey hnewkey
        exact hnew (EventRace.conflicts_iff.mpr ⟨key, hnewkey, e, he, hkey⟩)
      · intro v hv other hother
        refine ⟨Nat.ne_of_lt (h.held v other hother).1, fun key hkey hnewkey => ?_⟩
        exact hfree key hnewkey v hv other hother hkey
    · intro event row hrow
      cases hrow

theorem EventInvariant.notify (h : EventInvariant s) {tenant_id event_id : Uuid}
    {event : AddressEvent} (hopened : s.opened w = .inserted event) (hid : event.id = event_id) :
    EventInvariant (s.insert_notification_outbox_for_event w tenant_id event_id) := by
  unfold EventRace.insert_notification_outbox_for_event
  split
  · exact h
  · rw [hopened]
    have hmem : event ∈ (s.opened w).events := by
      rw [hopened]
      exact List.mem_singleton_self _
    refine h.set_opened ?_ ?_
    · intro other hother
      obtain rfl := List.mem_singleton.mp hother
      obtain ⟨hlt, hpassed, hrows⟩ := h.held w other hmem
      refine ⟨hlt, hpassed, hrows, fun v hv b hb => ?_⟩
      exact h.apart v w hv b hb other hmem
    · intro other row hrow
      cases hrow
      exact hid.symm

/-- What a transaction holds goes to the tables in one piece. -/
theorem EventInvariant.commit (h : EventInvariant s) {draft : AddressEventDraft}
    {event : Option AddressEvent} (hholds : OpenEvent.Holds draft event (s.opened w)) :
    EventInvariant (s.commit w) := by
  generalize hopened : s.opened w = opened at hholds
  have hidle := h.idle (w := w)
  cases hholds with
  | known =>
    have hsame : s.commit w = s.set_opened w .idle := by
      simp [EventRace.commit, EventRace.set_opened, hopened, OpenEvent.events, OpenEvent.rows]
    rw [hsame]
    exact hidle
  | @stored event row hdraft hrow =>
    have hmem : event ∈ (s.opened w).events := by
      rw [hopened]
      exact List.mem_singleton_self _
    obtain ⟨hlt, hpassed, hrows⟩ := h.held w event hmem
    have hevents : (s.commit w).address_events = s.address_events ++ [event] := by
      simp [EventRace.commit, hopened, OpenEvent.events]
    have houtbox : (s.commit w).notification_outbox = s.notification_outbox ++ [row] := by
      simp [EventRace.commit, hopened, OpenEvent.rows]
    have hmem_events : ∀ e ∈ (s.commit w).address_events, e ∈ s.address_events ∨ e = event := by
      intro e he
      rw [hevents] at he
      simpa using he
    refine ⟨⟨?_, ?_, ?_, ?_, ?_, ?_⟩, ?_, ?_, hidle.apart, hidle.row⟩
    · intro other hother key hkey
      obtain ⟨e, he, hekey⟩ := h.kept.stored other hother key hkey
      refine ⟨e, ?_, hekey⟩
      rw [hevents]
      exact List.mem_append_left _ he
    · intro e he
      rcases hmem_events e he with hold | rfl
      · exact h.kept.passed e hold
      · exact hpassed
    · rw [hevents]
      refine List.pairwise_append.mpr ⟨h.kept.once, List.pairwise_singleton .., fun e he b hb => ?_⟩
      obtain rfl := List.mem_singleton.mp hb
      exact (hrows e he).2
    · intro e he
      rw [houtbox]
      rcases hmem_events e he with hold | rfl
      · obtain ⟨r, hr, hid⟩ := h.kept.notified e hold
        exact ⟨r, List.mem_append_left _ hr, hid⟩
      · exact ⟨row, List.mem_append_right _ (List.mem_singleton_self _), hrow⟩
    · rw [houtbox, List.map_append, List.nodup_append]
      refine ⟨h.kept.one_row, List.nodup_singleton _, fun a ha b hb hab => ?_⟩
      obtain ⟨r, hr, rfl⟩ := List.mem_map.mp ha
      obtain ⟨e, he, hid⟩ := h.kept.has_event r hr
      obtain rfl := List.mem_singleton.mp hb
      exact (hrows e he).1 (hid.trans (hab.trans hrow))
    · intro r hr
      rw [houtbox] at hr
      rw [hevents]
      rcases List.mem_append.mp hr with hold | hnew
      · obtain ⟨e, he, hid⟩ := h.kept.has_event r hold
        exact ⟨e, List.mem_append_left _ he, hid⟩
      · obtain rfl := List.mem_singleton.mp hnew
        exact ⟨event, List.mem_append_right _ (List.mem_singleton_self _), hrow.symm⟩
    · intro e he
      rcases hmem_events e he with hold | rfl
      · exact h.id_lt e hold
      · exact hlt
    · intro v other hother
      have hv : v ≠ w := by
        rintro rfl
        simp [EventRace.commit, EventRace.set_opened, OpenEvent.events] at hother
      have hsame : (s.commit w).opened v = s.opened v := by
        simp [EventRace.commit, EventRace.set_opened, hv]
      rw [hsame] at hother
      obtain ⟨holt, hopassed, horows⟩ := h.held v other hother
      refine ⟨holt, hopassed, fun e he => ?_⟩
      rcases hmem_events e he with hold | rfl
      · exact horows e hold
      · exact h.apart w v hv.symm e hmem other hother

omit [DecidableEq W] in
theorem EventInvariant.mark (h : EventInvariant s) {p : NotificationOutboxItem → Bool}
    {f : NotificationOutboxItem → NotificationOutboxItem}
    (hf : ∀ row, (f row).event_id = row.event_id) :
    EventInvariant { s with notification_outbox := Table.update p f s.notification_outbox } := by
  refine ⟨⟨h.kept.stored, h.kept.passed, h.kept.once, ?_, ?_, ?_⟩, h.id_lt, h.held, h.apart, h.row⟩
  · intro e he
    obtain ⟨row, hrow, hid⟩ := h.kept.notified e he
    exact ⟨_, List.mem_map_of_mem hrow, (Table.revise_column hf row).trans hid⟩
  · rw [Table.update_column hf]
    exact h.kept.one_row
  · intro row hrow
    obtain ⟨old, hold, rfl⟩ := Table.mem_update.mp hrow
    obtain ⟨e, he, hid⟩ := h.kept.has_event old hold
    exact ⟨e, he, hid.trans (Table.revise_column hf old).symm⟩

/-! ### Steps -/

theorem EventInvariant.run (h : EventInvariant s) {op : EventStatement}
    (hA : event_permitted w s op) (hfree : op.Free s w) : EventInvariant (op.run s w).2 := by
  cases op with
  | begin => exact h.idle
  | insert_event_if_not_exists draft => exact h.insert hA hfree
  | insert_notification_outbox_for_event tenant_id event_id =>
    obtain ⟨event, hopened, hid⟩ := hA
    exact h.notify hopened hid
  | commit draft =>
    obtain ⟨⟨event, hholds⟩, _⟩ := hA
    exact h.commit hholds
  | rollback => exact h.idle

/-- A completed call has its event. -/
theorem EventInvariant.heard (h : EventInvariant s) {op : EventStatement}
    (hA : event_permitted w s op) (hfree : op.Free s w) :
    EventInvariant (op.heard (op.run s w).2) := by
  have hrun := h.run hA hfree
  cases op with
  | commit draft =>
    obtain ⟨⟨event, hholds⟩, hknown⟩ := hA
    refine ⟨⟨fun other hother key hkey => ?_, hrun.kept.passed, hrun.kept.once, hrun.kept.notified,
      hrun.kept.one_row, hrun.kept.has_event⟩, hrun.id_lt, hrun.held, hrun.apart, hrun.row⟩
    rcases List.mem_append.mp hother with hold | hnew
    · exact hrun.kept.stored other hold key hkey
    · obtain rfl := List.mem_singleton.mp hnew
      generalize hopened : s.opened w = opened at hholds
      cases hholds with
      | known =>
        obtain ⟨e, he, hekey⟩ := hknown key hkey hopened
        exact ⟨e, List.mem_append_left _ he, hekey⟩
      | @stored event row hdraft _ =>
        have hnew : event ∈ (s.commit w).address_events := by
          simp [EventRace.commit, hopened, OpenEvent.events]
        exact ⟨event, hnew, hdraft ▸ hkey⟩
  | _ => exact hrun

theorem EventInvariant.statement (h : EventInvariant s) {op : EventStatement}
    {r : AppResult op.Answer} (hA : event_permitted w s op) (hs : EventCarried w s op r t) :
    EventInvariant t := by
  cases hs with
  | answered hfree => exact h.heard hA hfree
  | refused => exact h
  | lost message hop hfree => exact h.run hA hfree
  | commit_refused => exact h.idle

/-- What a caller may count on: its own transaction, the events and the drafts passed. -/
structure EventRace.Later (v : W) (s t : EventRace W) : Prop where
  opened : t.opened v = s.opened v
  events : ∀ e ∈ s.address_events, e ∈ t.address_events
  passed : ∀ draft ∈ s.passed, draft ∈ t.passed

theorem later_of_ne {v : W} (hv : v ≠ w) {op : EventStatement} {r : AppResult op.Answer}
    (hs : EventCarried w s op r t) : s.Later v t := by
  have hset : ∀ opened, s.Later v (s.set_opened w opened) := fun opened =>
    ⟨by simp [EventRace.set_opened, hv], fun _ h => h, fun _ h => h⟩
  have hrun : s.Later v (op.run s w).2 := by
    cases op with
    | begin => exact hset _
    | insert_event_if_not_exists draft =>
      simp only [EventStatement.run, EventRace.insert_event_if_not_exists]
      split
      · exact ⟨rfl, fun _ h => h, fun _ h => h⟩
      · exact ⟨(hset _).opened, fun _ h => h, fun _ h => h⟩
    | insert_notification_outbox_for_event =>
      simp only [EventStatement.run, EventRace.insert_notification_outbox_for_event]
      split
      · exact ⟨rfl, fun _ h => h, fun _ h => h⟩
      · split
        · exact hset _
        · exact ⟨rfl, fun _ h => h, fun _ h => h⟩
    | commit =>
      exact ⟨(hset .idle).opened, fun _ h => List.mem_append_left _ h, fun _ h => h⟩
    | rollback => exact hset _
  cases hs with
  | answered =>
    cases op with
    | commit => exact ⟨hrun.opened, hrun.events, hrun.passed⟩
    | _ => exact hrun
  | refused => exact ⟨rfl, fun _ h => h, fun _ h => h⟩
  | lost => exact hrun
  | commit_refused => exact hset _

end Invariant

/-! ### The call -/

section Calls
open Prog
variable {W : Type} [DecidableEq W] {w : W} {draft : AddressEventDraft}

/-- What a call knows: its draft is passed, what its transaction holds, and perhaps that the event is
stored. -/
structure EventKnown where
  draft : AddressEventDraft
  opened : OpenEvent → Prop
  stored : Prop

def event_known (w : W) (known : EventKnown) (s : EventRace W) : Prop :=
  known.draft ∈ s.passed ∧ known.opened (s.opened w) ∧
    (known.stored → ∀ key, known.draft.unique_transfer = some key → s.HasEvent key)

omit [DecidableEq W] in
theorem EventRace.Later.keeps {s t : EventRace W} (h : s.Later w t) :
    Keeps (event_known w) s t := by
  rintro known ⟨hpassed, hopened, hstored⟩
  refine ⟨h.passed _ hpassed, h.opened ▸ hopened, fun hk key hkey => ?_⟩
  obtain ⟨e, he, hekey⟩ := hstored hk key hkey
  exact ⟨e, h.events e he, hekey⟩

/-- A part of a call; after an error only the draft is known. -/
abbrev EventPhase (w : W) (draft : AddressEventDraft) {α : Type} (P : OpenEvent → Prop)
    (p : EventProg α) (Q : α → OpenEvent → Prop) (stored : α → Prop) : Prop :=
  Triple (event_permitted w) (Within EventInvariant (EventCarried w))
    (Assn.of (event_known w) ⟨draft, P, False⟩) p
    (fun a => Assn.of (event_known w) ⟨draft, Q a, stored a⟩)
    fun _ => Assn.of (event_known w) ⟨draft, fun _ => True, False⟩

/-- A statement before the commit. -/
theorem event_statement_phase {P : OpenEvent → Prop} {op : EventStatement}
    (hop : ∀ draft, op ≠ .commit draft) {Q : op.Answer → OpenEvent → Prop} {stored : op.Answer → Prop}
    (hA : ∀ s : EventRace W, draft ∈ s.passed → P (s.opened w) → event_permitted w s op)
    (hrun : ∀ s : EventRace W, EventInvariant s → P (s.opened w) →
      Q (op.run s w).1 ((op.run s w).2.opened w) ∧ (stored (op.run s w).1 →
        ∀ key, draft.unique_transfer = some key → s.HasEvent key)) :
    EventPhase w draft P (event_statement op) Q stored := by
  refine .perform (fun s hs => hA s hs.1 hs.2.1) fun s hs r t ht => ?_
  obtain ⟨hinv, hcarried, _⟩ := ht
  obtain ⟨hpassed, hopened, _⟩ := hs
  have hsame : ∀ u : EventRace W, u = (op.run s w).2 → draft ∈ u.passed ∧
      ∀ key, s.HasEvent key → u.HasEvent key := by
    rintro u rfl
    cases op with
    | commit draft => exact absurd rfl (hop draft)
    | insert_event_if_not_exists =>
      simp only [EventStatement.run, EventRace.insert_event_if_not_exists]
      split <;> exact ⟨hpassed, fun _ h => h⟩
    | insert_notification_outbox_for_event =>
      simp only [EventStatement.run, EventRace.insert_notification_outbox_for_event]
      split
      · exact ⟨hpassed, fun _ h => h⟩
      · split <;> exact ⟨hpassed, fun _ h => h⟩
    | _ => exact ⟨hpassed, fun _ h => h⟩
  obtain ⟨hpassed', hevents⟩ := hsame _ rfl
  cases hcarried with
  | answered =>
    have hheard : op.heard (op.run s w).2 = (op.run s w).2 := by
      cases op with
      | commit draft => exact absurd rfl (hop draft)
      | _ => rfl
    obtain ⟨hq, hstored⟩ := hrun s hinv hopened
    rw [hheard]
    exact ⟨hpassed', hq, fun hk key hkey => hevents key (hstored hk key hkey)⟩
  | refused => exact ⟨hpassed, trivial, False.elim⟩
  | lost => exact ⟨hpassed', trivial, False.elim⟩
  | commit_refused draft => exact absurd rfl (hop draft)

/-- After the first insert: the new event, or the transfer is stored already. -/
def Inserted (draft : AddressEventDraft) : Option AddressEvent → OpenEvent → Prop
  | some event, opened => opened = .inserted event ∧ event.toAddressEventDraft = draft
  | none, opened => opened = .idle

theorem insert_event_phase : EventPhase w draft (· = .idle)
    (event_statement (.insert_event_if_not_exists draft)) (Inserted draft) (· = none) := by
  refine event_statement_phase (by rintro _ ⟨⟩) (fun s hpassed _ => hpassed) fun s _ hidle => ?_
  simp only [EventStatement.run, EventRace.insert_event_if_not_exists]
  split
  · rename_i hconflict
    refine ⟨hidle, fun _ key hkey => ?_⟩
    obtain ⟨key', hkey', hevent⟩ := EventRace.conflicts_iff.mp hconflict
    exact Option.some.inj (hkey'.symm.trans hkey) ▸ hevent
  · refine ⟨⟨by simp [EventRace.set_opened], rfl⟩, fun hnone => ?_⟩
    cases hnone

theorem notify_phase {event : AddressEvent} : EventPhase w draft (Inserted draft (some event))
    (event_statement (.insert_notification_outbox_for_event event.tenant_id event.id))
    (fun _ => OpenEvent.Holds draft (some event)) fun _ => False := by
  refine event_statement_phase (by rintro _ ⟨⟩) (fun s _ hopened => ⟨event, hopened.1, rfl⟩)
    fun s hinv hopened => ⟨?_, False.elim⟩
  obtain ⟨hopened, hdraft⟩ := hopened
  simp only [EventStatement.run, EventRace.insert_notification_outbox_for_event]
  split
  · rename_i hany
    obtain ⟨row, hrow, hid⟩ := List.any_eq_true.mp hany
    obtain ⟨e, he, heid⟩ := hinv.kept.has_event row hrow
    have hheld := hinv.held w event (by rw [hopened]; exact List.mem_singleton_self _)
    exact absurd (heid.trans (beq_iff_eq.mp hid)) (hheld.2.2 e he).1
  · rw [hopened]
    simp only [EventRace.set_opened, Function.update_self]
    exact .stored hdraft rfl

theorem insert_in_transaction_phase : EventPhase w draft (· = .idle) (insert_in_transaction draft)
    (OpenEvent.Holds draft) (· = none) := by
  refine .bind Keeps.refl insert_event_phase fun event => ?_
  cases event with
  | none =>
    refine .done fun s hs => ⟨hs.1, ?_, hs.2.2⟩
    have hidle : s.opened w = .idle := hs.2.1
    simp only [hidle]
    exact .known
  | some event =>
    have hinserted : EventPhase w draft (Inserted draft (some event))
        (event_statement (.insert_notification_outbox_for_event event.tenant_id event.id))
        (fun _ => OpenEvent.Holds draft (some event)) fun _ => False := notify_phase
    have hnotify := hinserted.consequence
      (P := Assn.of (event_known w) ⟨draft, Inserted draft (some event), some event = none⟩)
      (fun s hs => ⟨hs.1, hs.2.1, False.elim⟩) (fun _ _ h => h) fun _ _ h => h
    refine .bind Keeps.refl hnotify fun _ => .done fun s hs => ⟨hs.1, hs.2.1, fun hnone => ?_⟩
    cases hnone

theorem insert_call_phase : EventPhase w draft (fun _ => True)
    (insert_event_and_outbox_if_not_exists draft) (fun _ _ => True) fun _ => False := by
  have hbegin : EventPhase w draft (fun _ => True) (event_statement .begin) (fun _ => (· = .idle))
      fun _ => False := by
    refine event_statement_phase (by rintro _ ⟨⟩) (fun _ _ _ => trivial) fun s _ _ => ?_
    exact ⟨by simp [EventStatement.run, EventRace.set_opened], False.elim⟩
  refine .bind Keeps.refl hbegin fun _ => ?_
  refine .bind Keeps.refl (Q := fun r => Assn.of (event_known w)
    ⟨draft, fun opened => ∀ event, r = .ok event → OpenEvent.Holds draft event opened,
      r = .ok none⟩) ?_ fun result => ?_
  · refine .attempt insert_in_transaction_phase (fun event s hs => ?_) fun e s hs => ?_
    · refine ⟨hs.1, fun other hother => ?_, fun hnone => hs.2.2 (Except.ok.inj hnone)⟩
      obtain rfl := Except.ok.inj hother
      exact hs.2.1
    · refine ⟨hs.1, fun event hevent => ?_, fun hnone => ?_⟩
      · cases hevent
      · cases hnone
  cases result with
  | error error =>
    have hrollback : EventPhase w draft (fun _ => True) (event_statement .rollback)
        (fun _ _ => True) fun _ => False :=
      event_statement_phase (by rintro _ ⟨⟩) (fun _ _ _ => by trivial)
        fun _ _ _ => ⟨trivial, False.elim⟩
    refine .bind Keeps.refl (hrollback.consequence (fun s hs => ⟨hs.1, trivial, False.elim⟩)
      (fun _ _ h => h) fun _ _ h => h) fun _ => .fail fun _ h => h
  | ok event =>
    refine .bind Keeps.refl (Q := fun _ => Assn.of (event_known w) ⟨draft, fun _ => True, False⟩) ?_
      fun _ => .done fun _ h => h
    refine .perform (fun s hs => ?_) fun s hs r t ht => ?_
    · obtain ⟨_, hholds, hstored⟩ := hs
      have hheld := hholds event rfl
      refine ⟨⟨event, hheld⟩, fun key hkey hidle => ?_⟩
      have hnone : event = none := by
        simp only [hidle] at hheld
        cases hheld
        rfl
      exact hstored (congrArg _ hnone) key hkey
    · have hpassed : draft ∈ t.passed := by
        obtain ⟨_, hcarried, _⟩ := ht
        cases hcarried <;> exact hs.1
      cases r <;> exact ⟨hpassed, trivial, False.elim⟩

end Calls

/-! ### The system -/

section System
variable {W : Type} [DecidableEq W]

theorem event_rules : Prog.Crew.Rules EventCarried EventOthers EventLaunch
    (EventInvariant (W := W)) event_permitted (fun w => Prog.Keeps (event_known w))
    fun _ _ _ => True where
  refl _ := Prog.Keeps.refl
  trans _ := Prog.Keeps.trans
  launch_inv := by
    intro w s p t h hlaunch
    cases hlaunch with
    | call draft =>
      have hidle := h.idle (w := w)
      refine ⟨⟨hidle.kept.stored, fun e he => List.mem_append_left _ (hidle.kept.passed e he),
        hidle.kept.once, hidle.kept.notified, hidle.kept.one_row, hidle.kept.has_event⟩, hidle.id_lt,
        fun v event hevent => ?_, hidle.apart, hidle.row⟩
      obtain ⟨hlt, hpassed, hrows⟩ := hidle.held v event hevent
      exact ⟨hlt, List.mem_append_left _ hpassed, hrows⟩
    | crash => exact h.idle
  launch_safe := by
    intro w s p t h hlaunch
    cases hlaunch with
    | call draft =>
      refine (insert_call_phase.safe _ ?_).mono fun _ _ _ _ => trivial
      exact ⟨List.mem_append_right _ (List.mem_singleton_self _), trivial, False.elim⟩
    | crash => exact fun _ _ => ⟨trivial, trivial⟩
  launch_others := by
    intro w v s p t _ hlaunch hv
    refine EventRace.Later.keeps ?_
    cases hlaunch with
    | call draft =>
      exact ⟨by simp [EventRace.set_opened, hv], fun _ h => h, fun _ h => List.mem_append_left _ h⟩
    | crash => exact ⟨by simp [EventRace.set_opened, hv], fun _ h => h, fun _ h => h⟩
  statement_inv h hA hs := h.statement hA hs
  statement_others := by
    intro w v s op r t _ _ hs hv
    exact (later_of_ne hv hs).keeps
  others_inv := by
    intro s t h ho
    cases ho with
    | mark p f hf => exact h.mark hf
  others := by
    intro w s t _ ho
    cases ho
    exact EventRace.Later.keeps ⟨rfl, fun _ h => h, fun _ h => h⟩

omit [DecidableEq W] in
theorem EventInvariant.start : EventInvariant (event_start (W := W)).1 := by
  refine ⟨⟨?_, ?_, .nil, ?_, .nil, ?_⟩, ?_, ?_, ?_, ?_⟩ <;> simp [event_start, OpenEvent.events]

variable {s t : EventRace W} {ps qs : W → EventProg (Option AddressEvent)}

theorem event_good (hrun : Relation.ReflTransGen EventStep event_start (s, ps)) :
    Prog.Crew.Good EventCarried EventInvariant event_permitted
      (fun w => Prog.Keeps (event_known w)) (fun _ _ _ => True) s ps := by
  have hstart : Prog.Crew.Good EventCarried EventInvariant event_permitted
      (fun w : W => Prog.Keeps (event_known w)) (fun _ _ _ => True) event_start.1
      event_start.2 := ⟨.start, fun _ _ _ => ⟨trivial, trivial⟩⟩
  exact hstart.run event_rules hrun

omit [DecidableEq W] in
/-- Where every call is completed, the transfers stored are those passed. -/
theorem EventRace.Kept.stored_iff (h : s.Kept) (hdone : ∀ draft ∈ s.passed, draft ∈ s.completed)
    (key : TransferKey) :
    s.HasEvent key ↔ ∃ draft ∈ s.completed, draft.unique_transfer = some key := by
  constructor
  · rintro ⟨e, he, hkey⟩
    exact ⟨e.toAddressEventDraft, hdone _ (h.passed e he), hkey⟩
  · rintro ⟨draft, hdraft, hkey⟩
    exact h.stored draft hdraft key hkey

/-- A commit of a transfer that is stored changes nothing. -/
theorem duplicate_commit (hrun : Relation.ReflTransGen EventStep event_start (s, ps)) {w : W}
    {draft : AddressEventDraft} {rest : AppResult Unit → EventProg (Option AddressEvent)}
    (hw : ps w = .ask (.commit draft) rest) {key : TransferKey}
    (hkey : draft.unique_transfer = some key) (hstored : s.HasEvent key) :
    (s.commit w).address_events = s.address_events ∧
      (s.commit w).notification_outbox = s.notification_outbox := by
  have hgood := event_good hrun
  obtain ⟨⟨event, hholds⟩, _⟩ := hgood.allowed event_rules hw
  generalize hopened : s.opened w = opened at hholds
  cases hholds with
  | known => simp [EventRace.commit, hopened, OpenEvent.events, OpenEvent.rows]
  | @stored event row hdraft _ =>
    obtain ⟨e, he, hekey⟩ := hstored
    have hheld := hgood.inv.held w event (by rw [hopened]; exact List.mem_singleton_self _)
    have hnew : event.unique_transfer = some key := by
      rw [← hkey, ← hdraft]
    exact absurd hnew ((hheld.2.2 e he).2 key hekey)

end System

/-! ### Calls that nobody interrupts -/

section OneCaller

def answered_event (s : EventRace Unit) (op : EventStatement) : AppResult op.Answer × EventRace Unit :=
  (.ok (op.run s ()).1, op.heard (op.run s ()).2)

theorem answered_event_carried (s : EventRace Unit) (op : EventStatement) :
    EventCarried () s op (answered_event s op).1 (answered_event s op).2 := by
  refine .answered ?_
  cases op with
  | insert_event_if_not_exists => exact fun _ _ v hv => absurd rfl hv
  | _ => trivial

/-- The tables after a call. -/
def after_event_call (draft : AddressEventDraft) (s : EventRace Unit) :
    AppResult (Option AddressEvent) × EventRace Unit :=
  Prog.eval answered_event (insert_event_and_outbox_if_not_exists draft)
    { s.set_opened () .idle with passed := s.passed ++ [draft] }

/-- A call that nobody interrupts is the insert in one piece. -/
theorem event_call_whole (tables : EventTables) (s : EventRace Unit) (draft : AddressEventDraft)
    (hevents : s.address_events = tables.address_events)
    (houtbox : s.notification_outbox = tables.notification_outbox)
    (hid : s.next_id = tables.next_id) :
    (after_event_call draft s).1 = .ok (tables.insert_event_and_outbox_if_not_exists draft).1 ∧
      (after_event_call draft s).2.address_events =
        (tables.insert_event_and_outbox_if_not_exists draft).2.address_events ∧
      (after_event_call draft s).2.notification_outbox =
        (tables.insert_event_and_outbox_if_not_exists draft).2.notification_outbox := by
  have hconflicts : s.conflicts draft = tables.conflicts draft := by
    simp [EventRace.conflicts, EventTables.conflicts, hevents]
  rcases tables.insert_cases draft with ⟨hc, hr⟩ | ⟨hc, hevent, hrows, houtbox_rows⟩
  · have hfound : ∀ u : EventRace Unit, u.address_events = s.address_events →
        u.insert_event_if_not_exists () draft = (none, u) := by
      intro u hu
      have hsame : u.conflicts draft = true := by
        rw [← hc, ← hconflicts, EventRace.conflicts, hu]
        rfl
      simp [EventRace.insert_event_if_not_exists, hsame]
    rw [hr]
    simp [after_event_call, insert_event_and_outbox_if_not_exists, insert_in_transaction,
      event_statement, Prog.perform, Prog.attempt, Prog.lift, answered_event, EventStatement.run,
      EventStatement.heard, hfound, EventRace.set_opened, EventRace.commit, OpenEvent.events,
      OpenEvent.rows, hevents, houtbox]
  · have hnew : ∀ u : EventRace Unit, u.address_events = s.address_events →
        u.conflicts draft = false := by
      intro u hu
      rw [← hc, ← hconflicts, EventRace.conflicts, hu]
      rfl
    have hfresh : tables.notification_outbox.any (·.event_id == tables.next_id) = false := by
      refine List.any_eq_false.mpr fun row hrow => ?_
      simpa using Nat.ne_of_lt (tables.outbox_event_ids row hrow)
    rw [hevent, hrows, houtbox_rows]
    simp [after_event_call, insert_event_and_outbox_if_not_exists, insert_in_transaction,
      event_statement, Prog.perform, Prog.attempt, Prog.lift, answered_event, EventStatement.run,
      EventStatement.heard, EventRace.insert_event_if_not_exists, hnew,
      EventRace.insert_notification_outbox_for_event, hfresh, EventRace.set_opened,
      EventRace.commit, OpenEvent.events, OpenEvent.rows, hevents, houtbox, hid, pending_row,
      EventTables.new_event, EventTables.new_outbox_row]

def usdt_draft : AddressEventDraft :=
  { tenant_id := 3, chain_id := 1, address_id := 0, asset_id := 5, event_type := "transfer",
    direction := "in", is_transfer := true, tx_hash := some "0xab", log_index := none,
    block_number := some 100, block_hash := none, confirmations := 12, from_address := none,
    to_address := none, amount_raw := some "7", amount_decimal := some "7",
    balance_before_raw := none, balance_after_raw := none, balance_delta_raw := none,
    metadata := .obj [] }

/-- The draft is passed, and passed again with the missing log index written out. -/
def passed_twice : EventRace Unit :=
  (after_event_call { usdt_draft with log_index := some (-1) }
    (after_event_call usdt_draft (event_start (W := Unit)).1).2).2

theorem event_call_steps (draft : AddressEventDraft) (s : EventRace Unit)
    (ps : Unit → EventProg (Option AddressEvent)) :
    ∃ qs, Relation.ReflTransGen EventStep (s, ps) ((after_event_call draft s).2, qs) := by
  obtain ⟨qs, hcall, _⟩ := Prog.Crew.of_eval (H := EventCarried) (E := EventOthers) (w := ())
    (fun s op _ => answered_event_carried s op)
    { s.set_opened () .idle with passed := s.passed ++ [draft] }
    (Prog.along_true answered_event (insert_event_and_outbox_if_not_exists draft) _)
    (Function.update ps () (insert_event_and_outbox_if_not_exists draft)) (by simp)
  exact ⟨qs, .head (.launch () (.call draft)) hcall⟩

end OneCaller

end CoinListener.Storage
