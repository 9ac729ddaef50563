import CoinListener.Core.Models
import Mathlib.Data.List.Nodup
import Mathlib.Data.List.Pairwise

/-! The tables of events and their outbox rows, with the indexes that guard them. -/
namespace CoinListener.Storage
open Foundation

/-- No transfer is stored by both rows. -/
def Distinct (a b : AddressEvent) : Prop :=
  ∀ key, a.unique_transfer = some key → b.unique_transfer ≠ some key

instance : Std.Symm Distinct := ⟨fun _ _ h key hb ha => h key ha hb⟩

/-- Events and outbox rows. Identifiers are handed out in order, so a new one is never in use. -/
structure EventTables where
  address_events : List AddressEvent
  notification_outbox : List NotificationOutboxItem
  next_id : Nat
  event_ids : ∀ e ∈ address_events, e.id < next_id
  outbox_event_ids : ∀ o ∈ notification_outbox, o.event_id < next_id
  outbox_ids : ∀ o ∈ notification_outbox, o.id < next_id
  unique_transfer : address_events.Pairwise Distinct
  unique_event : (notification_outbox.map (·.event_id)).Nodup
  unique_outbox_id : (notification_outbox.map (·.id)).Nodup

namespace EventTables

def empty : EventTables where
  address_events := []
  notification_outbox := []
  next_id := 0
  event_ids := by simp
  outbox_event_ids := by simp
  outbox_ids := by simp
  unique_transfer := List.Pairwise.nil
  unique_event := List.nodup_nil
  unique_outbox_id := List.nodup_nil

/-- The unique index refuses the draft. -/
def conflicts (t : EventTables) (draft : AddressEventDraft) : Bool :=
  draft.unique_transfer.isSome &&
    t.address_events.any (fun e => e.unique_transfer == draft.unique_transfer)

variable {t : EventTables} {draft : AddressEventDraft} {key : TransferKey}

theorem conflicts_iff : t.conflicts draft = true ↔
    ∃ key, draft.unique_transfer = some key ∧
      ∃ e ∈ t.address_events, e.unique_transfer = some key := by
  cases h : draft.unique_transfer <;> simp [conflicts, h]

/-- The row the database makes of a draft. -/
def new_event (t : EventTables) (draft : AddressEventDraft) : AddressEvent :=
  { toAddressEventDraft := draft, id := t.next_id }

/-- The outbox row of a new event, due at once. -/
def new_outbox_row (t : EventTables) (draft : AddressEventDraft) : NotificationOutboxItem :=
  { id := t.next_id
    tenant_id := draft.tenant_id
    event_id := t.next_id
    status := .pending
    attempt_count := 0
    next_attempt_at := 0
    locked_at := none
    locked_by := none
    last_error := none
    delivered_at := none
    created_at := t.next_id }

/-- One transaction: the event, and its outbox row if the event is new. -/
def insert_event_and_outbox_if_not_exists (t : EventTables) (draft : AddressEventDraft) :
    Option AddressEvent × EventTables :=
  if h : t.conflicts draft = true then (none, t)
  else
    (some (t.new_event draft),
      { address_events := t.address_events ++ [t.new_event draft]
        notification_outbox := t.notification_outbox ++ [t.new_outbox_row draft]
        next_id := t.next_id + 1
        event_ids := by
          intro e he
          rcases List.mem_append.mp he with he | he
          · exact Nat.lt_succ_of_lt (t.event_ids e he)
          · obtain rfl := List.mem_singleton.mp he
            exact Nat.lt_succ_self _
        outbox_event_ids := by
          intro o ho
          rcases List.mem_append.mp ho with ho | ho
          · exact Nat.lt_succ_of_lt (t.outbox_event_ids o ho)
          · obtain rfl := List.mem_singleton.mp ho
            exact Nat.lt_succ_self _
        outbox_ids := by
          intro o ho
          rcases List.mem_append.mp ho with ho | ho
          · exact Nat.lt_succ_of_lt (t.outbox_ids o ho)
          · obtain rfl := List.mem_singleton.mp ho
            exact Nat.lt_succ_self _
        unique_transfer := by
          refine List.pairwise_append.mpr ⟨t.unique_transfer, List.pairwise_singleton .., ?_⟩
          intro a ha b hb key hkey hnew
          obtain rfl := List.mem_singleton.mp hb
          exact h (conflicts_iff.mpr ⟨key, hnew, a, ha, hkey⟩)
        unique_event := by
          rw [List.map_append, List.nodup_append]
          refine ⟨t.unique_event, List.nodup_singleton _, ?_⟩
          intro a ha b hb hab
          obtain ⟨o, ho, rfl⟩ := List.mem_map.mp ha
          have hlt := t.outbox_event_ids o ho
          have hb' : b = t.next_id := by simpa [new_outbox_row] using hb
          exact absurd (hab.trans hb') (Nat.ne_of_lt hlt)
        unique_outbox_id := by
          rw [List.map_append, List.nodup_append]
          refine ⟨t.unique_outbox_id, List.nodup_singleton _, ?_⟩
          intro a ha b hb hab
          obtain ⟨o, ho, rfl⟩ := List.mem_map.mp ha
          have hlt := t.outbox_ids o ho
          have hb' : b = t.next_id := by simpa [new_outbox_row] using hb
          exact absurd (hab.trans hb') (Nat.ne_of_lt hlt) })

/-- What the transaction can do: nothing where the transfer is known, else one event and its row. -/
theorem insert_cases (t : EventTables) (draft : AddressEventDraft) :
    (t.conflicts draft = true ∧ t.insert_event_and_outbox_if_not_exists draft = (none, t)) ∨
    (t.conflicts draft = false ∧
      (t.insert_event_and_outbox_if_not_exists draft).1 = some (t.new_event draft) ∧
      (t.insert_event_and_outbox_if_not_exists draft).2.address_events =
        t.address_events ++ [t.new_event draft] ∧
      (t.insert_event_and_outbox_if_not_exists draft).2.notification_outbox =
        t.notification_outbox ++ [t.new_outbox_row draft]) := by
  by_cases h : t.conflicts draft = true
  · exact Or.inl ⟨h, dif_pos h⟩
  · right
    simp [insert_event_and_outbox_if_not_exists, h]

/-- An event of that transfer is stored. -/
def HasEvent (t : EventTables) (key : TransferKey) : Prop :=
  ∃ e ∈ t.address_events, e.unique_transfer = some key

/-- After the transaction the transfer has its event, new or old. -/
theorem insert_hasEvent (h : draft.unique_transfer = some key) :
    (t.insert_event_and_outbox_if_not_exists draft).2.HasEvent key := by
  rcases t.insert_cases draft with ⟨hc, hr⟩ | ⟨_, _, he, _⟩
  · obtain ⟨key', hkey', e, hmem, hek⟩ := conflicts_iff.mp hc
    rw [hr]
    exact ⟨e, hmem, by rw [hek, ← hkey', h]⟩
  · refine ⟨t.new_event draft, ?_, h⟩
    rw [he]
    exact List.mem_append_right _ (List.mem_singleton_self _)

theorem insert_subset {e : AddressEvent} (h : e ∈ t.address_events) :
    e ∈ (t.insert_event_and_outbox_if_not_exists draft).2.address_events := by
  rcases t.insert_cases draft with ⟨_, hr⟩ | ⟨_, _, he, _⟩
  · rw [hr]
    exact h
  · rw [he]
    exact List.mem_append_left _ h

theorem HasEvent.insert (h : t.HasEvent key) :
    (t.insert_event_and_outbox_if_not_exists draft).2.HasEvent key := by
  obtain ⟨e, he, hkey⟩ := h
  exact ⟨e, insert_subset he, hkey⟩

/-- A known transfer changes nothing. -/
theorem insert_known (hkey : draft.unique_transfer = some key) (h : t.HasEvent key) :
    t.insert_event_and_outbox_if_not_exists draft = (none, t) :=
  dif_pos (conflicts_iff.mpr ⟨key, hkey, h⟩)

/-- The unique index does not cover a draft without a transaction. -/
theorem insert_without_transfer (h : draft.unique_transfer = none) :
    (t.insert_event_and_outbox_if_not_exists draft).2.address_events =
      t.address_events ++ [t.new_event draft] := by
  rcases t.insert_cases draft with ⟨hc, _⟩ | ⟨_, _, he, _⟩
  · obtain ⟨key, hkey, _⟩ := conflicts_iff.mp hc
    exact nomatch h.symm.trans hkey
  · exact he

/-- The unique index: two events of one transfer are the same row. -/
theorem hasEvent_unique {a b : AddressEvent} (ha : a ∈ t.address_events)
    (hb : b ∈ t.address_events) (hka : a.unique_transfer = some key)
    (hkb : b.unique_transfer = some key) : a = b := by
  by_contra hne
  exact t.unique_transfer.forall ha hb hne key hka hkb

/-- Every event has an outbox row. -/
def Outboxed (t : EventTables) : Prop :=
  ∀ e ∈ t.address_events, ∃ o ∈ t.notification_outbox, o.event_id = e.id

theorem Outboxed.insert (h : t.Outboxed) :
    (t.insert_event_and_outbox_if_not_exists draft).2.Outboxed := by
  rcases t.insert_cases draft with ⟨_, hr⟩ | ⟨_, _, he, ho⟩
  · rw [hr]
    exact h
  · intro e hmem
    rw [he] at hmem
    rw [ho]
    rcases List.mem_append.mp hmem with hmem | hmem
    · obtain ⟨o, ho, hid⟩ := h e hmem
      exact ⟨o, List.mem_append_left _ ho, hid⟩
    · obtain rfl := List.mem_singleton.mp hmem
      exact ⟨t.new_outbox_row draft, List.mem_append_right _ (List.mem_singleton_self _), rfl⟩

/-- Where two rows never share a property, the one that has it is found alone. -/
theorem filter_eq_singleton {α : Type} {R : α → α → Prop} {p : α → Bool} {rows : List α} {a : α}
    (hrows : rows.Pairwise R) (ha : a ∈ rows) (hp : p a = true)
    (honly : ∀ b c, p b = true → p c = true → ¬ R b c) : rows.filter p = [a] := by
  have hmem : a ∈ rows.filter p := List.mem_filter.mpr ⟨ha, hp⟩
  have hpair := hrows.filter p
  match h : rows.filter p with
  | [] =>
    rw [h] at hmem
    exact nomatch hmem
  | [b] =>
    rw [h] at hmem
    rw [List.mem_singleton.mp hmem]
  | b :: c :: rest =>
    rw [h] at hpair
    have hb : p b = true := (List.mem_filter.mp (h ▸ List.mem_cons_self ..)).2
    have hc : p c = true :=
      (List.mem_filter.mp (h ▸ List.mem_cons_of_mem _ (List.mem_cons_self ..))).2
    exact absurd (List.rel_of_pairwise_cons hpair (List.mem_cons_self ..)) (honly b c hb hc)

/-- A stored transfer has exactly one event. -/
theorem HasEvent.once (h : t.HasEvent key) :
    ∃ e ∈ t.address_events, t.address_events.filter (·.unique_transfer == some key) = [e] := by
  obtain ⟨e, he, hkey⟩ := h
  refine ⟨e, he, filter_eq_singleton t.unique_transfer he (by simp [hkey]) ?_⟩
  intro b c hb hc hdistinct
  exact hdistinct key (beq_iff_eq.mp hb) (beq_iff_eq.mp hc)

/-- An event has exactly one outbox row. -/
theorem Outboxed.once {e : AddressEvent} (h : t.Outboxed) (he : e ∈ t.address_events) :
    ∃ o, t.notification_outbox.filter (·.event_id == e.id) = [o] := by
  obtain ⟨o, ho, hid⟩ := h e he
  refine ⟨o, filter_eq_singleton (List.pairwise_map.mp t.unique_event) ho (by simp [hid]) ?_⟩
  intro b c hb hc hne
  exact hne ((beq_iff_eq.mp hb).trans (beq_iff_eq.mp hc).symm)

end EventTables

end CoinListener.Storage
