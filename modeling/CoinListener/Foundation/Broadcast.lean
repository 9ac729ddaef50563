import Mathlib.Data.List.Basic
import Mathlib.Data.List.TakeDrop

/-! A channel whose messages go to every receiver, each at its own pace. The channel keeps the last
messages only: a receiver that falls further behind is told how many it has missed. -/
namespace Foundation.Broadcast

variable {Msg : Type}

/-- What a receiver finds. -/
inductive Received (Msg : Type) where
  | message (m : Msg)
  | lagged (missed : Nat)
  | empty
deriving DecidableEq

/-- The position of the oldest message that is still kept. -/
def oldest (capacity : Nat) (sent : List Msg) : Nat :=
  sent.length - capacity

def receive (capacity : Nat) (sent : List Msg) (next : Nat) : Received Msg × Nat :=
  if next < oldest capacity sent then
    (.lagged (oldest capacity sent - next), oldest capacity sent)
  else match sent[next]? with
    | some m => (.message m, next + 1)
    | none => (.empty, next)

/-- A receiver since it subscribed: what it has taken, and how much it was told it missed. -/
structure Receiver (Msg : Type) where
  start : Nat
  next : Nat
  taken : List Msg
  missed : Nat

def subscribe (sent : List Msg) : Receiver Msg :=
  { start := sent.length, next := sent.length, taken := [], missed := 0 }

def Receiver.advance (capacity : Nat) (sent : List Msg) (r : Receiver Msg) : Receiver Msg :=
  match receive capacity sent r.next with
  | (.message m, next) => { r with next := next, taken := r.taken ++ [m] }
  | (.lagged missed, next) => { r with next := next, missed := r.missed + missed }
  | (.empty, _) => r

/-- The messages taken are among those sent since the receiver subscribed, in their order, and the
others were reported as missed. -/
structure Follows (sent : List Msg) (r : Receiver Msg) : Prop where
  start_le : r.start ≤ r.next
  next_le : r.next ≤ sent.length
  taken : r.taken.Sublist ((sent.take r.next).drop r.start)
  count : r.start + r.taken.length + r.missed = r.next

variable {capacity : Nat} {sent : List Msg} {r : Receiver Msg} {m : Msg} {next missed : Nat}

/-! ### One receive -/

theorem receive_message {k : Nat} (h : receive capacity sent k = (.message m, next)) :
    sent[k]? = some m ∧ next = k + 1 ∧ oldest capacity sent ≤ k := by
  unfold receive at h
  split at h
  · exact nomatch h
  · rename_i hkept
    split at h
    · rename_i m' hm
      cases h
      exact ⟨hm, rfl, by omega⟩
    · exact nomatch h

theorem receive_lagged {k : Nat} (h : receive capacity sent k = (.lagged missed, next)) :
    next = oldest capacity sent ∧ k < next ∧ missed = next - k := by
  unfold receive at h
  split at h
  · cases h
    exact ⟨rfl, by assumption, rfl⟩
  · split at h <;> exact nomatch h

/-- A receiver that is behind by no more than the channel keeps is not told that it missed any. -/
theorem receive_kept {k : Nat} (h : sent.length ≤ k + capacity) :
    receive capacity sent k ≠ (.lagged missed, next) := by
  intro hlagged
  obtain ⟨rfl, hlt, _⟩ := receive_lagged hlagged
  unfold oldest at hlt
  omega

theorem receive_empty {k : Nat} (h : receive capacity sent k = (.empty, next)) :
    sent.length ≤ k ∧ next = k := by
  unfold receive at h
  split at h
  · exact nomatch h
  · split at h
    · exact nomatch h
    · rename_i hnone
      cases h
      exact ⟨List.getElem?_eq_none_iff.mp hnone, rfl⟩

/-! ### Receivers over time -/

theorem Follows.subscribe (sent : List Msg) : Follows sent (subscribe sent) := by
  constructor <;> simp [Broadcast.subscribe]

/-- To a receiver it makes no difference what is sent behind its position. -/
theorem Follows.send (h : Follows sent r) (more : List Msg) : Follows (sent ++ more) r := by
  have hsame : (sent ++ more).take r.next = sent.take r.next :=
    List.take_append_of_le_length h.next_le
  constructor
  · exact h.start_le
  · have hle := h.next_le
    simp only [List.length_append]
    omega
  · rw [hsame]
    exact h.taken
  · exact h.count

theorem Follows.message (h : Follows sent r) (hm : sent[r.next]? = some m) :
    Follows sent { r with next := r.next + 1, taken := r.taken ++ [m] } := by
  have hlt : r.next < sent.length := (List.getElem?_eq_some_iff.mp hm).1
  have htake : sent.take (r.next + 1) = sent.take r.next ++ [m] := by
    rw [List.take_add_one, hm]
    rfl
  have hstart : r.start ≤ (sent.take r.next).length := by
    have hle := h.start_le
    simp only [List.length_take]
    omega
  constructor
  · exact Nat.le_succ_of_le h.start_le
  · exact hlt
  · rw [htake, List.drop_append_of_le_length hstart]
    exact h.taken.append (List.Sublist.refl _)
  · have hcount := h.count
    simp only [List.length_append, List.length_singleton]
    omega

theorem Follows.skip (h : Follows sent r) (hle : r.next ≤ next) (hnext : next ≤ sent.length) :
    Follows sent { r with next := next, missed := r.missed + (next - r.next) } := by
  constructor
  · exact Nat.le_trans h.start_le hle
  · exact hnext
  · refine h.taken.trans (List.Sublist.drop ?_ _)
    exact (List.take_prefix_take_left hle).sublist
  · have hcount := h.count
    dsimp only
    omega

theorem Follows.advance (h : Follows sent r) : Follows sent (r.advance capacity sent) := by
  unfold Receiver.advance
  cases hreceive : receive capacity sent r.next with
  | mk found next =>
    cases found with
    | message m =>
      obtain ⟨hm, rfl, _⟩ := receive_message hreceive
      exact h.message hm
    | lagged missed =>
      obtain ⟨rfl, hlt, rfl⟩ := receive_lagged hreceive
      exact h.skip (Nat.le_of_lt hlt) (Nat.sub_le ..)
    | empty => exact h

/-- Where nothing was missed, the receiver has every message up to its position. -/
theorem Follows.complete (h : Follows sent r) (hnone : r.missed = 0) :
    r.taken = (sent.take r.next).drop r.start := by
  refine h.taken.eq_of_length ?_
  have hcount := h.count
  have hle := h.next_le
  simp only [List.length_drop, List.length_take]
  omega

end Foundation.Broadcast
