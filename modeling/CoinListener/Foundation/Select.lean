import Mathlib.Data.List.MinMax
import Mathlib.Data.List.Perm.Subperm

/-! Taking the least element out of a list, again and again. -/
namespace Foundation.Select

variable {α β : Type} [DecidableEq α] [LinearOrder β] (order : α → β)

/-- The first elements of the list in their order. -/
def first : Nat → List α → List α
  | 0, _ => []
  | n + 1, rows => match rows.argmin order with
    | none => []
    | some a => a :: first n (rows.erase a)

variable {order} {n : Nat} {rows : List α} {a : α}

theorem first_none (h : rows.argmin order = none) : first order (n + 1) rows = [] := by
  simp [first, h]

theorem first_some (h : rows.argmin order = some a) :
    first order (n + 1) rows = a :: first order n (rows.erase a) := by
  simp [first, h]

theorem first_subperm (n : Nat) (rows : List α) : (first order n rows).Subperm rows := by
  induction n generalizing rows with
  | zero => exact List.nil_subperm
  | succ n ih =>
    cases h : rows.argmin order with
    | none =>
      rw [first_none h]
      exact List.nil_subperm
    | some a =>
      rw [first_some h]
      exact ((List.subperm_cons a).mpr (ih _)).trans
        (List.perm_cons_erase (List.argmin_mem h)).symm.subperm

theorem mem_of_first (h : a ∈ first order n rows) : a ∈ rows :=
  (first_subperm n rows).subset h

theorem first_length (n : Nat) (rows : List α) :
    (first order n rows).length = min n rows.length := by
  induction n generalizing rows with
  | zero => simp [first]
  | succ n ih =>
    cases h : rows.argmin order with
    | none =>
      obtain rfl := List.argmin_eq_none.mp h
      simp [first_none h]
    | some a =>
      have hmem := List.argmin_mem h
      have hpos : 0 < rows.length := List.length_pos_of_mem hmem
      rw [first_some h, List.length_cons, ih, List.length_erase_of_mem hmem]
      omega

theorem first_sorted (n : Nat) (rows : List α) :
    (first order n rows).Pairwise fun a b => order a ≤ order b := by
  induction n generalizing rows with
  | zero => exact .nil
  | succ n ih =>
    cases h : rows.argmin order with
    | none =>
      rw [first_none h]
      exact .nil
    | some a =>
      rw [first_some h]
      refine List.pairwise_cons.mpr ⟨fun b hb => ?_, ih _⟩
      exact List.le_of_mem_argmin (List.mem_of_mem_erase (mem_of_first hb)) h

/-- Whatever is left over comes behind. -/
theorem first_le (ha : a ∈ rows) (hleft : a ∉ first order n rows) :
    ∀ b ∈ first order n rows, order b ≤ order a := by
  induction n generalizing rows with
  | zero => exact nofun
  | succ n ih =>
    cases h : rows.argmin order with
    | none =>
      rw [first_none h]
      exact nofun
    | some least =>
      rw [first_some h] at hleft ⊢
      obtain ⟨hne, hrest⟩ := List.ne_and_not_mem_of_not_mem_cons hleft
      intro b hb
      rcases List.mem_cons.mp hb with rfl | hb
      · exact List.le_of_mem_argmin ha h
      · exact ih ((List.mem_erase_of_ne hne).mpr ha) hrest b hb

end Foundation.Select
