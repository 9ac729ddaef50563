import Mathlib.Data.List.Nodup
import Mathlib.Data.List.Pairwise

/-! Tables as lists of rows: updates under a condition, and rows found by their key. -/
namespace Foundation.Table

variable {Row Key : Type} {p : Row → Bool} {f : Row → Row} {rows : List Row} {a b : Row}

/-- One row after an update with condition `p`. -/
def revise (p : Row → Bool) (f : Row → Row) (a : Row) : Row :=
  if p a then f a else a

/-- Changes every row that satisfies the condition. -/
def update (p : Row → Bool) (f : Row → Row) (rows : List Row) : List Row :=
  rows.map (revise p f)

/-- The rows an update has changed, as it leaves them. -/
def updated (p : Row → Bool) (f : Row → Row) (rows : List Row) : List Row :=
  (rows.filter p).map f

@[simp] theorem revise_of_true (h : p a = true) : revise p f a = f a := if_pos h

@[simp] theorem revise_of_false (h : p a = false) : revise p f a = a := by
  simp [revise, h]

theorem mem_update : b ∈ update p f rows ↔ ∃ a ∈ rows, revise p f a = b :=
  List.mem_map

theorem mem_update_of_false (h : p a = false) (ha : a ∈ rows) : a ∈ update p f rows :=
  mem_update.mpr ⟨a, ha, revise_of_false h⟩

theorem mem_updated : b ∈ updated p f rows ↔ ∃ a ∈ rows, p a = true ∧ f a = b := by
  simp [updated, and_assoc]

theorem update_append (xs ys : List Row) :
    update p f (xs ++ ys) = update p f xs ++ update p f ys :=
  List.map_append

/-- Where no row satisfies the condition nothing changes. -/
theorem update_of_none (h : ∀ a ∈ rows, p a = false) : update p f rows = rows := by
  refine (List.map_congr_left fun a ha => revise_of_false (h a ha)).trans ?_
  exact List.map_id' rows

/-! ### Columns an update does not change -/

section Column
variable {col : Row → Key} (hcol : ∀ a, col (f a) = col a)
include hcol

theorem revise_column (a : Row) : col (revise p f a) = col a := by
  unfold revise
  split
  · exact hcol a
  · rfl

theorem update_column : (update p f rows).map col = rows.map col := by
  unfold update
  rw [List.map_map]
  exact List.map_congr_left fun a _ => revise_column hcol a

theorem update_pairwise {R : Key → Key → Prop} (h : rows.Pairwise fun a b => R (col a) (col b)) :
    (update p f rows).Pairwise fun a b => R (col a) (col b) := by
  refine List.pairwise_map.mpr (h.imp fun hab => ?_)
  rw [revise_column hcol, revise_column hcol]
  exact hab

theorem update_filter (q : Key → Bool) :
    (update p f rows).filter (fun a => q (col a)) =
      update p f (rows.filter fun a => q (col a)) := by
  unfold update
  rw [List.filter_map]
  congr 1
  refine List.filter_congr fun a _ => ?_
  exact congrArg q (revise_column hcol a)

end Column

/-! ### Rows by key -/

section Find
variable [DecidableEq Key] {key : Row → Key} {k : Key}

def find (key : Row → Key) (k : Key) (rows : List Row) : Option Row :=
  rows.find? fun a => key a = k

theorem find_mem (h : find key k rows = some a) : a ∈ rows :=
  List.mem_of_find?_eq_some h

theorem find_key (h : find key k rows = some a) : key a = k := by
  simpa using List.find?_some h

theorem find_eq_none : find key k rows = none ↔ ∀ a ∈ rows, key a ≠ k := by
  simp [find]

/-- With unique keys the row is found wherever it stands. -/
theorem find_of_mem (hnodup : (rows.map key).Nodup) (ha : a ∈ rows) :
    find key (key a) rows = some a := by
  cases h : find key (key a) rows with
  | none => exact absurd rfl (find_eq_none.mp h a ha)
  | some b => exact congrArg some (List.inj_on_of_nodup_map hnodup (find_mem h) ha (find_key h))

theorem find_update (hkey : ∀ a, key (f a) = key a) :
    find key k (update p f rows) = (find key k rows).map (revise p f) := by
  have hsame : (fun a => decide (key a = k)) ∘ revise p f = fun a => decide (key a = k) := by
    funext a
    simp [revise_column hkey]
  unfold find update
  rw [List.find?_map, hsame]

theorem find_append_of_none (h : find key k rows = none) (ys : List Row) :
    find key k (rows ++ ys) = find key k ys := by
  unfold find at h ⊢
  rw [List.find?_append, h, Option.none_or]

theorem find_append_of_some (h : find key k rows = some a) (ys : List Row) :
    find key k (rows ++ ys) = some a := by
  unfold find at h ⊢
  rw [List.find?_append, h, Option.some_or]

end Find

/-! ### Versions of rows -/

section Put
variable [DecidableEq Key] {key : Row → Key}

/-- A row takes the place of the one with its key. -/
def put (key : Row → Key) (row : Row) (rows : List Row) : List Row :=
  rows.filter (fun a => key a ≠ key row) ++ [row]

theorem mem_put : a ∈ put key b rows ↔ a = b ∨ (a ∈ rows ∧ key a ≠ key b) := by
  simp [put, or_comm]

theorem put_self (row : Row) (rows : List Row) : row ∈ put key row rows :=
  mem_put.mpr (.inl rfl)

theorem find_put_self (row : Row) (rows : List Row) :
    find key (key row) (put key row rows) = some row := by
  have hnone : find key (key row) (rows.filter fun a => key a ≠ key row) = none :=
    find_eq_none.mpr fun a ha => of_decide_eq_true (List.mem_filter.mp ha).2
  unfold put
  rw [find_append_of_none hnone]
  simp [find]

theorem find_put_of_ne {k : Key} (h : k ≠ key b) :
    find key k (put key b rows) = find key k rows := by
  have hrow : find key k [b] = none := find_eq_none.mpr fun a ha => by
    rw [List.mem_singleton.mp ha]
    exact h.symm
  have hsame : (fun a => decide (decide (key a ≠ key b) = true ∧ decide (key a = k) = true)) =
      fun a => decide (key a = k) := by
    funext a
    by_cases hk : key a = k
    · simp [hk, h]
    · simp [hk]
  unfold find at hrow ⊢
  unfold put
  rw [List.find?_append, hrow, Option.or_none, List.find?_filter, hsame]

theorem put_nodup (h : (rows.map key).Nodup) : ((put key b rows).map key).Nodup := by
  have hold : ((rows.filter fun a => key a ≠ key b).map key).Nodup :=
    h.sublist (List.filter_sublist.map key)
  unfold put
  rw [List.map_append]
  refine hold.append (List.nodup_singleton _) ?_
  intro k hk hb
  obtain ⟨a, ha, rfl⟩ := List.mem_map.mp hk
  have hne := (List.mem_filter.mp ha).2
  have heq : key a = key b := List.mem_singleton.mp hb
  simp [heq] at hne

end Put

/-! ### A whole table at once -/

section Moves

/-- The rows move on: each stays as it is or takes a step, and at most one is added. -/
def Moves (step : Row → Row → Prop) (fresh : Row → Prop) (old new : List Row) : Prop :=
  ∃ g added, new = old.map g ++ added ∧ (∀ a ∈ old, g a = a ∨ step a (g a)) ∧
    (added = [] ∨ ∃ a, added = [a] ∧ fresh a)

variable {step step' : Row → Row → Prop} {fresh fresh' : Row → Prop} {old new : List Row}
  {g : Row → Row} {P : Row → Row → Prop}

theorem Moves.map (h : ∀ a ∈ old, g a = a ∨ step a (g a)) : Moves step fresh old (old.map g) :=
  ⟨g, [], (List.append_nil _).symm, h, .inl rfl⟩

theorem Moves.refl (old : List Row) : Moves step fresh old old := by
  have h : Moves step fresh old (old.map id) := .map fun a _ => .inl rfl
  rwa [List.map_id] at h

theorem Moves.update (h : ∀ a ∈ old, p a = true → step a (f a)) :
    Moves step fresh old (update p f old) := by
  refine .map fun a ha => ?_
  cases hp : p a with
  | true => exact .inr ((revise_of_true hp).symm ▸ h a ha hp)
  | false => exact .inl (revise_of_false hp)

theorem Moves.append (h : fresh a) : Moves step fresh old (old ++ [a]) :=
  ⟨id, [a], by rw [List.map_id], fun _ _ => .inl rfl, .inr ⟨a, rfl, h⟩⟩

theorem Moves.mono (h : Moves step fresh old new) (hstep : ∀ a ∈ old, ∀ b, step a b → step' a b)
    (hfresh : ∀ a, fresh a → fresh' a) : Moves step' fresh' old new := by
  obtain ⟨g, added, rfl, hg, hadded⟩ := h
  refine ⟨g, added, rfl, fun a ha => (hg a ha).imp_right (hstep a ha _), hadded.imp_right ?_⟩
  rintro ⟨a, rfl, ha⟩
  exact ⟨a, rfl, hfresh a ha⟩

/-- Where a row comes from. -/
theorem Moves.mem (h : Moves step fresh old new) (hb : b ∈ new) :
    b ∈ old ∨ (∃ a ∈ old, step a b) ∨ fresh b := by
  obtain ⟨g, added, rfl, hg, hadded⟩ := h
  rcases List.mem_append.mp hb with hb | hb
  · obtain ⟨a, ha, rfl⟩ := List.mem_map.mp hb
    rcases hg a ha with hsame | hstep
    · exact .inl (hsame.symm ▸ ha)
    · exact .inr (.inl ⟨a, ha, hstep⟩)
  · rcases hadded with rfl | ⟨a, rfl, hfresh⟩
    · exact nomatch hb
    · exact .inr (.inr (List.mem_singleton.mp hb ▸ hfresh))

/-- What becomes of a row. -/
theorem Moves.next (h : Moves step fresh old new) (ha : a ∈ old) :
    ∃ b ∈ new, b = a ∨ step a b := by
  obtain ⟨g, added, rfl, hg, _⟩ := h
  exact ⟨g a, List.mem_append_left _ (List.mem_map_of_mem ha), hg a ha⟩

/-- A relation between any two rows is kept if steps keep it and new rows have it. -/
theorem Moves.pairwise (h : Moves step fresh old new) (hold : old.Pairwise P)
    (hstep : ∀ a ∈ old, ∀ b ∈ old, ∀ a' b', (a' = a ∨ step a a') → (b' = b ∨ step b b') →
      P a b → P a' b')
    (hfresh : ∀ a ∈ old, ∀ a' c, (a' = a ∨ step a a') → fresh c → P a' c) : new.Pairwise P := by
  obtain ⟨g, added, rfl, hg, hadded⟩ := h
  refine List.pairwise_append.mpr ⟨?_, ?_, ?_⟩
  · refine List.pairwise_map.mpr (hold.imp_of_mem fun ha hb hab => ?_)
    exact hstep _ ha _ hb _ _ (hg _ ha) (hg _ hb) hab
  · rcases hadded with rfl | ⟨c, rfl, _⟩
    · exact .nil
    · exact List.pairwise_singleton ..
  · intro b hb c hc
    obtain ⟨a, ha, rfl⟩ := List.mem_map.mp hb
    rcases hadded with rfl | ⟨c, rfl, hnew⟩
    · exact nomatch hc
    · exact hfresh a ha _ _ (hg a ha) (List.mem_singleton.mp hc ▸ hnew)

/-- Keys stay unique if steps keep them and new rows have new ones. -/
theorem Moves.nodup {key : Row → Key} (h : Moves step fresh old new) (hold : (old.map key).Nodup)
    (hstep : ∀ a ∈ old, ∀ b, step a b → key b = key a)
    (hfresh : ∀ a ∈ old, ∀ c, fresh c → key a ≠ key c) : (new.map key).Nodup := by
  have hkey : ∀ a ∈ old, ∀ a', (a' = a ∨ step a a') → key a' = key a := by
    rintro a ha a' (rfl | hs)
    · rfl
    · exact hstep a ha a' hs
  refine List.pairwise_map.mpr (h.pairwise (List.pairwise_map.mp hold) ?_ ?_)
  · intro a ha b hb a' b' ha' hb' hab
    rw [hkey a ha a' ha', hkey b hb b' hb']
    exact hab
  · intro a ha a' c ha' hc
    rw [hkey a ha a' ha']
    exact hfresh a ha c hc

end Moves

end Foundation.Table
