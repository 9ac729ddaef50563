import CoinListener.Foundation.Table

/-! Tables whose rows have owners: the part of one owner, and what leaves every owner its rows. -/
namespace Foundation.Table

variable {Row Key Owner : Type} {p : Row → Bool} {f : Row → Row} {rows old new : List Row}

/-! ### The part of one owner -/

section Part
variable [DecidableEq Owner] {owner : Row → Owner} {d : Owner}

def part (owner : Row → Owner) (d : Owner) (rows : List Row) : List Row :=
  rows.filter fun a => owner a = d

theorem mem_part {a : Row} : a ∈ part owner d rows ↔ a ∈ rows ∧ owner a = d := by
  simp [part]

/-- A condition that only rows of the owner satisfy. -/
theorem filter_part (h : ∀ a, p a = true → owner a = d) :
    (part owner d rows).filter p = rows.filter p := by
  unfold part
  rw [List.filter_filter]
  refine List.filter_congr fun a _ => ?_
  cases hp : p a with
  | true => simp [h a hp]
  | false => simp

theorem find_part (h : ∀ a, p a = true → owner a = d) :
    (part owner d rows).find? p = rows.find? p := by
  unfold part
  rw [List.find?_filter]
  congr 1
  funext a
  cases hp : p a with
  | true => simp [h a hp]
  | false => simp

theorem any_part (h : ∀ a ∈ rows, p a = true → owner a = d) :
    (part owner d rows).any p = rows.any p := by
  rw [Bool.eq_iff_iff, List.any_eq_true, List.any_eq_true]
  constructor
  · rintro ⟨a, ha, hp⟩
    exact ⟨a, (mem_part.mp ha).1, hp⟩
  · rintro ⟨a, ha, hp⟩
    exact ⟨a, mem_part.mpr ⟨ha, h a ha hp⟩, hp⟩

theorem part_append {a : Row} (h : owner a = d) :
    part owner d (rows ++ [a]) = part owner d rows ++ [a] := by
  simp [part, h]

theorem part_append_other {a : Row} (h : owner a ≠ d) :
    part owner d (rows ++ [a]) = part owner d rows := by
  simp [part, h]

theorem part_update (hf : ∀ a, owner (f a) = owner a) :
    part owner d (update p f rows) = update p f (part owner d rows) :=
  update_filter hf fun k => decide (k = d)

/-- Nothing changes for an owner whose rows do not satisfy the condition. -/
theorem part_update_other (hf : ∀ a, owner (f a) = owner a) (h : ∀ a, p a = true → owner a ≠ d) :
    part owner d (update p f rows) = part owner d rows := by
  rw [part_update hf]
  refine update_of_none fun a ha => ?_
  cases hp : p a with
  | true => exact absurd (mem_part.mp ha).2 (h a hp)
  | false => rfl

theorem part_filter : part owner d (rows.filter p) = (part owner d rows).filter p := by
  unfold part
  rw [List.filter_filter, List.filter_filter]
  exact List.filter_congr fun a _ => Bool.and_comm ..

/-- Nothing is lost to an owner whose rows all stay. -/
theorem part_filter_other (h : ∀ a ∈ rows, owner a = d → p a = true) :
    part owner d (rows.filter p) = part owner d rows := by
  rw [part_filter]
  refine List.filter_eq_self.mpr fun a ha => ?_
  exact h a (mem_part.mp ha).1 (mem_part.mp ha).2

theorem part_remove_other (h : ∀ a, p a = true → owner a ≠ d) :
    part owner d (rows.filter fun a => !p a) = part owner d rows := by
  refine part_filter_other fun a _ ha => ?_
  rw [Bool.not_eq_true', Bool.eq_false_iff]
  exact fun hp => h a hp ha

end Part

/-! ### Where rows come from -/

/-- Rows may go and change, but not their keys and owners, and at most one is new. -/
def Descends (col : Row → Key × Owner) (k : Key) (d : Owner) (old new : List Row) : Prop :=
  (new.map col).Sublist (old.map col ++ [(k, d)])

section Descends
variable {col : Row → Key × Owner} {k : Key} {d : Owner}

theorem Descends.of_sublist (h : (new.map col).Sublist (old.map col)) : Descends col k d old new :=
  h.trans (List.sublist_append_left ..)

theorem Descends.refl (rows : List Row) : Descends col k d rows rows :=
  .of_sublist (List.Sublist.refl _)

theorem Descends.update (hf : ∀ a, col (f a) = col a) : Descends col k d rows (update p f rows) := by
  refine .of_sublist ?_
  rw [update_column hf]

theorem Descends.filter : Descends col k d rows (rows.filter p) :=
  .of_sublist (List.filter_sublist.map col)

theorem Descends.append {a : Row} (h : col a = (k, d)) : Descends col k d rows (rows ++ [a]) := by
  unfold Descends
  rw [List.map_append, List.map_singleton, h]

theorem Descends.mem (h : Descends col k d old new) {b : Row} (hb : b ∈ new) :
    (∃ a ∈ old, col a = col b) ∨ col b = (k, d) := by
  have hmem := h.subset (List.mem_map_of_mem hb)
  rcases List.mem_append.mp hmem with hold | hnew
  · exact .inl (List.mem_map.mp hold)
  · exact .inr (List.mem_singleton.mp hnew)

/-- Every key has been drawn. -/
theorem Descends.drawn {drawn : List Key} (h : Descends col k d old new)
    (hold : ∀ a ∈ old, (col a).1 ∈ drawn) : ∀ b ∈ new, (col b).1 ∈ k :: drawn := by
  intro b hb
  rcases h.mem hb with ⟨a, ha, hsame⟩ | hnew
  · rw [← hsame]
    exact List.mem_cons_of_mem _ (hold a ha)
  · rw [hnew]
    exact List.mem_cons_self ..

/-- Keys stay unique where the new one is not in use. -/
theorem Descends.nodup (h : Descends col k d old new) (hold : (old.map fun a => (col a).1).Nodup)
    (hk : ∀ a ∈ old, (col a).1 ≠ k) : (new.map fun a => (col a).1).Nodup := by
  have hkeys : (new.map fun a => (col a).1) = (new.map col).map Prod.fst := by
    rw [List.map_map]
    rfl
  rw [hkeys]
  refine List.Nodup.sublist (h.map Prod.fst) ?_
  rw [List.map_append, List.map_map]
  refine hold.append (List.nodup_singleton _) fun key hkey hnew => ?_
  obtain ⟨a, ha, rfl⟩ := List.mem_map.mp hkey
  exact hk a ha (List.mem_singleton.mp hnew)

/-! ### Whose key it is -/

/-- A key that has been drawn and that no row of another owner has. -/
def Owned (col : Row → Key × Owner) (drawn : List Key) (d : Owner) (k : Key) (rows : List Row) :
    Prop :=
  k ∈ drawn ∧ ∀ a ∈ rows, (col a).1 = k → (col a).2 = d

theorem Owned.of_nodup {drawn : List Key} {a : Row} (hkeys : (rows.map fun a => (col a).1).Nodup)
    (ha : a ∈ rows) (hdrawn : (col a).1 ∈ drawn) : Owned col drawn (col a).2 (col a).1 rows :=
  ⟨hdrawn, fun _ hb hkey => congrArg (fun a => (col a).2)
    (List.inj_on_of_nodup_map hkeys hb ha hkey)⟩

/-- A new row has a key of its own. -/
theorem Descends.owned {drawn : List Key} {e : Owner} {l : Key} (h : Descends col k d old new)
    (hk : k ∉ drawn) (ho : Owned col drawn e l old) : Owned col (k :: drawn) e l new := by
  refine ⟨List.mem_cons_of_mem _ ho.1, fun b hb hkey => ?_⟩
  rcases h.mem hb with ⟨a, ha, hsame⟩ | hnew
  · rw [← hsame] at hkey ⊢
    exact ho.2 a ha hkey
  · rw [hnew] at hkey
    obtain rfl : k = l := hkey
    exact absurd ho.1 hk

end Descends

end Foundation.Table
