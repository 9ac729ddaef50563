import CoinListener.Worker.EvmScan
import Mathlib.Data.List.Chain

/-! The ranges a scan is cut into. The loop is run here round by round, and every sum that is not a
saturating one is checked against the 64-bit range. -/
namespace CoinListener.Worker

/-! ### The loop -/

/-- The variables of the loop. -/
structure RangeLoop where
  ranges : List BlockRange
  current_from : Int
deriving DecidableEq

inductive RangeRound where
  | again (loop : RangeLoop)
  | leaves (ranges : List BlockRange)
  | overflows
deriving DecidableEq

/-- One round of the loop in `bounded_block_ranges`. -/
def range_round (to_block max_block_span : Int) (loop : RangeLoop) : RangeRound :=
  if loop.current_from ≤ to_block then
    match checked_i64 (max_block_span - 1) with
    | none => .overflows
    | some width =>
      let current_to := min (saturating_i64 (loop.current_from + width)) to_block
      let ranges := loop.ranges ++ [⟨loop.current_from, current_to⟩]
      if current_to = to_block then .leaves ranges
      else match checked_i64 (current_to + 1) with
        | none => .overflows
        | some current_from => .again ⟨ranges, current_from⟩
  else .leaves loop.ranges

/-- The loop comes to its end with these ranges, and no sum on the way overflows. -/
inductive Leaves (to_block max_block_span : Int) : RangeLoop → List BlockRange → Prop
  | now {loop : RangeLoop} {ranges : List BlockRange}
      (h : range_round to_block max_block_span loop = .leaves ranges) :
      Leaves to_block max_block_span loop ranges
  | later {loop next : RangeLoop} {ranges : List BlockRange}
      (h : range_round to_block max_block_span loop = .again next)
      (hnext : Leaves to_block max_block_span next ranges) :
      Leaves to_block max_block_span loop ranges

section Rounds
variable {from_block to_block max_block_span current_from : Int} {done : List BlockRange}

/-- Where the range that starts at `current_from` ends. -/
def range_end (to_block max_block_span current_from : Int) : Int :=
  min (saturating_i64 (current_from + (max_block_span - 1))) to_block

/-- A range ends inside what is left and is not longer than the span. -/
theorem range_end_bounds (hfrom : IsI64 current_from) (hto : IsI64 to_block)
    (hspan : 0 < max_block_span) (hle : current_from ≤ to_block) :
    current_from ≤ range_end to_block max_block_span current_from ∧
      range_end to_block max_block_span current_from ≤ to_block ∧
      range_end to_block max_block_span current_from - current_from + 1 ≤ max_block_span := by
  obtain ⟨hlow, _⟩ := hfrom
  obtain ⟨_, hhigh⟩ := hto
  simp only [range_end, saturating_i64]
  omega

theorem block_ranges_step {rounds : Nat} (hle : current_from ≤ to_block) :
    block_ranges to_block max_block_span (rounds + 1) current_from =
      ⟨current_from, range_end to_block max_block_span current_from⟩ ::
        if range_end to_block max_block_span current_from = to_block then []
        else block_ranges to_block max_block_span rounds
          (range_end to_block max_block_span current_from + 1) := by
  rw [block_ranges, if_pos hle]
  rfl

/-- No sum of a round overflows: the last one is made only below the upper end. -/
theorem range_round_step (hfrom : IsI64 current_from) (hto : IsI64 to_block)
    (hspan : 0 < max_block_span) (hspan' : IsI64 max_block_span) (hle : current_from ≤ to_block) :
    range_round to_block max_block_span ⟨done, current_from⟩ =
      if range_end to_block max_block_span current_from = to_block then
        .leaves (done ++ [⟨current_from, range_end to_block max_block_span current_from⟩])
      else
        .again ⟨done ++ [⟨current_from, range_end to_block max_block_span current_from⟩],
          range_end to_block max_block_span current_from + 1⟩ := by
  obtain ⟨hstart, hend, _⟩ := range_end_bounds hfrom hto hspan hle
  have hwidth : checked_i64 (max_block_span - 1) = some (max_block_span - 1) := by
    apply checked_i64_some
    unfold IsI64 at hspan' ⊢
    omega
  simp only [range_round, hle, if_true, hwidth]
  by_cases hlast : range_end to_block max_block_span current_from = to_block
  · rw [if_pos hlast]
    exact if_pos hlast
  · have hnext : checked_i64 (range_end to_block max_block_span current_from + 1) =
        some (range_end to_block max_block_span current_from + 1) := by
      apply checked_i64_some
      unfold IsI64 at hfrom hto ⊢
      omega
    rw [if_neg hlast]
    refine (if_neg hlast).trans ?_
    change (match checked_i64 (range_end to_block max_block_span current_from + 1) with
      | none => RangeRound.overflows
      | some current_from => .again ⟨_, current_from⟩) = _
    rw [hnext]
    rfl

/-- From any round on, the loop comes to its end with the ranges that were still to be made. -/
theorem leaves_block_ranges (hto : IsI64 to_block) (hspan : 0 < max_block_span)
    (hspan' : IsI64 max_block_span) (rounds : Nat) (hfrom : IsI64 current_from)
    (hle : current_from ≤ to_block) (hrounds : to_block - current_from < rounds) :
    Leaves to_block max_block_span ⟨done, current_from⟩
      (done ++ block_ranges to_block max_block_span rounds current_from) := by
  induction rounds generalizing current_from done with
  | zero => omega
  | succ rounds ih =>
    obtain ⟨hstart, hend, _⟩ := range_end_bounds hfrom hto hspan hle
    have hround := @range_round_step _ _ _ done hfrom hto hspan hspan' hle
    rw [block_ranges_step hle]
    by_cases hlast : range_end to_block max_block_span current_from = to_block
    · rw [if_pos hlast] at hround ⊢
      exact .now hround
    · rw [if_neg hlast] at hround ⊢
      have hnext : IsI64 (range_end to_block max_block_span current_from + 1) := by
        unfold IsI64 at hfrom hto ⊢
        omega
      have hrest := @ih _ (done ++
        [⟨current_from, range_end to_block max_block_span current_from⟩]) hnext (by omega) (by omega)
      rw [List.append_assoc] at hrest
      exact .later hround hrest

end Rounds

/-! ### The partition -/

/-- The ranges cut the blocks from `from_block` to `to_block`, each into one piece. -/
structure Partitions (from_block to_block max_block_span : Int) (ranges : List BlockRange) :
    Prop where
  none_left : to_block < from_block → ranges = []
  bounded : ∀ range ∈ ranges, range.from_block ≤ range.to_block ∧
    range.to_block - range.from_block + 1 ≤ max_block_span
  adjacent : ranges.IsChain fun a b => b.from_block = a.to_block + 1
  once : ∀ block, ranges.countP (fun range => range.from_block ≤ block ∧ block ≤ range.to_block) =
    if from_block ≤ block ∧ block ≤ to_block then 1 else 0

section
variable {from_block to_block max_block_span current_from : Int}

/-- The ranges that are still to be made start where the last one has ended. -/
theorem block_ranges_head (rounds : Nat) :
    ∀ range ∈ (block_ranges to_block max_block_span rounds current_from).head?,
      range.from_block = current_from := by
  intro range hrange
  cases rounds with
  | zero => exact nomatch hrange
  | succ rounds =>
    by_cases hle : current_from ≤ to_block
    · rw [block_ranges_step hle] at hrange
      obtain rfl := Option.some.inj hrange
      rfl
    · rw [block_ranges, if_neg hle] at hrange
      exact nomatch hrange

theorem block_ranges_partition (hto : IsI64 to_block) (hspan : 0 < max_block_span) (rounds : Nat)
    (hfrom : IsI64 current_from) (hle : current_from ≤ to_block)
    (hrounds : to_block - current_from < rounds) :
    Partitions current_from to_block max_block_span
      (block_ranges to_block max_block_span rounds current_from) := by
  induction rounds generalizing current_from with
  | zero => omega
  | succ rounds ih =>
    obtain ⟨hstart, hend, hlength⟩ := range_end_bounds hfrom hto hspan hle
    rw [block_ranges_step hle]
    by_cases hlast : range_end to_block max_block_span current_from = to_block
    · rw [if_pos hlast]
      refine ⟨fun h => absurd hle (Int.not_le.mpr h), ?_, List.isChain_singleton _, fun block => ?_⟩
      · intro range hrange
        obtain rfl := List.mem_singleton.mp hrange
        exact ⟨hstart, hlength⟩
      · simp [List.countP_cons, hlast]
    · rw [if_neg hlast]
      have hnext : IsI64 (range_end to_block max_block_span current_from + 1) := by
        unfold IsI64 at hfrom hto ⊢
        omega
      obtain ⟨_, hbounded, hadjacent, honce⟩ := ih hnext (by omega) (by omega)
      refine ⟨fun h => absurd hle (Int.not_le.mpr h), ?_, ?_, fun block => ?_⟩
      · intro range hrange
        rcases List.mem_cons.mp hrange with rfl | hrest
        · exact ⟨hstart, hlength⟩
        · exact hbounded range hrest
      · exact List.isChain_cons.mpr ⟨block_ranges_head rounds, hadjacent⟩
      · rw [List.countP_cons, honce]
        simp only [decide_eq_true_eq]
        split <;> split <;> split <;> omega

end

/-- The ranges of a scan are cut without overflow, and a span that is not positive is the only
error. -/
theorem bounded_block_ranges_partitions {from_block to_block max_block_span : Int}
    (hfrom : IsI64 from_block) (hto : IsI64 to_block) (hspan : IsI64 max_block_span) :
    ((∃ error, bounded_block_ranges from_block to_block max_block_span = .error error) ↔
        max_block_span ≤ 0) ∧
      (0 < max_block_span → ∃ ranges,
        bounded_block_ranges from_block to_block max_block_span = .ok ranges ∧
        Leaves to_block max_block_span ⟨[], from_block⟩ ranges ∧
        Partitions from_block to_block max_block_span ranges) := by
  by_cases hpos : 0 < max_block_span
  · have hnot : ¬ max_block_span ≤ 0 := Int.not_le.mpr hpos
    by_cases hle : from_block ≤ to_block
    · have hsome : ¬ to_block < from_block := Int.not_lt.mpr hle
      have hrounds : to_block - from_block < ((to_block - from_block + 1).toNat : Int) := by omega
      have hranges := @leaves_block_ranges _ _ _ [] hto hpos hspan _ hfrom hle hrounds
      have hpartition := block_ranges_partition hto hpos _ hfrom hle hrounds
      simp only [bounded_block_ranges, hnot, hsome, if_false, iff_false]
      exact ⟨(fun h => nomatch h), fun _ => ⟨_, rfl, hranges, hpartition⟩⟩
    · have hnone : to_block < from_block := Int.not_le.mp hle
      have hround : range_round to_block max_block_span ⟨[], from_block⟩ = .leaves [] := if_neg hle
      simp only [bounded_block_ranges, hnot, hnone, if_false, if_true, iff_false]
      refine ⟨(fun h => nomatch h), fun _ => ⟨[], rfl, .now hround, fun _ => rfl, ?_, .nil, ?_⟩⟩
      · exact fun range hrange => absurd hrange List.not_mem_nil
      · intro block
        rw [List.countP_nil, if_neg (by omega)]
  · have hnot : max_block_span ≤ 0 := Int.not_lt.mp hpos
    simp only [bounded_block_ranges, hnot, if_true, iff_true]
    exact ⟨⟨_, rfl⟩, fun h => absurd hnot (Int.not_le.mpr h)⟩

/-- A range that reaches up to the last block there can be. -/
theorem bounded_block_ranges_partitions_last :
    ∃ ranges, bounded_block_ranges 9223372036854775805 9223372036854775807 10 = .ok ranges ∧
      Partitions 9223372036854775805 9223372036854775807 10 ranges := by
  have h := @bounded_block_ranges_partitions 9223372036854775805 9223372036854775807 10
    (by decide) (by decide) (by decide)
  obtain ⟨ranges, hranges, _, hpartition⟩ := h.2 (by decide)
  exact ⟨ranges, hranges, hpartition⟩

end CoinListener.Worker
