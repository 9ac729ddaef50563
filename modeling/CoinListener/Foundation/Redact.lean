import CoinListener.Foundation.Replace

/-! Hiding what follows a marker: a text is marked behind every marker, and then cut there, for one
marker after the other. What comes out is the text up to the first marker of any kind. -/
namespace Foundation.Redact
open Replace

section Patterns
variable {α : Type} {pattern marker a b v x : List α} {c : α} {f : List α → List α}

/-! ### Where a pattern begins -/

/-- No occurrence of the pattern begins in `a` when `x` follows. -/
def Free (pattern a x : List α) : Prop :=
  ∀ b, b ≠ [] → b <:+ a → ¬ pattern <+: b ++ x

theorem Free.tail (h : Free pattern (c :: a) x) : Free pattern a x :=
  fun b hb hsuffix => h b hb (hsuffix.trans (List.suffix_cons c a))

theorem Free.head (h : Free pattern (c :: a) x) : ¬ pattern <+: c :: (a ++ x) :=
  h (c :: a) (List.cons_ne_nil c a) List.suffix_rfl

/-- What begins with the pattern does not begin there either. -/
theorem Free.longer (h : Free pattern a x) : Free (pattern ++ b) a x :=
  fun e he hsuffix hstarts => h e he hsuffix ((List.prefix_append pattern b).trans hstarts)

theorem free_of_absent (h : ¬ pattern <:+: a) : Free pattern a [] := by
  intro b _ hsuffix hstarts
  rw [List.append_nil] at hstarts
  exact h (hstarts.isInfix.trans hsuffix.isInfix)

/-- A pattern that begins in a text ends in it, or goes on with what follows. -/
theorem prefix_cases (h : pattern <+: b ++ x) :
    pattern <+: b ∨ ∃ rest, rest ≠ [] ∧ pattern = b ++ rest ∧ rest <+: x := by
  rcases List.prefix_or_prefix_of_prefix h (List.prefix_append b x) with hshort | hlong
  · exact .inl hshort
  · obtain ⟨rest, rfl⟩ := hlong
    cases rest with
    | nil => exact .inl (by simp)
    | cons d rest =>
      exact .inr ⟨d :: rest, List.cons_ne_nil d rest, rfl,
        (List.prefix_append_right_inj b).mp h⟩

/-- An occurrence does not go past a character that the pattern has not. -/
theorem free_of_separator (hc : c ∉ pattern) (h : ¬ pattern <:+: a) : Free pattern a (c :: x) := by
  intro b _ hsuffix hstarts
  rcases prefix_cases hstarts with hinside | ⟨rest, hrest, rfl, hbeyond⟩
  · exact h (hinside.isInfix.trans hsuffix.isInfix)
  · cases rest with
    | nil => exact absurd rfl hrest
    | cons d rest =>
      obtain rfl := (List.cons_prefix_cons.mp hbeyond).1
      exact hc (List.mem_append_right b (List.mem_cons_self ..))

theorem not_prefix_of_head (h : pattern ≠ []) (hc : c ∉ pattern) : ¬ pattern <+: c :: x := by
  intro hstarts
  cases pattern with
  | nil => exact h rfl
  | cons d rest =>
    exact hc ((List.cons_prefix_cons.mp hstarts).1 ▸ List.mem_cons_self ..)

/-! ### Scans -/

/-- The function goes over the text from the left and changes nothing before the pattern. -/
structure Scans (pattern : List α) (f : List α → List α) : Prop where
  nil : f [] = []
  kept : ∀ c text, ¬ pattern <+: c :: text → f (c :: text) = c :: f text

theorem Scans.append (h : Scans pattern f) (hfree : Free pattern a x) : f (a ++ x) = a ++ f x := by
  induction a with
  | nil => rfl
  | cons c a ih =>
    rw [List.cons_append, h.kept c _ hfree.head, ih hfree.tail]
    rfl

/-- A text without the pattern stays as it is. -/
theorem Scans.unchanged (h : Scans pattern f) (hnone : ¬ pattern <:+: a) : f a = a := by
  have happend := h.append (free_of_absent hnone)
  rwa [h.nil, List.append_nil] at happend

section
variable [DecidableEq α]

/-- The text up to the end of the first occurrence. -/
def cut (pattern : List α) : List α → List α
  | [] => []
  | c :: text => if pattern <+: c :: text then pattern else c :: cut pattern text

theorem cut_scans (pattern : List α) : Scans pattern (cut pattern) :=
  ⟨rfl, fun _ _ h => if_neg h⟩

theorem cut_hit (h : pattern ≠ []) : cut pattern (pattern ++ v) = pattern := by
  cases pattern with
  | nil => exact absurd rfl h
  | cons c rest => exact if_pos (List.prefix_append (c :: rest) v)

theorem cut_initial (pattern text : List α) : cut pattern text <+: text := by
  induction text with
  | nil => exact List.prefix_rfl
  | cons c text ih =>
    by_cases h : pattern <+: c :: text
    · rw [cut, if_pos h]
      exact h
    · rw [cut, if_neg h]
      exact (List.prefix_cons_inj c).mpr ih

theorem holes_skip (a v : List α) : holes pattern a.length (a ++ v) = holes pattern 0 v := by
  induction a with
  | nil => rfl
  | cons c a ih => exact ih

theorem replace_scans (h : pattern ≠ []) : Scans pattern (replace pattern marker) := by
  refine ⟨by simp [replace, h, fill], fun c text hkept => ?_⟩
  rw [replace, if_neg h, replace, if_neg h, holes_kept hkept]
  rfl

theorem replace_hit (h : pattern ≠ []) :
    replace pattern marker (pattern ++ v) = marker ++ replace pattern marker v := by
  cases pattern with
  | nil => exact absurd rfl h
  | cons c rest =>
    have hhere : c :: rest <+: c :: (rest ++ v) := List.prefix_append (c :: rest) v
    rw [replace, if_neg h, replace, if_neg h, List.cons_append, holes_cut hhere]
    exact congrArg (marker ++ fill marker ·) (holes_skip rest v)

/-- A text is replaced piece by piece between separators. -/
theorem replace_separator (h : pattern ≠ []) (hc : c ∉ pattern) (a x : List α) :
    replace pattern marker (a ++ c :: x) =
      replace pattern marker a ++ c :: replace pattern marker x := by
  obtain ⟨n, hn⟩ : ∃ n, a.length = n := ⟨_, rfl⟩
  induction n using Nat.strong_induction_on generalizing a with
  | _ n ih =>
    have hscan : Scans pattern (replace pattern marker) := replace_scans h
    cases a with
    | nil =>
      rw [List.nil_append, hscan.kept c x (not_prefix_of_head h hc), hscan.nil, List.nil_append]
    | cons d a =>
      by_cases hhere : pattern <+: d :: a
      · obtain ⟨v, hv⟩ := hhere
        have hlength : v.length < n := by
          have hpos := List.length_pos_iff.mpr h
          rw [← hn, ← hv, List.length_append]
          omega
        rw [← hv, List.append_assoc, replace_hit h, replace_hit h, ih _ hlength v rfl,
          List.append_assoc]
      · have hkept : ¬ pattern <+: d :: (a ++ c :: x) := by
          intro hstarts
          have happend : pattern <+: (d :: a) ++ c :: x := hstarts
          rcases prefix_cases happend with hinside | ⟨rest, hrest, rfl, hbeyond⟩
          · exact hhere hinside
          · cases rest with
            | nil => exact hrest rfl
            | cons e rest =>
              obtain rfl := (List.cons_prefix_cons.mp hbeyond).1
              exact hc (List.mem_append_right _ (List.mem_cons_self ..))
        rw [List.cons_append, hscan.kept d _ hkept, hscan.kept d a hhere,
          ih a.length (by rw [← hn]; exact Nat.lt_succ_self _) a rfl]
        rfl

theorem mem_of_holes {skip : Nat} (h : some c ∈ holes pattern skip a) : c ∈ a := by
  have hinfix : [c].map some <:+: holes pattern skip a := by
    obtain ⟨before, after, hparts⟩ := List.append_of_mem h
    exact ⟨before, after, by rw [hparts]; simp⟩
  exact (infix_of_holes (List.cons_ne_nil c []) hinfix).subset (List.mem_cons_self ..)

/-- Nothing is brought in that is not in the marker. -/
theorem not_mem_replace (h : pattern ≠ []) (hc : c ∉ marker) (ha : c ∉ a) :
    c ∉ replace pattern marker a := by
  rw [replace, if_neg h, fill, List.mem_flatMap]
  rintro ⟨part, hpart, hmem⟩
  cases part with
  | none => exact hc hmem
  | some d =>
    obtain rfl := List.mem_singleton.mp hmem
    exact ha (mem_of_holes hpart)

end

end Patterns

/-! ### Markers -/

section Markers
variable {α : Type} {all markers : List (List α)} {marker hidden q u v x : List α}
  {last close : α}

/-- The markers share their last character, which is nowhere else in them, and what stands for a
hidden value ends in a character that no marker has. -/
structure Distinct (all : List (List α)) (hidden : List α) (last close : α) : Prop where
  ends : ∀ marker ∈ all, ∃ start, marker = start ++ [last] ∧ last ∉ start
  last_hidden : last ∉ hidden
  closed : ∃ start, hidden = start ++ [close]
  close_marker : ∀ marker ∈ all, close ∉ marker

/-- A marker ends here. -/
def Marked (all : List (List α)) (text : List α) : Prop :=
  ∃ marker ∈ all, marker <:+ text

/-- The first marker of all ends here. -/
structure First (all : List (List α)) (text : List α) : Prop where
  marked : Marked all text
  first : ∀ start, start <+: text → Marked all start → start = text

/-- A marker inside the text up to the first marker can only be at its end. -/
theorem First.at_end (hq : First all q) (hmarker : marker ∈ all) (hu : u <:+ q)
    (hstarts : marker <+: u) : marker <:+ q := by
  obtain ⟨before, rfl⟩ := hu
  obtain ⟨after, rfl⟩ := hstarts
  have hstart : before ++ marker = before ++ (marker ++ after) :=
    hq.first _ ⟨after, by simp⟩ ⟨marker, hmarker, List.suffix_append before marker⟩
  rw [← hstart]
  exact List.suffix_append before marker

section
variable (h : Distinct all hidden last close)
include h

theorem Distinct.ne_nil (hmarker : marker ∈ all) : marker ≠ [] := by
  obtain ⟨start, rfl, _⟩ := h.ends marker hmarker
  exact List.append_ne_nil_of_right_ne_nil _ (List.cons_ne_nil _ _)

/-- A proper beginning of a marker has not its last character. -/
theorem Distinct.last_not_mem (hmarker : u ++ v ∈ all) (hv : v ≠ []) : last ∉ u := by
  obtain ⟨start, hstart, hlast⟩ := h.ends _ hmarker
  have hdrop : u ++ v.dropLast = start := by
    rw [← List.dropLast_append_of_ne_nil hv, hstart, List.dropLast_concat]
  rw [← hdrop, List.mem_append, not_or] at hlast
  exact hlast.1

/-- A marker ends in the last character. -/
theorem Distinct.last_mem (hmarker : u ++ v ∈ all) (hv : v ≠ []) : last ∈ v := by
  obtain ⟨start, hstart, _⟩ := h.ends _ hmarker
  have hsuffix : v <:+ start ++ [last] := hstart ▸ List.suffix_append u v
  rcases List.suffix_concat_iff.mp hsuffix with rfl | ⟨rest, rfl, _⟩
  · exact absurd rfl hv
  · exact List.mem_append_right rest (List.mem_cons_self ..)

theorem First.last_mem (hq : First all q) (hu : u ≠ []) (hsuffix : u <:+ q) : last ∈ u := by
  obtain ⟨marker, hmarker, hends⟩ := hq.marked
  obtain ⟨start, rfl, _⟩ := h.ends marker hmarker
  obtain ⟨before, rfl⟩ := hends
  rw [← List.append_assoc] at hsuffix
  rcases List.suffix_concat_iff.mp hsuffix with rfl | ⟨rest, rfl, _⟩
  · exact absurd rfl hu
  · exact List.mem_append_right rest (List.mem_cons_self ..)

/-- No other marker begins before the first one ends. -/
theorem First.free (hq : First all q) (hmarker : marker ∈ all) (hnot : ¬ marker <:+ q) :
    Free marker q x := by
  intro b hb hsuffix hstarts
  rcases prefix_cases hstarts with hinside | ⟨rest, hrest, rfl, _⟩
  · exact hnot (hq.at_end hmarker hsuffix hinside)
  · exact h.last_not_mem hmarker hrest (hq.last_mem h hb hsuffix)

/-- The marker at the end begins nowhere before. -/
theorem First.free_before (hq : First all (u ++ marker)) (hmarker : marker ∈ all) :
    Free marker u (marker ++ x) := by
  intro b hb hsuffix hstarts
  have hne := h.ne_nil hmarker
  rcases prefix_cases hstarts with hinside | ⟨rest, hrest, heq, hbeyond⟩
  · obtain ⟨before, rfl⟩ := hsuffix
    obtain ⟨after, rfl⟩ := hinside
    have hstart := hq.first (before ++ marker) ⟨after ++ marker, by simp⟩
      ⟨marker, hmarker, List.suffix_append before marker⟩
    have hlength := congrArg List.length hstart
    have hpos := List.length_pos_iff.mpr hne
    simp only [List.length_append] at hlength
    omega
  · have hshort : rest <+: marker := by
      refine List.prefix_of_prefix_length_le hbeyond (List.prefix_append marker x) ?_
      rw [heq, List.length_append]
      omega
    obtain ⟨after, hafter⟩ := hshort
    have hproper : after ≠ [] := by
      rintro rfl
      have hlength := congrArg List.length heq
      have hpos := List.length_pos_iff.mpr hb
      rw [← hafter] at hlength
      simp only [List.append_nil, List.length_append] at hlength
      omega
    have hlast := h.last_mem (heq ▸ hmarker) hrest
    exact h.last_not_mem (hafter ▸ hmarker) hproper hlast

/-- No marker begins in what stands for a value. -/
theorem Distinct.free_hidden (hmarker : marker ∈ all) : Free marker hidden x := by
  intro b hb hsuffix hstarts
  obtain ⟨start, hstart, _⟩ := h.ends marker hmarker
  rcases prefix_cases hstarts with hinside | ⟨rest, _, heq, _⟩
  · have hlast : last ∈ marker := hstart ▸ List.mem_append_right start (List.mem_cons_self ..)
    exact h.last_hidden (hsuffix.subset (hinside.subset hlast))
  · obtain ⟨before, hclosed⟩ := h.closed
    have hclose : close ∈ b := by
      rw [hclosed] at hsuffix
      rcases List.suffix_concat_iff.mp hsuffix with rfl | ⟨rest, rfl, _⟩
      · exact absurd rfl hb
      · exact List.mem_append_right rest (List.mem_cons_self ..)
    exact h.close_marker marker hmarker (heq ▸ List.mem_append_left rest hclose)

end

/-! ### One marker after the other -/

section Passes
variable [DecidableEq α]

instance (all : List (List α)) (text : List α) : Decidable (Marked all text) :=
  inferInstanceAs (Decidable (∃ marker ∈ all, marker <:+ text))

/-- Marks the text behind every marker, one marker after the other. -/
def marks (hidden : List α) (markers : List (List α)) (text : List α) : List α :=
  markers.foldl (fun text marker => replace marker (marker ++ hidden) text) text

/-- Cuts the text behind every mark, one marker after the other. -/
def cuts (hidden : List α) (markers : List (List α)) (text : List α) : List α :=
  markers.foldl (fun text marker => cut (marker ++ hidden) text) text

/-- The text up to the first marker, and what stands for its value; `seen` was read before. -/
def hide (hidden : List α) (all : List (List α)) : List α → List α → List α
  | _, [] => []
  | seen, c :: text =>
    if Marked all (seen ++ [c]) then c :: hidden else c :: hide hidden all (seen ++ [c]) text

/-- The text is marked piece by piece between separators. -/
theorem marks_separator {c : α} (h : ∀ marker ∈ markers, marker ≠ [])
    (hc : ∀ marker ∈ markers, c ∉ marker) (u v : List α) :
    marks hidden markers (u ++ c :: v) = marks hidden markers u ++ c :: marks hidden markers v := by
  induction markers generalizing u v with
  | nil => rfl
  | cons marker markers ih =>
    have hhere := @replace_separator _ marker (marker ++ hidden) c _
      (h marker (List.mem_cons_self ..)) (hc marker (List.mem_cons_self ..)) u v
    have hrest := ih (fun m hm => h m (List.mem_cons_of_mem marker hm))
      fun m hm => hc m (List.mem_cons_of_mem marker hm)
    unfold marks at hrest ⊢
    rw [List.foldl_cons, hhere, hrest]
    rfl

theorem not_mem_marks {c : α} (h : ∀ marker ∈ markers, marker ≠ [])
    (hc : ∀ marker ∈ markers, c ∉ marker ++ hidden) (hu : c ∉ u) : c ∉ marks hidden markers u := by
  induction markers generalizing u with
  | nil => exact hu
  | cons marker markers ih =>
    have hhere : c ∉ replace marker (marker ++ hidden) u :=
      not_mem_replace (h marker (List.mem_cons_self ..)) (hc marker (List.mem_cons_self ..)) hu
    exact ih (fun m hm => h m (List.mem_cons_of_mem marker hm))
      (fun m hm => hc m (List.mem_cons_of_mem marker hm)) hhere

section
variable (h : Distinct all hidden last close)
include h

theorem mark_hidden (hmarker : marker ∈ all) (x : List α) :
    replace marker (marker ++ hidden) (hidden ++ x) =
      hidden ++ replace marker (marker ++ hidden) x :=
  (replace_scans (h.ne_nil hmarker)).append (h.free_hidden hmarker)

theorem mark_here (hq : First all (u ++ marker)) (hmarker : marker ∈ all) (x : List α) :
    replace marker (marker ++ hidden) (u ++ marker ++ x) =
      u ++ marker ++ hidden ++ replace marker (marker ++ hidden) x := by
  have hne := h.ne_nil hmarker
  have hscan : replace marker (marker ++ hidden) (u ++ (marker ++ x)) =
      u ++ replace marker (marker ++ hidden) (marker ++ x) :=
    (replace_scans hne).append (hq.free_before h hmarker)
  rw [List.append_assoc, hscan, replace_hit hne]
  simp only [List.append_assoc]

theorem mark_past (hq : First all q) (hmarker : marker ∈ all) (hnot : ¬ marker <:+ q)
    (x : List α) : replace marker (marker ++ hidden) (q ++ x) =
      q ++ replace marker (marker ++ hidden) x :=
  (replace_scans (h.ne_nil hmarker)).append (hq.free h hmarker hnot)

/-- A mark behind the first marker stays there. -/
theorem mark_marked (hq : First all q) (hmarker : marker ∈ all) (x : List α) :
    ∃ x', replace marker (marker ++ hidden) (q ++ hidden ++ x) = q ++ hidden ++ x' := by
  by_cases hends : marker <:+ q
  · obtain ⟨u, rfl⟩ := hends
    refine ⟨replace marker (marker ++ hidden) (hidden ++ x), ?_⟩
    rw [List.append_assoc (u ++ marker), mark_here h hq hmarker]
  · refine ⟨replace marker (marker ++ hidden) x, ?_⟩
    rw [List.append_assoc, mark_past h hq hmarker hends, mark_hidden h hmarker,
      ← List.append_assoc]

theorem marks_marked (hq : First all q) (hall : ∀ marker ∈ markers, marker ∈ all) (x : List α) :
    ∃ x', marks hidden markers (q ++ hidden ++ x) = q ++ hidden ++ x' := by
  induction markers generalizing x with
  | nil => exact ⟨x, rfl⟩
  | cons marker markers ih =>
    obtain ⟨y, hy⟩ := mark_marked h hq (hall marker (List.mem_cons_self ..)) x
    obtain ⟨x', hx'⟩ := ih (fun m hm => hall m (List.mem_cons_of_mem marker hm)) y
    exact ⟨x', by rw [← hx', ← hy]; rfl⟩

/-- Once its turn has come, the first marker is marked. -/
theorem marks_first (hq : First all q) (hall : ∀ marker ∈ markers, marker ∈ all)
    (hends : Marked markers q) (x : List α) :
    ∃ x', marks hidden markers (q ++ x) = q ++ hidden ++ x' := by
  induction markers generalizing x with
  | nil =>
    obtain ⟨_, hmarker, _⟩ := hends
    exact absurd hmarker List.not_mem_nil
  | cons marker markers ih =>
    have hmarker := hall marker (List.mem_cons_self ..)
    have hrest : ∀ m ∈ markers, m ∈ all := fun m hm => hall m (List.mem_cons_of_mem marker hm)
    by_cases hhere : marker <:+ q
    · obtain ⟨u, rfl⟩ := hhere
      obtain ⟨x', hx'⟩ := marks_marked h hq hrest (replace marker (marker ++ hidden) x)
      exact ⟨x', by rw [← hx', ← mark_here h hq hmarker]; rfl⟩
    · have hlater : Marked markers q := by
        obtain ⟨m, hm, hsuffix⟩ := hends
        rcases List.mem_cons.mp hm with rfl | hm
        · exact absurd hsuffix hhere
        · exact ⟨m, hm, hsuffix⟩
      obtain ⟨x', hx'⟩ := ih hrest hlater (replace marker (marker ++ hidden) x)
      exact ⟨x', by rw [← hx', ← mark_past h hq hmarker hhere]; rfl⟩

theorem cut_here (hq : First all (u ++ marker)) (hmarker : marker ∈ all) (x : List α) :
    cut (marker ++ hidden) (u ++ marker ++ hidden ++ x) = u ++ marker ++ hidden := by
  have hne : marker ++ hidden ≠ [] :=
    List.append_ne_nil_of_left_ne_nil (h.ne_nil hmarker) hidden
  have hscan : cut (marker ++ hidden) (u ++ (marker ++ (hidden ++ x))) =
      u ++ cut (marker ++ hidden) (marker ++ (hidden ++ x)) :=
    (cut_scans _).append (hq.free_before h hmarker).longer
  rw [List.append_assoc (u ++ marker), List.append_assoc u, hscan, ← List.append_assoc marker,
    cut_hit hne, List.append_assoc]

theorem cut_past (hq : First all q) (hmarker : marker ∈ all) (hnot : ¬ marker <:+ q)
    (x : List α) : cut (marker ++ hidden) (q ++ hidden ++ x) =
      q ++ hidden ++ cut (marker ++ hidden) x := by
  have hscan : cut (marker ++ hidden) (q ++ (hidden ++ x)) =
      q ++ cut (marker ++ hidden) (hidden ++ x) :=
    (cut_scans _).append (hq.free h hmarker hnot).longer
  have hscan' : cut (marker ++ hidden) (hidden ++ x) = hidden ++ cut (marker ++ hidden) x :=
    (cut_scans _).append (h.free_hidden hmarker).longer
  rw [List.append_assoc, hscan, hscan', List.append_assoc]

/-- Nothing behind the mark comes back. -/
theorem cuts_cut (hq : First all q) (hall : ∀ marker ∈ markers, marker ∈ all) :
    cuts hidden markers (q ++ hidden) = q ++ hidden := by
  induction markers with
  | nil => rfl
  | cons marker markers ih =>
    have hmarker := hall marker (List.mem_cons_self ..)
    have hcut : cut (marker ++ hidden) (q ++ hidden) = q ++ hidden := by
      by_cases hends : marker <:+ q
      · obtain ⟨u, rfl⟩ := hends
        have hhere := cut_here h hq hmarker []
        rwa [List.append_nil] at hhere
      · have hpast := cut_past h hq hmarker hends []
        rwa [List.append_nil, (cut_scans _).nil, List.append_nil] at hpast
    have hrest := ih fun m hm => hall m (List.mem_cons_of_mem marker hm)
    unfold cuts at hrest ⊢
    rw [List.foldl_cons, hcut, hrest]

theorem cuts_first (hq : First all q) (hall : ∀ marker ∈ markers, marker ∈ all)
    (hends : Marked markers q) (x : List α) :
    cuts hidden markers (q ++ hidden ++ x) = q ++ hidden := by
  induction markers generalizing x with
  | nil =>
    obtain ⟨_, hmarker, _⟩ := hends
    exact absurd hmarker List.not_mem_nil
  | cons marker markers ih =>
    have hmarker := hall marker (List.mem_cons_self ..)
    have hrest : ∀ m ∈ markers, m ∈ all := fun m hm => hall m (List.mem_cons_of_mem marker hm)
    by_cases hhere : marker <:+ q
    · obtain ⟨u, rfl⟩ := hhere
      have hcuts := cuts_cut h hq hrest
      unfold cuts at hcuts ⊢
      rw [List.foldl_cons, cut_here h hq hmarker, hcuts]
    · have hlater : Marked markers q := by
        obtain ⟨m, hm, hsuffix⟩ := hends
        rcases List.mem_cons.mp hm with rfl | hm
        · exact absurd hsuffix hhere
        · exact ⟨m, hm, hsuffix⟩
      have hcuts := ih hrest hlater (cut (marker ++ hidden) x)
      unfold cuts at hcuts ⊢
      rw [List.foldl_cons, cut_past h hq hmarker hhere, hcuts]

/-- All passes together cut the text behind the first marker. -/
theorem passes_first (hq : First all q) (x : List α) :
    cuts hidden all (marks hidden all (q ++ x)) = q ++ hidden := by
  obtain ⟨x', hx'⟩ := marks_first h hq (fun _ hm => hm) hq.marked x
  rw [hx', cuts_first h hq (fun _ hm => hm) hq.marked]

end

/-! ### Texts up to the first marker -/

/-- No marker ends in the text. -/
def Unmarked (all : List (List α)) (text : List α) : Prop :=
  ∀ start, start <+: text → ¬ Marked all start

omit [DecidableEq α] in
theorem Unmarked.not_infix (hu : Unmarked all u) (hmarker : marker ∈ all) : ¬ marker <:+: u := by
  rintro ⟨before, after, rfl⟩
  exact hu (before ++ marker) ⟨after, rfl⟩ ⟨marker, hmarker, List.suffix_append before marker⟩

/-- Without markers no pass changes anything. -/
theorem passes_unmarked (h : Distinct all hidden last close) (hu : Unmarked all u) :
    cuts hidden all (marks hidden all u) = u := by
  have hmarks : ∀ markers : List (List α), (∀ m ∈ markers, m ∈ all) →
      marks hidden markers u = u := by
    intro markers
    induction markers with
    | nil => exact fun _ => rfl
    | cons marker markers ih =>
      intro hall
      have hmarker := hall marker (List.mem_cons_self ..)
      have hsame : replace marker (marker ++ hidden) u = u :=
        (replace_scans (h.ne_nil hmarker)).unchanged (hu.not_infix hmarker)
      have hrest := ih fun m hm => hall m (List.mem_cons_of_mem marker hm)
      unfold marks at hrest ⊢
      rw [List.foldl_cons, hsame, hrest]
  have hcuts : ∀ markers : List (List α), (∀ m ∈ markers, m ∈ all) →
      cuts hidden markers u = u := by
    intro markers
    induction markers with
    | nil => exact fun _ => rfl
    | cons marker markers ih =>
      intro hall
      have hmarker := hall marker (List.mem_cons_self ..)
      have hsame : cut (marker ++ hidden) u = u :=
        (cut_scans _).unchanged fun hinfix =>
          hu.not_infix hmarker ((List.prefix_append marker hidden).isInfix.trans hinfix)
      have hrest := ih fun m hm => hall m (List.mem_cons_of_mem marker hm)
      unfold cuts at hrest ⊢
      rw [List.foldl_cons, hsame, hrest]
  rw [hmarks all fun _ hm => hm, hcuts all fun _ hm => hm]

/-- A text is read to its end, or up to the first marker. -/
theorem hide_cases (seen text : List α) (hseen : Unmarked all seen) :
    (Unmarked all (seen ++ text) ∧ hide hidden all seen text = text) ∨
      ∃ r v, text = r ++ v ∧ First all (seen ++ r) ∧ hide hidden all seen text = r ++ hidden := by
  induction text generalizing seen with
  | nil => exact .inl ⟨by rwa [List.append_nil], rfl⟩
  | cons c text ih =>
    have hstarts : ∀ start, start <+: seen ++ [c] → start ≠ seen ++ [c] → ¬ Marked all start := by
      intro start hstart hne
      rcases List.prefix_concat_iff.mp hstart with heq | hshort
      · exact absurd heq hne
      · exact hseen start hshort
    by_cases hmarked : Marked all (seen ++ [c])
    · refine .inr ⟨[c], text, rfl, ⟨hmarked, fun start hstart hstart' => ?_⟩, if_pos hmarked⟩
      by_contra hne
      exact hstarts start hstart hne hstart'
    · have hnext : Unmarked all (seen ++ [c]) := by
        intro start hstart
        by_cases heq : start = seen ++ [c]
        · exact heq ▸ hmarked
        · exact hstarts start hstart heq
      have hhide : hide hidden all seen (c :: text) = c :: hide hidden all (seen ++ [c]) text :=
        if_neg hmarked
      rw [hhide]
      rcases ih (seen ++ [c]) hnext with ⟨hall, hsame⟩ | ⟨r, v, rfl, hfirst, hcut⟩
      · rw [List.append_assoc] at hall
        exact .inl ⟨hall, by rw [hsame]⟩
      · rw [List.append_assoc] at hfirst
        exact .inr ⟨c :: r, v, rfl, hfirst, by rw [hcut]; rfl⟩

omit [DecidableEq α] in
theorem First.unique {q' text : List α} (hq : First all q) (hq' : First all q')
    (h : q <+: text) (h' : q' <+: text) : q = q' := by
  rcases List.prefix_or_prefix_of_prefix h h' with hshort | hlong
  · exact hq'.first q hshort hq.marked
  · exact (hq.first q' hlong hq'.marked).symm

variable (h : Distinct all hidden last close)
include h

omit [DecidableEq α] in
theorem unmarked_nil : Unmarked all [] := by
  rintro start hstart ⟨marker, hmarker, hsuffix⟩
  obtain rfl := List.prefix_nil.mp hstart
  exact h.ne_nil hmarker (List.suffix_nil.mp hsuffix)

theorem hide_first (hq : First all q) (v : List α) :
    hide hidden all [] (q ++ v) = q ++ hidden := by
  rcases @hide_cases _ all hidden _ [] (q ++ v) (unmarked_nil h) with
    ⟨hall, _⟩ | ⟨r, w, hsplit, hfirst, hhide⟩
  · exact absurd hq.marked (hall q (List.prefix_append q v))
  · rw [hhide, hq.unique hfirst (List.prefix_append q v) (hsplit ▸ List.prefix_append r w)]
    rfl

theorem hide_unmarked (hu : Unmarked all u) : hide hidden all [] u = u := by
  rcases @hide_cases _ all hidden _ [] u (unmarked_nil h) with
    ⟨_, hhide⟩ | ⟨r, w, hsplit, hfirst, _⟩
  · exact hhide
  · exact absurd hfirst.marked (hu r (hsplit ▸ List.prefix_append r w))

/-- All passes together come to the text up to the first marker. -/
theorem passes_eq_hide (text : List α) :
    cuts hidden all (marks hidden all text) = hide hidden all [] text := by
  rcases @hide_cases _ all hidden _ [] text (unmarked_nil h) with
    ⟨hall, hhide⟩ | ⟨r, v, rfl, hfirst, hhide⟩
  · rw [hhide]
    exact passes_unmarked h hall
  · rw [hhide]
    exact passes_first h hfirst v

omit h [DecidableEq α] in
/-- A marker does not reach back over a separator. -/
theorem suffix_of_separator {c : α} (hc : c ∉ marker) (hsuffix : marker <:+ u ++ c :: v) :
    marker <:+ v := by
  rcases List.suffix_or_suffix_of_suffix hsuffix (List.suffix_append u (c :: v)) with
    hshort | hlong
  · rcases List.suffix_cons_iff.mp hshort with heq | hrest
    · exact absurd (heq ▸ List.mem_cons_self ..) hc
    · exact hrest
  · exact absurd (hlong.subset (List.mem_cons_self ..)) hc

/-- A word without a marker is kept, and the next one is read afresh. -/
theorem hide_kept {c : α} (hc : ∀ marker ∈ all, c ∉ marker) (hu : Unmarked all u) (v : List α) :
    hide hidden all [] (u ++ c :: v) = u ++ c :: hide hidden all [] v := by
  have hstarts : ∀ start, start <+: u ++ c :: v → Marked all start →
      ∃ rest, start = u ++ c :: rest ∧ rest <+: v ∧ Marked all rest := by
    rintro start hstart ⟨marker, hmarker, hsuffix⟩
    rcases prefix_cases hstart with hshort | ⟨rest, hrest, rfl, hbeyond⟩
    · exact absurd ⟨marker, hmarker, hsuffix⟩ (hu start hshort)
    · cases rest with
      | nil => exact absurd rfl hrest
      | cons d rest =>
        obtain ⟨rfl, htail⟩ := List.cons_prefix_cons.mp hbeyond
        exact ⟨rest, rfl, htail, marker, hmarker, suffix_of_separator (hc marker hmarker) hsuffix⟩
  rcases @hide_cases _ all hidden _ [] v (unmarked_nil h) with
    ⟨hall, hhide⟩ | ⟨r, w, rfl, hfirst, hhide⟩
  · rw [hhide]
    refine hide_unmarked h fun start hstart hmarked => ?_
    obtain ⟨rest, _, hrest, hrest'⟩ := hstarts start hstart hmarked
    exact hall rest hrest hrest'
  · have hfirst' : First all (u ++ c :: r) := by
      obtain ⟨marker, hmarker, hsuffix⟩ := hfirst.marked
      refine ⟨⟨marker, hmarker, hsuffix.trans ⟨u ++ [c], by simp⟩⟩, fun start hstart hmarked => ?_⟩
      obtain ⟨rest, rfl, _, hrest⟩ := hstarts start (hstart.trans ⟨w, by simp⟩) hmarked
      have htail : rest <+: r := by simpa using hstart
      rw [hfirst.first rest htail hrest]
      rfl
    have hcut := hide_first h hfirst' w
    rw [hhide]
    simpa using hcut

/-- Behind a marker everything is hidden, also what follows the word. -/
theorem hide_hidden (hu : ¬ Unmarked all u) (v : List α) :
    hide hidden all [] (u ++ v) = hide hidden all [] u := by
  rcases @hide_cases _ all hidden _ [] u (unmarked_nil h) with
    ⟨hall, _⟩ | ⟨r, w, rfl, hfirst, hhide⟩
  · exact absurd hall hu
  · rw [hhide, List.append_assoc]
    exact hide_first h hfirst (w ++ v)

/-- What is hidden makes no difference. -/
theorem hide_value (hmarker : marker ∈ all) (u v v' : List α) :
    hide hidden all [] (u ++ marker ++ v) = hide hidden all [] (u ++ marker ++ v') := by
  have hmarked : ¬ Unmarked all (u ++ marker) := fun hall =>
    hall _ List.prefix_rfl ⟨marker, hmarker, List.suffix_append u marker⟩
  rw [hide_hidden h hmarked, hide_hidden h hmarked]

end Passes

/-! ### Words -/

section Words
variable [DecidableEq α] {separator : α → Bool}

/-- Word by word: the value behind the first marker of a word, up to the next separator, is
replaced, and everything else is kept. -/
def redacted (separator : α → Bool) (hidden : List α) (all : List (List α)) :
    Bool → List α → List α → List α
  | _, _, [] => []
  | inside, seen, c :: text =>
    if separator c then c :: redacted separator hidden all false [] text
    else if inside then redacted separator hidden all true [] text
    else if Marked all (seen ++ [c]) then
      c :: (hidden ++ redacted separator hidden all true [] text)
    else c :: redacted separator hidden all false (seen ++ [c]) text

theorem redacted_separator {c : α} (hc : separator c = true) (inside : Bool) (seen text : List α) :
    redacted separator hidden all inside seen (c :: text) =
      c :: redacted separator hidden all false [] text :=
  if_pos hc

theorem redacted_value (hu : ∀ c ∈ u, separator c = false) (rest : List α) :
    redacted separator hidden all true [] (u ++ rest) =
      redacted separator hidden all true [] rest := by
  induction u with
  | nil => rfl
  | cons c u ih =>
    have hc := hu c (List.mem_cons_self ..)
    rw [List.cons_append, redacted, hc, ih fun d hd => hu d (List.mem_cons_of_mem c hd)]
    rfl

/-- A word comes to the text up to its first marker. -/
theorem redacted_word (hu : ∀ c ∈ u, separator c = false) (seen rest : List α)
    (hrest : ∀ inside seen, redacted separator hidden all inside seen rest =
      redacted separator hidden all false [] rest) :
    redacted separator hidden all false seen (u ++ rest) =
      hide hidden all seen u ++ redacted separator hidden all false [] rest := by
  induction u generalizing seen with
  | nil => exact hrest false seen
  | cons c u ih =>
    have hc := hu c (List.mem_cons_self ..)
    have hu' : ∀ d ∈ u, separator d = false := fun d hd => hu d (List.mem_cons_of_mem c hd)
    rw [List.cons_append, redacted, hc, hide]
    by_cases hmarked : Marked all (seen ++ [c])
    · rw [if_pos hmarked, if_pos hmarked, redacted_value hu', hrest true []]
      simp
    · rw [if_neg hmarked, if_neg hmarked, ih hu' (seen ++ [c])]
      simp

end Words

end Markers

end Foundation.Redact
