import Mathlib.Data.List.DropRight

/-! Replacing one text by another, and which texts are gone for good afterwards. -/
namespace Foundation.Replace

variable {α : Type} {marker pattern word text : List α} {parts : List (Option α)} {c d : α}

/-- The text with the holes filled. -/
def fill (marker : List α) (text : List (Option α)) : List α :=
  text.flatMap fun c => c.elim marker fun c => [c]

theorem not_prefix_hole {rest : List (Option α)} (hword : word ≠ []) :
    ¬ word.map some <+: none :: rest := by
  cases word with
  | nil => exact absurd rfl hword
  | cons d word => exact fun h => absurd (List.cons_prefix_cons.mp h).1 (Option.some_ne_none d)

/-! ### Holes -/

section Holes
variable [DecidableEq α]

/-- The text with each occurrence of the pattern as a hole: the leftmost one first, and none that
overlaps it. The number is what is left of an occurrence. -/
def holes (pattern : List α) : Nat → List α → List (Option α)
  | _, [] => []
  | skip + 1, _ :: text => holes pattern skip text
  | 0, c :: text =>
    if pattern <+: c :: text then none :: holes pattern (pattern.length - 1) text
    else some c :: holes pattern 0 text

/-- An empty pattern occurs before and after each character. -/
def replace (pattern marker text : List α) : List α :=
  if pattern = [] then marker ++ text.flatMap fun c => c :: marker
  else fill marker (holes pattern 0 text)

@[simp] theorem holes_nil (skip : Nat) : holes pattern skip [] = [] :=
  rfl

theorem holes_cut (h : pattern <+: c :: text) :
    holes pattern 0 (c :: text) = none :: holes pattern (pattern.length - 1) text :=
  if_pos h

theorem holes_kept (h : ¬ pattern <+: c :: text) :
    holes pattern 0 (c :: text) = some c :: holes pattern 0 text :=
  if_neg h

/-- Up to the first hole the text is as it was. -/
theorem prefix_of_holes (h : word.map some <+: holes pattern 0 text) : word <+: text := by
  induction text generalizing word with
  | nil =>
    rw [holes_nil, List.prefix_nil, List.map_eq_nil_iff] at h
    exact h ▸ List.nil_prefix
  | cons c text ih =>
    cases word with
    | nil => exact List.nil_prefix
    | cons d word =>
      by_cases hc : pattern <+: c :: text
      · rw [holes_cut hc] at h
        exact absurd h (not_prefix_hole (List.cons_ne_nil d word))
      · rw [holes_kept hc] at h
        obtain ⟨hhead, htail⟩ := List.cons_prefix_cons.mp h
        exact List.cons_prefix_cons.mpr ⟨Option.some.inj hhead, ih htail⟩

/-- Nothing comes to stand side by side that did not before. -/
theorem infix_of_holes {skip : Nat} (hword : word ≠ [])
    (h : word.map some <:+: holes pattern skip text) : word <:+: text := by
  induction text generalizing skip with
  | nil =>
    rw [holes_nil, List.infix_nil, List.map_eq_nil_iff] at h
    exact absurd h hword
  | cons c text ih =>
    cases skip with
    | succ skip => exact List.infix_cons (ih h)
    | zero =>
      by_cases hc : pattern <+: c :: text
      · rw [holes_cut hc, List.infix_cons_iff] at h
        rcases h with hstarts | hinfix
        · exact absurd hstarts (not_prefix_hole hword)
        · exact List.infix_cons (ih hinfix)
      · rw [holes_kept hc, List.infix_cons_iff, ← holes_kept hc] at h
        rcases h with hstarts | hinfix
        · exact (prefix_of_holes hstarts).isInfix
        · exact List.infix_cons (ih hinfix)

/-- The pattern itself is gone. -/
theorem not_infix_holes (hpattern : pattern ≠ []) (skip : Nat) (text : List α) :
    ¬ pattern.map some <:+: holes pattern skip text := by
  induction text generalizing skip with
  | nil =>
    rw [holes_nil, List.infix_nil, List.map_eq_nil_iff]
    exact hpattern
  | cons c text ih =>
    cases skip with
    | succ skip => exact ih skip
    | zero =>
      by_cases hc : pattern <+: c :: text
      · rw [holes_cut hc, List.infix_cons_iff]
        rintro (hstarts | hinfix)
        · exact not_prefix_hole hpattern hstarts
        · exact ih _ hinfix
      · rw [holes_kept hc, List.infix_cons_iff, ← holes_kept hc]
        rintro (hstarts | hinfix)
        · exact hc (prefix_of_holes hstarts)
        · exact ih 0 hinfix

end Holes

/-! ### Filled holes -/

section Fill
variable {first begins : α}

theorem fill_append (parts rest : List (Option α)) :
    fill marker (parts ++ rest) = fill marker parts ++ fill marker rest :=
  List.flatMap_append

theorem fill_some (text : List α) : fill marker (text.map some) = text := by
  induction text with
  | nil => rfl
  | cons c text ih => exact congrArg (c :: ·) ih

theorem fill_intercalate (separator : List α) (texts : List (List (Option α))) :
    fill marker ((separator.map some).intercalate texts) =
      separator.intercalate (texts.map (fill marker)) := by
  induction texts with
  | nil => rfl
  | cons text texts ih =>
    cases texts with
    | nil => simp
    | cons next texts =>
      simp only [List.map_cons, List.intercalate_cons_cons, fill_append, fill_some] at ih ⊢
      rw [ih]

theorem prefix_of_fill (hfirst : first ∉ word) (hmarker : marker.head? = some first)
    (h : word <+: fill marker parts) : word.map some <+: parts := by
  induction word generalizing parts with
  | nil => exact List.nil_prefix
  | cons d word ih =>
    obtain ⟨hd, hrest⟩ := not_or.mp (List.mem_cons.not.mp hfirst)
    cases parts with
    | nil => exact absurd (List.prefix_nil.mp h) (List.cons_ne_nil d word)
    | cons part parts =>
      cases part with
      | some c =>
        obtain ⟨rfl, htail⟩ := List.cons_prefix_cons.mp h
        exact List.cons_prefix_cons.mpr ⟨rfl, ih hrest htail⟩
      | none =>
        cases marker with
        | nil => exact nomatch hmarker
        | cons m marker =>
          obtain rfl := Option.some.inj hmarker
          exact absurd (List.cons_prefix_cons.mp h).1.symm hd

/-- A word that cannot begin here begins later. -/
theorem infix_of_append {before : List α} (hword : word.head? = some begins)
    (hbegins : begins ∉ before) (h : word <:+: before ++ text) : word <:+: text := by
  induction before with
  | nil => exact h
  | cons c before ih =>
    obtain ⟨hc, hrest⟩ := not_or.mp (List.mem_cons.not.mp hbegins)
    rw [List.cons_append, List.infix_cons_iff] at h
    rcases h with hstarts | hinfix
    · cases word with
      | nil => exact nomatch hword
      | cons d word =>
        obtain rfl := Option.some.inj hword
        exact absurd (List.cons_prefix_cons.mp hstarts).1 hc
    · exact ih hrest hinfix

/-- A word without the first character of the marker, whose own first character is not in it, never
touches a marker. -/
theorem infix_fill_iff (hfirst : first ∉ word) (hmarker : marker.head? = some first)
    (hword : word.head? = some begins) (hbegins : begins ∉ marker) :
    word <:+: fill marker parts ↔ word.map some <:+: parts := by
  constructor
  · intro h
    induction parts with
    | nil =>
      obtain rfl := List.infix_nil.mp h
      exact nomatch hword
    | cons part parts ih =>
      cases part with
      | none => exact List.infix_cons (ih (infix_of_append hword hbegins h))
      | some c =>
        rcases List.infix_cons_iff.mp h with hstarts | hinfix
        · have hfilled : word <+: fill marker (some c :: parts) := hstarts
          exact (prefix_of_fill hfirst hmarker hfilled).isInfix
        · exact List.infix_cons (ih hinfix)
  · rintro ⟨before, after, rfl⟩
    rw [fill_append, fill_append, fill_some]
    exact List.infix_append ..

end Fill

/-! ### Where a word can begin -/

/-- A word cannot begin in a part, or at the separator after it, where its own beginning, without
the separator, does not occur. -/
theorem infix_of_part {start before : List α} {separator : α} (hstart : start <+: word)
    (hsome : start ≠ []) (hseparator : separator ∉ start) (hbefore : ¬ start <:+: before)
    (h : word <:+: before ++ separator :: text) : word <:+: text := by
  induction before with
  | nil =>
    rw [List.nil_append, List.infix_cons_iff] at h
    rcases h with hstarts | hinfix
    · cases start with
      | nil => exact absurd rfl hsome
      | cons c start =>
        have hc := (List.cons_prefix_cons.mp (hstart.trans hstarts)).1
        exact absurd (hc ▸ List.mem_cons_self ..) hseparator
    · exact hinfix
  | cons c before ih =>
    rw [List.cons_append, List.infix_cons_iff] at h
    rcases h with hstarts | hinfix
    · have hwhole : start <+: (c :: before) ++ separator :: text := hstart.trans hstarts
      rcases List.prefix_or_prefix_of_prefix hwhole (List.prefix_append (c :: before) _) with
        hshort | hlong
      · exact absurd hshort.isInfix hbefore
      · obtain ⟨rest, rfl⟩ := hlong
        cases rest with
        | nil => exact absurd (by simp) hbefore
        | cons d rest =>
          have hd := (List.cons_prefix_cons.mp ((List.prefix_append_right_inj _).mp hwhole)).1
          exact absurd (hd ▸ List.mem_append_right _ (List.mem_cons_self ..)) hseparator
    · exact ih (fun hinner => hbefore (List.infix_cons hinner)) hinfix

/-! ### Texts cut at the end -/

theorem rdropWhile_mono {p : α → Bool} {a b : List α} (h : a <+: b) :
    a.rdropWhile p <+: b.rdropWhile p := by
  obtain ⟨rest, rfl⟩ := h
  induction rest using List.reverseRecOn with
  | nil => exact (List.append_nil a).symm ▸ List.prefix_rfl
  | append_singleton rest c ih =>
    rw [← List.append_assoc]
    by_cases hc : p c
    · rwa [List.rdropWhile_concat_pos _ _ _ hc]
    · rw [List.rdropWhile_concat_neg _ _ _ hc]
      exact (List.rdropWhile_prefix p a).trans
        ((List.prefix_append a rest).trans (List.prefix_append _ _))

/-- A beginning that does not end in what is cut is kept. -/
theorem prefix_rdropWhile {p : α → Bool} {a b : List α} (h : a <+: b)
    (hlast : ∀ ha : a ≠ [], ¬ p (a.getLast ha)) : a <+: b.rdropWhile p := by
  have hkept := rdropWhile_mono (p := p) h
  rwa [List.rdropWhile_eq_self_iff.mpr hlast] at hkept

end Foundation.Replace

def Foundation.Text.replace (pattern marker text : String) : String :=
  String.ofList (Foundation.Replace.replace pattern.toList marker.toList text.toList)
