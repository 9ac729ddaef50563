import CoinListener.Foundation.Redact
import CoinListener.Storage.ProviderHealth

/-! Which part of an error text is stored: word by word, what the six passes over it come to. -/
namespace CoinListener.Storage
open Foundation Redact Replace

/-! ### Markers and separators -/

def REDACTED : List Char := "<redacted>".toList

def QUERY_MARKERS : List (List Char) := ["token=".toList, "api_key=".toList, "key=".toList]

def is_separator (c : Char) : Bool :=
  c == '&' || c == ' '

/-- Each value behind a marker, up to the next separator, is replaced; everything else is kept. -/
def redacted_text (text : List Char) : List Char :=
  redacted is_separator REDACTED QUERY_MARKERS false [] text

/-- The text up to the first marker in it. -/
def shown (text : List Char) : List Char :=
  hide REDACTED QUERY_MARKERS [] text

theorem query_markers : Redact.Distinct QUERY_MARKERS REDACTED '=' '>' where
  ends := by
    intro marker hmarker
    rcases List.mem_cons.mp hmarker with rfl | hmarker
    · exact ⟨"token".toList, by decide, by decide⟩
    rcases List.mem_cons.mp hmarker with rfl | hmarker
    · exact ⟨"api_key".toList, by decide, by decide⟩
    · obtain rfl := List.mem_singleton.mp hmarker
      exact ⟨"key".toList, by decide, by decide⟩
  last_hidden := by decide
  closed := ⟨"<redacted".toList, by decide⟩
  close_marker := by decide

theorem separator_cases {c : Char} (h : is_separator c = true) : c = '&' ∨ c = ' ' := by
  simpa [is_separator] using h

theorem separator_not_marker {c : Char} (h : is_separator c = true) :
    ∀ marker ∈ QUERY_MARKERS, c ∉ marker ++ REDACTED := by
  rcases separator_cases h with rfl | rfl <;> decide

/-! ### One pass -/

section Pass
variable {marker a v x rest : List Char} {c : Char} {n : Nat}

/-- Where the value ends that begins here. -/
def next_separator (after_marker : List Char) : Nat :=
  ((after_marker.findIdx? (· == '&')).or (after_marker.findIdx? (· == ' '))).getD
    after_marker.length

/-- `redact_query_value` on lists of characters. -/
def redact (marker text : List Char) : List Char :=
  redact_from marker text.length text

/-- As many rounds as there are characters are enough. -/
theorem redact_rounds {m : Nat} (h : marker ≠ []) (hn : x.length ≤ n) (hm : x.length ≤ m) :
    redact_from marker n x = redact_from marker m x := by
  have hpos := List.length_pos_iff.mpr h
  induction n generalizing m x with
  | zero =>
    obtain rfl := List.length_eq_zero_iff.mp (Nat.le_zero.mp hn)
    cases m with
    | zero => rfl
    | succ m =>
      rw [redact_from, redact_from, Text.find_nil h]
  | succ n ih =>
    cases m with
    | zero =>
      obtain rfl := List.length_eq_zero_iff.mp (Nat.le_zero.mp hm)
      rw [redact_from, redact_from, Text.find_nil h]
    | succ m =>
      rw [redact_from, redact_from]
      cases Text.find marker x with
      | none => rfl
      | some i =>
        refine congrArg (x.take (i + marker.length) ++ ·) (ih ?_ ?_) <;>
          · simp only [List.length_drop]
            omega

theorem redact_scans (h : marker ≠ []) : Scans marker (redact marker) := by
  refine ⟨rfl, fun c text hkept => ?_⟩
  have hfuel : redact marker text = redact_from marker (text.length + 1) text :=
    redact_rounds h (le_refl _) (Nat.le_succ _)
  rw [hfuel, redact, List.length_cons, redact_from, redact_from, Text.find_kept hkept]
  cases hfind : Text.find marker text with
  | none => rfl
  | some i =>
    have hnext : i + 1 + marker.length = i + marker.length + 1 := by omega
    simp only [Option.map_some, hnext, List.take_succ_cons, List.drop_succ_cons, List.cons_append]

theorem redact_hit (h : marker ≠ []) : redact marker (marker ++ v) =
    marker ++ redact marker (v.drop (next_separator v)) := by
  have hlength : (marker ++ v).length = (marker ++ v).length - 1 + 1 := by
    have hpos := List.length_pos_iff.mpr h
    rw [List.length_append]
    omega
  rw [redact, hlength, redact_from, Text.find_hit h]
  simp only [Nat.zero_add, List.take_left, List.drop_left]
  refine congrArg (marker ++ ·) (redact_rounds h ?_ (le_refl _))
  have hpos := List.length_pos_iff.mpr h
  simp only [List.length_drop, List.length_append]
  omega

/-- When the values in a part end where the part ends, the part is cut. -/
theorem redact_until (h : marker ≠ [])
    (hends : ∀ v, v <:+ a → next_separator (v ++ rest) = v.length)
    (hrest : ∀ c ∈ rest.head?, c ∉ marker) :
    redact marker (a ++ rest) = cut marker a ++ redact marker rest := by
  induction a with
  | nil => rfl
  | cons c a ih =>
    by_cases hhere : marker <+: c :: a
    · obtain ⟨v, hv⟩ := hhere
      have hcut : cut marker (c :: a) = marker := hv ▸ cut_hit h
      rw [hcut, ← hv, List.append_assoc, redact_hit h, hends v ⟨marker, hv⟩, List.drop_left]
    · have hkept : ¬ marker <+: c :: (a ++ rest) := by
        intro hstarts
        rcases prefix_cases (show marker <+: (c :: a) ++ rest from hstarts) with
          hinside | ⟨beyond, hbeyond, heq, hinto⟩
        · exact hhere hinside
        · cases beyond with
          | nil => exact hbeyond rfl
          | cons d beyond =>
            obtain ⟨after, hafter⟩ := hinto
            have hhead : d ∈ rest.head? := by rw [← hafter]; rfl
            exact hrest d hhead (heq ▸ List.mem_append_right _ (List.mem_cons_self ..))
      have htail := ih fun v hv => hends v (hv.trans (List.suffix_cons c a))
      rw [List.cons_append, (redact_scans h).kept c _ hkept, htail, (cut_scans marker).kept c a hhere]
      rfl

theorem findIdx_separator (hv : c ∉ v) :
    (v ++ c :: x).findIdx? (· == c) = some v.length := by
  induction v with
  | nil =>
    rw [List.nil_append, List.findIdx?_cons, if_pos (beq_self_eq_true c)]
    rfl
  | cons d v ih =>
    have hne : d ≠ c := fun heq => hv (heq ▸ List.mem_cons_self ..)
    have htail := ih fun hmem => hv (List.mem_cons_of_mem d hmem)
    rw [List.cons_append, List.findIdx?_cons, htail]
    simp [hne]

theorem findIdx_none (hv : c ∉ v) : v.findIdx? (· == c) = none := by
  rw [List.findIdx?_eq_none_iff]
  intro d hd
  have hne : d ≠ c := fun heq => hv (heq ▸ hd)
  simpa using hne

/-- Up to an ampersand, spaces or not. -/
theorem redact_ampersand (h : marker ≠ []) (hmarker : '&' ∉ marker) (ha : '&' ∉ a) :
    redact marker (a ++ '&' :: x) = cut marker a ++ '&' :: redact marker x := by
  have hends : ∀ v, v <:+ a → next_separator (v ++ '&' :: x) = v.length := by
    intro v hv
    have hnone : '&' ∉ v := fun hmem => ha (hv.subset hmem)
    rw [next_separator, findIdx_separator hnone]
    rfl
  rw [redact_until h hends (by rintro c hc; obtain rfl := Option.some.inj hc; exact hmarker),
    (redact_scans h).kept _ _ (not_prefix_of_head h hmarker)]

/-- Up to a space, when no ampersand comes any more. -/
theorem redact_space (h : marker ≠ []) (hmarker : ' ' ∉ marker) (hx : '&' ∉ a ++ ' ' :: x)
    (ha : ' ' ∉ a) : redact marker (a ++ ' ' :: x) = cut marker a ++ ' ' :: redact marker x := by
  have hends : ∀ v, v <:+ a → next_separator (v ++ ' ' :: x) = v.length := by
    intro v hv
    have hnone : ' ' ∉ v := fun hmem => ha (hv.subset hmem)
    have hnone' : '&' ∉ v ++ ' ' :: x := by
      rw [List.mem_append, not_or] at hx ⊢
      exact ⟨fun hmem => hx.1 (hv.subset hmem), hx.2⟩
    rw [next_separator, findIdx_separator hnone, findIdx_none hnone']
    rfl
  rw [redact_until h hends (by rintro c hc; obtain rfl := Option.some.inj hc; exact hmarker),
    (redact_scans h).kept _ _ (not_prefix_of_head h hmarker)]

theorem redact_word (h : marker ≠ []) (ha : '&' ∉ a) (ha' : ' ' ∉ a) :
    redact marker a = cut marker a := by
  have hends : ∀ v, v <:+ a → next_separator (v ++ []) = v.length := by
    intro v hv
    have hnone : '&' ∉ v := fun hmem => ha (hv.subset hmem)
    have hnone' : ' ' ∉ v := fun hmem => ha' (hv.subset hmem)
    rw [List.append_nil, next_separator, findIdx_none hnone, findIdx_none hnone']
    rfl
  have hcut := redact_until h hends (by rintro c hc; exact nomatch hc)
  rwa [List.append_nil, (redact_scans h).nil, List.append_nil] at hcut

theorem redact_subset (marker x : List Char) : redact marker x ⊆ x := by
  have hrounds : ∀ n x, redact_from marker n x ⊆ x := by
    intro n
    induction n with
    | zero => exact fun x => List.Subset.refl x
    | succ n ih =>
      intro x
      rw [redact_from]
      split
      · exact List.Subset.refl x
      · refine List.append_subset.mpr ⟨List.take_subset _ _, List.Subset.trans (ih _) ?_⟩
        exact List.Subset.trans (List.drop_subset _ _) (List.drop_subset _ _)
  exact hrounds _ x

end Pass

/-! ### All passes -/

section Passes
variable {a x : List Char} {markers : List (List Char)}

/-- Cuts the text behind each mark up to the end of its value. -/
def redacts (markers : List (List Char)) (text : List Char) : List Char :=
  markers.foldl (fun text marker => redact (marker ++ REDACTED) text) text

/-- What `sanitize_provider_error` makes of a text before it takes the beginning. -/
def sanitized (text : List Char) : List Char :=
  redacts QUERY_MARKERS (marks REDACTED QUERY_MARKERS text)

theorem sanitize_eq (error : String) : sanitize_provider_error error =
    String.ofList ((sanitized error.toList).take PROVIDER_LAST_ERROR_MAX_CHARS) := by
  have htoken : "token=<redacted>" = "token=" ++ "<redacted>" := by decide
  have hapi_key : "api_key=<redacted>" = "api_key=" ++ "<redacted>" := by decide
  have hkey : "key=<redacted>" = "key=" ++ "<redacted>" := by decide
  have hreplace : ∀ marker text : String, Text.replace marker (marker ++ "<redacted>") text =
      String.ofList (replace marker.toList (marker.toList ++ REDACTED) text.toList) := by
    intro marker text
    rw [Text.replace, String.toList_append]
    rfl
  have hredact : ∀ marker text : String, redact_query_value text (marker ++ "<redacted>") =
      String.ofList (redact (marker.toList ++ REDACTED) text.toList) := by
    intro marker text
    rw [redact_query_value, String.toList_append]
    rfl
  simp only [sanitize_provider_error, htoken, hapi_key, hkey, hreplace, hredact,
    String.toList_ofList, sanitized, redacts, marks, QUERY_MARKERS, List.foldl_cons, List.foldl_nil]

theorem marker_ne_nil {marker : List Char} (h : marker ∈ QUERY_MARKERS) : marker ≠ [] :=
  query_markers.ne_nil h

theorem redacts_ampersand (hall : ∀ marker ∈ markers, marker ∈ QUERY_MARKERS) (ha : '&' ∉ a)
    (x : List Char) :
    redacts markers (a ++ '&' :: x) = cuts REDACTED markers a ++ '&' :: redacts markers x := by
  induction markers generalizing a x with
  | nil => rfl
  | cons marker markers ih =>
    have hmarker := hall marker (List.mem_cons_self ..)
    have hhere := @redact_ampersand (marker ++ REDACTED) a x
      (List.append_ne_nil_of_left_ne_nil (marker_ne_nil hmarker) _)
      (separator_not_marker rfl marker hmarker) ha
    have hcut : '&' ∉ cut (marker ++ REDACTED) a :=
      fun hmem => ha ((cut_initial _ a).subset hmem)
    have hrest := ih (fun m hm => hall m (List.mem_cons_of_mem marker hm)) hcut
      (redact (marker ++ REDACTED) x)
    unfold redacts cuts at hrest ⊢
    rw [List.foldl_cons, hhere, hrest]
    rfl

theorem redacts_space (hall : ∀ marker ∈ markers, marker ∈ QUERY_MARKERS)
    (hx : '&' ∉ a ++ ' ' :: x) (ha : ' ' ∉ a) :
    redacts markers (a ++ ' ' :: x) = cuts REDACTED markers a ++ ' ' :: redacts markers x := by
  induction markers generalizing a x with
  | nil => rfl
  | cons marker markers ih =>
    have hmarker := hall marker (List.mem_cons_self ..)
    have hhere := @redact_space (marker ++ REDACTED) a x
      (List.append_ne_nil_of_left_ne_nil (marker_ne_nil hmarker) _)
      (separator_not_marker rfl marker hmarker) hx ha
    have hcut : ' ' ∉ cut (marker ++ REDACTED) a :=
      fun hmem => ha ((cut_initial _ a).subset hmem)
    have hnone : '&' ∉ cut (marker ++ REDACTED) a ++ ' ' :: redact (marker ++ REDACTED) x := by
      simp only [List.mem_append, List.mem_cons, not_or] at hx ⊢
      exact ⟨fun hmem => hx.1 ((cut_initial _ a).subset hmem), hx.2.1,
        fun hmem => hx.2.2 (redact_subset _ x hmem)⟩
    have hrest := ih (fun m hm => hall m (List.mem_cons_of_mem marker hm)) hnone hcut
    unfold redacts cuts at hrest ⊢
    rw [List.foldl_cons, hhere, hrest]
    rfl

theorem redacts_word (hall : ∀ marker ∈ markers, marker ∈ QUERY_MARKERS) (ha : '&' ∉ a)
    (ha' : ' ' ∉ a) : redacts markers a = cuts REDACTED markers a := by
  induction markers generalizing a with
  | nil => rfl
  | cons marker markers ih =>
    have hmarker := hall marker (List.mem_cons_self ..)
    have hhere : redact (marker ++ REDACTED) a = cut (marker ++ REDACTED) a :=
      redact_word (List.append_ne_nil_of_left_ne_nil (marker_ne_nil hmarker) _) ha ha'
    have hrest := @ih (cut (marker ++ REDACTED) a)
      (fun m hm => hall m (List.mem_cons_of_mem marker hm))
      (fun hmem => ha ((cut_initial _ a).subset hmem))
      (fun hmem => ha' ((cut_initial _ a).subset hmem))
    unfold redacts cuts at hrest ⊢
    rw [List.foldl_cons, hhere, hrest]
    rfl

theorem marks_split {c : Char} (hc : is_separator c = true) (a x : List Char) :
    marks REDACTED QUERY_MARKERS (a ++ c :: x) =
      marks REDACTED QUERY_MARKERS a ++ c :: marks REDACTED QUERY_MARKERS x :=
  marks_separator (fun _ hm => marker_ne_nil hm)
    (fun m hm hmem => separator_not_marker hc m hm (List.mem_append_left _ hmem)) a x

theorem marks_free {c : Char} (hc : is_separator c = true) (ha : c ∉ a) :
    c ∉ marks REDACTED QUERY_MARKERS a :=
  not_mem_marks (fun _ hm => marker_ne_nil hm) (separator_not_marker hc) ha

/-! ### Word by word -/

/-- Before an ampersand only the text up to the first marker is shown. -/
theorem sanitized_ampersand (ha : '&' ∉ a) (x : List Char) :
    sanitized (a ++ '&' :: x) = shown a ++ '&' :: sanitized x := by
  rw [sanitized, marks_split rfl, redacts_ampersand (fun _ hm => hm) (marks_free rfl ha),
    passes_eq_hide query_markers]
  rfl

/-- Behind the last ampersand the same holds of each word. -/
theorem sanitized_space (hx : '&' ∉ a ++ ' ' :: x) (ha : ' ' ∉ a) :
    sanitized (a ++ ' ' :: x) = shown a ++ ' ' :: sanitized x := by
  have hmarks : '&' ∉ marks REDACTED QUERY_MARKERS a ++ ' ' :: marks REDACTED QUERY_MARKERS x := by
    rw [← marks_split rfl]
    exact marks_free rfl hx
  rw [sanitized, marks_split rfl, redacts_space (fun _ hm => hm) hmarks (marks_free rfl ha),
    passes_eq_hide query_markers]
  rfl

theorem sanitized_word (ha : '&' ∉ a) (ha' : ' ' ∉ a) : sanitized a = shown a := by
  rw [sanitized, redacts_word (fun _ hm => hm) (marks_free rfl ha) (marks_free rfl ha'),
    passes_eq_hide query_markers]
  rfl

/-- No marker in the word, so all of it is shown. -/
abbrev NoMarker (word : List Char) : Prop :=
  Unmarked QUERY_MARKERS word

/-- Without separators. -/
def IsWord (text : List Char) : Prop :=
  ∀ c ∈ text, is_separator c = false

theorem isWord_iff_all {text : List Char} :
    IsWord text ↔ (text.all fun c => !is_separator c) = true := by
  simp [IsWord]

theorem IsWord.not_mem {c : Char} (h : IsWord a) (hc : is_separator c = true) : c ∉ a :=
  fun hmem => Bool.false_ne_true ((h c hmem).symm.trans hc)

theorem shown_no_marker (h : NoMarker a) : shown a = a :=
  hide_unmarked query_markers h

/-- A space behind a value ends it only if no ampersand comes any more; everything up to the next
ampersand is left out otherwise. -/
theorem sanitized_over {y : List Char} (ha : IsWord a) (hmarked : ¬ NoMarker a) (hx : '&' ∉ x) :
    sanitized (a ++ ' ' :: (x ++ '&' :: y)) = shown a ++ '&' :: sanitized y := by
  have hfree : '&' ∉ a ++ ' ' :: x := by
    simp only [List.mem_append, List.mem_cons, not_or]
    exact ⟨ha.not_mem rfl, by decide, hx⟩
  have hsplit := sanitized_ampersand hfree y
  rw [List.append_assoc, List.cons_append] at hsplit
  rw [hsplit]
  exact congrArg (· ++ '&' :: sanitized y) (hide_hidden query_markers hmarked (' ' :: x))

/-- A word without a marker is kept with the separator behind it, and a value ends at the separator if
it is an ampersand or the last kind left. -/
theorem sanitized_kept {c : Char} (hc : is_separator c = true) (ha : IsWord a)
    (hends : c = ' ' → '&' ∈ x → NoMarker a) : sanitized (a ++ c :: x) = shown a ++ c :: sanitized x := by
  rcases separator_cases hc with rfl | rfl
  · exact sanitized_ampersand (ha.not_mem rfl) x
  · by_cases hx : '&' ∈ x
    · obtain ⟨s, y, rfl, hs⟩ := List.eq_append_cons_of_mem hx
      have hfree : '&' ∉ a ++ ' ' :: s := by
        simp only [List.mem_append, List.mem_cons, not_or]
        exact ⟨ha.not_mem rfl, by decide, hs⟩
      have hnone := hends rfl hx
      have hshown : shown (a ++ ' ' :: s) = a ++ ' ' :: shown s :=
        hide_kept query_markers
          (fun m hm hmem => separator_not_marker rfl m hm (List.mem_append_left _ hmem)) hnone s
      have hsplit := sanitized_ampersand hfree y
      rw [List.append_assoc, List.cons_append, hshown] at hsplit
      rw [hsplit, sanitized_ampersand hs, shown_no_marker hnone, List.append_assoc, List.cons_append]
    · refine sanitized_space ?_ (ha.not_mem rfl)
      simp only [List.mem_append, List.mem_cons, not_or]
      exact ⟨ha.not_mem rfl, by decide, hx⟩

/-- A text is a word, or a word and a text behind a separator. -/
theorem word_cases (text : List Char) : IsWord text ∨
    ∃ word c rest, text = word ++ c :: rest ∧ IsWord word ∧ is_separator c = true := by
  induction text with
  | nil => exact .inl fun c hc => absurd hc List.not_mem_nil
  | cons c text ih =>
    by_cases hc : is_separator c = true
    · exact .inr ⟨[], c, text, rfl, (fun d hd => absurd hd List.not_mem_nil), hc⟩
    · have hc' : is_separator c = false := by simpa using hc
      rcases ih with hword | ⟨word, d, rest, rfl, hword, hd⟩
      · exact .inl (List.forall_mem_cons.mpr ⟨hc', hword⟩)
      · exact .inr ⟨c :: word, d, rest, rfl, List.forall_mem_cons.mpr ⟨hc', hword⟩, hd⟩

theorem IsWord.append {b : List Char} (ha : IsWord a) (hb : IsWord b) : IsWord (a ++ b) :=
  List.forall_mem_append.mpr ⟨ha, hb⟩

theorem marker_word {marker : List Char} (h : marker ∈ QUERY_MARKERS) : IsWord marker := by
  intro c hc
  by_contra hne
  have hsep : is_separator c = true := by simpa using hne
  exact separator_not_marker hsep marker h (List.mem_append_left _ hc)

/-- What follows a secret is nothing, or begins with a separator. -/
def Ends (after : List Char) : Prop :=
  ∀ c ∈ after.head?, is_separator c = true

theorem ends_iff_all {after : List Char} : Ends after ↔ after.head?.all is_separator = true := by
  cases after <;> simp [Ends]

/-- The text does not depend on the value behind a marker. -/
theorem sanitized_value {marker secret secret' after : List Char} (hmarker : marker ∈ QUERY_MARKERS)
    (hsecret : IsWord secret) (hsecret' : IsWord secret') (hafter : Ends after)
    (before : List Char) :
    sanitized (before ++ (marker ++ secret ++ after)) =
      sanitized (before ++ (marker ++ secret' ++ after)) := by
  obtain ⟨n, hn⟩ : ∃ n, before.length = n := ⟨_, rfl⟩
  induction n using Nat.strong_induction_on generalizing before with
  | _ n ih =>
    rcases word_cases before with hword | ⟨word, c, rest, rfl, hword, hc⟩
    · -- the marker stands in the first word
      have hone : ∀ {secret}, IsWord secret → IsWord (before ++ marker ++ secret) :=
        fun h => (hword.append (marker_word hmarker)).append h
      have hshown : shown (before ++ marker ++ secret) = shown (before ++ marker ++ secret') :=
        hide_value query_markers hmarker before secret secret'
      have hmarked : ∀ secret, ¬ NoMarker (before ++ marker ++ secret) := fun secret hnone =>
        hnone (before ++ marker) (List.prefix_append _ _)
          ⟨marker, hmarker, List.suffix_append before marker⟩
      simp only [← List.append_assoc]
      cases after with
      | nil =>
        rw [List.append_nil, List.append_nil,
          sanitized_word ((hone hsecret).not_mem rfl) ((hone hsecret).not_mem rfl),
          sanitized_word ((hone hsecret').not_mem rfl) ((hone hsecret').not_mem rfl), hshown]
      | cons c after =>
        have hc : is_separator c = true := hafter c rfl
        by_cases hover : c = ' ' ∧ '&' ∈ after
        · obtain ⟨rfl, hamp⟩ := hover
          obtain ⟨s, y, rfl, hs⟩ := List.eq_append_cons_of_mem hamp
          rw [sanitized_over (hone hsecret) (hmarked _) hs,
            sanitized_over (hone hsecret') (hmarked _) hs, hshown]
        · have hends : ∀ word, c = ' ' → '&' ∈ after → NoMarker word :=
            fun _ hspace hamp => absurd ⟨hspace, hamp⟩ hover
          rw [sanitized_kept hc (hone hsecret) (hends _),
            sanitized_kept hc (hone hsecret') (hends _), hshown]
    · have hshort : ∀ {rest' : List Char}, rest'.length ≤ rest.length →
          sanitized (rest' ++ (marker ++ secret ++ after)) =
            sanitized (rest' ++ (marker ++ secret' ++ after)) := by
        intro rest' hle
        refine ih rest'.length ?_ rest' rfl
        rw [← hn, List.length_append, List.length_cons]
        omega
      have hamp : '&' ∈ rest ++ (marker ++ secret ++ after) ↔
          '&' ∈ rest ++ (marker ++ secret' ++ after) := by
        simp only [List.mem_append, hsecret.not_mem (c := '&') rfl,
          hsecret'.not_mem (c := '&') rfl]
      simp only [List.append_assoc word, List.cons_append]
      by_cases hover : c = ' ' ∧ '&' ∈ rest ++ (marker ++ secret ++ after) ∧ ¬ NoMarker word
      · obtain ⟨rfl, hmem, hmarked⟩ := hover
        by_cases hrest : '&' ∈ rest
        · obtain ⟨s, y, rfl, hs⟩ := List.eq_append_cons_of_mem hrest
          simp only [List.append_assoc s, List.cons_append]
          rw [sanitized_over hword hmarked hs, sanitized_over hword hmarked hs,
            hshort (by simp only [List.length_append, List.length_cons]; omega)]
        · have hbehind : '&' ∈ after := by
            have hnot : '&' ∉ marker := (marker_word hmarker).not_mem rfl
            have hnot' : '&' ∉ secret := hsecret.not_mem rfl
            simpa [hrest, hnot, hnot'] using hmem
          obtain ⟨s, y, rfl, hs⟩ := List.eq_append_cons_of_mem hbehind
          have hfree : ∀ {secret}, IsWord secret → '&' ∉ rest ++ (marker ++ (secret ++ s)) := by
            intro secret hsecret
            have hnot : '&' ∉ marker := (marker_word hmarker).not_mem rfl
            have hnot' : '&' ∉ secret := hsecret.not_mem rfl
            simp [hrest, hnot, hnot', hs]
          have hover : ∀ {secret}, IsWord secret →
              sanitized (word ++ ' ' :: (rest ++ (marker ++ secret ++ (s ++ '&' :: y)))) =
                shown word ++ '&' :: sanitized y := by
            intro secret hsecret
            have h := sanitized_over (y := y) hword hmarked (hfree hsecret)
            simpa only [List.append_assoc] using h
          rw [hover hsecret, hover hsecret']
      · have hends : c = ' ' → '&' ∈ rest ++ (marker ++ secret ++ after) → NoMarker word := by
          intro hspace hmem
          by_contra hmarked
          exact hover ⟨hspace, hmem, hmarked⟩
        rw [sanitized_kept hc hword hends,
          sanitized_kept hc hword fun hspace hmem => hends hspace (hamp.mpr hmem),
          hshort (le_refl _)]

end Passes

/-- A text without `&` and space. -/
def IsSecret (secret : String) : Prop :=
  IsWord secret.toList

/-- Nothing follows, or a text that begins with `&` or a space. -/
def Follows (after : String) : Prop :=
  Ends after.toList

theorem sanitize_value {before marker secret secret' after : String}
    (hmarker : marker = "token=" ∨ marker = "api_key=" ∨ marker = "key=")
    (hsecret : IsSecret secret) (hsecret' : IsSecret secret') (hafter : Follows after) :
    sanitize_provider_error (before ++ marker ++ secret ++ after) =
      sanitize_provider_error (before ++ marker ++ secret' ++ after) := by
  have hmem : marker.toList ∈ QUERY_MARKERS := by
    rcases hmarker with rfl | rfl | rfl <;> decide
  have hvalue := sanitized_value hmem hsecret hsecret' hafter before.toList
  rw [sanitize_eq, sanitize_eq]
  simp only [String.toList_append, List.append_assoc] at hvalue ⊢
  rw [hvalue]

/-- Neither what is returned nor what is stored of an error depends on the secret behind a marker. -/
theorem provider_errors_redacted :
    ∀ before marker secret secret' after : String,
      marker = "token=" ∨ marker = "api_key=" ∨ marker = "key=" →
      IsSecret secret → IsSecret secret' → Follows after →
      sanitize_provider_error (before ++ marker ++ secret ++ after) =
          sanitize_provider_error (before ++ marker ++ secret' ++ after) ∧
        ∀ (t : ProviderTables) (provider_id : Uuid) (now : Timestamp) (error error' : AppError),
          error.to_string = before ++ marker ++ secret ++ after →
          error'.to_string = before ++ marker ++ secret' ++ after →
          t.record_provider_failure provider_id now error =
            t.record_provider_failure provider_id now error' := by
  intro before marker secret secret' after hmarker hsecret hsecret' hafter
  have hsame := @sanitize_value before _ _ _ _ hmarker hsecret hsecret' hafter
  refine ⟨hsame, fun t provider_id now error error' herror herror' => ?_⟩
  rw [ProviderTables.record_provider_failure, ProviderTables.record_provider_failure, herror,
    herror', hsame]

/-- A secret that looks like a parameter of its own, before a message. -/
theorem provider_errors_redacted_parameter :
    sanitize_provider_error ("GET /rpc?" ++ "token=" ++ "abc" ++ " failed") =
      sanitize_provider_error ("GET /rpc?" ++ "token=" ++ "key=<redacted>" ++ " failed") :=
  (provider_errors_redacted "GET /rpc?" "token=" "abc" "key=<redacted>" " failed" (.inl rfl)
    (isWord_iff_all.mpr (by decide)) (isWord_iff_all.mpr (by decide))
    (ends_iff_all.mpr (by decide))).1

/-! ### What is kept of the message -/

/-- The word that a text ends with. -/
def last_word (text : List Char) : List Char :=
  (text.reverse.takeWhile fun c => !is_separator c).reverse

/-- A value among the first `limit` characters of what should be kept ends at a space, and an
ampersand comes later. -/
def Overreaches (limit : Nat) (text : List Char) : Prop :=
  ∃ before after, text = before ++ ' ' :: after ∧ '&' ∈ after ∧
    (∃ marker ∈ QUERY_MARKERS, marker <:+: last_word before) ∧
    (redacted_text before).length < limit

section Kept
variable {word before after text : List Char} {c : Char} {limit : Nat}

theorem last_word_of_word (h : IsWord word) : last_word word = word := by
  have hall : ∀ c ∈ word.reverse, (!is_separator c) = true := by
    intro c hc
    rw [h c (List.mem_reverse.mp hc)]
    rfl
  rw [last_word, List.takeWhile_eq_self_iff.mpr hall, List.reverse_reverse]

theorem last_word_append (hc : is_separator c = true) (word before : List Char) :
    last_word (word ++ c :: before) = last_word before := by
  have hstop : ∀ text : List Char,
      (text ++ c :: word.reverse).takeWhile (fun c => !is_separator c) =
        text.takeWhile fun c => !is_separator c := by
    intro text
    induction text with
    | nil => simp [hc]
    | cons d text ih =>
      by_cases hd : is_separator d = true
      · simp [hd]
      · simp [hd, ih]
  have hreverse : (word ++ c :: before).reverse = before.reverse ++ c :: word.reverse := by simp
  rw [last_word, hreverse, hstop]
  rfl

theorem no_marker_iff : NoMarker word ↔ ¬ ∃ marker ∈ QUERY_MARKERS, marker <:+: word := by
  constructor
  · rintro h ⟨marker, hmarker, hinfix⟩
    exact h.not_infix hmarker hinfix
  · rintro h start hstart ⟨marker, hmarker, hsuffix⟩
    exact h ⟨marker, hmarker, hsuffix.isInfix.trans hstart.isInfix⟩

theorem redacted_of_word (h : IsWord word) : redacted_text word = shown word := by
  have hword := @redacted_word _ QUERY_MARKERS REDACTED word _ is_separator h [] []
    fun _ _ => rfl
  simpa [redacted_text, redacted, shown] using hword

theorem redacted_append (h : IsWord word) (hc : is_separator c = true) (rest : List Char) :
    redacted_text (word ++ c :: rest) = shown word ++ c :: redacted_text rest := by
  have hrest : ∀ inside seen,
      redacted is_separator REDACTED QUERY_MARKERS inside seen (c :: rest) =
        redacted is_separator REDACTED QUERY_MARKERS false [] (c :: rest) := by
    intro inside seen
    rw [redacted_separator hc, redacted_separator hc]
  have hword := redacted_word h [] (c :: rest) hrest
  rw [redacted_separator hc] at hword
  exact hword

theorem not_overreaches_word (h : IsWord text) : ¬ Overreaches limit text := by
  rintro ⟨before, after, rfl, _⟩
  exact h.not_mem rfl (List.mem_append_right before (List.mem_cons_self ..))

/-- A value ends at the first space that is left, or at one behind it. -/
theorem overreaches_append (hword : IsWord word) (hc : is_separator c = true) :
    Overreaches limit (word ++ c :: text) ↔
      (c = ' ' ∧ '&' ∈ text ∧ ¬ NoMarker word ∧ (shown word).length < limit) ∨
        Overreaches (limit - ((shown word).length + 1)) text := by
  constructor
  · rintro ⟨before, after, hsplit, hamp, hmarked, hlength⟩
    have hcases : (before = word ∧ c = ' ' ∧ text = after) ∨
        ∃ rest, before = word ++ c :: rest ∧ text = rest ++ ' ' :: after := by
      rcases List.append_eq_append_iff.mp hsplit with ⟨rest, rfl, htail⟩ | ⟨rest, rfl, htail⟩
      · cases rest with
        | nil =>
          obtain ⟨hspace, hafter⟩ := List.cons.inj htail
          exact .inl ⟨List.append_nil word, hspace, hafter⟩
        | cons d rest =>
          obtain ⟨rfl, hrest⟩ := List.cons.inj htail
          exact .inr ⟨rest, rfl, hrest⟩
      · cases rest with
        | nil =>
          obtain ⟨hspace, hafter⟩ := List.cons.inj htail
          exact .inl ⟨(List.append_nil before).symm, hspace.symm, hafter.symm⟩
        | cons d rest =>
          obtain ⟨rfl, _⟩ := List.cons.inj htail
          exact absurd (List.mem_append_right before (List.mem_cons_self ..)) (hword.not_mem rfl)
    rcases hcases with ⟨rfl, hspace, rfl⟩ | ⟨rest, rfl, rfl⟩
    · rw [last_word_of_word hword] at hmarked
      rw [redacted_of_word hword] at hlength
      exact .inl ⟨hspace, hamp, fun hnone => no_marker_iff.mp hnone hmarked, hlength⟩
    · rw [last_word_append hc] at hmarked
      rw [redacted_append hword hc, List.length_append, List.length_cons] at hlength
      exact .inr ⟨rest, after, rfl, hamp, hmarked, by omega⟩
  · rintro (⟨rfl, hamp, hmarked, hlength⟩ | ⟨before, after, rfl, hamp, hmarked, hlength⟩)
    · refine ⟨word, text, rfl, hamp, ?_, ?_⟩
      · rw [last_word_of_word hword]
        exact not_not.mp fun hnone => hmarked (no_marker_iff.mpr hnone)
      · rw [redacted_of_word hword]
        exact hlength
    · refine ⟨word ++ c :: before, after, by simp, hamp, ?_, ?_⟩
      · rw [last_word_append hc]
        exact hmarked
      · rw [redacted_append hword hc, List.length_append, List.length_cons]
        omega

theorem take_append_iff {d : Char} {x y : List Char} :
    (text ++ c :: x).take limit = (text ++ d :: y).take limit ↔
      limit ≤ text.length ∨
        (c = d ∧ x.take (limit - (text.length + 1)) = y.take (limit - (text.length + 1))) := by
  by_cases hlimit : limit ≤ text.length
  · rw [List.take_append_of_le_length hlimit, List.take_append_of_le_length hlimit]
    exact iff_of_true rfl (.inl hlimit)
  · obtain ⟨more, hmore⟩ : ∃ more, limit = text.length + (more + 1) :=
      ⟨limit - (text.length + 1), by omega⟩
    have hrest : limit - (text.length + 1) = more := by omega
    rw [hrest, hmore, List.take_length_add_append, List.take_length_add_append, List.take_succ_cons,
      List.take_succ_cons, List.append_cancel_left_eq, List.cons.injEq]
    constructor
    · exact .inr
    · rintro (hle | hboth)
      · omega
      · exact hboth

/-- What is stored is the beginning of what should be kept, unless a value at a space reaches over
to an ampersand. -/
theorem sanitized_exact (limit : Nat) (text : List Char) :
    (sanitized text).take limit = (redacted_text text).take limit ↔ ¬ Overreaches limit text := by
  obtain ⟨n, hn⟩ : ∃ n, text.length = n := ⟨_, rfl⟩
  induction n using Nat.strong_induction_on generalizing limit text with
  | _ n ih =>
    rcases word_cases text with hword | ⟨word, c, rest, rfl, hword, hc⟩
    · rw [sanitized_word (hword.not_mem rfl) (hword.not_mem rfl), redacted_of_word hword]
      exact iff_of_true rfl (not_overreaches_word hword)
    · rw [overreaches_append hword hc, redacted_append hword hc]
      by_cases hover : c = ' ' ∧ '&' ∈ rest ∧ ¬ NoMarker word
      · obtain ⟨rfl, hamp, hmarked⟩ := hover
        obtain ⟨s, y, rfl, hs⟩ := List.eq_append_cons_of_mem hamp
        rw [sanitized_over hword hmarked hs, take_append_iff]
        by_cases hlimit : limit ≤ (shown word).length
        · refine iff_of_true (.inl hlimit) ?_
          rintro (⟨_, _, _, hlength⟩ | ⟨_, _, _, _, _, hlength⟩)
          · omega
          · omega
        · refine iff_of_false ?_ fun hnot =>
            hnot (.inl ⟨rfl, hamp, hmarked, Nat.lt_of_not_le hlimit⟩)
          rintro (hle | ⟨hne, _⟩)
          · exact hlimit hle
          · exact absurd hne (by decide)
      · have hends : c = ' ' → '&' ∈ rest → NoMarker word := by
          intro hspace hmem
          by_contra hmarked
          exact hover ⟨hspace, hmem, hmarked⟩
        have hshort : rest.length < n := by
          rw [← hn, List.length_append, List.length_cons]
          omega
        have hrest := ih rest.length hshort (limit - ((shown word).length + 1)) rest rfl
        rw [sanitized_kept hc hword hends, take_append_iff, hrest]
        constructor
        · rintro (hle | ⟨_, hnot⟩)
          · rintro (⟨_, _, _, hlength⟩ | ⟨_, _, _, _, _, hlength⟩)
            · omega
            · omega
          · rintro (⟨hspace, hamp, hmarked, _⟩ | hbehind)
            · exact hover ⟨hspace, hamp, hmarked⟩
            · exact hnot hbehind
        · exact fun hnot => .inr ⟨rfl, fun hbehind => hnot (.inr hbehind)⟩

end Kept

/-- The reference text of an error. -/
def reference_text (error : String) : String :=
  String.ofList ((redacted_text error.toList).take PROVIDER_LAST_ERROR_MAX_CHARS)

/-- The whole message is kept exactly when no value at a space reaches over to an ampersand. -/
theorem sanitize_keeps_message (error : String) :
    sanitize_provider_error error = reference_text error ↔
      ¬ Overreaches PROVIDER_LAST_ERROR_MAX_CHARS error.toList := by
  rw [sanitize_eq, reference_text, String.ofList_inj, sanitized_exact]

/-- The message behind the secret is lost when a later part of it has an ampersand. -/
theorem message_dropped :
    sanitize_provider_error "GET /?key=abc failed: timeout & retry" =
        "GET /?key=<redacted>& retry" ∧
      reference_text "GET /?key=abc failed: timeout & retry" =
        "GET /?key=<redacted> failed: timeout & retry" ∧
      sanitize_provider_error "GET /?key=abc failed: timeout & retry" ≠
        reference_text "GET /?key=abc failed: timeout & retry" := by
  have hstored : sanitize_provider_error "GET /?key=abc failed: timeout & retry" =
      "GET /?key=<redacted>& retry" := by rfl
  have hreference : reference_text "GET /?key=abc failed: timeout & retry" =
      "GET /?key=<redacted> failed: timeout & retry" := by rfl
  refine ⟨hstored, hreference, ?_⟩
  rw [hstored, hreference]
  decide

end CoinListener.Storage
