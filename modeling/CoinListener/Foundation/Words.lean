import CoinListener.Foundation.Redact
import CoinListener.Foundation.Text

/-! Texts word by word: white space is kept, and every word is rewritten on its own. -/
namespace Foundation.Text

variable {f : List Char → List Char} {seen word text : List Char} {c : Char}

/-- Every word of the text rewritten; `seen` is what has been read of the first one. -/
def wordwise (f : List Char → List Char) : List Char → List Char → List Char
  | seen, [] => f seen
  | seen, c :: text =>
    if isWhitespace c then f seen ++ c :: wordwise f [] text else wordwise f (seen ++ [c]) text

/-- The word that the text ends in. -/
def last_word : List Char → List Char → List Char
  | seen, [] => seen
  | seen, c :: text => if isWhitespace c then last_word [] text else last_word (seen ++ [c]) text

/-- What has been written when the text is read and its last word may go on. -/
def before_last_word (f : List Char → List Char) : List Char → List Char → List Char
  | _, [] => []
  | seen, c :: text =>
    if isWhitespace c then f seen ++ c :: before_last_word f [] text
    else before_last_word f (seen ++ [c]) text

theorem wordwise_space (h : isWhitespace c = true) :
    wordwise f seen (c :: text) = f seen ++ c :: wordwise f [] text :=
  if_pos h

theorem wordwise_letter (h : isWhitespace c = false) :
    wordwise f seen (c :: text) = wordwise f (seen ++ [c]) text :=
  if_neg (by rw [h]; exact Bool.false_ne_true)

theorem wordwise_word (h : ∀ c ∈ word, isWhitespace c = false) (text : List Char) :
    wordwise f seen (word ++ text) = wordwise f (seen ++ word) text := by
  induction word generalizing seen with
  | nil => rw [List.nil_append, List.append_nil]
  | cons c word ih =>
    rw [List.cons_append, wordwise_letter (h c (List.mem_cons_self ..)),
      ih fun d hd => h d (List.mem_cons_of_mem c hd), List.append_assoc]
    rfl

/-- A text is rewritten up to its last word, which goes on with what follows. -/
theorem wordwise_append (f : List Char → List Char) (seen before text : List Char) :
    wordwise f seen (before ++ text) =
      before_last_word f seen before ++ wordwise f (last_word seen before) text := by
  induction before generalizing seen with
  | nil => rfl
  | cons c before ih =>
    by_cases hc : isWhitespace c = true
    · rw [List.cons_append, wordwise_space hc, ih, before_last_word, if_pos hc, last_word,
        if_pos hc, List.append_assoc, List.cons_append]
    · rw [List.cons_append, wordwise_letter (by simpa using hc), ih, before_last_word, if_neg hc,
        last_word, if_neg hc]

theorem last_word_letters (hseen : ∀ c ∈ seen, isWhitespace c = false) (text : List Char) :
    ∀ c ∈ last_word seen text, isWhitespace c = false := by
  induction text generalizing seen with
  | nil => exact hseen
  | cons c text ih =>
    by_cases hc : isWhitespace c = true
    · rw [last_word, if_pos hc]
      exact ih fun d hd => absurd hd List.not_mem_nil
    · rw [last_word, if_neg hc]
      refine ih fun d hd => ?_
      rcases List.mem_append.mp hd with hd | hd
      · exact hseen d hd
      · rw [List.mem_singleton.mp hd]
        simpa using hc

/-- A text that does not go on with the word before it. -/
def AfterWord (text : List Char) : Prop :=
  ∀ c ∈ text.head?, isWhitespace c = true

theorem wordwise_after (f : List Char → List Char) (h : AfterWord text) :
    ∃ rest, ∀ word, wordwise f word text = f word ++ rest := by
  cases text with
  | nil => exact ⟨[], fun word => (List.append_nil _).symm⟩
  | cons c text => exact ⟨_, fun word => wordwise_space (h c rfl)⟩

/-- A pattern does not go beyond the part of a text that it begins in when what follows begins with a
character that the pattern has not. -/
theorem initial_of_part {p : Char → Bool} {pattern : List Char}
    (hpattern : ∀ c ∈ pattern, p c = false) (h : ∀ c ∈ text.head?, p c = true) :
    pattern <+: word ++ text ↔ pattern <+: word := by
  constructor
  · intro hstarts
    rcases List.prefix_or_prefix_of_prefix hstarts (List.prefix_append word text) with
      hshort | ⟨rest, rfl⟩
    · exact hshort
    · cases rest with
      | nil => exact (List.append_nil word).symm ▸ List.prefix_rfl
      | cons d rest =>
        have hrest := (List.prefix_append_right_inj word).mp hstarts
        cases text with
        | nil => exact absurd (List.prefix_nil.mp hrest) (List.cons_ne_nil d rest)
        | cons c text =>
          obtain rfl := (List.cons_prefix_cons.mp hrest).1
          have hstop := h d rfl
          rw [hpattern d (List.mem_append_right _ (List.mem_cons_self ..))] at hstop
          exact absurd hstop Bool.false_ne_true
  · exact fun hstarts => hstarts.trans (List.prefix_append word text)

theorem takeWhile_stop {p : Char → Bool} (hc : p c = false) (a b : List Char) :
    (a ++ c :: b).takeWhile p = a.takeWhile p := by
  induction a with
  | nil => exact List.takeWhile_cons_of_neg (by rw [hc]; exact Bool.false_ne_true)
  | cons d a ih =>
    by_cases hd : p d = true
    · rw [List.cons_append, List.takeWhile_cons_of_pos hd, List.takeWhile_cons_of_pos hd, ih]
    · rw [List.cons_append, List.takeWhile_cons_of_neg hd, List.takeWhile_cons_of_neg hd]

/-! ### Words that make no difference -/

/-- The word can go on from either beginning. -/
def Alike (f : List Char → List Char) (a b : List Char) : Prop :=
  ∀ word, f (a ++ word) = f (b ++ word)

theorem Alike.whole {a b : List Char} (h : Alike f a b) : f a = f b := by
  have hnil := h []
  rwa [List.append_nil, List.append_nil] at hnil

theorem Alike.append {a b : List Char} (h : Alike f a b) (word : List Char) :
    Alike f (a ++ word) (b ++ word) := by
  intro rest
  rw [List.append_assoc, List.append_assoc]
  exact h (word ++ rest)

/-- The same text leads on to the same output, and to words that can go on alike. -/
theorem Alike.read {a b : List Char} (h : Alike f a b) (text : List Char) :
    before_last_word f a text = before_last_word f b text ∧
      Alike f (last_word a text) (last_word b text) := by
  induction text generalizing a b with
  | nil => exact ⟨rfl, h⟩
  | cons c text ih =>
    unfold before_last_word last_word
    by_cases hc : isWhitespace c = true
    · rw [if_pos hc, if_pos hc, if_pos hc, if_pos hc, h.whole]
      exact ⟨rfl, fun _ => rfl⟩
    · rw [if_neg hc, if_neg hc, if_neg hc, if_neg hc]
      exact ih (h.append [c])

theorem Alike.wordwise {a b : List Char} (h : Alike f a b) (text : List Char) :
    wordwise f a text = wordwise f b text := by
  have hread := h.read text
  have happend := fun seen => wordwise_append f seen text []
  simp only [List.append_nil] at happend
  rw [happend a, happend b, hread.1]
  exact congrArg _ hread.2.whole

/-- The word at the end is a new one, or the first one goes on. -/
theorem last_word_cases (text : List Char) :
    (∃ word, ∀ seen, last_word seen text = word) ∨ ∀ seen, last_word seen text = seen ++ text := by
  induction text with
  | nil => exact .inr fun seen => (List.append_nil seen).symm
  | cons c text ih =>
    by_cases hc : isWhitespace c = true
    · exact .inl ⟨last_word [] text, fun seen => if_pos hc⟩
    · rcases ih with ⟨word, hword⟩ | hgoes
      · exact .inl ⟨word, fun seen => (if_neg hc).trans (hword _)⟩
      · refine .inr fun seen => (if_neg hc).trans ((hgoes _).trans ?_)
        rw [List.append_assoc]
        rfl

/-- The first word of a text, and what follows it. -/
theorem wordwise_first (f : List Char → List Char) (text : List Char) :
    ∃ word rest, ∀ seen, wordwise f seen text = f (seen ++ word) ++ rest := by
  induction text with
  | nil => exact ⟨[], [], fun seen => by rw [List.append_nil, List.append_nil]; rfl⟩
  | cons c text ih =>
    by_cases hc : isWhitespace c = true
    · refine ⟨[], c :: wordwise f [] text, fun seen => ?_⟩
      rw [List.append_nil]
      exact wordwise_space hc
    · obtain ⟨word, rest, hword⟩ := ih
      refine ⟨c :: word, rest, fun seen => ?_⟩
      rw [wordwise_letter (by simpa using hc), hword, List.append_assoc]
      rfl

theorem before_last_word_word (h : ∀ c ∈ word, isWhitespace c = false) (seen text : List Char) :
    before_last_word f seen (word ++ text) = before_last_word f (seen ++ word) text ∧
      last_word seen (word ++ text) = last_word (seen ++ word) text := by
  induction word generalizing seen with
  | nil => rw [List.nil_append, List.append_nil]; exact ⟨rfl, rfl⟩
  | cons c word ih =>
    have hc : ¬ isWhitespace c = true := by
      rw [h c (List.mem_cons_self ..)]
      exact Bool.false_ne_true
    have hrest := ih (fun d hd => h d (List.mem_cons_of_mem c hd)) (seen ++ [c])
    rw [List.append_assoc] at hrest
    rw [List.cons_append, before_last_word, if_neg hc, last_word, if_neg hc]
    exact hrest

/-! ### Finding -/

section Find
variable {pattern : List Char} {n : Nat}

/-- What is found lies in the text, and is found there whatever follows. -/
theorem find_append (hne : pattern ≠ []) (h : find pattern text = some n) (rest : List Char) :
    find pattern (text ++ rest) = some n ∧ n + pattern.length ≤ text.length := by
  induction text generalizing n with
  | nil => exact nomatch (find_nil hne).symm.trans h
  | cons c text ih =>
    by_cases hstarts : pattern <+: c :: text
    · obtain ⟨tail, htail⟩ := hstarts
      rw [← htail, find_hit hne] at h
      obtain rfl := Option.some.inj h
      rw [← htail, List.append_assoc, find_hit hne, List.length_append]
      exact ⟨rfl, by omega⟩
    · rw [find_kept hstarts] at h
      obtain ⟨m, hm, rfl⟩ := Option.map_eq_some_iff.mp h
      obtain ⟨hfound, hlength⟩ := ih hm
      have hnot : ¬ pattern <+: c :: (text ++ rest) := by
        intro hlater
        refine hstarts (List.prefix_of_prefix_length_le hlater
          (List.prefix_append (c :: text) rest) ?_)
        rw [List.length_cons]
        omega
      rw [List.cons_append, find_kept hnot, hfound, List.length_cons]
      exact ⟨rfl, by omega⟩

theorem find_drop (hne : pattern ≠ []) (h : find pattern text = some n) :
    pattern <+: text.drop n := by
  induction text generalizing n with
  | nil => exact nomatch (find_nil hne).symm.trans h
  | cons c text ih =>
    by_cases hstarts : pattern <+: c :: text
    · obtain ⟨tail, htail⟩ := hstarts
      rw [← htail, find_hit hne] at h
      obtain rfl := Option.some.inj h
      exact ⟨tail, htail⟩
    · rw [find_kept hstarts] at h
      obtain ⟨m, hm, rfl⟩ := Option.map_eq_some_iff.mp h
      exact ih hm

theorem find_none_iff (hne : pattern ≠ []) : find pattern text = none ↔ ¬ pattern <:+: text := by
  induction text with
  | nil =>
    rw [find_nil hne, List.infix_nil]
    exact ⟨fun _ => hne, fun _ => rfl⟩
  | cons c text ih =>
    rw [List.infix_cons_iff]
    by_cases hstarts : pattern <+: c :: text
    · constructor
      · intro hnone
        obtain ⟨tail, htail⟩ := hstarts
        rw [← htail, find_hit hne] at hnone
        exact nomatch hnone
      · exact fun hnot => absurd (.inl hstarts) hnot
    · rw [find_kept hstarts, Option.map_eq_none_iff, ih]
      exact ⟨fun hnot h => h.elim hstarts hnot, fun hnot h => hnot (.inr h)⟩

/-- Where no occurrence begins the search goes on behind. -/
theorem find_free {a : List Char} (h : Redact.Free pattern a text) :
    find pattern (a ++ text) = (find pattern text).map (· + a.length) := by
  induction a with
  | nil => simp
  | cons c a ih =>
    rw [List.cons_append, find_kept h.head, ih h.tail, Option.map_map, List.length_cons]
    rfl

end Find

end Foundation.Text
