import CoinListener.Foundation.Slices
import CoinListener.Foundation.Words
import CoinListener.Notifier.ProviderResponses

/-! Hiding parts of the URLs in a text. They are found in a lowercased copy, and the text is sliced at
the byte offsets found there. -/
namespace CoinListener.Notifier
open Foundation

/-! ### Slices -/

namespace Checked

/-- `str::find`. -/
def find (pattern text : List Char) : Option Nat :=
  (Text.find pattern text).map fun n => Text.byteLength (text.take n)

def find_whitespace (text : List Char) : Option Nat :=
  if text.any Text.isWhitespace then
    some (Text.byteLength (text.takeWhile (!Text.isWhitespace ·)))
  else none

def find_url_start (text : List Char) : Option Nat :=
  let lower_text := text.map Text.asciiLower
  match find "http://".toList lower_text, find "https://".toList lower_text with
  | some http, some https => some (min http https)
  | some http, none => some http
  | none, some https => some https
  | none, none => none

/-- The loop of `redact_urls_in_text`. It is `none` when the rounds do not suffice, or a slice would go
out of bounds or through a character. -/
def redact_urls (redact_url : List Char → List Char) : Nat → List Char → Option (List Char)
  | 0, _ => none
  | rounds + 1, rest =>
    match find_url_start rest with
    | none => some rest
    | some url_start => do
      let (before, after_prefix) ← Text.splitBytes url_start rest
      let url_end := (find_whitespace after_prefix).getD (Text.byteLength after_prefix)
      let (url, tail) ← Text.splitBytes url_end after_prefix
      let redacted ← redact_urls redact_url rounds tail
      some (before ++ redact_url url ++ redacted)

end Checked

/-- `url.split('?').next()`. -/
def redact_webhook_url (url : List Char) : List Char :=
  url.takeWhile (· != '?')

def webhook_network_error_message (url error : String) : String :=
  "webhook " ++ String.ofList ( redact_webhook_url url.toList) ++ " failed: " ++
    String.ofList (redact_urls_in_text redact_webhook_url error.toList)

/-! ### Where a URL begins -/

def url_schemes : List (List Char) :=
  ["http://".toList, "https://".toList]

/-- The text begins with `http://` or `https://`, in any letter case. -/
def begins_url (text : List Char) : Bool :=
  url_schemes.any (·.isPrefixOf (text.map Text.asciiLower))

section Begins
variable {a b text : List Char} {c : Char} {k : Nat}

theorem begins_url_iff :
    begins_url text = true ↔ ∃ scheme ∈ url_schemes, scheme <+: text.map Text.asciiLower := by
  rw [begins_url, List.any_eq_true]
  simp only [List.isPrefixOf_iff_prefix]

theorem begins_url_congr (h : ∀ scheme ∈ url_schemes,
    scheme <+: a.map Text.asciiLower ↔ scheme <+: b.map Text.asciiLower) :
    begins_url a = begins_url b := by
  rw [Bool.eq_iff_iff, begins_url_iff, begins_url_iff]
  constructor
  · rintro ⟨scheme, hscheme, hstarts⟩
    exact ⟨scheme, hscheme, (h scheme hscheme).mp hstarts⟩
  · rintro ⟨scheme, hscheme, hstarts⟩
    exact ⟨scheme, hscheme, (h scheme hscheme).mpr hstarts⟩

theorem scheme_all {p : Char → Bool} (h : url_schemes.all (·.all p) = true) :
    ∀ scheme ∈ url_schemes, ∀ c ∈ scheme, p c = true := by
  intro scheme hscheme c hc
  exact List.all_eq_true.mp (List.all_eq_true.mp h scheme hscheme) c hc

theorem scheme_letters : ∀ scheme ∈ url_schemes, ∀ c ∈ scheme, Text.isWhitespace c = false := by
  have hall : url_schemes.all (·.all fun c => !Text.isWhitespace c) = true := by decide
  intro scheme hscheme c hc
  simpa using scheme_all hall scheme hscheme c hc

/-- A URL begins with a letter. -/
theorem begins_url_letter (h : begins_url (c :: text) = true) : Text.isWhitespace c = false := by
  obtain ⟨scheme, hscheme, hstarts⟩ := begins_url_iff.mp h
  have hletters := scheme_letters scheme hscheme
  have hne : scheme ≠ [] := by
    rintro rfl
    exact absurd hscheme (by decide)
  cases scheme with
  | nil => exact absurd rfl hne
  | cons d scheme =>
    obtain rfl := (List.cons_prefix_cons.mp hstarts).1
    rw [← Text.isWhitespace_asciiLower]
    exact hletters _ (List.mem_cons_self ..)

theorem begins_url_nil : begins_url [] = false := by decide

theorem find_url_start_nil : find_url_start [] = none := by decide

theorem find_initial {pattern : List Char} (hne : pattern ≠ []) (h : pattern <+: text) :
    Text.find pattern text = some 0 := by
  obtain ⟨rest, rfl⟩ := h
  exact Text.find_hit hne

theorem find_url_start_hit (h : begins_url text = true) : find_url_start text = some 0 := by
  obtain ⟨scheme, hscheme, hstarts⟩ := begins_url_iff.mp h
  have hcases : scheme = "http://".toList ∨ scheme = "https://".toList := by
    simpa [url_schemes] using hscheme
  simp only [find_url_start]
  rcases hcases with rfl | rfl
  · rw [find_initial (by decide) hstarts]
    cases Text.find "https://".toList (text.map Text.asciiLower) with
    | none => rfl
    | some https => exact congrArg some (Nat.zero_min https)
  · rw [find_initial (by decide) hstarts]
    cases Text.find "http://".toList (text.map Text.asciiLower) with
    | none => rfl
    | some http => exact congrArg some (Nat.min_zero http)

theorem find_url_start_kept (h : begins_url (c :: text) = false) :
    find_url_start (c :: text) = (find_url_start text).map (· + 1) := by
  have hnone : ∀ scheme ∈ url_schemes,
      ¬ scheme <+: Text.asciiLower c :: text.map Text.asciiLower := by
    intro scheme hscheme hstarts
    have hbegins : begins_url (c :: text) = true := begins_url_iff.mpr ⟨scheme, hscheme, hstarts⟩
    exact Bool.noConfusion (hbegins.symm.trans h)
  simp only [find_url_start]
  rw [List.map_cons, Text.find_kept (hnone _ (by decide)), Text.find_kept (hnone _ (by decide))]
  cases Text.find "http://".toList (text.map Text.asciiLower) with
  | none =>
    cases Text.find "https://".toList (text.map Text.asciiLower) with
    | none => rfl
    | some https => rfl
  | some http =>
    cases Text.find "https://".toList (text.map Text.asciiLower) with
    | none => rfl
    | some https => exact congrArg some (Nat.succ_min_succ http https)

theorem begins_of_find (h : find_url_start text = some k) : begins_url (text.drop k) = true := by
  induction text generalizing k with
  | nil => exact nomatch find_url_start_nil.symm.trans h
  | cons c text ih =>
    cases hbegins : begins_url (c :: text) with
    | true =>
      rw [find_url_start_hit hbegins] at h
      obtain rfl := Option.some.inj h
      exact hbegins
    | false =>
      rw [find_url_start_kept hbegins] at h
      obtain ⟨n, hn, rfl⟩ := Option.map_eq_some_iff.mp h
      exact ih hn

end Begins

/-! ### Word by word -/

/-- The word up to its first URL, and the URL rewritten. -/
def redact_word (redact_url : List Char → List Char) : List Char → List Char
  | [] => []
  | c :: word =>
    if begins_url (c :: word) then redact_url (c :: word) else c :: redact_word redact_url word

section Words
variable {redact_url : List Char → List Char} {text word rest out : List Char} {c : Char} {n : Nat}

/-- What follows a word makes no difference to where a URL begins in it. -/
theorem begins_url_after (h : Text.AfterWord text) (word : List Char) :
    begins_url (word ++ text) = begins_url word := by
  refine begins_url_congr fun scheme hscheme => ?_
  rw [List.map_append]
  refine Text.initial_of_part (scheme_letters scheme hscheme) fun c hc => ?_
  rw [List.head?_map] at hc
  obtain ⟨d, hd, rfl⟩ := Option.map_eq_some_iff.mp hc
  rw [Text.isWhitespace_asciiLower]
  exact h d hd

theorem rounds_nil (n : Nat) : redact_urls_rounds redact_url n [] = [] := by
  cases n with
  | zero => rfl
  | succ n => simp only [redact_urls_rounds, find_url_start_nil]

theorem rounds_kept (h : begins_url (c :: text) = false) (n : Nat) :
    redact_urls_rounds redact_url n (c :: text) = c :: redact_urls_rounds redact_url n text := by
  cases n with
  | zero => rfl
  | succ n =>
    simp only [redact_urls_rounds, find_url_start_kept h]
    cases find_url_start text with
    | none => rfl
    | some k => rfl

theorem rounds_hit (h : begins_url text = true) (n : Nat) :
    redact_urls_rounds redact_url (n + 1) text =
      redact_url (text.takeWhile (!Text.isWhitespace ·)) ++
        redact_urls_rounds redact_url n (text.dropWhile (!Text.isWhitespace ·)) := by
  simp only [redact_urls_rounds, find_url_start_hit h]
  rfl

theorem takeWhile_word (hword : ∀ c ∈ word, Text.isWhitespace c = false)
    (h : Text.AfterWord rest) :
    (word ++ rest).takeWhile (!Text.isWhitespace ·) = word ∧
      (word ++ rest).dropWhile (!Text.isWhitespace ·) = rest := by
  have hall : ∀ c ∈ word, (!Text.isWhitespace c) = true := fun c hc => by rw [hword c hc]; rfl
  rw [List.takeWhile_append_of_pos hall, List.dropWhile_append_of_pos hall]
  cases rest with
  | nil => exact ⟨List.append_nil word, rfl⟩
  | cons c rest =>
    have hc := h c rfl
    simp only [List.takeWhile_cons, List.dropWhile_cons, hc, Bool.not_true, Bool.false_eq_true,
      if_false, List.append_nil, and_self]

/-- One word: its URL is rewritten, and the scanner goes on behind it. -/
theorem rounds_word (hword : ∀ c ∈ word, Text.isWhitespace c = false)
    (hrest : Text.AfterWord rest)
    (hout : ∀ n, rest.length ≤ n → redact_urls_rounds redact_url n rest = out)
    (hn : (word ++ rest).length ≤ n) :
    redact_urls_rounds redact_url n (word ++ rest) = redact_word redact_url word ++ out := by
  induction word with
  | nil => exact hout n hn
  | cons c word ih =>
    have hlength : (word ++ rest).length < n := hn
    have hletters : ∀ d ∈ word, Text.isWhitespace d = false := fun d hd =>
      hword d (List.mem_cons_of_mem c hd)
    have hafter : begins_url (c :: (word ++ rest)) = begins_url (c :: word) :=
      begins_url_after hrest (c :: word)
    cases hbegins : begins_url (c :: word) with
    | false =>
      rw [hbegins] at hafter
      rw [List.cons_append, rounds_kept hafter, ih hletters hlength.le, redact_word, hbegins]
      rfl
    | true =>
      rw [hbegins] at hafter
      obtain ⟨n, rfl⟩ : ∃ m, n = m + 1 := ⟨n - 1, by omega⟩
      obtain ⟨htake, hdrop⟩ := takeWhile_word hword hrest
      have hfits : rest.length ≤ n := by
        rw [List.length_append] at hlength
        omega
      rw [List.cons_append] at htake hdrop ⊢
      rw [rounds_hit hafter, htake, hdrop, hout n hfits, redact_word, hbegins]
      rfl

theorem redact_word_nil : redact_word redact_url [] = [] := rfl

/-- The scanner rewrites the text word by word. -/
theorem rounds_wordwise (redact_url : List Char → List Char) (text : List Char) (n : Nat)
    (hn : text.length ≤ n) : redact_urls_rounds redact_url n text =
      Text.wordwise (redact_word redact_url) [] text := by
  obtain ⟨length, hlength⟩ : ∃ length, text.length = length := ⟨_, rfl⟩
  induction length using Nat.strong_induction_on generalizing text n with
  | _ length ih =>
    have hword : ∀ c ∈ text.takeWhile (!Text.isWhitespace ·), Text.isWhitespace c = false := by
      intro c hc
      simpa using List.mem_takeWhile_imp hc
    have hsplit : text.takeWhile (!Text.isWhitespace ·) ++ text.dropWhile (!Text.isWhitespace ·) =
        text := List.takeWhile_append_dropWhile
    generalize text.takeWhile (!Text.isWhitespace ·) = word at hword hsplit
    cases hrest : text.dropWhile (!Text.isWhitespace ·) with
    | nil =>
      rw [hrest] at hsplit
      rw [← hsplit] at hn ⊢
      have hafter : Text.AfterWord [] := by
        rintro c ⟨⟩
      rw [rounds_word hword hafter (fun n _ => rounds_nil n) hn, Text.wordwise_word hword]
      exact List.append_nil _
    | cons c rest =>
      have hspace : Text.isWhitespace c = true := by
        have hhead := List.head_dropWhile_not (!Text.isWhitespace ·) (l := text)
          (by rw [hrest]; exact List.cons_ne_nil c rest)
        simp only [hrest, List.head_cons] at hhead
        simpa using hhead
      have hkept : begins_url (c :: rest) = false := by
        by_contra hbegins
        have hletter := begins_url_letter (by simpa using hbegins)
        rw [hspace] at hletter
        exact Bool.noConfusion hletter
      rw [hrest] at hsplit
      have hshorter : rest.length < length := by
        rw [← hlength, ← hsplit, List.length_append, List.length_cons]
        omega
      have hout : ∀ n, (c :: rest).length ≤ n → redact_urls_rounds redact_url n (c :: rest) =
          c :: Text.wordwise (redact_word redact_url) [] rest := by
        intro n hn
        rw [rounds_kept hkept, ih _ hshorter rest n (Nat.le_of_succ_le hn) rfl]
      rw [← hsplit] at hn ⊢
      have hafter : Text.AfterWord (c :: rest) := by
        rintro d ⟨⟩
        exact hspace
      rw [rounds_word hword hafter hout hn, Text.wordwise_word hword, Text.wordwise_space hspace]
      rfl

theorem redact_urls_wordwise (redact_url : List Char → List Char) (text : List Char) :
    redact_urls_in_text redact_url text = Text.wordwise (redact_word redact_url) [] text :=
  rounds_wordwise redact_url text text.length (Nat.le_refl _)

end Words

/-! ### Offsets -/

section Offsets
variable {text : List Char} {n m k : Nat}

theorem width_asciiLower (c : Char) : Text.width (Text.asciiLower c) = Text.width c := by
  by_cases h : 'A' ≤ c ∧ c ≤ 'Z'
  · have hlow : 65 ≤ c.toNat := h.1
    have hhigh : c.toNat ≤ 90 := h.2
    have hletters : ∀ n : Fin 26, (Text.asciiLower (Char.ofNat (65 + n))).toNat ≤ 127 := by decide
    have hletter := hletters ⟨c.toNat - 65, by omega⟩
    have hnat : 65 + (c.toNat - 65) = c.toNat := by omega
    rw [hnat, Char.ofNat_toNat] at hletter
    rw [Text.width_of_ascii hletter, Text.width_of_ascii (by omega)]
  · rw [Text.asciiLower, if_neg h]

/-- The lowercased copy has the same offsets. -/
theorem byteLength_asciiLower (text : List Char) :
    Text.byteLength (text.map Text.asciiLower) = Text.byteLength text := by
  induction text with
  | nil => rfl
  | cons c text ih => rw [List.map_cons, Text.byteLength_cons, Text.byteLength_cons, ih,
      width_asciiLower]

theorem byteLength_take_le (text : List Char) (h : n ≤ m) :
    Text.byteLength (text.take n) ≤ Text.byteLength (text.take m) := by
  obtain ⟨rest, hrest⟩ := List.take_prefix_take_left (l := text) h
  rw [← hrest, Text.byteLength_append]
  exact Nat.le_add_right ..

theorem byteLength_take_min (text : List Char) (n m : Nat) :
    min (Text.byteLength (text.take n)) (Text.byteLength (text.take m)) =
      Text.byteLength (text.take (min n m)) := by
  rcases Nat.le_total n m with h | h
  · rw [Nat.min_eq_left h, Nat.min_eq_left (byteLength_take_le text h)]
  · rw [Nat.min_eq_right h, Nat.min_eq_right (byteLength_take_le text h)]

theorem checked_find (pattern text : List Char) :
    Checked.find pattern (text.map Text.asciiLower) =
      (Text.find pattern (text.map Text.asciiLower)).map fun n =>
        Text.byteLength (text.take n) := by
  unfold Checked.find
  simp only [← List.map_take, byteLength_asciiLower]

/-- The offset found in the lowercased copy is the offset of the URL in the text. -/
theorem checked_find_url_start (text : List Char) :
    Checked.find_url_start text =
      (find_url_start text).map fun n => Text.byteLength (text.take n) := by
  simp only [Checked.find_url_start, find_url_start, checked_find]
  cases Text.find "http://".toList (text.map Text.asciiLower) with
  | none =>
    cases Text.find "https://".toList (text.map Text.asciiLower) with
    | none => rfl
    | some https => rfl
  | some http =>
    cases Text.find "https://".toList (text.map Text.asciiLower) with
    | none => rfl
    | some https => exact congrArg some (byteLength_take_min text http https)

theorem checked_find_whitespace (text : List Char) :
    (Checked.find_whitespace text).getD (Text.byteLength text) =
      Text.byteLength (text.takeWhile (!Text.isWhitespace ·)) := by
  unfold Checked.find_whitespace
  by_cases h : text.any Text.isWhitespace = true
  · rw [if_pos h]
    rfl
  · rw [if_neg h]
    have hall : text.takeWhile (!Text.isWhitespace ·) = text := by
      refine List.takeWhile_eq_self_iff.mpr fun c hc => ?_
      rw [Bool.not_eq_true']
      by_contra hspace
      exact h (List.any_eq_true.mpr ⟨c, hc, by simpa using hspace⟩)
    rw [hall]
    rfl

/-- Every round takes a URL out of the text. -/
theorem tail_shorter (h : find_url_start text = some k) :
    ((text.drop k).dropWhile (!Text.isWhitespace ·)).length < text.length := by
  have hbegins := begins_of_find h
  cases hdrop : text.drop k with
  | nil =>
    rw [hdrop] at hbegins
    exact absurd hbegins (by decide)
  | cons c rest =>
    rw [hdrop] at hbegins
    have hletter := begins_url_letter hbegins
    have hlength := congrArg List.length hdrop
    have htail := (List.dropWhile_suffix (!Text.isWhitespace ·) (l := rest)).length_le
    rw [List.length_drop, List.length_cons] at hlength
    rw [List.dropWhile_cons_of_pos (by rw [hletter]; rfl)]
    omega

/-- One round more than there are characters, and no slice goes wrong. -/
theorem checked_rounds (redact_url : List Char → List Char) (n : Nat) (text : List Char)
    (h : text.length ≤ n) : Checked.redact_urls redact_url (n + 1) text =
      some (redact_urls_rounds redact_url n text) := by
  induction n generalizing text with
  | zero =>
    obtain rfl := List.length_eq_zero_iff.mp (Nat.le_zero.mp h)
    rfl
  | succ n ih =>
    rw [Checked.redact_urls, checked_find_url_start]
    cases hfind : find_url_start text with
    | none => simp only [redact_urls_rounds, hfind, Option.map_none]
    | some k =>
      have hstart : Text.splitBytes (Text.byteLength (text.take k)) text =
          some (text.take k, text.drop k) :=
        Text.splitBytes_iff.mpr ⟨(List.take_append_drop k text).symm, rfl⟩
      have hstop : Text.splitBytes
          (Text.byteLength ((text.drop k).takeWhile (!Text.isWhitespace ·))) (text.drop k) =
          some ((text.drop k).takeWhile (!Text.isWhitespace ·),
            (text.drop k).dropWhile (!Text.isWhitespace ·)) :=
        Text.splitBytes_iff.mpr ⟨List.takeWhile_append_dropWhile.symm, rfl⟩
      have hrest := ih ((text.drop k).dropWhile (!Text.isWhitespace ·)) (by
        have hshorter := tail_shorter hfind
        omega)
      simp only [redact_urls_rounds, hfind, Option.map_some, hstart, Option.bind_eq_bind,
        Option.bind_some, checked_find_whitespace, hstop, hrest]

end Offsets

/-! ### Queries -/

section Queries
variable {before url query after : List Char}

theorem scheme_no_query : ∀ scheme ∈ url_schemes, ∀ c ∈ scheme, (c == '?') = false := by
  have hall : url_schemes.all (·.all fun c => !(c == '?')) = true := by decide
  intro scheme hscheme c hc
  simpa using scheme_all hall scheme hscheme c hc

theorem begins_url_query (url query : List Char) :
    begins_url (url ++ '?' :: query) = begins_url url := by
  refine begins_url_congr fun scheme hscheme => ?_
  rw [List.map_append, List.map_cons]
  refine Text.initial_of_part (scheme_no_query scheme hscheme) fun c hc => ?_
  obtain rfl := Option.some.inj hc
  decide

theorem redact_webhook_url_query (url query : List Char) :
    redact_webhook_url (url ++ '?' :: query) = redact_webhook_url url :=
  Text.takeWhile_stop (by decide) url query

/-- What a word has behind a URL and a question mark is not shown. -/
theorem redact_word_query (hurl : begins_url url = true) (before query : List Char) :
    redact_word redact_webhook_url (before ++ (url ++ '?' :: query)) =
      redact_word redact_webhook_url (before ++ url) := by
  induction before with
  | nil =>
    cases url with
    | nil => exact absurd hurl (by decide)
    | cons c url =>
      have hquery : begins_url (c :: (url ++ '?' :: query)) = true :=
        (begins_url_query (c :: url) query).trans hurl
      simp only [List.nil_append, List.cons_append, redact_word, hquery, hurl, if_true]
      exact redact_webhook_url_query (c :: url) query
  | cons c before ih =>
    have hsame : begins_url (c :: (before ++ (url ++ '?' :: query))) =
        begins_url (c :: (before ++ url)) := by
      have hquery := begins_url_query (c :: (before ++ url)) query
      rwa [List.cons_append, List.append_assoc] at hquery
    have hcut : redact_webhook_url (c :: (before ++ (url ++ '?' :: query))) =
        redact_webhook_url (c :: (before ++ url)) := by
      have hquery := redact_webhook_url_query (c :: (before ++ url)) query
      rwa [List.cons_append, List.append_assoc] at hquery
    simp only [List.cons_append, redact_word, hsame, hcut, ih]

theorem redact_text_query (hurl : begins_url url = true)
    (hletters : ∀ c ∈ url, Text.isWhitespace c = false)
    (hquery : ∀ c ∈ query, Text.isWhitespace c = false) (hafter : Text.AfterWord after)
    (before : List Char) :
    redact_urls_in_text redact_webhook_url (before ++ (url ++ '?' :: query ++ after)) =
      redact_urls_in_text redact_webhook_url (before ++ (url ++ after)) := by
  have hword : ∀ c ∈ url ++ '?' :: query, Text.isWhitespace c = false := by
    intro c hc
    rcases List.mem_append.mp hc with hc | hc
    · exact hletters c hc
    · rcases List.mem_cons.mp hc with rfl | hc
      · decide
      · exact hquery c hc
  obtain ⟨rest, hrest⟩ := Text.wordwise_after (redact_word redact_webhook_url) hafter
  rw [redact_urls_wordwise, redact_urls_wordwise, Text.wordwise_append _ _ before,
    Text.wordwise_append _ _ before, Text.wordwise_word hword, Text.wordwise_word hletters, hrest,
    hrest, redact_word_query hurl]

end Queries

/-- The scanner comes to an end, no slice goes wrong, and the text is rewritten word by word. What
follows the question mark of a URL makes no difference to the message. -/
theorem webhook_redaction :
    (∀ text, Checked.redact_urls redact_webhook_url (text.length + 1) text =
      some (Text.wordwise (redact_word redact_webhook_url) [] text)) ∧
    (∀ url error, webhook_network_error_message url error =
      "webhook " ++ String.ofList ( redact_webhook_url url.toList) ++ " failed: " ++
        String.ofList (Text.wordwise (redact_word redact_webhook_url) [] error.toList)) ∧
    (∀ url query error, webhook_network_error_message (String.ofList (url ++ '?' :: query)) error =
      webhook_network_error_message (String.ofList url) error) ∧
    ∀ request before url query after, begins_url url = true →
      (∀ c ∈ url, Text.isWhitespace c = false) → (∀ c ∈ query, Text.isWhitespace c = false) →
      Text.AfterWord after →
      webhook_network_error_message request
          (String.ofList (before ++ (url ++ '?' :: query ++ after))) =
        webhook_network_error_message request (String.ofList (before ++ (url ++ after))) := by
  refine ⟨fun text => ?_, fun url error => ?_, fun url query error => ?_, ?_⟩
  · rw [checked_rounds redact_webhook_url text.length text (Nat.le_refl _)]
    exact congrArg some (redact_urls_wordwise redact_webhook_url text)
  · rw [webhook_network_error_message, redact_urls_wordwise]
  · rw [webhook_network_error_message, webhook_network_error_message, String.toList_ofList,
      String.toList_ofList, redact_webhook_url_query]
  · intro request before url query after hurl hletters hquery hafter
    rw [webhook_network_error_message, webhook_network_error_message, String.toList_ofList,
      String.toList_ofList, redact_text_query hurl hletters hquery hafter]

end CoinListener.Notifier
