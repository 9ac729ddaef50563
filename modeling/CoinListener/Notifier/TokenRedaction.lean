import CoinListener.Notifier.Redaction
import CoinListener.Notifier.TokenPreview

/-! What an error message tells about a bot token. The token is part of the request URL, which is shown
in the message and may be mentioned in the error. -/
namespace CoinListener.Notifier
open Foundation

/-! ### Requests -/

inductive BotMethod where
  | sendMessage
  | getMe
  | getUpdates (last_update_id : Int)

def BotMethod.path : BotMethod → String
  | .sendMessage => "sendMessage"
  | .getMe => "getMe"
  | .getUpdates last_update_id =>
    "getUpdates" ++ "?offset=" ++ toString (last_update_id + 1) ++ "&timeout=0"

section Requests
variable {Client : Type} (http : Http Client)

def ExternalNotificationSender.new : ExternalNotificationSender Client :=
  ⟨http, "https://api.telegram.org"⟩

def request_url (bot_token : String) (method : BotMethod) : String :=
  telegram_bot_method_url (.new http) bot_token method.path

/-- An error text that mentions the URL between these pieces. -/
def mentions (url : List Char) : List (List Char) → List Char
  | [] => []
  | [piece] => piece
  | piece :: pieces => piece ++ (url ++ mentions url pieces)

/-- What is stored when a request fails with such an error. -/
def reported (bot_token : String) (method : BotMethod) (pieces : List (List Char)) : String :=
  telegram_network_error_message (request_url http bot_token method)
    (String.ofList (mentions (request_url http bot_token method).toList pieces))

end Requests

/-- The token of a bot that can be created. -/
def AcceptedToken (bot_token : String) : Prop :=
  Text.trim bot_token = bot_token ∧ bot_token ≠ ""

/-- The characters that do not end a token in a text. -/
def in_token (c : Char) : Bool :=
  c != '/' && !Text.isWhitespace c

/-- The token from its first slash or white space on. -/
def past_token (bot_token : String) : List Char :=
  bot_token.toList.dropWhile in_token

/-! ### Words that name a bot -/

def bot_path : List Char := "/bot".toList

/-- A URL of the word has `/bot` in it. -/
def bot_named : List Char → Bool
  | [] => false
  | c :: word =>
    if begins_url (c :: word) then (Text.find bot_path (c :: word)).isSome else bot_named word

/-- The URL up to the token. -/
def bot_start : List Char := "https://api.telegram.org/bot".toList

/-- No mention of the URL stands behind a bot in a URL of the same word. -/
def Apart : List Char → List (List Char) → Prop
  | seen, piece :: next :: pieces =>
    bot_named (Text.last_word seen piece) = false ∧ Apart bot_start (next :: pieces)
  | _, _ => True

section Words
variable {word url rest : List Char} {c : Char} {k : Nat}

theorem bot_path_ne : bot_path ≠ [] := by decide

theorem shown_none (h : Text.find bot_path url = none) : redact_telegram_url url = url := by
  unfold bot_path at h
  rw [redact_telegram_url, h]

/-- Where the bot is found the token is hidden, up to the next slash. -/
theorem shown_some (h : Text.find bot_path url = some k) (rest : List Char) :
    redact_telegram_url (url ++ rest) = url.take (k + 4) ++ "<redacted>".toList ++
      (url.drop (k + 4) ++ rest).dropWhile (· != '/') := by
  obtain ⟨hfound, hlength⟩ := Text.find_append bot_path_ne h rest
  have hfits : k + 4 ≤ url.length := hlength
  unfold bot_path at hfound
  simp only [redact_telegram_url, hfound, List.take_append_of_le_length hfits,
    List.drop_append_of_le_length hfits]

theorem begins_url_append (h : begins_url word = true) (rest : List Char) :
    begins_url (word ++ rest) = true := by
  obtain ⟨scheme, hscheme, hstarts⟩ := begins_url_iff.mp h
  exact begins_url_iff.mpr ⟨scheme, hscheme, hstarts.trans ((List.prefix_append word rest).map _)⟩

theorem scheme_length : ∀ scheme ∈ url_schemes, 7 ≤ scheme.length ∧ scheme.length ≤ 8 := by
  decide

theorem begins_url_length (h : begins_url word = true) : 7 ≤ word.length := by
  obtain ⟨scheme, hscheme, hstarts⟩ := begins_url_iff.mp h
  have hlength := hstarts.length_le
  rw [List.length_map] at hlength
  exact (scheme_length scheme hscheme).1.trans hlength

/-- A word that is long enough begins with a URL or does not, whatever follows. -/
theorem begins_url_long (h : 8 ≤ word.length) (rest : List Char) :
    begins_url (word ++ rest) = begins_url word := by
  refine begins_url_congr fun scheme hscheme => ?_
  rw [List.map_append]
  constructor
  · intro hstarts
    refine List.prefix_of_prefix_length_le hstarts (List.prefix_append ..) ?_
    rw [List.length_map]
    exact (scheme_length scheme hscheme).2.trans h
  · exact fun hstarts => hstarts.trans (List.prefix_append ..)

theorem bot_named_length (h : bot_named word = true) : 7 ≤ word.length := by
  induction word with
  | nil => exact nomatch h
  | cons c word ih =>
    by_cases hbegins : begins_url (c :: word) = true
    · exact begins_url_length hbegins
    · rw [bot_named, if_neg hbegins] at h
      exact (ih h).trans (Nat.le_succ _)

/-- A word that names a bot hides what follows up to a slash, or shows it all. -/
theorem named_shown (h : bot_named word = true) :
    ∃ out hidden, ∀ rest, redact_word redact_telegram_url (word ++ rest) =
      out ++ (hidden ++ rest).dropWhile (· != '/') := by
  induction word with
  | nil => exact nomatch h
  | cons c word ih =>
    by_cases hbegins : begins_url (c :: word) = true
    · rw [bot_named, if_pos hbegins] at h
      obtain ⟨k, hk⟩ := Option.isSome_iff_exists.mp h
      refine ⟨(c :: word).take (k + 4) ++ "<redacted>".toList, (c :: word).drop (k + 4),
        fun rest => ?_⟩
      have hlater : begins_url (c :: (word ++ rest)) = true := begins_url_append hbegins rest
      rw [List.cons_append, redact_word, if_pos hlater]
      exact shown_some hk rest
    · rw [bot_named, if_neg hbegins] at h
      obtain ⟨out, hidden, hshown⟩ := ih h
      refine ⟨c :: out, hidden, fun rest => ?_⟩
      have hlong : 8 ≤ (c :: word).length := Nat.succ_le_succ (bot_named_length h)
      have hlater : ¬ begins_url (c :: (word ++ rest)) = true := by
        have hsame := begins_url_long hlong rest
        rw [List.cons_append] at hsame
        rwa [hsame]
      rw [List.cons_append, redact_word, if_neg hlater, hshown rest]
      rfl

theorem bot_named_append (h : bot_named word = true) (rest : List Char) :
    bot_named (word ++ rest) = true := by
  induction word with
  | nil => exact nomatch h
  | cons c word ih =>
    by_cases hbegins : begins_url (c :: word) = true
    · have hlater : begins_url (c :: (word ++ rest)) = true := begins_url_append hbegins rest
      rw [bot_named, if_pos hbegins] at h
      obtain ⟨k, hk⟩ := Option.isSome_iff_exists.mp h
      rw [List.cons_append, bot_named, if_pos hlater, ← List.cons_append,
        (Text.find_append bot_path_ne hk rest).1]
      rfl
    · rw [bot_named, if_neg hbegins] at h
      have hlater : ¬ begins_url (c :: (word ++ rest)) = true := by
        have hlong : 8 ≤ (c :: word).length := Nat.succ_le_succ (bot_named_length h)
        have hsame := begins_url_long hlong rest
        rw [List.cons_append] at hsame
        rwa [hsame]
      rw [List.cons_append, bot_named, if_neg hlater]
      exact ih h

/-- A word without a bot is shown as it is. -/
theorem unnamed_shown (h : bot_named word = false) :
    redact_word redact_telegram_url word = word := by
  induction word with
  | nil => rfl
  | cons c word ih =>
    by_cases hbegins : begins_url (c :: word) = true
    · rw [bot_named, if_pos hbegins] at h
      rw [redact_word, if_pos hbegins]
      exact shown_none (Option.not_isSome_iff_eq_none.mp (by rw [h]; exact Bool.false_ne_true))
    · rw [bot_named, if_neg hbegins] at h
      rw [redact_word, if_neg hbegins, ih h]

/-! ### Mentions -/

theorem bot_start_found : Text.find bot_path bot_start = some 24 := by decide

theorem bot_start_begins (rest : List Char) : begins_url (bot_start ++ rest) = true :=
  begins_url_append (by decide) rest

/-- A word does not become part of the scheme of the request URL. -/
theorem begins_url_mention (c : Char) (word rest : List Char) :
    begins_url (c :: word ++ (bot_start ++ rest)) = begins_url (c :: word) := by
  have hhead : ∀ scheme ∈ url_schemes, 'h' ∉ scheme.tail := by decide
  refine begins_url_congr fun scheme hscheme => ?_
  rw [List.map_append]
  constructor
  · intro hstarts
    rcases Redact.prefix_cases hstarts with hinside | ⟨tail, htail, heq, hbeyond⟩
    · exact hinside
    · cases tail with
      | nil => exact absurd rfl htail
      | cons d tail =>
        have hd : d = 'h' := (List.cons_prefix_cons.mp hbeyond).1
        refine absurd ?_ (hhead scheme hscheme)
        rw [heq, List.map_cons, List.cons_append, List.tail_cons, hd]
        exact List.mem_append_right _ (List.mem_cons_self ..)
  · exact fun hstarts => hstarts.trans (List.prefix_append ..)

theorem mention_found (h : Text.find bot_path word = none) :
    Text.find bot_path (word ++ bot_start) = some (24 + word.length) := by
  have hfree : Redact.Free bot_path word bot_start :=
    Redact.free_of_separator (by decide) ((Text.find_none_iff bot_path_ne).mp h)
  rw [Text.find_free hfree, bot_start_found]
  rfl

/-- In a word without a bot the token of the request URL is hidden up to the next slash. -/
theorem mention_shown (h : bot_named word = false) (rest : List Char) :
    redact_word redact_telegram_url (word ++ (bot_start ++ rest)) =
      word ++ (bot_start ++ "<redacted>".toList ++ rest.dropWhile (· != '/')) := by
  induction word with
  | nil =>
    have hurl := shown_some bot_start_found rest
    have hword : redact_word redact_telegram_url (bot_start ++ rest) =
        redact_telegram_url (bot_start ++ rest) := if_pos (bot_start_begins rest)
    rw [List.nil_append, hword, hurl]
    rfl
  | cons c word ih =>
    have hmention := begins_url_mention c word rest
    rw [List.cons_append] at hmention
    by_cases hbegins : begins_url (c :: word) = true
    · rw [bot_named, if_pos hbegins] at h
      have hnone : Text.find bot_path (c :: word) = none :=
        Option.not_isSome_iff_eq_none.mp (by rw [h]; exact Bool.false_ne_true)
      have hurl := shown_some (mention_found hnone) rest
      have hlength : 24 + (c :: word).length + 4 = (c :: word ++ bot_start).length := by
        rw [List.length_append]
        have hstart : bot_start.length = 28 := by decide
        omega
      rw [hlength, List.take_length, List.drop_length, List.nil_append, List.append_assoc] at hurl
      rw [List.cons_append, redact_word, if_pos (hmention.trans hbegins), ← List.cons_append, hurl]
      simp only [List.append_assoc]
    · rw [bot_named, if_neg hbegins] at h
      rw [List.cons_append, redact_word, if_neg (by rw [hmention]; exact hbegins), ih h]
      rfl

theorem bot_named_mention (word rest : List Char) :
    bot_named (word ++ (bot_start ++ rest)) = true := by
  induction word with
  | nil =>
    have hnamed : bot_named bot_start = true := by decide
    exact bot_named_append hnamed rest
  | cons c word ih =>
    have hmention := begins_url_mention c word rest
    rw [List.cons_append] at hmention
    by_cases hbegins : begins_url (c :: word) = true
    · rw [List.cons_append, bot_named, if_pos (hmention.trans hbegins)]
      cases hfind : Text.find bot_path (c :: word) with
      | none =>
        have hfound := (Text.find_append bot_path_ne (mention_found hfind) rest).1
        rw [List.append_assoc, List.cons_append] at hfound
        rw [hfound]
        rfl
      | some k =>
        have hfound := (Text.find_append bot_path_ne hfind (bot_start ++ rest)).1
        rw [List.cons_append] at hfound
        rw [hfound]
        rfl
    · rw [List.cons_append, bot_named, if_neg (by rw [hmention]; exact hbegins)]
      exact ih

/-- Behind another bot of the same word the whole request URL is shown. -/
theorem glued_shown (h : bot_named word = true) :
    ∃ out, ∀ rest, redact_word redact_telegram_url (word ++ (bot_start ++ rest)) = out ++ rest := by
  obtain ⟨out, hidden, hshown⟩ := named_shown h
  have htail : ∃ tail, ∀ rest, (hidden ++ (bot_start ++ rest)).dropWhile (· != '/') =
      tail ++ rest := by
    clear hshown
    induction hidden with
    | nil => exact ⟨"//api.telegram.org/bot".toList, fun rest => rfl⟩
    | cons d hidden ih =>
      by_cases hd : (d != '/') = true
      · obtain ⟨tail, htail⟩ := ih
        refine ⟨tail, fun rest => ?_⟩
        rw [List.cons_append, List.dropWhile_cons, if_pos hd, htail]
      · refine ⟨d :: hidden ++ bot_start, fun rest => ?_⟩
        rw [List.cons_append, List.dropWhile_cons, if_neg hd, List.cons_append, List.cons_append,
          List.append_assoc]
  obtain ⟨tail, htail⟩ := htail
  refine ⟨out ++ tail, fun rest => ?_⟩
  rw [hshown, htail, List.append_assoc]

end Words

/-! ### Tokens in a text -/

/-- The text does not go on with the token before it. -/
def EndsToken (text : List Char) : Prop :=
  ∃ c rest, text = c :: rest ∧ in_token c = false

section Tokens
variable {word token token' past : List Char}

theorem not_in_token {c : Char} (h : in_token c = false) : c = '/' ∨ Text.isWhitespace c = true := by
  by_cases hslash : c = '/'
  · exact .inl hslash
  · have hne : (c != '/') = true := bne_iff_ne.mpr hslash
    rw [in_token, hne, Bool.true_and] at h
    exact .inr (by simpa using h)

theorem in_token_letter {c : Char} (h : in_token c = true) :
    c ≠ '/' ∧ Text.isWhitespace c = false := by
  rw [in_token, Bool.and_eq_true] at h
  exact ⟨bne_iff_ne.mp h.1, by simpa using h.2⟩

theorem token_no_slash (h : ∀ c ∈ token, in_token c = true) : '/' ∉ token :=
  fun hmem => (in_token_letter (h _ hmem)).1 rfl

theorem mention_letters (h : ∀ c ∈ token, in_token c = true) :
    ∀ c ∈ bot_start ++ token, Text.isWhitespace c = false := by
  have hstart : bot_start.all (!Text.isWhitespace ·) = true := by decide
  intro c hc
  rcases List.mem_append.mp hc with hc | hc
  · simpa using List.all_eq_true.mp hstart c hc
  · exact (in_token_letter (h c hc)).2

/-- A token that ends its word is hidden. -/
theorem token_hidden (hword : bot_named word = false) (h : ∀ c ∈ token, in_token c = true) :
    redact_word redact_telegram_url (word ++ (bot_start ++ token)) =
      word ++ (bot_start ++ "<redacted>".toList) := by
  have hall : token.dropWhile (· != '/') = [] := by
    refine List.dropWhile_eq_nil_iff.mpr fun c hc => ?_
    exact bne_iff_ne.mpr (in_token_letter (h c hc)).1
  rw [mention_shown hword, hall, List.append_nil]

theorem token_hidden_slash (hword : bot_named word = false) (h : ∀ c ∈ token, in_token c = true)
    (rest : List Char) : redact_word redact_telegram_url
      (word ++ (bot_start ++ token) ++ '/' :: rest) =
        word ++ (bot_start ++ "<redacted>".toList ++ '/' :: rest) := by
  rw [List.append_assoc, List.append_assoc, mention_shown hword,
    Text.dropWhile_until (token_no_slash h)]

/-- After either token the text goes on alike. -/
theorem mention_alike (hword : bot_named word = false) (h : ∀ c ∈ token, in_token c = true)
    (h' : ∀ c ∈ token', in_token c = true) (hpast : EndsToken past) :
    Text.before_last_word (redact_word redact_telegram_url) word (bot_start ++ (token ++ past)) =
        Text.before_last_word (redact_word redact_telegram_url) word
          (bot_start ++ (token' ++ past)) ∧
      Text.Alike (redact_word redact_telegram_url)
        (Text.last_word word (bot_start ++ (token ++ past)))
        (Text.last_word word (bot_start ++ (token' ++ past))) := by
  obtain ⟨c, rest, rfl, hc⟩ := hpast
  have hread : ∀ t : List Char, (∀ c ∈ t, in_token c = true) →
      Text.before_last_word (redact_word redact_telegram_url) word
          (bot_start ++ (t ++ c :: rest)) =
        Text.before_last_word (redact_word redact_telegram_url) (word ++ (bot_start ++ t))
          (c :: rest) ∧
      Text.last_word word (bot_start ++ (t ++ c :: rest)) =
        Text.last_word (word ++ (bot_start ++ t)) (c :: rest) := by
    intro t ht
    rw [← List.append_assoc bot_start]
    exact Text.before_last_word_word (mention_letters ht) word (c :: rest)
  rw [(hread token h).1, (hread token h).2, (hread token' h').1, (hread token' h').2]
  by_cases hspace : Text.isWhitespace c = true
  · unfold Text.before_last_word Text.last_word
    rw [if_pos hspace, if_pos hspace, if_pos hspace, if_pos hspace, token_hidden hword h,
      token_hidden hword h']
    exact ⟨rfl, fun _ => rfl⟩
  · obtain rfl := (not_in_token hc).resolve_right hspace
    unfold Text.before_last_word Text.last_word
    rw [if_neg hspace, if_neg hspace, if_neg hspace, if_neg hspace]
    refine Text.Alike.read (fun word' => ?_) rest
    rw [List.append_assoc _ ['/'], List.append_assoc _ ['/']]
    exact (token_hidden_slash hword h word').trans (token_hidden_slash hword h' word').symm

end Tokens

/-! ### Texts that mention the request -/

section Texts
variable {url url' seen a b : List Char}

/-- A word that goes on after a mention still names the bot. -/
theorem apart_new_word (hseen : bot_named seen = true) {piece : List Char}
    (h : bot_named (Text.last_word seen piece) = false) :
    ∃ word, ∀ seen, Text.last_word seen piece = word := by
  rcases Text.last_word_cases piece with hnew | hgoes
  · exact hnew
  · rw [hgoes, bot_named_append hseen] at h
    exact nomatch h

theorem wordwise_mention (f : List Char → List Char) (url seen piece next : List Char)
    (pieces : List (List Char)) :
    Text.wordwise f seen (mentions url (piece :: next :: pieces)) =
      Text.before_last_word f seen piece ++
        (Text.before_last_word f (Text.last_word seen piece) url ++
          Text.wordwise f (Text.last_word (Text.last_word seen piece) url)
            (mentions url (next :: pieces))) := by
  rw [mentions.eq_3, Text.wordwise_append, Text.wordwise_append]
  exact List.cons_ne_nil next pieces

/-- If one mention goes on alike after either token, so does a text whose mentions are apart. -/
theorem mentions_alike
    (hmention : ∀ word, bot_named word = false →
      Text.before_last_word (redact_word redact_telegram_url) word url =
          Text.before_last_word (redact_word redact_telegram_url) word url' ∧
        Text.Alike (redact_word redact_telegram_url) (Text.last_word word url)
          (Text.last_word word url'))
    (pieces : List (List Char))
    (hseen : (a = seen ∧ b = seen) ∨
      (bot_named seen = true ∧ Text.Alike (redact_word redact_telegram_url) a b))
    (h : Apart seen pieces) :
    Text.wordwise (redact_word redact_telegram_url) a (mentions url pieces) =
      Text.wordwise (redact_word redact_telegram_url) b (mentions url' pieces) := by
  have halike : Text.Alike (redact_word redact_telegram_url) a b := by
    rcases hseen with ⟨rfl, rfl⟩ | ⟨_, halike⟩
    · exact fun _ => rfl
    · exact halike
  induction pieces generalizing seen a b with
  | nil => exact halike.whole
  | cons piece pieces ih =>
    cases pieces with
    | nil => exact halike.wordwise piece
    | cons next pieces =>
      obtain ⟨hword, hnext⟩ := h
      have hlast : Text.last_word a piece = Text.last_word seen piece ∧
          Text.last_word b piece = Text.last_word seen piece := by
        rcases hseen with ⟨rfl, rfl⟩ | ⟨hnamed, _⟩
        · exact ⟨rfl, rfl⟩
        · obtain ⟨word, hnew⟩ := apart_new_word hnamed hword
          rw [hnew, hnew, hnew]
          exact ⟨rfl, rfl⟩
      obtain ⟨hout, hafter⟩ := hmention _ hword
      have hstart : bot_named bot_start = true := by decide
      have hrest := ih (.inr ⟨hstart, hafter⟩) hnext hafter
      rw [wordwise_mention, wordwise_mention, hlast.1, hlast.2, (halike.read piece).1, hout, hrest]

/-- The URL for a token of one character. -/
def short_url (c : Char) : List Char :=
  bot_start ++ c :: "/sendMessage".toList

theorem short_url_letters {c : Char} (h : in_token c = true) :
    ∀ d ∈ short_url c, Text.isWhitespace d = false := by
  have hstart : bot_start.all (!Text.isWhitespace ·) = true := by decide
  have hpath : "/sendMessage".toList.all (!Text.isWhitespace ·) = true := by decide
  intro d hd
  rcases List.mem_append.mp hd with hd | hd
  · simpa using List.all_eq_true.mp hstart d hd
  · rcases List.mem_cons.mp hd with rfl | hd
    · exact (in_token_letter h).2
    · simpa using List.all_eq_true.mp hpath d hd

theorem short_url_mention {c d : Char} (hc : in_token c = true) (hd : in_token d = true)
    {word : List Char} (hword : bot_named word = false) :
    Text.before_last_word (redact_word redact_telegram_url) word (short_url c) =
        Text.before_last_word (redact_word redact_telegram_url) word (short_url d) ∧
      Text.Alike (redact_word redact_telegram_url) (Text.last_word word (short_url c))
        (Text.last_word word (short_url d)) := by
  have hpast : EndsToken "/sendMessage".toList := ⟨'/', "sendMessage".toList, rfl, by decide⟩
  have hone : ∀ e : Char, in_token e = true → ∀ x ∈ [e], in_token x = true := by
    intro e he x hx
    rw [List.mem_singleton.mp hx]
    exact he
  have hurl : ∀ e, short_url e = bot_start ++ ([e] ++ "/sendMessage".toList) := fun e => by
    rw [short_url, List.singleton_append]
  rw [hurl, hurl]
  exact mention_alike hword (hone c hc) (hone d hd) hpast

/-- The first mention behind another bot shows the token. -/
theorem mentions_differ {c d : Char} (hc : in_token c = true) (hd : in_token d = true)
    (pieces : List (List Char))
    (hseen : (a = seen ∧ b = seen) ∨ (bot_named seen = true ∧ bot_named a = true))
    (halike : Text.Alike (redact_word redact_telegram_url) a b) (h : ¬ Apart seen pieces) :
    ∃ out rest rest',
      Text.wordwise (redact_word redact_telegram_url) a (mentions (short_url c) pieces) =
        out ++ c :: rest ∧
      Text.wordwise (redact_word redact_telegram_url) b (mentions (short_url d) pieces) =
        out ++ d :: rest' := by
  induction pieces generalizing seen a b with
  | nil => exact absurd trivial h
  | cons piece pieces ih =>
    cases pieces with
    | nil => exact absurd trivial h
    | cons next pieces =>
      obtain ⟨hout, hword⟩ := halike.read piece
      rw [wordwise_mention, wordwise_mention, hout]
      by_cases hglued : bot_named (Text.last_word a piece) = true
      · obtain ⟨out, hshown⟩ := glued_shown hglued
        have hspelled : ∀ (e : Char) (word : List Char), in_token e = true →
            (∀ rest, redact_word redact_telegram_url (word ++ (bot_start ++ rest)) = out ++ rest) →
            ∀ text, ∃ rest, Text.before_last_word (redact_word redact_telegram_url) word
                (short_url e) ++ Text.wordwise (redact_word redact_telegram_url)
                  (Text.last_word word (short_url e)) text = out ++ e :: rest := by
          intro e word he hout text
          obtain ⟨first, tail, hfirst⟩ :=
            Text.wordwise_first (redact_word redact_telegram_url) text
          refine ⟨"/sendMessage".toList ++ first ++ tail, ?_⟩
          rw [← Text.wordwise_append, Text.wordwise_word (short_url_letters he), hfirst, short_url,
            List.append_assoc, List.append_assoc, hout]
          simp only [List.append_assoc, List.cons_append]
        obtain ⟨rest, hrest⟩ := hspelled c _ hc hshown (mentions (short_url c) (next :: pieces))
        obtain ⟨rest', hrest'⟩ := hspelled d _ hd
          (fun rest => (hword (bot_start ++ rest)).symm.trans (hshown rest))
          (mentions (short_url d) (next :: pieces))
        refine ⟨Text.before_last_word (redact_word redact_telegram_url) b piece ++ out, rest, rest',
          ?_, ?_⟩
        · rw [hrest, List.append_assoc]
        · rw [hrest', List.append_assoc]
      · have hnamed : bot_named (Text.last_word a piece) = false := by simpa using hglued
        have hsame : Text.last_word b piece = Text.last_word a piece ∧
            Text.last_word seen piece = Text.last_word a piece := by
          rcases hseen with ⟨rfl, rfl⟩ | ⟨_, hnameda⟩
          · exact ⟨rfl, rfl⟩
          · obtain ⟨word, hnew⟩ := apart_new_word hnameda hnamed
            rw [hnew, hnew, hnew]
            exact ⟨rfl, rfl⟩
        obtain ⟨hmention, hafter⟩ := short_url_mention hc hd hnamed
        have hlast : Text.last_word (Text.last_word a piece) (short_url c) =
            Text.last_word a piece ++ short_url c := by
          have hread := (Text.before_last_word_word (f := redact_word redact_telegram_url)
            (short_url_letters hc) (Text.last_word a piece) []).2
          rwa [List.append_nil] at hread
        have hnext : ¬ Apart bot_start (next :: pieces) := fun hapart =>
          h ⟨hsame.2 ▸ hnamed, hapart⟩
        have hstart : bot_named bot_start = true := by decide
        obtain ⟨out, rest, rest', hrest, hrest'⟩ :=
          ih (.inr ⟨hstart, hlast ▸ bot_named_mention ..⟩) hafter hnext
        refine ⟨Text.before_last_word (redact_word redact_telegram_url) b piece ++
          (Text.before_last_word (redact_word redact_telegram_url) (Text.last_word a piece)
            (short_url d) ++ out), rest, rest', ?_, ?_⟩
        · rw [hmention, hrest]
          simp only [List.append_assoc]
        · rw [hsame.1, hrest']
          simp only [List.append_assoc]

end Texts

/-! ### Messages -/

section Messages
variable {Client : Type} (http : Http Client) {bot_token bot_token' : String} {method : BotMethod}

theorem request_url_toList (bot_token : String) (method : BotMethod) :
    (request_url http bot_token method).toList =
      bot_start ++ (bot_token.toList ++ '/' :: method.path.toList) := by
  have hbase : Text.trimEndMatches '/' "https://api.telegram.org" = "https://api.telegram.org" := by
    decide +kernel
  have hstart : bot_start = "https://api.telegram.org".toList ++ "/bot".toList := by decide
  rw [request_url, telegram_bot_method_url, ExternalNotificationSender.new, hbase, hstart]
  simp only [String.toList_append, List.append_assoc]
  rfl

/-- The token as it begins, and where it ends in the URL. -/
theorem request_url_parts (bot_token : String) (method : BotMethod) :
    ∃ token, (∀ c ∈ token, in_token c = true) ∧
      EndsToken (past_token bot_token ++ '/' :: method.path.toList) ∧
      (request_url http bot_token method).toList =
        bot_start ++ (token ++ (past_token bot_token ++ '/' :: method.path.toList)) := by
  refine ⟨bot_token.toList.takeWhile in_token, fun c hc => List.mem_takeWhile_imp hc, ?_, ?_⟩
  · unfold past_token
    cases hpast : bot_token.toList.dropWhile in_token with
    | nil => exact ⟨'/', _, rfl, by decide⟩
    | cons c past =>
      refine ⟨c, _, rfl, ?_⟩
      have hhead := List.head_dropWhile_not in_token (l := bot_token.toList)
        (by rw [hpast]; exact List.cons_ne_nil c past)
      simpa only [hpast, List.head_cons] using hhead
  · rw [request_url_toList, ← List.append_assoc _ (past_token bot_token), past_token,
      List.takeWhile_append_dropWhile]

theorem shown_request {token past : List Char} (h : ∀ c ∈ token, in_token c = true) :
    redact_telegram_url (bot_start ++ (token ++ past)) =
      bot_start ++ "<redacted>".toList ++ past.dropWhile (· != '/') := by
  have hall : ∀ c ∈ token, (c != '/') = true := fun c hc =>
    bne_iff_ne.mpr (in_token_letter (h c hc)).1
  have hurl := shown_some bot_start_found (token ++ past)
  have hstart : ∀ c ∈ bot_start.drop (24 + 4), (c != '/') = true :=
    List.all_eq_true.mp (by decide)
  rw [List.dropWhile_append_of_pos hstart, List.dropWhile_append_of_pos hall] at hurl
  exact hurl

/-- Tokens that are the same from their first slash or white space on. -/
theorem reported_eq (hpast : past_token bot_token = past_token bot_token')
    {pieces : List (List Char)} (h : Apart [] pieces) :
    reported http bot_token method pieces = reported http bot_token' method pieces := by
  obtain ⟨token, htoken, hends, hurl⟩ := request_url_parts http bot_token method
  obtain ⟨token', htoken', _, hurl'⟩ := request_url_parts http bot_token' method
  rw [← hpast] at hurl'
  have htext := mentions_alike (fun _ hword => mention_alike hword htoken htoken' hends) pieces
    (.inl ⟨rfl, rfl⟩) h
  unfold reported telegram_network_error_message
  rw [String.toList_ofList, String.toList_ofList, hurl, hurl', shown_request htoken,
    shown_request htoken', redact_urls_wordwise, redact_urls_wordwise, htext]

/-! ### What the message tells -/

theorem reported_toList (bot_token : String) (method : BotMethod) (pieces : List (List Char)) :
    (reported http bot_token method pieces).toList =
      ("telegram ".toList ++ redact_telegram_url (request_url http bot_token method).toList ++
        " failed: ".toList) ++ Text.wordwise (redact_word redact_telegram_url) []
          (mentions (request_url http bot_token method).toList pieces) := by
  unfold reported telegram_network_error_message
  rw [redact_urls_wordwise]
  simp only [String.toList_append, String.toList_ofList]

/-- Two texts on both sides of a mark are told apart by two marks. -/
theorem parts_of_marks {c d : Char} (hne : c ≠ d) {a a' b b' : List Char}
    (hc : a ++ c :: b = a' ++ c :: b') (hd : a ++ d :: b = a' ++ d :: b') : a = a' ∧ b = b' := by
  induction a generalizing a' with
  | nil =>
    cases a' with
    | nil => exact ⟨rfl, (List.cons.inj hc).2⟩
    | cons e a' => exact absurd ((List.cons.inj hc).1.trans (List.cons.inj hd).1.symm) hne
  | cons e a ih =>
    cases a' with
    | nil => exact absurd ((List.cons.inj hc).1.symm.trans (List.cons.inj hd).1) hne
    | cons e' a' =>
      obtain ⟨hhead, htailc⟩ := List.cons.inj hc
      obtain ⟨_, htaild⟩ := List.cons.inj hd
      obtain ⟨hsame, hb⟩ := ih htailc htaild
      exact ⟨by rw [hhead, hsame], hb⟩

/-- Up to its first slash a word is shown. -/
theorem word_to_slash {word : List Char} (h : '/' ∉ word) (rest : List Char) :
    ∃ more, redact_word redact_telegram_url (word ++ '/' :: rest) = word ++ '/' :: more := by
  induction word with
  | nil =>
    have hbegins : ¬ begins_url ('/' :: rest) = true := by
      intro hbegins
      obtain ⟨scheme, hscheme, hstarts⟩ := begins_url_iff.mp hbegins
      have hhead : ∀ scheme ∈ url_schemes, scheme.head? = some 'h' := by decide
      have hsome := hhead scheme hscheme
      cases scheme with
      | nil => exact nomatch hsome
      | cons d scheme =>
        obtain rfl := Option.some.inj hsome
        exact absurd (List.cons_prefix_cons.mp hstarts).1 (by decide)
    exact ⟨redact_word redact_telegram_url rest, if_neg hbegins⟩
  | cons c word ih =>
    by_cases hbegins : begins_url (c :: (word ++ '/' :: rest)) = true
    · rw [List.cons_append, redact_word, if_pos hbegins]
      cases hfind : Text.find bot_path (c :: (word ++ '/' :: rest)) with
      | none => exact ⟨rest, shown_none hfind⟩
      | some k =>
        have hshown := shown_some hfind []
        rw [List.append_nil] at hshown
        -- the bot begins with a slash, so no slash stands before it
        have hafter : word.length + 1 ≤ k := by
          by_contra hshort
          obtain ⟨tail, htail⟩ := Text.find_drop bot_path_ne hfind
          have hslash : (c :: word)[k]? = some '/' := by
            have hhead := congrArg List.head? htail
            rw [List.head?_drop, ← List.cons_append,
              List.getElem?_append_left (by rw [List.length_cons]; omega)] at hhead
            exact hhead.symm
          exact h (List.mem_of_getElem? hslash)
        have hstart : c :: word ++ ['/'] <+: (c :: (word ++ '/' :: rest)).take (k + 4) := by
          refine List.prefix_of_prefix_length_le ⟨rest, by simp⟩ (List.take_prefix _ _) ?_
          have hfits := (Text.find_append bot_path_ne hfind []).2
          have hpath : bot_path.length = 4 := by decide
          rw [List.length_take, List.length_append, List.length_cons, List.length_singleton]
          omega
        obtain ⟨more, hmore⟩ := hstart
        rw [hshown, ← hmore]
        exact ⟨_, by simp only [List.append_assoc, List.cons_append, List.nil_append]; rfl⟩
    · obtain ⟨more, hmore⟩ := ih fun hmem => h (List.mem_cons_of_mem c hmem)
      refine ⟨more, ?_⟩
      rw [List.cons_append, redact_word, if_neg hbegins, hmore]
      rfl

theorem word_without_slash {word : List Char} (h : '/' ∉ word) :
    redact_word redact_telegram_url word = word := by
  refine unnamed_shown ?_
  by_contra hnamed
  have hslash : ∀ word, bot_named word = true → '/' ∈ word := by
    intro word hnamed
    induction word with
    | nil => exact nomatch hnamed
    | cons c word ih =>
      by_cases hbegins : begins_url (c :: word) = true
      · rw [bot_named, if_pos hbegins] at hnamed
        obtain ⟨k, hk⟩ := Option.isSome_iff_exists.mp hnamed
        have hmem : '/' ∈ (c :: word).drop k :=
          (Text.find_drop bot_path_ne hk).subset (by decide)
        exact List.mem_of_mem_drop hmem
      · rw [bot_named, if_neg hbegins] at hnamed
        exact List.mem_cons_of_mem c (ih hnamed)
  exact h (hslash word (by simpa using hnamed))

/-- Up to its first slash a text is shown. -/
theorem text_to_slash {seen text : List Char} (hseen : '/' ∉ seen) (h : '/' ∉ text)
    (rest : List Char) :
    ∃ more, Text.wordwise (redact_word redact_telegram_url) seen (text ++ '/' :: rest) =
      seen ++ text ++ '/' :: more := by
  induction text generalizing seen with
  | nil =>
    obtain ⟨first, tail, hfirst⟩ := Text.wordwise_first (redact_word redact_telegram_url) rest
    obtain ⟨more, hmore⟩ := word_to_slash hseen first
    refine ⟨more ++ tail, ?_⟩
    rw [List.nil_append, Text.wordwise_letter (by decide), hfirst, List.append_assoc seen,
      List.singleton_append, hmore]
    simp
  | cons c text ih =>
    have hc : c ≠ '/' := fun heq => h (heq ▸ List.mem_cons_self ..)
    have htext : '/' ∉ text := fun hmem => h (List.mem_cons_of_mem c hmem)
    by_cases hspace : Text.isWhitespace c = true
    · obtain ⟨more, hmore⟩ := ih List.not_mem_nil htext
      refine ⟨more, ?_⟩
      rw [List.cons_append, Text.wordwise_space hspace, hmore, word_without_slash hseen]
      simp
    · have hnext : '/' ∉ seen ++ [c] := by
        simp only [List.mem_append, List.mem_singleton, not_or]
        exact ⟨hseen, fun heq => hc heq.symm⟩
      obtain ⟨more, hmore⟩ := ih hnext htext
      refine ⟨more, ?_⟩
      rw [List.cons_append, Text.wordwise_letter (by simpa using hspace), hmore]
      simp

/-- Behind the hidden token the text is shown up to the next slash. -/
theorem past_shown {token past : List Char} (h : ∀ c ∈ token, in_token c = true)
    (hpast : '/' ∉ past) (hends : past = [] ∨ EndsToken past) (rest : List Char) :
    ∃ more, Text.wordwise (redact_word redact_telegram_url) []
      (bot_start ++ (token ++ (past ++ '/' :: rest))) =
        bot_start ++ "<redacted>".toList ++ (past ++ '/' :: more) := by
  have hnil : bot_named [] = false := rfl
  rw [← List.append_assoc bot_start, Text.wordwise_word (mention_letters h), List.nil_append]
  rcases hends with rfl | ⟨c, past, rfl, hc⟩
  · obtain ⟨first, tail, hfirst⟩ := Text.wordwise_first (redact_word redact_telegram_url) rest
    have hshown := token_hidden_slash hnil h first
    refine ⟨first ++ tail, ?_⟩
    rw [List.nil_append] at hshown ⊢
    rw [Text.wordwise_letter (by decide), hfirst, List.append_assoc _ ['/'],
      List.singleton_append, hshown]
    simp
  · have hslash : c ≠ '/' := fun heq => hpast (heq ▸ List.mem_cons_self ..)
    have hspace := (not_in_token hc).resolve_left hslash
    obtain ⟨more, hmore⟩ := text_to_slash List.not_mem_nil
      (fun hmem => hpast (List.mem_cons_of_mem c hmem)) rest
    have hshown := token_hidden hnil h
    refine ⟨more, ?_⟩
    rw [List.nil_append] at hshown
    rw [List.cons_append, Text.wordwise_space hspace, hshown, hmore]
    simp

/-- A text in which a token may end, at its first slash. -/
theorem slash_parts {text : List Char} (hends : EndsToken text) (h : '/' ∈ text) :
    ∃ before rest, text = before ++ '/' :: rest ∧ '/' ∉ before ∧
      (before = [] ∨ EndsToken before) ∧ text.dropWhile (· != '/') = '/' :: rest := by
  obtain ⟨before, rest, rfl, hbefore⟩ := List.eq_append_cons_of_mem h
  refine ⟨before, rest, rfl, hbefore, ?_, Text.dropWhile_until hbefore rest⟩
  cases before with
  | nil => exact .inl rfl
  | cons c before =>
    obtain ⟨d, tail, heq, hd⟩ := hends
    obtain ⟨rfl, _⟩ := List.cons.inj heq
    exact .inr ⟨c, before, rfl, hd⟩

theorem space_apart (c : Char) (h : Text.isWhitespace c = true) : Apart [] [[c], []] := by
  have hword : Text.last_word [] [c] = [] := if_pos h
  refine ⟨?_, trivial⟩
  rw [hword]
  rfl

/-- Tokens that always leave the same messages are the same from their first slash or white space
on. -/
theorem past_of_reported (h : ∀ pieces, Apart [] pieces →
    reported http bot_token .sendMessage pieces = reported http bot_token' .sendMessage pieces) :
    past_token bot_token = past_token bot_token' := by
  obtain ⟨token, htoken, hends, hurl⟩ := request_url_parts http bot_token .sendMessage
  obtain ⟨token', htoken', hends', hurl'⟩ := request_url_parts http bot_token' .sendMessage
  have hspaced : ∀ c : Char, Text.isWhitespace c = true → ∀ url : List Char,
      Text.wordwise (redact_word redact_telegram_url) [] (mentions url [[c], []]) =
        c :: Text.wordwise (redact_word redact_telegram_url) [] url := by
    intro c hc url
    have htext : mentions url [[c], []] = c :: (url ++ []) := rfl
    rw [htext, List.append_nil, Text.wordwise_space hc]
    rfl
  have hparts : ∀ c : Char, Text.isWhitespace c = true →
      ("telegram ".toList ++ redact_telegram_url (request_url http bot_token .sendMessage).toList ++
        " failed: ".toList) ++ c :: Text.wordwise (redact_word redact_telegram_url) []
          (request_url http bot_token .sendMessage).toList =
      ("telegram ".toList ++ redact_telegram_url (request_url http bot_token' .sendMessage).toList ++
        " failed: ".toList) ++ c :: Text.wordwise (redact_word redact_telegram_url) []
          (request_url http bot_token' .sendMessage).toList := by
    intro c hc
    have hreported := congrArg String.toList (h [[c], []] (space_apart c hc))
    rwa [reported_toList, reported_toList, hspaced c hc, hspaced c hc] at hreported
  obtain ⟨hshown, htext⟩ := parts_of_marks (by decide : '\n' ≠ '\t')
    (hparts '\n' (by decide)) (hparts '\t' (by decide))
  have hurls := List.append_cancel_left (List.append_cancel_right hshown)
  rw [hurl, hurl', shown_request htoken, shown_request htoken'] at hurls
  have hslash := List.append_cancel_left hurls
  obtain ⟨before, rest, hparts, hbefore, hcase, hdrop⟩ := slash_parts hends
    (List.mem_append_right _ (List.mem_cons_self ..))
  obtain ⟨before', rest', hparts', hbefore', hcase', hdrop'⟩ := slash_parts hends'
    (List.mem_append_right _ (List.mem_cons_self ..))
  obtain ⟨more, hmore⟩ := past_shown htoken hbefore hcase rest
  obtain ⟨more', hmore'⟩ := past_shown htoken' hbefore' hcase' rest'
  rw [hurl, hurl', hparts, hparts', hmore, hmore'] at htext
  -- what stands before the first slash is shown in the text, and what follows it in the URL
  have hpast := List.append_cancel_left htext
  have hsame : before = before' := by
    rw [← Text.takeWhile_until hbefore more, hpast, Text.takeWhile_until hbefore' more']
  rw [hdrop, hdrop'] at hslash
  rw [← hslash, ← hsame, ← hparts] at hparts'
  exact (List.append_cancel_right hparts').symm

/-- A text whose mentions are not apart tells short tokens apart. -/
theorem apart_of_reported {pieces : List (List Char)}
    (h : reported http "1" .sendMessage pieces = reported http "2" .sendMessage pieces) :
    Apart [] pieces := by
  by_contra hglued
  have hone : in_token '1' = true := by decide
  have htwo : in_token '2' = true := by decide
  obtain ⟨out, rest, rest', hrest, hrest'⟩ :=
    @mentions_differ [] [] [] '1' '2' hone htwo pieces (.inl ⟨rfl, rfl⟩) (fun _ => rfl) hglued
  have hurl : ∀ (token : String) (c : Char), token.toList = [c] →
      (request_url http token .sendMessage).toList = short_url c := by
    intro token c htoken
    rw [request_url_toList, htoken]
    rfl
  have hshown : redact_telegram_url (short_url '1') = redact_telegram_url (short_url '2') := by
    decide
  have hreported := congrArg String.toList h
  rw [reported_toList, reported_toList, hurl "1" '1' rfl, hurl "2" '2' rfl, hshown] at hreported
  have htext := List.append_cancel_left hreported
  rw [hrest, hrest'] at htext
  exact absurd (List.cons.inj (List.append_cancel_left htext)).1 (by decide)

end Messages

/-- A token without a slash or white space in it. -/
def PlainToken (bot_token : String) : Prop :=
  AcceptedToken bot_token ∧ past_token bot_token = []

/-- Whatever the method and the error, messages do not tell two tokens apart exactly if these are the
same from their first slash or white space on. A text never tells plain tokens apart exactly if no
mention of the URL in it stands behind a bot in a URL of the same word. -/
theorem token_not_reported {Client : Type} (http : Http Client) :
    (∀ bot_token bot_token', AcceptedToken bot_token → AcceptedToken bot_token' →
      ((∀ method pieces, Apart [] pieces →
        reported http bot_token method pieces = reported http bot_token' method pieces) ↔
          past_token bot_token = past_token bot_token')) ∧
    ∀ pieces, (∀ bot_token bot_token' method, PlainToken bot_token → PlainToken bot_token' →
      reported http bot_token method pieces = reported http bot_token' method pieces) ↔
        Apart [] pieces := by
  constructor
  · intro bot_token bot_token' _ _
    constructor
    · exact fun h => past_of_reported http fun pieces => h .sendMessage pieces
    · exact fun hpast method pieces hapart => reported_eq http hpast hapart
  · intro pieces
    constructor
    · intro h
      have hplain : ∀ token : String, token.toList.all in_token = true → token.toList ≠ [] →
          PlainToken token := by
        intro token hall hne
        have hletters : ∀ c ∈ token.toList, in_token c = true := List.all_eq_true.mp hall
        refine ⟨⟨Text.trim_of_no_space fun c hc => (in_token_letter (hletters c hc)).2, ?_⟩,
          List.dropWhile_eq_nil_iff.mpr hletters⟩
        rintro rfl
        exact hne rfl
      exact apart_of_reported http (h "1" "2" .sendMessage
        (hplain "1" (by decide) (by decide)) (hplain "2" (by decide) (by decide)))
    · exact fun hapart bot_token bot_token' method hplain hplain' =>
        reported_eq http (hplain.2.trans hplain'.2.symm) hapart

/-- No HTTP library at hand: the messages do not depend on it. -/
def no_http : Http Unit where
  direct_client := ()
  proxy_client _ := .ok ()
  post _ _ _ := .error "no route"

/-- A slash ends the token in the URL, and what follows it is shown. -/
theorem token_reported : AcceptedToken "123:abc/def" ∧ AcceptedToken "123:abc/xyz" ∧
    reported no_http "123:abc/def" .sendMessage ["for url (".toList, ")".toList] =
      "telegram https://api.telegram.org/bot<redacted>/def/sendMessage failed: " ++
        "for url (https://api.telegram.org/bot<redacted>/def/sendMessage)" ∧
    reported no_http "123:abc/def" .sendMessage ["for url (".toList, ")".toList] ≠
      reported no_http "123:abc/xyz" .sendMessage ["for url (".toList, ")".toList] := by
  refine ⟨⟨?_, ?_⟩, ⟨?_, ?_⟩, ?_, ?_⟩ <;> decide +kernel

end CoinListener.Notifier
