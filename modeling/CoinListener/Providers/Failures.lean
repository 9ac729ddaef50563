import CoinListener.Core.Common
import CoinListener.Foundation.Replace
import Mathlib.Data.List.Infix
import Mathlib.Data.List.Sort

/-! What the clients say about a request that fails, and whether it names the provider's URL. -/
namespace CoinListener.Providers
open Foundation

/-! ### What the clients are answered -/

/-- A status code with the reason the library knows for it. -/
structure StatusCode where
  code : Nat
  reason : String
deriving DecidableEq

def StatusCode.to_string (status : StatusCode) : String :=
  toString status.code ++ " " ++ status.reason

def StatusCode.is_success (status : StatusCode) : Bool :=
  200 ≤ status.code && status.code < 300

/-- No answer at all, or a status with the body or with what went wrong in reading it. The error is
told without the URL, what caused it as it is. -/
inductive Sent where
  | failed (error : String) (sources : List String)
  | response (status : StatusCode) (body : Except String String)

/-! ### EVM -/

namespace Evm

def redact_rpc_url (value base_url : String) : String :=
  Text.replace base_url "[redacted rpc url]" value

/-- The causes that say more than the error itself. -/
def request_error_details (base_url error : String) (sources : List String) : List String :=
  (sources.map fun source => redact_rpc_url source base_url).filter fun source =>
    !source.isEmpty && source != redact_rpc_url error base_url

def format_rpc_request_error_with_sources (method base_url error : String) (sources : List String) :
    String :=
  let details := request_error_details base_url error sources
  let error := redact_rpc_url error base_url
  if details.isEmpty then "evm rpc " ++ method ++ " request failed: " ++ error
  else "evm rpc " ++ method ++ " request failed: " ++ error ++ "; caused by: " ++
    String.intercalate ": " details

def format_rpc_body_error (method error : String) : String :=
  "evm rpc " ++ method ++ " response body failed: " ++ error

def format_rpc_status_error (method : String) (status : StatusCode) (body : String) : String :=
  "evm rpc " ++ method ++ " returned http " ++ status.to_string ++ ": " ++ body

def rpc_result_body (method base_url : String) : Sent → AppResult String
  | .failed error sources =>
    .error (.Config (format_rpc_request_error_with_sources method base_url error sources))
  | .response _ (.error error) => .error (.Config (format_rpc_body_error method error))
  | .response status (.ok body) =>
    if !status.is_success then .error (.Config (format_rpc_status_error method status body))
    else .ok body

end Evm

/-! ### TRON and BTC -/

/-- `Vec::dedup`. -/
def dedup : List String → List String
  | a :: b :: rest => if a = b then dedup (b :: rest) else a :: dedup (b :: rest)
  | rest => rest

/-- The spellings of the URL that are looked for, the longest first. -/
def redact_candidates (base_url : String) : List String :=
  let without_trailing_slash := Text.trimEndMatches '/' base_url
  let with_trailing_slash := without_trailing_slash ++ "/"
  dedup ([base_url, with_trailing_slash, without_trailing_slash].insertionSort fun a b =>
    Text.byteLength b.toList ≤ Text.byteLength a.toList)

def redact_candidate (redacted candidate : String) : String :=
  if !candidate.isEmpty then Text.replace candidate "[redacted provider url]" redacted
  else redacted

def redact_provider_url (error base_url : String) : String :=
  let base_url := Text.trim base_url
  if base_url.isEmpty then error
  else (redact_candidates base_url).foldl redact_candidate error

/-- The two clients differ in the name they give. -/
def format_request_error (name operation base_url error : String) : String :=
  name ++ " " ++ operation ++ " request failed: " ++ redact_provider_url error base_url

def format_status_error (name operation base_url : String) (status : StatusCode) (body : String) :
    String :=
  name ++ " " ++ operation ++ " returned http " ++ status.to_string ++ ": " ++
    redact_provider_url body base_url

/-- The body, not parsed yet. -/
def receive_body (name operation : String) (request_error : String → String)
    (status_error : StatusCode → String → String) : Sent → AppResult String
  | .failed error _ => .error (.Config (request_error error))
  | .response _ (.error error) =>
    .error (.Config (name ++ " " ++ operation ++ " response body failed: " ++ error))
  | .response status (.ok body) =>
    if !status.is_success then .error (.Config (status_error status body)) else .ok body

namespace Tron

def format_tron_request_error (operation base_url error : String) : String :=
  format_request_error "TRON" operation base_url error

def format_tron_status_error (operation base_url : String) (status : StatusCode) (body : String) :
    String :=
  format_status_error "TRON" operation base_url status body

def get_json_body (operation base_url : String) : Sent → AppResult String :=
  receive_body "TRON" operation (format_tron_request_error operation base_url)
    (format_tron_status_error operation base_url)

end Tron

namespace Btc

def format_btc_request_error (operation base_url error : String) : String :=
  format_request_error "BTC" operation base_url error

def format_btc_status_error (operation base_url : String) (status : StatusCode) (body : String) :
    String :=
  format_status_error "BTC" operation base_url status body

/-- The tip height is asked for in the same way. -/
def get_json_body (operation base_url : String) : Sent → AppResult String :=
  receive_body "BTC" operation (format_btc_request_error operation base_url)
    (format_btc_status_error operation base_url)

end Btc

/-! ### The three clients -/

inductive Client where
  | evm
  | tron
  | btc
deriving DecidableEq

/-- What a client asks for, as its errors name it. -/
def Client.operations : Client → List String
  | .evm =>
    ["eth_blockNumber", "eth_getBalance", "eth_getLogs", "eth_getTransactionByHash",
      "eth_getTransactionReceipt"]
  | .tron => ["connectivity probe", "account transactions", "TRC20 transfers"]
  | .btc => ["tip height", "address balance", "address transactions"]

def Client.receive : Client → (operation base_url : String) → Sent → AppResult String
  | .evm, operation, base_url, sent => Evm.rpc_result_body operation base_url sent
  | .tron, operation, base_url, sent => Tron.get_json_body operation base_url sent
  | .btc, operation, base_url, sent => Btc.get_json_body operation base_url sent

/-! ### Texts that hide a URL -/

def HttpUrl (base_url : String) : Prop :=
  "http://".toList <+: base_url.toList ∨ "https://".toList <+: base_url.toList

/-- The text contains neither the URL nor the URL without its trailing slashes. -/
def Hides (base_url text : String) : Prop :=
  ¬ base_url.toList <:+: text.toList ∧
    ¬ (Text.trimEndMatches '/' base_url).toList <:+: text.toList

/-- The beginning of a URL does not occur in the text. -/
def Schemeless (text : List Char) : Prop :=
  ¬ "http:".toList <:+: text ∧ ¬ "https".toList <:+: text

/-- It begins as a URL does, and a marker does not occur in it. -/
structure UrlWord (word : List Char) : Prop where
  scheme : "http:".toList <+: word ∨ "https".toList <+: word
  no_bracket : '[' ∉ word

/-- What a URL is replaced by. -/
structure Marker (marker : String) : Prop where
  bracket : marker.toList.head? = some '['
  no_scheme : 'h' ∉ marker.toList

section Words
variable {word text : List Char} {base_url error pattern marker : String}

theorem trimEndMatches_initial (c : Char) (text : String) :
    (Text.trimEndMatches c text).toList <+: text.toList := by
  rw [Text.trimEndMatches, String.toList_ofList]
  exact List.rdropWhile_prefix _ _

/-- Where the shorter spelling does not occur, neither spelling does. -/
theorem hides_iff {text : String} : Hides base_url text ↔
    ¬ (Text.trimEndMatches '/' base_url).toList <:+: text.toList := by
  constructor
  · exact And.right
  · intro h
    exact ⟨fun hbase => h ((trimEndMatches_initial '/' base_url).isInfix.trans hbase), h⟩

namespace UrlWord

theorem head (h : UrlWord word) : word.head? = some 'h' := by
  rcases h.scheme with ⟨rest, rfl⟩ | ⟨rest, rfl⟩ <;> rfl

theorem ne_nil (h : UrlWord word) : word ≠ [] := by
  rintro rfl
  exact nomatch h.head

theorem of_url (hurl : HttpUrl base_url) (hplain : '[' ∉ base_url.toList) :
    UrlWord base_url.toList := by
  refine ⟨?_, hplain⟩
  rcases hurl with h | h
  · exact Or.inl (List.IsPrefix.trans (by decide) h)
  · exact Or.inr (List.IsPrefix.trans (by decide) h)

/-- The scheme is not cut off at the end. -/
theorem cut {p : Char → Bool} (h : UrlWord word) (hcolon : p ':' = false) (hs : p 's' = false) :
    UrlWord (word.rdropWhile p) := by
  refine ⟨?_, fun hmem => h.no_bracket ((List.rdropWhile_prefix p word).subset hmem)⟩
  rcases h.scheme with hstart | hstart
  · left
    refine Replace.prefix_rdropWhile hstart fun _ hlast => ?_
    exact nomatch hcolon.symm.trans hlast
  · right
    refine Replace.prefix_rdropWhile hstart fun _ hlast => ?_
    exact nomatch hs.symm.trans hlast

theorem of_trimmed (hurl : HttpUrl base_url) (hplain : '[' ∉ base_url.toList) :
    UrlWord (Text.trimEndMatches '/' base_url).toList := by
  rw [Text.trimEndMatches, String.toList_ofList]
  exact (of_url hurl hplain).cut rfl rfl

/-- It is not found before a blank in a text without a scheme. -/
theorem after_blank {before : List Char} (h : UrlWord word) (hbefore : Schemeless before)
    (hword : word <:+: before ++ ' ' :: text) : word <:+: text := by
  rcases h.scheme with hstart | hstart
  · exact Replace.infix_of_part hstart (by decide) (by decide) hbefore.1 hword
  · exact Replace.infix_of_part hstart (by decide) (by decide) hbefore.2 hword

/-- In a redacted text it is found only outside the occurrences of the pattern. -/
theorem replace_iff {text : String} (h : UrlWord word) (hmarker : Marker marker)
    (hpattern : pattern.toList ≠ []) :
    word <:+: (Text.replace pattern marker text).toList ↔
      word.map some <:+: Replace.holes pattern.toList 0 text.toList := by
  rw [Text.replace, String.toList_ofList, Replace.replace, if_neg hpattern]
  exact Replace.infix_fill_iff h.no_bracket hmarker.bracket h.head hmarker.no_scheme

end UrlWord

/-! ### What TRON and BTC redact -/

theorem mem_dedup {text : String} {texts : List String} (h : text ∈ texts) : text ∈ dedup texts := by
  induction texts using dedup.induct with
  | case1 a rest ih =>
    rw [dedup, if_pos rfl]
    rcases List.mem_cons.mp h with rfl | hrest
    · exact ih (List.mem_cons_self ..)
    · exact ih hrest
  | case2 a b rest hne ih =>
    rw [dedup, if_neg hne]
    rcases List.mem_cons.mp h with rfl | hrest
    · exact List.mem_cons_self ..
    · exact List.mem_cons_of_mem _ (ih hrest)
  | case3 texts hshort =>
    rw [dedup]
    · exact h
    · exact hshort

theorem mem_redact_candidates (base_url : String) :
    Text.trimEndMatches '/' base_url ∈ redact_candidates base_url := by
  refine mem_dedup ((List.perm_insertionSort _ _).mem_iff.mpr ?_)
  simp

theorem marker_provider_url : Marker "[redacted provider url]" :=
  ⟨by decide, by decide⟩

/-- What is redacted stays so while other spellings are looked for. -/
theorem redact_fold_hides {word : String} (hword : UrlWord word.toList) (candidates : List String)
    (text : String) (h : word ∈ candidates ∨ ¬ word.toList <:+: text.toList) :
    ¬ word.toList <:+: (candidates.foldl redact_candidate text).toList := by
  induction candidates generalizing text with
  | nil =>
    rcases h with hmem | hgone
    · exact absurd hmem List.not_mem_nil
    · exact hgone
  | cons candidate candidates ih =>
    refine ih (redact_candidate text candidate) ?_
    by_cases hempty : candidate.isEmpty
    · have hsame : redact_candidate text candidate = text := by simp [redact_candidate, hempty]
      rw [hsame]
      rcases h with hmem | hgone
      · rcases List.mem_cons.mp hmem with rfl | hmem
        · rw [String.isEmpty_iff.mp hempty] at hword
          exact absurd rfl hword.ne_nil
        · exact Or.inl hmem
      · exact Or.inr hgone
    · have hreplaced : redact_candidate text candidate =
          Text.replace candidate "[redacted provider url]" text := by
        simp [redact_candidate, hempty]
      have hpattern : candidate.toList ≠ [] := by
        intro hnil
        exact hempty (String.isEmpty_iff.mpr (String.toList_eq_nil_iff.mp hnil))
      rw [hreplaced, hword.replace_iff marker_provider_url hpattern]
      rcases h with hmem | hgone
      · rcases List.mem_cons.mp hmem with rfl | hmem
        · exact Or.inr (Replace.not_infix_holes hpattern 0 text.toList)
        · exact Or.inl hmem
      · exact Or.inr fun hholes => hgone (Replace.infix_of_holes hword.ne_nil hholes)

/-- A URL begins with no whitespace. -/
theorem trimStart_url (hurl : HttpUrl base_url) : Text.trimStart base_url.toList = base_url.toList := by
  rcases hurl with ⟨rest, h⟩ | ⟨rest, h⟩ <;> rw [← h] <;> rfl

theorem trim_url (hurl : HttpUrl base_url) :
    (Text.trim base_url).toList = base_url.toList.rdropWhile Text.isWhitespace := by
  rw [Text.trim, String.toList_ofList, trimStart_url hurl]
  rfl

theorem redact_provider_url_hides (hurl : HttpUrl base_url) (hplain : '[' ∉ base_url.toList) :
    ¬ (Text.trimEndMatches '/' base_url).toList <:+:
      (redact_provider_url error base_url).toList := by
  have htrimmed : (Text.trimEndMatches '/' (Text.trim base_url)).toList =
      (base_url.toList.rdropWhile Text.isWhitespace).rdropWhile (· == '/') := by
    rw [Text.trimEndMatches, String.toList_ofList, trim_url hurl]
    rfl
  have hword : UrlWord (Text.trimEndMatches '/' (Text.trim base_url)).toList := by
    rw [htrimmed]
    exact ((UrlWord.of_url hurl hplain).cut rfl rfl).cut rfl rfl
  have hbegins : (Text.trimEndMatches '/' (Text.trim base_url)).toList <+:
      (Text.trimEndMatches '/' base_url).toList := by
    rw [htrimmed, Text.trimEndMatches, String.toList_ofList]
    exact Replace.rdropWhile_mono (List.rdropWhile_prefix _ _)
  have hsome : (Text.trim base_url).isEmpty = false := by
    rw [← Bool.not_eq_true, String.isEmpty_iff]
    intro hempty
    have hnil := trim_url hurl
    rw [hempty] at hnil
    exact ((UrlWord.of_url hurl hplain).cut rfl rfl).ne_nil hnil.symm
  rw [redact_provider_url]
  simp only [hsome, Bool.false_eq_true, if_false]
  intro hshown
  exact redact_fold_hides hword _ error (Or.inl (mem_redact_candidates _))
    (hbegins.isInfix.trans hshown)

/-! ### What EVM redacts -/

namespace Evm

/-- The causes that are told. -/
def told_sources (base_url error : String) (sources : List String) : List String :=
  sources.filter fun source =>
    !(redact_rpc_url source base_url).isEmpty &&
      redact_rpc_url source base_url != redact_rpc_url error base_url

/-- What is told of a failed request, without the places where the whole URL stood. -/
def exposed_text (base_url error : String) (sources : List String) : List (Option Char) :=
  let holes := fun text : String => Replace.holes base_url.toList 0 text.toList
  let told := told_sources base_url error sources
  if told.isEmpty then holes error
  else holes error ++ "; caused by: ".toList.map some ++
    (": ".toList.map some).intercalate (told.map holes)

theorem marker_rpc_url : Marker "[redacted rpc url]" :=
  ⟨by decide, by decide⟩

theorem request_error_details_eq (base_url error : String) (sources : List String) :
    request_error_details base_url error sources =
      (told_sources base_url error sources).map fun source => redact_rpc_url source base_url := by
  rw [request_error_details, List.filter_map]
  rfl

/-- With the holes filled it is what the message says. -/
theorem request_error_text (hbase : base_url.toList ≠ []) (method error : String)
    (sources : List String) :
    (format_rpc_request_error_with_sources method base_url error sources).toList =
      "evm rpc".toList ++ ' ' :: (method.toList ++ ' ' :: ("request failed:".toList ++ ' ' ::
        Replace.fill "[redacted rpc url]".toList (exposed_text base_url error sources))) := by
  have hredacted : ∀ text, (redact_rpc_url text base_url).toList =
      Replace.fill "[redacted rpc url]".toList
        (Replace.holes base_url.toList 0 text.toList) := by
    intro text
    rw [redact_rpc_url, Text.replace, String.toList_ofList, Replace.replace, if_neg hbase]
  rw [format_rpc_request_error_with_sources, request_error_details_eq, exposed_text]
  cases htold : told_sources base_url error sources with
  | nil => simp [hredacted]
  | cons source rest =>
    have hcauses : (String.intercalate ": " ((source :: rest).map fun source =>
        redact_rpc_url source base_url)).toList =
          Replace.fill "[redacted rpc url]".toList ((": ".toList.map some).intercalate
            ((source :: rest).map fun text => Replace.holes base_url.toList 0 text.toList)) := by
      rw [String.toList_intercalate, Replace.fill_intercalate, List.map_map, List.map_map]
      exact congrArg _ (List.map_congr_left fun source _ => hredacted source)
    have hdetails : ((source :: rest).map fun source =>
        redact_rpc_url source base_url).isEmpty = false := rfl
    simp only [hdetails, List.isEmpty_cons, Bool.false_eq_true, if_false, String.toList_append,
      Replace.fill_append, Replace.fill_some, hredacted, hcauses]
    simp

end Evm

/-! ### Messages as they are stored -/

instance (text : List Char) : Decidable (Schemeless text) :=
  inferInstanceAs (Decidable (_ ∧ _))

theorem operations_schemeless {client : Client} {operation : String}
    (h : operation ∈ client.operations) : Schemeless operation.toList := by
  have hall : ∀ operation ∈ client.operations, Schemeless operation.toList := by
    cases client <;> decide
  exact hall operation h

/-- Nothing of a URL is in what comes before a reported text. -/
theorem UrlWord.reported_iff {operation : List Char} (name phrase : List Char) (h : UrlWord word)
    (hname : Schemeless name) (hoperation : Schemeless operation) (hphrase : Schemeless phrase) :
    word <:+: "configuration error:".toList ++ ' ' :: (name ++ ' ' :: (operation ++ ' ' ::
      (phrase ++ ' ' :: text))) ↔ word <:+: text := by
  constructor
  · intro hshown
    have hmessage := h.after_blank (by decide) hshown
    exact h.after_blank hphrase (h.after_blank hoperation (h.after_blank hname hmessage))
  · intro hshown
    have hsuffix : ∀ before : List Char, ∀ rest, word <:+: rest → word <:+: before ++ ' ' :: rest :=
      fun before rest hrest =>
        (List.infix_cons hrest).trans (List.suffix_append before _).isInfix
    exact hsuffix _ _ (hsuffix _ _ (hsuffix _ _ (hsuffix _ _ hshown)))

/-- Nor in a status. -/
theorem UrlWord.status_iff {status : List Char} (h : UrlWord word)
    (hstatus : ¬ "http".toList <:+: status) :
    word <:+: status ++ ':' :: ' ' :: text ↔ word <:+: text := by
  constructor
  · intro hshown
    have hstart : "http".toList <+: word := by
      rcases h.scheme with hscheme | hscheme
      · exact List.IsPrefix.trans (by decide) hscheme
      · exact List.IsPrefix.trans (by decide) hscheme
    have hblank := Replace.infix_of_part hstart (by decide) (by decide) hstatus hshown
    exact h.after_blank (by decide : Schemeless []) hblank
  · intro hshown
    exact (List.infix_cons (List.infix_cons hshown)).trans (List.suffix_append status _).isInfix

/-! ### When the URL is hidden -/

/-- The request was not answered, or with a status other than success. -/
def Sent.Fails : Sent → Prop
  | .failed .. => True
  | .response status (.ok _) => status.is_success = false
  | .response _ (.error _) => False

/-- EVM keeps the body of an answer as it is, and in an error hides only the whole URL. -/
def Client.Unexposed : Client → String → Sent → Prop
  | .evm, base_url, .failed error sources =>
    ¬ (Text.trimEndMatches '/' base_url).toList.map some <:+:
      Evm.exposed_text base_url error sources
  | .evm, base_url, .response _ (.ok body) =>
    ¬ (Text.trimEndMatches '/' base_url).toList <:+: body.toList
  | _, _, _ => True

theorem config_text (message : String) :
    (AppError.Config message).to_string.toList =
      "configuration error:".toList ++ ' ' :: message.toList := by
  have hlabel : "configuration error: ".toList = "configuration error:".toList ++ [' '] := by decide
  have happend : (AppError.Config message).to_string.toList =
      "configuration error: ".toList ++ message.toList := String.toList_append
  exact happend.trans ((congrArg (· ++ message.toList) hlabel).trans (List.append_assoc ..))

/-- The body of an answer is shown as it is reported. -/
theorem UrlWord.status_error_iff {operation : String} {status : StatusCode} (h : UrlWord word)
    (name reported : String) (hname : Schemeless name.toList)
    (hoperation : Schemeless operation.toList) (hstatus : ¬ "http".toList <:+: status.to_string.toList) :
    word <:+: (AppError.Config (name ++ " " ++ operation ++ " returned http " ++ status.to_string ++
      ": " ++ reported)).to_string.toList ↔ word <:+: reported.toList := by
  have htext : (name ++ " " ++ operation ++ " returned http " ++ status.to_string ++ ": " ++
      reported).toList = name.toList ++ ' ' :: (operation.toList ++ ' ' :: ("returned http".toList ++
        ' ' :: (status.to_string.toList ++ ':' :: ' ' :: reported.toList))) := by simp
  rw [config_text, htext, h.reported_iff _ _ hname hoperation (by decide), h.status_iff hstatus]

theorem UrlWord.request_error_iff {operation : String} (h : UrlWord word) (name reported : String)
    (hname : Schemeless name.toList) (hoperation : Schemeless operation.toList) :
    word <:+: (AppError.Config (name ++ " " ++ operation ++ " request failed: " ++
      reported)).to_string.toList ↔ word <:+: reported.toList := by
  have htext : (name ++ " " ++ operation ++ " request failed: " ++ reported).toList =
      name.toList ++ ' ' :: (operation.toList ++ ' ' :: ("request failed:".toList ++ ' ' ::
        reported.toList)) := by simp
  rw [config_text, htext, h.reported_iff _ _ hname hoperation (by decide)]

/-- TRON and BTC show neither the error nor the body unredacted. -/
theorem receive_body_hides {operation : String} {sent : Sent} (name : String)
    (hname : Schemeless name.toList) (hoperation : Schemeless operation.toList)
    (hurl : HttpUrl base_url) (hplain : '[' ∉ base_url.toList) (hfails : sent.Fails)
    (hstatus : ∀ status body, sent = .response status body →
      ¬ "http".toList <:+: status.to_string.toList) :
    ∃ e, receive_body name operation (format_request_error name operation base_url)
        (format_status_error name operation base_url) sent = .error e ∧
      Hides base_url e.to_string := by
  have hword := UrlWord.of_trimmed hurl hplain
  simp only [hides_iff]
  cases sent with
  | failed error sources =>
    refine ⟨_, rfl, ?_⟩
    rw [format_request_error, hword.request_error_iff _ _ hname hoperation]
    exact redact_provider_url_hides hurl hplain
  | response status body =>
    cases body with
    | error error => exact hfails.elim
    | ok body =>
      have hfailed : status.is_success = false := hfails
      refine ⟨_, by simp only [receive_body, hfailed]; rfl, ?_⟩
      rw [format_status_error,
        hword.status_error_iff _ _ hname hoperation (hstatus status _ rfl)]
      exact redact_provider_url_hides hurl hplain

theorem rpc_result_body_hides_iff {method : String} {sent : Sent}
    (hmethod : Schemeless method.toList) (hurl : HttpUrl base_url)
    (hplain : '[' ∉ base_url.toList) (hfails : sent.Fails)
    (hstatus : ∀ status body, sent = .response status body →
      ¬ "http".toList <:+: status.to_string.toList) :
    (∃ e, Evm.rpc_result_body method base_url sent = .error e ∧ Hides base_url e.to_string) ↔
      Client.evm.Unexposed base_url sent := by
  have hurl_word := UrlWord.of_url hurl hplain
  have hword := UrlWord.of_trimmed hurl hplain
  simp only [hides_iff]
  cases sent with
  | failed error sources =>
    simp only [Evm.rpc_result_body, Except.error.injEq, exists_eq_left']
    rw [config_text, Evm.request_error_text hurl_word.ne_nil,
      hword.reported_iff _ _ (by decide) hmethod (by decide),
      Replace.infix_fill_iff hword.no_bracket Evm.marker_rpc_url.bracket hword.head
        Evm.marker_rpc_url.no_scheme]
    rfl
  | response status body =>
    cases body with
    | error error => exact hfails.elim
    | ok body =>
      have hfailed : status.is_success = false := hfails
      have hstatus_error := hword.status_error_iff "evm rpc" body (by decide) hmethod
        (hstatus status _ rfl)
      have hname : "evm rpc " = "evm rpc" ++ " " := by decide
      simp only [Evm.rpc_result_body, hfailed, Bool.not_false, if_true, Except.error.injEq,
        exists_eq_left']
      rw [Evm.format_rpc_status_error, hname, hstatus_error]
      rfl

/-- Whatever a provider answers, the error of a failed request names its URL only where EVM does not
redact it. -/
theorem failures_hide_base_url_iff {client : Client} {operation : String} {sent : Sent}
    (hurl : HttpUrl base_url) (hplain : '[' ∉ base_url.toList)
    (hoperation : operation ∈ client.operations) (hfails : sent.Fails)
    (hstatus : ∀ status body, sent = .response status body →
      ¬ "http".toList <:+: status.to_string.toList) :
    (∃ e, client.receive operation base_url sent = .error e ∧ Hides base_url e.to_string) ↔
      client.Unexposed base_url sent := by
  have hop := operations_schemeless hoperation
  cases client with
  | evm => exact rpc_result_body_hides_iff hop hurl hplain hfails hstatus
  | tron =>
    have hidden := receive_body_hides "TRON" (by decide) hop hurl hplain hfails hstatus
    exact ⟨fun _ => by cases sent <;> trivial, fun _ => hidden⟩
  | btc =>
    have hidden := receive_body_hides "BTC" (by decide) hop hurl hplain hfails hstatus
    exact ⟨fun _ => by cases sent <;> trivial, fun _ => hidden⟩

end Words

/-! ### A URL with a key -/

instance (base_url text : String) : Decidable (Hides base_url text) :=
  inferInstanceAs (Decidable (_ ∧ _))

instance (base_url : String) : Decidable (HttpUrl base_url) :=
  inferInstanceAs (Decidable (_ ∨ _))

def keyed_url : String :=
  "https://rpc.example/key/"

/-- The whole URL is in the error. -/
def unreachable : Sent :=
  .failed "error sending request for url (https://rpc.example/key/)" ["dns error"]

/-- The provider quotes the URL. -/
def forbidden : Sent :=
  .response { code := 403, reason := "Forbidden" } (.ok "no access to https://rpc.example/key")

theorem evm_hides_whole_url :
    ∃ e, Client.evm.receive "eth_getLogs" keyed_url unreachable = .error e ∧
      Hides keyed_url e.to_string := by
  have hunexposed : Client.evm.Unexposed keyed_url unreachable := by
    have hexposed : ¬ (Text.trimEndMatches '/' keyed_url).toList.map some <:+:
        Evm.exposed_text keyed_url "error sending request for url (https://rpc.example/key/)"
          ["dns error"] := by decide +kernel
    exact hexposed
  have hstatus : ∀ status body, unreachable = .response status body →
      ¬ "http".toList <:+: status.to_string.toList := by
    intro status body h
    cases h
  exact (failures_hide_base_url_iff (by decide) (by decide) (by decide) (by trivial) hstatus).mpr
    hunexposed

/-- The same answer, told by TRON and by EVM. -/
theorem evm_shows_body :
    HttpUrl keyed_url ∧ '[' ∉ keyed_url.toList ∧ Sent.Fails forbidden ∧
      (∃ e, Client.tron.receive "account transactions" keyed_url forbidden = .error e ∧
        Hides keyed_url e.to_string) ∧
      ∃ e, Client.evm.receive "eth_getLogs" keyed_url forbidden = .error e ∧
        ¬ Hides keyed_url e.to_string := by
  refine ⟨by decide, by decide, rfl, ⟨_, rfl, ?_⟩, ⟨_, rfl, ?_⟩⟩
  · decide +kernel
  · decide +kernel

end CoinListener.Providers
