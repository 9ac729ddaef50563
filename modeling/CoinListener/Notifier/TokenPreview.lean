import CoinListener.Foundation.Slices
import CoinListener.Notifier.UpdatePoller

/-! The part of a bot token that is shown. It is cut out by bytes. -/
namespace CoinListener.Notifier
open Foundation Storage

/-! ### Requests up to the preview -/

/-- `none` where a slice would begin or end inside a character. -/
def telegram_token_preview (token : String) : Option String :=
  let trimmed := (Text.trim token).toList
  if Text.byteLength trimmed ≤ 10 then some "********"
  else do
    let (first, _) ← Text.splitBytes 6 trimmed
    let (_, last) ← Text.splitBytes (Text.byteLength trimmed - 4) trimmed
    some (String.ofList (first ++ "...".toList ++ last))

structure CreatedToken where
  bot_token : String
  status : String
  token_preview : String
deriving DecidableEq

structure UpdatedToken where
  bot_token : Option String
  token_preview : Option String
deriving DecidableEq

/-- `create_telegram_bot` up to the preview; `none` where it panics. -/
def created_token (request : CreateTelegramBotRequest) : Option (AppResult CreatedToken) :=
  if Text.trim request.name = "" then
    some (.error (.Validation "telegram bot name is required"))
  else
    let bot_token := Text.trim request.bot_token
    if bot_token = "" then some (.error (.Validation "bot_token is required"))
    else
      match validate_status (request.status.getD STATUS_ACTIVE) with
      | .error error => some (.error error)
      | .ok () => (telegram_token_preview bot_token).map fun token_preview =>
          .ok ⟨bot_token, request.status.getD STATUS_ACTIVE, token_preview⟩

/-- `update_telegram_bot` up to the preview; `none` where it panics. -/
def updated_token (request : UpdateTelegramBotRequest) : Option (AppResult UpdatedToken) :=
  if Text.trim request.name = "" then
    some (.error (.Validation "telegram bot name is required"))
  else
    match validate_status request.status with
    | .error error => some (.error error)
    | .ok () =>
      match UpdateTelegramBotRequest.token request with
      | none => some (.ok ⟨none, none⟩)
      | some bot_token => (telegram_token_preview bot_token).map fun token_preview =>
          .ok ⟨some bot_token, some token_preview⟩

/-- Where the preview is cut out without a panic, the rest goes on from there. -/
theorem create_telegram_bot_previewed {request : CreateTelegramBotRequest}
    {result : AppResult CreatedToken} (h : created_token request = some result)
    (tenant_id : Uuid) : create_telegram_bot tenant_id request =
      (Prog.lift result).bind fun token =>
        (Prog.lift (normalize_proxy_url request.proxy_url)).bind fun proxy_url =>
          bot_query (.create_telegram_bot tenant_id request.name token.bot_token token.status
            proxy_url) := by
  unfold created_token at h
  unfold create_telegram_bot
  by_cases hname : Text.trim request.name = ""
  · rw [if_pos hname] at h ⊢
    obtain rfl := Option.some.inj h
    rfl
  · rw [if_neg hname] at h ⊢
    by_cases htoken : Text.trim request.bot_token = ""
    · rw [if_pos htoken] at h ⊢
      obtain rfl := Option.some.inj h
      rfl
    · rw [if_neg htoken] at h ⊢
      cases hstatus : validate_status (request.status.getD STATUS_ACTIVE) with
      | error error =>
        rw [hstatus] at h
        obtain rfl := Option.some.inj h
        simp only [hstatus]
        rfl
      | ok _ =>
        rw [hstatus] at h
        obtain ⟨token_preview, _, rfl⟩ := Option.map_eq_some_iff.mp h
        simp only [hstatus]
        rfl

theorem update_telegram_bot_previewed {request : UpdateTelegramBotRequest}
    {result : AppResult UpdatedToken} (h : updated_token request = some result)
    (tenant_id id : Uuid) : update_telegram_bot tenant_id id request =
      (Prog.lift result).bind fun token =>
        (Prog.lift (match request.proxy_url with
          | some proxy_url => normalize_proxy_url proxy_url
          | none => .ok none)).bind fun proxy_url =>
          (bot_query (.update_telegram_bot tenant_id id request.name token.bot_token
            request.status request.proxy_url.isSome proxy_url)).bind fun updated =>
            Prog.lift (required updated (.NotFound "telegram bot")) := by
  unfold updated_token at h
  unfold update_telegram_bot
  by_cases hname : Text.trim request.name = ""
  · rw [if_pos hname] at h ⊢
    obtain rfl := Option.some.inj h
    rfl
  · rw [if_neg hname] at h ⊢
    cases hstatus : validate_status request.status with
    | error error =>
      rw [hstatus] at h
      obtain rfl := Option.some.inj h
      rfl
    | ok _ =>
      rw [hstatus] at h
      cases htoken : UpdateTelegramBotRequest.token request with
      | none =>
        rw [htoken] at h
        obtain rfl := Option.some.inj h
        rfl
      | some bot_token =>
        rw [htoken] at h
        obtain ⟨token_preview, _, rfl⟩ := Option.map_eq_some_iff.mp h
        rfl

/-! ### What is shown -/

def last_characters (n : Nat) (text : List Char) : List Char :=
  text.drop (text.length - n)

/-- Eight asterisks, or the first six and the last four characters around three dots. -/
def Previews (preview token : String) : Prop :=
  preview = "********" ∨
    preview = String.ofList (token.toList.take 6 ++ "...".toList ++ last_characters 4 token.toList)

/-- The token has at most ten bytes, or its first six and its last four characters are ASCII. -/
def CutsCleanly (token : String) : Prop :=
  Text.byteLength token.toList ≤ 10 ∨
    ∀ c ∈ token.toList.take 6 ++ last_characters 4 token.toList, c.toNat ≤ 127

section Preview
variable {token : String}

/-- Slices of six and four bytes are ten characters only if these are ASCII. -/
theorem clean_of_slices {text first middle rest last : List Char} {dots : List Char}
    (hlong : 10 < Text.byteLength text) (hfirst : text = first ++ rest)
    (hsix : Text.byteLength first = 6) (hlast : text = middle ++ last)
    (hfour : Text.byteLength last = 4)
    (h : first ++ dots ++ last = text.take 6 ++ dots ++ last_characters 4 text) :
    ∀ c ∈ text.take 6 ++ last_characters 4 text, c.toNat ≤ 127 := by
  have hfirst_le := Text.length_le_byteLength first
  have hlast_le := Text.length_le_byteLength last
  have hfirst_text : first.length ≤ text.length := by rw [hfirst, List.length_append]; omega
  have hlast_text : last.length ≤ text.length := by rw [hlast, List.length_append]; omega
  have hlengths := congrArg List.length h
  simp only [List.length_append, List.length_take, last_characters, List.length_drop] at hlengths
  have hwhole : first.length = min 6 text.length := by omega
  have hend : last.length = min 4 text.length := by omega
  have hsix_le : 6 ≤ text.length := by
    by_contra hshort
    have hrest : rest = [] := by
      rw [← List.length_eq_zero_iff]
      have hsum := congrArg List.length hfirst
      rw [List.length_append] at hsum
      omega
    rw [hfirst, hrest, List.append_nil] at hlong
    omega
  have hfirst_ascii := Text.byteLength_eq_length_iff.mp (show _ = first.length by omega)
  have hlast_ascii := Text.byteLength_eq_length_iff.mp (show _ = last.length by omega)
  have htake : text.take 6 = first := by
    rw [hfirst]
    exact List.take_left' (by omega)
  have hdrop : last_characters 4 text = last := by
    have hmiddle : text.length - 4 = middle.length := by
      have hsum := congrArg List.length hlast
      rw [List.length_append] at hsum
      omega
    rw [last_characters, hmiddle, hlast]
    exact List.drop_left
  rw [htake, hdrop]
  intro c hc
  rcases List.mem_append.mp hc with hc | hc
  · exact hfirst_ascii c hc
  · exact hlast_ascii c hc

/-- ASCII characters at both ends are cut out as they are. -/
theorem slices_of_clean {text : List Char} (hlong : 10 < Text.byteLength text)
    (h : ∀ c ∈ text.take 6 ++ last_characters 4 text, c.toNat ≤ 127) :
    Text.splitBytes 6 text = some (text.take 6, text.drop 6) ∧
      Text.splitBytes (Text.byteLength text - 4) text =
        some (text.take (text.length - 4), last_characters 4 text) := by
  have hfirst := Text.byteLength_of_ascii fun c hc => h c (List.mem_append_left _ hc)
  have hlast := Text.byteLength_of_ascii fun c hc => h c (List.mem_append_right _ hc)
  have hparts := List.take_append_drop 6 text
  have hsix : 6 ≤ text.length := by
    by_contra hshort
    have hall : text.take 6 = text := List.take_of_length_le (by omega)
    rw [hall] at hfirst
    omega
  rw [List.length_take, Nat.min_eq_left hsix] at hfirst
  have hfour : Text.byteLength (last_characters 4 text) = 4 := by
    rw [hlast, last_characters, List.length_drop]
    omega
  have hsum : Text.byteLength text = Text.byteLength (text.take (text.length - 4)) +
      Text.byteLength (last_characters 4 text) := by
    rw [last_characters, ← Text.byteLength_append, List.take_append_drop]
  refine ⟨Text.splitBytes_iff.mpr ⟨hparts.symm, hfirst⟩, Text.splitBytes_iff.mpr ⟨?_, by omega⟩⟩
  rw [last_characters, List.take_append_drop]

/-- A trimmed token has its preview exactly if it is cut between characters that have a byte each. -/
theorem preview_iff (htrim : Text.trim token = token) :
    (∃ preview, telegram_token_preview token = some preview ∧ Previews preview token) ↔
      CutsCleanly token := by
  unfold telegram_token_preview
  rw [htrim]
  by_cases hshort : Text.byteLength token.toList ≤ 10
  · rw [if_pos hshort]
    exact ⟨fun _ => .inl hshort, fun _ => ⟨_, rfl, .inl rfl⟩⟩
  · have hlong : 10 < Text.byteLength token.toList := by omega
    rw [if_neg hshort]
    constructor
    · rintro ⟨preview, hpreview, hshown⟩
      obtain ⟨⟨first, rest⟩, hfirst, hpreview⟩ := Option.bind_eq_some_iff.mp hpreview
      obtain ⟨⟨middle, last⟩, hlast, hpreview⟩ := Option.bind_eq_some_iff.mp hpreview
      obtain rfl := Option.some.inj hpreview
      obtain ⟨hfirst, hsix⟩ := Text.splitBytes_iff.mp hfirst
      obtain ⟨hlast, hmiddle⟩ := Text.splitBytes_iff.mp hlast
      have hfour : Text.byteLength last = 4 := by
        have hsum := congrArg Text.byteLength hlast
        rw [Text.byteLength_append] at hsum
        omega
      rcases hshown with hstars | hends
      · have hdot : '.' ∈ "********".toList := by
          rw [← hstars, String.toList_ofList]
          exact List.mem_append_left _ (List.mem_append_right _ (List.mem_cons_self ..))
        exact absurd hdot (by decide)
      · exact .inr (clean_of_slices hlong hfirst hsix hlast hfour (String.ofList_injective hends))
    · rintro (hle | hascii)
      · exact absurd hle hshort
      · obtain ⟨hfirst, hlast⟩ := slices_of_clean hlong hascii
        rw [hfirst, hlast]
        exact ⟨_, rfl, .inr rfl⟩

end Preview

/-! ### Requests -/

/-- The request is handled without a panic, and what is made of it is shown as it should be. -/
def CreateRequestPreviews (request : CreateTelegramBotRequest) : Prop :=
  ∃ result, created_token request = some result ∧
    ∀ token, result = .ok token → Previews token.token_preview token.bot_token

def UpdateRequestPreviews (request : UpdateTelegramBotRequest) : Prop :=
  ∃ result, updated_token request = some result ∧
    ∀ token, result = .ok token → ∀ bot_token, token.bot_token = some bot_token →
      ∃ preview, token.token_preview = some preview ∧ Previews preview bot_token

theorem cuts_cleanly_empty : CutsCleanly "" :=
  .inl (Nat.zero_le 10)

theorem create_previews_iff (request : CreateTelegramBotRequest) :
    CreateRequestPreviews request ↔ (Text.trim request.name ≠ "" →
      validate_status (request.status.getD STATUS_ACTIVE) = .ok () →
        CutsCleanly (Text.trim request.bot_token)) := by
  unfold CreateRequestPreviews created_token
  by_cases hname : Text.trim request.name = ""
  · rw [if_pos hname]
    exact ⟨fun _ hne => absurd hname hne, fun _ => ⟨_, rfl, nofun⟩⟩
  · rw [if_neg hname]
    by_cases htoken : Text.trim request.bot_token = ""
    · rw [if_pos htoken, htoken]
      exact ⟨fun _ _ _ => cuts_cleanly_empty, fun _ => ⟨_, rfl, nofun⟩⟩
    · rw [if_neg htoken]
      cases hstatus : validate_status (request.status.getD STATUS_ACTIVE) with
      | error error => exact ⟨(fun _ _ hok => nomatch hok), fun _ => ⟨_, rfl, nofun⟩⟩
      | ok _ =>
        constructor
        · rintro ⟨result, hresult, hshown⟩ _ _
          obtain ⟨preview, hpreview, rfl⟩ := Option.map_eq_some_iff.mp hresult
          exact (preview_iff (Text.trim_trim _)).mp ⟨preview, hpreview, hshown _ rfl⟩
        · intro h
          obtain ⟨preview, hpreview, hshown⟩ :=
            (preview_iff (Text.trim_trim _)).mpr (h hname rfl)
          refine ⟨_, Option.map_eq_some_iff.mpr ⟨preview, hpreview, rfl⟩, fun token heq => ?_⟩
          obtain rfl := Except.ok.inj heq
          exact hshown

theorem update_previews_iff (request : UpdateTelegramBotRequest) :
    UpdateRequestPreviews request ↔ (Text.trim request.name ≠ "" →
      validate_status request.status = .ok () →
        ∀ bot_token, request.bot_token = some bot_token → CutsCleanly (Text.trim bot_token)) := by
  unfold UpdateRequestPreviews updated_token
  by_cases hname : Text.trim request.name = ""
  · rw [if_pos hname]
    exact ⟨fun _ hne => absurd hname hne, fun _ => ⟨_, rfl, nofun⟩⟩
  · rw [if_neg hname]
    cases hstatus : validate_status request.status with
    | error error => exact ⟨(fun _ _ hok => nomatch hok), fun _ => ⟨_, rfl, nofun⟩⟩
    | ok _ =>
      cases hrequest : request.bot_token with
      | none =>
        have htoken : UpdateTelegramBotRequest.token request = none := by
          rw [UpdateTelegramBotRequest.token, hrequest]
          rfl
        rw [htoken]
        refine ⟨(fun _ _ _ _ h => nomatch h), fun _ => ⟨_, rfl, fun token heq bot_token h => ?_⟩⟩
        obtain rfl := Except.ok.inj heq
        exact nomatch h
      | some bot_token =>
        by_cases hempty : Text.trim bot_token = ""
        · have htoken : UpdateTelegramBotRequest.token request = none := by
            simp [UpdateTelegramBotRequest.token, hrequest, hempty]
          rw [htoken]
          refine ⟨fun _ _ _ token h => ?_, fun _ => ⟨_, rfl, fun token heq bot_token h => ?_⟩⟩
          · obtain rfl := Option.some.inj h
            rw [hempty]
            exact cuts_cleanly_empty
          · obtain rfl := Except.ok.inj heq
            exact nomatch h
        · have htoken : UpdateTelegramBotRequest.token request = some (Text.trim bot_token) := by
            simp [UpdateTelegramBotRequest.token, hrequest, hempty]
          rw [htoken]
          constructor
          · rintro ⟨result, hresult, hshown⟩ _ _ token hsame
            obtain rfl := Option.some.inj hsame
            obtain ⟨preview, hpreview, rfl⟩ := Option.map_eq_some_iff.mp hresult
            obtain ⟨shown, hshown, hends⟩ := hshown _ rfl _ rfl
            obtain rfl := Option.some.inj hshown
            exact (preview_iff (Text.trim_trim _)).mp ⟨preview, hpreview, hends⟩
          · intro h
            obtain ⟨preview, hpreview, hshown⟩ :=
              (preview_iff (Text.trim_trim _)).mpr (h hname rfl bot_token rfl)
            refine ⟨_, Option.map_eq_some_iff.mpr ⟨preview, hpreview, rfl⟩,
              fun token heq token' hsame => ?_⟩
            obtain rfl := Except.ok.inj heq
            obtain rfl := Option.some.inj hsame
            exact ⟨preview, rfl, hshown⟩

/-- Both handlers show a token as they should exactly if it is cut between characters that have a
byte each, or the request is refused before. -/
theorem token_previews (create : CreateTelegramBotRequest) (update : UpdateTelegramBotRequest) :
    (CreateRequestPreviews create ↔ (Text.trim create.name ≠ "" →
      validate_status (create.status.getD STATUS_ACTIVE) = .ok () →
        CutsCleanly (Text.trim create.bot_token))) ∧
    (UpdateRequestPreviews update ↔ (Text.trim update.name ≠ "" →
      validate_status update.status = .ok () →
        ∀ bot_token, update.bot_token = some bot_token → CutsCleanly (Text.trim bot_token))) :=
  ⟨create_previews_iff create, update_previews_iff update⟩

/-- The sixth byte lies inside a character. -/
theorem token_preview_panics :
    created_token ⟨"bot", "12345\u00e967890", none, none⟩ = none ∧
      ¬ CreateRequestPreviews ⟨"bot", "12345\u00e967890", none, none⟩ := by
  have hpanic : created_token ⟨"bot", "12345\u00e967890", none, none⟩ = none := by
    decide +kernel
  refine ⟨hpanic, ?_⟩
  rintro ⟨result, hresult, _⟩
  exact nomatch hpanic.symm.trans hresult

end CoinListener.Notifier
