import CoinListener.Notifier.External

/-! Which accepted Telegram messages are recorded as sent. -/
namespace CoinListener.Notifier
open Foundation

/-- Bytes that JSON allows between its tokens. -/
def isSpaceByte (b : UInt8) : Bool :=
  b == 0x20 || b == 0x0A || b == 0x09 || b == 0x0D

theorem isSpaceByte_wide {b : UInt8} (h : 128 ≤ b.toNat) : isSpaceByte b = false := by
  by_contra hs
  simp only [isSpaceByte, Bool.not_eq_false, Bool.or_eq_true, beq_iff_eq] at hs
  obtain ((rfl | rfl) | rfl) | rfl := hs <;> exact absurd h (by decide)

theorem isSpaceByte_ascii {c : Char} (h : c.toNat < 128) :
    isSpaceByte (UInt8.ofNat c.toNat) = Json.isSpace c := by
  have key : ∀ d : Char, d.toNat < 128 →
      (UInt8.ofNat c.toNat == UInt8.ofNat d.toNat) = (c == d) := by
    intro d hd
    rw [Bool.eq_iff_iff, beq_iff_eq, beq_iff_eq, ← UInt8.toNat_inj, ← Char.toNat_inj,
      Utf8.toNat_byte (by omega), Utf8.toNat_byte (by omega)]
  simp only [Json.isSpace, ← key ' ' (by decide), ← key '\n' (by decide),
    ← key '\t' (by decide), ← key '\r' (by decide)]
  rfl

theorem encode_all_space (text : List Char) :
    (Utf8.encode text).all isSpaceByte = text.all Json.isSpace := by
  induction text with
  | nil => rfl
  | cons c text ih =>
    have happ : Utf8.encode (c :: text) = String.utf8EncodeChar c ++ Utf8.encode text := rfl
    rw [happ, List.all_append, ih, List.all_cons]
    by_cases hc : c.toNat < 128
    · rw [Utf8.encodeChar_ascii hc, List.all_cons, List.all_nil, Bool.and_true,
        isSpaceByte_ascii hc]
    · obtain ⟨b, hb⟩ := List.exists_mem_of_ne_nil _ (String.utf8EncodeChar_ne_nil (c := c))
      have hspace : Json.isSpace c = false := Json.Reader.wide_isSpace (by omega)
      have hall : (String.utf8EncodeChar c).all isSpaceByte = false := by
        rw [List.all_eq_false]
        refine ⟨b, hb, ?_⟩
        rw [isSpaceByte_wide (Utf8.encodeChar_wide (by omega) hb)]
        exact Bool.false_ne_true
      rw [hall, hspace]

/-- Without a read error the chunks are joined and cut at the limit. -/
theorem read_chunks_ok (bytes : List UInt8) (chunks : List (List UInt8))
    (h : bytes.length ≤ PROVIDER_RESPONSE_MAX_BYTES) :
    read_chunks bytes (chunks.map .ok) =
      (bytes ++ chunks.flatten).take PROVIDER_RESPONSE_MAX_BYTES := by
  induction chunks generalizing bytes with
  | nil => simp [read_chunks, List.take_of_length_le h]
  | cons chunk chunks ih =>
    simp only [List.map_cons, read_chunks, List.flatten_cons]
    split
    · next hlt =>
      have hlen : (bytes ++ chunk.take (PROVIDER_RESPONSE_MAX_BYTES - bytes.length)).length ≤
          PROVIDER_RESPONSE_MAX_BYTES := by
        simp only [List.length_append, List.length_take]
        omega
      rw [ih _ hlen]
      by_cases hc : chunk.length ≤ PROVIDER_RESPONSE_MAX_BYTES - bytes.length
      · rw [List.take_of_length_le hc, List.append_assoc]
      · have hfull : (bytes ++ chunk.take (PROVIDER_RESPONSE_MAX_BYTES - bytes.length)).length =
            PROVIDER_RESPONSE_MAX_BYTES := by
          simp only [List.length_append, List.length_take]
          omega
        rw [List.take_left' hfull, List.take_append, List.take_of_length_le h,
          List.take_append_of_le_length (by omega)]
    · next hge =>
      have heq : bytes.length = PROVIDER_RESPONSE_MAX_BYTES := by omega
      rw [← heq, List.take_left]

theorem read_provider_response_prefix_ok (status : Nat) (chunks : List (List UInt8)) :
    read_provider_response_prefix ⟨status, chunks.map .ok⟩ = String.ofList
      (Utf8.from_utf8_lossy (chunks.flatten.take PROVIDER_RESPONSE_MAX_BYTES)) := by
  have hread := read_chunks_ok [] chunks (Nat.zero_le _)
  rw [List.nil_append] at hread
  rw [ read_provider_response_prefix, hread]

/-- A 2xx response that says the message was accepted, complete and without a read error. -/
structure Accepted where
  status : Nat
  success : 200 ≤ status ∧ status ≤ 299
  chunks : List (List UInt8)
  body : List Char
  encoded : chunks.flatten = Utf8.encode body
  value : Json
  parsed : Json.parse .free body = some value
  ok : (value.get "ok").bind Json.as_bool = some true
  numeral : String
  message_id : (value.get "result").bind (·.get "message_id") = some (.num numeral)
  id : Int
  integer : Json.integer? numeral.toList = some id

/-- The response as the HTTP library hands it over. -/
def Accepted.response (a : Accepted) : Response :=
  ⟨a.status, a.chunks.map .ok⟩

/-- The sender reaches Telegram with these arguments and gets this response. -/
def Answers {Client : Type} (sender : ExternalNotificationSender Client)
    (config : TelegramChannelConfig) (bot_token text : String) (proxy_url : Option String)
    (response : Response) : Prop :=
  ∃ client, client_for sender.http proxy_url = .ok client ∧
    sender.http.post client (telegram_bot_method_url sender bot_token "sendMessage")
      (.obj [("chat_id", .str config.chat_id), ("text", .str text)]) = .ok response

section Receipt
variable {limits : Json.Limits} {body : List Char} {value : Json} {bytes : List UInt8}

/-- What the bounded read leaves of an object's text is parsed to that object, or not at all. -/
theorem parse_bounded (hbody : Json.parse .free body = some value) (hobj : (value.get "ok").isSome)
    (n : Nat) :
    Json.parse limits (Utf8.from_utf8_lossy ((Utf8.encode body).take n)) =
      if (Json.parse limits body).isSome ∧ ((Utf8.encode body).drop n).all isSpaceByte
      then some value else none := by
  obtain ⟨fields, rfl⟩ := Json.get_object hobj
  obtain ⟨pre, post, rfl, ht, hd⟩ | ⟨pre, c, post, rfl, hc, ht, b, hb, hwide⟩ :=
    Utf8.lossy_take_encode body n
  · rw [ht, hd, encode_all_space]
    split
    · next h =>
      obtain ⟨hsome, hs⟩ := h
      obtain ⟨v, hv⟩ := Option.isSome_iff_exists.mp hsome
      have hfree := Json.parse_free hv
      rw [hbody] at hfree
      obtain rfl := Option.some.inj hfree
      rw [Json.parse_prefix hv, if_pos hs]
    · next h =>
      by_contra hne
      obtain ⟨v, hv⟩ := Option.ne_none_iff_exists'.mp hne
      have hfree := Json.parse_free hv
      rw [Json.parse_prefix hbody] at hfree
      split at hfree
      · next hs =>
        obtain rfl := Option.some.inj hfree
        exact h ⟨by rw [Json.parse_extend hv hs]; rfl, hs⟩
      · exact nomatch hfree
  · rw [ht, if_neg]
    · by_contra hne
      obtain ⟨v, hv⟩ := Option.ne_none_iff_exists'.mp hne
      have hcut := Json.parse_cut hbody hc (show 128 ≤ Utf8.replacement.toNat by decide)
      rw [Json.parse_free hv] at hcut
      exact nomatch hcut
    · rintro ⟨_, hall⟩
      have hspace := List.all_eq_true.mp hall b hb
      rw [isSpaceByte_wide hwide] at hspace
      exact nomatch hspace

/-- A parsed success body decides the outcome of a 2xx response. -/
theorem classify_success {status : Nat} {text : String} {numeral : String}
    (hstatus : 200 ≤ status ∧ status ≤ 299) (hok : (value.get "ok").bind Json.as_bool = some true)
    (hid : (value.get "result").bind (·.get "message_id") = some (.num numeral))
    (hparse : Json.parse limits text.toList = some value) :
    ((classify_telegram_response limits status text).is_sent = true ↔
        (Json.num numeral).as_i64.isSome) ∧
      ((classify_telegram_response limits status text).is_transient_failure = true ↔
        (Json.num numeral).as_i64 = none) := by
  cases hi : (Json.num numeral).as_i64 <;>
    simp [classify_telegram_response, hparse, hok, hid, hi, hstatus,
      ExternalSendOutcome.is_sent, ExternalSendOutcome.is_transient_failure]

theorem classify_unparsable {status : Nat} {text : String}
    (hstatus : 200 ≤ status ∧ status ≤ 299) (hparse : Json.parse limits text.toList = none) :
    (classify_telegram_response limits status text).is_sent = false ∧
      (classify_telegram_response limits status text).is_transient_failure = true := by
  simp [classify_telegram_response, hparse, hstatus, ExternalSendOutcome.is_sent,
    ExternalSendOutcome.is_transient_failure]

/-- An accepted message is recorded as sent exactly when the parser's limits admit the body, the
message id fits a signed 64-bit integer, and nothing but whitespace lies beyond the limit on stored
responses. Otherwise it counts as a transient failure. -/
theorem send_telegram_is_sent_iff {Client : Type} (limits : Json.Limits)
    (sender : ExternalNotificationSender Client) (config : TelegramChannelConfig)
    (bot_token text : String) (proxy_url : Option String) (a : Accepted)
    (h : Answers sender config bot_token text proxy_url a.response) :
    let outcome := send_telegram limits sender config bot_token text proxy_url
    let received := (Json.parse limits a.body).isSome ∧ (Json.num a.numeral).as_i64.isSome ∧
      (a.chunks.flatten.drop PROVIDER_RESPONSE_MAX_BYTES).all isSpaceByte
    (outcome.is_sent = true ↔ received) ∧ (outcome.is_transient_failure = true ↔ ¬ received) := by
  obtain ⟨client, hclient, hpost⟩ := h
  have hobj : (a.value.get "ok").isSome := by
    cases hv : a.value.get "ok" with
    | some _ => rfl
    | none => have hok := a.ok; rw [hv] at hok; exact nomatch hok
  have hbound : Json.parse limits (Utf8.from_utf8_lossy ((Utf8.encode a.body).take
      PROVIDER_RESPONSE_MAX_BYTES)) = _ := parse_bounded a.parsed hobj _
  simp only [send_telegram, hclient, hpost, Accepted.response, read_provider_response_prefix_ok,
    a.encoded]
  by_cases hc : (Json.parse limits a.body).isSome ∧
      ((Utf8.encode a.body).drop PROVIDER_RESPONSE_MAX_BYTES).all isSpaceByte
  · rw [if_pos hc, ← String.toList_ofList (l := Utf8.from_utf8_lossy _)] at hbound
    obtain ⟨hsent, htransient⟩ := classify_success a.success a.ok a.message_id hbound
    rw [hsent, htransient]
    cases (Json.num a.numeral).as_i64 <;> simp [hc.1, hc.2]
  · rw [if_neg hc, ← String.toList_ofList (l := Utf8.from_utf8_lossy _)] at hbound
    obtain ⟨hsent, htransient⟩ := classify_unparsable a.success hbound
    rw [hsent, htransient]
    have hnot : ¬ ((Json.parse limits a.body).isSome ∧ (Json.num a.numeral).as_i64.isSome ∧
        ((Utf8.encode a.body).drop PROVIDER_RESPONSE_MAX_BYTES).all isSpaceByte) :=
      fun h => hc ⟨h.1, h.2.2⟩
    exact ⟨⟨nofun, fun h => (hnot h).elim⟩, ⟨fun _ => hnot, fun _ => rfl⟩⟩

end Receipt

/-! ### Two responses -/

/-- Plain characters inside a string are read one by one. -/
theorem fold_string {limits : Json.Limits} {stack : List Json.Frame}
    {keyOf : Option (List (String × Json))} (read text : List Char)
    (h : ∀ c ∈ text, c ≠ '"' ∧ c ≠ '\\' ∧ 0x20 ≤ c.toNat) :
    text.foldl (Json.Reader.step limits) ⟨stack, .string keyOf read .none⟩ =
      ⟨stack, .string keyOf (text.reverse ++ read) .none⟩ := by
  induction text generalizing read with
  | nil => rfl
  | cons c text ih =>
    obtain ⟨hq, hb, h20⟩ := h c (List.mem_cons_self ..)
    have hstep : Json.Reader.step limits ⟨stack, .string keyOf read .none⟩ c =
        ⟨stack, .string keyOf (c :: read) .none⟩ := by
      simp [Json.Reader.step, Json.Reader.inString, hq, hb, show ¬ c.toNat < 0x20 by omega]
    rw [List.foldl_cons, hstep, ih _ fun d hd => h d (List.mem_cons_of_mem _ hd)]
    simp

def echo_start : List Char :=
  "\x7b\"ok\":true,\"result\":\x7b\"message_id\":7,\"text\":\"".toList

/-- The answer to a message whose text Telegram echoes. -/
def echoed (text : List Char) : List Char :=
  echo_start ++ (text ++ ['"', '}', '}'])

theorem read_echo_start : echo_start.foldl (Json.Reader.step .free) .start =
    ⟨[.obj [("message_id", .num "7")] "text", .obj [("ok", .bool true)] "result"],
      .string none [] .none⟩ := by
  rfl

theorem parse_echoed (text : List Char) (h : ∀ c ∈ text, c ≠ '"' ∧ c ≠ '\\' ∧ 0x20 ≤ c.toNat) :
    Json.parse .free (echoed text) = some (.obj [("ok", .bool true),
      ("result", .obj [("message_id", .num "7"), ("text", .str (String.ofList text))])]) := by
  have hend : ['"', '}', '}'].foldl (Json.Reader.step .free)
      ⟨[.obj [("message_id", .num "7")] "text", .obj [("ok", .bool true)] "result"],
        .string none (text.reverse ++ []) .none⟩ = ⟨[], .finished (.obj [("ok", .bool true),
          ("result", .obj [("message_id", .num "7"), ("text", .str (String.ofList text))])])⟩ := by
    simp [Json.Reader.step, Json.Reader.inString, Json.Reader.endString, Json.Reader.emit,
      Json.Reader.afterItem, Json.isSpace]
  rw [Json.parse, echoed, List.foldl_append, List.foldl_append, read_echo_start,
    fold_string _ _ h, hend]
  rfl

/-- Telegram's answer to a message of `n` letters. -/
def accepted_echo (n : Nat) : Accepted where
  status := 200
  success := by decide
  chunks := [Utf8.encode (echoed (List.replicate n 'a'))]
  body := echoed (List.replicate n 'a')
  encoded := List.append_nil _
  value := .obj [("ok", .bool true), ("result", .obj [("message_id", .num "7"),
    ("text", .str (String.ofList (List.replicate n 'a')))])]
  parsed := parse_echoed _ fun c hc => by
    obtain rfl := List.eq_of_mem_replicate hc
    decide
  ok := rfl
  numeral := "7"
  message_id := rfl
  id := 7
  integer := by decide

/-- A sender without a proxy, to which Telegram always gives this answer. -/
def sender_of (a : Accepted) : ExternalNotificationSender Unit where
  http :=
    { direct_client := ()
      proxy_client := fun _ => .ok ()
      post := fun _ _ _ => .ok a.response }
  telegram_api_base_url := "https://api.telegram.org"

/-- A message of 2048 letters is accepted by Telegram and recorded as a transient failure. -/
theorem long_echo_not_sent :
    Answers (sender_of (accepted_echo 2048)) ⟨none, some "BOT_TOKEN", "42"⟩ "123:abc"
        (String.ofList (List.replicate 2048 'a')) none (accepted_echo 2048).response ∧
      (send_telegram .free (sender_of (accepted_echo 2048)) ⟨none, some "BOT_TOKEN", "42"⟩
        "123:abc" (String.ofList (List.replicate 2048 'a')) none).is_transient_failure = true := by
  refine ⟨⟨(), rfl, rfl⟩, ?_⟩
  have hcut : ¬ ((Utf8.encode (accepted_echo 2048).body).drop PROVIDER_RESPONSE_MAX_BYTES).all
      isSpaceByte = true := by decide +kernel
  have hnone : Json.parse .free (Utf8.from_utf8_lossy ((Utf8.encode (accepted_echo 2048).body).take
      PROVIDER_RESPONSE_MAX_BYTES)) = none := by
    rw [parse_bounded (accepted_echo 2048).parsed rfl, if_neg fun h => hcut h.2]
  have hread : send_telegram .free (sender_of (accepted_echo 2048)) ⟨none, some "BOT_TOKEN", "42"⟩
      "123:abc" (String.ofList (List.replicate 2048 'a')) none = classify_telegram_response .free 200
        ( read_provider_response_prefix ⟨200, (accepted_echo 2048).chunks.map .ok⟩) := rfl
  rw [hread, read_provider_response_prefix_ok, (accepted_echo 2048).encoded]
  refine (classify_unparsable (by decide) ?_).2
  rw [String.toList_ofList]
  exact hnone

/-- A short one is recorded as sent. -/
theorem short_echo_sent :
    (send_telegram .free (sender_of (accepted_echo 5)) ⟨none, some "BOT_TOKEN", "42"⟩
      "123:abc" "aaaaa" none).is_sent = true := by
  refine (send_telegram_is_sent_iff .free (sender_of (accepted_echo 5)) _ _ _ _ (accepted_echo 5)
    ⟨(), rfl, rfl⟩).1.mpr ⟨?_, rfl, by decide +kernel⟩
  rw [(accepted_echo 5).parsed]
  rfl

end CoinListener.Notifier
