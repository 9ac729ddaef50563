import CoinListener.Core.Common
import CoinListener.Foundation.Json
import CoinListener.Foundation.Utf8

/-! Sending to an external provider: the request, the bounded read of the answer, and its
classification. -/
namespace CoinListener.Notifier
open Foundation

structure ExternalSendMetadata where
  last_error : Option String
  provider_message_id : Option String
  provider_status_code : Option Int
  provider_response : Option String
deriving DecidableEq

inductive ExternalSendOutcome where
  | Sent (metadata : ExternalSendMetadata)
  | PermanentFailure (metadata : ExternalSendMetadata)
  | TransientFailure (metadata : ExternalSendMetadata)
deriving DecidableEq

namespace ExternalSendOutcome

def is_sent : ExternalSendOutcome → Bool
  | .Sent _ => true
  | _ => false

def metadata : ExternalSendOutcome → ExternalSendMetadata
  | .Sent metadata => metadata
  | .PermanentFailure metadata => metadata
  | .TransientFailure metadata => metadata

def is_permanent_failure : ExternalSendOutcome → Bool
  | .PermanentFailure _ => true
  | _ => false

def is_transient_failure : ExternalSendOutcome → Bool
  | .TransientFailure _ => true
  | _ => false

end ExternalSendOutcome

structure TelegramChannelConfig where
  telegram_bot_id : Option Uuid
  bot_token_env : Option String
  chat_id : String

/-- A response whose body arrives in chunks; an error ends it. -/
structure Response where
  status : Nat
  chunks : List (Except String (List UInt8))

def PROVIDER_RESPONSE_MAX_BYTES : Nat := 2048

/-! ### Redaction of URLs in messages -/

/-- Where the first URL of a text starts, whatever the case of its scheme. -/
def find_url_start (text : List Char) : Option Nat :=
  let lower_text := text.map Text.asciiLower
  match Text.find "http://".toList lower_text, Text.find "https://".toList lower_text with
  | some http, some https => some (min http https)
  | some http, none => some http
  | none, some https => some https
  | none, none => none

/-- Each round takes one URL out of the text, so as many rounds as there are characters suffice. -/
def redact_urls_rounds (redact_url : List Char → List Char) : Nat → List Char → List Char
  | 0, rest => rest
  | rounds + 1, rest =>
    match find_url_start rest with
    | none => rest
    | some url_start =>
      let from_url := rest.drop url_start
      rest.take url_start ++ redact_url (from_url.takeWhile (!Text.isWhitespace ·)) ++
        redact_urls_rounds redact_url rounds (from_url.dropWhile (!Text.isWhitespace ·))

def redact_urls_in_text (redact_url : List Char → List Char) (text : List Char) : List Char :=
  redact_urls_rounds redact_url text.length text

/-- The token after `/bot` is not shown. -/
def redact_telegram_url (url : List Char) : List Char :=
  match Text.find "/bot".toList url with
  | none => url
  | some bot_index =>
    let token_start := bot_index + 4
    url.take token_start ++ "<redacted>".toList ++ (url.drop token_start).dropWhile (· != '/')

def telegram_network_error_message (url error : String) : String :=
  "telegram " ++ String.ofList (redact_telegram_url url.toList) ++ " failed: " ++
    String.ofList (redact_urls_in_text redact_telegram_url error.toList)

/-! ### Reading and classifying a response -/

/-- The bytes read so far and the chunks to come. Reading stops at the limit, at the end and at an
error. -/
def read_chunks (bytes : List UInt8) : List (Except String (List UInt8)) → List UInt8
  | [] => bytes
  | chunk :: chunks =>
    if bytes.length < PROVIDER_RESPONSE_MAX_BYTES then
      match chunk with
      | .ok chunk =>
        read_chunks (bytes ++ chunk.take (PROVIDER_RESPONSE_MAX_BYTES - bytes.length)) chunks
      | .error _ => bytes
    else bytes

def read_provider_response_prefix (response : Response) : String :=
  String.ofList (Utf8.from_utf8_lossy (read_chunks [] response.chunks))

def truncate_provider_response (body : String) : String :=
  if Text.byteLength body.toList ≤ PROVIDER_RESPONSE_MAX_BYTES then body
  else String.ofList (Text.takeBytes PROVIDER_RESPONSE_MAX_BYTES body.toList)

section Classify
variable (limits : Json.Limits)

def classify_telegram_response (status_code : Nat) (body : String) : ExternalSendOutcome :=
  let parsed_body := Json.parse limits body.toList
  let provider_message_id :=
    (((parsed_body.bind (·.get "result")).bind (·.get "message_id")).bind Json.as_i64).map toString
  let telegram_success :=
    (parsed_body.bind (·.get "ok")).bind Json.as_bool == some true && provider_message_id.isSome
  let metadata : ExternalSendMetadata :=
    { last_error := none
      provider_message_id := provider_message_id
      provider_status_code := some status_code
      provider_response := some (truncate_provider_response body) }
  if 200 ≤ status_code ∧ status_code ≤ 299 then
    if telegram_success then .Sent metadata
    else if parsed_body.isNone then
      .TransientFailure { metadata with
        last_error := some "telegram returned unparsable success body" }
    else
      .TransientFailure { metadata with
        last_error := some "telegram returned unsuccessful success body" }
  else if status_code = 408 ∨ status_code = 429 ∨ (500 ≤ status_code ∧ status_code ≤ 599) then
    .TransientFailure { metadata with
      last_error := some ("telegram returned retryable status " ++ toString status_code) }
  else
    .PermanentFailure { metadata with
      last_error := some ("telegram returned permanent status " ++ toString status_code) }

/-- Webhooks: the status alone decides. -/
def classify_webhook_response (status_code : Nat) (body : String) : ExternalSendOutcome :=
  let metadata : ExternalSendMetadata :=
    { last_error := none
      provider_message_id := none
      provider_status_code := some status_code
      provider_response := some (truncate_provider_response body) }
  if 200 ≤ status_code ∧ status_code ≤ 299 then .Sent metadata
  else if status_code = 408 ∨ status_code = 429 ∨ (500 ≤ status_code ∧ status_code ≤ 599) then
    .TransientFailure { metadata with
      last_error := some ("webhook returned retryable status " ++ toString status_code) }
  else
    .PermanentFailure { metadata with
      last_error := some ("webhook returned permanent status " ++ toString status_code) }

/-! ### The sender -/

/-- The HTTP library: clients with and without a proxy, and one request. -/
structure Http (Client : Type) where
  direct_client : Client
  proxy_client : String → AppResult Client
  post : Client → String → Json → Except String Response

structure ExternalNotificationSender (Client : Type) where
  http : Http Client
  telegram_api_base_url : String

variable {Client : Type}

def client_for (http : Http Client) (proxy_url : Option String) : AppResult Client :=
  match normalize_proxy_url proxy_url with
  | .error error => .error error
  | .ok none => .ok http.direct_client
  | .ok (some proxy_url) => http.proxy_client proxy_url

def telegram_bot_method_url (sender : ExternalNotificationSender Client)
    (bot_token method : String) : String :=
  Text.trimEndMatches '/' sender.telegram_api_base_url ++ "/bot" ++ bot_token ++ "/" ++ method

def send_telegram (sender : ExternalNotificationSender Client) (config : TelegramChannelConfig)
    (bot_token text : String) (proxy_url : Option String) : ExternalSendOutcome :=
  match client_for sender.http proxy_url with
  | .error error => .TransientFailure ⟨some error.to_string, none, none, none⟩
  | .ok client =>
    let url := telegram_bot_method_url sender bot_token "sendMessage"
    match sender.http.post client url
      (.obj [("chat_id", .str config.chat_id), ("text", .str text)]) with
    | .ok response =>
      classify_telegram_response limits response.status ( read_provider_response_prefix response)
    | .error error =>
      .TransientFailure ⟨some (telegram_network_error_message url error), none, none, none⟩

end Classify

end CoinListener.Notifier
