import CoinListener.Core.Models

/-! Telegram updates and the binding codes in them. -/
namespace CoinListener.Notifier
open Foundation

/-- A chat is identified by a text or a number, here as it is written out. -/
inductive TelegramChatId where
  | string (value : String)
  | number (text : String)
  | other
deriving DecidableEq

structure TelegramChat where
  id : TelegramChatId
  chat_type : String
  title : Option String
  username : Option String
  first_name : Option String
  last_name : Option String
deriving DecidableEq

structure TelegramMessage where
  text : Option String
  chat : TelegramChat
deriving DecidableEq

structure TelegramUpdate where
  update_id : Int
  message : Option TelegramMessage
  channel_post : Option TelegramMessage
deriving DecidableEq

structure TelegramBindingCandidate where
  code : String
  chat : TelegramChatBinding
deriving DecidableEq

def is_code_separator (c : Char) : Bool :=
  c == ',' || c == '.' || c == ':' || c == ';'

def binding_code? (part : List Char) : Option String :=
  let token := ((part.dropWhile is_code_separator).reverse.dropWhile is_code_separator).reverse
  if "bind_".toList.isPrefixOf token || "CL-".toList.isPrefixOf token then
    some (String.ofList token)
  else none

def extract_binding_code (text : String) : Option String :=
  ((text.toList.splitOnP Text.isWhitespace).filter (!·.isEmpty)).findSome? binding_code?

def update_message (update : TelegramUpdate) : Option TelegramMessage :=
  update.message.or update.channel_post

def extract_binding_code_from_update (update : TelegramUpdate) : Option String := do
  let message ← update_message update
  let text ← message.text
  extract_binding_code text

def TelegramChatId.to_string? : TelegramChatId → Option String
  | .string value => some value
  | .number text => some text
  | .other => none

def chat_binding_from_update (update : TelegramUpdate) : Option TelegramChatBinding := do
  let message ← update_message update
  let chat_id ← message.chat.id.to_string?
  let name := " ".intercalate (message.chat.first_name.toList ++ message.chat.last_name.toList)
  return {
    chat_id := chat_id
    chat_type := message.chat.chat_type
    chat_title := message.chat.title.or (if name = "" then none else some name)
    chat_username := message.chat.username }

def telegram_binding_candidate (update : TelegramUpdate) : Option TelegramBindingCandidate := do
  let code ← extract_binding_code_from_update update
  let chat ← chat_binding_from_update update
  return ⟨code, chat⟩

end CoinListener.Notifier
