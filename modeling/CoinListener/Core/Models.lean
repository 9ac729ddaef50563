import CoinListener.Core.Common
import CoinListener.Foundation.Json

/-! The records the scan reads and writes. -/
namespace CoinListener
open Foundation

structure Chain where
  id : Uuid
  key : String
  chain_type : String
  default_confirmations : Int
  name : String := ""
deriving DecidableEq

structure Provider where
  id : Uuid
  chain_id : Uuid
  name : String
  base_url : String
  timeout_ms : Int
deriving DecidableEq

structure Asset where
  id : Uuid
  chain_id : Uuid
  asset_type : String
  symbol : String
  name : String
  contract_address : Option String
  decimals : Int
  status : String
deriving DecidableEq

structure ScanAddressContext where
  id : Uuid
  tenant_id : Uuid
  chain_id : Uuid
  address : String
deriving DecidableEq

structure ScanCursor where
  tenant_id : Uuid
  chain_id : Uuid
  address_id : Uuid
  cursor_type : String
  last_scanned_block : Int
deriving DecidableEq

structure CreateBalanceSnapshotRequest where
  tenant_id : Uuid
  chain_id : Uuid
  address_id : Uuid
  asset_id : Uuid
  balance_raw : String
  balance_decimal : String
  block_number : Option Int
  block_hash : Option String
  source_provider_id : Option Uuid
deriving DecidableEq

structure BalanceSnapshot extends CreateBalanceSnapshotRequest where
  id : Uuid
  observed_at : Nat
deriving DecidableEq

structure AddressEventDraft where
  tenant_id : Uuid
  chain_id : Uuid
  address_id : Uuid
  asset_id : Uuid
  event_type : String
  direction : String
  is_transfer : Bool
  tx_hash : Option String
  log_index : Option Int
  block_number : Option Int
  block_hash : Option String
  confirmations : Int
  from_address : Option String
  to_address : Option String
  amount_raw : Option String
  amount_decimal : Option String
  balance_before_raw : Option String
  balance_after_raw : Option String
  balance_delta_raw : Option String
  metadata : Json

structure AddressEvent extends AddressEventDraft where
  id : Uuid

/-- Seconds since the epoch. -/
abbrev Timestamp := Int

/-- The status of an outbox row. -/
inductive OutboxStatus where
  | pending | processing | retryable | delivered | failed
deriving DecidableEq

structure NotificationOutboxItem where
  id : Uuid
  tenant_id : Uuid
  event_id : Uuid
  status : OutboxStatus
  attempt_count : Int
  next_attempt_at : Timestamp
  locked_at : Option Timestamp
  locked_by : Option String
  last_error : Option String
  delivered_at : Option Timestamp
  created_at : Timestamp
deriving DecidableEq

/-- `channel_ids` may hold no channel twice; requests that do are refused. -/
structure NotificationRule where
  id : Uuid
  tenant_id : Uuid
  chain_id : Option Uuid
  address_id : Option Uuid
  asset_id : Option Uuid
  event_type : Option String
  is_transfer : Option Bool
  min_amount_raw : Option String
  direction : Option String
  channel_ids : List Uuid
  enabled : Bool
  created_at : Timestamp
  unique_channel_ids : channel_ids.Nodup

structure NotificationChannel where
  id : Uuid
  tenant_id : Uuid
  channel_type : String
  name : String
  config : Json
  status : String
  created_at : Timestamp

structure TelegramBotSecret where
  id : Uuid
  tenant_id : Uuid
  bot_token : String
  effective_proxy_url : Option String
  status : String

structure TelegramChatBinding where
  chat_id : String
  chat_type : String
  chat_title : Option String
  chat_username : Option String
deriving DecidableEq

/-- The status of a delivery. -/
inductive DeliveryStatus where
  | processing | sent | skipped | failed
deriving DecidableEq

/-- What a delivery failed of: something before the request, or the answer to it. -/
inductive DeliveryFailure where
  | not_sent | permanent | transient
deriving DecidableEq

/-- A delivery. `failure` is no column: it tells what the last `failed` was for. -/
structure NotificationDelivery where
  id : Uuid
  tenant_id : Uuid
  event_id : Uuid
  rule_id : Option Uuid
  channel_id : Option Uuid
  channel_type : Option String
  status : DeliveryStatus
  attempt_count : Int
  idempotency_key : Option String
  provider_message_id : Option String
  provider_status_code : Option Int
  provider_response : Option String
  last_error : Option String
  sent_at : Option Timestamp
  failure : Option DeliveryFailure
deriving DecidableEq

structure InAppNotification where
  id : Uuid
  tenant_id : Uuid
  event_id : Uuid
  delivery_id : Option Uuid
  title : String
  body : String
deriving DecidableEq

/-- Where a scan job stands. -/
inductive ScanJobStatus where
  | pending | retryable | processing | succeeded | dead_letter
deriving DecidableEq

structure ScanJob where
  id : Uuid
  tenant_id : Uuid
  address_id : Uuid
  chain_id : Uuid
  status : ScanJobStatus
  attempt_count : Int
  max_attempts : Int
  next_attempt_at : Timestamp
  locked_at : Option Timestamp
  locked_by : Option String
  lease_expires_at : Option Timestamp
  last_error : Option String
  last_scan_run_id : Option Uuid
  retry_of_scan_run_id : Option Uuid
  succeeded_at : Option Timestamp
  dead_lettered_at : Option Timestamp
  created_at : Timestamp
  updated_at : Timestamp
deriving DecidableEq

/-- How a scan run stands or ended. -/
inductive ScanRunStatus where
  | running | success | failed | locked | unsupported
deriving DecidableEq

/-- A JSON object, by key. -/
abbrev Metadata := List (String × Json)

/-- `left || right`: the members of the right side win. -/
def Metadata.merge (left right : Metadata) : Metadata :=
  left.filter (fun member => right.all (·.1 != member.1)) ++ right

structure ScanRun where
  id : Uuid
  tenant_id : Uuid
  task_id : Uuid
  address_id : Uuid
  chain_id : Uuid
  chain_type : String
  status : ScanRunStatus
  event_count : Int
  started_at : Timestamp
  finished_at : Option Timestamp
  duration_ms : Option Int
  error_message : Option String
  metadata : Metadata
  created_at : Timestamp
  updated_at : Timestamp

structure WatchedAddress where
  id : Uuid
  tenant_id : Uuid
  chain_id : Uuid
  address : String
  label : Option String
  priority : String
  scan_interval_seconds : Int
  transfer_filter_enabled : Bool
  balance_change_filter_enabled : Bool
  status : String
deriving DecidableEq

structure ScanAddressCandidate where
  id : Uuid
  tenant_id : Uuid
  chain_id : Uuid
  scan_interval_seconds : Int
deriving DecidableEq

structure ScanAddressTask where
  task_id : Uuid
  address_id : Uuid
  tenant_id : Uuid
  chain_id : Uuid
  attempt : Nat
  enqueued_at : Timestamp
deriving DecidableEq

/-- What a scan run is created from: the address to scan and the type of its chain. -/
structure ScanRunContext extends ScanAddressContext where
  chain_type : String
deriving DecidableEq

/-- The columns of the unique index on transfers. -/
structure TransferKey where
  chain_id : Uuid
  tx_hash : String
  log_index : Int
  address_id : Uuid
  asset_id : Uuid
  event_type : String
deriving DecidableEq

/-- The index covers the rows that have a transaction hash; a missing log index counts as `-1`. -/
def AddressEventDraft.unique_transfer (draft : AddressEventDraft) : Option TransferKey :=
  draft.tx_hash.map fun tx_hash =>
    { chain_id := draft.chain_id
      tx_hash := tx_hash
      log_index := draft.log_index.getD (-1)
      address_id := draft.address_id
      asset_id := draft.asset_id
      event_type := draft.event_type }

end CoinListener
