import CoinListener.Core.Models
import CoinListener.Foundation.Table
import CoinListener.Providers.Evm

/-! The ways to write a watched address: created, updated, imported, or assigned from custody. -/
namespace CoinListener.Storage
open Foundation

/-- The rows these transactions read and write. -/
structure AddressTables where
  chains : List Chain
  assets : List Asset
  watched_addresses : List WatchedAddress
  watched_address_assets : List (Uuid × Uuid)
  next_id : Uuid

structure CreateWatchedAddressRequest where
  tenant_id : Option Uuid
  chain_id : Uuid
  address : String
  label : Option String
  priority : String
  scan_interval_seconds : Int
  transfer_filter_enabled : Bool
  balance_change_filter_enabled : Bool
  status : String
  asset_ids : List Uuid
deriving DecidableEq

structure CustodyAccountChainConfig where
  chain_id : Uuid
  asset_ids : List Uuid
deriving DecidableEq

structure WatchedAddressResponse extends WatchedAddress where
  asset_ids : List Uuid
deriving DecidableEq

def DEFAULT_TENANT_ID : Uuid := 1

def CreateWatchedAddressRequest.tenant (request : CreateWatchedAddressRequest) : Uuid :=
  request.tenant_id.getD DEFAULT_TENANT_ID

/-! ### Checks -/

def validate_watched_address (request : CreateWatchedAddressRequest) : AppResult Unit := do
  ensure (10 ≤ request.scan_interval_seconds)
    (.Validation "scan_interval_seconds must be at least 10")
  ensure (["normal", "high", "critical"].contains request.priority)
    (.Validation "priority must be normal, high, or critical")

/-- Surrounding whitespace is ignored here, but it is stored. -/
def validate_address_for_chain (chain : Chain) (address : String) : AppResult Unit :=
  let address := (Text.trim address).toList
  if address.isEmpty then .error (.Validation "address is required")
  else match chain.chain_type with
    | "evm" => ensure (Text.byteLength address = 42 && "0x".toList.isPrefixOf address &&
        (address.drop 2).all Providers.Evm.is_ascii_hexdigit) (.Validation "invalid EVM address")
    | "tron" => ensure ("T".toList.isPrefixOf address && 26 ≤ Text.byteLength address &&
        Text.byteLength address ≤ 36) (.Validation "invalid TRON address")
    | "utxo" => ensure ("bc1".toList.isPrefixOf address || "1".toList.isPrefixOf address ||
        "3".toList.isPrefixOf address || "tb1".toList.isPrefixOf address)
        (.Validation "invalid BTC address")
    | _ => .error (.Validation "unsupported chain type")

def validate_asset_chain_match (chain_id : Uuid) (asset : Asset) : AppResult Unit :=
  ensure (asset.chain_id = chain_id) (.Validation "asset must belong to watched address chain")

def validate_asset_is_active (asset : Asset) : AppResult Unit :=
  ensure (asset.status = "active") (.Validation "asset must be active")

/-- An EVM address that is looked up has passed the check for ASCII hexadecimal digits. -/
def normalize_custody_address_for_chain (chain_type address : String) : String :=
  if chain_type = "evm" then Text.toAsciiLowercase (Text.trim address) else Text.trim address

namespace AddressTables
variable (s : AddressTables)

def get_chain (id : Uuid) : AppResult Chain :=
  required (s.chains.find? (·.id == id)) (.NotFound "chain")

def validate_assets_for_chain (chain_id : Uuid) (asset_ids : List Uuid) :
    AppResult (List Uuid) := do
  ensure (!asset_ids.isEmpty) (.Validation "asset_ids must not be empty")
  let deduped := asset_ids.eraseDups
  let assets := s.assets.filter fun asset => deduped.contains asset.id && asset.status == "active"
  ensure (assets.length = deduped.length) (.Validation "asset does not exist")
  assets.forM fun asset => do
    validate_asset_chain_match chain_id asset
    validate_asset_is_active asset
  return deduped

def validate_watched_address_create_request (request : CreateWatchedAddressRequest) :
    AppResult (List Uuid) := do
  let chain ← s.get_chain request.chain_id
  validate_address_for_chain chain request.address
  validate_watched_address request
  s.validate_assets_for_chain request.chain_id request.asset_ids

/-! ### Writes -/

/-- The unique constraint compares the stored texts. -/
def conflicts (tenant_id chain_id : Uuid) (address : String) (row : WatchedAddress) : Bool :=
  row.tenant_id == tenant_id && row.chain_id == chain_id && row.address == address

def unique_violation : AppError :=
  .Database ("duplicate key value violates unique constraint " ++
    "\"watched_addresses_tenant_id_chain_id_address_key\"")

def new_watched_address (request : CreateWatchedAddressRequest) : WatchedAddress :=
  { id := s.next_id
    tenant_id := request.tenant
    chain_id := request.chain_id
    address := request.address
    label := request.label
    priority := request.priority
    scan_interval_seconds := request.scan_interval_seconds
    transfer_filter_enabled := request.transfer_filter_enabled
    balance_change_filter_enabled := request.balance_change_filter_enabled
    status := request.status }

def insert_watched_address (request : CreateWatchedAddressRequest) :
    AppResult (WatchedAddress × AddressTables) :=
  if s.watched_addresses.any (conflicts request.tenant request.chain_id request.address) then
    .error unique_violation
  else .ok (s.new_watched_address request, { s with
    watched_addresses := s.watched_addresses ++ [s.new_watched_address request]
    next_id := s.next_id + 1 })

def replace_watched_address_assets (address_id : Uuid) (asset_ids : List Uuid) : AddressTables :=
  { s with
    watched_address_assets := s.watched_address_assets.filter (·.1 != address_id) ++
      asset_ids.eraseDups.map fun asset_id => (address_id, asset_id) }

def create_watched_address_in_transaction (request : CreateWatchedAddressRequest)
    (asset_ids : List Uuid) : AppResult (WatchedAddressResponse × AddressTables) := do
  let (address, s) ← s.insert_watched_address request
  return ({ address with asset_ids := asset_ids },
    s.replace_watched_address_assets address.id asset_ids)

def create_watched_address (request : CreateWatchedAddressRequest) :
    AppResult (WatchedAddressResponse × AddressTables) := do
  let asset_ids ← s.validate_watched_address_create_request request
  s.create_watched_address_in_transaction request asset_ids

def updated_watched_address (request : CreateWatchedAddressRequest) (row : WatchedAddress) :
    WatchedAddress :=
  { row with
    chain_id := request.chain_id
    address := request.address
    label := request.label
    priority := request.priority
    scan_interval_seconds := request.scan_interval_seconds
    transfer_filter_enabled := request.transfer_filter_enabled
    balance_change_filter_enabled := request.balance_change_filter_enabled
    status := request.status }

def is_row (tenant_id id : Uuid) (row : WatchedAddress) : Bool :=
  row.id == id && row.tenant_id == tenant_id

/-- `UPDATE_WATCHED_ADDRESS_QUERY`. -/
def set_watched_address (tenant_id id : Uuid) (request : CreateWatchedAddressRequest) :
    AppResult (WatchedAddress × AddressTables) := do
  let row ← required (s.watched_addresses.find? (is_row tenant_id id)) (.NotFound "watched address")
  ensure (!s.watched_addresses.any fun other => !is_row tenant_id id other &&
    conflicts tenant_id request.chain_id request.address other) unique_violation
  return (updated_watched_address request row, { s with
    watched_addresses := Table.update (is_row tenant_id id) (updated_watched_address request)
      s.watched_addresses })

/-- The tenant of the request is not looked at. -/
def update_watched_address (tenant_id id : Uuid) (request : CreateWatchedAddressRequest) :
    AppResult (WatchedAddressResponse × AddressTables) := do
  let asset_ids ← s.validate_watched_address_create_request request
  let (address, s) ← s.set_watched_address tenant_id id request
  return ({ address with asset_ids := asset_ids },
    s.replace_watched_address_assets address.id asset_ids)

/-- `updated` tells whether the mark that follows finds the attempt still to be done. -/
def create_watched_address_for_import_attempt (request : CreateWatchedAddressRequest)
    (updated : Bool) : AppResult (WatchedAddressResponse × AddressTables) := do
  let asset_ids ← s.validate_watched_address_create_request request
  let created ← s.create_watched_address_in_transaction request asset_ids
  ensure updated (.NotFound "watched address import attempt")
  return created

/-! ### Custody -/

def custody_address_normalized_for_chain_id (chain_id : Uuid) (address : String) :
    AppResult (String × String) := do
  let chain ← required (s.chains.find? (·.id == chain_id))
    (.Database "no rows returned by a query that expected to return at least one row")
  return (normalize_custody_address_for_chain chain.chain_type address, chain.chain_type)

/-- The lookup ignores the case of EVM addresses, but no whitespace. -/
def ensure_watched_address_select (tenant_id chain_id : Uuid) (normalized chain_type : String) :
    Option WatchedAddress :=
  s.watched_addresses.find? fun row => row.tenant_id == tenant_id && row.chain_id == chain_id &&
    if Text.toAsciiLowercase chain_type = "evm" then Text.toAsciiLowercase row.address == normalized
    else row.address == normalized

def activate_watched_address (tenant_id id : Uuid) : AddressTables :=
  { s with
    watched_addresses := Table.update (is_row tenant_id id) (fun row => { row with status := "active" })
      s.watched_addresses }

def custody_watched_address_request (tenant_id chain_id : Uuid) (address business_ref : String)
    (asset_ids : List Uuid) : CreateWatchedAddressRequest :=
  { tenant_id := some tenant_id
    chain_id := chain_id
    address := address
    label := some ("托管地址 / " ++ business_ref)
    priority := "normal"
    scan_interval_seconds := 60
    transfer_filter_enabled := true
    balance_change_filter_enabled := true
    status := "active"
    asset_ids := asset_ids }

def ensure_watched_address_assets (address_id : Uuid) (asset_ids : List Uuid) : AddressTables :=
  { s with
    watched_address_assets := asset_ids.foldl (fun rows asset_id =>
      if rows.contains (address_id, asset_id) then rows else rows ++ [(address_id, asset_id)])
      s.watched_address_assets }

def ensure_watched_address_for_chain_config (tenant_id chain_id : Uuid)
    (address business_ref : String) (asset_ids : List Uuid) :
    AppResult (Uuid × AddressTables) := do
  ensure (!asset_ids.isEmpty) (.Validation "custody chain config requires at least one asset")
  let (normalized, chain_type) ← s.custody_address_normalized_for_chain_id chain_id address
  match s.ensure_watched_address_select tenant_id chain_id normalized chain_type with
  | some existing =>
    let s := if existing.status = "active" then s
      else s.activate_watched_address tenant_id existing.id
    return (existing.id, s.ensure_watched_address_assets existing.id asset_ids)
  | none =>
    let (created, s) ← s.create_watched_address_in_transaction
      (custody_watched_address_request tenant_id chain_id address business_ref asset_ids) asset_ids
    return (created.id, s.ensure_watched_address_assets created.id asset_ids)

end AddressTables

open AddressTables in
def ensure_watched_addresses_for_custody_account (tenant_id : Uuid) (address business_ref : String) :
    List CustodyAccountChainConfig → AddressTables → AppResult (List Uuid × AddressTables)
  | [], s => .ok ([], s)
  | config :: configs, s => do
    let _ ← s.validate_assets_for_chain config.chain_id config.asset_ids
    let chain ← s.get_chain config.chain_id
    validate_address_for_chain chain address
    let (id, s) ← s.ensure_watched_address_for_chain_config tenant_id config.chain_id address
      business_ref config.asset_ids
    let (ids, s) ← ensure_watched_addresses_for_custody_account tenant_id address business_ref
      configs s
    return (id :: ids, s)

end CoinListener.Storage
