import CoinListener.Storage.Addresses
import CoinListener.Storage.Scan

/-! Custody accounts: their rows, and the checks of what callers pass. -/
namespace CoinListener.Storage
open Foundation

/-! ### Rows -/

inductive CustodySource where
  | pool | user
deriving DecidableEq

inductive CustodyAccountStatus where
  | available | assigned | disabled
deriving DecidableEq

inductive CustodyAssignmentStatus where
  | active | released | cancelled
deriving DecidableEq

inductive CustodyApplicantType where
  | api | internal
deriving DecidableEq

structure CustodyAccountRow where
  id : Uuid
  tenant_id : Uuid
  chain_id : Uuid
  address : String
  address_normalized : String
  label : Option String
  source : CustodySource
  status : CustodyAccountStatus
  watched_address_id : Option Uuid
  created_at : Timestamp
  updated_at : Timestamp
deriving DecidableEq

structure CustodyAssignmentRow where
  id : Uuid
  tenant_id : Uuid
  custody_account_id : Uuid
  applicant_type : CustodyApplicantType
  business_ref : String
  purpose : Option String
  status : CustodyAssignmentStatus
  watched_address_id : Option Uuid
  assigned_at : Timestamp
  released_at : Option Timestamp
  created_at : Timestamp
  updated_at : Timestamp
deriving DecidableEq

structure CustodyChainConfigRow where
  id : Uuid
  tenant_id : Uuid
  custody_account_id : Uuid
  chain_id : Uuid
deriving DecidableEq

structure CustodyTables where
  chains : List Chain
  assets : List Asset
  watched_addresses : List WatchedAddress
  watched_address_assets : List (Uuid × Uuid)
  custody_accounts : List CustodyAccountRow
  custody_account_chain_configs : List CustodyChainConfigRow
  custody_account_chain_config_assets : List (Uuid × Uuid)
  custody_account_assignments : List CustodyAssignmentRow

/-! ### Requests and responses -/

abbrev CustodyAccountChainConfigRequest := CustodyAccountChainConfig

structure CreateCustodyAccountRequest where
  chain_id : Uuid
  address : String
  label : Option String
  source : String
  status : Option String
  chain_configs : List CustodyAccountChainConfigRequest

structure AssignCustodyAccountRequest where
  source : String
  address : Option String
  applicant_type : String
  business_ref : String
  purpose : Option String
  chain_configs : Option (List CustodyAccountChainConfigRequest)

structure CustodyAccountQuery where
  chain_id : Option Uuid
  source : Option String
  status : Option String

structure CustodyAssignmentQuery where
  chain_id : Option Uuid
  status : Option String
  business_ref : Option String

/-- A chain config as it is listed. -/
structure CustodyAccountConfig extends CustodyAccountChainConfig where
  id : Uuid
  chain_name : String
  asset_symbols : List String
deriving DecidableEq

structure CustodyAccountChainConfigRow extends CustodyAccountConfig where
  custody_account_id : Uuid
deriving DecidableEq

structure CustodyAccountListRow extends CustodyAccountRow where
  chain_name : String
  current_assignment_id : Option Uuid
  current_business_ref : Option String
deriving DecidableEq

structure CustodyAccount extends CustodyAccountListRow where
  chain_configs : List CustodyAccountConfig
deriving DecidableEq

structure CustodyAccountAssignment extends CustodyAssignmentRow where
  chain_id : Uuid
  chain_name : String
  address : String
deriving DecidableEq

structure CustodyAssignmentWatchedAddress where
  chain_id : Uuid
  chain_name : String
  watched_address_id : Uuid
  asset_ids : List Uuid
deriving DecidableEq

structure AssignCustodyAccountResponse where
  account : CustodyAccount
  assignment : CustodyAccountAssignment
  watched_addresses : List CustodyAssignmentWatchedAddress
deriving DecidableEq

/-! ### Checks -/

def validate_custody_source (source : String) : AppResult CustodySource :=
  if source = "pool" then .ok .pool
  else if source = "user" then .ok .user
  else .error (.Validation "custody source must be pool or user")

def validate_custody_account_status (status : String) : AppResult CustodyAccountStatus :=
  if status = "available" then .ok .available
  else if status = "assigned" then .ok .assigned
  else if status = "disabled" then .ok .disabled
  else .error (.Validation "custody account status must be available, assigned, or disabled")

def validate_custody_applicant_type (applicant_type : String) : AppResult CustodyApplicantType :=
  if applicant_type = "api" then .ok .api
  else if applicant_type = "internal" then .ok .internal
  else .error (.Validation "custody applicant_type must be api or internal")

def validate_custody_assignment_status (status : String) : AppResult CustodyAssignmentStatus :=
  if status = "active" then .ok .active
  else if status = "released" then .ok .released
  else if status = "cancelled" then .ok .cancelled
  else .error (.Validation "custody assignment status must be active, released, or cancelled")

def validate_business_ref (business_ref : String) : AppResult Unit :=
  ensure (Text.trim business_ref != "") (.Validation "business_ref is required")

/-- The chains before `config` are told apart from it. -/
def validate_custody_chain_configs (seen : List Uuid) :
    List CustodyAccountChainConfigRequest → AppResult Unit
  | [] => .ok ()
  | config :: configs => do
    ensure (!seen.contains config.chain_id)
      (.Validation "custody chain configs cannot repeat chain_id")
    ensure (!config.asset_ids.isEmpty)
      (.Validation "each custody chain config requires at least one asset")
    ensure (config.asset_ids.eraseDups.length = config.asset_ids.length)
      (.Validation "custody chain config asset_ids cannot contain duplicates")
    validate_custody_chain_configs (config.chain_id :: seen) configs

def validate_custody_chain_config_shape (configs : List CustodyAccountChainConfigRequest) :
    AppResult Unit := do
  ensure (!configs.isEmpty) (.Validation "at least one custody chain config is required")
  validate_custody_chain_configs [] configs

def legacy_chain_id_for_create_request (request : CreateCustodyAccountRequest) : AppResult Uuid := do
  ensure (request.chain_configs.any (·.chain_id == request.chain_id))
    (.Validation "legacy chain_id must be included in custody chain_configs")
  return request.chain_id

def legacy_watched_address_id_for_account (account : CustodyAccountRow)
    (watched_addresses : List CustodyAssignmentWatchedAddress) : AppResult Uuid :=
  required ((watched_addresses.find? (·.chain_id == account.chain_id)).map (·.watched_address_id))
    (.Validation "custody account has no legacy chain watched address")

/-- `btrim` of a text: without spaces at either end. -/
def btrim (text : String) : String :=
  String.ofList ((text.toList.dropWhile (· == ' ')).rdropWhile (· == ' '))

end CoinListener.Storage
