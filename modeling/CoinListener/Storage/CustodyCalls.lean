import CoinListener.Storage.CustodyStatements

/-! Custody accounts are created, assigned and released: the calls, statement by statement. -/
namespace CoinListener.Storage
open Foundation Transaction

abbrev CustodyCall (α : Type) :=
  Prog (Op CustodyStatement) (Op.Answer CustodyStatement.Answer) AppError α

namespace CustodyCall

def ask (statement : CustodyStatement) : CustodyCall statement.Answer :=
  Prog.perform (.ask statement : Op CustodyStatement)

def no_rows : AppError :=
  .Database "no rows returned by a query that expected to return at least one row"

/-! ### Chain configs -/

/-- Chains have unique identifiers. -/
def chain_types_for_configs (configs : List CustodyAccountChainConfigRequest) :
    CustodyCall (List (Uuid × String)) := do
  let chain_types ← ask (.select_chain_types_for_configs (configs.map (·.chain_id)))
  Prog.lift (ensure (chain_types.length = configs.length)
    (.Validation "custody chain config contains unknown chain"))
  return chain_types

def insert_custody_chain_config (tenant_id custody_account_id : Uuid)
    (config : CustodyAccountChainConfigRequest) : CustodyCall (List Unit) := do
  let _ ← ask (.validate_assets_for_chain config.chain_id config.asset_ids)
  let id ← ask (.insert_custody_account_chain_config tenant_id custody_account_id config.chain_id)
  Prog.forEach (fun asset_id => do
    ask (.insert_custody_account_chain_config_asset id asset_id)
    return []) config.asset_ids

def validate_and_insert_custody_chain_configs (tenant_id custody_account_id : Uuid)
    (configs : List CustodyAccountChainConfigRequest) : CustodyCall Unit := do
  Prog.lift (validate_custody_chain_config_shape configs)
  let _ ← Prog.forEach (insert_custody_chain_config tenant_id custody_account_id) configs
  return ()

def configs_for_accounts (tenant_id : Uuid) (account_ids : List Uuid) :
    CustodyCall (List CustodyAccountChainConfigRow) :=
  if account_ids.isEmpty then return []
  else ask (.list_custody_account_configs tenant_id account_ids)

def configs_for_account_in_transaction (tenant_id account_id : Uuid) :
    CustodyCall (List CustodyAccountConfig) := do
  let rows ← ask (.list_custody_account_configs tenant_id [account_id])
  Prog.lift (ensure (!rows.isEmpty) (.Validation "custody account has no chain configs"))
  return rows.map (·.toCustodyAccountConfig)

/-! ### Lists -/

/-- No account is listed twice. -/
def custody_account_from_list_row (configs : List CustodyAccountChainConfigRow)
    (row : CustodyAccountListRow) : CustodyAccount :=
  { row with
    chain_configs := (configs.filter (·.custody_account_id == row.id)).map
      (·.toCustodyAccountConfig) }

def list_custody_accounts (tenant_id : Uuid) (query : CustodyAccountQuery) :
    CustodyCall (List CustodyAccount) := do
  let source ← Prog.lift (query.source.mapM validate_custody_source)
  let status ← Prog.lift (query.status.mapM validate_custody_account_status)
  let rows ← ask (.list_custody_accounts tenant_id query.chain_id source status)
  let configs ← configs_for_accounts tenant_id (rows.map (·.id))
  return rows.map (custody_account_from_list_row configs)

def list_custody_assignments (tenant_id : Uuid) (query : CustodyAssignmentQuery) :
    CustodyCall (List CustodyAccountAssignment) := do
  let status ← Prog.lift (query.status.mapM validate_custody_assignment_status)
  ask (.list_custody_assignments tenant_id query.chain_id status query.business_ref)

/-! ### Watched addresses -/

def custody_address_normalized_for_chain_id (chain_id : Uuid) (address : String) :
    CustodyCall (String × String) := do
  let chain_type ← ask (.select_chain_type chain_id)
  let chain_type ← Prog.lift (required chain_type no_rows)
  return (normalize_custody_address_for_chain chain_type address, chain_type)

def create_watched_address_in_transaction (request : CreateWatchedAddressRequest)
    (asset_ids : List Uuid) : CustodyCall WatchedAddressResponse := do
  let address ← ask (.insert_watched_address request)
  ask (.delete_watched_address_assets address.id)
  ask (.insert_watched_address_assets address.id asset_ids)
  return { address with asset_ids := asset_ids }

def activate_watched_address (tenant_id : Uuid) (existing : WatchedAddress) : CustodyCall Uuid :=
  if existing.status = "active" then return existing.id
  else do
    let row ← ask (.ensure_watched_address_update existing.id tenant_id)
    let row ← Prog.lift (required row no_rows)
    return row.id

def find_or_create_watched_address (tenant_id chain_id : Uuid) (address business_ref : String)
    (asset_ids : List Uuid) : Option WatchedAddress → CustodyCall Uuid
  | some existing => activate_watched_address tenant_id existing
  | none => do
    let created ← create_watched_address_in_transaction
      (AddressTables.custody_watched_address_request tenant_id chain_id address business_ref
        asset_ids) asset_ids
    return created.id

def ensure_watched_address_for_chain_config (tenant_id chain_id : Uuid)
    (address business_ref : String) (asset_ids : List Uuid) : CustodyCall Uuid := do
  Prog.lift (ensure (!asset_ids.isEmpty)
    (.Validation "custody chain config requires at least one asset"))
  let (normalized, chain_type) ← custody_address_normalized_for_chain_id chain_id address
  let existing ← ask (.ensure_watched_address_select tenant_id chain_id normalized chain_type)
  let id ← find_or_create_watched_address tenant_id chain_id address business_ref asset_ids existing
  let _ ← Prog.forEach (fun asset_id => do
    ask (.insert_watched_address_assets id [asset_id])
    return ([] : List Unit)) asset_ids
  return id

def ensure_watched_address_for_custody_account (tenant_id : Uuid) (address business_ref : String)
    (config : CustodyAccountConfig) : CustodyCall (List CustodyAssignmentWatchedAddress) := do
  let _ ← ask (.validate_assets_for_chain config.chain_id config.asset_ids)
  let chain ← ask (.get_chain config.chain_id)
  Prog.lift (validate_address_for_chain chain address)
  let watched_address_id ← ensure_watched_address_for_chain_config tenant_id config.chain_id address
    business_ref config.asset_ids
  return [{ chain_id := config.chain_id
            chain_name := config.chain_name
            watched_address_id := watched_address_id
            asset_ids := config.asset_ids }]

def ensure_watched_addresses_for_custody_account (tenant_id : Uuid) (address business_ref : String)
    (configs : List CustodyAccountConfig) : CustodyCall (List CustodyAssignmentWatchedAddress) :=
  Prog.forEach (ensure_watched_address_for_custody_account tenant_id address business_ref) configs

section Lowercase
variable (to_lowercase : String → String)

/-! ### Create -/

def normalize_custody_account_address (address : String) (chain_types : List String) : String :=
  if chain_types.contains "evm" then to_lowercase (Text.trim address) else Text.trim address

def validate_custody_address (address : String) (config : CustodyAccountChainConfigRequest) :
    CustodyCall (List Unit) := do
  let chain ← ask (.get_chain config.chain_id)
  Prog.lift (validate_address_for_chain chain address)
  return []

/-- An account from the pool is available unless the caller says otherwise. -/
def requested_status (source : CustodySource) (status : Option String) :
    AppResult CustodyAccountStatus :=
  validate_custody_account_status
    (status.getD (if source = .pool then "available" else "assigned"))

def insert_custody_account (tenant_id : Uuid) (request : CreateCustodyAccountRequest)
    (source : CustodySource) (status : CustodyAccountStatus) : CustodyCall (Uuid × Uuid) := do
  let address := Text.trim request.address
  let chain_types ← chain_types_for_configs request.chain_configs
  let _ ← Prog.forEach (validate_custody_address address) request.chain_configs
  let normalized := normalize_custody_account_address to_lowercase address
    (chain_types.map (·.2))
  let legacy_chain_id ← Prog.lift (legacy_chain_id_for_create_request request)
  let row ← ask (.insert_custody_account tenant_id legacy_chain_id address normalized request.label
    source status)
  validate_and_insert_custody_chain_configs tenant_id row.id request.chain_configs
  return (row.id, legacy_chain_id)

def create_custody_account (tenant_id : Uuid) (request : CreateCustodyAccountRequest) :
    CustodyCall CustodyAccount := do
  let source ← Prog.lift (validate_custody_source request.source)
  Prog.lift (validate_custody_chain_config_shape request.chain_configs)
  let status ← Prog.lift (requested_status source request.status)
  let (account_id, legacy_chain_id) ←
    transaction (insert_custody_account to_lowercase tenant_id request source status)
  let accounts ← list_custody_accounts tenant_id
    { chain_id := some legacy_chain_id, source := none, status := none }
  Prog.lift (required (accounts.find? (·.id == account_id)) (.NotFound "custody account"))

/-! ### Assign -/

def normalized_user_assignment_address (address : String) :
    Option (List CustodyAccountChainConfigRequest) → CustodyCall String
  | some configs => do
    Prog.lift (validate_custody_chain_config_shape configs)
    let chain_types ← chain_types_for_configs configs
    return normalize_custody_account_address to_lowercase address (chain_types.map (·.2))
  | none => return to_lowercase (Text.trim address)

def no_active_assignment : Option Uuid → AppResult Unit
  | none => .ok ()
  | some id =>
    .error (.Validation ("custody account already has active assignment " ++ Uuid.to_string id))

def validate_assignable_custody_account (tenant_id : Uuid) (account : CustodyAccountRow) :
    CustodyCall Unit := do
  Prog.lift (ensure (account.status ≠ .disabled) (.Validation "custody account is disabled"))
  let active ← ask (.select_active_custody_assignment_for_account tenant_id account.id)
  Prog.lift (no_active_assignment active)

/-- The account that is inserted, or the one that has the address meanwhile. -/
def inserted_or_existing (tenant_id : Uuid) (normalized : String)
    (configs : List CustodyAccountChainConfigRequest) :
    Option CustodyAccountRow → CustodyCall CustodyAccountRow
  | some inserted => do
    validate_and_insert_custody_chain_configs tenant_id inserted.id configs
    return inserted
  | none => do
    let existing ← ask (.select_user_custody_account_for_update tenant_id normalized)
    let existing ← Prog.lift (required existing no_rows)
    validate_assignable_custody_account tenant_id existing
    Prog.lift (ensure (existing.source = .user)
      (.Validation "custody account source does not match user request"))
    return existing

/-- The checked configs are not empty. -/
def create_account_for_assignment (tenant_id : Uuid) (address : String)
    (configs : List CustodyAccountChainConfigRequest) : CustodyCall CustodyAccountRow := do
  let normalized ← normalized_user_assignment_address to_lowercase address (some configs)
  let legacy_chain_id := (configs.map (·.chain_id)).headD 0
  let inserted ← ask (.insert_user_custody_account_for_assignment tenant_id legacy_chain_id address
    normalized)
  inserted_or_existing tenant_id normalized configs inserted

def existing_or_created (tenant_id : Uuid) (address : String)
    (chain_configs : Option (List CustodyAccountChainConfigRequest)) :
    Option CustodyAccountRow → CustodyCall CustodyAccountRow
  | some existing => do
    validate_assignable_custody_account tenant_id existing
    return existing
  | none => do
    let configs ← Prog.lift (required chain_configs
      (.Validation "chain_configs are required for new user custody account"))
    create_account_for_assignment to_lowercase tenant_id address configs

def claim_or_create_account_for_assignment (tenant_id : Uuid) (source : CustodySource)
    (address : Option String) (chain_configs : Option (List CustodyAccountChainConfigRequest)) :
    CustodyCall CustodyAccountRow :=
  if source = .pool then do
    let account ← ask (.claim_available_pool_account tenant_id)
    Prog.lift (required account (.Validation "no available custody account"))
  else do
    let address ← Prog.lift (required address
      (.Validation "address is required for user custody account"))
    let existing ← ask (.select_user_custody_account_by_address_for_update tenant_id address)
    existing_or_created to_lowercase tenant_id address chain_configs existing

/-- What one assignment inserts and marks. -/
structure AssignedCustody where
  account_id : Uuid
  assignment_id : Uuid
  watched_addresses : List CustodyAssignmentWatchedAddress

def insert_custody_assignment (tenant_id : Uuid) (source : CustodySource)
    (applicant_type : CustodyApplicantType) (business_ref : String) (address purpose : Option String)
    (chain_configs : Option (List CustodyAccountChainConfigRequest)) :
    CustodyCall AssignedCustody := do
  let account ← claim_or_create_account_for_assignment to_lowercase tenant_id source address
    chain_configs
  let configs ← configs_for_account_in_transaction tenant_id account.id
  let watched_addresses ← ensure_watched_addresses_for_custody_account tenant_id account.address
    business_ref configs
  let legacy_watched_address_id ← Prog.lift
    (legacy_watched_address_id_for_account account watched_addresses)
  let assignment_id ← ask (.insert_custody_assignment tenant_id account.id applicant_type
    business_ref purpose legacy_watched_address_id)
  let assignment_id ← Prog.lift (required assignment_id (.Validation
    "custody assignment conflicts with existing active assignment or business_ref"))
  ask (.mark_custody_account_assigned account.id legacy_watched_address_id tenant_id)
  return { account_id := account.id
           assignment_id := assignment_id
           watched_addresses := watched_addresses }

def assign_custody_account (tenant_id : Uuid) (request : AssignCustodyAccountRequest) :
    CustodyCall AssignCustodyAccountResponse := do
  let source ← Prog.lift (validate_custody_source request.source)
  let applicant_type ← Prog.lift (validate_custody_applicant_type request.applicant_type)
  let business_ref := Text.trim request.business_ref
  Prog.lift (validate_business_ref business_ref)
  let address := (request.address.map Text.trim).filter (· != "")
  let assigned ← transaction (insert_custody_assignment to_lowercase tenant_id source applicant_type
    business_ref address request.purpose request.chain_configs)
  let accounts ← list_custody_accounts tenant_id { chain_id := none, source := none, status := none }
  let account ← Prog.lift (required (accounts.find? (·.id == assigned.account_id))
    (.NotFound "custody account"))
  let assignments ← list_custody_assignments tenant_id
    { chain_id := none, status := some "active", business_ref := some business_ref }
  let assignment ← Prog.lift (required (assignments.find? (·.id == assigned.assignment_id))
    (.NotFound "custody assignment"))
  return { account := account
           assignment := assignment
           watched_addresses := assigned.watched_addresses }

end Lowercase

/-! ### Release -/

def release_assignment (tenant_id id : Uuid) : CustodyCall Unit := do
  let custody_account_id ← ask (.release_custody_assignment id tenant_id)
  let custody_account_id ← Prog.lift (required custody_account_id (.NotFound "custody assignment"))
  ask (.mark_released_pool_account_available custody_account_id tenant_id)

def release_custody_assignment (tenant_id id : Uuid) : CustodyCall Unit :=
  transaction (release_assignment tenant_id id)

end CustodyCall

/-- What the clients call. What a call returns is not looked at. -/
inductive CustodyRequest (to_lowercase : String → String) : CustodyCall Unit → Prop where
  | create (tenant_id : Uuid) (request : CreateCustodyAccountRequest) :
    CustodyRequest to_lowercase
      ((CustodyCall.create_custody_account to_lowercase tenant_id request).bind fun _ => .done ())
  | assign (tenant_id : Uuid) (request : AssignCustodyAccountRequest) :
    CustodyRequest to_lowercase
      ((CustodyCall.assign_custody_account to_lowercase tenant_id request).bind fun _ => .done ())
  | release (tenant_id id : Uuid) :
    CustodyRequest to_lowercase (CustodyCall.release_custody_assignment tenant_id id)
  | list_accounts (tenant_id : Uuid) (query : CustodyAccountQuery) :
    CustodyRequest to_lowercase
      ((CustodyCall.list_custody_accounts tenant_id query).bind fun _ => .done ())
  | list_assignments (tenant_id : Uuid) (query : CustodyAssignmentQuery) :
    CustodyRequest to_lowercase
      ((CustodyCall.list_custody_assignments tenant_id query).bind fun _ => .done ())

end CoinListener.Storage
