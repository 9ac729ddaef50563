import CoinListener.Foundation.Transaction
import CoinListener.Storage.Custody

/-! The statements on custody accounts: what each answers, locks and changes.

Every statement sees the tables at one instant. An account that is deleted with its chain or tenant
is not modelled: nothing deletes those. -/
namespace CoinListener.Storage
open Foundation

/-! ### Changes -/

/-- A change of one row: a version of it, a link, or the end of one. -/
inductive CustodyChange where
  | account (row : CustodyAccountRow)
  | assignment (row : CustodyAssignmentRow)
  | chain_config (row : CustodyChainConfigRow)
  | chain_config_asset (chain_config_id asset_id : Uuid)
  | watched_address (row : WatchedAddress)
  | watched_address_asset (address_id asset_id : Uuid)
  | no_watched_address_asset (address_id asset_id : Uuid)

/-- What a transaction holds until it ends: a row, or an entry of a unique index. -/
inductive CustodyKey where
  | account (id : Uuid)
  | account_address (tenant_id : Uuid) (address_normalized : String)
  | assignment (id : Uuid)
  | business_ref (tenant_id : Uuid) (business_ref : String)
  | active_assignment (custody_account_id : Uuid)
  | chain_config (tenant_id custody_account_id chain_id : Uuid)
  | chain_config_asset (chain_config_id asset_id : Uuid)
  | watched_address (id : Uuid)
  | watched_address_text (tenant_id chain_id : Uuid) (address : String)
  | watched_address_asset (address_id asset_id : Uuid)
deriving DecidableEq

namespace CustodyChange

def apply : CustodyChange → CustodyTables → CustodyTables
  | .account row, t =>
    { t with custody_accounts := Table.put (·.id) row t.custody_accounts }
  | .assignment row, t =>
    { t with custody_account_assignments := Table.put (·.id) row t.custody_account_assignments }
  | .chain_config row, t =>
    { t with custody_account_chain_configs := Table.put (·.id) row t.custody_account_chain_configs }
  | .chain_config_asset chain_config_id asset_id, t =>
    { t with
      custody_account_chain_config_assets :=
        Table.put id (chain_config_id, asset_id) t.custody_account_chain_config_assets }
  | .watched_address row, t =>
    { t with watched_addresses := Table.put (·.id) row t.watched_addresses }
  | .watched_address_asset address_id asset_id, t =>
    { t with
      watched_address_assets := Table.put id (address_id, asset_id) t.watched_address_assets }
  | .no_watched_address_asset address_id asset_id, t =>
    { t with watched_address_assets := t.watched_address_assets.filter (· != (address_id, asset_id)) }

/-- The row that changes and its entries in the unique indexes. -/
def keys : CustodyChange → List CustodyKey
  | .account row => [.account row.id, .account_address row.tenant_id row.address_normalized]
  | .assignment row => [.assignment row.id, .business_ref row.tenant_id row.business_ref,
      .active_assignment row.custody_account_id]
  | .chain_config row => [.chain_config row.tenant_id row.custody_account_id row.chain_id]
  | .chain_config_asset chain_config_id asset_id => [.chain_config_asset chain_config_id asset_id]
  | .watched_address row => [.watched_address row.id,
      .watched_address_text row.tenant_id row.chain_id row.address]
  | .watched_address_asset address_id asset_id => [.watched_address_asset address_id asset_id]
  | .no_watched_address_asset address_id asset_id => [.watched_address_asset address_id asset_id]

/-- Changes of the accounts and the assignments. -/
def custodial : CustodyChange → Bool
  | .account _ => true
  | .assignment _ => true
  | _ => false

end CustodyChange

/-! ### Statements -/

inductive CustodyStatement where
  | select_chain_types_for_configs (chain_ids : List Uuid)
  | get_chain (id : Uuid)
  | insert_custody_account (tenant_id chain_id : Uuid) (address address_normalized : String)
      (label : Option String) (source : CustodySource) (status : CustodyAccountStatus)
  | validate_assets_for_chain (chain_id : Uuid) (asset_ids : List Uuid)
  | insert_custody_account_chain_config (tenant_id custody_account_id chain_id : Uuid)
  | insert_custody_account_chain_config_asset (chain_config_id asset_id : Uuid)
  | claim_available_pool_account (tenant_id : Uuid)
  | select_user_custody_account_by_address_for_update (tenant_id : Uuid) (address : String)
  | insert_user_custody_account_for_assignment (tenant_id chain_id : Uuid)
      (address address_normalized : String)
  | select_user_custody_account_for_update (tenant_id : Uuid) (address_normalized : String)
  | select_active_custody_assignment_for_account (tenant_id custody_account_id : Uuid)
  | list_custody_account_configs (tenant_id : Uuid) (custody_account_ids : List Uuid)
  | select_chain_type (id : Uuid)
  | ensure_watched_address_select (tenant_id chain_id : Uuid) (normalized chain_type : String)
  | ensure_watched_address_update (id tenant_id : Uuid)
  | insert_watched_address (request : CreateWatchedAddressRequest)
  | delete_watched_address_assets (address_id : Uuid)
  | insert_watched_address_assets (address_id : Uuid) (asset_ids : List Uuid)
  | insert_custody_assignment (tenant_id custody_account_id : Uuid)
      (applicant_type : CustodyApplicantType) (business_ref : String) (purpose : Option String)
      (watched_address_id : Uuid)
  | mark_custody_account_assigned (id watched_address_id tenant_id : Uuid)
  | release_custody_assignment (id tenant_id : Uuid)
  | mark_released_pool_account_available (id tenant_id : Uuid)
  | list_custody_accounts (tenant_id : Uuid) (chain_id : Option Uuid)
      (source : Option CustodySource) (status : Option CustodyAccountStatus)
  | list_custody_assignments (tenant_id : Uuid) (chain_id : Option Uuid)
      (status : Option CustodyAssignmentStatus) (business_ref : Option String)

abbrev CustodyStatement.Answer : CustodyStatement → Type
  | .select_chain_types_for_configs _ => List (Uuid × String)
  | .get_chain _ => Chain
  | .insert_custody_account .. => CustodyAccountRow
  | .validate_assets_for_chain .. => List Uuid
  | .insert_custody_account_chain_config .. => Uuid
  | .claim_available_pool_account _ => Option CustodyAccountRow
  | .select_user_custody_account_by_address_for_update .. => Option CustodyAccountRow
  | .insert_user_custody_account_for_assignment .. => Option CustodyAccountRow
  | .select_user_custody_account_for_update .. => Option CustodyAccountRow
  | .select_active_custody_assignment_for_account .. => Option Uuid
  | .list_custody_account_configs .. => List CustodyAccountChainConfigRow
  | .select_chain_type _ => Option String
  | .ensure_watched_address_select .. => Option WatchedAddress
  | .ensure_watched_address_update .. => Option WatchedAddress
  | .insert_watched_address _ => WatchedAddress
  | .insert_custody_assignment .. => Option Uuid
  | .release_custody_assignment .. => Option Uuid
  | .list_custody_accounts .. => List CustodyAccountListRow
  | .list_custody_assignments .. => List CustodyAccountAssignment
  | _ => Unit

/-- What a statement answers and does: rows it locks without a change, the changes, and how many
identifiers it uses up. -/
structure CustodyEffect (α : Type) where
  answer : AppResult α
  reserved : List CustodyKey := []
  log : List CustodyChange := []
  new_ids : Nat := 0

namespace CustodyTables
variable (t : CustodyTables) (now : Timestamp) (next_id : Uuid)

/-- The rows that every way to write a watched address reads. -/
def address_tables : AddressTables :=
  { chains := t.chains
    assets := t.assets
    watched_addresses := t.watched_addresses
    watched_address_assets := t.watched_address_assets
    next_id := next_id }

def account_unique_violation : AppError :=
  .Database ("duplicate key value violates unique constraint " ++
    "\"idx_custody_accounts_tenant_address_normalized\"")

def address_taken (tenant_id : Uuid) (address_normalized : String) : Bool :=
  t.custody_accounts.any fun row =>
    row.tenant_id == tenant_id && row.address_normalized == address_normalized

/-- `SELECT_CHAIN_TYPES_FOR_CONFIGS_QUERY`. -/
def select_chain_types_for_configs (chain_ids : List Uuid) : CustodyEffect (List (Uuid × String)) :=
  { answer := .ok ((t.chains.filter (chain_ids.contains ·.id)).map fun chain =>
      (chain.id, chain.chain_type)) }

def new_custody_account (tenant_id chain_id : Uuid) (address address_normalized : String)
    (label : Option String) (source : CustodySource) (status : CustodyAccountStatus) :
    CustodyAccountRow :=
  { id := next_id
    tenant_id := tenant_id
    chain_id := chain_id
    address := address
    address_normalized := address_normalized
    label := label
    source := source
    status := status
    watched_address_id := none
    created_at := now
    updated_at := now }

/-- `INSERT_CUSTODY_ACCOUNT_QUERY`. -/
def insert_custody_account (tenant_id chain_id : Uuid) (address address_normalized : String)
    (label : Option String) (source : CustodySource) (status : CustodyAccountStatus) :
    CustodyEffect CustodyAccountRow :=
  if t.address_taken tenant_id address_normalized then { answer := .error account_unique_violation }
  else
    let row := new_custody_account now next_id tenant_id chain_id address address_normalized label
      source status
    { answer := .ok row, log := [.account row], new_ids := 1 }

/-- `INSERT_CUSTODY_ACCOUNT_CHAIN_CONFIG_QUERY`: a config that exists is returned. -/
def insert_custody_account_chain_config (tenant_id custody_account_id chain_id : Uuid) :
    CustodyEffect Uuid :=
  match t.custody_account_chain_configs.find? fun config => config.tenant_id == tenant_id &&
      config.custody_account_id == custody_account_id && config.chain_id == chain_id with
  | some config => { answer := .ok config.id, log := [.chain_config config] }
  | none =>
    { answer := .ok next_id
      log := [.chain_config
        { id := next_id
          tenant_id := tenant_id
          custody_account_id := custody_account_id
          chain_id := chain_id }]
      new_ids := 1 }

/-- `INSERT_CUSTODY_ACCOUNT_CHAIN_CONFIG_ASSET_QUERY`. -/
def insert_custody_account_chain_config_asset (chain_config_id asset_id : Uuid) : CustodyEffect Unit :=
  if t.custody_account_chain_config_assets.contains (chain_config_id, asset_id) then
    { answer := .ok () }
  else { answer := .ok (), log := [.chain_config_asset chain_config_id asset_id] }

def claimable (tenant_id : Uuid) (row : CustodyAccountRow) : Bool :=
  row.tenant_id == tenant_id && row.source = .pool && row.status = .available

/-- A row that is answered is locked. -/
def for_update (row : Option CustodyAccountRow) : CustodyEffect (Option CustodyAccountRow) :=
  { answer := .ok row, reserved := row.toList.map (CustodyKey.account ·.id) }

/-- `CLAIM_AVAILABLE_POOL_ACCOUNT_QUERY`: the oldest account that nobody else has locked. -/
def claim_available_pool_account (skipped : CustodyKey → Bool) (tenant_id : Uuid) :
    CustodyEffect (Option CustodyAccountRow) :=
  for_update (((t.custody_accounts.filter (claimable tenant_id)).insertionSort
    (·.created_at ≤ ·.created_at)).find? fun row => !skipped (.account row.id))

section Lower
variable (lower : String → String)

def is_config_of (row : CustodyAccountRow) (config : CustodyChainConfigRow) : Bool :=
  config.tenant_id == row.tenant_id && config.custody_account_id == row.id

def has_configs (row : CustodyAccountRow) : Bool :=
  t.custody_account_chain_configs.any (is_config_of row)

def has_evm_config (row : CustodyAccountRow) : Bool :=
  t.custody_account_chain_configs.any fun config => is_config_of row config &&
    t.chains.any fun chain => chain.id == config.chain_id && lower chain.chain_type == "evm"

/-- The case of the address is ignored where one of the chains is an EVM chain. -/
def user_account_matches (tenant_id : Uuid) (address : String) (row : CustodyAccountRow) : Bool :=
  row.tenant_id == tenant_id && row.source = .user &&
    match t.chains.find? (·.id == row.chain_id) with
    | none => false
    | some legacy_chain =>
      let evm := if t.has_configs row then t.has_evm_config lower row
        else lower legacy_chain.chain_type == "evm"
      if evm then lower row.address_normalized == lower (btrim address)
      else row.address_normalized == btrim address

def found_before (address : String) (a b : CustodyAccountRow) : Bool :=
  let rank (row : CustodyAccountRow) := if row.address_normalized = btrim address then 0 else 1
  rank a < rank b || (rank a == rank b && a.created_at ≤ b.created_at)

/-- `SELECT_USER_CUSTODY_ACCOUNT_BY_ADDRESS_FOR_UPDATE_QUERY`. -/
def select_user_custody_account_by_address_for_update (tenant_id : Uuid) (address : String) :
    CustodyEffect (Option CustodyAccountRow) :=
  for_update ((t.custody_accounts.filter (t.user_account_matches lower tenant_id address)).insertionSort
    (found_before address · · = true)).head?

end Lower

/-- `INSERT_USER_CUSTODY_ACCOUNT_FOR_ASSIGNMENT_QUERY`. -/
def insert_user_custody_account_for_assignment (tenant_id chain_id : Uuid)
    (address address_normalized : String) : CustodyEffect (Option CustodyAccountRow) :=
  if t.address_taken tenant_id address_normalized then { answer := .ok none }
  else
    let row := new_custody_account now next_id tenant_id chain_id address address_normalized none
      .user .assigned
    { answer := .ok (some row), log := [.account row], new_ids := 1 }

/-- `SELECT_USER_CUSTODY_ACCOUNT_FOR_UPDATE_QUERY`. -/
def select_user_custody_account_for_update (tenant_id : Uuid) (address_normalized : String) :
    CustodyEffect (Option CustodyAccountRow) :=
  for_update (t.custody_accounts.find? fun row =>
    row.tenant_id == tenant_id && row.address_normalized == address_normalized)

/-- `SELECT_ACTIVE_CUSTODY_ASSIGNMENT_FOR_ACCOUNT_QUERY`. -/
def select_active_custody_assignment_for_account (tenant_id custody_account_id : Uuid) :
    CustodyEffect (Option Uuid) :=
  { answer := .ok ((t.custody_account_assignments.find? fun row => row.tenant_id == tenant_id &&
      row.custody_account_id == custody_account_id && row.status = .active).map (·.id)) }

def config_assets (config : CustodyChainConfigRow) : List Asset :=
  t.assets.filter fun asset => t.custody_account_chain_config_assets.contains (config.id, asset.id)

/-- Ordered by symbol. -/
def chain_config_row (config : CustodyChainConfigRow) (chain : Chain) :
    CustodyAccountChainConfigRow :=
  let assets := sort_assets (fun a b => a.symbol ≤ b.symbol) (t.config_assets config)
  { id := config.id
    custody_account_id := config.custody_account_id
    chain_id := config.chain_id
    chain_name := chain.name
    asset_ids := assets.map (·.id)
    asset_symbols := assets.map (·.symbol) }

/-- `LIST_CUSTODY_ACCOUNT_CONFIGS_QUERY`. -/
def list_custody_account_configs (tenant_id : Uuid) (custody_account_ids : List Uuid) :
    CustodyEffect (List CustodyAccountChainConfigRow) :=
  { answer := .ok ((t.custody_account_chain_configs.filter fun config =>
      config.tenant_id == tenant_id && custody_account_ids.contains config.custody_account_id).flatMap
        (fun config => ((t.chains.find? (·.id == config.chain_id)).map
          (t.chain_config_row config)).toList)
      |>.insertionSort (·.chain_name ≤ ·.chain_name)) }

/-! #### Watched addresses -/

def select_chain_type (id : Uuid) : CustodyEffect (Option String) :=
  { answer := .ok ((t.chains.find? (·.id == id)).map (·.chain_type)) }

/-- `ENSURE_WATCHED_ADDRESS_UPDATE_QUERY`. -/
def ensure_watched_address_update (id tenant_id : Uuid) : CustodyEffect (Option WatchedAddress) :=
  let row := (t.watched_addresses.find? (AddressTables.is_row tenant_id id)).map
    fun row => { row with status := "active" }
  { answer := .ok row, log := row.toList.map .watched_address }

/-- `CREATE_WATCHED_ADDRESS_QUERY`. -/
def insert_watched_address (request : CreateWatchedAddressRequest) : CustodyEffect WatchedAddress :=
  match (t.address_tables next_id).insert_watched_address request with
  | .ok (row, _) => { answer := .ok row, log := [.watched_address row], new_ids := 1 }
  | .error e => { answer := .error e }

/-- `REPLACE_WATCHED_ADDRESS_ASSETS_DELETE_QUERY`. -/
def delete_watched_address_assets (address_id : Uuid) : CustodyEffect Unit :=
  { answer := .ok ()
    log := (t.watched_address_assets.filter (·.1 == address_id)).map fun link =>
      .no_watched_address_asset link.1 link.2 }

/-- `REPLACE_WATCHED_ADDRESS_ASSETS_INSERT_QUERY`, and `ENSURE_WATCHED_ADDRESS_ASSET_QUERY` for a
single asset. -/
def insert_watched_address_assets (address_id : Uuid) (asset_ids : List Uuid) :
    CustodyEffect Unit :=
  { answer := .ok ()
    log := (asset_ids.filter fun asset_id =>
      !t.watched_address_assets.contains (address_id, asset_id)).eraseDups.map fun asset_id =>
        .watched_address_asset address_id asset_id }

/-! #### Assignments -/

/-- The unique constraint on the references, and the one on active assignments. -/
def assignment_conflicts (tenant_id custody_account_id : Uuid) (business_ref : String) : Bool :=
  t.custody_account_assignments.any fun row =>
    (row.tenant_id == tenant_id && row.business_ref == business_ref) ||
      (row.custody_account_id == custody_account_id && row.status = .active)

def new_custody_assignment (tenant_id custody_account_id : Uuid)
    (applicant_type : CustodyApplicantType) (business_ref : String) (purpose : Option String)
    (watched_address_id : Uuid) : CustodyAssignmentRow :=
  { id := next_id
    tenant_id := tenant_id
    custody_account_id := custody_account_id
    applicant_type := applicant_type
    business_ref := business_ref
    purpose := purpose
    status := .active
    watched_address_id := some watched_address_id
    assigned_at := now
    released_at := none
    created_at := now
    updated_at := now }

/-- `INSERT_CUSTODY_ASSIGNMENT_QUERY`. -/
def insert_custody_assignment (tenant_id custody_account_id : Uuid)
    (applicant_type : CustodyApplicantType) (business_ref : String) (purpose : Option String)
    (watched_address_id : Uuid) : CustodyEffect (Option Uuid) :=
  if t.assignment_conflicts tenant_id custody_account_id business_ref then { answer := .ok none }
  else
    { answer := .ok (some next_id)
      log := [.assignment (new_custody_assignment now next_id tenant_id custody_account_id
        applicant_type business_ref purpose watched_address_id)]
      new_ids := 1 }

def find_account (id tenant_id : Uuid) : Option CustodyAccountRow :=
  t.custody_accounts.find? fun row => row.id == id && row.tenant_id == tenant_id

def assigned_account (watched_address_id : Uuid) (row : CustodyAccountRow) : CustodyAccountRow :=
  { row with
    status := .assigned
    watched_address_id := some watched_address_id
    updated_at := now }

/-- `MARK_CUSTODY_ACCOUNT_ASSIGNED_QUERY`. -/
def mark_custody_account_assigned (id watched_address_id tenant_id : Uuid) : CustodyEffect Unit :=
  { answer := .ok ()
    log := (t.find_account id tenant_id).toList.map fun row =>
      .account (assigned_account now watched_address_id row) }

def released_assignment (row : CustodyAssignmentRow) : CustodyAssignmentRow :=
  { row with
    status := .released
    released_at := some now
    updated_at := now }

/-- `RELEASE_CUSTODY_ASSIGNMENT_QUERY`. -/
def release_custody_assignment (id tenant_id : Uuid) : CustodyEffect (Option Uuid) :=
  let row := t.custody_account_assignments.find? fun row =>
    row.id == id && row.tenant_id == tenant_id && row.status = .active
  { answer := .ok (row.map (·.custody_account_id))
    log := row.toList.map fun row => .assignment (released_assignment now row) }

def released_account (row : CustodyAccountRow) : CustodyAccountRow :=
  { row with
    status := if row.source = .pool then .available else row.status
    updated_at := now }

/-- `MARK_RELEASED_POOL_ACCOUNT_AVAILABLE_QUERY`. -/
def mark_released_pool_account_available (id tenant_id : Uuid) : CustodyEffect Unit :=
  { answer := .ok ()
    log := (t.find_account id tenant_id).toList.map fun row => .account (released_account now row) }

/-! #### Lists -/

/-- An account without configs is on the chain it was created with. -/
def on_chain (tenant_id account_id legacy_chain_id chain_id : Uuid) : Bool :=
  let configs := t.custody_account_chain_configs.filter fun config =>
    config.tenant_id == tenant_id && config.custody_account_id == account_id
  configs.any (·.chain_id == chain_id) || (configs.isEmpty && legacy_chain_id == chain_id)

/-- With its active assignment, where there is one. -/
def account_list_rows (row : CustodyAccountRow) (chain : Chain) : List CustodyAccountListRow :=
  match t.custody_account_assignments.filter fun assignment =>
      assignment.custody_account_id == row.id && assignment.status = .active with
  | [] =>
    [{ row with chain_name := chain.name, current_assignment_id := none,
                current_business_ref := none }]
  | assignments => assignments.map fun assignment =>
    { row with chain_name := chain.name, current_assignment_id := some assignment.id,
               current_business_ref := some assignment.business_ref }

/-- `LIST_CUSTODY_ACCOUNTS_QUERY`. -/
def list_custody_accounts (tenant_id : Uuid) (chain_id : Option Uuid)
    (source : Option CustodySource) (status : Option CustodyAccountStatus) :
    CustodyEffect (List CustodyAccountListRow) :=
  { answer := .ok ((t.custody_accounts.filter fun row => row.tenant_id == tenant_id &&
      chain_id.all (t.on_chain row.tenant_id row.id row.chain_id) &&
      source.all (row.source = ·) && status.all (row.status = ·)).flatMap
        (fun row => ((t.chains.find? (·.id == row.chain_id)).map
          (t.account_list_rows row)).getD [])
      |>.insertionSort (·.created_at ≥ ·.created_at)) }

def assignment_list_row (assignment : CustodyAssignmentRow) (account : CustodyAccountRow)
    (chain : Chain) : CustodyAccountAssignment :=
  { assignment with
    chain_id := account.chain_id
    chain_name := chain.name
    address := account.address }

/-- `LIST_CUSTODY_ASSIGNMENTS_QUERY`. -/
def list_custody_assignments (tenant_id : Uuid) (chain_id : Option Uuid)
    (status : Option CustodyAssignmentStatus) (business_ref : Option String) :
    CustodyEffect (List CustodyAccountAssignment) :=
  { answer := .ok ((t.custody_account_assignments.filter fun row => row.tenant_id == tenant_id &&
      status.all (row.status = ·) && business_ref.all (row.business_ref == ·)).flatMap
        (fun row => (do
          let account ← t.find_account row.custody_account_id row.tenant_id
          let chain ← t.chains.find? fun (chain : Chain) => chain.id == account.chain_id &&
            chain_id.all (t.on_chain row.tenant_id row.custody_account_id account.chain_id)
          return assignment_list_row row account chain).toList)
      |>.insertionSort (·.assigned_at ≥ ·.assigned_at)) }

/-- What a statement answers and does. `skipped` are the keys that others hold. -/
def effect (lower : String → String) (skipped : CustodyKey → Bool) :
    (statement : CustodyStatement) → CustodyEffect statement.Answer
  | .select_chain_types_for_configs chain_ids => t.select_chain_types_for_configs chain_ids
  | .get_chain id => { answer := (t.address_tables next_id).get_chain id }
  | .insert_custody_account tenant_id chain_id address address_normalized label source status =>
    t.insert_custody_account now next_id tenant_id chain_id address address_normalized label source
      status
  | .validate_assets_for_chain chain_id asset_ids =>
    { answer := (t.address_tables next_id).validate_assets_for_chain chain_id asset_ids }
  | .insert_custody_account_chain_config tenant_id custody_account_id chain_id =>
    t.insert_custody_account_chain_config next_id tenant_id custody_account_id chain_id
  | .insert_custody_account_chain_config_asset chain_config_id asset_id =>
    t.insert_custody_account_chain_config_asset chain_config_id asset_id
  | .claim_available_pool_account tenant_id => t.claim_available_pool_account skipped tenant_id
  | .select_user_custody_account_by_address_for_update tenant_id address =>
    t.select_user_custody_account_by_address_for_update lower tenant_id address
  | .insert_user_custody_account_for_assignment tenant_id chain_id address address_normalized =>
    t.insert_user_custody_account_for_assignment now next_id tenant_id chain_id address
      address_normalized
  | .select_user_custody_account_for_update tenant_id address_normalized =>
    t.select_user_custody_account_for_update tenant_id address_normalized
  | .select_active_custody_assignment_for_account tenant_id custody_account_id =>
    t.select_active_custody_assignment_for_account tenant_id custody_account_id
  | .list_custody_account_configs tenant_id custody_account_ids =>
    t.list_custody_account_configs tenant_id custody_account_ids
  | .select_chain_type id => t.select_chain_type id
  | .ensure_watched_address_select tenant_id chain_id normalized chain_type =>
    { answer := .ok ((t.address_tables next_id).ensure_watched_address_select tenant_id chain_id
        normalized chain_type) }
  | .ensure_watched_address_update id tenant_id => t.ensure_watched_address_update id tenant_id
  | .insert_watched_address request => t.insert_watched_address next_id request
  | .delete_watched_address_assets address_id => t.delete_watched_address_assets address_id
  | .insert_watched_address_assets address_id asset_ids =>
    t.insert_watched_address_assets address_id asset_ids
  | .insert_custody_assignment tenant_id custody_account_id applicant_type business_ref purpose
      watched_address_id =>
    t.insert_custody_assignment now next_id tenant_id custody_account_id applicant_type business_ref
      purpose watched_address_id
  | .mark_custody_account_assigned id watched_address_id tenant_id =>
    t.mark_custody_account_assigned now id watched_address_id tenant_id
  | .release_custody_assignment id tenant_id => t.release_custody_assignment now id tenant_id
  | .mark_released_pool_account_available id tenant_id =>
    t.mark_released_pool_account_available now id tenant_id
  | .list_custody_accounts tenant_id chain_id source status =>
    t.list_custody_accounts tenant_id chain_id source status
  | .list_custody_assignments tenant_id chain_id status business_ref =>
    t.list_custody_assignments tenant_id chain_id status business_ref

end CustodyTables

/-- The statements and changes on custody accounts. `lower` is the database's own. -/
def custody_schema (lower : String → String) : Transaction.Schema CustodyTables CustodyChange CustodyKey
    AppError CustodyStatement CustodyStatement.Answer where
  apply := CustodyChange.apply
  keys := CustodyChange.keys
  effect skipped now next_id t statement :=
    let effect := t.effect now next_id lower skipped statement
    { answer := effect.answer
      locks := effect.reserved ++ effect.log.flatMap CustodyChange.keys
      log := effect.log
      next_id := next_id + effect.new_ids }
  locked _ hc _ hk := List.mem_append_right _ (List.mem_flatMap_of_mem hc hk)
  next_id_le := Nat.le_add_right ..

end CoinListener.Storage
