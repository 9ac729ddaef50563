import CoinListener.Storage.AddressImports

/-! Which imports are accepted: rows are told apart by one spelling of their addresses, whatever the
chains. -/
namespace CoinListener.Storage
open Foundation

/-! ### The checks -/

/-- The spelling by which rows are told apart. -/
def WatchedAddressImportRowRequest.spelling (row : WatchedAddressImportRowRequest) : String :=
  Text.toAsciiLowercase (Text.trim row.address)

section Checks
variable {row_numbers : List Int} {addresses : List String} {chain_ids : List Uuid}
  {rows : List WatchedAddressImportRowRequest} {configs : List CustodyAccountChainConfig}
  {request : CreateWatchedAddressImportRequest}

theorem bind_unit_ok {α : Type} {a : AppResult Unit} {b : AppResult α} {result : α} :
    (a >>= fun _ => b) = .ok result ↔ a = .ok () ∧ b = .ok result := by
  cases a with
  | error e => exact ⟨(fun h => nomatch h), fun h => nomatch h.1⟩
  | ok _ => exact ⟨fun h => ⟨rfl, h⟩, fun h => h.2⟩

/-- Rows pass exactly if each is well formed and none repeats what has been seen. -/
theorem validate_import_rows_iff :
    validate_import_rows row_numbers addresses rows = .ok () ↔
      (∀ row ∈ rows, 0 < row.row_number ∧ Text.trim row.address ≠ "") ∧
      ((rows.map (·.row_number)).Nodup ∧ ∀ row ∈ rows, row.row_number ∉ row_numbers) ∧
      (rows.map (·.spelling)).Nodup ∧ ∀ row ∈ rows, row.spelling ∉ addresses := by
  induction rows generalizing row_numbers addresses with
  | nil => simp [validate_import_rows]
  | cons row rows ih =>
    simp only [List.forall_mem_cons]
    simp only [validate_import_rows, bind_unit_ok, ensure_ok, decide_eq_true_eq,
      Bool.not_eq_true', List.contains_eq_mem, decide_eq_false_iff_not, ih, List.map_cons,
      List.nodup_cons, List.mem_cons, not_or, List.mem_map, not_exists, not_and]
    constructor
    · rintro ⟨hpositive, haddress, hnumber, hspelling, hwell, ⟨hnumbers, hfresh⟩, hspellings,
        hnew⟩
      exact ⟨⟨⟨hpositive, haddress⟩, hwell⟩,
        ⟨⟨fun other hother => (hfresh other hother).1, hnumbers⟩, hnumber,
          fun other hother => (hfresh other hother).2⟩,
        ⟨fun other hother => (hnew other hother).1, hspellings⟩, hspelling,
          fun other hother => (hnew other hother).2⟩
    · rintro ⟨⟨⟨hpositive, haddress⟩, hwell⟩, ⟨⟨hdistinct, hnumbers⟩, hnumber, hfresh⟩,
        ⟨hapart, hspellings⟩, hspelling, hnew⟩
      exact ⟨hpositive, haddress, hnumber, hspelling, hwell,
        ⟨hnumbers, fun other hother => ⟨hdistinct other hother, hfresh other hother⟩⟩,
        hspellings, fun other hother => ⟨hapart other hother, hnew other hother⟩⟩

theorem validate_import_chain_configs_iff :
    validate_import_chain_configs chain_ids configs = .ok () ↔
      (∀ config ∈ configs, config.asset_ids ≠ []) ∧
      (configs.map (·.chain_id)).Nodup ∧ ∀ config ∈ configs, config.chain_id ∉ chain_ids := by
  induction configs generalizing chain_ids with
  | nil => simp [validate_import_chain_configs]
  | cons config configs ih =>
    simp only [List.forall_mem_cons]
    simp only [validate_import_chain_configs, bind_unit_ok, ensure_ok, Bool.not_eq_true',
      List.contains_eq_mem, decide_eq_false_iff_not, ih, List.map_cons, List.nodup_cons,
      List.mem_cons, not_or, List.mem_map, not_exists, not_and, List.isEmpty_eq_false_iff]
    constructor
    · rintro ⟨hassets, hchain, hall, hnodup, hfresh⟩
      exact ⟨⟨hassets, hall⟩, ⟨fun other hother => (hfresh other hother).1, hnodup⟩, hchain,
        fun other hother => (hfresh other hother).2⟩
    · rintro ⟨⟨hassets, hall⟩, ⟨hdistinct, hnodup⟩, hchain, hfresh⟩
      exact ⟨hassets, hchain, hall, hnodup,
        fun other hother => ⟨hdistinct other hother, hfresh other hother⟩⟩

theorem effective_import_chain_configs_ne (defaults : WatchedAddressImportDefaults) :
    effective_import_chain_configs defaults ≠ [] := by
  unfold effective_import_chain_configs
  split
  · exact List.cons_ne_nil _ _
  · next hconfigs => exact fun hnil => hconfigs (by rw [hnil]; rfl)

theorem import_attempt_count_ok {row_count chain_count count : Nat} :
    import_attempt_count row_count chain_count = .ok count ↔
      row_count * chain_count ≤ 2147483647 ∧ row_count * chain_count = count := by
  unfold import_attempt_count
  split
  · next hfits => simp [hfits]
  · next hlarge => simp [hlarge]

/-- The checks of a request other than those of repeated addresses. -/
structure WellFormedImport (request : CreateWatchedAddressImportRequest) : Prop where
  row_numbers : ∀ row ∈ request.rows, 0 < row.row_number
  distinct_rows : (request.rows.map (·.row_number)).Nodup
  addresses : ∀ row ∈ request.rows, Text.trim row.address ≠ ""
  assets : ∀ config ∈ effective_import_chain_configs request.defaults, config.asset_ids ≠ []
  distinct_chains : ((effective_import_chain_configs request.defaults).map (·.chain_id)).Nodup
  attempts : request.rows.length * (effective_import_chain_configs request.defaults).length ≤
    2147483647

theorem validate_import_create_request_iff :
    validate_import_create_request request = .ok () ↔
      WellFormedImport request ∧ request.rows ≠ [] ∧ (request.rows.map (·.spelling)).Nodup := by
  have hconfigs : (!(effective_import_chain_configs request.defaults).isEmpty) = true := by
    simpa using effective_import_chain_configs_ne request.defaults
  simp only [validate_import_create_request, bind_unit_ok, ensure_ok, hconfigs, true_and,
    validate_import_chain_configs_iff, List.not_mem_nil, not_false_eq_true, implies_true, and_true,
    Bool.not_eq_true', List.isEmpty_eq_false_iff]
  constructor
  · rintro ⟨hrows, ⟨hassets, hchains⟩, h⟩
    cases hcount : import_attempt_count request.rows.length
        (effective_import_chain_configs request.defaults).length with
    | error e =>
      rw [hcount] at h
      exact nomatch h
    | ok count =>
      rw [hcount] at h
      obtain ⟨hwell, ⟨hnumbers, _⟩, hspellings, _⟩ := validate_import_rows_iff.mp h
      exact ⟨⟨fun row hrow => (hwell row hrow).1, hnumbers, fun row hrow => (hwell row hrow).2,
        hassets, hchains, (import_attempt_count_ok.mp hcount).1⟩, hrows, hspellings⟩
  · rintro ⟨hwell, hrows, hspellings⟩
    have hcount := import_attempt_count_ok.mpr ⟨hwell.attempts, rfl⟩
    refine ⟨hrows, ⟨hwell.assets, hwell.distinct_chains⟩, ?_⟩
    rw [hcount]
    refine validate_import_rows_iff.mpr ⟨fun row hrow =>
      ⟨hwell.row_numbers row hrow, hwell.addresses row hrow⟩,
      ⟨hwell.distinct_rows, fun _ _ => List.not_mem_nil⟩, hspellings,
      fun _ _ => List.not_mem_nil⟩

end Checks

/-! ### Addresses -/

/-- Lower case for all letters. The case of ASCII letters makes no difference to it. -/
structure Lowercase where
  to_lowercase : String → String
  of_ascii : ∀ text, to_lowercase (Text.toAsciiLowercase text) = to_lowercase text

section Same
variable (lower : Lowercase) (chain_type : Uuid → String)

/-- `normalize_custody_address_for_chain`. -/
def address_on_chain (chain_id : Uuid) (address : String) : String :=
  if chain_type chain_id = "evm" then lower.to_lowercase (Text.trim address) else Text.trim address

/-- Two rows stand for the same address on a chain of the import. -/
def SameAddress (request : CreateWatchedAddressImportRequest)
    (a b : WatchedAddressImportRowRequest) : Prop :=
  ∃ config ∈ effective_import_chain_configs request.defaults,
    address_on_chain lower chain_type config.chain_id a.address =
      address_on_chain lower chain_type config.chain_id b.address

/-- The import is accepted exactly if no two rows stand for the same address. -/
def AcceptedAsDistinct (request : CreateWatchedAddressImportRequest) : Prop :=
  validate_import_create_request request = .ok () ↔
    request.rows.Pairwise fun a b => ¬ SameAddress lower chain_type request a b

/-- No two rows are the same by the coarser reading only, or two are by the finer one anyway. -/
def Settled (finer coarser : WatchedAddressImportRowRequest → WatchedAddressImportRowRequest → Prop)
    (rows : List WatchedAddressImportRowRequest) : Prop :=
  (rows.Pairwise fun a b => coarser a b → finer a b) ∨ ¬ rows.Pairwise fun a b => ¬ finer a b

/-- A chain of the import is an EVM chain. -/
def OnEvm (request : CreateWatchedAddressImportRequest) : Prop :=
  ∃ config ∈ effective_import_chain_configs request.defaults, chain_type config.chain_id = "evm"

/-- With an EVM chain no two rows differ in the case of letters outside ASCII only; without one no two
rows differ in the case of letters only. -/
def CaseSettled (request : CreateWatchedAddressImportRequest) : Prop :=
  (OnEvm chain_type request → Settled (fun a b => a.spelling = b.spelling)
    (fun a b => lower.to_lowercase (Text.trim a.address) =
      lower.to_lowercase (Text.trim b.address)) request.rows) ∧
  (¬ OnEvm chain_type request → Settled (fun a b => Text.trim a.address = Text.trim b.address)
    (fun a b => a.spelling = b.spelling) request.rows)

variable {lower : Lowercase} {chain_type : Uuid → String}
  {finer coarser : WatchedAddressImportRowRequest → WatchedAddressImportRowRequest → Prop}
  {rows : List WatchedAddressImportRowRequest} {request : CreateWatchedAddressImportRequest}
  {a b : WatchedAddressImportRowRequest}

/-- Both readings find a repetition or none. -/
theorem settled_iff (h : ∀ a b, finer a b → coarser a b) :
    Settled finer coarser rows ↔
      ((rows.Pairwise fun a b => ¬ finer a b) ↔ rows.Pairwise fun a b => ¬ coarser a b) := by
  have hcoarser : (rows.Pairwise fun a b => ¬ coarser a b) →
      rows.Pairwise fun a b => ¬ finer a b :=
    fun hnone => hnone.imp fun hnot hsame => hnot (h _ _ hsame)
  constructor
  · rintro (hsame | hfiner)
    · refine ⟨fun hnone => ?_, hcoarser⟩
      exact hnone.imp₂ (fun _ _ hnot hsame hc => hnot (hsame hc)) hsame
    · exact ⟨fun hnone => absurd hnone hfiner, hcoarser⟩
  · intro hiff
    by_cases hnone : rows.Pairwise fun a b => ¬ finer a b
    · exact .inl ((hiff.mp hnone).imp fun hnot hsame => absurd hsame hnot)
    · exact .inr hnone

theorem spelling_of_trim (h : Text.trim a.address = Text.trim b.address) :
    a.spelling = b.spelling := by
  unfold WatchedAddressImportRowRequest.spelling
  rw [h]

theorem lower_of_spelling (h : a.spelling = b.spelling) :
    lower.to_lowercase (Text.trim a.address) = lower.to_lowercase (Text.trim b.address) := by
  have hlower := congrArg lower.to_lowercase h
  unfold WatchedAddressImportRowRequest.spelling at hlower
  rwa [lower.of_ascii, lower.of_ascii] at hlower

/-- On an EVM chain the case makes no difference, and then it makes none on the others. -/
theorem same_on_evm (hevm : OnEvm chain_type request) :
    SameAddress lower chain_type request a b ↔
      lower.to_lowercase (Text.trim a.address) = lower.to_lowercase (Text.trim b.address) := by
  constructor
  · rintro ⟨config, _, hsame⟩
    unfold address_on_chain at hsame
    split at hsame
    · exact hsame
    · rw [hsame]
  · intro hsame
    obtain ⟨config, hconfig, hchain⟩ := hevm
    refine ⟨config, hconfig, ?_⟩
    unfold address_on_chain
    rw [if_pos hchain, if_pos hchain, hsame]

theorem same_off_evm (hevm : ¬ OnEvm chain_type request) :
    SameAddress lower chain_type request a b ↔ Text.trim a.address = Text.trim b.address := by
  have hother : ∀ config ∈ effective_import_chain_configs request.defaults,
      ¬ chain_type config.chain_id = "evm" := fun config hconfig hchain =>
    hevm ⟨config, hconfig, hchain⟩
  constructor
  · rintro ⟨config, hconfig, hsame⟩
    unfold address_on_chain at hsame
    rwa [if_neg (hother config hconfig), if_neg (hother config hconfig)] at hsame
  · intro hsame
    obtain ⟨config, hconfig⟩ :=
      List.exists_mem_of_ne_nil _ (effective_import_chain_configs_ne request.defaults)
    refine ⟨config, hconfig, ?_⟩
    unfold address_on_chain
    rw [if_neg (hother config hconfig), if_neg (hother config hconfig), hsame]

theorem accepted_iff (h : WellFormedImport request) :
    validate_import_create_request request = .ok () ↔
      request.rows ≠ [] ∧ request.rows.Pairwise fun a b => ¬ a.spelling = b.spelling := by
  rw [validate_import_create_request_iff, List.Nodup, List.pairwise_map]
  exact ⟨fun haccepted => haccepted.2, fun haccepted => ⟨h, haccepted⟩⟩

/-- A well-formed import is accepted by the addresses that its rows stand for exactly if it has rows
and the case of letters settles nothing. -/
theorem import_duplicates (h : WellFormedImport request) :
    AcceptedAsDistinct lower chain_type request ↔
      request.rows ≠ [] ∧ CaseSettled lower chain_type request := by
  unfold AcceptedAsDistinct CaseSettled
  rw [accepted_iff h]
  by_cases hrows : request.rows = []
  · rw [hrows]
    simp
  · by_cases hevm : OnEvm chain_type request
    · simp only [same_on_evm hevm, settled_iff fun a b => lower_of_spelling, ne_eq, hrows,
        not_false_eq_true, true_and, hevm, true_implies, not_true_eq_false, false_implies, and_true]
    · simp only [same_off_evm hevm, settled_iff fun a b => spelling_of_trim, ne_eq, hrows,
        not_false_eq_true, true_and, hevm, true_implies, false_implies]
      exact ⟨Iff.symm, Iff.symm⟩

end Same

/-! ### Two TRON addresses -/

def imported_row (row_number : Int) (address : String) : WatchedAddressImportRowRequest :=
  ⟨row_number, address, none, none, none, none, none, none⟩

def two_rows (first second : String) : CreateWatchedAddressImportRequest where
  defaults := ⟨2, [101], [], "normal", 300, true, true, "active"⟩
  rows := [imported_row 1 first, imported_row 2 second]

theorem two_rows_well_formed {first second : String} (hfirst : Text.trim first ≠ "")
    (hsecond : Text.trim second ≠ "") : WellFormedImport (two_rows first second) := by
  refine ⟨?_, ?_, ?_, ?_, ?_, ?_⟩
  · intro row hrow
    simp only [two_rows, List.mem_cons, List.not_mem_nil, or_false] at hrow
    rcases hrow with rfl | rfl
    · exact Int.one_pos
    · exact Int.natCast_pos.mpr Nat.two_pos
  · simp [two_rows, imported_row]
  · intro row hrow
    simp only [two_rows, List.mem_cons, List.not_mem_nil, or_false] at hrow
    rcases hrow with rfl | rfl
    · exact hfirst
    · exact hsecond
  · simp [two_rows, effective_import_chain_configs]
  · simp [two_rows, effective_import_chain_configs]
  · simp [two_rows, effective_import_chain_configs]

/-- Lower case for texts in ASCII. -/
def ascii_lowercase : Lowercase where
  to_lowercase := Text.toAsciiLowercase
  of_ascii text := by
    unfold Text.toAsciiLowercase
    rw [String.toList_ofList, List.map_map, Text.asciiLower_idem]

theorem two_rows_apart {R : WatchedAddressImportRowRequest → WatchedAddressImportRowRequest → Prop}
    (first second : String) :
    (two_rows first second).rows.Pairwise R ↔ R (imported_row 1 first) (imported_row 2 second) := by
  simp [two_rows]

/-- Two addresses on an EVM chain. -/
theorem import_duplicates_evm :
    AcceptedAsDistinct ascii_lowercase (fun _ => "evm")
      (two_rows "0x00000000000000000000000000000000000000aa"
        "0x00000000000000000000000000000000000000BB") := by
  refine (import_duplicates (two_rows_well_formed (by decide +kernel) (by decide +kernel))).mpr
    ⟨List.cons_ne_nil _ _, ?_, ?_⟩
  · exact fun _ => .inl ((two_rows_apart ..).mpr fun hsame => hsame)
  · intro hevm
    exact absurd ⟨⟨2, [101]⟩, List.mem_cons_self .., rfl⟩ hevm

def mixed_case : String := "TJRabPrwbZy45sbavfcjinPJC18kjpRTv8"
def other_case : String := "TJRABPrwbZy45sbavfcjinPJC18kjpRTv8"

/-- On a TRON chain these are two addresses, but the import is refused. -/
theorem tron_import_refused :
    WellFormedImport (two_rows mixed_case other_case) ∧
    validate_import_create_request (two_rows mixed_case other_case) =
      .error (.Validation "addresses must be unique within an import") ∧
    ((two_rows mixed_case other_case).rows.Pairwise fun a b =>
      ¬ SameAddress ascii_lowercase (fun _ => "tron") (two_rows mixed_case other_case) a b) ∧
    ¬ AcceptedAsDistinct ascii_lowercase (fun _ => "tron") (two_rows mixed_case other_case) := by
  have hwell : WellFormedImport (two_rows mixed_case other_case) :=
    two_rows_well_formed (by decide +kernel) (by decide +kernel)
  have hrefused : validate_import_create_request (two_rows mixed_case other_case) =
      .error (.Validation "addresses must be unique within an import") := by
    decide +kernel
  have hevm : ¬ OnEvm (fun _ => "tron") (two_rows mixed_case other_case) := by
    rintro ⟨config, _, hchain⟩
    have hname : "tron" = "evm" := hchain
    exact absurd hname (by decide)
  have hapart : (two_rows mixed_case other_case).rows.Pairwise fun a b =>
      ¬ SameAddress ascii_lowercase (fun _ => "tron") (two_rows mixed_case other_case) a b := by
    rw [two_rows_apart, same_off_evm hevm]
    decide +kernel
  refine ⟨hwell, hrefused, hapart, fun haccepted => ?_⟩
  exact nomatch hrefused.symm.trans (haccepted.mpr hapart)

end CoinListener.Storage
