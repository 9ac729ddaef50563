import CoinListener.Foundation.Js
import CoinListener.Storage.ImportDuplicates

/-! A pasted text or CSV read as the rows of an import, and what the API makes of the rows that are shown
without an error. -/
namespace CoinListener.Frontend
open Foundation Storage

/-! ### Reading -/

structure ParsedAddressImportRow where
  row_number : Nat
  address : String
  label : Option String
  priority : Option String
  scan_interval_seconds : Option Js.Number
  transfer_filter_enabled : Option Bool
  balance_change_filter_enabled : Option Bool
  status : Option String
  error : Option String
deriving DecidableEq

structure ParsedAddressImport where
  rows : List ParsedAddressImportRow
  warnings : List String

structure Line where
  text : List Char
  lineNumber : Nat

def supportedCsvFields : List String :=
  ["address", "label", "priority", "scan_interval_seconds", "transfer_filter_enabled",
    "balance_change_filter_enabled", "status"]

def splitCsvLine (line : List Char) : List (List Char) :=
  Js.split ',' line

/-- An empty text counts as none. -/
def orNull (value : Option String) : Option String :=
  value.filter (· ≠ "")

def parseOptionalNumber (value : Option String) : Option Js.Number :=
  (orNull value).bind fun value =>
    let parsed := Js.number value.toList
    if parsed.isFinite then some parsed else none

/-- `toLowerCase`. -/
structure JsLowercase extends Lowercase where
  empty : to_lowercase "" = ""

section Lower
variable (lower : JsLowercase)

def parseOptionalBoolean (value : Option String) : Option Bool :=
  (orNull value).bind fun value =>
    let normalized := lower.to_lowercase (String.ofList (Js.trim value.toList))
    if normalized = "true" then some true
    else if normalized = "false" then some false
    else none

/-- The keys seen so far, and the rows to come. -/
def markRows (seen : List String) : List ParsedAddressImportRow → List ParsedAddressImportRow
  | [] => []
  | row :: rows =>
    let key := lower.to_lowercase (String.ofList (Js.trim row.address.toList))
    if key = "" then { row with error := some "地址不能为空" } :: markRows seen rows
    else if seen.contains key then { row with error := some "重复地址" } :: markRows seen rows
    else row :: markRows (key :: seen) rows

def markDuplicateRows (rows : List ParsedAddressImportRow) : ParsedAddressImport :=
  ⟨markRows lower [] rows, []⟩

/-- The cells of a line under their headers. Of headers with one name the last one counts. -/
def record (headers : List String) (values : List (List Char)) (field : String) : Option String :=
  let cells := headers.zipIdx.map fun header =>
    (header.1, ((values[header.2]?).map fun value => String.ofList (Js.trim value)).getD "")
  (cells.reverse.find? (·.1 == field)).map (·.2)

def csvRow (headers : List String) (line : Line) : ParsedAddressImportRow :=
  let record := record headers (splitCsvLine line.text)
  { row_number := line.lineNumber
    address := (record "address").getD ""
    label := orNull (record "label")
    priority := orNull (record "priority")
    scan_interval_seconds := parseOptionalNumber (record "scan_interval_seconds")
    transfer_filter_enabled := parseOptionalBoolean lower (record "transfer_filter_enabled")
    balance_change_filter_enabled :=
      parseOptionalBoolean lower (record "balance_change_filter_enabled")
    status := orNull (record "status")
    error := none }

def parseCsv (lines : List Line) (headers : List String) : ParsedAddressImport :=
  let warnings := (headers.filter fun header =>
    header ≠ "" && !supportedCsvFields.contains header).map ("unknown CSV field: " ++ ·)
  let parsed := markDuplicateRows lower (lines.tail.map (csvRow lower headers))
  ⟨parsed.rows, warnings ++ parsed.warnings⟩

def lineRow (line : Line) : ParsedAddressImportRow :=
  { row_number := line.lineNumber
    address := String.ofList line.text
    label := none
    priority := none
    scan_interval_seconds := none
    transfer_filter_enabled := none
    balance_change_filter_enabled := none
    status := none
    error := none }

/-- The lines that are not blank, with their numbers. -/
def import_lines (input : String) : List Line :=
  ((Js.split_lines input.toList).zipIdx.map fun line => ⟨Js.trim line.1, line.2 + 1⟩).filter
    fun line => !line.text.isEmpty

def parseAddressImportInput (input : String) : ParsedAddressImport :=
  match import_lines input with
  | [] => ⟨[], []⟩
  | first :: lines =>
    let headers := (splitCsvLine first.text).map fun header =>
      lower.to_lowercase (String.ofList (Js.trim header))
    if headers.contains "address" then parseCsv lower (first :: lines) headers
    else markDuplicateRows lower ((first :: lines).map lineRow)

/-- The rows that are sent. -/
def importableRows (input : String) : List ParsedAddressImportRow :=
  (parseAddressImportInput lower input).rows.filter (·.error.isNone)

end Lower

/-! ### Sending -/

/-- A number as JSON has it: an integer without fraction and exponent, or anything else. -/
inductive JsonNumber where
  | integer (value : Int)
  | other
deriving DecidableEq

/-- `JSON.stringify`. Integers have an exponent from 10^21 on. -/
def stringify (number : Js.Number) : JsonNumber :=
  match number.integer with
  | some value => if value.natAbs < 10 ^ 21 then .integer value else .other
  | none => .other

/-- What is read as a 32-bit integer. -/
def deserialize_i32 : JsonNumber → Option Int
  | .integer value =>
    if -2147483648 ≤ value ∧ value ≤ 2147483647 then some value else none
  | .other => none

def deserialize_interval : Option Js.Number → Option (Option Int)
  | none => some none
  | some number => (deserialize_i32 (stringify number)).map some

def deserialize_row (row : ParsedAddressImportRow) : Option WatchedAddressImportRowRequest := do
  let row_number ← deserialize_i32 (.integer row.row_number)
  let scan_interval_seconds ← deserialize_interval row.scan_interval_seconds
  some {
    row_number := row_number
    address := row.address
    label := row.label
    priority := row.priority
    scan_interval_seconds := scan_interval_seconds
    transfer_filter_enabled := row.transfer_filter_enabled
    balance_change_filter_enabled := row.balance_change_filter_enabled
    status := row.status }

/-- One row that cannot be read fails the whole request. -/
def deserialize_rows (rows : List ParsedAddressImportRow) :
    Option (List WatchedAddressImportRowRequest) :=
  rows.mapM deserialize_row

/-- The API reads the rows that are shown without an error, and they pass its checks of rows. -/
def ShownRowsPass (lower : JsLowercase) (input : String) : Prop :=
  ∃ rows, deserialize_rows (importableRows lower input) = some rows ∧
    validate_import_rows [] [] rows = .ok ()

/-! ### What is read -/

/-- The API can read the numbers of the row. -/
structure Readable (row : ParsedAddressImportRow) : Prop where
  row_number : row.row_number ≤ 2147483647
  interval : ∀ number ∈ row.scan_interval_seconds,
    ∃ value, number.integer = some value ∧ -2147483648 ≤ value ∧ value ≤ 2147483647

def request_of (row : ParsedAddressImportRow) : WatchedAddressImportRowRequest where
  row_number := row.row_number
  address := row.address
  label := row.label
  priority := row.priority
  scan_interval_seconds := row.scan_interval_seconds.bind (·.integer)
  transfer_filter_enabled := row.transfer_filter_enabled
  balance_change_filter_enabled := row.balance_change_filter_enabled
  status := row.status

section Sent
variable {row : ParsedAddressImportRow} {rows : List ParsedAddressImportRow}
  {sent : WatchedAddressImportRowRequest} {number : Js.Number} {value : Int}

theorem deserialize_i32_iff {n : JsonNumber} : deserialize_i32 n = some value ↔
    n = .integer value ∧ -2147483648 ≤ value ∧ value ≤ 2147483647 := by
  cases n with
  | other => exact ⟨(fun h => nomatch h), fun h => nomatch h.1⟩
  | integer v =>
    simp only [deserialize_i32, Option.ite_none_right_eq_some, Option.some.injEq,
      JsonNumber.integer.injEq]
    constructor
    · rintro ⟨hrange, rfl⟩
      exact ⟨rfl, hrange⟩
    · rintro ⟨rfl, hrange⟩
      exact ⟨hrange, rfl⟩

theorem deserialize_number_iff : deserialize_i32 (stringify number) = some value ↔
    number.integer = some value ∧ -2147483648 ≤ value ∧ value ≤ 2147483647 := by
  rw [deserialize_i32_iff]
  unfold stringify
  cases hinteger : number.integer with
  | none => exact ⟨fun h => (nomatch h.1), fun h => nomatch h.1⟩
  | some v =>
    constructor
    · rintro ⟨hstring, hrange⟩
      change (if v.natAbs < 10 ^ 21 then JsonNumber.integer v else .other) = _ at hstring
      split at hstring
      · obtain rfl := JsonNumber.integer.inj hstring
        exact ⟨rfl, hrange⟩
      · exact nomatch hstring
    · rintro ⟨hsame, hrange⟩
      obtain rfl := Option.some.inj hsame
      refine ⟨if_pos ?_, hrange⟩
      omega

theorem deserialize_row_iff :
    deserialize_row row = some sent ↔ Readable row ∧ sent = request_of row := by
  have hnumber : deserialize_i32 (.integer row.row_number) = some (row.row_number : Int) ↔
      row.row_number ≤ 2147483647 := by
    rw [deserialize_i32_iff]
    constructor
    · exact fun h => by omega
    · exact fun h => ⟨rfl, by omega, by omega⟩
  unfold deserialize_row
  constructor
  · intro h
    obtain ⟨row_number, hrow, h⟩ := Option.bind_eq_some_iff.mp h
    obtain ⟨interval, hinterval, h⟩ := Option.bind_eq_some_iff.mp h
    obtain rfl := Option.some.inj h
    obtain rfl := JsonNumber.integer.inj (deserialize_i32_iff.mp hrow).1
    have hfits := hnumber.mp hrow
    cases hseconds : row.scan_interval_seconds with
    | none =>
      rw [hseconds] at hinterval
      obtain rfl := Option.some.inj hinterval
      refine ⟨⟨hfits, fun number hmem => ?_⟩, ?_⟩
      · rw [hseconds] at hmem
        exact nomatch hmem
      · simp [request_of, hseconds]
    | some number =>
      rw [hseconds] at hinterval
      obtain ⟨value, hvalue, rfl⟩ := Option.map_eq_some_iff.mp hinterval
      obtain ⟨hinteger, hrange⟩ := deserialize_number_iff.mp hvalue
      refine ⟨⟨hfits, fun other hmem => ?_⟩, ?_⟩
      · rw [hseconds] at hmem
        obtain rfl := Option.some.inj hmem
        exact ⟨value, hinteger, hrange⟩
      · simp [request_of, hseconds, hinteger]
  · rintro ⟨hreadable, rfl⟩
    rw [hnumber.mpr hreadable.row_number]
    cases hseconds : row.scan_interval_seconds with
    | none => simp [request_of, deserialize_interval, hseconds]
    | some number =>
      obtain ⟨value, hinteger, hrange⟩ := hreadable.interval number hseconds
      have hvalue := deserialize_number_iff.mpr ⟨hinteger, hrange⟩
      simp [request_of, deserialize_interval, hseconds, hvalue, hinteger]

theorem deserialize_rows_iff {sent : List WatchedAddressImportRowRequest} :
    deserialize_rows rows = some sent ↔
      (∀ row ∈ rows, Readable row) ∧ sent = rows.map request_of := by
  induction rows generalizing sent with
  | nil =>
    constructor
    · intro h
      exact ⟨fun _ hrow => absurd hrow List.not_mem_nil, (Option.some.inj h).symm⟩
    · rintro ⟨_, rfl⟩
      rfl
  | cons row rows ih =>
    unfold deserialize_rows at ih ⊢
    rw [List.mapM_cons, List.forall_mem_cons]
    constructor
    · intro h
      obtain ⟨first, hfirst, h⟩ := Option.bind_eq_some_iff.mp h
      obtain ⟨others, hothers, h⟩ := Option.bind_eq_some_iff.mp h
      obtain rfl := Option.some.inj h
      obtain ⟨hrow, rfl⟩ := deserialize_row_iff.mp hfirst
      obtain ⟨hrows, rfl⟩ := ih.mp hothers
      exact ⟨⟨hrow, hrows⟩, rfl⟩
    · rintro ⟨⟨hrow, hrows⟩, rfl⟩
      rw [deserialize_row_iff.mpr ⟨hrow, rfl⟩, ih.mpr ⟨hrows, rfl⟩]
      rfl

end Sent

/-! ### What is shown -/

section Shown
variable {lower : JsLowercase} {seen : List String} {rows : List ParsedAddressImportRow}
  {row : ParsedAddressImportRow}

def key (lower : JsLowercase) (row : ParsedAddressImportRow) : String :=
  lower.to_lowercase (String.ofList (Js.trim row.address.toList))

/-- The rows that are shown without an error. -/
def shown (lower : JsLowercase) (seen : List String) (rows : List ParsedAddressImportRow) :
    List ParsedAddressImportRow :=
  (markRows lower seen rows).filter (·.error.isNone)

theorem shown_skip (h : key lower row = "" ∨ key lower row ∈ seen) :
    shown lower seen (row :: rows) = shown lower seen rows := by
  by_cases hempty : key lower row = ""
  · have hkey : lower.to_lowercase (String.ofList (Js.trim row.address.toList)) = "" := hempty
    simp [shown, markRows, hkey]
  · have hseen : key lower row ∈ seen := h.resolve_left hempty
    have hkey : ¬ lower.to_lowercase (String.ofList (Js.trim row.address.toList)) = "" := hempty
    have hmem : lower.to_lowercase (String.ofList (Js.trim row.address.toList)) ∈ seen := hseen
    simp [shown, markRows, hkey, hmem]

theorem shown_keep (herror : row.error = none) (hempty : key lower row ≠ "")
    (hseen : key lower row ∉ seen) :
    shown lower seen (row :: rows) = row :: shown lower (key lower row :: seen) rows := by
  have hkey : ¬ lower.to_lowercase (String.ofList (Js.trim row.address.toList)) = "" := hempty
  have hmem : lower.to_lowercase (String.ofList (Js.trim row.address.toList)) ∉ seen := hseen
  simp [shown, markRows, hkey, hmem, herror, key]

theorem shown_sublist (hnone : ∀ row ∈ rows, row.error = none) :
    (shown lower seen rows).Sublist rows := by
  induction rows generalizing seen with
  | nil => exact List.Sublist.refl _
  | cons first rows ih =>
    obtain ⟨hfirst, hrest⟩ := List.forall_mem_cons.mp hnone
    by_cases hskip : key lower first = "" ∨ key lower first ∈ seen
    · rw [shown_skip hskip]
      exact (ih hrest).cons first
    · obtain ⟨hempty, hseen⟩ := not_or.mp hskip
      rw [shown_keep hfirst hempty hseen]
      exact (ih hrest).cons_cons first

/-- The rows without an error are the ones whose key is neither empty nor that of an earlier row. -/
theorem mem_shown (hnone : ∀ row ∈ rows, row.error = none) :
    row ∈ shown lower seen rows ↔
      ∃ before after, rows = before ++ row :: after ∧ key lower row ≠ "" ∧ key lower row ∉ seen ∧
        ∀ other ∈ before, key lower other ≠ key lower row := by
  induction rows generalizing seen with
  | nil =>
    constructor
    · exact fun h => absurd h List.not_mem_nil
    · rintro ⟨before, after, hrows, _⟩
      exact absurd hrows (by simp)
  | cons first rows ih =>
    obtain ⟨hfirst, hothers⟩ := List.forall_mem_cons.mp hnone
    by_cases hskip : key lower first = "" ∨ key lower first ∈ seen
    · rw [shown_skip hskip, ih hothers]
      constructor
      · rintro ⟨before, after, rfl, hempty, hseen, hbefore⟩
        refine ⟨first :: before, after, rfl, hempty, hseen, List.forall_mem_cons.mpr ⟨?_, hbefore⟩⟩
        intro hsame
        rw [hsame] at hskip
        exact hskip.elim hempty hseen
      · rintro ⟨before, after, hrows, hempty, hseen, hbefore⟩
        cases before with
        | nil =>
          obtain ⟨rfl, _⟩ := List.cons.inj hrows
          exact absurd hskip (not_or.mpr ⟨hempty, hseen⟩)
        | cons other before =>
          obtain ⟨rfl, hrest⟩ := List.cons.inj hrows
          exact ⟨before, after, hrest, hempty, hseen, (List.forall_mem_cons.mp hbefore).2⟩
    · obtain ⟨hfirstEmpty, hfirstSeen⟩ := not_or.mp hskip
      rw [shown_keep hfirst hfirstEmpty hfirstSeen, List.mem_cons, ih hothers]
      constructor
      · rintro (rfl | ⟨before, after, rfl, hempty, hseen, hbefore⟩)
        · exact ⟨[], rows, rfl, hfirstEmpty, hfirstSeen, fun _ h => absurd h List.not_mem_nil⟩
        · obtain ⟨hne, hseen⟩ := not_or.mp fun h => hseen (List.mem_cons.mpr h)
          exact ⟨first :: before, after, rfl, hempty, hseen,
            List.forall_mem_cons.mpr ⟨Ne.symm hne, hbefore⟩⟩
      · rintro ⟨before, after, hrows, hempty, hseen, hbefore⟩
        cases before with
        | nil => exact .inl (List.cons.inj hrows).1.symm
        | cons other before =>
          obtain ⟨rfl, hrest⟩ := List.cons.inj hrows
          obtain ⟨hne, hbefore⟩ := List.forall_mem_cons.mp hbefore
          refine .inr ⟨before, after, hrest, hempty, ?_, hbefore⟩
          exact fun hmem => (List.mem_cons.mp hmem).elim (fun h => hne h.symm) hseen

/-! ### What stands in the lines -/

/-- The headers, where the first line is one of headers, and the lines that are read as rows. -/
def layout (lower : JsLowercase) (input : String) : Option (List String) × List Line :=
  match import_lines input with
  | [] => (none, [])
  | first :: lines =>
    let headers := (splitCsvLine first.text).map fun header =>
      lower.to_lowercase (String.ofList (Js.trim header))
    if headers.contains "address" then (some headers, lines) else (none, first :: lines)

def address_of : Option (List String) → Line → String
  | some headers, line => (record headers (splitCsvLine line.text) "address").getD ""
  | none, line => String.ofList line.text

def interval_of : Option (List String) → Line → Option String
  | some headers, line => record headers (splitCsvLine line.text) "scan_interval_seconds"
  | none, _ => none

def row_of (lower : JsLowercase) : Option (List String) → Line → ParsedAddressImportRow
  | some headers => csvRow lower headers
  | none => lineRow

@[simp] theorem row_of_address (headers : Option (List String)) (line : Line) :
    (row_of lower headers line).address = address_of headers line := by
  cases headers <;> rfl

@[simp] theorem row_of_number (headers : Option (List String)) (line : Line) :
    (row_of lower headers line).row_number = line.lineNumber := by
  cases headers <;> rfl

@[simp] theorem row_of_interval (headers : Option (List String)) (line : Line) :
    (row_of lower headers line).scan_interval_seconds =
      parseOptionalNumber (interval_of headers line) := by
  cases headers <;> rfl

@[simp] theorem row_of_error (headers : Option (List String)) (line : Line) :
    (row_of lower headers line).error = none := by
  cases headers <;> rfl

theorem parsed_rows (input : String) : (parseAddressImportInput lower input).rows =
    markRows lower [] ((layout lower input).2.map (row_of lower (layout lower input).1)) := by
  unfold parseAddressImportInput layout
  cases import_lines input with
  | nil => rfl
  | cons first lines =>
    simp only
    split
    · rfl
    · rfl

theorem record_trimmed (headers : List String) (values : List (List Char)) (field : String) :
    Js.trim ((record headers values field).getD "").toList =
      ((record headers values field).getD "").toList := by
  cases hrecord : record headers values field with
  | none => rfl
  | some cell =>
    obtain ⟨header, hheader, rfl⟩ := Option.map_eq_some_iff.mp hrecord
    have hmem := List.mem_reverse.mp (List.mem_of_find?_eq_some hheader)
    obtain ⟨indexed, _, rfl⟩ := List.mem_map.mp hmem
    cases hvalue : values[indexed.2]? with
    | none => rfl
    | some value =>
      change Js.trim (String.ofList (Js.trim value)).toList = _
      rw [String.toList_ofList, Js.trim_trim]
      exact (String.toList_ofList).symm

theorem import_lines_fresh (input : String) :
    (∀ line ∈ import_lines input, Js.trim line.text = line.text ∧ 0 < line.lineNumber) ∧
      ((import_lines input).map (·.lineNumber)).Pairwise (· < ·) := by
  constructor
  · intro line hline
    obtain ⟨indexed, _, rfl⟩ := List.mem_map.mp (List.mem_filter.mp hline).1
    exact ⟨Js.trim_trim _, Nat.succ_pos _⟩
  · refine List.pairwise_map.mpr (List.Pairwise.filter _ (List.pairwise_map.mpr ?_))
    have hindices : ((Js.split_lines input.toList).zipIdx.map Prod.snd).Pairwise (· < ·) := by
      rw [List.zipIdx_map_snd]
      exact List.pairwise_lt_range'
    refine (List.pairwise_map.mp hindices).imp fun hlt => ?_
    exact Nat.succ_lt_succ hlt

theorem layout_fresh (lower : JsLowercase) (input : String) :
    (∀ line ∈ (layout lower input).2, Js.trim line.text = line.text ∧ 0 < line.lineNumber) ∧
      ((layout lower input).2.map (·.lineNumber)).Pairwise (· < ·) := by
  have hfresh := import_lines_fresh input
  unfold layout
  cases hinput : import_lines input with
  | nil => exact ⟨fun _ h => absurd h List.not_mem_nil, List.Pairwise.nil⟩
  | cons first lines =>
    rw [hinput] at hfresh
    obtain ⟨hlines, hnumbers⟩ := hfresh
    simp only
    split
    · exact ⟨(List.forall_mem_cons.mp hlines).2, (List.pairwise_cons.mp hnumbers).2⟩
    · exact ⟨hlines, hnumbers⟩

theorem address_trimmed {headers : Option (List String)} {line : Line}
    (h : Js.trim line.text = line.text) :
    Js.trim (address_of headers line).toList = (address_of headers line).toList := by
  cases headers with
  | some headers => exact record_trimmed ..
  | none =>
    change Js.trim (String.ofList line.text).toList = (String.ofList line.text).toList
    rw [String.toList_ofList]
    exact h

end Shown

/-! ### Next lines -/

/-- The address begins or ends with U+0085, which the backend trims and the frontend does not. -/
def AtNextLine (address : String) : Prop :=
  address.toList.head? = some '\u0085' ∨ address.toList.getLast? = some '\u0085'

theorem js_space {c : Char} (h : Text.isWhitespace c = true) (hnext : c ≠ '\u0085') :
    Js.isWhiteSpace c = true := by
  have hne : c.toNat ≠ 0x85 := by
    intro heq
    refine hnext ?_
    rw [← Char.ofNat_toNat c, heq]
  simp only [Text.isWhitespace, Js.isWhiteSpace, Bool.or_eq_true, Bool.and_eq_true,
    decide_eq_true_eq, beq_iff_eq] at h ⊢
  omega

/-- A text that the frontend has trimmed is trimmed for the backend too. -/
theorem trim_of_js_trim {address : String} (h : Js.trim address.toList = address.toList)
    (hnext : ¬ AtNextLine address) : Text.trim address = address := by
  have hstart : Text.trimStart address.toList = address.toList := by
    cases htext : address.toList with
    | nil => rfl
    | cons c rest =>
      refine List.dropWhile_cons_of_neg fun hspace => ?_
      have hc : c ≠ '\u0085' := by
        rintro rfl
        exact hnext (.inl (by rw [htext]; rfl))
      have hjs := js_space hspace hc
      have hlength := congrArg List.length h
      rw [htext] at hlength
      have hdrop : (List.dropWhile Js.isWhiteSpace (c :: rest)).length ≤ rest.length := by
        rw [List.dropWhile_cons_of_pos hjs]
        exact (List.dropWhile_suffix _).length_le
      have hend : (Js.trim (c :: rest)).length ≤
          (List.dropWhile Js.isWhiteSpace (c :: rest)).length :=
        (List.rdropWhile_prefix ..).length_le
      rw [List.length_cons] at hlength
      omega
  have hend : Text.trimEnd address.toList = address.toList := by
    have hjsend : address.toList.rdropWhile Js.isWhiteSpace = address.toList := by
      rw [← h]
      exact List.rdropWhile_idempotent ..
    rcases List.eq_nil_or_concat address.toList with hnil | ⟨init, c, htext⟩
    · rw [hnil]
      rfl
    · rw [List.concat_eq_append] at htext
      rw [htext] at hjsend ⊢
      refine List.rdropWhile_concat_neg Text.isWhitespace init c fun hspace => ?_
      have hc : c ≠ '\u0085' := by
        rintro rfl
        exact hnext (.inr (by rw [htext, List.getLast?_concat]))
      rw [List.rdropWhile_concat_pos _ _ _ (js_space hspace hc)] at hjsend
      have hlength := congrArg List.length hjsend
      have hinit := (List.rdropWhile_prefix Js.isWhiteSpace init).length_le
      rw [List.length_append, List.length_singleton] at hlength
      omega
  rw [Text.trim, hstart, hend, String.ofList_toList]

/-! ### Which inputs are sent -/

/-- The line is shown without an error: it has an address, which no earlier line has. -/
def Clean (lower : JsLowercase) (input : String) (line : Line) : Prop :=
  let address line := lower.to_lowercase (address_of (layout lower input).1 line)
  ∃ before after, (layout lower input).2 = before ++ line :: after ∧ address line ≠ "" ∧
    ∀ other ∈ before, address other ≠ address line

/-- An interval that is a number to the frontend is one to the API. -/
def Integral (interval : Option String) : Prop :=
  ∀ text ∈ interval, text ≠ "" → (Js.number text.toList).isFinite = true →
    ∃ value, (Js.number text.toList).integer = some value ∧
      -2147483648 ≤ value ∧ value ≤ 2147483647

def spelling_of (headers : Option (List String)) (line : Line) : String :=
  Text.toAsciiLowercase (Text.trim (address_of headers line))

/-- The numbers in the lines without an error fit, and U+0085 at the ends of their addresses hides
neither an empty address nor a repeated one. -/
structure Sendable (lower : JsLowercase) (input : String) : Prop where
  numbered : ∀ line, Clean lower input line → line.lineNumber ≤ 2147483647
  intervals : ∀ line, Clean lower input line → Integral (interval_of (layout lower input).1 line)
  filled : ∀ line, Clean lower input line → AtNextLine (address_of (layout lower input).1 line) →
    Text.trim (address_of (layout lower input).1 line) ≠ ""
  apart : ∀ a b, Clean lower input a → Clean lower input b → a.lineNumber ≠ b.lineNumber →
    AtNextLine (address_of (layout lower input).1 a) →
      spelling_of (layout lower input).1 a ≠ spelling_of (layout lower input).1 b

section Sendable
variable {lower : JsLowercase} {input : String} {headers : Option (List String)} {line a b : Line}

theorem key_row_of (h : Js.trim line.text = line.text) :
    key lower (row_of lower headers line) = lower.to_lowercase (address_of headers line) := by
  rw [key, row_of_address, address_trimmed h, String.ofList_toList]

theorem rows_fresh (lower : JsLowercase) (input : String) :
    ∀ row ∈ (layout lower input).2.map (row_of lower (layout lower input).1), row.error = none := by
  intro row hrow
  obtain ⟨line, _, rfl⟩ := List.mem_map.mp hrow
  exact row_of_error ..

theorem importable_ordered (lower : JsLowercase) (input : String) :
    (importableRows lower input).Pairwise fun a b => a.row_number < b.row_number := by
  obtain ⟨_, hnumbers⟩ := layout_fresh lower input
  have hsub := @shown_sublist lower [] _ (rows_fresh lower input)
  rw [importableRows, parsed_rows]
  refine List.Pairwise.sublist hsub (List.pairwise_map.mpr ?_)
  simp only [row_of_number]
  exact List.pairwise_map.mp hnumbers

theorem mem_importable {row : ParsedAddressImportRow} : row ∈ importableRows lower input ↔
    ∃ line, Clean lower input line ∧ row = row_of lower (layout lower input).1 line := by
  have hfresh := (layout_fresh lower input).1
  have himportable : importableRows lower input =
      shown lower [] ((layout lower input).2.map (row_of lower (layout lower input).1)) := by
    rw [importableRows, parsed_rows]
    rfl
  rw [himportable, mem_shown (rows_fresh lower input)]
  constructor
  · rintro ⟨before, after, hrows, hempty, _, hbefore⟩
    obtain ⟨lines, rest, hlines, rfl, hrest⟩ := List.map_eq_append_iff.mp hrows
    obtain ⟨line, others, rfl, rfl, rfl⟩ := List.map_eq_cons_iff.mp hrest
    rw [hlines] at hfresh
    have hline := (hfresh line (by simp)).1
    rw [key_row_of hline] at hempty
    refine ⟨line, ⟨lines, others, hlines, hempty, fun other hother hsame => ?_⟩, rfl⟩
    refine hbefore _ (List.mem_map_of_mem hother) ?_
    rw [key_row_of hline, key_row_of (hfresh other (List.mem_append_left _ hother)).1]
    exact hsame
  · rintro ⟨line, ⟨before, after, hlines, hempty, hbefore⟩, rfl⟩
    rw [hlines] at hfresh
    have hline := (hfresh line (by simp)).1
    refine ⟨before.map (row_of lower (layout lower input).1),
      after.map (row_of lower (layout lower input).1), ?_, ?_, List.not_mem_nil, ?_⟩
    · rw [← List.map_cons, ← List.map_append, ← hlines]
    · rw [key_row_of hline]
      exact hempty
    · intro other hother hsame
      obtain ⟨earlier, hearlier, rfl⟩ := List.mem_map.mp hother
      refine hbefore earlier hearlier ?_
      rw [key_row_of hline, key_row_of (hfresh earlier (List.mem_append_left _ hearlier)).1] at hsame
      exact hsame

theorem mem_parsed_number {interval : Option String} {number : Js.Number} :
    number ∈ parseOptionalNumber interval ↔
      ∃ text ∈ interval, text ≠ "" ∧ (Js.number text.toList).isFinite = true ∧
        number = Js.number text.toList := by
  unfold parseOptionalNumber orNull
  rw [Option.mem_def, Option.bind_eq_some_iff]
  constructor
  · rintro ⟨text, htext, hnumber⟩
    obtain ⟨hinterval, hne⟩ := Option.filter_eq_some_iff.mp htext
    simp only [Option.ite_none_right_eq_some, Option.some.injEq] at hnumber
    exact ⟨text, hinterval, of_decide_eq_true hne, hnumber.1, hnumber.2.symm⟩
  · rintro ⟨text, hinterval, hne, hfinite, rfl⟩
    refine ⟨text, Option.filter_eq_some_iff.mpr ⟨hinterval, decide_eq_true hne⟩, ?_⟩
    simp only [hfinite, if_true]

theorem readable_row_iff : Readable (row_of lower headers line) ↔
    line.lineNumber ≤ 2147483647 ∧ Integral (interval_of headers line) := by
  constructor
  · intro h
    have hnumber := h.row_number
    have hinterval := h.interval
    rw [row_of_number] at hnumber
    rw [row_of_interval] at hinterval
    refine ⟨hnumber, fun text htext hne hfinite => ?_⟩
    exact hinterval _ (mem_parsed_number.mpr ⟨text, htext, hne, hfinite, rfl⟩)
  · rintro ⟨hnumber, hintegral⟩
    constructor
    · rw [row_of_number]
      exact hnumber
    · rw [row_of_interval]
      intro number hmem
      obtain ⟨text, htext, hne, hfinite, rfl⟩ := mem_parsed_number.mp hmem
      exact hintegral text htext hne hfinite

/-- Addresses that the backend does not tell apart are one address for the frontend too. -/
theorem address_of_spelling (ha : Js.trim a.text = a.text) (hb : Js.trim b.text = b.text)
    (hnexta : ¬ AtNextLine (address_of headers a)) (hnextb : ¬ AtNextLine (address_of headers b))
    (h : spelling_of headers a = spelling_of headers b) :
    lower.to_lowercase (address_of headers a) = lower.to_lowercase (address_of headers b) := by
  unfold spelling_of at h
  rw [trim_of_js_trim (address_trimmed ha) hnexta, trim_of_js_trim (address_trimmed hb) hnextb] at h
  have hlower := congrArg lower.to_lowercase h
  rwa [lower.of_ascii, lower.of_ascii] at hlower

theorem clean_mem (h : Clean lower input line) :
    line ∈ (layout lower input).2 ∧
      lower.to_lowercase (address_of (layout lower input).1 line) ≠ "" := by
  obtain ⟨before, after, hlines, hempty, _⟩ := h
  refine ⟨?_, hempty⟩
  rw [hlines]
  exact List.mem_append_right before (List.mem_cons_self ..)

theorem clean_apart (ha : Clean lower input a) (hb : Clean lower input b)
    (hne : a.lineNumber ≠ b.lineNumber) :
    lower.to_lowercase (address_of (layout lower input).1 a) ≠
      lower.to_lowercase (address_of (layout lower input).1 b) := by
  obtain ⟨before, after, hlines, _, hbefore⟩ := ha
  obtain ⟨before', after', hlines', _, hbefore'⟩ := hb
  have hsame := hlines.symm.trans hlines'
  rcases List.append_eq_append_iff.mp hsame with ⟨gap, rfl, hgap⟩ | ⟨gap, rfl, hgap⟩
  · cases gap with
    | nil => exact absurd (congrArg Line.lineNumber (List.cons.inj hgap).1) hne
    | cons other gap =>
      obtain ⟨rfl, _⟩ := List.cons.inj hgap
      exact hbefore' a (by simp)
  · cases gap with
    | nil => exact absurd (congrArg Line.lineNumber (List.cons.inj hgap).1).symm hne
    | cons other gap =>
      obtain ⟨rfl, _⟩ := List.cons.inj hgap
      exact (hbefore b (by simp)).symm

end Sendable

theorem request_of_spelling (lower : JsLowercase) (headers : Option (List String)) (line : Line) :
    (request_of (row_of lower headers line)).spelling = spelling_of headers line := by
  unfold WatchedAddressImportRowRequest.spelling spelling_of
  rw [request_of, row_of_address]

/-- The rows that are shown without an error pass the API's checks exactly if their numbers fit and no
U+0085 hides an empty or a repeated address. -/
theorem import_preview_sent (lower : JsLowercase) (input : String) :
    ShownRowsPass lower input ↔ Sendable lower input := by
  have hlines := (layout_fresh lower input).1
  have hordered := importable_ordered lower input
  constructor
  · rintro ⟨sent, hsent, hvalid⟩
    obtain ⟨hreadable, rfl⟩ := deserialize_rows_iff.mp hsent
    obtain ⟨hwell, _, hdistinct, _⟩ := validate_import_rows_iff.mp hvalid
    have hrow : ∀ line, Clean lower input line →
        row_of lower (layout lower input).1 line ∈ importableRows lower input :=
      fun line hclean => mem_importable.mpr ⟨line, hclean, rfl⟩
    constructor
    · exact fun line hclean => (readable_row_iff.mp (hreadable _ (hrow line hclean))).1
    · exact fun line hclean => (readable_row_iff.mp (hreadable _ (hrow line hclean))).2
    · intro line hclean _
      have hfilled := (hwell _ (List.mem_map_of_mem (hrow line hclean))).2
      rwa [request_of, row_of_address] at hfilled
    · intro a b ha hb hne _ heq
      refine hne ?_
      have hsame := List.inj_on_of_nodup_map hdistinct (List.mem_map_of_mem (hrow a ha))
        (List.mem_map_of_mem (hrow b hb))
        (by rw [request_of_spelling, request_of_spelling, heq])
      have hnumber := congrArg WatchedAddressImportRowRequest.row_number hsame
      rw [request_of, request_of, row_of_number, row_of_number] at hnumber
      exact Int.ofNat_inj.mp hnumber
  · intro h
    refine ⟨_, deserialize_rows_iff.mpr ⟨?_, rfl⟩,
      validate_import_rows_iff.mpr ⟨?_, ⟨?_, fun _ _ => List.not_mem_nil⟩, ?_,
        fun _ _ => List.not_mem_nil⟩⟩
    · intro row hrow
      obtain ⟨line, hclean, rfl⟩ := mem_importable.mp hrow
      exact readable_row_iff.mpr ⟨h.numbered line hclean, h.intervals line hclean⟩
    · intro sent hsent
      obtain ⟨row, hrow, rfl⟩ := List.mem_map.mp hsent
      obtain ⟨line, hclean, rfl⟩ := mem_importable.mp hrow
      obtain ⟨hmem, hkey⟩ := clean_mem hclean
      obtain ⟨htrimmed, hpositive⟩ := hlines line hmem
      rw [request_of, row_of_number, row_of_address]
      refine ⟨Int.natCast_pos.mpr hpositive, ?_⟩
      by_cases hnext : AtNextLine (address_of (layout lower input).1 line)
      · exact h.filled line hclean hnext
      · rw [trim_of_js_trim (address_trimmed htrimmed) hnext]
        intro hempty
        rw [hempty] at hkey
        exact hkey lower.empty
    · rw [List.map_map]
      refine List.pairwise_map.mpr (hordered.imp fun hlt heq => ?_)
      exact Nat.lt_irrefl _ (Int.ofNat_inj.mp heq ▸ hlt)
    · rw [List.map_map]
      refine List.pairwise_map.mpr (hordered.imp_of_mem fun ha hb hlt heq => ?_)
      obtain ⟨a, hcleana, rfl⟩ := mem_importable.mp ha
      obtain ⟨b, hcleanb, rfl⟩ := mem_importable.mp hb
      rw [row_of_number, row_of_number] at hlt
      have hne : a.lineNumber ≠ b.lineNumber := Nat.ne_of_lt hlt
      rw [Function.comp_apply, Function.comp_apply, request_of_spelling, request_of_spelling] at heq
      by_cases hnexta : AtNextLine (address_of (layout lower input).1 a)
      · exact h.apart a b hcleana hcleanb hne hnexta heq
      · by_cases hnextb : AtNextLine (address_of (layout lower input).1 b)
        · exact h.apart b a hcleanb hcleana hne.symm hnextb heq.symm
        · refine clean_apart hcleana hcleanb hne ?_
          exact address_of_spelling (hlines a (clean_mem hcleana).1).1
            (hlines b (clean_mem hcleanb).1).1 hnexta hnextb heq

def js_lowercase : JsLowercase where
  toLowercase := ascii_lowercase
  empty := by decide +kernel

def half_seconds : String :=
  "address,scan_interval_seconds\n0x0000000000000000000000000000000000000001,1.5"

/-- The frontend takes the interval, and the API refuses the request for it. -/
theorem half_seconds_refused :
    (importableRows js_lowercase half_seconds).map (·.row_number) = [2] ∧
      ¬ ShownRowsPass js_lowercase half_seconds := by
  refine ⟨by decide +kernel, ?_⟩
  rintro ⟨rows, hrows, _⟩
  have hnone : (deserialize_rows (importableRows js_lowercase half_seconds)).isNone = true := by
    decide +kernel
  rw [hrows] at hnone
  exact nomatch hnone

end CoinListener.Frontend
