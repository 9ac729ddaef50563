import CoinListener.Providers.Evm

/-! What a rescan reads from a transaction and its receipt. -/
namespace CoinListener.Providers.Evm
open Foundation

structure EvmTransaction where
  hash : String
  from_address : String
  to_address : Option String
  value : String
  block_number : Option String
  block_hash : Option String
deriving DecidableEq

structure EvmTransactionReceipt where
  transaction_hash : String
  status : Option String
  block_number : Option String
  block_hash : Option String
  from_address : String
  to_address : Option String
  logs : List EvmLog
deriving DecidableEq

structure DecodedRescanTokenTransfer where
  asset : Asset
  transfer : DecodedErc20Transfer
deriving DecidableEq

/-- The contract emits transfers of this asset; the letter case is ignored. -/
def emits (log_contract : List Char) (asset : Asset) : Bool :=
  asset.asset_type == "erc20" && asset.status == "active" &&
    match asset.contract_address with
    | none => false
    | some contract => match normalize_hex contract 40 "asset contract" with
      | .ok digits => digits.map Text.asciiLower == log_contract.map Text.asciiLower
      | .error _ => false

def is_transfer_log (log : EvmLog) : Bool :=
  log.topics.head?.map Text.toAsciiLowercase == some TRANSFER_TOPIC0

/-- The first asset listed for the contract of a log is the one the transfer counts for. -/
def decode_rescan_logs (assets : List Asset) :
    List EvmLog → AppResult (List DecodedRescanTokenTransfer)
  | [] => .ok []
  | log :: logs =>
    if !is_transfer_log log then decode_rescan_logs assets logs
    else do
      let contract ← normalize_hex log.address 40 "address"
      match assets.find? (emits (contract.map Text.asciiLower)) with
      | none => decode_rescan_logs assets logs
      | some asset => do
        let transfer ← decode_erc20_transfer_log log asset.decimals
        let rest ← decode_rescan_logs assets logs
        return ⟨asset, transfer⟩ :: rest

def decode_rescan_token_transfers (receipt : EvmTransactionReceipt) (assets : List Asset) :
    AppResult (List DecodedRescanTokenTransfer) :=
  decode_rescan_logs assets receipt.logs

def transfer_event_draft_with_metadata (context : ScanAddressContext) (asset : Asset)
    (transfer : DecodedErc20Transfer) (metadata : List (String × Json)) : AddressEventDraft :=
  { transfer_event_draft context asset transfer with
    metadata := .obj (metadata ++
      [("token_contract", transfer.token_contract.elim .null .str)]) }

theorem transfer_event_draft_eq (context : ScanAddressContext) (asset : Asset)
    (transfer : DecodedErc20Transfer) : transfer_event_draft context asset transfer =
      transfer_event_draft_with_metadata context asset transfer
        [("source", .str "evm_erc20_transfer_log")] :=
  rfl

def transfer_event_draft_with_source (context : ScanAddressContext) (asset : Asset)
    (transfer : DecodedErc20Transfer) (source : String) (tx : EvmTransaction) :
    AppResult AddressEventDraft := do
  let native_value_raw ← parse_hex_u256_to_decimal_string tx.value
  return transfer_event_draft_with_metadata context asset transfer [
    ("source", .str source),
    ("tx_from", .str tx.from_address),
    ("tx_to", tx.to_address.elim .null .str),
    ("native_value_raw", .str native_value_raw)]

theorem draft_with_source_ok {context : ScanAddressContext} {asset : Asset}
    {transfer : DecodedErc20Transfer} {source : String} {tx : EvmTransaction}
    {draft : AddressEventDraft}
    (h : transfer_event_draft_with_source context asset transfer source tx = .ok draft) :
    ∃ metadata, draft = transfer_event_draft_with_metadata context asset transfer metadata := by
  obtain ⟨native_value_raw, _, h⟩ := bind_ok h
  exact ⟨_, (Except.ok.inj h).symm⟩

def evm_fee_only_event_draft (context : ScanAddressContext) (native_asset : Asset)
    (tx : EvmTransaction) (source : String) : AppResult AddressEventDraft := do
  let native_value_raw ← parse_hex_u256_to_decimal_string tx.value
  let block_number ← tx.block_number.mapM parse_hex_quantity_to_i64
  return {
    tenant_id := context.tenant_id
    chain_id := context.chain_id
    address_id := context.id
    asset_id := native_asset.id
    event_type := "fee_only_change"
    direction := "out"
    is_transfer := false
    tx_hash := some tx.hash
    log_index := none
    block_number := block_number
    block_hash := tx.block_hash
    confirmations := 0
    from_address := some tx.from_address
    to_address := tx.to_address
    amount_raw := none
    amount_decimal := none
    balance_before_raw := none
    balance_after_raw := none
    balance_delta_raw := none
    metadata := .obj [
      ("source", .str source),
      ("tx_from", .str tx.from_address),
      ("tx_to", tx.to_address.elim .null .str),
      ("native_value_raw", .str native_value_raw)] }

/-! ### Letter case -/

section LetterCase
variable {c : Char} {a b : String} {digits digits' : List Char} {n : Nat} {kind : String}

theorem lower_eq_iff : Text.toAsciiLowercase a = Text.toAsciiLowercase b ↔
    a.toList.map Text.asciiLower = b.toList.map Text.asciiLower := by
  constructor
  · intro h
    have hlists := congrArg String.toList h
    simpa [Text.toAsciiLowercase] using hlists
  · intro h
    rw [Text.toAsciiLowercase, Text.toAsciiLowercase, h]

/-- A letter and its lower case are the same digit, or none. -/
theorem hex_value_lower (c : Char) : hex_value (Text.asciiLower c) = hex_value c := by
  by_cases hupper : 'A' ≤ c ∧ c ≤ 'Z'
  · have hletters : ∀ n : Fin 26, hex_value (Text.asciiLower (Char.ofNat (65 + n))) =
        hex_value (Char.ofNat (65 + n)) := by decide
    have hlow : 65 ≤ c.toNat := hupper.1
    have hhigh : c.toNat ≤ 90 := hupper.2
    have hletter := hletters ⟨c.toNat - 65, by omega⟩
    have hnat : 65 + (c.toNat - 65) = c.toNat := by omega
    rw [hnat, Char.ofNat_toNat] at hletter
    exact hletter
  · rw [Text.asciiLower, if_neg hupper]

theorem hex_number_lower (digits : List Char) :
    hex_number (digits.map Text.asciiLower) = hex_number digits := by
  simp [hex_number, List.foldl_map, hex_value_lower]

theorem normalize_hex_ok (h : normalize_hex a n kind = .ok digits) :
    a.toList = '0' :: 'x' :: digits ∧ digits.length = n := by
  unfold normalize_hex at h
  split at h
  · rename_i rest hlist
    split at h
    · exact nomatch h
    · rename_i hdigits
      obtain rfl := Except.ok.inj h
      simp only [not_or, not_not] at hdigits
      exact ⟨hlist, hdigits.1⟩
  · exact nomatch h

theorem hex_digits_ok (h : hex_digits a = .ok digits) : a.toList = '0' :: 'x' :: digits := by
  unfold hex_digits at h
  split at h
  · rename_i rest hlist
    split at h
    · exact nomatch h
    · obtain rfl := Except.ok.inj h
      exact hlist
  · exact nomatch h

/-- Two spellings with the prefix have the same digits up to case. -/
theorem digits_lower (ha : a.toList = '0' :: 'x' :: digits) (hb : b.toList = '0' :: 'x' :: digits')
    (hab : Text.toAsciiLowercase a = Text.toAsciiLowercase b) :
    digits.map Text.asciiLower = digits'.map Text.asciiLower := by
  rw [lower_eq_iff, ha, hb] at hab
  simpa using hab

theorem hex_number_of_lower (h : digits.map Text.asciiLower = digits'.map Text.asciiLower) :
    hex_number digits = hex_number digits' := by
  rw [← hex_number_lower digits, h, hex_number_lower]

theorem parse_required_hex_i32_lower {value value' : Option String} {field : String} {i j : Int}
    (h : parse_required_hex_i32 value field = .ok i) (h' : parse_required_hex_i32 value' field = .ok j)
    (hsame : value.map Text.toAsciiLowercase = value'.map Text.toAsciiLowercase) : i = j := by
  have hparsed : ∀ {value : Option String} {i : Int}, parse_required_hex_i32 value field = .ok i →
      ∃ text digits, value = some text ∧ text.toList = '0' :: 'x' :: digits ∧
        i = hex_number digits := by
    intro value i h
    obtain ⟨parsed, hparsed, h⟩ := bind_ok h
    obtain ⟨_, _, h⟩ := bind_ok h
    obtain rfl := Except.ok.inj h
    obtain ⟨text, htext, hparsed⟩ := bind_ok hparsed
    obtain ⟨digits, hdigits, hparsed⟩ := bind_ok hparsed
    obtain ⟨_, _, hparsed⟩ := bind_ok hparsed
    exact ⟨text, digits, required_ok.mp htext, hex_digits_ok hdigits,
      (Except.ok.inj hparsed).symm⟩
  obtain ⟨text, digits, rfl, hdigits, rfl⟩ := hparsed h
  obtain ⟨text', digits', rfl, hdigits', rfl⟩ := hparsed h'
  rw [hex_number_of_lower (digits_lower hdigits hdigits' (Option.some.inj hsame))]

end LetterCase

/-- What a decoded transfer takes from its log. -/
theorem decode_erc20_ok {log : EvmLog} {decimals : Int} {t : DecodedErc20Transfer}
    (h : decode_erc20_transfer_log log decimals = .ok t) :
    ∃ topic0 topic1 topic2 rest contract, log.topics = topic0 :: topic1 :: topic2 :: rest ∧
      Text.toAsciiLowercase topic0 = TRANSFER_TOPIC0 ∧
      log.transaction_hash = some t.tx_hash ∧
      parse_required_hex_i32 log.log_index "logIndex" = .ok t.log_index ∧
      parse_abi_u256_to_decimal_string log.data "data" = .ok t.amount_raw ∧
      wei_to_decimal_string t.amount_raw decimals = .ok t.amount_decimal ∧
      normalize_hex log.address 40 "address" = .ok contract ∧
      topic_to_address topic1 = .ok t.from_address ∧ topic_to_address topic2 = .ok t.to_address := by
  unfold decode_erc20_transfer_log at h
  split at h
  · rename_i topic0 topic1 topic2 rest htopics
    obtain ⟨_, htopic0, h⟩ := bind_ok h
    obtain ⟨tx_hash, htx_hash, h⟩ := bind_ok h
    obtain ⟨_, _, h⟩ := bind_ok h
    obtain ⟨_, _, h⟩ := bind_ok h
    obtain ⟨log_index, hlog_index, h⟩ := bind_ok h
    obtain ⟨_, _, h⟩ := bind_ok h
    obtain ⟨amount_raw, hamount_raw, h⟩ := bind_ok h
    obtain ⟨amount_decimal, hamount_decimal, h⟩ := bind_ok h
    obtain ⟨contract, hcontract, h⟩ := bind_ok h
    obtain ⟨from_address, hfrom, h⟩ := bind_ok h
    obtain ⟨to_address, hto, h⟩ := bind_ok h
    obtain rfl := Except.ok.inj h
    exact ⟨topic0, topic1, topic2, rest, contract, htopics, beq_iff_eq.mp (ensure_ok.mp htopic0),
      required_ok.mp htx_hash, hlog_index, hamount_raw, hamount_decimal, hcontract, hfrom, hto⟩
  · exact nomatch h

theorem eqIgnoreAsciiCase_iff {a b : String} : Text.eqIgnoreAsciiCase a b = true ↔
    a.toList.map Text.asciiLower = b.toList.map Text.asciiLower := by
  rw [Text.eqIgnoreAsciiCase, beq_iff_eq, lower_eq_iff]

theorem decode_erc20_transfer {log : EvmLog} {decimals : Int} {t : DecodedErc20Transfer}
    (h : decode_erc20_transfer_log log decimals = .ok t) : is_transfer_log log = true := by
  obtain ⟨topic0, _, _, _, _, htopics, htopic0, _⟩ := decode_erc20_ok h
  simp [is_transfer_log, htopics, htopic0]

/-! ### The topic of an address -/

section Topics
variable {address topic watched_topic party : String}

theorem address_to_topic_ok (h : address_to_topic address = .ok watched_topic) :
    ∃ digits, address.toList = '0' :: 'x' :: digits ∧ digits.length = 40 ∧
      watched_topic.toList =
        '0' :: 'x' :: (List.replicate 24 '0' ++ digits.map Text.asciiLower) := by
  obtain ⟨digits, hdigits, h⟩ := bind_ok h
  obtain rfl := Except.ok.inj h
  obtain ⟨hlist, hlength⟩ := normalize_hex_ok hdigits
  have hzeros : "0x000000000000000000000000".toList = '0' :: 'x' :: List.replicate 24 '0' := by
    decide
  exact ⟨digits, hlist, hlength, by simp [hzeros]⟩

theorem topic_to_address_ok (h : topic_to_address topic = .ok party) :
    ∃ digits, topic.toList = '0' :: 'x' :: (List.replicate 24 '0' ++ digits) ∧
      party.toList = '0' :: 'x' :: digits := by
  obtain ⟨digits, hdigits, h⟩ := bind_ok h
  obtain ⟨_, hzeros, h⟩ := bind_ok h
  obtain rfl := Except.ok.inj h
  obtain ⟨hlist, hlength⟩ := normalize_hex_ok hdigits
  have hall := ensure_ok.mp hzeros
  simp only [List.all_eq_true, beq_iff_eq] at hall
  have hpadding : digits.take 24 = List.replicate 24 '0' :=
    List.eq_replicate_iff.mpr ⟨by simp [hlength], hall⟩
  refine ⟨digits.drop 24, ?_, by simp⟩
  rw [hlist, ← hpadding, List.take_append_drop]

/-- A topic holds an address exactly if the address decoded from it is that one. -/
theorem topic_matches_iff (hwatched : address_to_topic address = .ok watched_topic)
    (hparty : topic_to_address topic = .ok party) :
    Text.eqIgnoreAsciiCase topic watched_topic = true ↔
      Text.eqIgnoreAsciiCase party address = true := by
  obtain ⟨digits, haddress, _, htopic⟩ := address_to_topic_ok hwatched
  obtain ⟨digits', htopic', hparty'⟩ := topic_to_address_ok hparty
  rw [eqIgnoreAsciiCase_iff, eqIgnoreAsciiCase_iff, htopic, htopic', haddress, hparty']
  simp [Text.asciiLower_idem]

end Topics

/-! ### The transfers of a receipt -/

/-- The asset that the transfers of a log count for. -/
def Listed (assets : List Asset) (log : EvmLog) (asset : Asset) : Prop :=
  ∃ contract, normalize_hex log.address 40 "address" = .ok contract ∧
    assets.find? (emits (contract.map Text.asciiLower)) = some asset

/-- A transfer log has an address, and if an asset is listed for it, it can be decoded. -/
def Readable (assets : List Asset) (log : EvmLog) : Prop :=
  (∃ contract, normalize_hex log.address 40 "address" = .ok contract) ∧
    ∀ asset, Listed assets log asset →
      ∃ transfer, decode_erc20_transfer_log log asset.decimals = .ok transfer

section Decoding
variable {assets : List Asset} {log : EvmLog} {asset : Asset} {contract : List Char}

theorem emits_iff : emits (contract.map Text.asciiLower) asset = true ↔
    asset.asset_type = "erc20" ∧ asset.status = "active" ∧ ∃ text digits,
      asset.contract_address = some text ∧ normalize_hex text 40 "asset contract" = .ok digits ∧
        digits.map Text.asciiLower = contract.map Text.asciiLower := by
  simp only [emits, Bool.and_eq_true, beq_iff_eq, and_assoc]
  refine and_congr_right fun _ => and_congr_right fun _ => ?_
  cases asset.contract_address with
  | none => simp
  | some text =>
    cases h : normalize_hex text 40 "asset contract" with
    | ok digits => simp [h, Text.asciiLower_idem]
    | error e => simp [h]

theorem Listed.of_contract (h : normalize_hex log.address 40 "address" = .ok contract) :
    Listed assets log asset ↔
      assets.find? (emits (contract.map Text.asciiLower)) = some asset := by
  constructor
  · rintro ⟨contract', hcontract', hfound⟩
    obtain rfl := Except.ok.inj (h.symm.trans hcontract')
    exact hfound
  · exact fun hfound => ⟨contract, h, hfound⟩

theorem decode_rescan_logs_ok_iff (logs : List EvmLog) :
    (∃ transfers, decode_rescan_logs assets logs = .ok transfers) ↔
      ∀ log ∈ logs, is_transfer_log log = true → Readable assets log := by
  induction logs with
  | nil => simp [decode_rescan_logs]
  | cons log logs ih =>
    rw [List.forall_mem_cons, ← ih]
    by_cases htransfer : is_transfer_log log = true
    swap
    · simp [decode_rescan_logs, htransfer]
    cases hcontract : normalize_hex log.address 40 "address" with
    | error e => simp [decode_rescan_logs, htransfer, hcontract, bind, Except.bind, Readable]
    | ok contract =>
      simp only [decode_rescan_logs, htransfer, hcontract, Readable, Listed.of_contract hcontract,
        bind, Except.bind, Bool.not_true, Bool.false_eq_true, if_false]
      cases hfound : assets.find? (emits (contract.map Text.asciiLower)) with
      | none => simp
      | some asset =>
        cases hdecoded : decode_erc20_transfer_log log asset.decimals with
        | error e => simp [hdecoded]
        | ok transfer => cases decode_rescan_logs assets logs <;> simp [hdecoded, pure, Except.pure]

theorem mem_decode_rescan_logs {logs : List EvmLog}
    {transfers : List DecodedRescanTokenTransfer}
    (h : decode_rescan_logs assets logs = .ok transfers) {decoded : DecodedRescanTokenTransfer} :
    decoded ∈ transfers ↔ ∃ log ∈ logs, Listed assets log decoded.asset ∧
      decode_erc20_transfer_log log decoded.asset.decimals = .ok decoded.transfer := by
  induction logs generalizing transfers with
  | nil =>
    obtain rfl := Except.ok.inj h
    simp
  | cons log logs ih =>
    rw [List.exists_mem_cons_iff]
    by_cases htransfer : is_transfer_log log = true
    swap
    · simp only [decode_rescan_logs, htransfer, Bool.not_false, if_true] at h
      rw [ih h, or_iff_right]
      exact fun hlog => htransfer (decode_erc20_transfer hlog.2)
    simp only [decode_rescan_logs, htransfer, Bool.not_true, Bool.false_eq_true, if_false] at h
    obtain ⟨contract, hcontract, h⟩ := bind_ok h
    rw [Listed.of_contract hcontract]
    split at h
    · next hfound =>
      rw [ih h, or_iff_right]
      exact fun hlog => nomatch hfound.symm.trans hlog.1
    · next asset hfound =>
      obtain ⟨transfer, hdecoded, h⟩ := bind_ok h
      obtain ⟨rest, hrest, h⟩ := bind_ok h
      obtain rfl := Except.ok.inj h
      rw [List.mem_cons, ih hrest]
      refine or_congr_left ⟨?_, ?_⟩
      · rintro rfl
        exact ⟨hfound, hdecoded⟩
      · rintro ⟨hfound', hdecoded'⟩
        obtain ⟨asset', transfer'⟩ := decoded
        obtain rfl := Option.some.inj (hfound.symm.trans hfound')
        obtain rfl := Except.ok.inj (hdecoded.symm.trans hdecoded')
        rfl

end Decoding

end CoinListener.Providers.Evm
