import CoinListener.Providers.EvmRescan
import CoinListener.Storage.Events

/-! One transfer log in two spellings, as two providers may return it. -/
namespace CoinListener.Api
open Foundation Storage Providers

/-- The log with its hexadecimal texts in lower case. -/
def lowercased (log : Evm.EvmLog) : Evm.EvmLog :=
  { address := Text.toAsciiLowercase log.address
    topics := log.topics.map Text.toAsciiLowercase
    data := Text.toAsciiLowercase log.data
    transaction_hash := log.transaction_hash.map Text.toAsciiLowercase
    log_index := log.log_index.map Text.toAsciiLowercase
    block_number := log.block_number.map Text.toAsciiLowercase
    block_hash := log.block_hash.map Text.toAsciiLowercase }

/-- The draft a scan or a rescan makes of a transfer. -/
inductive TransferDraft (context : ScanAddressContext) (asset : Asset)
    (transfer : Evm.DecodedErc20Transfer) : AddressEventDraft → Prop where
  | scanned : TransferDraft context asset transfer (Evm.transfer_event_draft context asset transfer)
  | rescanned {source tx draft}
      (h : Evm.transfer_event_draft_with_source context asset transfer source tx = .ok draft) :
    TransferDraft context asset transfer draft

/-- Both drafts together add one event and one outbox row. -/
def StoredOnce (tables : EventTables) (first second : AddressEventDraft) : Prop :=
  let both := ((tables.insert_event_and_outbox_if_not_exists first).2
    |>.insert_event_and_outbox_if_not_exists second).2
  ∃ event row, both.address_events = tables.address_events ++ [event] ∧
    both.notification_outbox = tables.notification_outbox ++ [row] ∧ row.event_id = event.id

section Spelling
variable {context : ScanAddressContext} {asset : Asset} {transfer transfer' : Evm.DecodedErc20Transfer}
  {draft draft' : AddressEventDraft} {log log' : Evm.EvmLog}

theorem TransferDraft.unique_transfer (h : TransferDraft context asset transfer draft) :
    draft.unique_transfer = some
      { chain_id := context.chain_id
        tx_hash := transfer.tx_hash
        log_index := transfer.log_index
        address_id := context.id
        asset_id := asset.id
        event_type := "transfer" } := by
  cases h with
  | scanned => rfl
  | rescanned h =>
    obtain ⟨metadata, rfl⟩ := Evm.draft_with_source_ok h
    rfl

/-- The log index is a number; the transaction hash is kept as it is written. -/
theorem same_key_iff (hcase : lowercased log = lowercased log') {decimals : Int}
    (h : Evm.decode_erc20_transfer_log log decimals = .ok transfer)
    (h' : Evm.decode_erc20_transfer_log log' decimals = .ok transfer')
    (hd : TransferDraft context asset transfer draft)
    (hd' : TransferDraft context asset transfer' draft') :
    draft.unique_transfer = draft'.unique_transfer ↔
      log.transaction_hash = log'.transaction_hash := by
  obtain ⟨_, _, _, _, _, _, _, hhash, hindex, _⟩ := Evm.decode_erc20_ok h
  obtain ⟨_, _, _, _, _, _, _, hhash', hindex', _⟩ := Evm.decode_erc20_ok h'
  have hsame := Evm.parse_required_hex_i32_lower hindex hindex' (congrArg (·.log_index) hcase)
  rw [hd.unique_transfer, hd'.unique_transfer, hhash, hhash', hsame]
  simp

/-- The same identity: the second draft finds the first one's event. -/
theorem storedOnce_of_same {tables : EventTables} {key : TransferKey}
    (hkey : draft.unique_transfer = some key) (hsame : draft.unique_transfer = draft'.unique_transfer)
    (hnew : ¬ tables.HasEvent key) : StoredOnce tables draft draft' := by
  have hevent := EventTables.insert_hasEvent (t := tables) hkey
  rw [StoredOnce, EventTables.insert_known (hsame.symm.trans hkey) hevent]
  rcases tables.insert_cases draft with ⟨hconflict, _⟩ | ⟨_, _, hevents, houtbox⟩
  · obtain ⟨key', hkey', hstored⟩ := EventTables.conflicts_iff.mp hconflict
    obtain rfl := Option.some.inj (hkey.symm.trans hkey')
    exact absurd hstored hnew
  · exact ⟨_, _, hevents, houtbox, rfl⟩

/-- Different identities: there is an event for each. -/
theorem not_storedOnce_of_ne {tables : EventTables} {key : TransferKey}
    (hkey : draft'.unique_transfer = some key) (hne : draft.unique_transfer ≠ draft'.unique_transfer)
    (hfirst : ¬ tables.conflicts draft = true) (hnew : ¬ tables.HasEvent key) :
    ¬ StoredOnce tables draft draft' := by
  rintro ⟨event, row, hevents, _⟩
  rcases tables.insert_cases draft with ⟨hconflict, _⟩ | ⟨_, _, hone, _⟩
  · exact hfirst hconflict
  rcases (tables.insert_event_and_outbox_if_not_exists draft).2.insert_cases draft' with
    ⟨hconflict, _⟩ | ⟨_, _, htwo, _⟩
  · obtain ⟨key', hkey', e, he, hekey⟩ := EventTables.conflicts_iff.mp hconflict
    obtain rfl := Option.some.inj (hkey.symm.trans hkey')
    rw [hone] at he
    rcases List.mem_append.mp he with hold | hown
    · exact hnew ⟨e, hold, hekey⟩
    · obtain rfl := List.mem_singleton.mp hown
      exact hne (hekey.trans hkey'.symm)
  · have hlength := congrArg List.length hevents
    rw [htwo, hone] at hlength
    simp at hlength

/-- Two spellings of a log, read by a scan or a rescan each, count as one transfer exactly if they
spell the transaction hash alike. -/
theorem renderings_stored_once_iff (hcase : lowercased log = lowercased log')
    (h : Evm.decode_erc20_transfer_log log asset.decimals = .ok transfer)
    (h' : Evm.decode_erc20_transfer_log log' asset.decimals = .ok transfer')
    (hd : TransferDraft context asset transfer draft)
    (hd' : TransferDraft context asset transfer' draft') :
    (draft.unique_transfer = draft'.unique_transfer ∧
      ∀ tables : EventTables, (∀ key, draft.unique_transfer = some key → ¬ tables.HasEvent key) →
        StoredOnce tables draft draft') ↔ log.transaction_hash = log'.transaction_hash := by
  rw [← same_key_iff hcase h h' hd hd']
  refine ⟨fun hboth => hboth.1, fun hsame => ⟨hsame, fun tables hnew => ?_⟩⟩
  exact storedOnce_of_same hd.unique_transfer hsame (hnew _ hd.unique_transfer)

end Spelling

/-! ### A transaction hash in two spellings -/

def hex_text (digits : List Char) : String :=
  String.ofList ('0' :: 'x' :: digits)

theorem prefix_hex_text (digits : List Char) : "0x" ++ String.ofList digits = hex_text digits := by
  rw [← String.toList_inj]
  simp [hex_text]

theorem normalize_hex_text {digits : List Char} {n : Nat} (hlength : digits.length = n)
    (hdigits : digits.all Evm.is_ascii_hexdigit = true) (kind : String) :
    Evm.normalize_hex (hex_text digits) n kind = .ok digits := by
  simp [Evm.normalize_hex, hex_text, hlength, hdigits]

def hash_text (digit : Char) : String :=
  hex_text (List.replicate 64 digit)

def address_text (digit : Char) : String :=
  hex_text (List.replicate 40 digit)

def topic_text (digit : Char) : String :=
  hex_text (List.replicate 24 '0' ++ List.replicate 40 digit)

theorem topic_text_address {digit : Char} (h : Evm.is_ascii_hexdigit digit = true) :
    Evm.topic_to_address (topic_text digit) = .ok (address_text digit) := by
  have hzero : Evm.is_ascii_hexdigit '0' = true := by decide
  have hdigits : Evm.normalize_hex (topic_text digit) 64 "topic" =
      .ok (List.replicate 24 '0' ++ List.replicate 40 digit) :=
    normalize_hex_text (by simp) (by simp [h, hzero]) _
  rw [Evm.topic_to_address, hdigits]
  exact congrArg Except.ok (prefix_hex_text _)

def usdt : Asset :=
  { id := 5, chain_id := 1, asset_type := "erc20", symbol := "USDT", name := "Tether USD",
    contract_address := some (address_text 'd'), decimals := 6, status := "active" }

def watched_evm : ScanAddressContext :=
  { id := 7, tenant_id := 3, chain_id := 1, address := address_text '1' }

/-- A transfer to the watched address. -/
def usdt_log (tx_hash : String) : Evm.EvmLog :=
  { address := address_text 'd'
    topics := [Evm.TRANSFER_TOPIC0, topic_text '2', topic_text '1']
    data := hash_text '0'
    transaction_hash := some tx_hash
    log_index := some "0x1"
    block_number := some "0x64"
    block_hash := none }

def usdt_transfer (tx_hash : String) : Evm.DecodedErc20Transfer :=
  { tx_hash := tx_hash
    log_index := 1
    block_number := 100
    block_hash := none
    from_address := address_text '2'
    to_address := address_text '1'
    amount_raw := "0"
    amount_decimal := "0.0"
    token_contract := some (address_text 'd') }

theorem usdt_log_decoded {digit : Char} (h : Evm.is_ascii_hexdigit digit = true) :
    Evm.decode_erc20_transfer_log (usdt_log (hash_text digit)) usdt.decimals =
      .ok (usdt_transfer (hash_text digit)) := by
  have htopic0 : Text.toAsciiLowercase Evm.TRANSFER_TOPIC0 = Evm.TRANSFER_TOPIC0 := by
    decide +kernel
  have hhash : Evm.normalize_hex (hash_text digit) 64 "transactionHash" = .ok _ :=
    normalize_hex_text (by simp) (by simp [h]) _
  have hdata : Evm.parse_abi_u256_to_decimal_string (hash_text '0') "data" = .ok "0" := by
    have hzero : Evm.hex_number (List.replicate 64 '0') = 0 := by decide +kernel
    rw [Evm.parse_abi_u256_to_decimal_string, hash_text, normalize_hex_text (by simp) (by decide)]
    exact congrArg (fun n : Nat => Except.ok (toString n)) hzero
  have hcontract : Evm.normalize_hex (address_text 'd') 40 "address" = .ok _ :=
    normalize_hex_text (by simp) (by decide) _
  have hlower : Text.asciiLower 'd' = 'd' := by decide
  have hindex : Evm.parse_required_hex_i32 (some "0x1") "logIndex" = .ok 1 := by decide +kernel
  have hblock : Evm.parse_required_hex_i64 (some "0x64") "blockNumber" = .ok 100 := by decide +kernel
  have hdecimal : Evm.wei_to_decimal_string "0" usdt.decimals = .ok "0.0" := by decide +kernel
  have hfrom := topic_text_address (show Evm.is_ascii_hexdigit '2' = true by decide)
  have hto := topic_text_address (show Evm.is_ascii_hexdigit '1' = true by decide)
  have htoken : "0x" ++ String.ofList (List.replicate 40 (Text.asciiLower 'd')) =
      address_text 'd' := by
    rw [hlower]
    exact prefix_hex_text _
  simp [-List.reduceReplicate, Evm.decode_erc20_transfer_log, usdt_log, htopic0, ensure, required,
    hhash, hdata, hfrom, hto, hcontract, hindex, hblock, hdecimal, htoken, usdt_transfer, bind,
    Except.bind, pure, Except.pure]

def usdt_draft (tx_hash : String) : AddressEventDraft :=
  Evm.transfer_event_draft watched_evm usdt (usdt_transfer tx_hash)

theorem usdt_draft_scanned (tx_hash : String) :
    TransferDraft watched_evm usdt (usdt_transfer tx_hash) (usdt_draft tx_hash) :=
  .scanned

theorem renderings_stored_once_usdt :
    StoredOnce .empty (usdt_draft (hash_text 'a')) (usdt_draft (hash_text 'a')) := by
  have hdecoded : Evm.decode_erc20_transfer_log (usdt_log (hash_text 'a')) usdt.decimals =
      .ok (usdt_transfer (hash_text 'a')) := usdt_log_decoded (by decide)
  have hboth := (renderings_stored_once_iff rfl hdecoded hdecoded (usdt_draft_scanned _)
    (usdt_draft_scanned _)).mpr rfl
  refine hboth.2 .empty fun key _ hevent => ?_
  obtain ⟨e, he, _⟩ := hevent
  exact nomatch he

theorem hash_text_lower :
    Text.toAsciiLowercase (hash_text 'a') = Text.toAsciiLowercase (hash_text 'A') := by
  have ha : Text.asciiLower 'a' = 'a' := by decide
  have hA : Text.asciiLower 'A' = 'a' := by decide
  simp [Text.toAsciiLowercase, hash_text, hex_text, ha, hA]

/-- The same transfer with its hash in capital letters is stored again. -/
theorem capital_hash_stored_twice :
    lowercased (usdt_log (hash_text 'a')) = lowercased (usdt_log (hash_text 'A')) ∧
      Evm.decode_erc20_transfer_log (usdt_log (hash_text 'a')) usdt.decimals =
        .ok (usdt_transfer (hash_text 'a')) ∧
      Evm.decode_erc20_transfer_log (usdt_log (hash_text 'A')) usdt.decimals =
        .ok (usdt_transfer (hash_text 'A')) ∧
      ¬ StoredOnce .empty (usdt_draft (hash_text 'a')) (usdt_draft (hash_text 'A')) := by
  refine ⟨?_, usdt_log_decoded (by decide), usdt_log_decoded (by decide), ?_⟩
  · simp [lowercased, usdt_log, hash_text_lower]
  · refine not_storedOnce_of_ne (usdt_draft_scanned _).unique_transfer ?_ ?_ ?_
    · rw [(usdt_draft_scanned _).unique_transfer, (usdt_draft_scanned _).unique_transfer]
      simp [usdt_transfer, hash_text, hex_text]
    · simp [EventTables.conflicts, EventTables.empty]
    · rintro ⟨e, he, _⟩
      cases he

end CoinListener.Api
