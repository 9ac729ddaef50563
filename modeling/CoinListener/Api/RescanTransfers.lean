import CoinListener.Api.Renderings
import CoinListener.Api.RescanRecords

/-! A rescan and a periodic scan of the same logs. -/
namespace CoinListener.Api
open Foundation Storage Providers Worker

section Transfers
variable {w : Answers} {address : WatchedAddress} {chain_id : Uuid} {hash : String}
  {latest_block default_confirmations : Int}

/-! ### Agreement -/

section Agree
variable {asset : Asset} {log : Evm.EvmLog} {transfer : Evm.DecodedErc20Transfer}

/-- Contract and log spell the same address, up to case. -/
theorem listed_contract (h : Evm.Listed w.assets log asset) :
    ∃ contract, asset.contract_address = some contract ∧
      Text.eqIgnoreAsciiCase log.address contract = true := by
  obtain ⟨digits, hdigits, hfound⟩ := h
  obtain ⟨_, _, contract, digits', hcontract, hdigits', hsame⟩ :=
    Evm.emits_iff.mp (List.find?_some hfound)
  refine ⟨contract, hcontract, Evm.eqIgnoreAsciiCase_iff.mpr ?_⟩
  rw [(Evm.normalize_hex_ok hdigits).1, (Evm.normalize_hex_ok hdigits').1]
  simp [hsame]

/-- Logs of one contract are listed alike. -/
theorem listed_same_contract {log' : Evm.EvmLog} {contract : String} {digits : List Char}
    (h : Evm.Listed w.assets log' asset) (hcontract : asset.contract_address = some contract)
    (hlog : Text.eqIgnoreAsciiCase log.address contract = true)
    (hdigits : Evm.normalize_hex log.address 40 "address" = .ok digits) :
    Evm.Listed w.assets log asset := by
  obtain ⟨contract', hcontract', hlog'⟩ := listed_contract h
  obtain rfl := Option.some.inj (hcontract.symm.trans hcontract')
  obtain ⟨digits', hdigits', hfound⟩ := h
  have hsame : digits.map Text.asciiLower = digits'.map Text.asciiLower := by
    have hboth := (Evm.eqIgnoreAsciiCase_iff.mp hlog).trans
      (Evm.eqIgnoreAsciiCase_iff.mp hlog').symm
    rw [(Evm.normalize_hex_ok hdigits).1, (Evm.normalize_hex_ok hdigits').1] at hboth
    simpa using hboth
  exact ⟨digits, hdigits, hsame ▸ hfound⟩

theorem transfer_topic_lower : Text.toAsciiLowercase Evm.TRANSFER_TOPIC0 = Evm.TRANSFER_TOPIC0 := by
  decide +kernel

theorem Concerns.is_transfer (h : Concerns w address asset log) :
    Evm.is_transfer_log log = true := by
  have htopics : ∀ {filters : List (Option String)} {topics : List String},
      topics_match (some Evm.TRANSFER_TOPIC0 :: filters) topics = true →
        topics.head?.map Text.toAsciiLowercase = some Evm.TRANSFER_TOPIC0 := by
    intro filters topics hmatch
    cases topics with
    | nil => exact nomatch hmatch
    | cons topic topics =>
      have hfirst := beq_iff_eq.mp (Bool.and_eq_true_iff.mp hmatch).1
      exact congrArg some (hfirst.trans transfer_topic_lower)
  obtain ⟨contract, topic, _, _, h | h⟩ := h
  · exact beq_iff_eq.mpr (htopics h.2.1)
  · exact beq_iff_eq.mpr (htopics h.2.1)

/-- A transfer concerns an address exactly if the address is a party of it. -/
theorem concerns_iff {topic contract : String}
    (htopic : Evm.address_to_topic address.address = .ok topic)
    (hdecoded : Evm.decode_erc20_transfer_log log asset.decimals = .ok transfer)
    (hcontract : asset.contract_address = some contract) :
    Concerns w address asset log ↔ Text.eqIgnoreAsciiCase log.address contract = true ∧
      is_party address.address ⟨asset, transfer⟩ = true := by
  obtain ⟨topic0, topic1, topic2, rest, _, htopics, htopic0, _, _, _, _, _, hfrom, hto⟩ :=
    Evm.decode_erc20_ok hdecoded
  have hfirst : Text.eqIgnoreAsciiCase topic0 Evm.TRANSFER_TOPIC0 = true :=
    beq_iff_eq.mpr (htopic0.trans transfer_topic_lower.symm)
  have hincoming : topics_match [some Evm.TRANSFER_TOPIC0, none, some topic] log.topics = true ↔
      Text.eqIgnoreAsciiCase transfer.to_address address.address = true := by
    rw [htopics, ← Evm.topic_matches_iff htopic hto]
    simp [topics_match, hfirst]
  have houtgoing : topics_match [some Evm.TRANSFER_TOPIC0, some topic, none] log.topics = true ↔
      Text.eqIgnoreAsciiCase transfer.from_address address.address = true := by
    rw [htopics, ← Evm.topic_matches_iff htopic hfrom]
    simp [topics_match, hfirst]
  rw [is_party, Bool.or_eq_true, ← hincoming, ← houtgoing]
  constructor
  · rintro ⟨contract', topic', hcontract', htopic', h⟩
    obtain rfl := Option.some.inj (hcontract.symm.trans hcontract')
    obtain rfl := Except.ok.inj (htopic.symm.trans htopic')
    rcases h with h | h
    · exact ⟨h.1, Or.inr h.2.1⟩
    · exact ⟨h.1, Or.inl h.2.1⟩
  · rintro ⟨haddress, h | h⟩
    · exact ⟨contract, topic, hcontract, htopic, Or.inr ⟨haddress, h, le_refl _, le_refl _⟩⟩
    · exact ⟨contract, topic, hcontract, htopic, Or.inl ⟨haddress, h, le_refl _, le_refl _⟩⟩

/-- Where the first listed asset is the one concerned, the rescan picks what is expected. -/
theorem picked_iff_expected (haskable : Askable w address) (hfirst : FirstListed w address)
    (t : TransferFacts) : Picked w address t ↔ Expected w address t := by
  constructor
  · rintro ⟨asset, hasset, log, hlog, hlisted, transfer, hdecoded, hparty, ht⟩
    obtain ⟨contract, hcontract, haddress⟩ := listed_contract hlisted
    obtain ⟨topic, htopic⟩ := haskable.resolve_left fun hnone => by simp [hnone] at hasset
    exact ⟨asset, hasset, log, hlog,
      (concerns_iff htopic hdecoded hcontract).mpr ⟨haddress, hparty⟩, transfer, hdecoded, ht⟩
  · rintro ⟨asset, hasset, log, hlog, hconcerns, transfer, hdecoded, ht⟩
    obtain ⟨contract, topic, hcontract, htopic, _⟩ := id hconcerns
    exact ⟨asset, hasset, log, hlog, hfirst asset hasset log hlog hconcerns, transfer, hdecoded,
      ((concerns_iff htopic hdecoded hcontract).mp hconcerns).2, ht⟩

theorem scan_inserts_iff {drafts : List AddressEventDraft}
    (hdrafts : ∀ draft, draft ∈ drafts ↔ ∃ asset ∈ erc20_assets w address,
      ∃ log ∈ w.receipt.logs, Concerns w address asset log ∧
        draft ∈ scanned_drafts (scan_context address) asset log) (t : TransferFacts) :
    Inserts w address drafts t ↔ Expected w address t := by
  constructor
  · rintro ⟨draft, hdraft, _, _, rfl⟩
    obtain ⟨asset, hasset, log, hlog, hconcerns, hdraft⟩ := (hdrafts draft).mp hdraft
    obtain ⟨transfer, hdecoded, rfl⟩ := mem_scanned_drafts.mp hdraft
    exact ⟨asset, hasset, log, hlog, hconcerns, transfer, hdecoded, rfl⟩
  · rintro ⟨asset, hasset, log, hlog, hconcerns, transfer, hdecoded, rfl⟩
    obtain ⟨hselected, herc20⟩ := mem_erc20_assets.mp hasset
    exact ⟨_, (hdrafts _).mpr ⟨asset, hasset, log, hlog, hconcerns,
      mem_scanned_drafts.mpr ⟨transfer, hdecoded, rfl⟩⟩, rfl,
      ⟨asset, selected_in_db hselected, rfl, herc20⟩, rfl⟩

end Agree

/-- Where the rescan inserts what is expected, the assets concerned are the ones listed. -/
theorem first_listed_of_same (tenant_id : Uuid)
    (h : Accepted w address chain_id hash latest_block default_confirmations)
    (hsame : SameTransfers w address tenant_id chain_id hash latest_block default_confirmations) :
    Askable w address ∧ Legible w ∧ FirstListed w address := by
  obtain ⟨scanned, hscan, _⟩ := scan_records h
  obtain ⟨rescanned, hrescan, hpicked⟩ := rescan_transfers_records tenant_id h
  obtain ⟨events, scanned', response, rescanned', hscan_run, hrescan_run, _, hexpected⟩ := hsame
  obtain ⟨⟨haskable, hdecodes⟩, rfl⟩ := hscan.of_ok hscan_run
  obtain ⟨hlegible, rfl⟩ := hrescan.of_ok hrescan_run
  refine ⟨haskable, hlegible, fun asset hasset log hlog hconcerns => ?_⟩
  obtain ⟨transfer, hdecoded⟩ := hdecodes asset hasset log hlog hconcerns
  -- the same transfer is picked from some log, and it counts for the same asset there
  have hinserted := (hexpected _).mpr ⟨asset, hasset, log, hlog, hconcerns, transfer, hdecoded, rfl⟩
  obtain ⟨asset', hasset', log', _, hlisted, transfer', _, _, hfacts⟩ :=
    (hpicked hlegible _).mp hinserted
  have hkey := Option.some.inj (congrArg TransferFacts.key hfacts)
  obtain rfl := h.asset_unique (selected_in_db (mem_erc20_assets.mp hasset').1)
    (selected_in_db (mem_erc20_assets.mp hasset).1) (congrArg TransferKey.asset_id hkey)
  obtain ⟨contract, topic, hcontract, htopic, _⟩ := id hconcerns
  obtain ⟨_, _, _, _, digits, _, _, _, _, _, _, hdigits, _⟩ := Evm.decode_erc20_ok hdecoded
  exact listed_same_contract hlisted hcontract
    ((concerns_iff htopic hdecoded hcontract).mp hconcerns).1 hdigits

/-- A scan and a rescan insert the same ERC-20 transfers of an address, namely those of its selected
assets, exactly if the node can be asked for the address, every transfer log is legible and no other
asset is listed first for a contract concerned. -/
theorem rescan_matches_scan_iff (tenant_id : Uuid)
    (h : Accepted w address chain_id hash latest_block default_confirmations) :
    SameTransfers w address tenant_id chain_id hash latest_block default_confirmations ↔
      Askable w address ∧ Legible w ∧ FirstListed w address := by
  refine ⟨first_listed_of_same tenant_id h, ?_⟩
  rintro ⟨haskable, hlegible, hfirst⟩
  obtain ⟨scanned, hscan, hscanned⟩ := scan_records h
  obtain ⟨rescanned, hrescan, hpicked⟩ := rescan_transfers_records tenant_id h
  have hdecodes : ∀ asset ∈ erc20_assets w address, ∀ log ∈ w.receipt.logs,
      Concerns w address asset log → Decodes asset log := fun asset hasset log hlog hconcerns =>
    (hlegible log hlog hconcerns.is_transfer).2 asset (hfirst asset hasset log hlog hconcerns)
  obtain ⟨events, hscan_run⟩ := hscan.ok ⟨haskable, hdecodes⟩ []
  obtain ⟨response, hrescan_run⟩ := hrescan.ok hlegible []
  exact ⟨events, _, response, _, hscan_run, hrescan_run, scan_inserts_iff (hscanned haskable),
    fun t => (hpicked hlegible t).trans (picked_iff_expected haskable hfirst t)⟩

end Transfers

/-! ### One contract under two symbols -/

def eth : Asset :=
  { id := 6, chain_id := 1, asset_type := "native", symbol := "ETH", name := "Ether",
    contract_address := none, decimals := 18, status := "active" }

/-- Another asset with the contract of `usdt`, listed before it. -/
def usdt_alias : Asset :=
  { usdt with id := 4, symbol := "TETHER" }

def watched_row : WatchedAddress :=
  { id := 7, tenant_id := 3, chain_id := 1, address := address_text '1', label := none,
    priority := "normal", scan_interval_seconds := 60, transfer_filter_enabled := true,
    balance_change_filter_enabled := true, status := "active" }

/-- A transfer of `usdt` to the watched address, which selected `usdt`. -/
def usdt_answers (erc20 : List Asset) : Answers where
  db :=
    { chains := [{ id := 1, key := "ethereum", chain_type := "evm", default_confirmations := 12 }]
      assets := erc20 ++ [eth]
      watched_address_assets := [(7, 5)]
      scan_cursors := []
      balance_snapshots := []
      clock := 0
      events := .empty }
  assets := erc20 ++ [eth]
  watched_addresses := [watched_row]
  provider := { id := 8, chain_id := 1, name := "node", base_url := "https://node", timeout_ms := 1 }
  tx :=
    { hash := hash_text 'a'
      from_address := address_text '2'
      to_address := some (address_text 'd')
      value := "0x0"
      block_number := some "0x64"
      block_hash := none }
  receipt :=
    { transaction_hash := hash_text 'a'
      status := some "0x1"
      block_number := some "0x64"
      block_hash := none
      from_address := address_text '2'
      to_address := some (address_text 'd')
      logs := [usdt_log (hash_text 'a')] }
  block_number := 100
  inserted := fun _ => none

theorem usdt_answers_accepted {erc20 : List Asset}
    (hids : ((erc20 ++ [eth]).map (·.id)).Nodup)
    (hactive : ∀ asset ∈ erc20, asset.chain_id = 1 ∧ asset.status = "active" ∧
      asset.asset_type = "erc20") :
    Accepted (usdt_answers erc20) watched_row 1 (hash_text 'a') 200 12 where
  evm := ⟨{ id := 1, key := "ethereum", chain_type := "evm", default_confirmations := 12 }, rfl, rfl⟩
  provider := Int.one_pos
  tx_hash := by
    have hdigit : Evm.is_ascii_hexdigit 'a' = true := by decide
    simp [validate_evm_tx_hash, hash_text, hex_text, ensure, hdigit]
  consistent := by
    simp [validate_evm_rescan_rpc_consistency, usdt_answers, Text.eqIgnoreAsciiCase,
      optional_address_matches, ensure, bind, Except.bind]
  succeeded := rfl
  mined := by
    have hblock : Evm.parse_hex_quantity_to_i64 "0x64" = .ok 100 := by decide +kernel
    simp only [mined_block, usdt_answers, Option.mapM_some, hblock]
    rfl
  native := by
    have hvalue : Evm.parse_hex_u256_to_decimal_string "0x0" = .ok "0" := by decide +kernel
    refine ⟨eth, "0", "0.0", ?_, hvalue, by decide +kernel⟩
    have hnone : erc20.find? (·.asset_type == "native") = none :=
      List.find?_eq_none.mpr fun asset hasset => by simp [(hactive asset hasset).2.2]
    simp only [usdt_answers, List.find?_append, hnone]
    rfl
  listed := fun asset => by
    rw [Db.assets_for_chain, mem_sort_assets, List.mem_filter]
    refine ⟨fun h => ⟨h, ?_⟩, fun h => h.1⟩
    rcases List.mem_append.mp h with h | h
    · simp [(hactive asset h).1, (hactive asset h).2.1]
    · obtain rfl := List.mem_singleton.mp h
      decide
  asset_ids := hids
  watched := List.mem_singleton_self _
  watched_ids := List.nodup_singleton _
  selected := fun asset h => by
    have hasset := selected_in_db h
    rcases List.mem_append.mp hasset with h | h
    · exact (hactive asset h).1
    · obtain rfl := List.mem_singleton.mp h
      rfl
  range := by
    have hrange : evm_transfer_scan_range none 200 12 = .ok (some (0, 188)) := by decide +kernel
    exact ⟨0, 188, hrange, le_refl _, show (0 : Int) ≤ 100 by omega,
      show (100 : Int) ≤ 188 by omega⟩

theorem usdt_contract : Evm.normalize_hex (address_text 'd') 40 "address" =
    .ok (List.replicate 40 'd') :=
  normalize_hex_text List.length_replicate (by decide) _

/-- An asset with this contract is found in a list that starts with it. -/
theorem usdt_listed {asset : Asset} {rest : List Asset}
    (h : asset.asset_type = "erc20" ∧ asset.status = "active" ∧
      asset.contract_address = some (address_text 'd')) :
    (asset :: rest).find? (Evm.emits ((List.replicate 40 'd').map Text.asciiLower)) = some asset :=
  List.find?_cons_of_pos (Evm.emits_iff.mpr ⟨h.1, h.2.1, _, _, h.2.2,
    normalize_hex_text List.length_replicate (by decide) _, rfl⟩)

/-- The log counts for the first asset with the contract. -/
theorem usdt_log_listed {asset : Asset} {rest : List Asset}
    (h : asset.asset_type = "erc20" ∧ asset.status = "active" ∧
      asset.contract_address = some (address_text 'd')) (other : Asset) :
    Evm.Listed (asset :: rest) (usdt_log (hash_text 'a')) other ↔ other = asset := by
  rw [Evm.Listed.of_contract usdt_contract, usdt_listed h]
  simp [eq_comm]

theorem usdt_topic : ∃ topic, Evm.address_to_topic (address_text '1') = .ok topic := by
  have hdigits : Evm.normalize_hex (address_text '1') 40 "address" = .ok _ :=
    normalize_hex_text List.length_replicate (by decide) _
  rw [Evm.address_to_topic, hdigits]
  exact ⟨_, rfl⟩

theorem usdt_concerns (erc20 : List Asset) :
    Concerns (usdt_answers erc20) watched_row usdt (usdt_log (hash_text 'a')) := by
  obtain ⟨topic, htopic⟩ := usdt_topic
  refine (concerns_iff htopic (usdt_log_decoded (by decide)) rfl).mpr ⟨beq_self_eq_true _, ?_⟩
  exact Bool.or_eq_true_iff.mpr (Or.inr (beq_self_eq_true _))

theorem usdt_selected {erc20 : List Asset} (h : usdt ∈ erc20) :
    usdt ∈ erc20_assets (usdt_answers erc20) watched_row := by
  rw [mem_erc20_assets, Db.selected_assets_for_address, mem_sort_assets, List.mem_flatMap]
  exact ⟨⟨(7, 5), List.mem_singleton_self (7, 5),
      List.mem_filter.mpr ⟨List.mem_append_left _ h, by decide⟩⟩, rfl⟩

theorem usdt_answers_same :
    SameTransfers (usdt_answers [usdt]) watched_row 3 1 (hash_text 'a') 200 12 := by
  have haccepted := @usdt_answers_accepted [usdt] (by decide) (by simp [usdt])
  have herc20 : usdt.asset_type = "erc20" ∧ usdt.status = "active" ∧
      usdt.contract_address = some (address_text 'd') := ⟨rfl, rfl, rfl⟩
  refine (rescan_matches_scan_iff 3 haccepted).mpr ⟨Or.inr usdt_topic, ?_, ?_⟩
  · intro log hlog _
    obtain rfl := List.mem_singleton.mp hlog
    refine ⟨⟨_, usdt_contract⟩, fun asset hlisted => ?_⟩
    obtain rfl := (usdt_log_listed herc20 asset).mp hlisted
    exact ⟨_, usdt_log_decoded (by decide)⟩
  · intro asset hasset log hlog _
    obtain rfl := List.mem_singleton.mp hlog
    obtain ⟨hselected, htype⟩ := mem_erc20_assets.mp hasset
    refine (usdt_log_listed herc20 asset).mpr ?_
    rcases List.mem_cons.mp (selected_in_db hselected) with h | h
    · exact h
    · obtain rfl := List.mem_singleton.mp h
      exact absurd htype (by decide)

/-- With an alias of the selected asset before it, the rescan leaves the transfer out. -/
theorem alias_listed_first :
    let w := usdt_answers [usdt_alias, usdt]
    w.assets = w.db.assets_for_chain 1 ∧ Accepted w watched_row 1 (hash_text 'a') 200 12 ∧
      ¬ SameTransfers w watched_row 3 1 (hash_text 'a') 200 12 := by
  have haccepted := @usdt_answers_accepted [usdt_alias, usdt] (by decide)
    (by simp [usdt, usdt_alias])
  refine ⟨?_, haccepted, fun hsame => ?_⟩
  · decide +kernel
  · obtain ⟨_, _, hfirst⟩ := first_listed_of_same 3 haccepted hsame
    have hlisted := hfirst usdt (usdt_selected (by simp)) _ (List.mem_singleton_self _)
      (usdt_concerns _)
    exact absurd ((usdt_log_listed ⟨rfl, rfl, rfl⟩ usdt).mp hlisted) (by decide)

end CoinListener.Api
