import CoinListener.Foundation.Undisturbed
import CoinListener.Storage.CustodyRuns
import CoinListener.Storage.WatchedFrame

/-! Each chain of a custody account gets a watched address, and no other address is touched. -/
namespace CoinListener.Storage
open Foundation Transaction AddressTables

set_option linter.unusedSectionVars false

variable {W : Type} [DecidableEq W] {lower : String → String} {w : W} {C : CustodyTables → Prop}
  {P : CustodyTables → Nat → Prop} {α : Type} {about : WatchedAddress → Prop}
  {t t₀ : CustodyTables} {n n₀ : Uuid} {tenant_id chain_id id : Uuid} {address business_ref : String}
  {asset_ids : List Uuid} {chain : Chain} {row : WatchedAddress}

abbrev CustodyWorks (lower : String → String) (w : W) (C : CustodyTables → Prop)
    (P : CustodyTables → Nat → Prop) (p : CustodyCall α) (Q : α → CustodyTables → Nat → Prop) : Prop :=
  Works (custody_schema lower) AppError.Database w C P p Q

theorem ask_works {statement : CustodyStatement}
    {Q : statement.Answer → CustodyTables → Nat → Prop}
    (h : ∀ v n skipped now, P v n → ∀ a, (v.effect now n lower skipped statement).answer = .ok a →
      Q a (CustodyChange.replay (v.effect now n lower skipped statement).log v)
        (n + (v.effect now n lower skipped statement).new_ids)) :
    CustodyWorks lower w C P (CustodyCall.ask statement) Q :=
  Works.ask h

/-! ### One chain -/

/-- What a config has brought about so far. -/
structure Ensuring (about : WatchedAddress → Prop) (t₀ : CustodyTables) (n₀ : Uuid)
    (t : CustodyTables) (n : Uuid) : Prop where
  frame : Watching about n₀ t₀ t
  ids : CustodyIds t n
  le : n₀ ≤ n

/-- The row is active, stands for the address and has these assets. -/
def CustodyTables.Chosen (t : CustodyTables) (tenant_id chain_id : Uuid) (address : String)
    (id : Uuid) (asset_ids : List Uuid) : Prop :=
  ∃ row ∈ t.watched_addresses, row.id = id ∧ row.status = "active" ∧
    t.Denotes tenant_id chain_id address row ∧
    ∀ asset_id ∈ asset_ids, (row.id, asset_id) ∈ t.watched_address_assets

theorem Ensuring.refl (hids : CustodyIds t n) : Ensuring about t n t n :=
  ⟨.refl, hids, Nat.le_refl n⟩

/-- Changes of links leave the chosen row as it is. -/
theorem Ensuring.linked {log : List CustodyChange} {more : List Uuid}
    (h : Ensuring about t₀ n₀ t n) (hagain : ∀ row, about row → about (reactivated row))
    (hchosen : t.Chosen tenant_id chain_id address id asset_ids)
    (hlinking : ∀ c ∈ log, c.linking = true)
    (hframe : Watching about n₀ t (CustodyChange.replay log t))
    (hmore : ∀ asset_id ∈ more,
      (id, asset_id) ∈ (CustodyChange.replay log t).watched_address_assets) :
    Ensuring about t₀ n₀ (CustodyChange.replay log t) n ∧
      (CustodyChange.replay log t).Chosen tenant_id chain_id address id more := by
  obtain ⟨row, hrow, rfl, hactive, hdenotes, _⟩ := hchosen
  refine ⟨⟨h.frame.trans hagain hframe, h.ids.replay_linking hlinking, h.le⟩, row, ?_, rfl, hactive,
    hframe.denotes.mpr hdenotes, hmore⟩
  rw [CustodyChange.replay_linking hlinking]
  exact hrow

/-- The lookup finds a row that stands for the address. -/
theorem selected_denotes {s : AddressTables} (hchain : s.get_chain chain_id = .ok chain)
    (hvalid : validate_address_for_chain chain address = .ok ())
    (hfound : s.ensure_watched_address_select tenant_id chain_id
      (normalize_custody_address_for_chain chain.chain_type address) chain.chain_type = some row) :
    row ∈ s.watched_addresses ∧ s.Denotes tenant_id chain_id address row := by
  have hmatches := List.find?_some hfound
  simp only [Bool.and_eq_true, beq_iff_eq] at hmatches
  obtain ⟨⟨htenant, hrow_chain⟩, haddress⟩ := hmatches
  refine ⟨List.mem_of_find?_eq_some hfound, htenant, hrow_chain, ?_⟩
  unfold denoted
  rw [chain_type_of_get hchain]
  unfold normalize_custody_address_for_chain at haddress ⊢
  by_cases hevm : chain.chain_type = "evm"
  · have hlower : Text.toAsciiLowercase "evm" = "evm" := by decide +kernel
    rw [if_pos hevm] at haddress ⊢
    rw [hevm, if_pos hlower, beq_iff_eq] at haddress
    rw [if_pos hevm, ← Text.trim_toAsciiLowercase row.address, haddress, Text.trim_toAsciiLowercase,
      Text.trim_trim]
  · have hlower : Text.toAsciiLowercase chain.chain_type ≠ "evm" := fun hlower =>
      hevm (evm_of_valid hvalid hlower)
    rw [if_neg hevm] at haddress ⊢
    rw [if_neg hlower, beq_iff_eq] at haddress
    rw [if_neg hevm, haddress, Text.trim_trim]

section Config
variable (hagain : ∀ row, about row → about (reactivated row)) (hids : CustodyIds t₀ n₀)
  (habout : ∀ row, t₀.Denotes tenant_id chain_id address row → about row)
include hagain hids habout

/-- The row that is found is active afterwards. -/
theorem activate_works (hrow : row ∈ t₀.watched_addresses)
    (hdenotes : t₀.Denotes tenant_id chain_id address row) :
    CustodyWorks lower w C (fun v n => v = t₀ ∧ n = n₀)
      (CustodyCall.activate_watched_address tenant_id row)
      (fun id v n => Ensuring about t₀ n₀ v n ∧ v.Chosen tenant_id chain_id address id []) := by
  unfold CustodyCall.activate_watched_address
  split
  · rename_i hactive
    refine .done fun v n hv => ?_
    obtain ⟨rfl, rfl⟩ := hv
    exact ⟨.refl hids, row, hrow, rfl, hactive, hdenotes, nofun⟩
  -- No other row has its identifier.
  have hfind : t₀.watched_addresses.find? (is_row tenant_id row.id) = some row := by
    obtain ⟨found, hfound⟩ := Option.isSome_iff_exists.mp
      (List.find?_isSome.mpr ⟨row, hrow, is_row_iff.mpr ⟨rfl, hdenotes.1⟩⟩)
    have hid := (is_row_iff.mp (List.find?_some hfound)).1
    rw [hfound, hids.address_eq (List.mem_of_find?_eq_some hfound) hrow hid]
  refine .bind (Q := fun answer v n => answer = some (reactivated row) ∧
    Ensuring about t₀ n₀ v n ∧ v.Chosen tenant_id chain_id address row.id []) ?_ fun answer => ?_
  · refine ask_works fun v n skipped now hv answer hanswer => ?_
    obtain ⟨rfl, rfl⟩ := hv
    have heffect : v.ensure_watched_address_update row.id tenant_id =
        { answer := .ok (some (reactivated row)), log := [.watched_address (reactivated row)] } := by
      unfold CustodyTables.ensure_watched_address_update
      rw [hfind]
      rfl
    simp only [CustodyTables.effect, heffect] at hanswer ⊢
    have hframe := Watching.reactivate hids hrow (habout row hdenotes)
      (hagain row (habout row hdenotes))
    refine ⟨(Except.ok.inj hanswer).symm, ⟨hframe, hids.put ?_, Nat.le_refl n⟩, reactivated row,
      Table.put_self .., rfl, rfl, hframe.denotes.mpr hdenotes, nofun⟩
    exact hids.below row hrow
  · refine .check fun found hfound => .done fun v n hv => ?_
    obtain ⟨rfl, hensuring, hchosen⟩ := hv
    obtain rfl := Option.some.inj (required_ok.mp hfound)
    exact ⟨hensuring, hchosen⟩

/-- The chosen row gets further assets. -/
theorem link_works (done : List Uuid) :
    CustodyWorks lower w C
      (fun v n => Ensuring about t₀ n₀ v n ∧ v.Chosen tenant_id chain_id address id done)
      (CustodyCall.ask (.insert_watched_address_assets id asset_ids))
      (fun _ v n => Ensuring about t₀ n₀ v n ∧
        v.Chosen tenant_id chain_id address id (done ++ asset_ids)) := by
  refine ask_works fun v n skipped now hv _ _ => ?_
  obtain ⟨hensuring, row, hrow, rfl, hactive, hdenotes, hlinks⟩ := hv
  refine hensuring.linked hagain ⟨row, hrow, rfl, hactive, hdenotes, hlinks⟩ ?_
    (Watching.link hrow (habout row (hensuring.frame.denotes.mp hdenotes))) ?_
  · intro c hc
    obtain ⟨asset_id, _, rfl⟩ := List.mem_map.mp hc
    rfl
  · intro asset_id hasset
    refine CustodyChange.mem_replay_links.mpr ?_
    by_cases hold : (row.id, asset_id) ∈ v.watched_address_assets
    · exact .inl hold
    · rcases List.mem_append.mp hasset with hdone | hnew
      · exact absurd (hlinks asset_id hdone) hold
      · refine .inr ⟨rfl, List.mem_eraseDups.mpr (List.mem_filter.mpr ⟨hnew, ?_⟩)⟩
        simpa using hold

/-- A new row is active from the start. -/
theorem create_works :
    CustodyWorks lower w C (fun v n => v = t₀ ∧ n = n₀)
      (CustodyCall.find_or_create_watched_address tenant_id chain_id address business_ref asset_ids
        none)
      (fun id v n => Ensuring about t₀ n₀ v n ∧ v.Chosen tenant_id chain_id address id []) := by
  have hdone : ∀ {created : WatchedAddressResponse}, CustodyWorks lower w C
      (fun v n => Ensuring about t₀ n₀ v n ∧ v.Chosen tenant_id chain_id address created.id [])
      (.done created.id)
      (fun id v n => Ensuring about t₀ n₀ v n ∧ v.Chosen tenant_id chain_id address id []) :=
    .done fun _ _ h => h
  refine .bind (Q := fun created v n => Ensuring about t₀ n₀ v n ∧
    v.Chosen tenant_id chain_id address created.id []) ?_ fun created => hdone
  refine .bind (Q := fun created v n => Ensuring about t₀ n₀ v n ∧ created.id = n₀ ∧
    v.Chosen tenant_id chain_id address created.id []) ?_ fun created => ?_
  · refine ask_works fun v n skipped now hv created hcreated => ?_
    obtain ⟨rfl, rfl⟩ := hv
    simp only [CustodyTables.effect, CustodyTables.insert_watched_address] at hcreated ⊢
    split at hcreated
    · rename_i row tables hinsert
      have hrow : row = (v.address_tables n).new_watched_address (custody_watched_address_request
          tenant_id chain_id address business_ref asset_ids) :=
        congrArg Prod.fst (insert_ok hinsert).2
      have hsame : row = created := Except.ok.inj hcreated
      subst hsame hrow
      have hdenotes : v.Denotes tenant_id chain_id address
          ((v.address_tables n).new_watched_address (custody_watched_address_request tenant_id
            chain_id address business_ref asset_ids)) := ⟨rfl, rfl, rfl⟩
      have hframe := Watching.add (t := v) hids rfl (habout _ hdenotes)
      refine ⟨⟨hframe, (hids.mono (Nat.le_succ n)).put (Nat.lt_succ_self n), Nat.le_succ n⟩, rfl, _,
        Table.put_self .., rfl, rfl, hframe.denotes.mpr hdenotes,
        fun _ hasset => absurd hasset List.not_mem_nil⟩
    · cases hcreated
  refine .bind (Q := fun _ v n => Ensuring about t₀ n₀ v n ∧ created.id = n₀ ∧
    v.Chosen tenant_id chain_id address created.id []) ?_ fun _ => ?_
  · refine ask_works fun v n skipped now hv _ _ => ?_
    obtain ⟨hensuring, hid, hchosen⟩ := hv
    have hremoved : ∀ link ∈ v.watched_address_assets.filter (·.1 == created.id), n₀ ≤ link.1 := by
      intro link hlink
      rw [← hid, ← beq_iff_eq.mp (List.mem_filter.mp hlink).2]
    have hlinking : ∀ c ∈ (v.watched_address_assets.filter (·.1 == created.id)).map fun link =>
        CustodyChange.no_watched_address_asset link.1 link.2, c.linking = true := by
      intro c hc
      obtain ⟨link, _, rfl⟩ := List.mem_map.mp hc
      rfl
    have hnext := hensuring.linked hagain hchosen hlinking (.unlink hremoved)
      fun _ hasset => absurd hasset List.not_mem_nil
    exact ⟨hnext.1, hid, hnext.2⟩
  refine .bind (Q := fun _ v n => Ensuring about t₀ n₀ v n ∧
    v.Chosen tenant_id chain_id address created.id []) ?_ fun _ => .done fun _ _ hv => hv
  refine (link_works hagain hids habout []).consequence (fun _ _ hv => ⟨hv.1, hv.2.2⟩)
    fun _ _ _ hv => ?_
  obtain ⟨hensuring, row, hrow, hid, hactive, hdenotes, _⟩ := hv
  exact ⟨hensuring, row, hrow, hid, hactive, hdenotes,
    fun _ hasset => absurd hasset List.not_mem_nil⟩

theorem find_or_create_works {s : AddressTables} (hs : s = t₀.address_tables n₀)
    (hchain : s.get_chain chain_id = .ok chain)
    (hvalid : validate_address_for_chain chain address = .ok ()) :
    CustodyWorks lower w C (fun v n => v = t₀ ∧ n = n₀)
      (CustodyCall.find_or_create_watched_address tenant_id chain_id address business_ref asset_ids
        (s.ensure_watched_address_select tenant_id chain_id
          (normalize_custody_address_for_chain chain.chain_type address) chain.chain_type))
      (fun id v n => Ensuring about t₀ n₀ v n ∧ v.Chosen tenant_id chain_id address id []) := by
  subst hs
  generalize hfound : AddressTables.ensure_watched_address_select _ tenant_id chain_id
    (normalize_custody_address_for_chain chain.chain_type address) chain.chain_type = existing
  cases existing with
  | none => exact create_works hagain hids habout
  | some row =>
    obtain ⟨hrow, hdenotes⟩ := selected_denotes hchain hvalid hfound
    exact activate_works hagain hids habout hrow hdenotes

theorem ensure_watched_address_for_chain_config_works {s : AddressTables}
    (hs : s = t₀.address_tables n₀) (hchain : s.get_chain chain_id = .ok chain)
    (hvalid : validate_address_for_chain chain address = .ok ()) :
    CustodyWorks lower w C (fun v n => v = t₀ ∧ n = n₀)
      (CustodyCall.ensure_watched_address_for_chain_config tenant_id chain_id address business_ref
        asset_ids)
      (fun _ v n => Ensuring about t₀ n₀ v n ∧ v.Watched tenant_id chain_id address asset_ids) := by
  refine .check fun _ _ => ?_
  refine .bind (Q := fun normalized v n => normalized =
    (normalize_custody_address_for_chain chain.chain_type address, chain.chain_type) ∧
      v = t₀ ∧ n = n₀) ?_ fun normalized => ?_
  · refine .bind (Q := fun chain_type v n => chain_type = some chain.chain_type ∧ v = t₀ ∧ n = n₀) ?_
      fun chain_type => .check fun found hfound => .done fun v n hv => ?_
    · refine ask_works fun v n skipped now hv chain_type hanswer => ?_
      obtain ⟨rfl, rfl⟩ := hv
      refine ⟨?_, rfl, rfl⟩
      have hsome := required_ok.mp (hs ▸ hchain)
      have hanswer' := Except.ok.inj hanswer
      rw [← hanswer']
      exact congrArg (Option.map _) hsome
    · obtain ⟨rfl, rfl, rfl⟩ := hv
      obtain rfl := Option.some.inj (required_ok.mp hfound)
      exact ⟨rfl, rfl, rfl⟩
  refine .each fun v n hv => ?_
  obtain ⟨rfl, rfl, rfl⟩ := hv
  refine .bind (Q := fun existing v' n' => existing = (v.address_tables n).ensure_watched_address_select
    tenant_id chain_id (normalize_custody_address_for_chain chain.chain_type address)
    chain.chain_type ∧ v' = v ∧ n' = n) ?_ fun existing => ?_
  · refine ask_works fun v' n' skipped now hv existing hanswer => ?_
    obtain ⟨rfl, rfl⟩ := hv
    exact ⟨(Except.ok.inj hanswer).symm, rfl, rfl⟩
  refine .each fun v' n' hv => ?_
  obtain ⟨rfl, rfl, rfl⟩ := hv
  refine .bind (find_or_create_works hagain hids habout rfl (hs ▸ hchain) hvalid) fun id => ?_
  refine .bind (Q := fun _ v n => Ensuring about v' n' v n ∧
    v.Chosen tenant_id chain_id address id asset_ids) ?_ fun _ => .done fun v n hv => ?_
  · refine Works.forEach (J := fun done v n => Ensuring about v' n' v n ∧
      v.Chosen tenant_id chain_id address id done) asset_ids fun before asset_id after _ => ?_
    exact .bind (link_works hagain hids habout before) fun _ => .done fun _ _ hv => hv
  · obtain ⟨hensuring, row, hrow, _, hactive, hdenotes, hlinks⟩ := hv
    exact ⟨hensuring, row, hrow, hactive, hdenotes, hlinks⟩

end Config

/-! ### All chains of an account -/

theorem ensure_watched_address_works {config : CustodyAccountConfig}
    (hagain : ∀ row, about row → about (reactivated row)) (hids : CustodyIds t₀ n₀)
    (habout : ∀ row, t₀.Denotes tenant_id config.chain_id address row → about row) :
    CustodyWorks lower w C (fun v n => v = t₀ ∧ n = n₀)
      (CustodyCall.ensure_watched_address_for_custody_account tenant_id address business_ref config)
      (fun _ v n => Ensuring about t₀ n₀ v n ∧
        v.Watched tenant_id config.chain_id address config.asset_ids) := by
  refine .bind (Q := fun _ v n => v = t₀ ∧ n = n₀) (ask_works fun _ _ _ _ hv _ _ => hv) fun _ => ?_
  refine .bind (Q := fun chain v n => v = t₀ ∧ n = n₀ ∧
    (t₀.address_tables n₀).get_chain config.chain_id = .ok chain) ?_ fun chain => ?_
  · refine ask_works fun v n skipped now hv chain hanswer => ?_
    obtain ⟨rfl, rfl⟩ := hv
    exact ⟨rfl, rfl, hanswer⟩
  refine .each fun v n hv => ?_
  obtain ⟨rfl, rfl, hchain⟩ := hv
  refine .check fun _ hvalid => ?_
  exact .bind (ensure_watched_address_for_chain_config_works hagain hids habout rfl hchain hvalid)
    fun _ => .done fun _ _ hv => hv

/-- The loop over the configs: the frame of each is part of the frame of all. -/
theorem ensure_watched_addresses_works {configs : List CustodyAccountConfig}
    (hagain : ∀ row, about row → about (reactivated row)) (hids : CustodyIds t₀ n₀)
    (habout : ∀ config ∈ configs, ∀ row, t₀.Denotes tenant_id config.chain_id address row →
      about row) :
    CustodyWorks lower w C (fun v n => v = t₀ ∧ n = n₀)
      (CustodyCall.ensure_watched_addresses_for_custody_account tenant_id address business_ref configs)
      (fun _ v n => Ensuring about t₀ n₀ v n ∧
        ∀ config ∈ configs, v.Watched tenant_id config.chain_id address config.asset_ids) := by
  refine (Works.forEach (J := fun done v n => Ensuring about t₀ n₀ v n ∧
    ∀ config ∈ done, v.Watched tenant_id config.chain_id address config.asset_ids) configs
      fun before config after hconfigs => ?_).consequence (fun v n hv => ?_) fun _ _ _ hv => hv
  · refine .each fun v n hv => ?_
    obtain ⟨hensuring, hbefore⟩ := hv
    have hmem : config ∈ configs := by
      rw [hconfigs]
      exact List.mem_append_right _ (List.mem_cons_self ..)
    refine (ensure_watched_address_works hagain hensuring.ids fun row hdenotes =>
      habout config hmem row (hensuring.frame.denotes.mp hdenotes)).consequence (fun _ _ hv => hv)
        fun _ v' n' hv => ?_
    obtain ⟨hnext, hwatched⟩ := hv
    refine ⟨⟨hensuring.frame.trans hagain (hnext.frame.mono hensuring.le), hnext.ids,
      Nat.le_trans hensuring.le hnext.le⟩, fun other hother => ?_⟩
    rcases List.mem_append.mp hother with hold | hnew
    · exact hnext.frame.watched hensuring.ids (hbefore other hold)
    · obtain rfl := List.mem_singleton.mp hnew
      exact hwatched
  · obtain ⟨rfl, rfl⟩ := hv
    exact ⟨.refl hids, nofun⟩

end CoinListener.Storage
