import CoinListener.Api.TenantRows

/-! What a tenant sees of the notification settings, and what its requests are answered, is as if
there were no other tenant. -/
namespace CoinListener.Api
open Foundation Storage Notifier
open Prog (Assn Triple Keeps Crew Only)

/-! ### Statements of several tenants -/

section Carried
variable {W : Type} {w : W} {d e : Uuid} {s t : SettingsTables} {q : SettingsQuery}
  {r : AppResult q.Answer} {references : TenantReferences}

theorem carried_fate (h : settings_service.Carried w s q r t) :
    ∃ draw : Draw, draw.id ∉ s.drawn ∧ Fate AppError.Database s (q.run draw s) r t := by
  obtain ⟨draw, hfresh, hperform⟩ := h
  have hfate := draw.outcome.fate AppError.Database s (q.run draw s)
  have hcarried : draw.outcome.apply AppError.Database s (q.run draw s) = (r, t) := hperform
  rw [hcarried] at hfate
  exact ⟨draw, hfresh, hfate⟩

/-- What belongs to a tenant goes on doing so, whoever the statement is for. -/
theorem carried_owns (h : settings_service.Carried w s q r t) (hq : q.Of e)
    (howns : s.Owns references) : t.Owns references := by
  obtain ⟨draw, hfresh, hfate⟩ := carried_fate h
  rcases hfate.state with rfl | rfl
  · exact howns
  · exact owns_run hfresh hq howns

theorem carried_sound (h : settings_service.Carried w s q r t) (hs : s.Sound)
    (hq : q.Allowed d s) : t.Sound := by
  obtain ⟨draw, hfresh, hfate⟩ := carried_fate h
  rcases hfate.state with rfl | rfl
  · exact hs
  · exact hs.run hq hfresh

/-- A statement that only reads. -/
theorem carried_read {a b : q.Answer} (h : settings_service.Carried w s q (.ok b) t)
    (hread : ∀ draw, q.effect draw s = (.ok a, s)) :
    b = a ∧ ∃ id, t = { s with drawn := id :: s.drawn } := by
  obtain ⟨draw, hfresh, hfate⟩ := carried_fate h
  obtain ⟨hanswer, rfl⟩ := hfate.answer
  simp only [SettingsQuery.run, hread draw] at hanswer ⊢
  exact ⟨(Except.ok.inj hanswer).symm, draw.id, rfl⟩

end Carried

/-! ### What a request knows -/

/-- Nothing yet. -/
def unreferenced (d : Uuid) : TenantReferences := ⟨d, none, []⟩

/-- A statement of the tenant that writes no rule or event. -/
def SettingsQuery.Plain (d : Uuid) (q : SettingsQuery) : Prop :=
  q.Of d ∧ q.references d = unreferenced d

abbrev owning (references : TenantReferences) :
    Assn (Keeps fun references t => SettingsTables.Owns t references) fun _ => True :=
  Assn.of _ references

/-- A program of a tenant, which begins where the first references are known to be its own and
returns where the second ones are. -/
abbrev SettingsTriple {α W : Type} (w : W) (d : Uuid) (before : TenantReferences) (p : Settings α)
    (after : TenantReferences) : Prop :=
  Triple (fun t q => SettingsQuery.Allowed d t q)
    (Prog.Within SettingsTables.Sound (settings_service.Carried w)) (owning before) p
    (fun _ => owning after) fun _ => owning (unreferenced d)

section Programs
variable {α W : Type} {w : W} {d id : Uuid} {t : SettingsTables} {before : TenantReferences}
  {request : RuleRequest}

theorem owns_unreferenced (t : SettingsTables) (d : Uuid) : t.Owns (unreferenced d) :=
  ⟨fun _ hid => (Option.not_mem_none _ hid).elim, fun _ hid => (List.not_mem_nil hid).elim⟩

theorem plain_allowed {q : SettingsQuery} (h : q.Plain d) : q.Allowed d t :=
  ⟨h.1, h.2 ▸ owns_unreferenced t d⟩

/-- What is known stays known to a program that writes no rule or event. -/
theorem plain_triple {p : Settings α} (hp : p.Only (SettingsQuery.Plain d)) :
    SettingsTriple w d before p before := by
  refine (Triple.of_only hp (fun q hq t _ => plain_allowed hq) ?_).consequence (fun _ h => h)
    (fun _ _ h => h) fun _ t _ => owns_unreferenced t d
  exact fun q hq s hs r t ht => carried_owns ht.2.1 hq.1 hs

theorem query_of {q : SettingsQuery} (htenant : q.tenant = some d) : q.Of d := by
  intro tenant_id hid
  rw [htenant] at hid
  exact (Option.mem_some.mp hid).symm

theorem plain_of {q : SettingsQuery} (htenant : q.tenant = some d)
    (hreferences : q.references d = unreferenced d) : q.Plain d :=
  ⟨query_of htenant, hreferences⟩

theorem plain_shared {q : SettingsQuery} (htenant : q.tenant = none)
    (hreferences : q.references d = unreferenced d) : q.Plain d := by
  refine ⟨fun tenant_id hid => ?_, hreferences⟩
  rw [htenant] at hid
  exact (Option.not_mem_none _ hid).elim

theorem plain_query {q : SettingsQuery} (h : q.Plain d) :
    (settings_query q).Only (SettingsQuery.Plain d) :=
  .perform h

/-! ### References that have been checked -/

theorem owns_later {references : TenantReferences} (h : t.Owns references) (k : Uuid) :
    SettingsTables.Owns { t with drawn := k :: t.drawn } references :=
  ⟨fun id hid => ⟨List.mem_cons_of_mem _ (h.1 id hid).1, (h.1 id hid).2⟩,
    fun id hid => ⟨List.mem_cons_of_mem _ (h.2 id hid).1, (h.2 id hid).2⟩⟩

theorem owns_found_address (h : t.Sound) {row : RuleAddress}
    (hfound : t.watched_addresses.find? (SettingsTables.is_address d id) = some row) :
    t.OwnsAddress d id := by
  have hrow := List.mem_of_find?_eq_some hfound
  have hhit := List.find?_some hfound
  obtain ⟨hid, hd⟩ := is_own_iff.mp hhit
  have howned := Table.Owned.of_nodup h.one_address hrow (h.known_address row hrow)
  rw [hid, hd] at howned
  exact howned

theorem owned_exists (howned : t.OwnsAddress d id)
    (hfound : ∃ row ∈ t.watched_addresses, row.id = id) :
    ∃ row ∈ t.watched_addresses, row.place = (id, d) := by
  obtain ⟨row, hrow, hid⟩ := hfound
  exact ⟨row, hrow, Prod.ext hid (howned.2 row hrow hid)⟩

theorem owns_found_channel (h : t.Sound) {row : NotificationChannelRow}
    (hrow : row ∈ t.notification_channels) : t.OwnsChannel row.tenant_id row.id :=
  Table.Owned.of_nodup h.one_channel hrow (h.known_channel row hrow)

/-- As many channels as there are identifiers: each of them is that of a channel. -/
theorem owns_counted_channels (h : t.Sound) {channel_ids : List Uuid}
    (hcount : t.count_notification_channels d channel_ids.dedup = channel_ids.dedup.length) :
    ∀ id ∈ channel_ids, t.OwnsChannel d id := by
  have hnodup : ((t.notification_channels.filter fun row => row.tenant_id == d &&
      channel_ids.dedup.contains row.id).map (·.id)).Nodup :=
    h.one_channel.sublist (List.filter_sublist.map _)
  have hsub : ((t.notification_channels.filter fun row => row.tenant_id == d &&
      channel_ids.dedup.contains row.id).map (·.id)) ⊆ channel_ids.dedup := by
    intro id hid
    obtain ⟨row, hrow, rfl⟩ := List.mem_map.mp hid
    have hhit := (List.mem_filter.mp hrow).2
    exact List.contains_iff_mem.mp (Bool.and_eq_true_iff.mp hhit).2
  have hperm := (List.subperm_of_subset hnodup hsub).perm_of_length_le (by
    rw [List.length_map]
    exact hcount.ge)
  intro id hid
  obtain ⟨row, hrow, rfl⟩ := List.mem_map.mp (hperm.mem_iff.mpr (List.mem_dedup.mpr hid))
  obtain ⟨hmem, hhit⟩ := List.mem_filter.mp hrow
  have hd : row.tenant_id = d := beq_iff_eq.mp (Bool.and_eq_true_iff.mp hhit).1
  exact hd ▸ owns_found_channel h hmem

/-- After an address has been looked up, a program that goes on if there is one has found one of the
tenant's. -/
theorem address_chain_answered {s : SettingsTables} {chain_id : Option Uuid} {error : AppError}
    (h : Prog.Within SettingsTables.Sound (settings_service.Carried w) s
      (.address_chain d id) (.ok chain_id) t) :
    ∃ M : Assn (Keeps fun references t => SettingsTables.Owns t references) fun _ => True,
      M.holds t ∧ Triple (fun t q => SettingsQuery.Allowed d t q)
        (Prog.Within SettingsTables.Sound (settings_service.Carried w)) M
        (Prog.lift (ensure chain_id.isSome error)) (fun _ => owning ⟨d, some id, []⟩)
        fun _ => owning (unreferenced d) := by
  obtain ⟨hsound, hcarried, -⟩ := h
  obtain ⟨rfl, k, rfl⟩ := carried_read hcarried fun _ => rfl
  unfold SettingsTables.address_chain
  cases hfound : s.watched_addresses.find? (SettingsTables.is_address d id) with
  | none =>
    refine ⟨owning (unreferenced d), owns_unreferenced _ d, ?_⟩
    exact .fail fun t _ => owns_unreferenced t d
  | some row =>
    have howns : s.Owns ⟨d, some id, []⟩ := by
      refine ⟨fun other hother => ?_, fun _ hid => (List.not_mem_nil hid).elim⟩
      obtain rfl := Option.mem_some.mp hother
      exact owns_found_address hsound hfound
    exact ⟨owning ⟨d, some id, []⟩, owns_later howns k, .done fun _ h => h⟩

/-- An address that is found is the tenant's. -/
theorem rule_address_chain_triple (address_id : Option Uuid) :
    SettingsTriple w d (unreferenced d) (rule_address_chain d address_id) ⟨d, address_id, []⟩ := by
  cases address_id with
  | none => exact .done fun _ h => h
  | some id =>
    have hplain : (SettingsQuery.address_chain d id).Plain d := plain_of rfl rfl
    refine .bind_perform (fun t _ => plain_allowed hplain) fun s _ r t ht => ?_
    cases r with
    | error e => exact owns_unreferenced t d
    | ok chain_id =>
      obtain ⟨M, hM, hrest⟩ := address_chain_answered ht
      exact ⟨M, hM, .bind Keeps.refl hrest fun _ => .done fun _ h => h⟩

/-- Channels that are counted are the tenant's. -/
theorem rule_channel_ids_triple (address_id : Option Uuid) (channel_ids : List Uuid) :
    SettingsTriple w d ⟨d, address_id, []⟩ (validate_notification_rule_channel_ids d channel_ids)
      ⟨d, address_id, channel_ids⟩ := by
  cases channel_ids with
  | nil => exact .done fun _ h => h
  | cons first rest =>
    generalize hids : first :: rest = channel_ids
    have hplain : (SettingsQuery.count_notification_channels d channel_ids.dedup).Plain d :=
      plain_of rfl rfl
    rw [← hids]
    refine .bind_perform (fun t _ => plain_allowed (hids ▸ hplain)) fun s hs r t ht => ?_
    cases r with
    | error e => exact owns_unreferenced t d
    | ok count =>
      obtain ⟨hsound, hcarried, -⟩ := ht
      obtain ⟨rfl, k, rfl⟩ := carried_read hcarried fun _ => rfl
      rw [hids]
      by_cases hcount : s.count_notification_channels d channel_ids.dedup = channel_ids.dedup.length
      · have howns : s.Owns ⟨d, address_id, channel_ids⟩ :=
          ⟨hs.1, owns_counted_channels hsound hcount⟩
        refine ⟨owning ⟨d, address_id, channel_ids⟩, owns_later howns k, ?_⟩
        exact .lift (fun _ _ _ h => h) fun _ _ t _ => owns_unreferenced t d
      · refine ⟨owning (unreferenced d), owns_unreferenced _ d, ?_⟩
        refine .lift (fun _ hok => ?_) fun _ _ t _ => owns_unreferenced t d
        exact absurd (beq_iff_eq.mp (ensure_ok.mp hok)) hcount

theorem rule_chain_exists_plain (chain_id : Option Uuid) :
    (rule_chain_exists chain_id).Only (SettingsQuery.Plain d) := by
  cases chain_id with
  | none => exact .done
  | some id => exact .bind (plain_query (plain_shared rfl rfl)) fun _ => .lift

theorem rule_asset_chain_plain (asset_id : Option Uuid) :
    (rule_asset_chain asset_id).Only (SettingsQuery.Plain d) := by
  cases asset_id with
  | none => exact .done
  | some id =>
    exact .bind (plain_query (plain_shared rfl rfl)) fun _ => .bind .lift fun _ => .done

theorem rule_references_triple :
    SettingsTriple w d (unreferenced d) (validate_notification_rule_references d request)
      ⟨d, request.address_id, request.channel_ids.getD []⟩ := by
  refine .bind Keeps.refl (plain_triple (rule_chain_exists_plain request.chain_id)) fun _ => ?_
  refine .bind Keeps.refl (rule_address_chain_triple request.address_id) fun _ => ?_
  refine .bind Keeps.refl (plain_triple (rule_asset_chain_plain request.asset_id)) fun _ => ?_
  refine .bind Keeps.refl (plain_triple .lift) fun _ => ?_
  exact rule_channel_ids_triple ..

/-- What a rule is set to is what the request refers to. -/
theorem values_references {values : RuleValues} (h : request.values = .ok values) :
    values.address_id = request.address_id ∧ values.channel_ids = request.channel_ids.getD [] := by
  unfold RuleRequest.values at h
  split at h
  · cases h
  · obtain rfl := Except.ok.inj h
    exact ⟨rfl, rfl⟩

theorem referring_query_triple {q : SettingsQuery} {references : TenantReferences}
    (htenant : q.tenant = some d) (hreferences : q.references d = references) :
    SettingsTriple w d references (settings_query q) (unreferenced d) := by
  refine .perform (fun t ht => ⟨query_of htenant, hreferences ▸ ht⟩) fun s _ r t _ => ?_
  cases r with
  | ok a => exact owns_unreferenced t d
  | error e => exact owns_unreferenced t d

theorem create_notification_rule_triple :
    SettingsTriple w d (unreferenced d) (create_notification_rule d request) (unreferenced d) := by
  refine .bind_lift (fun values hvalues => ?_) fun _ _ _ h => h
  obtain ⟨haddress, hchannels⟩ := values_references hvalues
  have hreferences : SettingsTriple w d (unreferenced d)
      (validate_notification_rule_references d request)
      ⟨d, request.address_id, request.channel_ids.getD []⟩ := rule_references_triple
  rw [← haddress, ← hchannels] at hreferences
  exact .bind Keeps.refl hreferences fun _ => referring_query_triple rfl rfl

theorem update_notification_rule_triple :
    SettingsTriple w d (unreferenced d) (update_notification_rule d id request)
      (unreferenced d) := by
  refine .bind_lift (fun values hvalues => ?_) fun _ _ _ h => h
  obtain ⟨haddress, hchannels⟩ := values_references hvalues
  have hreferences : SettingsTriple w d (unreferenced d)
      (validate_notification_rule_references d request)
      ⟨d, request.address_id, request.channel_ids.getD []⟩ := rule_references_triple
  rw [← haddress, ← hchannels] at hreferences
  refine .bind Keeps.refl hreferences fun _ => ?_
  exact .bind Keeps.refl (referring_query_triple rfl rfl) fun _ => plain_triple .lift

theorem record_event_triple (address_id : Uuid) :
    SettingsTriple w d (unreferenced d) (record_event d address_id) (unreferenced d) := by
  have hplain : (SettingsQuery.address_chain d address_id).Plain d := plain_of rfl rfl
  refine .bind_perform (fun t _ => plain_allowed hplain) fun s _ r t ht => ?_
  cases r with
  | error e => exact owns_unreferenced t d
  | ok chain_id =>
    obtain ⟨M, hM, hrest⟩ := address_chain_answered ht
    refine ⟨M, hM, .bind Keeps.refl hrest fun _ => referring_query_triple rfl rfl⟩

/-- Whatever a tenant asks for, its statements are allowed. -/
theorem settings_program_triple (request : SettingsRequest) :
    SettingsTriple w d (unreferenced d) (settings_program d request) (unreferenced d) := by
  cases request with
  | create_notification_rule request =>
    exact .bind Keeps.refl create_notification_rule_triple fun _ => .done fun _ h => h
  | update_notification_rule id request =>
    exact .bind Keeps.refl update_notification_rule_triple fun _ => .done fun _ h => h
  | create_notification_channel request =>
    refine plain_triple (.bind (.bind .lift fun _ => ?_) fun _ => .done)
    exact plain_query (plain_of rfl rfl)
  | update_notification_channel id request =>
    refine plain_triple (.bind (.bind .lift fun _ => ?_) fun _ => .done)
    exact .bind (plain_query (plain_of rfl rfl)) fun _ => .lift
  | get_or_create_default_in_app_channel =>
    refine plain_triple (.bind (.bind (plain_query (plain_of rfl rfl)) fun first => ?_) fun _ =>
      .done)
    cases first with
    | some channel => exact .done
    | none =>
      refine .bind (plain_query (plain_of rfl rfl)) fun inserted => ?_
      cases inserted with
      | some channel => exact .done
      | none => exact .bind (plain_query (plain_of rfl rfl)) fun _ => .lift
  | delete_notification_channel id =>
    exact plain_triple (.bind (.bind (plain_query (plain_of rfl rfl)) fun _ => .lift) fun _ => .done)
  | delete_notification_rule id =>
    exact plain_triple (.bind (.bind (plain_query (plain_of rfl rfl)) fun _ => .lift) fun _ => .done)
  | delete_watched_address id =>
    exact plain_triple (.bind (.bind (plain_query (plain_of rfl rfl)) fun _ => .lift) fun _ => .done)
  | mark_in_app_notification_read id =>
    exact plain_triple (.bind (.bind (plain_query (plain_of rfl rfl)) fun _ => .lift) fun _ => .done)
  | list_notification_channels =>
    exact plain_triple (.bind (plain_query (plain_of rfl rfl)) fun _ => .done)
  | list_notification_rules =>
    exact plain_triple (.bind (plain_query (plain_of rfl rfl)) fun _ => .done)
  | list_in_app_notifications unread_only =>
    exact plain_triple (.bind (plain_query (plain_of rfl rfl)) fun _ => .done)
  | watch_address chain_id =>
    exact plain_triple (.bind (plain_query (plain_of rfl rfl)) fun _ => .done)
  | record_event address_id =>
    exact .bind Keeps.refl (record_event_triple address_id) fun _ => .done fun _ h => h
  | create_in_app_notification event_id title body =>
    exact plain_triple (.bind (.bind (plain_query (plain_of rfl rfl)) fun _ => .lift) fun _ => .done)

end Programs

/-! ### Tenants apart -/

/-- What the tenant sees is the same in both. It does not see what has been drawn. -/
structure SameFor (d : Uuid) (s t : SettingsTables) : Prop where
  rows : s.of_tenant d = t.of_tenant d
  drawn : t.drawn ⊆ s.drawn

section Same
variable {draw : Draw} {d e : Uuid} {s t : SettingsTables} {q : SettingsQuery}

theorem SameFor.run (h : SameFor d s t) (hsound : s.Sound) (htsound : t.Sound)
    (hs : q.Allowed d s) (ht : q.Allowed d t) :
    (q.run draw s).1 = (q.run draw t).1 ∧ SameFor d (q.run draw s).2 (q.run draw t).2 := by
  have hsame : ((q.effect draw s).1, (q.effect draw s).2.of_tenant d) =
      ((q.effect draw t).1, (q.effect draw t).2.of_tenant d) := by
    rw [← effect_of_tenant hsound hs, h.rows, effect_of_tenant htsound ht]
  have hrows := congrArg Prod.snd hsame
  exact ⟨(Prod.mk.inj hsame).1, hrows, List.cons_subset_cons _ h.drawn⟩

theorem SameFor.run_other (h : SameFor d s t) (he : e ≠ d) (hsound : s.Sound) (hs : q.Allowed e s) :
    SameFor d (q.run draw s).2 t :=
  ⟨(change_unseen (effect_change hs.1) he hsound).trans h.rows,
    fun _ hid => List.mem_cons_of_mem _ (h.drawn hid)⟩

end Same

section Tenants
variable {W : Type} {owner : W → Uuid}

variable (owner) in
/-- A worker's statements are its tenant's. -/
abbrev tenant_allowed (w : W) (t : SettingsTables) (q : SettingsQuery) : Prop :=
  q.Allowed (owner w) t

/-- What belongs to a tenant goes on doing so. -/
abbrev still_owned (_ : W) : SettingsTables → SettingsTables → Prop :=
  Keeps fun references t => SettingsTables.Owns t references

theorem tenants_rules : Crew.Rules settings_service.Carried (fun _ _ => False)
    (settings_service.Launched owner) SettingsTables.Sound (tenant_allowed owner) still_owned
    fun _ _ _ => True where
  refl _ := Keeps.refl
  trans _ := Keeps.trans
  launch_inv h hl := hl.1 ▸ h
  launch_safe := by
    rintro w s p t _ ⟨rfl, request, rfl⟩
    refine ((settings_program_triple request).safe _ ?_).mono fun _ _ _ _ => trivial
    exact owns_unreferenced _ _
  launch_others _ hl _ := hl.1 ▸ Keeps.refl _
  statement_inv h hA hs := carried_sound hs h hA
  statement_others _ hA hs _ := fun _ howns => carried_owns hs hA.1 howns
  others_inv _ ho := ho.elim
  others _ ho := ho.elim

theorem settings_apart : Prog.Apart settings_service owner SettingsTables.Sound
    (tenant_allowed owner) still_owned (fun _ _ _ => True) SameFor where
  rules := tenants_rules
  fresh h hfresh := fun hmem => hfresh (h.drawn hmem)
  own := by
    intro w s t q draw hsound htsound hs ht _ hsame
    have hafter : (q.run draw s).1 = (q.run draw t).1 ∧
        SameFor (owner w) (q.run draw s).2 (q.run draw t).2 := hsame.run hsound htsound hs ht
    change (draw.outcome.apply AppError.Database s (q.run draw s)).1 =
        (draw.outcome.apply AppError.Database t (q.run draw t)).1 ∧
      SameFor (owner w) (draw.outcome.apply AppError.Database s (q.run draw s)).2
        (draw.outcome.apply AppError.Database t (q.run draw t)).2
    cases draw.outcome with
    | answered => exact hafter
    | refused message => exact ⟨rfl, hsame⟩
    | unacknowledged message => exact ⟨rfl, hafter.2⟩
  others := by
    intro w d s t q draw hd hsound hs _ hsame
    have hafter : SameFor d (q.run draw s).2 t := hsame.run_other hd hsound hs
    change SameFor d (draw.outcome.apply AppError.Database s (q.run draw s)).2 t
    cases draw.outcome with
    | answered => exact hafter
    | refused message => exact hsame
    | unacknowledged message => exact hafter

/-- Nobody has set up anything, and no request is under way. -/
def tenants_start (W : Type) (chains : List Chain) (assets : List Asset) :
    Prog.Scene SettingsQuery SettingsQuery.Answer AppError SettingsResponse SettingsTables W :=
  (settings_start chains assets, fun _ => .done .no_content)

theorem start_sound (chains : List Chain) (assets : List Asset) :
    (settings_start chains assets).Sound := by
  constructor <;> simp [settings_start]

variable (owner) in
/-- The settings are sound, and what each request does next is allowed. -/
abbrev TenantsGood (c : Prog.Scene SettingsQuery SettingsQuery.Answer AppError SettingsResponse
    SettingsTables W) : Prop :=
  Crew.Good settings_service.Carried SettingsTables.Sound (tenant_allowed owner) still_owned
    (fun _ _ _ => True) c.1 c.2

theorem start_good (chains : List Chain) (assets : List Asset) :
    TenantsGood owner (tenants_start W chains assets) :=
  ⟨start_sound chains assets, fun _ _ _ => ⟨trivial, trivial⟩⟩

variable [DecidableEq W] {chains : List Chain} {assets : List Asset}
  {acts : List (Prog.Act W SettingsRequest Draw)}

/-- Whatever the tenants do and however their statements come in between each other, a tenant has the
rows, and its workers have come as far and got the answers, that they do in the run of its own
actions alone. -/
theorem tenants_apart (hdraws : settings_service.Draws owner (tenants_start W chains assets) acts)
    (d : Uuid) :
    let together := settings_service.run owner (tenants_start W chains assets) acts
    let own := Prog.Service.own owner d acts
    let alone := settings_service.run owner (tenants_start W chains assets) own
    settings_service.Draws owner (tenants_start W chains assets) own ∧
      together.1.of_tenant d = alone.1.of_tenant d ∧
      ∀ w, owner w = d → together.2 w = alone.2 w := by
  have hstart : Prog.Alike settings_service owner SettingsTables.Sound (tenant_allowed owner)
      still_owned (fun _ _ _ => True) SameFor d (tenants_start W chains assets)
      (tenants_start W chains assets) :=
    ⟨start_good chains assets, start_good chains assets, ⟨rfl, List.Subset.refl _⟩,
      fun _ _ => rfl⟩
  obtain ⟨halone, hrun⟩ := settings_apart.run hstart hdraws
  exact ⟨halone, hrun.same.rows, hrun.programs⟩

/-- At any time, the address a rule or an event refers to exists and is its tenant's, so is the event
of a notification, and the channels a rule refers to are no other tenant's. -/
theorem references_stay_own
    (hdraws : settings_service.Draws owner (tenants_start W chains assets) acts) :
    let t := (settings_service.run owner (tenants_start W chains assets) acts).1
    (∀ rule ∈ t.notification_rules,
      (∀ id ∈ rule.address_id, ∃ row ∈ t.watched_addresses, row.place = (id, rule.tenant_id)) ∧
      ∀ id ∈ rule.channel_ids, ∀ row ∈ t.notification_channels, row.id = id →
        row.tenant_id = rule.tenant_id) ∧
    (∀ event ∈ t.address_events,
      ∃ row ∈ t.watched_addresses, row.place = (event.address_id, event.tenant_id)) ∧
    ∀ notification ∈ t.in_app_notifications, ∃ event ∈ t.address_events,
      event.place = (notification.event_id, notification.tenant_id) := by
  have hstart : TenantsGood owner (tenants_start W chains assets) := start_good chains assets
  have hsound := (hstart.run tenants_rules (Prog.Service.run_steps hdraws)).inv
  intro t
  refine ⟨fun rule hrule => ?_, fun event hevent => ?_, fun notification hmem => ?_⟩
  · obtain ⟨howns, hfound⟩ := hsound.rule rule hrule
    exact ⟨fun id hid => owned_exists (howns.1 id hid) (hfound id hid),
      fun id hid => (howns.2 id hid).2⟩
  · obtain ⟨howns, hfound⟩ := hsound.event event hevent
    exact owned_exists (howns.1 _ rfl) (hfound _ rfl)
  · obtain ⟨howned, hfound⟩ := hsound.notified notification hmem
    obtain ⟨event, hevent, hid⟩ := hfound
    exact ⟨event, hevent, Prod.ext hid (howned.2 event hevent hid)⟩

end Tenants

/-! ### Two tenants -/

instance {W : Type} [DecidableEq W] (owner : W → Uuid) (c) (acts) :
    Decidable (settings_service.Draws owner c acts) :=
  letI (t : SettingsTables) (draw : Draw) : Decidable (settings_service.fresh t draw) :=
    inferInstanceAs (Decidable (draw.id ∉ t.drawn))
  Prog.Service.decide_draws settings_service owner c acts

def two_tenants (w : Bool) : Uuid := if w then 1 else 2

def rule_of_address : RuleRequest where
  name := "payments"
  min_amount_raw := none
  direction := none
  channel_ids := none
  chain_id := none
  address_id := some 11
  asset_id := none
  event_type := none
  is_transfer := none
  enabled := none

/-- One tenant watches an address, and an event of it is notified. While the tenant sets up a rule for
the address, the other one tries to delete it. -/
def rule_set_up : List (Prog.Act Bool SettingsRequest Draw) :=
  [.call true (.watch_address 7), .statement true ⟨11, 0, .answered⟩,
    .call true (.record_event 11), .statement true ⟨12, 0, .answered⟩,
    .statement true ⟨13, 0, .answered⟩,
    .call true (.create_in_app_notification 13 "payment" "one coin"),
    .statement true ⟨14, 0, .answered⟩,
    .call true (.create_notification_rule rule_of_address), .statement true ⟨15, 0, .answered⟩,
    .call false (.delete_watched_address 11), .statement false ⟨16, 0, .answered⟩,
    .statement true ⟨17, 0, .answered⟩]

theorem apart_from_deletion :
    let together := settings_service.run two_tenants (tenants_start Bool [] []) rule_set_up
    let own := Prog.Service.own two_tenants 1 rule_set_up
    let alone := settings_service.run two_tenants (tenants_start Bool [] []) own
    own.length < rule_set_up.length ∧ together.1.of_tenant 1 = alone.1.of_tenant 1 := by
  have hdraws : settings_service.Draws two_tenants (tenants_start Bool [] []) rule_set_up := by
    decide +kernel
  exact ⟨by decide, (tenants_apart hdraws 1).2.1⟩

theorem set_up_stays_own :
    let t := (settings_service.run two_tenants (tenants_start Bool [] []) rule_set_up).1
    (t.notification_rules.map fun rule => (rule.id, rule.address_id)) = [(17, some 11)] ∧
    (t.in_app_notifications.map fun notification => (notification.id, notification.event_id)) =
      [(14, 13)] ∧
    ∀ rule ∈ t.notification_rules, ∀ id ∈ rule.address_id,
      ∃ row ∈ t.watched_addresses, row.place = (id, rule.tenant_id) := by
  have hdraws : settings_service.Draws two_tenants (tenants_start Bool [] []) rule_set_up := by
    decide +kernel
  refine ⟨by decide +kernel, by decide +kernel, fun rule hrule => ?_⟩
  exact ((references_stay_own hdraws).1 rule hrule).1

end CoinListener.Api
