import CoinListener.Notifier.TelegramBinding

/-! Requests that several deliveries of updates, cancels and expiry checks race for. -/
namespace CoinListener.Notifier
open Foundation Storage

/-! ### Two kinds of codes -/

/-- Bind tokens and short codes begin differently. -/
structure Named (request : TelegramBindingRequest) : Prop where
  bind_token : ∃ rest, request.bind_token.toList = 'b' :: rest
  short_code : ∃ rest, request.short_code.toList = 'C' :: rest

theorem normalize_head {text : String} {c : Char} {rest : List Char}
    (htext : text.toList = c :: rest) (hc : Text.isWhitespace c = false) :
    ∃ rest', (normalize_short_code text).toList = Text.asciiUpper c :: rest' := by
  obtain ⟨rest', htrim⟩ := Text.trim_head htext hc
  refine ⟨rest'.map Text.asciiUpper, ?_⟩
  rw [normalize_short_code, Text.toAsciiUppercase, String.toList_ofList, htrim, List.map_cons]

/-- A bind token is no spelling of a short code. -/
theorem token_not_short {a b : TelegramBindingRequest} (ha : Named a) (hb : Named b) :
    b.short_code ≠ normalize_short_code a.bind_token := by
  intro h
  obtain ⟨token, htoken⟩ := ha.bind_token
  obtain ⟨code, hcode⟩ := hb.short_code
  obtain ⟨rest, hrest⟩ := normalize_head htoken (by decide)
  rw [← h, hcode] at hrest
  exact absurd (List.cons.inj hrest).1 (by decide)

/-- Two requests that one code answers have the same token, or the same short code. -/
theorem answers_alike {a b : TelegramBindingRequest} {code : String} (ha : Named a) (hb : Named b)
    (h : a.answers code = true) (h' : b.answers code = true) :
    (a.bind_token = code ∧ b.bind_token = code) ∨
      (a.bind_token ≠ code ∧ a.short_code = b.short_code) := by
  simp only [TelegramBindingRequest.answers, Bool.or_eq_true, beq_iff_eq] at h h'
  rcases h with htoken | hshort
  · rcases h' with htoken' | hshort'
    · exact .inl ⟨htoken, htoken'⟩
    · exact absurd (htoken ▸ hshort') (token_not_short ha hb)
  · have hother : ∀ c : TelegramBindingRequest, Named c → c.bind_token ≠ code :=
      fun c hc hcode => token_not_short hc ha (hcode ▸ hshort)
    rcases h' with htoken' | hshort'
    · exact absurd htoken' (hother b hb)
    · exact .inr ⟨hother a ha, hshort.trans hshort'.symm⟩

/-! ### What no step takes back -/

/-- A request later on. One that is no longer pending only learns of its confirmation. -/
structure LaterRequest (a b : TelegramBindingRequest) : Prop where
  same : TelegramBindingRequest.Same a b
  answered : a.status ≠ .pending → b = { a with confirmation_error := b.confirmation_error }

theorem LaterRequest.refl (a : TelegramBindingRequest) : LaterRequest a a :=
  ⟨.refl a, fun _ => rfl⟩

theorem LaterRequest.trans {a b c : TelegramBindingRequest} (hab : LaterRequest a b)
    (hbc : LaterRequest b c) : LaterRequest a c := by
  constructor
  · exact ⟨hbc.same.id.trans hab.same.id, hbc.same.tenant_id.trans hab.same.tenant_id,
      hbc.same.telegram_bot_id.trans hab.same.telegram_bot_id,
      hbc.same.bind_token.trans hab.same.bind_token, hbc.same.short_code.trans hab.same.short_code,
      fun h => hab.same.pending (hbc.same.pending h)⟩
  · intro hanswered
    have hb := hab.answered hanswered
    have hc := hbc.answered (by rw [hb]; exact hanswered)
    rw [hc, hb]

/-- Requests are added with new identifiers, change as requests may, and go. -/
structure RequestsMove (t u : BindingTables) : Prop where
  rows : ∀ b ∈ u.telegram_binding_requests,
    (∃ a ∈ t.telegram_binding_requests, LaterRequest a b) ∨ t.next_id ≤ b.id
  next_id : t.next_id ≤ u.next_id

theorem RequestsMove.of_rows {t u : BindingTables}
    (hrows : ∀ b ∈ u.telegram_binding_requests, ∃ a ∈ t.telegram_binding_requests, LaterRequest a b)
    (hnext : u.next_id = t.next_id) : RequestsMove t u :=
  ⟨fun b hb => .inl (hrows b hb), hnext.ge⟩

theorem RequestsMove.refl (t : BindingTables) : RequestsMove t t :=
  .of_rows (fun b hb => ⟨b, hb, .refl b⟩) rfl

theorem RequestsMove.trans {t u v : BindingTables} (htu : RequestsMove t u)
    (huv : RequestsMove u v) : RequestsMove t v := by
  refine ⟨fun c hc => ?_, htu.next_id.trans huv.next_id⟩
  rcases huv.rows c hc with ⟨b, hb, hbc⟩ | hnew
  · rcases htu.rows b hb with ⟨a, ha, hab⟩ | hnew
    · exact .inl ⟨a, ha, hab.trans hbc⟩
    · exact .inr (hnew.trans hbc.same.id.ge)
  · exact .inr (htu.next_id.trans hnew)

/-! ### The invariant -/

/-- What is recorded of a binding. -/
structure Recorded (binding : Binding) : Prop where
  named : Named binding.request
  status : binding.request.status = .bound
  bot : binding.request.telegram_bot_id = binding.telegram_bot_id
  code : binding.request.answers binding.code = true
  candidate : telegram_binding_candidate binding.update = some ⟨binding.code, binding.chat⟩
  chat : binding.request.chat_id = some binding.chat.chat_id
  in_time : ∃ bound_at, binding.request.bound_at = some bound_at ∧
    bound_at < binding.request.expires_at
  numbered : binding.request.id < binding.next_id

/-- The request is there, or it went with its bot. -/
def StillThere (t : BindingTables) (binding : Binding) : Prop :=
  (∃ request ∈ t.telegram_binding_requests,
    TelegramBindingRequest.Same binding.request request) ∨
  ((∀ request ∈ t.telegram_binding_requests, request.id ≠ binding.request.id) ∧
    binding.telegram_bot_id < t.bots.next_id ∧
    ∀ bot ∈ t.bots.telegram_bots, bot.id ≠ binding.telegram_bot_id)

/-- A code binds once more only as the short code of a request that came later. -/
def Again (first second : Binding) : Prop :=
  first.telegram_bot_id = second.telegram_bot_id → first.code = second.code →
    first.request.bind_token ≠ first.code ∧
    first.request.short_code = second.request.short_code ∧ first.next_id ≤ second.request.id

structure BindingsKept (s : BindingWorld) : Prop where
  named : ∀ request ∈ s.tables.telegram_binding_requests, Named request
  bound : ∀ request ∈ s.tables.telegram_binding_requests, request.status = .bound →
    ∃ binding ∈ s.bindings,
      request = { binding.request with confirmation_error := request.confirmation_error }
  recorded : ∀ binding ∈ s.bindings, Recorded binding
  there : ∀ binding ∈ s.bindings, StillThere s.tables binding
  past : ∀ binding ∈ s.bindings, ∀ request ∈ s.tables.telegram_binding_requests,
    request.status = .pending → request.telegram_bot_id = binding.telegram_bot_id →
    request.answers binding.code = true → binding.next_id ≤ request.id
  next_id : ∀ binding ∈ s.bindings, binding.next_id ≤ s.tables.next_id
  ids : (s.bindings.map (·.request.id)).Nodup
  again : s.bindings.Pairwise Again

/-- The tokens and short codes that are written are of their kind, and so are the codes. -/
def BindingStatement.Named : BindingStatement → Prop
  | .db (.create_binding_request _ _ bind_token short_code _) =>
    (∃ rest, bind_token.toList = 'b' :: rest) ∧ ∃ rest, short_code.toList = 'C' :: rest
  | .db (.bind_pending_request _ code chat _ update) =>
    telegram_binding_candidate update = some ⟨code, chat⟩
  | _ => True

section Steps
variable {s t : BindingWorld} {tables : BindingTables} {now : Timestamp}

theorem same_request {t : BindingTables} {a b : TelegramBindingRequest}
    (ha : a ∈ t.telegram_binding_requests) (hb : b ∈ t.telegram_binding_requests)
    (hid : a.id = b.id) : a = b :=
  List.inj_on_of_nodup_map t.request_ids ha hb hid

theorem same_token {t : BindingTables} {a b : TelegramBindingRequest}
    (ha : a ∈ t.telegram_binding_requests) (hb : b ∈ t.telegram_binding_requests)
    (htoken : a.bind_token = b.bind_token) : a = b :=
  List.inj_on_of_nodup_map t.bind_tokens ha hb htoken

/-- Requests for one bot are requests of one tenant. -/
theorem same_tenant {t : BindingTables} {a b : TelegramBindingRequest}
    (ha : a ∈ t.telegram_binding_requests) (hb : b ∈ t.telegram_binding_requests)
    (hbot : a.telegram_bot_id = b.telegram_bot_id) : a.tenant_id = b.tenant_id := by
  obtain ⟨bot, hmem, hisbot⟩ := List.any_eq_true.mp (t.request_bot a ha)
  obtain ⟨bot', hmem', hisbot'⟩ := List.any_eq_true.mp (t.request_bot b hb)
  simp only [TelegramBotRow.is_bot, Bool.and_eq_true, beq_iff_eq] at hisbot hisbot'
  have hsame : bot = bot' := List.inj_on_of_nodup_map t.bots.bot_ids hmem hmem'
    (hisbot.1.trans (hbot.trans hisbot'.1.symm))
  rw [← hisbot.2, ← hisbot'.2, hsame]

/-- At most one pending request of a bot answers a code. -/
theorem pending_unique (hs : BindingsKept s) {a b : TelegramBindingRequest} {code : String}
    (ha : a ∈ s.tables.telegram_binding_requests) (hb : b ∈ s.tables.telegram_binding_requests)
    (hpending : a.status = .pending) (hpending' : b.status = .pending)
    (hbot : a.telegram_bot_id = b.telegram_bot_id) (hcode : a.answers code = true)
    (hcode' : b.answers code = true) : a = b := by
  rcases answers_alike (hs.named a ha) (hs.named b hb) hcode hcode' with ⟨htoken, htoken'⟩ | hshort
  · exact same_token ha hb (htoken.trans htoken'.symm)
  · by_contra hne
    have happart : TelegramBindingRequest.Apart a b := s.tables.short_codes.forall ha hb hne
    exact happart hpending hpending' (same_tenant ha hb hbot) hshort.2

/-- A bound request is not pending. -/
theorem BindingsKept.settled (hs : BindingsKept s) {binding : Binding}
    (hbinding : binding ∈ s.bindings) {request : TelegramBindingRequest}
    (hrequest : request ∈ s.tables.telegram_binding_requests)
    (hid : request.id = binding.request.id) : request.status ≠ .pending := by
  rcases hs.there binding hbinding with ⟨row, hrow, hsame⟩ | ⟨hgone, _⟩
  · obtain rfl := same_request hrow hrequest (hsame.id.trans hid.symm)
    intro hpending
    have hbound := (hs.recorded binding hbinding).status
    rw [hsame.pending hpending] at hbound
    cases hbound
  · exact absurd hid (hgone request hrequest)

/-- Requests that change as requests may. -/
theorem BindingsKept.edit (hs : BindingsKept s) {p : TelegramBindingRequest → Bool}
    {f : TelegramBindingRequest → TelegramBindingRequest}
    (hf : ∀ request, TelegramBindingRequest.Same request (f request))
    (hbound : ∀ request, p request = true → (f request).status = .bound →
      request.status = .bound ∧
        f request = { request with confirmation_error := (f request).confirmation_error }) :
    BindingsKept { s with tables := s.tables.edit_requests p f hf } := by
  constructor
  · intro request hrequest
    obtain ⟨old, hold, rfl⟩ := Table.mem_update.mp hrequest
    have hsame := TelegramBindingRequest.Same.revise (p := p) hf old
    exact ⟨hsame.bind_token ▸ (hs.named old hold).bind_token,
      hsame.short_code ▸ (hs.named old hold).short_code⟩
  · intro request hrequest hstatus
    obtain ⟨old, hold, rfl⟩ := Table.mem_update.mp hrequest
    cases hp : p old with
    | false =>
      rw [Table.revise_of_false hp] at hstatus ⊢
      exact hs.bound old hold hstatus
    | true =>
      rw [Table.revise_of_true hp] at hstatus ⊢
      obtain ⟨hold_bound, hchange⟩ := hbound old hp hstatus
      obtain ⟨binding, hbinding, hrow⟩ := hs.bound old hold hold_bound
      refine ⟨binding, hbinding, ?_⟩
      rw [hchange]
      rw [hrow]
  · exact hs.recorded
  · intro binding hbinding
    rcases hs.there binding hbinding with ⟨row, hrow, hsame⟩ | ⟨hgone, hbot⟩
    · have hlater := TelegramBindingRequest.Same.revise (p := p) hf row
      refine .inl ⟨_, Table.mem_update.mpr ⟨row, hrow, rfl⟩, ?_⟩
      exact ⟨hlater.id.trans hsame.id, hlater.tenant_id.trans hsame.tenant_id,
        hlater.telegram_bot_id.trans hsame.telegram_bot_id,
        hlater.bind_token.trans hsame.bind_token, hlater.short_code.trans hsame.short_code,
        fun h => hsame.pending (hlater.pending h)⟩
    · refine .inr ⟨fun request hrequest => ?_, hbot⟩
      obtain ⟨old, hold, rfl⟩ := Table.mem_update.mp hrequest
      rw [(TelegramBindingRequest.Same.revise hf old).id]
      exact hgone old hold
  · intro binding hbinding request hrequest hpending hbot hcode
    obtain ⟨old, hold, rfl⟩ := Table.mem_update.mp hrequest
    have hsame := TelegramBindingRequest.Same.revise (p := p) hf old
    rw [hsame.id]
    refine hs.past binding hbinding old hold (hsame.pending hpending)
      (hsame.telegram_bot_id.symm.trans hbot) ?_
    rwa [TelegramBindingRequest.answers, ← hsame.bind_token, ← hsame.short_code]
  · exact hs.next_id
  · exact hs.ids
  · exact hs.again

theorem bindable_spec {t : BindingTables} {telegram_bot_id : Uuid} {code : String}
    {request : TelegramBindingRequest} (h : t.bindable telegram_bot_id code now = some request) :
    request ∈ t.telegram_binding_requests ∧ request.telegram_bot_id = telegram_bot_id ∧
      request.status = .pending ∧ now < request.expires_at ∧ request.answers code = true := by
  have hmem := List.mem_of_mem_head? (Option.mem_def.mpr h)
  rw [List.mem_insertionSort] at hmem
  obtain ⟨hrequest, hfits⟩ := List.mem_filter.mp hmem
  simp only [TelegramBindingRequest.is_pending, Bool.and_eq_true, beq_iff_eq,
    decide_eq_true_eq] at hfits
  exact ⟨hrequest, hfits.1.1.1, hfits.1.1.2, hfits.1.2, hfits.2⟩

theorem create_cases {t u : BindingTables} {tenant_id telegram_bot_id : Uuid}
    {bind_token short_code : String} {expires_at : Timestamp}
    {created : Option TelegramBindingRequest}
    (h : t.create_binding_request now tenant_id telegram_bot_id bind_token short_code expires_at =
      .ok (created, u)) :
    u = t ∨ (u.bots = t.bots ∧ u.next_id = t.next_id + 1 ∧ u.telegram_binding_requests =
      t.telegram_binding_requests ++
        [t.new_request now tenant_id telegram_bot_id bind_token short_code expires_at]) := by
  unfold BindingTables.create_binding_request at h
  dsimp only at h
  split at h
  · split at h
    · split at h
      · obtain ⟨_, rfl⟩ := Prod.mk.inj (Except.ok.inj h)
        exact .inr ⟨rfl, rfl, rfl⟩
      · cases h
    · cases h
  · obtain ⟨_, rfl⟩ := Prod.mk.inj (Except.ok.inj h)
    exact .inl rfl

theorem BindingsKept.create (hs : BindingsKept s) {tenant_id telegram_bot_id : Uuid}
    {bind_token short_code : String} {expires_at : Timestamp}
    (htoken : ∃ rest, bind_token.toList = 'b' :: rest)
    (hshort : ∃ rest, short_code.toList = 'C' :: rest) (hbots : tables.bots = s.tables.bots)
    (hnext : tables.next_id = s.tables.next_id + 1)
    (hrows : tables.telegram_binding_requests = s.tables.telegram_binding_requests ++
      [s.tables.new_request now tenant_id telegram_bot_id bind_token short_code expires_at]) :
    BindingsKept { s with tables := tables } := by
  have hcases : ∀ request ∈ tables.telegram_binding_requests,
      request ∈ s.tables.telegram_binding_requests ∨ request =
        s.tables.new_request now tenant_id telegram_bot_id bind_token short_code expires_at := by
    intro request hrequest
    rw [hrows] at hrequest
    exact (List.mem_append.mp hrequest).imp_right List.mem_singleton.mp
  constructor
  · intro request hrequest
    rcases hcases request hrequest with hold | rfl
    · exact hs.named request hold
    · exact ⟨htoken, hshort⟩
  · intro request hrequest hstatus
    rcases hcases request hrequest with hold | rfl
    · exact hs.bound request hold hstatus
    · cases hstatus
  · exact hs.recorded
  · intro binding hbinding
    rcases hs.there binding hbinding with ⟨row, hrow, hsame⟩ | ⟨hgone, hbot⟩
    · refine .inl ⟨row, ?_, hsame⟩
      rw [hrows]
      exact List.mem_append_left _ hrow
    · refine .inr ⟨fun request hrequest => ?_, by rw [hbots]; exact hbot⟩
      rcases hcases request hrequest with hold | rfl
      · exact hgone request hold
      · have hnumbered := (hs.recorded binding hbinding).numbered
        exact (hnumbered.trans_le (hs.next_id binding hbinding)).ne'
  · intro binding hbinding request hrequest hpending hbot hcode
    rcases hcases request hrequest with hold | rfl
    · exact hs.past binding hbinding request hold hpending hbot hcode
    · exact hs.next_id binding hbinding
  · intro binding hbinding
    exact (hs.next_id binding hbinding).trans (hnext ▸ Nat.le_succ _)
  · exact hs.ids
  · exact hs.again

/-- The binding that answers a code for the second time. -/
theorem BindingsKept.again_of_found (hs : BindingsKept s) {binding : Binding}
    (hbinding : binding ∈ s.bindings) {request : TelegramBindingRequest}
    (hrequest : request ∈ s.tables.telegram_binding_requests) (hpending : request.status = .pending)
    (hbot : request.telegram_bot_id = binding.telegram_bot_id)
    (hcode : request.answers binding.code = true) :
    binding.request.bind_token ≠ binding.code ∧
      binding.request.short_code = request.short_code ∧ binding.next_id ≤ request.id := by
  have hrecorded := hs.recorded binding hbinding
  have hlater := hs.past binding hbinding request hrequest hpending hbot hcode
  rcases answers_alike hrecorded.named (hs.named request hrequest) hrecorded.code hcode with
    ⟨htoken, htoken'⟩ | ⟨htoken, hshort⟩
  · -- The token is still that of the request that was bound, or the bot is gone.
    exfalso
    rcases hs.there binding hbinding with ⟨row, hrow, hsame⟩ | ⟨_, _, hgone⟩
    · obtain rfl := same_token hrow hrequest
        (hsame.bind_token.trans (htoken.trans htoken'.symm))
      exact hs.settled hbinding hrow hsame.id hpending
    · obtain ⟨bot, hmem, hisbot⟩ := List.any_eq_true.mp (s.tables.request_bot request hrequest)
      simp only [TelegramBotRow.is_bot, Bool.and_eq_true, beq_iff_eq] at hisbot
      exact hgone bot hmem (hisbot.1.trans hbot)
  · exact ⟨htoken, hshort, hlater⟩

theorem BindingsKept.bind (hs : BindingsKept s) {telegram_bot_id : Uuid} {code : String}
    {chat : TelegramChatBinding} {update : TelegramUpdate} {found : TelegramBindingRequest}
    (hcandidate : telegram_binding_candidate update = some ⟨code, chat⟩)
    (hfound : s.tables.bindable telegram_bot_id code now = some found) :
    BindingsKept
      { tables := s.tables.edit_requests (·.id == found.id) (BindingTables.bound_request chat now)
          fun _ => ⟨rfl, rfl, rfl, rfl, rfl, nofun⟩
        bindings := s.bindings ++ [⟨telegram_bot_id, update, code, chat,
          BindingTables.bound_request chat now found, s.tables.next_id⟩] } := by
  obtain ⟨hmem, hbot, hpending, htime, hcode⟩ := bindable_spec hfound
  have hf : ∀ request, TelegramBindingRequest.Same request
      (BindingTables.bound_request chat now request) := fun _ => ⟨rfl, rfl, rfl, rfl, rfl, nofun⟩
  let binding : Binding := ⟨telegram_bot_id, update, code, chat,
    BindingTables.bound_request chat now found, s.tables.next_id⟩
  have hrecorded : Recorded binding :=
    ⟨⟨(hs.named found hmem).bind_token, (hs.named found hmem).short_code⟩, rfl, hbot, hcode,
      hcandidate, rfl, ⟨now, rfl, htime⟩, s.tables.request_lt found hmem⟩
  -- No row but the one that was found is bound.
  have hrows : ∀ request ∈ Table.update (·.id == found.id) (BindingTables.bound_request chat now)
      s.tables.telegram_binding_requests, request = binding.request ∨
        request ∈ s.tables.telegram_binding_requests ∧ request.id ≠ found.id := by
    intro request hrequest
    obtain ⟨old, hold, rfl⟩ := Table.mem_update.mp hrequest
    cases hp : old.id == found.id with
    | true =>
      obtain rfl := same_request hold hmem (beq_iff_eq.mp hp)
      exact .inl (Table.revise_of_true hp)
    | false =>
      rw [Table.revise_of_false (p := fun a : TelegramBindingRequest => a.id == found.id) hp]
      exact .inr ⟨hold, beq_eq_false_iff_ne.mp hp⟩
  have hnew : binding.request ∈ Table.update (·.id == found.id)
      (BindingTables.bound_request chat now) s.tables.telegram_binding_requests :=
    Table.mem_update.mpr ⟨found, hmem, Table.revise_of_true (by simp)⟩
  constructor
  · intro request hrequest
    rcases hrows request hrequest with rfl | ⟨hold, _⟩
    · exact hrecorded.named
    · exact hs.named request hold
  · intro request hrequest hstatus
    rcases hrows request hrequest with rfl | ⟨hold, _⟩
    · exact ⟨binding, List.mem_append_right _ (List.mem_singleton_self _), rfl⟩
    · obtain ⟨other, hother, hrow⟩ := hs.bound request hold hstatus
      exact ⟨other, List.mem_append_left _ hother, hrow⟩
  · intro other hother
    rcases List.mem_append.mp hother with hold | hlast
    · exact hs.recorded other hold
    · rw [List.mem_singleton.mp hlast]
      exact hrecorded
  · intro other hother
    rcases List.mem_append.mp hother with hold | hlast
    · rcases hs.there other hold with ⟨row, hrow, hsame⟩ | ⟨hgone, hgone_bot⟩
      · refine .inl ⟨row, ?_, hsame⟩
        refine Table.mem_update_of_false (beq_eq_false_iff_ne.mpr fun hid => ?_) hrow
        obtain rfl := same_request hrow hmem hid
        exact hs.settled hold hrow hsame.id hpending
      · refine .inr ⟨fun request hrequest => ?_, hgone_bot⟩
        rcases hrows request hrequest with rfl | ⟨hrow, _⟩
        · exact hgone found hmem
        · exact hgone request hrow
    · rw [List.mem_singleton.mp hlast]
      exact .inl ⟨binding.request, hnew, .refl _⟩
  · intro other hother request hrequest hstatus hsame_bot hanswers
    rcases hrows request hrequest with rfl | ⟨hrow, hid⟩
    · cases hstatus
    rcases List.mem_append.mp hother with hold | hlast
    · exact hs.past other hold request hrow hstatus hsame_bot hanswers
    · rw [List.mem_singleton.mp hlast] at hsame_bot hanswers
      have hunique := pending_unique hs hrow hmem hstatus hpending
        (hsame_bot.trans hbot.symm) hanswers hcode
      exact absurd (congrArg TelegramBindingRequest.id hunique) hid
  · intro other hother
    rcases List.mem_append.mp hother with hold | hlast
    · exact hs.next_id other hold
    · rw [List.mem_singleton.mp hlast]
      exact Nat.le_refl s.tables.next_id
  · rw [List.map_append]
    refine hs.ids.append (List.nodup_singleton _) fun id hold hlast => ?_
    obtain ⟨other, hother, rfl⟩ := List.mem_map.mp hold
    have hid : other.request.id = found.id := List.mem_singleton.mp hlast
    exact hs.settled hother hmem hid.symm hpending
  · refine List.pairwise_append.mpr ⟨hs.again, List.pairwise_singleton _ _, ?_⟩
    intro other hother last hlast hsame_bot hsame_code
    rw [List.mem_singleton.mp hlast] at hsame_bot hsame_code ⊢
    have hagain : other.request.bind_token ≠ other.code ∧
        other.request.short_code = found.short_code ∧ other.next_id ≤ found.id :=
      hs.again_of_found hother hmem hpending (hbot.trans hsame_bot.symm) (hsame_code ▸ hcode)
    exact hagain

theorem BindingsKept.bots (hs : BindingsKept s) (q : TelegramQuery) :
    BindingsKept { s with tables := s.tables.run_bots q } := by
  have hmoves := TelegramTables.Moves.run s.tables.bots q
  refine ⟨hs.named, hs.bound, hs.recorded, fun binding hbinding => ?_, hs.past, hs.next_id, hs.ids,
    hs.again⟩
  rcases hs.there binding hbinding with hrow | ⟨hgone, hlt, hbot⟩
  · exact .inl hrow
  · refine .inr ⟨hgone, hlt.trans_le hmoves.next_id, fun bot hmem hid => ?_⟩
    rcases hmoves.new bot hmem with hnew | ⟨old, hold, hsame⟩
    · exact Nat.lt_irrefl _ (hlt.trans_le (hid ▸ hnew))
    · exact hbot old hold (hsame.trans hid)

theorem BindingsKept.delete (hs : BindingsKept s) (tenant_id id : Uuid) :
    BindingsKept { s with tables := s.tables.delete_telegram_bot tenant_id id } := by
  have hkept : ∀ request ∈ (s.tables.delete_telegram_bot tenant_id id).telegram_binding_requests,
      request ∈ s.tables.telegram_binding_requests := fun _ h => (List.mem_filter.mp h).1
  refine ⟨fun request h => hs.named request (hkept request h),
    fun request h => hs.bound request (hkept request h), hs.recorded, fun binding hbinding => ?_,
    fun binding hbinding request h => hs.past binding hbinding request (hkept request h),
    hs.next_id, hs.ids, hs.again⟩
  rcases hs.there binding hbinding with ⟨row, hrow, hsame⟩ | ⟨hgone, hlt, hbot⟩
  · cases hdeleted : row.telegram_bot_id == id && row.tenant_id == tenant_id with
    | false => exact .inl ⟨row, List.mem_filter.mpr ⟨hrow, by simp [hdeleted]⟩, hsame⟩
    | true =>
      -- The request goes with the only bot of this identifier.
      simp only [Bool.and_eq_true, beq_iff_eq] at hdeleted
      have hid : binding.telegram_bot_id = id :=
        (hs.recorded binding hbinding).bot.symm.trans (hsame.telegram_bot_id.symm.trans hdeleted.1)
      obtain ⟨bot, hmem, hisbot⟩ := List.any_eq_true.mp (s.tables.request_bot row hrow)
      simp only [TelegramBotRow.is_bot, Bool.and_eq_true, beq_iff_eq] at hisbot
      have hbot_id : bot.id = id := hisbot.1.trans hdeleted.1
      refine .inr ⟨fun request hrequest hsame_id => ?_, ?_, fun other hother hother_id => ?_⟩
      · obtain ⟨hold, hstays⟩ := List.mem_filter.mp hrequest
        obtain rfl := same_request hold hrow (hsame_id.trans hsame.id.symm)
        simp [hdeleted] at hstays
      · rw [hid, ← hbot_id]
        exact s.tables.bots.bot_lt bot hmem
      · obtain ⟨hold, hstays⟩ := List.mem_filter.mp hother
        have hother_bot : other = bot := List.inj_on_of_nodup_map s.tables.bots.bot_ids hold hmem
          (hother_id.trans (hid.trans hbot_id.symm))
        simp [hother_bot, TelegramBotRow.is_bot, hbot_id, hisbot.2, hdeleted.2] at hstays
  · refine .inr ⟨fun request hrequest => hgone request (hkept request hrequest), hlt, ?_⟩
    exact fun bot hmem => hbot bot (List.mem_filter.mp hmem).1

/-! ### Steps -/

theorem RequestsMove.edit {t : BindingTables} {p : TelegramBindingRequest → Bool}
    {f : TelegramBindingRequest → TelegramBindingRequest}
    (hf : ∀ request, TelegramBindingRequest.Same request (f request))
    (hlater : ∀ request ∈ t.telegram_binding_requests, p request = true →
      LaterRequest request (f request)) : RequestsMove t (t.edit_requests p f hf) := by
  refine .of_rows (fun request hrequest => ?_) rfl
  obtain ⟨old, hold, rfl⟩ := Table.mem_update.mp hrequest
  refine ⟨old, hold, ?_⟩
  cases hp : p old with
  | true =>
    rw [Table.revise_of_true hp]
    exact hlater old hold hp
  | false =>
    rw [Table.revise_of_false hp]
    exact .refl old

/-- A change of pending requests. -/
theorem LaterRequest.of_pending {a b : TelegramBindingRequest}
    (hsame : TelegramBindingRequest.Same a b) (h : a.status = .pending) : LaterRequest a b :=
  ⟨hsame, fun hanswered => absurd h hanswered⟩

theorem closed_same (status : BindingStatus) (h : status ≠ .pending)
    (request : TelegramBindingRequest) :
    TelegramBindingRequest.Same request { request with status := status } :=
  ⟨rfl, rfl, rfl, rfl, rfl, fun hpending => absurd hpending h⟩

theorem query_kept (hs : BindingsKept s) {q : BindingQuery} (hA : BindingStatement.Named (.db q)) :
    BindingsKept (s.query now q).2 ∧ RequestsMove s.tables (s.query now q).2.tables := by
  cases q with
  | get_telegram_bot_secret => exact ⟨hs, .refl _⟩
  | telegram_bot_secret_by_id_any_tenant => exact ⟨hs, .refl _⟩
  | get_binding_request => exact ⟨hs, .refl _⟩
  | create_binding_request tenant_id telegram_bot_id bind_token short_code expires_at =>
    simp only [BindingWorld.query]
    cases hcreate : s.tables.create_binding_request now tenant_id telegram_bot_id bind_token
        short_code expires_at with
    | error e => exact ⟨hs, .refl _⟩
    | ok result =>
      obtain ⟨created, tables⟩ := result
      rcases create_cases hcreate with rfl | ⟨hbots, hnext, hrows⟩
      · exact ⟨hs, .refl _⟩
      · refine ⟨hs.create hA.1 hA.2 hbots hnext hrows, ⟨fun request hrequest => ?_, ?_⟩⟩
        · rw [hrows] at hrequest
          rcases List.mem_append.mp hrequest with hold | hnew
          · exact .inl ⟨request, hold, .refl _⟩
          · rw [List.mem_singleton.mp hnew]
            exact .inr (Nat.le_refl s.tables.next_id)
        · exact hnext ▸ Nat.le_succ _
  | expire_binding_request_if_due tenant_id id now =>
    have hf := closed_same BindingStatus.expired (by decide)
    refine ⟨hs.edit hf (fun _ _ h => by cases h), .edit hf fun request _ hp => ?_⟩
    simp only [TelegramBindingRequest.is_pending, Bool.and_eq_true, beq_iff_eq] at hp
    exact .of_pending (hf request) hp.1.2
  | cancel_binding_request tenant_id id =>
    have hf := closed_same BindingStatus.cancelled (by decide)
    refine ⟨hs.edit hf (fun _ _ h => by cases h), .edit hf fun request _ hp => ?_⟩
    simp only [TelegramBindingRequest.is_pending, Bool.and_eq_true, beq_iff_eq] at hp
    exact .of_pending (hf request) hp.2
  | bind_pending_request telegram_bot_id code chat now update =>
    cases hfound : s.tables.bindable telegram_bot_id code now with
    | none =>
      simp only [BindingWorld.query, BindingTables.bind_pending_request, hfound,
        Option.toList_none, List.map_nil, List.append_nil]
      exact ⟨hs, .refl _⟩
    | some found =>
      simp only [BindingWorld.query, BindingTables.bind_pending_request, hfound,
        Option.toList_some, List.map_cons, List.map_nil]
      refine ⟨hs.bind hA hfound, .edit _ fun request hrequest hp => ?_⟩
      obtain ⟨hmem, _, hpending, _⟩ := bindable_spec hfound
      obtain rfl := same_request hrequest hmem (beq_iff_eq.mp hp)
      exact .of_pending ⟨rfl, rfl, rfl, rfl, rfl, fun h => by cases h⟩ hpending
  | update_binding_confirmation_error tenant_id id confirmation_error =>
    have hf : ∀ request : TelegramBindingRequest, TelegramBindingRequest.Same request
        { request with confirmation_error := some confirmation_error } :=
      fun _ => ⟨rfl, rfl, rfl, rfl, rfl, fun h => h⟩
    refine ⟨hs.edit hf fun request hp _ => ?_, .edit hf fun request _ _ => ⟨hf request, fun _ => rfl⟩⟩
    simp only [Bool.and_eq_true, beq_iff_eq] at hp
    exact ⟨hp.2, rfl⟩

theorem carried_kept (hs : BindingsKept s) {op : BindingStatement} {r : AppResult op.Answer}
    (hA : op.Named) (h : BindingCarried s op r t) :
    BindingsKept t ∧ RequestsMove s.tables t.tables := by
  cases h with
  | db now hfate =>
    rcases hfate.state with rfl | rfl
    · exact ⟨hs, .refl _⟩
    · exact query_kept hs hA
  | sent => exact ⟨hs, .refl _⟩

theorem others_kept (hs : BindingsKept s) (h : BindingOthers s t) :
    BindingsKept t ∧ RequestsMove s.tables t.tables := by
  cases h with
  | bots q => exact ⟨hs.bots q, .of_rows (fun request h => ⟨request, h, .refl _⟩) rfl⟩
  | delete tenant_id id =>
    refine ⟨hs.delete tenant_id id, .of_rows (fun request h => ?_) rfl⟩
    exact ⟨request, (List.mem_filter.mp h).1, .refl _⟩

end Steps

/-! ### Calls -/

section Calls

theorem prefixed_head (c : Char) (start rest : String) (before : List Char)
    (h : start.toList = c :: before) : ∃ tail, (start ++ rest).toList = c :: tail :=
  ⟨before ++ rest.toList, by rw [String.toList_append, h]; rfl⟩

theorem process_named (telegram_bot_id : Uuid) (bot_token : String) (proxy_url : Option String)
    (update : TelegramUpdate) (now : Timestamp) :
    (process_telegram_binding_update telegram_bot_id bot_token proxy_url update now).Only
      BindingStatement.Named := by
  unfold process_telegram_binding_update
  split
  · exact .done
  · next candidate hcandidate =>
    refine .bind (.perform hcandidate) fun bound => ?_
    cases bound with
    | none => exact .done
    | some binding =>
      refine .bind (.bind (.perform (by trivial)) fun outcome => ?_) fun _ => .done
      split
      · exact .done
      · exact .perform (by trivial)

theorem create_named (tenant_id telegram_bot_id : Uuid) (token code : SimpleUuid)
    (now : Timestamp) :
    (create_telegram_binding tenant_id telegram_bot_id token code now).Only
      BindingStatement.Named := by
  refine .bind (.perform (by trivial)) fun _ => .bind .lift fun _ => ?_
  refine .bind (.perform ⟨prefixed_head 'b' _ _ ['i', 'n', 'd', '_'] (by decide), ?_⟩)
    fun _ => .lift
  obtain ⟨rest, hrest⟩ := prefixed_head 'C' "CL-"
    (Text.toAsciiUppercase (String.ofList (code.text.toList.take 6))) ['L', '-'] (by decide)
  exact normalize_head hrest (by decide)

theorem call_named (call : BindingCall) : call.program.Only BindingStatement.Named := by
  cases call with
  | webhook configured header bot_id update now =>
    change (telegram_webhook configured header bot_id update now).Only _
    unfold telegram_webhook
    split
    · refine .bind (.perform (by trivial)) fun _ => .bind .lift fun _ => ?_
      exact .bind (process_named ..) fun _ => .done
    · exact .fail
  | poll bot update now => exact .bind (process_named ..) fun _ => .done
  | create tenant_id telegram_bot_id token code now =>
    exact .bind (create_named ..) fun _ => .done
  | get tenant_id id now =>
    refine .bind (.bind (.perform (by trivial)) fun _ => ?_) fun _ => .done
    exact .bind (.perform (by trivial)) fun _ => .lift
  | cancel tenant_id id =>
    exact .bind (.bind (.perform (by trivial)) fun _ => .lift) fun _ => .done

def anything : Prog.Assn (fun _ _ : BindingWorld => True) fun _ => True where
  holds _ := True
  stable _ _ := trivial
  good _ := trivial

/-- Any number of deliveries and users. -/
theorem binding_rules {W : Type} [DecidableEq W] :
    Prog.Crew.Rules (fun _ : W => BindingCarried) BindingOthers BindingLaunch BindingsKept
      (fun _ _ op => op.Named) (fun _ _ _ => True) fun _ _ _ => True where
  refl _ _ := trivial
  trans _ _ _ _ _ _ := trivial
  launch_inv := by
    rintro w s p t hs ⟨rfl, _⟩
    exact hs
  launch_safe := by
    rintro w s p t hs ⟨rfl, call, rfl⟩
    have hcall : Prog.Triple (fun _ op => op.Named)
        (Prog.Within BindingsKept BindingCarried) anything call.program (fun _ => anything)
        fun _ => anything :=
      .of_only (call_named call) (fun _ hop _ _ => hop) fun _ _ _ _ _ _ _ => trivial
    exact (hcall.safe _ trivial).mono fun _ _ _ _ => trivial
  launch_others _ _ _ := trivial
  statement_inv hs hA h := (carried_kept hs hA h).1
  statement_others _ _ _ _ := trivial
  others_inv hs h := (others_kept hs h).1
  others _ _ := trivial

end Calls

section Run
variable {W : Type} [DecidableEq W] {telegram_proxy_url : Uuid → Option String}
  {s t : BindingWorld} {ps qs : W → BindingProg Unit}

theorem binding_run
    (hs : Relation.ReflTransGen BindingStep (binding_start telegram_proxy_url) (s, ps))
    (ht : Relation.ReflTransGen BindingStep (s, ps) (t, qs)) :
    BindingsKept t ∧ RequestsMove s.tables t.tables := by
  have hempty : BindingsKept (binding_start (W := W) telegram_proxy_url).1 := by
    constructor
    · exact fun _ h => absurd h List.not_mem_nil
    · exact fun _ h => absurd h List.not_mem_nil
    · exact fun _ h => absurd h List.not_mem_nil
    · exact fun _ h => absurd h List.not_mem_nil
    · exact fun _ h => absurd h List.not_mem_nil
    · exact fun _ h => absurd h List.not_mem_nil
    · exact List.nodup_nil
    · exact .nil
  have hstart : Prog.Crew.Good (fun _ : W => BindingCarried) BindingsKept (fun _ _ op => op.Named)
      (fun _ _ _ => True) (fun _ _ _ => True) (binding_start (W := W) telegram_proxy_url).1
      (binding_start telegram_proxy_url).2 := ⟨hempty, fun _ _ _ => ⟨trivial, trivial⟩⟩
  have hgood := hstart.run binding_rules hs
  refine ⟨(hgood.run binding_rules ht).inv, ?_⟩
  refine hgood.kept (G := fun s t => RequestsMove s.tables t.tables) binding_rules
    (fun s => .refl _) (fun {a b c} hab hbc => ?_) ?_ ?_ ?_ ht
  · exact RequestsMove.trans hab hbc
  · rintro w s p t _ ⟨rfl, _⟩
    exact .refl _
  · exact fun hinv hA h => (carried_kept hinv hA h).2
  · exact fun hinv h => (others_kept hinv h).2

/-- A request is bound at most once, in time, for the bot that received the update, and stays as it
was answered. An update binds a second request only as the short code of the first one, and only one
that was created after the first was bound. -/
theorem binding_requests_hold
    (hs : Relation.ReflTransGen BindingStep (binding_start telegram_proxy_url) (s, ps))
    (ht : Relation.ReflTransGen BindingStep (s, ps) (t, qs)) :
    (∀ request ∈ s.tables.telegram_binding_requests, request.status ≠ .pending →
      ∀ later ∈ t.tables.telegram_binding_requests, later.id = request.id →
        later = { request with confirmation_error := later.confirmation_error }) ∧
    (t.bindings.map (·.request.id)).Nodup ∧
    (∀ request ∈ t.tables.telegram_binding_requests, request.status = .bound →
      (∃ bound_at, request.bound_at = some bound_at ∧ bound_at < request.expires_at) ∧
      ∃ binding ∈ t.bindings, request.id = binding.request.id ∧
        request.telegram_bot_id = binding.telegram_bot_id ∧
        request.chat_id = some binding.chat.chat_id ∧
        telegram_binding_candidate binding.update = some ⟨binding.code, binding.chat⟩) ∧
    t.bindings.Pairwise fun first second =>
      first.telegram_bot_id = second.telegram_bot_id → first.update = second.update →
        first.request.bind_token ≠ first.code ∧
        first.request.short_code = second.request.short_code ∧
        first.next_id ≤ second.request.id := by
  obtain ⟨hkept, hmove⟩ := binding_run hs ht
  refine ⟨fun request hrequest hanswered later hlater hid => ?_, hkept.ids,
    fun request hrequest hbound => ?_, ?_⟩
  · rcases hmove.rows later hlater with ⟨old, hold, hchange⟩ | hnew
    · obtain rfl := same_request hold hrequest (hchange.same.id.symm.trans hid)
      exact hchange.answered hanswered
    · have hlt := s.tables.request_lt request hrequest
      exact absurd (hid ▸ hnew) (Nat.not_le_of_lt hlt)
  · obtain ⟨binding, hbinding, hrow⟩ := hkept.bound request hrequest hbound
    have hrecorded := hkept.recorded binding hbinding
    rw [hrow]
    exact ⟨hrecorded.in_time, binding, hbinding, rfl, hrecorded.bot, hrecorded.chat,
      hrecorded.candidate⟩
  · refine hkept.again.imp_of_mem fun {first second} hfirst hsecond hagain hbot hupdate => ?_
    have hcandidate := (hkept.recorded first hfirst).candidate
    rw [hupdate, (hkept.recorded second hsecond).candidate] at hcandidate
    have hcode := congrArg TelegramBindingCandidate.code (Option.some.inj hcandidate)
    exact hagain hbot hcode.symm

end Run

/-! ### Runs -/

/-- A call from its start to its end, with every statement carried out and the confirmation sent. -/
def BindingWorld.alone (s : BindingWorld) :
    (op : BindingStatement) → AppResult op.Answer × BindingWorld
  | .db q => s.query 0 q
  | .send_telegram .. => (.ok (.Sent ⟨none, none, some 200, none⟩), s)

def BindingCall.round (call : BindingCall) (s : BindingWorld) : BindingWorld :=
  (Prog.eval BindingWorld.alone call.program s).2

theorem BindingCall.run (call : BindingCall) (s : BindingWorld) (ps : Unit → BindingProg Unit) :
    ∃ qs, Relation.ReflTransGen BindingStep (s, ps) (call.round s, qs) := by
  have hcarried : ∀ (s : BindingWorld) (op : BindingStatement), true = true →
      BindingCarried s op (s.alone op).1 (s.alone op).2 := by
    intro s op _
    cases op with
    | db q => exact .db 0 .answered
    | send_telegram => exact .sent _
  have hrun : ∃ qs, Relation.ReflTransGen BindingStep (s, Function.update ps () call.program)
      (call.round s, qs) :=
    (Prog.Crew.of_eval (w := ()) hcarried s (Prog.along_true BindingWorld.alone call.program s) _
      (Function.update_self ..)).imp fun qs h => h.1
  obtain ⟨qs, hqs⟩ := hrun
  exact ⟨qs, .head (.launch () ⟨rfl, call, rfl⟩) hqs⟩

def verified_ops_bot : BindingWorld :=
  let s := (binding_start (W := Unit) fun _ => none).1
  let s := { s with
    tables := s.tables.run_bots (.create_telegram_bot 1 "ops" "111:AAA" STATUS_ACTIVE none) }
  { s with
    tables := s.tables.run_bots (.mark_telegram_bot_verification 1 0 VERIFICATION_STATUS_VERIFIED
      (some "ops_bot") none 0 "111:AAA") }

def uuid_of (c : Char) (h : (c.isDigit || ('a' ≤ c && c ≤ 'f')) = true) : SimpleUuid where
  text := String.ofList (List.replicate 32 c)
  is_simple := by
    refine ⟨by rw [String.length_ofList, List.length_replicate], ?_⟩
    rw [String.toList_ofList, List.all_eq_true]
    intro d hd
    rw [List.eq_of_mem_replicate hd]
    exact h

def requested_world : BindingWorld :=
  (BindingCall.create 1 0 (uuid_of 'a' (by decide)) (uuid_of 'c' (by decide)) 0).round
    verified_ops_bot

/-- A message with the short code. -/
def code_update : TelegramUpdate :=
  { update_id := 7
    message := some
      { text := some "cl: CL-CCCCCC"
        chat :=
          { id := .number "42"
            chat_type := "private"
            title := none
            username := some "ops"
            first_name := none
            last_name := none } }
    channel_post := none }

def bound_world : BindingWorld :=
  (BindingCall.webhook none none 0 code_update 10).round requested_world

theorem requested_run : ∃ qs : Unit → BindingProg Unit,
    Relation.ReflTransGen BindingStep (binding_start fun _ => none) (requested_world, qs) := by
  have hcreated := Relation.ReflTransGen.refl.tail (.others (.bots
    (.create_telegram_bot 1 "ops" "111:AAA" STATUS_ACTIVE none)) :
      BindingStep (binding_start (W := Unit) fun _ => none) _)
  have hverified : Relation.ReflTransGen BindingStep (binding_start (W := Unit) fun _ => none)
      (verified_ops_bot, fun _ => .done ()) := hcreated.tail (.others (.bots _))
  obtain ⟨qs, hrequested⟩ := BindingCall.run
    (.create 1 0 (uuid_of 'a' (by decide)) (uuid_of 'c' (by decide)) 0) verified_ops_bot
    fun _ => .done ()
  exact ⟨qs, hverified.trans hrequested⟩

theorem bound_run : ∃ qs : Unit → BindingProg Unit,
    Relation.ReflTransGen BindingStep (binding_start fun _ => none) (bound_world, qs) := by
  obtain ⟨ps, hrequested⟩ := requested_run
  obtain ⟨qs, hbound⟩ := BindingCall.run (.webhook none none 0 code_update 10) requested_world ps
  exact ⟨qs, hrequested.trans hbound⟩

/-- One request is bound. -/
theorem binding_requests_hold_bound : ∃ t : BindingWorld,
    (∃ request ∈ t.tables.telegram_binding_requests, request.status = .bound) ∧
    (t.bindings.map (·.request.id)).Nodup := by
  obtain ⟨qs, hrun⟩ := bound_run
  have hholds := binding_requests_hold hrun .refl
  exact ⟨bound_world, by decide +kernel, hholds.2.1⟩

/-- The short code is given to a second request, and a poller delivers the update again. -/
def bound_again_world : BindingWorld :=
  let s := (BindingCall.create 1 0 (uuid_of 'b' (by decide)) (uuid_of 'c' (by decide)) 20).round
    bound_world
  (BindingCall.poll ⟨0, 1, "111:AAA", none, STATUS_ACTIVE⟩ code_update 30).round s

/-- One update binds two requests. -/
theorem update_binds_twice : ∃ t : BindingWorld, ∃ qs : Unit → BindingProg Unit,
    Relation.ReflTransGen BindingStep (binding_start fun _ => none) (t, qs) ∧
    ¬ t.bindings.Pairwise fun first second =>
      ¬ (first.telegram_bot_id = second.telegram_bot_id ∧ first.update = second.update) := by
  obtain ⟨ps, hbound⟩ := bound_run
  obtain ⟨rs, hrequested⟩ := BindingCall.run
    (.create 1 0 (uuid_of 'b' (by decide)) (uuid_of 'c' (by decide)) 20) bound_world ps
  obtain ⟨qs, hagain⟩ := BindingCall.run
    (.poll ⟨0, 1, "111:AAA", none, STATUS_ACTIVE⟩ code_update 30) _ rs
  refine ⟨bound_again_world, qs, hbound.trans (hrequested.trans hagain), ?_⟩
  decide +kernel

end CoinListener.Notifier
