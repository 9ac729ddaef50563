import CoinListener.Foundation.Text
import CoinListener.Storage.TelegramBots
import Mathlib.Data.List.Sort

/-! Requests to bind a Telegram chat to a bot. -/
namespace CoinListener.Storage
open Foundation

def BINDING_EXPIRY_MINUTES : Int := 15

inductive BindingStatus where
  | pending | bound | cancelled | expired
deriving DecidableEq

def normalize_short_code (value : String) : String :=
  Text.toAsciiUppercase (Text.trim value)

/-! ### Tables -/

structure TelegramBindingRequest where
  id : Uuid
  tenant_id : Uuid
  telegram_bot_id : Uuid
  status : BindingStatus
  bind_token : String
  short_code : String
  chat_id : Option String
  chat_type : Option String
  chat_title : Option String
  chat_username : Option String
  confirmation_error : Option String
  expires_at : Timestamp
  bound_at : Option Timestamp
  created_at : Timestamp
deriving DecidableEq

namespace TelegramBindingRequest

def is_request (tenant_id id : Uuid) (request : TelegramBindingRequest) : Bool :=
  request.id == id && request.tenant_id == tenant_id

def is_pending (request : TelegramBindingRequest) : Bool :=
  request.status == .pending

/-- The code is the bind token or, up to spelling, the short code. -/
def answers (code : String) (request : TelegramBindingRequest) : Bool :=
  request.bind_token == code || request.short_code == normalize_short_code code

/-- Two pending requests of one tenant have different short codes. -/
def Apart (a b : TelegramBindingRequest) : Prop :=
  a.status = .pending → b.status = .pending → a.tenant_id = b.tenant_id → a.short_code ≠ b.short_code

instance : Std.Symm Apart :=
  ⟨fun _ _ h hpending hpending' htenant hcode =>
    h hpending' hpending htenant.symm hcode.symm⟩

/-- The keys are the same, and a request that was answered stays so. -/
structure Same (a b : TelegramBindingRequest) : Prop where
  id : b.id = a.id
  tenant_id : b.tenant_id = a.tenant_id
  telegram_bot_id : b.telegram_bot_id = a.telegram_bot_id
  bind_token : b.bind_token = a.bind_token
  short_code : b.short_code = a.short_code
  pending : b.status = .pending → a.status = .pending

theorem Same.refl (a : TelegramBindingRequest) : Same a a :=
  ⟨rfl, rfl, rfl, rfl, rfl, fun h => h⟩

theorem Same.revise {p : TelegramBindingRequest → Bool}
    {f : TelegramBindingRequest → TelegramBindingRequest} (h : ∀ a, Same a (f a))
    (a : TelegramBindingRequest) : Same a (Table.revise p f a) := by
  cases hp : p a with
  | true =>
    rw [Table.revise_of_true hp]
    exact h a
  | false =>
    rw [Table.revise_of_false hp]
    exact .refl a

theorem Same.apart {a a' b b' : TelegramBindingRequest} (ha : Same a a') (hb : Same b b')
    (h : Apart a b) : Apart a' b' := by
  intro hpending hpending' htenant
  rw [ha.short_code, hb.short_code]
  exact h (ha.pending hpending) (hb.pending hpending')
    (ha.tenant_id.symm.trans (htenant.trans hb.tenant_id))

end TelegramBindingRequest

/-- Bots, and requests for them in the order of their creation. Every request is for a bot of its
tenant; its token is its own, and so is its short code among the pending requests of the tenant. -/
structure BindingTables where
  bots : TelegramTables
  telegram_binding_requests : List TelegramBindingRequest
  next_id : Uuid
  request_lt : ∀ request ∈ telegram_binding_requests, request.id < next_id
  request_ids : (telegram_binding_requests.map (·.id)).Nodup
  request_bot : ∀ request ∈ telegram_binding_requests,
    bots.has_bot request.tenant_id request.telegram_bot_id = true
  bind_tokens : (telegram_binding_requests.map (·.bind_token)).Nodup
  short_codes : telegram_binding_requests.Pairwise TelegramBindingRequest.Apart

namespace BindingTables
variable (t : BindingTables)

/-! ### Changes -/

/-- A change of requests. -/
def edit_requests (p : TelegramBindingRequest → Bool)
    (f : TelegramBindingRequest → TelegramBindingRequest)
    (hf : ∀ request, TelegramBindingRequest.Same request (f request)) : BindingTables :=
  { t with
    telegram_binding_requests := Table.update p f t.telegram_binding_requests
    request_lt := by
      intro request hrequest
      obtain ⟨old, hold, rfl⟩ := Table.mem_update.mp hrequest
      rw [(TelegramBindingRequest.Same.revise hf old).id]
      exact t.request_lt old hold
    request_ids := by
      rw [Table.update_column fun request => (hf request).id]
      exact t.request_ids
    request_bot := by
      intro request hrequest
      obtain ⟨old, hold, rfl⟩ := Table.mem_update.mp hrequest
      have hsame := TelegramBindingRequest.Same.revise (p := p) hf old
      rw [hsame.tenant_id, hsame.telegram_bot_id]
      exact t.request_bot old hold
    bind_tokens := by
      rw [Table.update_column fun request => (hf request).bind_token]
      exact t.bind_tokens
    short_codes := by
      refine List.pairwise_map.mpr (t.short_codes.imp fun h => ?_)
      exact TelegramBindingRequest.Same.apart (.revise hf _) (.revise hf _) h }

/-- A request that was not there before. -/
def add_request (request : TelegramBindingRequest) (hid : request.id = t.next_id)
    (hbot : t.bots.has_bot request.tenant_id request.telegram_bot_id = true)
    (htoken : t.telegram_binding_requests.all (·.bind_token ≠ request.bind_token) = true)
    (hshort : t.telegram_binding_requests.all (fun other => !(other.is_pending &&
      other.tenant_id == request.tenant_id && other.short_code == request.short_code)) = true) :
    BindingTables :=
  { t with
    telegram_binding_requests := t.telegram_binding_requests ++ [request]
    next_id := t.next_id + 1
    request_lt := by
      intro other hother
      rcases List.mem_append.mp hother with hold | hnew
      · exact (t.request_lt other hold).trans (Nat.lt_succ_self _)
      · obtain rfl := List.mem_singleton.mp hnew
        rw [hid]
        exact Nat.lt_succ_self _
    request_ids := by
      rw [List.map_append]
      refine t.request_ids.append (List.nodup_singleton _) fun id hold hnew => ?_
      obtain ⟨other, hother, rfl⟩ := List.mem_map.mp hold
      have hsame : other.id = request.id := List.mem_singleton.mp hnew
      exact Nat.lt_irrefl _ (hid ▸ hsame ▸ t.request_lt other hother)
    request_bot := by
      intro other hother
      rcases List.mem_append.mp hother with hold | hnew
      · exact t.request_bot other hold
      · obtain rfl := List.mem_singleton.mp hnew
        exact hbot
    bind_tokens := by
      rw [List.map_append]
      refine t.bind_tokens.append (List.nodup_singleton _) fun token hold hnew => ?_
      obtain ⟨other, hother, rfl⟩ := List.mem_map.mp hold
      have hsame : other.bind_token = request.bind_token := List.mem_singleton.mp hnew
      exact of_decide_eq_true (List.all_eq_true.mp htoken other hother) hsame
    short_codes := by
      refine List.pairwise_append.mpr ⟨t.short_codes, List.pairwise_singleton _ _, ?_⟩
      intro other hother new hnew hpending _ htenant hcode
      obtain rfl := List.mem_singleton.mp hnew
      have hfree := List.all_eq_true.mp hshort other hother
      simp [TelegramBindingRequest.is_pending, hpending, htenant, hcode] at hfree }

/-! ### Statements -/

/-- `GET_TELEGRAM_BOT_SECRET_BY_ID_ANY_TENANT_QUERY`. -/
def telegram_bot_secret_by_id_any_tenant (id : Uuid) : Option TelegramBotSecret :=
  (t.bots.telegram_bots.find? fun bot => bot.id == id && bot.status == STATUS_ACTIVE &&
    bot.verification_status == VERIFICATION_STATUS_VERIFIED).map t.bots.secret

def ready_bot (tenant_id id : Uuid) : Bool :=
  t.bots.telegram_bots.any fun bot => bot.is_bot tenant_id id && bot.status == STATUS_ACTIVE &&
    bot.verification_status == VERIFICATION_STATUS_VERIFIED

theorem has_bot_of_ready {tenant_id id : Uuid} (h : t.ready_bot tenant_id id = true) :
    t.bots.has_bot tenant_id id = true := by
  obtain ⟨bot, hbot, hready⟩ := List.any_eq_true.mp h
  simp only [Bool.and_eq_true] at hready
  exact List.any_eq_true.mpr ⟨bot, hbot, hready.1.1⟩

def new_request (now : Timestamp) (tenant_id telegram_bot_id : Uuid) (bind_token short_code : String)
    (expires_at : Timestamp) : TelegramBindingRequest :=
  { id := t.next_id
    tenant_id := tenant_id
    telegram_bot_id := telegram_bot_id
    status := .pending
    bind_token := bind_token
    short_code := short_code
    chat_id := none
    chat_type := none
    chat_title := none
    chat_username := none
    confirmation_error := none
    expires_at := expires_at
    bound_at := none
    created_at := now }

/-- `CREATE_BINDING_REQUEST_QUERY`, for a bot that is active and verified. -/
def create_binding_request (now : Timestamp) (tenant_id telegram_bot_id : Uuid)
    (bind_token short_code : String) (expires_at : Timestamp) :
    AppResult (Option TelegramBindingRequest × BindingTables) :=
  let request := t.new_request now tenant_id telegram_bot_id bind_token short_code expires_at
  if hready : t.ready_bot tenant_id telegram_bot_id = true then
    if htoken : t.telegram_binding_requests.all (·.bind_token ≠ bind_token) = true then
      if hshort : t.telegram_binding_requests.all (fun other => !(other.is_pending &&
          other.tenant_id == tenant_id && other.short_code == short_code)) = true then
        .ok (some request, t.add_request request rfl (t.has_bot_of_ready hready) htoken hshort)
      else .error (.Database "idx_telegram_binding_requests_pending_short_code")
    else .error (.Database "idx_telegram_binding_requests_bind_token")
  else .ok (none, t)

/-- `GET_BINDING_REQUEST_QUERY`. -/
def get_binding_request (tenant_id id : Uuid) : Option TelegramBindingRequest :=
  t.telegram_binding_requests.find? (·.is_request tenant_id id)

/-- `EXPIRE_BINDING_REQUEST_IF_DUE_QUERY`. -/
def expire_binding_request_if_due (tenant_id id : Uuid) (now : Timestamp) : BindingTables :=
  t.edit_requests
    (fun request => request.is_request tenant_id id && request.is_pending &&
      decide (request.expires_at ≤ now))
    (fun request => { request with status := .expired })
    fun _ => ⟨rfl, rfl, rfl, rfl, rfl, nofun⟩

/-- `CANCEL_BINDING_REQUEST_QUERY`. -/
def cancel_binding_request (tenant_id id : Uuid) :
    Option TelegramBindingRequest × BindingTables :=
  let cancelled (request : TelegramBindingRequest) : TelegramBindingRequest :=
    { request with status := .cancelled }
  let is_cancelled (request : TelegramBindingRequest) : Bool :=
    request.is_request tenant_id id && request.is_pending
  ((t.telegram_binding_requests.find? is_cancelled).map cancelled,
    t.edit_requests is_cancelled cancelled fun _ => ⟨rfl, rfl, rfl, rfl, rfl, nofun⟩)

/-- The oldest pending request of the bot that the code answers in time. -/
def bindable (telegram_bot_id : Uuid) (code : String) (now : Timestamp) :
    Option TelegramBindingRequest :=
  ((t.telegram_binding_requests.filter fun request =>
    request.telegram_bot_id == telegram_bot_id && request.is_pending &&
      decide (now < request.expires_at) && request.answers code).insertionSort
        fun a b => a.created_at ≤ b.created_at).head?

def bound_request (chat : TelegramChatBinding) (now : Timestamp)
    (request : TelegramBindingRequest) : TelegramBindingRequest :=
  { request with
    status := .bound
    chat_id := some chat.chat_id
    chat_type := some chat.chat_type
    chat_title := chat.chat_title
    chat_username := chat.chat_username
    bound_at := some now }

/-- `BIND_PENDING_REQUEST_QUERY`. -/
def bind_pending_request (telegram_bot_id : Uuid) (code : String) (chat : TelegramChatBinding)
    (now : Timestamp) : Option TelegramBindingRequest × BindingTables :=
  match t.bindable telegram_bot_id code now with
  | none => (none, t)
  | some found =>
    (some (bound_request chat now found),
      t.edit_requests (·.id == found.id) (bound_request chat now)
        fun _ => ⟨rfl, rfl, rfl, rfl, rfl, nofun⟩)

/-- `UPDATE_BINDING_CONFIRMATION_ERROR_QUERY`. -/
def update_binding_confirmation_error (tenant_id id : Uuid) (confirmation_error : String) :
    BindingTables :=
  t.edit_requests (fun request => request.is_request tenant_id id && request.status == .bound)
    (fun request => { request with confirmation_error := some confirmation_error })
    fun _ => ⟨rfl, rfl, rfl, rfl, rfl, fun h => h⟩

end BindingTables

/-! ### Changes of bots -/

namespace TelegramTables

/-- `DELETE_TELEGRAM_BOT_QUERY`. The offset of the bot goes with it. -/
def delete_telegram_bot (t : TelegramTables) (tenant_id id : Uuid) : TelegramTables :=
  { t with
    telegram_bots := t.telegram_bots.filter (!·.is_bot tenant_id id)
    telegram_bot_update_offsets :=
      t.telegram_bot_update_offsets.filter (·.key ≠ (tenant_id, id))
    bot_lt bot hbot := t.bot_lt bot (List.mem_filter.mp hbot).1
    bot_ids := t.bot_ids.sublist (List.filter_sublist.map _)
    offset_keys := t.offset_keys.sublist (List.filter_sublist.map _)
    offset_bot := by
      intro row hrow
      obtain ⟨hold, hkey⟩ := List.mem_filter.mp hrow
      obtain ⟨bot, hbot, his⟩ := List.any_eq_true.mp (t.offset_bot row hold)
      refine List.any_eq_true.mpr ⟨bot, List.mem_filter.mpr ⟨hbot, ?_⟩, his⟩
      rw [Bool.not_eq_true', ← Bool.not_eq_true]
      intro hdeleted
      simp only [TelegramBotRow.is_bot, Bool.and_eq_true, beq_iff_eq] at his hdeleted
      refine of_decide_eq_true hkey ?_
      rw [TelegramUpdateOffset.key, ← his.2, ← his.1, hdeleted.2, hdeleted.1] }

/-- Bots stay, and new ones get new identifiers. -/
structure Moves (t u : TelegramTables) : Prop where
  kept : ∀ tenant_id id, t.has_bot tenant_id id = true → u.has_bot tenant_id id = true
  new : ∀ bot ∈ u.telegram_bots, t.next_id ≤ bot.id ∨ ∃ old ∈ t.telegram_bots, old.id = bot.id
  next_id : t.next_id ≤ u.next_id

variable {t u : TelegramTables}

theorem Moves.of_same (hbots : u.telegram_bots = t.telegram_bots) (hnext : u.next_id = t.next_id) :
    Moves t u := by
  refine ⟨fun tenant_id id h => ?_, fun bot hbot => ?_, hnext.ge⟩
  · rwa [has_bot, hbots]
  · exact .inr ⟨bot, hbots ▸ hbot, rfl⟩

theorem Moves.edit {tenant_id id : Uuid} {f : TelegramBotRow → TelegramBotRow}
    (hf : ∀ bot, (f bot).id = bot.id ∧ (f bot).tenant_id = bot.tenant_id) :
    Moves t (t.edit_bot tenant_id id f hf) := by
  refine ⟨fun tenant bot_id h => ?_, fun bot hbot => ?_, le_rfl⟩
  · obtain ⟨bot, hbot, his⟩ := List.any_eq_true.mp h
    refine List.any_eq_true.mpr ⟨_, Table.mem_update.mpr ⟨bot, hbot, rfl⟩, ?_⟩
    have hid := Table.revise_column (p := (·.is_bot tenant_id id)) (fun bot => (hf bot).1) bot
    have htenant := Table.revise_column (p := (·.is_bot tenant_id id)) (fun bot => (hf bot).2) bot
    rwa [TelegramBotRow.is_bot, hid, htenant]
  · obtain ⟨old, hold, rfl⟩ := Table.mem_update.mp hbot
    exact .inr ⟨old, hold, (Table.revise_column (fun bot => (hf bot).1) old).symm⟩

theorem Moves.run (t : TelegramTables) (q : TelegramQuery) : Moves t (q.run t).2 := by
  cases q with
  | create_telegram_bot tenant_id name bot_token status proxy_url =>
    refine ⟨fun tenant bot_id h => ?_, fun bot hbot => ?_, Nat.le_succ _⟩
    · exact (List.any_append ..).trans (by rw [show t.telegram_bots.any _ = true from h]; rfl)
    · rcases List.mem_append.mp hbot with hold | hnew
      · exact .inr ⟨bot, hold, rfl⟩
      · obtain rfl := List.mem_singleton.mp hnew
        exact .inl le_rfl
  | get_telegram_bot_secret => exact .of_same rfl rfl
  | list_active_verified_telegram_bot_secrets => exact .of_same rfl rfl
  | update_telegram_bot tenant_id id name bot_token status proxy_url_was_provided proxy_url =>
    exact .edit (f := updated_bot name bot_token status proxy_url_was_provided proxy_url)
      fun _ => ⟨rfl, rfl⟩
  | mark_telegram_bot_verification tenant_id id status username last_error verified_at token =>
    exact .edit (f := marked_bot status username last_error verified_at) fun _ => ⟨rfl, rfl⟩
  | claim_telegram_update_offset tenant_id id locked_at stale_before =>
    refine .of_same (t.run_offset_bots trivial) ?_
    rw [run_claim]
    cases h : t.claim_telegram_update_offset tenant_id id locked_at stale_before with
    | error e => rfl
    | ok claimed =>
      unfold claim_telegram_update_offset at h
      split at h
      · cases hinsert : t.insert_offset ⟨tenant_id, id, 0, some locked_at⟩ with
        | error e =>
          rw [hinsert] at h
          exact nomatch h
        | ok tables =>
          rw [hinsert] at h
          obtain rfl := Except.ok.inj h
          obtain ⟨hbot, rfl⟩ := insert_offset_eq hinsert
          rfl
      · split at h
        · obtain rfl := Except.ok.inj h
          rfl
        · obtain rfl := Except.ok.inj h
          rfl
  | upsert_telegram_update_offset tenant_id id update_id polled_token =>
    refine .of_same (t.run_offset_bots trivial) ?_
    rw [run_upsert]
    cases h : t.upsert_telegram_update_offset tenant_id id update_id with
    | error e => rfl
    | ok tables =>
      unfold upsert_telegram_update_offset at h
      split at h
      · obtain ⟨hbot, rfl⟩ := insert_offset_eq h
        rfl
      · obtain rfl := Except.ok.inj h
        rfl
  | release_telegram_update_offset_lock tenant_id id locked_at =>
    refine .of_same (t.run_offset_bots trivial) ?_
    unfold TelegramQuery.run release_telegram_update_offset_lock
    dsimp only
    split
    · rfl
    · split
      · rfl
      · rfl

end TelegramTables

namespace BindingTables

/-- No bot yet. -/
def empty (telegram_proxy_url : Uuid → Option String) : BindingTables where
  bots := .empty telegram_proxy_url
  telegram_binding_requests := []
  next_id := 0
  request_lt _ h := absurd h List.not_mem_nil
  request_ids := List.nodup_nil
  request_bot _ h := absurd h List.not_mem_nil
  bind_tokens := List.nodup_nil
  short_codes := .nil

/-- A statement about bots. -/
def run_bots (t : BindingTables) (q : TelegramQuery) : BindingTables :=
  { t with
    bots := (q.run t.bots).2
    request_bot request hrequest :=
      (TelegramTables.Moves.run t.bots q).kept _ _ (t.request_bot request hrequest) }

/-- The requests for a bot go with it. -/
def delete_telegram_bot (t : BindingTables) (tenant_id id : Uuid) : BindingTables :=
  { t with
    bots := t.bots.delete_telegram_bot tenant_id id
    telegram_binding_requests := t.telegram_binding_requests.filter fun request =>
      !(request.telegram_bot_id == id && request.tenant_id == tenant_id)
    request_lt request hrequest := t.request_lt request (List.mem_filter.mp hrequest).1
    request_ids := t.request_ids.sublist (List.filter_sublist.map _)
    request_bot := by
      intro request hrequest
      obtain ⟨hold, hkept⟩ := List.mem_filter.mp hrequest
      obtain ⟨bot, hbot, his⟩ := List.any_eq_true.mp (t.request_bot request hold)
      refine List.any_eq_true.mpr ⟨bot, List.mem_filter.mpr ⟨hbot, ?_⟩, his⟩
      simp only [TelegramBotRow.is_bot, Bool.and_eq_true, beq_iff_eq] at his
      rw [TelegramBotRow.is_bot, his.1, his.2]
      exact hkept
    bind_tokens := t.bind_tokens.sublist (List.filter_sublist.map _)
    short_codes := t.short_codes.sublist List.filter_sublist }

end BindingTables

end CoinListener.Storage
