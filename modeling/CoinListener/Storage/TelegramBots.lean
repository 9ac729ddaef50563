import CoinListener.Core.Models
import CoinListener.Foundation.Table

/-! Telegram bots, and how far the updates of each bot have been read. -/
namespace CoinListener.Storage
open Foundation

def STATUS_ACTIVE : String := "active"
def STATUS_INACTIVE : String := "inactive"
def VERIFICATION_STATUS_UNVERIFIED : String := "unverified"
def VERIFICATION_STATUS_VERIFIED : String := "verified"
def VERIFICATION_STATUS_FAILED : String := "failed"

/-! ### Tables -/

structure TelegramBotRow where
  id : Uuid
  tenant_id : Uuid
  name : String
  username : Option String
  bot_token : String
  proxy_url : Option String
  status : String
  verification_status : String
  last_verified_at : Option Timestamp
  last_error : Option String
deriving DecidableEq

structure TelegramUpdateOffset where
  tenant_id : Uuid
  telegram_bot_id : Uuid
  last_update_id : Int
  locked_at : Option Timestamp
deriving DecidableEq

def TelegramUpdateOffset.key (row : TelegramUpdateOffset) : Uuid × Uuid :=
  (row.tenant_id, row.telegram_bot_id)

def TelegramBotRow.is_bot (tenant_id id : Uuid) (bot : TelegramBotRow) : Bool :=
  bot.id == id && bot.tenant_id == tenant_id

/-- Bots in the order of their creation, and an offset for some. Identifiers are handed out in
order. -/
structure TelegramTables where
  telegram_bots : List TelegramBotRow
  telegram_bot_update_offsets : List TelegramUpdateOffset
  telegram_proxy_url : Uuid → Option String
  next_id : Uuid
  bot_lt : ∀ bot ∈ telegram_bots, bot.id < next_id
  bot_ids : (telegram_bots.map (·.id)).Nodup
  offset_keys : (telegram_bot_update_offsets.map (·.key)).Nodup
  offset_bot : ∀ row ∈ telegram_bot_update_offsets,
    telegram_bots.any (·.is_bot row.tenant_id row.telegram_bot_id) = true

/-! ### Requests -/

structure CreateTelegramBotRequest where
  name : String
  bot_token : String
  status : Option String
  proxy_url : Option String

structure UpdateTelegramBotRequest where
  name : String
  bot_token : Option String
  status : String
  proxy_url : Option (Option String)

def validate_status (status : String) : AppResult Unit :=
  if status = STATUS_ACTIVE ∨ status = STATUS_INACTIVE then .ok ()
  else .error (.Validation "status must be active or inactive")

def validate_verification_status (status : String) : AppResult Unit :=
  if status = VERIFICATION_STATUS_UNVERIFIED ∨ status = VERIFICATION_STATUS_VERIFIED ∨
      status = VERIFICATION_STATUS_FAILED then .ok ()
  else .error (.Validation "verification_status must be unverified, verified, or failed")

/-! ### Statements -/

structure TelegramUpdateOffsetClaim where
  last_update_id : Int
  locked_at : Timestamp
deriving DecidableEq

namespace TelegramTables
variable (t : TelegramTables)

def secret (bot : TelegramBotRow) : TelegramBotSecret :=
  { id := bot.id
    tenant_id := bot.tenant_id
    bot_token := bot.bot_token
    effective_proxy_url := bot.proxy_url.or (t.telegram_proxy_url bot.tenant_id)
    status := bot.status }

/-- `CREATE_TELEGRAM_BOT_QUERY`. -/
def create_telegram_bot (tenant_id : Uuid) (name bot_token status : String)
    (proxy_url : Option String) : TelegramBotRow × TelegramTables :=
  let bot : TelegramBotRow :=
    { id := t.next_id
      tenant_id := tenant_id
      name := name
      username := none
      bot_token := bot_token
      proxy_url := proxy_url
      status := status
      verification_status := VERIFICATION_STATUS_UNVERIFIED
      last_verified_at := none
      last_error := none }
  (bot, { t with
    telegram_bots := t.telegram_bots ++ [bot]
    next_id := t.next_id + 1
    bot_lt := by
      intro b hb
      rcases List.mem_append.mp hb with hold | hnew
      · exact (t.bot_lt b hold).trans (Nat.lt_succ_self _)
      · obtain rfl := List.mem_singleton.mp hnew
        exact Nat.lt_succ_self _
    bot_ids := by
      rw [List.map_append]
      refine t.bot_ids.append (List.nodup_singleton _) fun id hold hnew => ?_
      obtain ⟨b, hb, rfl⟩ := List.mem_map.mp hold
      have hid : b.id = t.next_id := List.mem_singleton.mp hnew
      exact Nat.lt_irrefl _ (hid ▸ t.bot_lt b hb)
    offset_bot := by
      intro row hrow
      rw [List.any_append, t.offset_bot row hrow, Bool.true_or] })

/-- `GET_TELEGRAM_BOT_SECRET_QUERY`. -/
def get_telegram_bot_secret (tenant_id id : Uuid) : Option TelegramBotSecret :=
  (t.telegram_bots.find? (·.is_bot tenant_id id)).map t.secret

/-- `LIST_ACTIVE_VERIFIED_TELEGRAM_BOT_SECRETS_QUERY`. -/
def list_active_verified_telegram_bot_secrets : List TelegramBotSecret :=
  (t.telegram_bots.filter fun bot =>
    bot.status == STATUS_ACTIVE && bot.verification_status == VERIFICATION_STATUS_VERIFIED).map
      t.secret

/-- A change of bots that keeps their keys. -/
def edit_bot (tenant_id id : Uuid) (f : TelegramBotRow → TelegramBotRow)
    (hf : ∀ bot, (f bot).id = bot.id ∧ (f bot).tenant_id = bot.tenant_id) : TelegramTables :=
  { t with
    telegram_bots := Table.update (·.is_bot tenant_id id) f t.telegram_bots
    bot_lt := by
      intro b hb
      obtain ⟨a, ha, rfl⟩ := Table.mem_update.mp hb
      rw [Table.revise_column fun bot => (hf bot).1]
      exact t.bot_lt a ha
    bot_ids := by
      rw [Table.update_column fun bot => (hf bot).1]
      exact t.bot_ids
    offset_bot := by
      intro row hrow
      obtain ⟨bot, hbot, his⟩ := List.any_eq_true.mp (t.offset_bot row hrow)
      refine List.any_eq_true.mpr ⟨_, Table.mem_update.mpr ⟨bot, hbot, rfl⟩, ?_⟩
      have hid := Table.revise_column (p := (·.is_bot tenant_id id)) (fun bot => (hf bot).1) bot
      have htenant := Table.revise_column (p := (·.is_bot tenant_id id)) (fun bot => (hf bot).2)
        bot
      rwa [TelegramBotRow.is_bot, hid, htenant] }

/-- What an update makes of a bot. A new token has yet to be verified. -/
def updated_bot (name : String) (bot_token : Option String) (status : String)
    (proxy_url_was_provided : Bool) (proxy_url : Option String) (bot : TelegramBotRow) :
    TelegramBotRow :=
  { bot with
    name := name
    bot_token := bot_token.getD bot.bot_token
    status := status
    proxy_url := if proxy_url_was_provided then proxy_url else bot.proxy_url
    username := if bot_token.isNone then bot.username else none
    verification_status :=
      if bot_token.isNone then bot.verification_status else VERIFICATION_STATUS_UNVERIFIED
    last_verified_at := if bot_token.isNone then bot.last_verified_at else none
    last_error := if bot_token.isNone then bot.last_error else none }

/-- `UPDATE_TELEGRAM_BOT_QUERY`. -/
def update_telegram_bot (tenant_id id : Uuid) (name : String) (bot_token : Option String)
    (status : String) (proxy_url_was_provided : Bool) (proxy_url : Option String) :
    Option TelegramBotRow × TelegramTables :=
  let update := updated_bot name bot_token status proxy_url_was_provided proxy_url
  ((t.telegram_bots.find? (·.is_bot tenant_id id)).map update,
    t.edit_bot tenant_id id update fun _ => ⟨rfl, rfl⟩)

def marked_bot (status : String) (username last_error : Option String) (verified_at : Timestamp)
    (bot : TelegramBotRow) : TelegramBotRow :=
  { bot with
    verification_status := status
    username := if status = VERIFICATION_STATUS_VERIFIED then username else bot.username
    last_error := last_error
    last_verified_at := some verified_at }

/-- `MARK_TELEGRAM_BOT_VERIFICATION_QUERY`. -/
def mark_telegram_bot_verification (tenant_id id : Uuid) (status : String)
    (username last_error : Option String) (verified_at : Timestamp) :
    Option TelegramBotRow × TelegramTables :=
  let mark := marked_bot status username last_error verified_at
  ((t.telegram_bots.find? (·.is_bot tenant_id id)).map mark,
    t.edit_bot tenant_id id mark fun _ => ⟨rfl, rfl⟩)

/-! ### Offsets -/

def offset (tenant_id telegram_bot_id : Uuid) : Option TelegramUpdateOffset :=
  Table.find TelegramUpdateOffset.key (tenant_id, telegram_bot_id) t.telegram_bot_update_offsets

def has_bot (tenant_id id : Uuid) : Bool :=
  t.telegram_bots.any (·.is_bot tenant_id id)

def put_offset (row : TelegramUpdateOffset)
    (h : t.has_bot row.tenant_id row.telegram_bot_id = true) : TelegramTables :=
  { t with
    telegram_bot_update_offsets :=
      Table.put TelegramUpdateOffset.key row t.telegram_bot_update_offsets
    offset_keys := Table.put_nodup t.offset_keys
    offset_bot := by
      intro a ha
      rcases Table.mem_put.mp ha with rfl | ⟨hold, _⟩
      · exact h
      · exact t.offset_bot a hold }

/-- A stored offset has its bot. -/
theorem has_bot_of_offset {tenant_id telegram_bot_id : Uuid} (row : TelegramUpdateOffset)
    (h : t.offset tenant_id telegram_bot_id = some row) :
    t.has_bot row.tenant_id row.telegram_bot_id = true :=
  t.offset_bot row (Table.find_mem h)

/-- An offset belongs to a bot of its tenant. -/
def insert_offset (row : TelegramUpdateOffset) : AppResult TelegramTables :=
  if h : t.has_bot row.tenant_id row.telegram_bot_id = true then .ok (t.put_offset row h)
  else .error (.Database "telegram_bot_update_offsets_bot_tenant_fk")

/-- `GET_TELEGRAM_UPDATE_OFFSET_QUERY`. -/
def get_telegram_update_offset (tenant_id telegram_bot_id : Uuid) : Int :=
  ((t.offset tenant_id telegram_bot_id).map (·.last_update_id)).getD 0

/-- `CLAIM_TELEGRAM_UPDATE_OFFSET_QUERY`. -/
def claim_telegram_update_offset (tenant_id telegram_bot_id : Uuid)
    (locked_at stale_before : Timestamp) :
    AppResult (Option TelegramUpdateOffsetClaim × TelegramTables) :=
  match h : t.offset tenant_id telegram_bot_id with
  | none => (t.insert_offset ⟨tenant_id, telegram_bot_id, 0, some locked_at⟩).map
      fun tables => (some ⟨0, locked_at⟩, tables)
  | some row =>
    if row.locked_at.all (· < stale_before) then
      .ok (some ⟨row.last_update_id, locked_at⟩,
        t.put_offset { row with locked_at := some locked_at } (t.has_bot_of_offset row h))
    else .ok (none, t)

/-- `UPSERT_TELEGRAM_UPDATE_OFFSET_QUERY`. -/
def upsert_telegram_update_offset (tenant_id telegram_bot_id : Uuid) (update_id : Int) :
    AppResult TelegramTables :=
  match h : t.offset tenant_id telegram_bot_id with
  | none => t.insert_offset ⟨tenant_id, telegram_bot_id, update_id, none⟩
  | some row =>
    .ok (t.put_offset { row with last_update_id := max row.last_update_id update_id }
      (t.has_bot_of_offset row h))

/-- `RELEASE_TELEGRAM_UPDATE_OFFSET_LOCK_QUERY`. -/
def release_telegram_update_offset_lock (tenant_id telegram_bot_id : Uuid) (locked_at : Timestamp) :
    TelegramTables :=
  match h : t.offset tenant_id telegram_bot_id with
  | none => t
  | some row =>
    if row.locked_at = some locked_at then
      t.put_offset { row with locked_at := none } (t.has_bot_of_offset row h)
    else t

end TelegramTables

/-- The statements about bots and offsets. The token that a poller works with and the one that was
verified are not part of the statements. -/
inductive TelegramQuery where
  | create_telegram_bot (tenant_id : Uuid) (name bot_token status : String)
      (proxy_url : Option String)
  | get_telegram_bot_secret (tenant_id id : Uuid)
  | list_active_verified_telegram_bot_secrets
  | update_telegram_bot (tenant_id id : Uuid) (name : String) (bot_token : Option String)
      (status : String) (proxy_url_was_provided : Bool) (proxy_url : Option String)
  | mark_telegram_bot_verification (tenant_id id : Uuid) (status : String)
      (username last_error : Option String) (verified_at : Timestamp) (verified_token : String)
  | claim_telegram_update_offset (tenant_id telegram_bot_id : Uuid)
      (locked_at stale_before : Timestamp)
  | upsert_telegram_update_offset (tenant_id telegram_bot_id : Uuid) (update_id : Int)
      (polled_token : String)
  | release_telegram_update_offset_lock (tenant_id telegram_bot_id : Uuid) (locked_at : Timestamp)

abbrev TelegramQuery.Answer : TelegramQuery → Type
  | .create_telegram_bot .. => TelegramBotRow
  | .get_telegram_bot_secret .. => Option TelegramBotSecret
  | .list_active_verified_telegram_bot_secrets => List TelegramBotSecret
  | .update_telegram_bot .. => Option TelegramBotRow
  | .mark_telegram_bot_verification .. => Option TelegramBotRow
  | .claim_telegram_update_offset .. => Option TelegramUpdateOffsetClaim
  | .upsert_telegram_update_offset .. => Unit
  | .release_telegram_update_offset_lock .. => Unit

/-- The statement carried out. One that fails changes nothing. -/
def TelegramQuery.run (t : TelegramTables) :
    (q : TelegramQuery) → AppResult q.Answer × TelegramTables
  | .create_telegram_bot tenant_id name bot_token status proxy_url =>
    (.ok (t.create_telegram_bot tenant_id name bot_token status proxy_url).1,
      (t.create_telegram_bot tenant_id name bot_token status proxy_url).2)
  | .get_telegram_bot_secret tenant_id id => (.ok (t.get_telegram_bot_secret tenant_id id), t)
  | .list_active_verified_telegram_bot_secrets =>
    (.ok t.list_active_verified_telegram_bot_secrets, t)
  | .update_telegram_bot tenant_id id name bot_token status proxy_url_was_provided proxy_url =>
    let updated := t.update_telegram_bot tenant_id id name bot_token status proxy_url_was_provided
      proxy_url
    (.ok updated.1, updated.2)
  | .mark_telegram_bot_verification tenant_id id status username last_error verified_at _ =>
    let marked := t.mark_telegram_bot_verification tenant_id id status username last_error
      verified_at
    (.ok marked.1, marked.2)
  | .claim_telegram_update_offset tenant_id telegram_bot_id locked_at stale_before =>
    match t.claim_telegram_update_offset tenant_id telegram_bot_id locked_at stale_before with
    | .ok (claim, tables) => (.ok claim, tables)
    | .error error => (.error error, t)
  | .upsert_telegram_update_offset tenant_id telegram_bot_id update_id _ =>
    match t.upsert_telegram_update_offset tenant_id telegram_bot_id update_id with
    | .ok tables => (.ok (), tables)
    | .error error => (.error error, t)
  | .release_telegram_update_offset_lock tenant_id telegram_bot_id locked_at =>
    (.ok (), t.release_telegram_update_offset_lock tenant_id telegram_bot_id locked_at)

namespace TelegramTables

/-- No bot yet. -/
def empty (telegram_proxy_url : Uuid → Option String) : TelegramTables where
  telegram_bots := []
  telegram_bot_update_offsets := []
  telegram_proxy_url := telegram_proxy_url
  next_id := 0
  bot_lt _ h := absurd h List.not_mem_nil
  bot_ids := List.nodup_nil
  offset_keys := List.nodup_nil
  offset_bot _ h := absurd h List.not_mem_nil

section Put
variable {t : TelegramTables} {tenant_id telegram_bot_id : Uuid} {row : TelegramUpdateOffset}
  {hbot : t.has_bot row.tenant_id row.telegram_bot_id = true}

theorem get_put_self :
    (t.put_offset row hbot).get_telegram_update_offset row.tenant_id row.telegram_bot_id =
      row.last_update_id := by
  have hput : (t.put_offset row hbot).offset row.tenant_id row.telegram_bot_id = some row :=
    Table.find_put_self row t.telegram_bot_update_offsets
  rw [get_telegram_update_offset, hput]
  rfl

theorem get_put_of_ne (h : (tenant_id, telegram_bot_id) ≠ row.key) :
    (t.put_offset row hbot).get_telegram_update_offset tenant_id telegram_bot_id =
      t.get_telegram_update_offset tenant_id telegram_bot_id := by
  have hput : (t.put_offset row hbot).offset tenant_id telegram_bot_id =
      t.offset tenant_id telegram_bot_id := Table.find_put_of_ne h
  rw [get_telegram_update_offset, hput]
  rfl

/-- A row put where its identifier was stored already. -/
theorem get_put_same (hrow : row.last_update_id =
      t.get_telegram_update_offset row.tenant_id row.telegram_bot_id) (tenant_id bot_id : Uuid) :
    (t.put_offset row hbot).get_telegram_update_offset tenant_id bot_id =
      t.get_telegram_update_offset tenant_id bot_id := by
  by_cases hkey : (tenant_id, bot_id) = row.key
  · obtain ⟨rfl, rfl⟩ := Prod.mk.inj hkey
    exact get_put_self.trans hrow
  · exact get_put_of_ne hkey

end Put

variable {t u : TelegramTables} {tenant_id telegram_bot_id : Uuid} {row : TelegramUpdateOffset}

theorem offset_key (h : t.offset tenant_id telegram_bot_id = some row) :
    row.tenant_id = tenant_id ∧ row.telegram_bot_id = telegram_bot_id := by
  have hkey : row.key = (tenant_id, telegram_bot_id) := Table.find_key h
  exact Prod.mk.inj hkey

theorem get_of_offset (h : t.offset tenant_id telegram_bot_id = some row) :
    t.get_telegram_update_offset tenant_id telegram_bot_id = row.last_update_id := by
  rw [get_telegram_update_offset, h]
  rfl

theorem get_of_none (h : t.offset tenant_id telegram_bot_id = none) :
    t.get_telegram_update_offset tenant_id telegram_bot_id = 0 := by
  rw [get_telegram_update_offset, h]
  rfl

theorem insert_offset_eq (h : t.insert_offset row = .ok u) :
    ∃ hbot, u = t.put_offset row hbot := by
  unfold insert_offset at h
  split at h
  · next hbot => exact ⟨hbot, (Except.ok.inj h).symm⟩
  · exact nomatch h

/-- A claim leaves every stored identifier as it is. -/
theorem claim_offset {locked_at stale_before : Timestamp}
    {claim : Option TelegramUpdateOffsetClaim}
    (h : t.claim_telegram_update_offset tenant_id telegram_bot_id locked_at stale_before =
      .ok (claim, u)) :
    u.telegram_bots = t.telegram_bots ∧
      (∀ tenant bot_id, u.get_telegram_update_offset tenant bot_id =
        t.get_telegram_update_offset tenant bot_id) ∧
      ∀ c, claim = some c →
        c.last_update_id = t.get_telegram_update_offset tenant_id telegram_bot_id := by
  unfold claim_telegram_update_offset at h
  split at h
  · next hnone =>
    cases hinsert : t.insert_offset ⟨tenant_id, telegram_bot_id, 0, some locked_at⟩ with
    | error e =>
      rw [hinsert] at h
      exact nomatch h
    | ok tables =>
      rw [hinsert] at h
      obtain ⟨rfl, rfl⟩ := Prod.mk.inj (Except.ok.inj h)
      obtain ⟨hbot, rfl⟩ := insert_offset_eq hinsert
      refine ⟨rfl, get_put_same (get_of_none hnone).symm, fun c hc => ?_⟩
      obtain rfl := Option.some.inj hc
      exact (get_of_none hnone).symm
  · next row hrow =>
    obtain ⟨rfl, rfl⟩ := offset_key hrow
    split at h
    · obtain ⟨rfl, rfl⟩ := Prod.mk.inj (Except.ok.inj h)
      refine ⟨rfl, get_put_same (get_of_offset hrow).symm, fun c hc => ?_⟩
      obtain rfl := Option.some.inj hc
      exact (get_of_offset hrow).symm
    · obtain ⟨rfl, rfl⟩ := Prod.mk.inj (Except.ok.inj h)
      exact ⟨rfl, fun _ _ => rfl, nofun⟩

theorem release_offset (locked_at : Timestamp) :
    (t.release_telegram_update_offset_lock tenant_id telegram_bot_id locked_at).telegram_bots =
        t.telegram_bots ∧
      ∀ tenant bot_id, (t.release_telegram_update_offset_lock tenant_id telegram_bot_id
        locked_at).get_telegram_update_offset tenant bot_id =
          t.get_telegram_update_offset tenant bot_id := by
  unfold release_telegram_update_offset_lock
  split
  · exact ⟨rfl, fun _ _ => rfl⟩
  · next row hrow =>
    obtain ⟨rfl, rfl⟩ := offset_key hrow
    split
    · exact ⟨rfl, get_put_same (get_of_offset hrow).symm⟩
    · exact ⟨rfl, fun _ _ => rfl⟩

/-- An upsert never lowers the stored identifier. -/
theorem upsert_offset {update_id : Int} (hpos : 0 < update_id)
    (h : t.upsert_telegram_update_offset tenant_id telegram_bot_id update_id = .ok u) :
    u.telegram_bots = t.telegram_bots ∧
      u.get_telegram_update_offset tenant_id telegram_bot_id =
        max (t.get_telegram_update_offset tenant_id telegram_bot_id) update_id ∧
      ∀ tenant bot_id, (tenant, bot_id) ≠ (tenant_id, telegram_bot_id) →
        u.get_telegram_update_offset tenant bot_id =
          t.get_telegram_update_offset tenant bot_id := by
  unfold upsert_telegram_update_offset at h
  split at h
  · next hnone =>
    obtain ⟨hbot, rfl⟩ := insert_offset_eq h
    refine ⟨rfl, ?_, fun _ _ hne => get_put_of_ne hne⟩
    rw [get_of_none hnone, Int.max_eq_right hpos.le]
    exact get_put_self
  · next row hrow =>
    obtain ⟨rfl, rfl⟩ := offset_key hrow
    obtain rfl := Except.ok.inj h
    refine ⟨rfl, ?_, fun _ _ hne => get_put_of_ne hne⟩
    rw [get_of_offset hrow]
    exact get_put_self

/-- An identifier for which there is no bot yet. -/
theorem get_of_new (tenant_id : Uuid) : t.get_telegram_update_offset tenant_id t.next_id = 0 := by
  refine get_of_none ?_
  cases h : t.offset tenant_id t.next_id with
  | none => rfl
  | some row =>
    obtain ⟨bot, hbot, his⟩ := List.any_eq_true.mp (t.has_bot_of_offset row h)
    have hid : bot.id = row.telegram_bot_id := by
      simp only [TelegramBotRow.is_bot, Bool.and_eq_true, beq_iff_eq] at his
      exact his.1
    rw [(offset_key h).2] at hid
    exact absurd (t.bot_lt bot hbot) (hid ▸ Nat.lt_irrefl _)

theorem run_claim (t : TelegramTables) (tenant_id id : Uuid) (locked_at stale_before : Timestamp) :
    (TelegramQuery.claim_telegram_update_offset tenant_id id locked_at stale_before).run t =
      match t.claim_telegram_update_offset tenant_id id locked_at stale_before with
      | .ok (claim, tables) => (.ok claim, tables)
      | .error error => (.error error, t) :=
  rfl

theorem run_upsert (t : TelegramTables) (tenant_id id : Uuid) (update_id : Int)
    (polled_token : String) :
    (TelegramQuery.upsert_telegram_update_offset tenant_id id update_id polled_token).run t =
      match t.upsert_telegram_update_offset tenant_id id update_id with
      | .ok tables => (.ok (), tables)
      | .error error => (.error error, t) :=
  rfl

/-- Only an upsert changes a stored identifier. -/
theorem run_offset (t : TelegramTables) (q : TelegramQuery) :
    (∃ tenant_id id update_id polled_token,
      q = .upsert_telegram_update_offset tenant_id id update_id polled_token ∧
      t.upsert_telegram_update_offset tenant_id id update_id = .ok (q.run t).2) ∨
    ∀ tenant_id id, (q.run t).2.get_telegram_update_offset tenant_id id =
      t.get_telegram_update_offset tenant_id id := by
  cases q with
  | create_telegram_bot => exact .inr fun _ _ => rfl
  | get_telegram_bot_secret => exact .inr fun _ _ => rfl
  | list_active_verified_telegram_bot_secrets => exact .inr fun _ _ => rfl
  | update_telegram_bot => exact .inr fun _ _ => rfl
  | mark_telegram_bot_verification => exact .inr fun _ _ => rfl
  | claim_telegram_update_offset tenant_id id locked_at stale_before =>
    right
    rw [run_claim]
    cases h : t.claim_telegram_update_offset tenant_id id locked_at stale_before with
    | error e => exact fun _ _ => rfl
    | ok claimed => exact (claim_offset h).2.1
  | upsert_telegram_update_offset tenant_id id update_id polled_token =>
    cases h : t.upsert_telegram_update_offset tenant_id id update_id with
    | error e =>
      right
      rw [run_upsert, h]
      exact fun _ _ => rfl
    | ok tables =>
      refine .inl ⟨tenant_id, id, update_id, polled_token, rfl, ?_⟩
      rw [run_upsert, h]
  | release_telegram_update_offset_lock tenant_id id locked_at =>
    exact .inr (release_offset locked_at).2

/-- Offsets are stored without a change of the bots. -/
theorem run_offset_bots (t : TelegramTables) {q : TelegramQuery}
    (h : match q with
      | .claim_telegram_update_offset .. => True
      | .upsert_telegram_update_offset .. => True
      | .release_telegram_update_offset_lock .. => True
      | _ => False) : (q.run t).2.telegram_bots = t.telegram_bots := by
  cases q with
  | claim_telegram_update_offset tenant_id id locked_at stale_before =>
    rw [run_claim]
    cases h : t.claim_telegram_update_offset tenant_id id locked_at stale_before with
    | error e => rfl
    | ok claimed => exact (claim_offset h).1
  | upsert_telegram_update_offset tenant_id id update_id polled_token =>
    rw [run_upsert]
    cases h : t.upsert_telegram_update_offset tenant_id id update_id with
    | error e => rfl
    | ok tables =>
      unfold upsert_telegram_update_offset at h
      split at h
      · obtain ⟨hbot, rfl⟩ := insert_offset_eq h
        rfl
      · obtain rfl := Except.ok.inj h
        rfl
  | release_telegram_update_offset_lock tenant_id id locked_at =>
    exact (release_offset locked_at).1
  | _ => exact h.elim

end TelegramTables

end CoinListener.Storage
