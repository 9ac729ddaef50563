import CoinListener.Foundation.Given
import CoinListener.Notifier.UpdateOffsets
import CoinListener.Worker.NextStart

/-! Where the next poll starts, up to the end of the 64-bit range. -/
namespace CoinListener.Notifier
open Foundation Storage

/-! ### The address of a request -/

section Url
variable {Client : Type} (sender : ExternalNotificationSender Client) (bot_token : String)

def get_updates_url (offset : Int) : String :=
  telegram_bot_method_url sender bot_token "getUpdates" ++ "?offset=" ++ toString offset ++
    "&timeout=0"

def telegram_get_updates_url (last_update_id : Int) : String :=
  get_updates_url sender bot_token (wrap_i64 (last_update_id + 1))

/-- Nothing is returned where the sum overflows. -/
def Checked.telegram_get_updates_url (last_update_id : Int) : Option String :=
  (checked_i64 (last_update_id + 1)).map (get_updates_url sender bot_token)

theorem urls_fit {last_update_id : Int} (h : HasNext last_update_id) :
    Checked.telegram_get_updates_url sender bot_token last_update_id =
      some (telegram_get_updates_url sender bot_token last_update_id) := by
  rw [Checked.telegram_get_updates_url, checked_next h]
  rfl

end Url

/-! ### Pollers and what Telegram answers -/

/-- What may become of a statement: Telegram may answer with any updates that satisfy a condition,
and with any outcome. -/
inductive PollCarried (C : TelegramUpdate → Prop) (s : TelegramWorld) :
    (op : BotStatement) → AppResult op.Answer → TelegramWorld → Prop where
  | db {q r t} (h : Fate AppError.Database s (s.query q) r t) : PollCarried C s (.db q) r t
  | updates {bot_token last_update_id proxy_url} (updates : List TelegramUpdate)
      (htyped : ∀ update ∈ updates, IsI64 update.update_id) (h : ∀ update ∈ updates, C update) :
      PollCarried C s (.get_telegram_updates bot_token last_update_id proxy_url)
        (.ok (.ok updates)) s
  | no_updates {bot_token last_update_id proxy_url} (outcome : ExternalSendOutcome) :
      PollCarried C s (.get_telegram_updates bot_token last_update_id proxy_url)
        (.ok (.error outcome)) s
  | now (now : Timestamp) : PollCarried C s .now (.ok now) s
  | processed {telegram_bot_id bot_token proxy_url update now r t} (h : t.tables = s.tables) :
      PollCarried C s
        (.process_telegram_binding_update telegram_bot_id bot_token proxy_url update now) r t
  | verified {bot_token proxy_url t} (outcome : ExternalSendOutcome) (h : t.tables = s.tables) :
      PollCarried C s (.verify_telegram_bot bot_token proxy_url) (.ok outcome) t

/-- Others write no offsets. -/
def PollOthers (s t : TelegramWorld) : Prop :=
  ∀ tenant_id id, t.tables.get_telegram_update_offset tenant_id id =
    s.tables.get_telegram_update_offset tenant_id id

abbrev PollStep {W : Type} [DecidableEq W] (limits : Json.Limits) (C : TelegramUpdate → Prop) :
    TelegramWorld × (W → BotProg Unit) → TelegramWorld × (W → BotProg Unit) → Prop :=
  Prog.Crew (fun _ => PollCarried C) PollOthers (BotLaunch limits)

/-- The identifier is not the last 64-bit integer. -/
def NotLast (update : TelegramUpdate) : Prop :=
  update.update_id ≠ 9223372036854775807

def UpdatesNext : (op : BotStatement) → op.Answer → Prop
  | .get_telegram_updates .., .ok updates => ∀ update ∈ updates, HasNext update.update_id
  | _, _ => True

/-- An offset is only taken to an identifier that has a next one. -/
def StoresNext : BotStatement → Prop
  | .db (.upsert_telegram_update_offset _ _ update_id _) => HasNext update_id
  | _ => True

section Programs
open Prog
variable {limits : Json.Limits} {bot : TelegramBotSecret}

theorem StoresNothing.next {op : BotStatement} (h : op.StoresNothing) : StoresNext op := by
  cases op with
  | db q =>
    cases q with
    | upsert_telegram_update_offset => exact h.elim
    | _ => trivial
  | _ => trivial

theorem poll_updates_next {updates : List TelegramUpdate}
    (h : ∀ update ∈ updates, HasNext update.update_id) :
    (poll_updates bot updates).Only StoresNext := by
  induction updates with
  | nil => exact Only.done
  | cons update updates ih =>
    refine Only.bind (Only.perform trivial) fun now => Only.bind (Only.perform trivial) fun _ => ?_
    refine Only.bind (Only.perform (h update (List.mem_cons_self ..))) fun _ => ?_
    exact ih fun a ha => h a (List.mem_cons_of_mem _ ha)

theorem poll_bot_next : (poll_bot bot).Given UpdatesNext StoresNext fun _ => True := by
  refine Given.bind_only (Only.perform trivial) fun locked_at => ?_
  refine Given.bind_only (Only.perform trivial) fun claimed => ?_
  cases claimed with
  | none => exact Given.done trivial
  | some offset_claim =>
    refine Given.bind (Given.perform trivial) fun answer hanswer => ?_
    cases answer with
    | error outcome => exact Given.of_only (Only.perform trivial)
    | ok updates =>
      exact Given.bind_only (poll_updates_next hanswer) fun _ => Given.of_only (Only.perform trivial)

theorem poll_bots_next (bots : List TelegramBotSecret) :
    (poll_bots bots).Given UpdatesNext StoresNext fun _ => True := by
  induction bots with
  | nil => exact Given.done trivial
  | cons bot bots ih => exact Given.bind poll_bot_next fun _ _ => ih

theorem call_next (call : BotCall) :
    (call.program limits).Given UpdatesNext StoresNext fun _ => True := by
  have honly : ∀ {α : Type} {p : BotProg α}, p.Only BotStatement.StoresNothing →
      (p.bind fun _ => .done ()).Given UpdatesNext StoresNext fun _ => True :=
    fun h => Given.bind_only (h.mono fun _ => StoresNothing.next) fun _ => Given.done trivial
  cases call with
  | create tenant_id request => exact honly (create_stores_nothing tenant_id request)
  | update tenant_id id request => exact honly (update_stores_nothing tenant_id id request)
  | verify tenant_id id => exact honly (verify_stores_nothing tenant_id id)
  | poll => exact Given.bind_only (Only.perform trivial) fun bots => poll_bots_next bots

end Programs

/-- Every stored identifier has a next one. -/
def OffsetsNext (s : TelegramWorld) : Prop :=
  ∀ tenant_id id, HasNext (s.tables.get_telegram_update_offset tenant_id id)

section Run
variable {limits : Json.Limits} {s t : TelegramWorld}

theorem upsert_offset_next {t u : TelegramTables} {tenant_id id : Uuid} {update_id : Int}
    (h : t.upsert_telegram_update_offset tenant_id id update_id = .ok u)
    (ht : ∀ tenant_id id, HasNext (t.get_telegram_update_offset tenant_id id))
    (hupdate : HasNext update_id) (tenant bot_id : Uuid) :
    HasNext (u.get_telegram_update_offset tenant bot_id) := by
  have hput : ∀ (row : TelegramUpdateOffset) (hbot : t.has_bot row.tenant_id row.telegram_bot_id = true),
      HasNext row.last_update_id →
        HasNext ((t.put_offset row hbot).get_telegram_update_offset tenant bot_id) := by
    intro row hbot hrow
    by_cases hkey : (tenant, bot_id) = (row.tenant_id, row.telegram_bot_id)
    · obtain ⟨rfl, rfl⟩ := Prod.mk.inj hkey
      rwa [TelegramTables.get_put_self]
    · rw [TelegramTables.get_put_of_ne hkey]
      exact ht tenant bot_id
  unfold TelegramTables.upsert_telegram_update_offset at h
  split at h
  · obtain ⟨hbot, rfl⟩ := TelegramTables.insert_offset_eq h
    exact hput _ hbot hupdate
  · next row hrow =>
    obtain rfl := Except.ok.inj h
    have hstored := ht tenant_id id
    rw [TelegramTables.get_of_offset hrow] at hstored
    exact hput _ _ (has_next_max hstored hupdate)

theorem OffsetsNext.query (h : OffsetsNext s) {q : TelegramQuery} (hq : StoresNext (.db q)) :
    OffsetsNext (s.query q).2 := by
  rcases s.tables.run_offset q with ⟨tenant_id, id, update_id, polled_token, rfl, hok⟩ | hsame
  · exact upsert_offset_next hok h hq
  · intro tenant_id id
    rw [TelegramWorld.query, hsame]
    exact h tenant_id id

theorem OffsetsNext.carried (h : OffsetsNext s) {op : BotStatement} {r : AppResult op.Answer}
    (hop : StoresNext op) (hcarried : PollCarried NotLast s op r t) :
    OffsetsNext t ∧ ∀ a, r = .ok a → UpdatesNext op a := by
  cases hcarried with
  | db hfate =>
    refine ⟨?_, fun a _ => trivial⟩
    rcases hfate.state with rfl | rfl
    · exact h
    · exact h.query hop
  | updates updates htyped hlast =>
    refine ⟨h, fun a ha => ?_⟩
    obtain rfl := Except.ok.inj ha
    intro update hupdate
    obtain ⟨_, _⟩ := htyped update hupdate
    have hne : update.update_id ≠ 9223372036854775807 := hlast update hupdate
    constructor <;> omega
  | no_updates outcome =>
    refine ⟨h, fun a ha => ?_⟩
    obtain rfl := Except.ok.inj ha
    trivial
  | now => exact ⟨h, fun _ _ => trivial⟩
  | processed hsame =>
    refine ⟨fun tenant_id id => ?_, fun _ _ => trivial⟩
    rw [hsame]
    exact h tenant_id id
  | verified outcome hsame =>
    refine ⟨fun tenant_id id => ?_, fun _ _ => trivial⟩
    rw [hsame]
    exact h tenant_id id

/-- The induction over a run. -/
theorem offsets_next_run {W : Type} [DecidableEq W] {telegram_proxy_url : Uuid → Option String}
    {d : TelegramWorld × (W → BotProg Unit)}
    (hrun : Relation.ReflTransGen (PollStep limits NotLast) (telegram_start telegram_proxy_url) d) :
    OffsetsNext d.1 := by
  have hgiven : OffsetsNext d.1 ∧ ∀ w, (d.2 w).Given UpdatesNext StoresNext fun _ => True := by
    refine @Prog.Crew.given_run _ _ _ _ _ W Unit _ _ _ _ OffsetsNext StoresNext
      (fun _ _ => ()) (fun _ => UpdatesNext) (fun _ => True)
      (fun h hl => ?_) (fun h hop hcarried => ?_) (fun h he => ⟨fun tenant_id id => ?_, rfl⟩) _ _
      ⟨fun tenant_id id => ?_, fun w => Prog.Given.done trivial⟩ hrun
    · obtain ⟨rfl, call, rfl⟩ := hl
      exact ⟨h, fun _ _ => rfl, call_next call⟩
    · obtain ⟨hnext, hanswer⟩ := h.carried hop hcarried
      exact ⟨hnext, rfl, hanswer⟩
    · rw [he]
      exact h tenant_id id
    · exact show IsI64 (0 + 1) by decide
  exact hgiven.1

end Run

/-! ### An update with a given identifier -/

section Update
variable (update_id : Int)

/-- A verified bot that has received the update. -/
def update_received : TelegramWorld :=
  let s := (telegram_start (W := Unit) fun _ => none).1
  let s := (BotCall.create 1 ops_bot).round .free accepted_bot s
  let s := (BotCall.verify 1 0).round .free accepted_bot s
  s.receive "111:AAA" (text_update update_id)

/-- A poller has processed it. -/
def update_polled : TelegramWorld :=
  BotCall.poll.round .free accepted_bot (update_received update_id)

/-- The calls up to there, each with the world it starts in. -/
def update_calls : List (BotCall × TelegramWorld) :=
  let s := (telegram_start (W := Unit) fun _ => none).1
  [(.create 1 ops_bot, s), (.verify 1 0, (BotCall.create 1 ops_bot).round .free accepted_bot s),
    (.poll, update_received update_id)]

/-- Only this update is received. -/
def only_update (s : TelegramWorld) : BotStatement → Bool
  | .get_telegram_updates bot_token .. => (s.updates bot_token).all (·.update_id == update_id)
  | _ => true

variable {C : TelegramUpdate → Prop}

theorem round_run (htyped : IsI64 update_id) (hC : ∀ update : TelegramUpdate,
    update.update_id = update_id → C update) (call : BotCall) (s : TelegramWorld)
    (ps : Unit → BotProg Unit)
    (hpass : Prog.along (TelegramWorld.alone .free accepted_bot) (only_update update_id)
      (call.program .free) s = true) :
    ∃ qs, Relation.ReflTransGen (PollStep .free C) (s, ps)
      (call.round .free accepted_bot s, qs) := by
  have hstep : ∀ s op, only_update update_id s op = true → PollCarried C s op
      (s.alone .free accepted_bot op).1 (s.alone .free accepted_bot op).2 := by
    intro s op hop
    cases op with
    | db q => exact .db .answered
    | now => exact .now 0
    | get_telegram_updates bot_token last_update_id proxy_url =>
      have hid : ∀ update ∈ (s.updates bot_token).filter (last_update_id + 1 ≤ ·.update_id),
          update.update_id = update_id := by
        intro update hupdate
        have hall := List.all_eq_true.mp hop update (List.mem_filter.mp hupdate).1
        exact beq_iff_eq.mp hall
      exact .updates _ (fun update hupdate => (hid update hupdate).symm ▸ htyped)
        fun update hupdate => hC update (hid update hupdate)
    | process_telegram_binding_update => exact .processed rfl
    | verify_telegram_bot bot_token proxy_url =>
      refine .verified accepted_bot ?_
      unfold TelegramWorld.alone
      split <;> rfl
  have hround : ∃ qs, Relation.ReflTransGen (PollStep .free C)
      (s, Function.update ps () (call.program .free)) (call.round .free accepted_bot s, qs) :=
    (Prog.Crew.of_eval (H := fun _ => PollCarried C) hstep s hpass _ (Function.update_self ..)).imp
      fun _ h => h.1
  obtain ⟨qs, hqs⟩ := hround
  exact ⟨qs, .head (.launch () ⟨rfl, call, rfl⟩) hqs⟩

theorem update_run (htyped : IsI64 update_id)
    (hC : ∀ update : TelegramUpdate, update.update_id = update_id → C update)
    (hpass : (update_calls update_id).all (fun x => Prog.along (TelegramWorld.alone .free accepted_bot)
      (only_update update_id) (x.1.program .free) x.2) = true) :
    ∃ qs, Relation.ReflTransGen (PollStep .free C) (telegram_start (W := Unit) fun _ => none)
      (update_polled update_id, qs) := by
  obtain ⟨hcreate, hverify, hpoll, _⟩ : _ ∧ _ ∧ _ ∧ _ := by
    simpa only [update_calls, List.all_cons, Bool.and_eq_true] using hpass
  obtain ⟨ps, hcreate⟩ := round_run update_id htyped hC _ _ (fun _ => .done ()) hcreate
  obtain ⟨qs, hverify⟩ := round_run update_id htyped hC _ _ ps hverify
  have hreceived : Relation.ReflTransGen (PollStep .free C)
      (telegram_start (W := Unit) fun _ => none) (update_received update_id, qs) :=
    (hcreate.trans hverify).tail (.others fun _ _ => rfl)
  obtain ⟨rs, hpoll⟩ := round_run update_id htyped hC _ _ qs hpoll
  exact ⟨rs, hreceived.trans hpoll⟩

end Update

/-! ### Both at once -/

/-- Where no reply holds the last 64-bit integer, the start of every next scan and of every next poll
is exact. -/
theorem next_starts_fit (W : Type) [DecidableEq W] :
    (∀ c d : Worker.ScanWorld W × (W → Worker.Scan (List AddressEvent)), Worker.ScanStart c →
      Relation.ReflTransGen (Worker.ScanStep Worker.BelowLast) c d →
        ∀ address_id cursor_type, Worker.StartsFit (d.1.db.scan_cursor address_id cursor_type)) ∧
    ∀ (limits : Json.Limits) (telegram_proxy_url : Uuid → Option String)
      (d : TelegramWorld × (W → BotProg Unit)),
      Relation.ReflTransGen (PollStep limits NotLast) (telegram_start telegram_proxy_url) d →
        ∀ tenant_id id, ∀ {Client : Type} (sender : ExternalNotificationSender Client) bot_token,
          Checked.telegram_get_updates_url sender bot_token
              (d.1.tables.get_telegram_update_offset tenant_id id) =
            some (telegram_get_updates_url sender bot_token
              (d.1.tables.get_telegram_update_offset tenant_id id)) :=
  ⟨fun _ _ => Worker.stored_starts_fit,
    fun _ _ _ hrun tenant_id id _ sender bot_token =>
      urls_fit sender bot_token (offsets_next_run hrun tenant_id id)⟩

/-- A payment at a time, and an update, below the last integer. -/
theorem next_starts_fit_below :
    Worker.StartsFit ((Worker.payment_scanned 1000).db.scan_cursor 1
        Worker.TRON_TRX_TRANSFER_CURSOR) ∧
      (update_polled 100).tables.get_telegram_update_offset 1 0 = 100 ∧
      ∀ (sender : ExternalNotificationSender Unit) bot_token,
        Checked.telegram_get_updates_url sender bot_token
            ((update_polled 100).tables.get_telegram_update_offset 1 0) =
          some (telegram_get_updates_url sender bot_token
            ((update_polled 100).tables.get_telegram_update_offset 1 0)) := by
  have hpage : ∀ chains context address min_timestamp fingerprint,
      Worker.BelowLast chains context (.tron_transactions address min_timestamp fingerprint)
        (Worker.payment_page 1000) := by
    intro chains context address min_timestamp fingerprint item hitem decimals n t hdecode
    obtain ⟨p, _, _, _, _, rfl, _, _, _, _, _, _, _, htimestamp, _⟩ :=
      Providers.Tron.try_decode_trx_ok hdecode
    obtain rfl := Except.ok.inj (List.mem_singleton.mp hitem)
    rw [← htimestamp]
    decide
  obtain ⟨c, d, hstart, hrun, hd⟩ := Worker.payment_run 1000 (by decide) hpage
  have hlast : ∀ update : TelegramUpdate, update.update_id = 100 → NotLast update := by
    intro update hid
    rw [NotLast, hid]
    decide
  obtain ⟨qs, hqs⟩ := update_run 100 (by decide) hlast (by decide +kernel)
  refine ⟨hd ▸ (next_starts_fit Unit).1 c d hstart hrun 1 _, by decide +kernel,
    fun sender bot_token => ?_⟩
  exact (next_starts_fit Unit).2 _ _ _ hqs 1 0 sender bot_token

/-- A payment at the last time and the last identifier are stored; from there on the starts
overflow, or wrap to the first integer. -/
theorem last_value_overflows :
    (∃ c d : Worker.ScanWorld Unit × (Unit → Worker.Scan (List AddressEvent)),
      Worker.ScanStart c ∧ Relation.ReflTransGen (Worker.ScanStep fun _ _ _ _ => True) c d ∧
        Worker.Checked.next_after (d.1.db.scan_cursor 1 Worker.TRON_TRX_TRANSFER_CURSOR) = none ∧
        Worker.next_after (d.1.db.scan_cursor 1 Worker.TRON_TRX_TRANSFER_CURSOR) =
          -9223372036854775808) ∧
    ∃ d : TelegramWorld × (Unit → BotProg Unit),
      Relation.ReflTransGen (PollStep .free fun _ => True) (telegram_start fun _ => none) d ∧
        ∀ (sender : ExternalNotificationSender Unit) bot_token,
          Checked.telegram_get_updates_url sender bot_token
            (d.1.tables.get_telegram_update_offset 1 0) = none := by
  constructor
  · obtain ⟨c, d, hstart, hrun, hd⟩ :=
      Worker.payment_run (C := fun _ _ _ _ => True) 9223372036854775807 (by decide)
        fun _ _ _ _ _ => trivial
    refine ⟨c, d, hstart, hrun, ?_⟩
    rw [hd]
    decide +kernel
  · obtain ⟨qs, hqs⟩ := update_run (C := fun _ => True) 9223372036854775807 (by decide)
      (fun _ _ => trivial) (by decide +kernel)
    refine ⟨_, hqs, fun sender bot_token => ?_⟩
    have hoffset : (update_polled 9223372036854775807).tables.get_telegram_update_offset 1 0 =
        9223372036854775807 := by decide +kernel
    simp only [hoffset]
    rfl

end CoinListener.Notifier
