import CoinListener.Notifier.UpdateOffsets

/-! Verifications of a bot whose token may be replaced while Telegram is asked. -/
namespace CoinListener.Api
open Foundation Storage Notifier

/-! ### What a verified bot rests on -/

/-- A verified bot has a token that Telegram has accepted, and the username that it gave for it. -/
def TokensAccepted (s : TelegramWorld) : Prop :=
  ∀ bot ∈ s.tables.telegram_bots, bot.verification_status = VERIFICATION_STATUS_VERIFIED →
    (bot.bot_token, bot.username) ∈ s.verified

/-- A bot is marked verified only while it has the token that was verified. -/
def token_in_place (s : TelegramWorld) : TelegramQuery → Prop
  | .mark_telegram_bot_verification tenant_id id status _ _ _ verified_token =>
    status = VERIFICATION_STATUS_VERIFIED → ∀ bot ∈ s.tables.telegram_bots,
      bot.is_bot tenant_id id = true → bot.bot_token = verified_token
  | _ => True

/-- A verification is reported as it went. -/
def MayMark (s : TelegramWorld) : BotStatement → Prop
  | .db (.mark_telegram_bot_verification _ _ status username _ _ verified_token) =>
    status = VERIFICATION_STATUS_VERIFIED → (verified_token, username) ∈ s.verified
  | _ => True

/-- What Telegram has said stays said. -/
def Remembers (s t : TelegramWorld) : Prop :=
  ∀ entry ∈ s.verified, entry ∈ t.verified

theorem Remembers.trans {s t u : TelegramWorld} (hst : Remembers s t) (htu : Remembers t u) :
    Remembers s u :=
  fun entry h => htu entry (hst entry h)

section Steps
variable {limits : Json.Limits} {s t : TelegramWorld} {op : BotStatement}
  {r : AppResult op.Answer} {q : TelegramQuery}

theorem carried_remembers {C : TelegramWorld → TelegramQuery → Prop}
    (h : BotCarried limits C s op r t) : Remembers s t := by
  cases h with
  | db hC hfate =>
    rcases hfate.state with rfl | rfl
    · exact fun _ h => h
    · exact fun _ h => h
  | sent => exact fun _ h => List.mem_append_left _ h
  | _ => exact fun _ h => h

theorem receives_remembers (h : TelegramReceives s t) : Remembers s t := by
  cases h with
  | update => exact fun _ h => h

/-- Bots that are as they were. -/
theorem TokensAccepted.same (h : TokensAccepted s) (hst : Remembers s t)
    (hbots : t.tables.telegram_bots = s.tables.telegram_bots) : TokensAccepted t := by
  intro bot hbot hverified
  rw [hbots] at hbot
  exact hst _ (h bot hbot hverified)

theorem TokensAccepted.of_query (h : TokensAccepted s) (hC : token_in_place s q)
    (hA : MayMark s (.db q)) :
    TokensAccepted (s.query q).2 := by
  cases q with
  | get_telegram_bot_secret => exact h
  | list_active_verified_telegram_bot_secrets => exact h
  | create_telegram_bot tenant_id name bot_token status proxy_url =>
    intro bot hbot hverified
    rcases List.mem_append.mp hbot with hold | hnew
    · exact h bot hold hverified
    · obtain rfl := List.mem_singleton.mp hnew
      have hstatus : VERIFICATION_STATUS_UNVERIFIED = VERIFICATION_STATUS_VERIFIED := hverified
      exact absurd hstatus (by decide)
  | update_telegram_bot tenant_id id name bot_token status proxy_url_was_provided proxy_url =>
    intro bot hbot hverified
    obtain ⟨old, hold, rfl⟩ := Table.mem_update.mp hbot
    cases hkey : old.is_bot tenant_id id with
    | false =>
      rw [Table.revise_of_false hkey] at hverified ⊢
      exact h old hold hverified
    | true =>
      rw [Table.revise_of_true hkey] at hverified ⊢
      cases bot_token with
      | none => exact h old hold hverified
      | some bot_token => exact absurd hverified (by simp [TelegramTables.updated_bot]; decide)
  | mark_telegram_bot_verification tenant_id id status username last_error verified_at token =>
    intro bot hbot hverified
    obtain ⟨old, hold, rfl⟩ := Table.mem_update.mp hbot
    cases hkey : old.is_bot tenant_id id with
    | false =>
      rw [Table.revise_of_false hkey] at hverified ⊢
      exact h old hold hverified
    | true =>
      rw [Table.revise_of_true hkey] at hverified ⊢
      have hstatus : status = VERIFICATION_STATUS_VERIFIED := hverified
      have htoken : old.bot_token = token := hC hstatus old hold hkey
      have hentry : (old.bot_token, username) ∈ s.verified := htoken ▸ hA hstatus
      simp only [TelegramTables.marked_bot, if_pos hstatus]
      exact hentry
  | claim_telegram_update_offset tenant_id id locked_at stale_before =>
    exact h.same (fun _ h => h) (s.tables.run_offset_bots trivial)
  | upsert_telegram_update_offset tenant_id id update_id polled_token =>
    exact h.same (fun _ h => h) (s.tables.run_offset_bots trivial)
  | release_telegram_update_offset_lock tenant_id id locked_at =>
    exact h.same (fun _ h => h) (s.tables.run_offset_bots trivial)

theorem TokensAccepted.carried (h : TokensAccepted s) (hA : MayMark s op)
    (hcarried : BotCarried limits token_in_place s op r t) : TokensAccepted t := by
  have hremembers := carried_remembers hcarried
  cases hcarried with
  | db hC hfate =>
    rcases hfate.state with rfl | rfl
    · exact h
    · exact h.of_query hC hA
  | processed => exact h.same hremembers rfl
  | sent => exact h.same hremembers rfl
  | _ => exact h

end Steps

/-! ### Calls -/

def unknown : Prog.Assn Remembers fun _ => True where
  holds _ := True
  stable _ _ := trivial
  good _ := trivial

/-- This is what Telegram has said. -/
def said (bot_token : String) (outcome : Option String) (sent : Bool) :
    Prog.Assn Remembers fun _ => True where
  holds s := sent = true → (bot_token, outcome) ∈ s.verified
  stable h hst hsent := hst _ (h hsent)
  good _ := trivial

/-- Statements other than marks. -/
def MarksNothing : BotStatement → Prop
  | .db (.mark_telegram_bot_verification ..) => False
  | _ => True

section Calls
variable {limits : Json.Limits} {α : Type}

abbrev Verifies (limits : Json.Limits) (P : Prog.Assn Remembers fun _ => True) (p : BotProg α)
    (Q : α → Prog.Assn Remembers fun _ => True) : Prop :=
  Prog.Triple MayMark (Prog.Within TokensAccepted (BotCarried limits token_in_place)) P p Q
    fun _ => unknown

theorem MarksNothing.may_mark {s : TelegramWorld} {op : BotStatement} (h : MarksNothing op) :
    MayMark s op := by
  unfold MarksNothing at h
  unfold MayMark
  split at h
  · exact h.elim
  · trivial

theorem verifies_plain {op : BotStatement} (h : MarksNothing op)
    (P : Prog.Assn Remembers fun _ => True) :
    Verifies limits P (Prog.perform op) fun _ => P := by
  refine .perform (fun _ _ => h.may_mark) fun s hs r t ht => ?_
  have hremembers := carried_remembers ht.2.1
  cases r with
  | ok a => exact P.stable hs hremembers
  | error e => trivial

theorem verifies_only {p : BotProg α} (h : p.Only MarksNothing) :
    Verifies limits unknown p fun _ => unknown :=
  .of_only h (fun _ hop _ _ => hop.may_mark) fun _ _ _ _ _ _ _ => trivial

/-- What is reported is what Telegram has said about the token that was read. -/
theorem verify_verifies (tenant_id id : Uuid) :
    Verifies limits unknown (verify_telegram_bot limits tenant_id id) fun _ => unknown := by
  refine .bind (fun _ _ h => h) (verifies_plain (by trivial) _) fun found => ?_
  refine .bind_lift (fun bot _ => ?_) fun _ _ _ _ => trivial
  refine .bind_perform (fun _ _ => trivial) fun s hs r t ht => ?_
  obtain ⟨_, hcarried, _⟩ := ht
  cases r with
  | error e => trivial
  | ok outcome =>
    refine ⟨said bot.bot_token (verified_username limits outcome) outcome.is_sent, ?_, ?_⟩
    · cases hcarried with
      | sent _ hsent => exact fun _ => List.mem_append_right _ (List.mem_singleton.mpr rfl)
      | not_sent _ hsent =>
        intro h
        rw [hsent] at h
        exact nomatch h
    · refine .bind (fun _ _ h => h) (verifies_plain (by trivial) _) fun now => ?_
      refine .bind_lift (fun _ _ => ?_) fun _ _ _ _ => trivial
      refine .bind (Q := fun _ => unknown) (fun _ _ h => h) ?_ fun _ => ?_
      · refine .perform (fun s hs hstatus => hs ?_) fun s hs r t ht => ?_
        · by_contra hnot
          simp [hnot, VERIFICATION_STATUS_FAILED, VERIFICATION_STATUS_VERIFIED] at hstatus
        · cases r <;> trivial
      · exact .bind_lift (fun _ _ => .done fun _ _ => trivial) fun _ _ _ _ => trivial

theorem poll_updates_marks_nothing (bot : TelegramBotSecret) (updates : List TelegramUpdate) :
    (poll_updates bot updates).Only MarksNothing := by
  induction updates with
  | nil => exact .done
  | cons update updates ih =>
    refine .bind (.perform (by trivial)) fun _ => .bind (.perform (by trivial)) fun _ => ?_
    exact .bind (.perform (by trivial)) fun _ => ih

theorem poll_bot_marks_nothing (bot : TelegramBotSecret) : (poll_bot bot).Only MarksNothing := by
  refine .bind (.perform (by trivial)) fun _ => .bind (.perform (by trivial)) fun claimed => ?_
  cases claimed with
  | none => exact .done
  | some offset_claim =>
    refine .bind (.perform (by trivial)) fun answer => ?_
    cases answer with
    | error => exact .perform (by trivial)
    | ok updates =>
      exact .bind (poll_updates_marks_nothing bot updates) fun _ => .perform (by trivial)

theorem poll_marks_nothing : run_telegram_update_poller.Only MarksNothing := by
  refine .bind (.perform (by trivial)) fun bots => ?_
  induction bots with
  | nil => exact .done
  | cons bot bots ih => exact .bind (poll_bot_marks_nothing bot) fun _ => ih

theorem create_marks_nothing (tenant_id : Uuid) (request : CreateTelegramBotRequest) :
    (create_telegram_bot tenant_id request).Only MarksNothing := by
  unfold create_telegram_bot
  split
  · exact .fail
  dsimp only
  split
  · exact .fail
  refine .bind .lift fun _ => .bind .lift fun _ => ?_
  exact .perform (by trivial)

theorem update_marks_nothing (tenant_id id : Uuid) (request : UpdateTelegramBotRequest) :
    (update_telegram_bot tenant_id id request).Only MarksNothing := by
  unfold update_telegram_bot
  split
  · exact .fail
  refine .bind .lift fun _ => .bind .lift fun _ => .bind ?_ fun _ => .lift
  exact .perform (by trivial)

theorem call_verifies (call : BotCall) :
    Verifies limits unknown (call.program limits) fun _ => unknown := by
  cases call with
  | create tenant_id request =>
    exact verifies_only (.bind (create_marks_nothing tenant_id request) fun _ => .done)
  | update tenant_id id request =>
    exact verifies_only (.bind (update_marks_nothing tenant_id id request) fun _ => .done)
  | verify tenant_id id =>
    exact .bind (fun _ _ h => h) (verify_verifies tenant_id id) fun _ => .done fun _ _ => trivial
  | poll => exact verifies_only poll_marks_nothing

theorem verification_rules {W : Type} [DecidableEq W] :
    Prog.Crew.Rules (fun _ : W => BotCarried limits token_in_place) TelegramReceives
      (BotLaunch limits) TokensAccepted (fun _ => MayMark) (fun _ => Remembers) fun _ _ _ => True where
  refl _ _ _ h := h
  trans _ _ _ _ := Remembers.trans
  launch_inv := by
    rintro w s p t hs ⟨rfl, _⟩
    exact hs
  launch_safe := by
    rintro w s p t hs ⟨rfl, call, rfl⟩
    exact ((call_verifies call).safe _ trivial).mono fun _ _ _ _ => trivial
  launch_others := by
    rintro w v s p t hs ⟨rfl, _⟩ hne
    exact fun _ h => h
  statement_inv hs hA hcarried := hs.carried hA hcarried
  statement_others _ _ hcarried _ := carried_remembers hcarried
  others_inv hs h := by
    have hremembers := receives_remembers h
    cases h with
    | update => exact hs.same hremembers rfl
  others _ h := receives_remembers h

end Calls

section Run
variable {W : Type} [DecidableEq W] {limits : Json.Limits} {telegram_proxy_url : Uuid → Option String}
  {t : TelegramWorld} {qs : W → BotProg Unit}

end Run

/-! ### Runs -/

instance (s : TelegramWorld) : DecidablePred (token_in_place s)
  | .mark_telegram_bot_verification .. => inferInstanceAs (Decidable (_ → _))
  | .create_telegram_bot .. => inferInstanceAs (Decidable True)
  | .update_telegram_bot .. => inferInstanceAs (Decidable True)
  | .get_telegram_bot_secret .. => inferInstanceAs (Decidable True)
  | .list_active_verified_telegram_bot_secrets => inferInstanceAs (Decidable True)
  | .claim_telegram_update_offset .. => inferInstanceAs (Decidable True)
  | .upsert_telegram_update_offset .. => inferInstanceAs (Decidable True)
  | .release_telegram_update_offset_lock .. => inferInstanceAs (Decidable True)

def created_bot_world : TelegramWorld :=
  (BotCall.create 1 ops_bot).round .free accepted_bot (telegram_start (W := Bool) fun _ => none).1

def verified_bot_world : TelegramWorld :=
  (BotCall.verify 1 0).round .free accepted_bot created_bot_world

def new_token : BotCall :=
  .update 1 0
    { name := "ops"
      bot_token := some "222:BBB"
      status := STATUS_ACTIVE
      proxy_url := none }

abbrev answered_bot (n : Nat) (p : BotProg Unit) (s : TelegramWorld) :
    BotProg Unit × TelegramWorld :=
  Prog.advance (TelegramWorld.alone .free accepted_bot) n p s

/-- The bot has been read and Telegram has been asked. -/
def asked_telegram : BotProg Unit × TelegramWorld :=
  answered_bot 2 ((BotCall.verify 1 0).program .free) created_bot_world

/-- A user has replaced the token since. -/
def token_replaced : BotProg Unit × TelegramWorld :=
  answered_bot 1 (new_token.program .free) asked_telegram.2

def marked_late : BotProg Unit × TelegramWorld :=
  answered_bot 2 asked_telegram.1 token_replaced.2

end CoinListener.Api
