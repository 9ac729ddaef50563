import CoinListener.Notifier.UpdatePoller

/-! What the stored offset of a bot says about its updates. -/
namespace CoinListener.Notifier
open Foundation Storage

/-! ### What no step takes back -/

/-- Updates are added above the others, processed once and for all, and offsets only rise. -/
structure Grows (s t : TelegramWorld) : Prop where
  added : ∀ bot_token, ∀ update ∈ t.updates bot_token,
    update ∈ s.updates bot_token ∨ s.next_update_id bot_token ≤ update.update_id
  next_update_id : ∀ bot_token, s.next_update_id bot_token ≤ t.next_update_id bot_token
  handled : ∀ entry ∈ s.handled, entry ∈ t.handled
  offset : ∀ tenant_id id, s.tables.get_telegram_update_offset tenant_id id ≤
    t.tables.get_telegram_update_offset tenant_id id

namespace Grows
variable {s t u : TelegramWorld}

theorem refl (s : TelegramWorld) : Grows s s :=
  ⟨fun _ _ h => .inl h, fun _ => le_rfl, fun _ h => h, fun _ _ => le_rfl⟩

theorem trans (hst : Grows s t) (htu : Grows t u) : Grows s u := by
  refine ⟨fun bot_token update h => ?_,
    fun bot_token => (hst.next_update_id _).trans (htu.next_update_id _),
    fun entry h => htu.handled entry (hst.handled entry h),
    fun tenant_id id => (hst.offset _ _).trans (htu.offset _ _)⟩
  rcases htu.added bot_token update h with hold | hnew
  · exact hst.added bot_token update hold
  · exact .inr ((hst.next_update_id _).trans hnew)

theorem of_offsets {tables : TelegramTables} (h : ∀ tenant_id id,
    s.tables.get_telegram_update_offset tenant_id id ≤
      tables.get_telegram_update_offset tenant_id id) : Grows s { s with tables := tables } :=
  ⟨fun _ _ h => .inl h, fun _ => le_rfl, fun _ h => h, h⟩

theorem process (entry : Uuid × String × Int) :
    Grows s { s with handled := s.handled ++ [entry] } :=
  ⟨fun _ _ h => .inl h, fun _ => le_rfl, fun _ h => List.mem_append_left _ h, fun _ _ => le_rfl⟩

theorem receive (bot_token : String) (update : TelegramUpdate)
    (h : s.next_update_id bot_token ≤ update.update_id) : Grows s (s.receive bot_token update) := by
  refine ⟨fun token a ha => ?_, fun token => ?_, fun _ h => h, fun _ _ => le_rfl⟩
  · by_cases htoken : token = bot_token
    · subst htoken
      simp only [TelegramWorld.receive, Function.update_self, List.mem_append,
        List.mem_singleton] at ha
      rcases ha with hold | rfl
      · exact .inl hold
      · exact .inr h
    · simp only [TelegramWorld.receive, Function.update_of_ne htoken] at ha
      exact .inl ha
  · by_cases htoken : token = bot_token
    · subst htoken
      simp only [TelegramWorld.receive, Function.update_self]
      exact h.trans (Int.le_add_one le_rfl)
    · simp [TelegramWorld.receive, Function.update_of_ne htoken]

end Grows

/-- Identifiers are positive and in order. -/
structure Numbered (s : TelegramWorld) : Prop where
  positive : ∀ bot_token, 0 < s.next_update_id bot_token
  bounded : ∀ bot_token, ∀ update ∈ s.updates bot_token,
    0 < update.update_id ∧ update.update_id < s.next_update_id bot_token
  ascending : ∀ bot_token, (s.updates bot_token).Pairwise (·.update_id < ·.update_id)

theorem Numbered.receive {s : TelegramWorld} {bot_token : String} {update : TelegramUpdate}
    (h : Numbered s) (hnext : s.next_update_id bot_token ≤ update.update_id) :
    Numbered (s.receive bot_token update) := by
  have hpos := h.positive bot_token
  constructor
  · intro token
    by_cases htoken : token = bot_token
    · subst htoken
      simp only [TelegramWorld.receive, Function.update_self]
      omega
    · simpa [TelegramWorld.receive, Function.update_of_ne htoken] using h.positive token
  · intro token a ha
    by_cases htoken : token = bot_token
    · subst htoken
      simp only [TelegramWorld.receive, Function.update_self, List.mem_append,
        List.mem_singleton] at ha ⊢
      rcases ha with hold | rfl
      · have hbound := h.bounded token a hold
        omega
      · omega
    · simp only [TelegramWorld.receive, Function.update_of_ne htoken] at ha ⊢
      exact h.bounded token a ha
  · intro token
    by_cases htoken : token = bot_token
    · subst htoken
      simp only [TelegramWorld.receive, Function.update_self]
      refine List.pairwise_append.mpr ⟨h.ascending token, List.pairwise_singleton .., ?_⟩
      intro a ha b hb
      obtain rfl := List.mem_singleton.mp hb
      have hbound := h.bounded token a ha
      omega
    · simpa [TelegramWorld.receive, Function.update_of_ne htoken] using h.ascending token

/-! ### A poller on its way -/

section Batch
variable {s t : TelegramWorld} {bot : TelegramBotSecret} {update : TelegramUpdate}
  {updates : List TelegramUpdate}

/-- The identifier may be stored: every update up to it has been processed, as far as it lies above
what is stored already. -/
structure Reached (s : TelegramWorld) (tenant_id id : Uuid) (bot_token : String)
    (update_id : Int) : Prop where
  positive : 0 < update_id
  bounded : update_id < s.next_update_id bot_token
  handled : ∀ update ∈ s.updates bot_token, update.update_id ≤ update_id →
    update.update_id ≤ s.tables.get_telegram_update_offset tenant_id id ∨
      (id, bot_token, update.update_id) ∈ s.handled

/-- These updates are still to be processed, and no other update comes before the last of them. -/
structure Batch (bot : TelegramBotSecret) (updates : List TelegramUpdate) (s : TelegramWorld) :
    Prop where
  ascending : updates.Pairwise (·.update_id < ·.update_id)
  bounded : ∀ update ∈ updates,
    0 < update.update_id ∧ update.update_id < s.next_update_id bot.bot_token
  handled : ∀ before ∈ s.updates bot.bot_token, ∀ update ∈ updates,
    before.update_id ≤ update.update_id →
      before.update_id ≤ s.tables.get_telegram_update_offset bot.tenant_id bot.id ∨
      (bot.id, bot.bot_token, before.update_id) ∈ s.handled ∨
      ∃ later ∈ updates, later.update_id = before.update_id

theorem Batch.grow (h : Batch bot updates s) (hst : Grows s t) : Batch bot updates t := by
  have hnext := hst.next_update_id bot.bot_token
  refine ⟨h.ascending, fun update hupdate => ?_, fun before hbefore update hupdate hle => ?_⟩
  · have hbound := h.bounded update hupdate
    omega
  · rcases hst.added _ before hbefore with hold | hnew
    · rcases h.handled before hold update hupdate hle with hoff | hdone | hlater
      · exact .inl (hoff.trans (hst.offset _ _))
      · exact .inr (.inl (hst.handled _ hdone))
      · exact .inr (.inr hlater)
    · have hbound := h.bounded update hupdate
      omega

/-- What Telegram returns from an offset on that is not above the stored one. -/
theorem Batch.of_updates {last_update_id : Int} (hs : Numbered s)
    (hlast : last_update_id ≤ s.tables.get_telegram_update_offset bot.tenant_id bot.id)
    (h : updates <+: (s.updates bot.bot_token).filter (last_update_id + 1 ≤ ·.update_id)) :
    Batch bot updates s := by
  obtain ⟨rest, hrest⟩ := h
  have hall : ((s.updates bot.bot_token).filter
      (last_update_id + 1 ≤ ·.update_id)).Pairwise (·.update_id < ·.update_id) :=
    (hs.ascending bot.bot_token).sublist List.filter_sublist
  rw [← hrest] at hall
  obtain ⟨hasc, _, hacross⟩ := List.pairwise_append.mp hall
  refine ⟨hasc, fun update hupdate => ?_, fun before hbefore update hupdate hle => ?_⟩
  · have hmem : update ∈ (s.updates bot.bot_token).filter (last_update_id + 1 ≤ ·.update_id) :=
      hrest ▸ List.mem_append_left _ hupdate
    exact hs.bounded _ update (List.mem_filter.mp hmem).1
  · by_cases hoff : before.update_id ≤ last_update_id
    · exact .inl (hoff.trans hlast)
    · have hmem : before ∈ updates ++ rest := by
        rw [hrest]
        refine List.mem_filter.mpr ⟨hbefore, ?_⟩
        simp only [decide_eq_true_eq]
        omega
      rcases List.mem_append.mp hmem with hhere | hafter
      · exact .inr (.inr ⟨before, hhere, rfl⟩)
      · have hlt := hacross update hupdate before hafter
        omega

/-- The first update of a batch has been processed. -/
theorem Batch.reached (h : Batch bot (update :: updates) s)
    (hdone : (bot.id, bot.bot_token, update.update_id) ∈ s.handled) :
    Reached s bot.tenant_id bot.id bot.bot_token update.update_id := by
  obtain ⟨hpos, hbound⟩ := h.bounded update (List.mem_cons_self ..)
  refine ⟨hpos, hbound, fun before hbefore hle => ?_⟩
  rcases h.handled before hbefore update (List.mem_cons_self ..) hle with hoff | hd | hlater
  · exact .inl hoff
  · exact .inr hd
  · obtain ⟨later, hlater, hid⟩ := hlater
    rcases List.mem_cons.mp hlater with rfl | hrest
    · exact .inr (hid ▸ hdone)
    · have hlt := (List.pairwise_cons.mp h.ascending).1 later hrest
      omega

theorem Batch.tail (h : Batch bot (update :: updates) s)
    (hdone : (bot.id, bot.bot_token, update.update_id) ∈ s.handled) : Batch bot updates s := by
  refine ⟨(List.pairwise_cons.mp h.ascending).2,
    fun a ha => h.bounded a (List.mem_cons_of_mem _ ha), fun before hbefore a ha hle => ?_⟩
  rcases h.handled before hbefore a (List.mem_cons_of_mem _ ha) hle with hoff | hd | hlater
  · exact .inl hoff
  · exact .inr (.inl hd)
  · obtain ⟨later, hlater, hid⟩ := hlater
    rcases List.mem_cons.mp hlater with rfl | hrest
    · exact .inr (.inl (hid ▸ hdone))
    · exact .inr (.inr ⟨later, hrest, hid⟩)

end Batch

/-! ### Offsets and tokens -/

/-- Every update of the token up to this identifier has been processed under it for the bot, and
those still to come lie above. -/
structure Processed (s : TelegramWorld) (id : Uuid) (bot_token : String) (last_update_id : Int) :
    Prop where
  below : last_update_id < s.next_update_id bot_token
  handled : ∀ update ∈ s.updates bot_token, update.update_id ≤ last_update_id →
    (id, bot_token, update.update_id) ∈ s.handled

/-- So it is up to the stored offset. -/
abbrev Settled (s : TelegramWorld) (tenant_id id : Uuid) (bot_token : String) : Prop :=
  Processed s id bot_token (s.tables.get_telegram_update_offset tenant_id id)

section Processed
variable {s t : TelegramWorld} {tenant_id id : Uuid} {bot_token : String} {a b : Int}

theorem Processed.grow (h : Processed s id bot_token a) (hst : Grows s t) :
    Processed t id bot_token a := by
  have hbelow := h.below
  refine ⟨hbelow.trans_le (hst.next_update_id _), fun update hupdate hle => ?_⟩
  rcases hst.added _ update hupdate with hold | hnew
  · exact hst.handled _ (h.handled update hold hle)
  · omega

theorem Processed.max (ha : Processed s id bot_token a) (hb : Processed s id bot_token b) :
    Processed s id bot_token (max a b) := by
  rcases le_total a b with hle | hle
  · rwa [max_eq_right hle]
  · rwa [max_eq_left hle]

theorem Settled.grow (h : Settled s tenant_id id bot_token) (hst : Grows s t)
    (hsame : t.tables.get_telegram_update_offset tenant_id id =
      s.tables.get_telegram_update_offset tenant_id id) : Settled t tenant_id id bot_token := by
  have hgrown := Processed.grow h hst
  rwa [← hsame] at hgrown

/-- A poller of this token has reached the identifier. -/
theorem Settled.reached {update_id : Int} (h : Settled s tenant_id id bot_token)
    (hreached : Reached s tenant_id id bot_token update_id) :
    Processed s id bot_token update_id := by
  refine ⟨hreached.bounded, fun update hupdate hle => ?_⟩
  rcases hreached.handled update hupdate hle with hstored | hdone
  · exact h.handled update hupdate hstored
  · exact hdone

end Processed

/-- The offsets of these bots are settled for the tokens the bots have. -/
def AllSettled (about : Uuid → Prop) (s : TelegramWorld) : Prop :=
  ∀ bot ∈ s.tables.telegram_bots, about bot.id → ∀ tenant_id,
    Settled s tenant_id bot.id bot.bot_token

/-- What makes the offsets of some bots stay settled under a condition `C` on the statements: `K` is
kept, pollers know no more than `known` about a bot they have read, and nothing is stored or replaced
that should not be. -/
structure Watch (C : TelegramWorld → TelegramQuery → Prop) (about : Uuid → Prop)
    (known : TelegramBotSecret → Prop) (K : List TelegramBotRow → Prop) : Prop where
  start : K []
  kept : ∀ {s q}, K s.tables.telegram_bots → C s q → K (q.run s.tables).2.telegram_bots
  listed : ∀ {t : TelegramTables}, K t.telegram_bots → ∀ bot ∈ t.telegram_bots,
    known (t.secret bot)
  polled : ∀ {s bot update_id}, K s.tables.telegram_bots → known bot →
    C s (.upsert_telegram_update_offset bot.tenant_id bot.id update_id bot.bot_token) →
    about bot.id → ∀ row ∈ s.tables.telegram_bots, row.id = bot.id →
      row.bot_token = bot.bot_token ∨ Processed s bot.id row.bot_token update_id
  replaced : ∀ {s tenant_id id name bot_token status proxy_url_was_provided proxy_url},
    K s.tables.telegram_bots →
    C s (.update_telegram_bot tenant_id id name (some bot_token) status proxy_url_was_provided
      proxy_url) →
    about id → ∀ row ∈ s.tables.telegram_bots, row.is_bot tenant_id id = true →
      row.bot_token = bot_token ∨ ∀ tenant_id, Settled s tenant_id id bot_token

/-- A poller stores an identifier only when it may. -/
def MayStore (known : TelegramBotSecret → Prop) (s : TelegramWorld) : BotStatement → Prop
  | .db (.upsert_telegram_update_offset tenant_id id update_id polled_token) =>
    ∃ bot, known bot ∧ bot.tenant_id = tenant_id ∧ bot.id = id ∧ bot.bot_token = polled_token ∧
      Reached s tenant_id id polled_token update_id
  | _ => True

structure OffsetsKept (about : Uuid → Prop) (K : List TelegramBotRow → Prop) (s : TelegramWorld) :
    Prop where
  bots : K s.tables.telegram_bots
  numbered : Numbered s
  settled : AllSettled about s

section Steps
variable {limits : Json.Limits} {C : TelegramWorld → TelegramQuery → Prop} {about : Uuid → Prop}
  {known : TelegramBotSecret → Prop} {K : List TelegramBotRow → Prop} {s t : TelegramWorld}
  {op : BotStatement} {r : AppResult op.Answer} {q : TelegramQuery}

theorem query_grows (h : MayStore known s (.db q)) : Grows s (s.query q).2 := by
  refine Grows.of_offsets fun tenant_id id => ?_
  rcases s.tables.run_offset q with ⟨tenant, bot_id, update_id, polled_token, rfl, hok⟩ | hsame
  · obtain ⟨_, _, _, _, _, hreached⟩ := h
    obtain ⟨_, hself, hother⟩ := TelegramTables.upsert_offset hreached.positive hok
    by_cases hkey : (tenant_id, id) = (tenant, bot_id)
    · obtain ⟨rfl, rfl⟩ := Prod.mk.inj hkey
      exact hself ▸ le_max_left ..
    · exact (hother tenant_id id hkey).ge
  · exact (hsame tenant_id id).ge

theorem carried_grows (h : MayStore known s op) (hcarried : BotCarried limits C s op r t) :
    Grows s t := by
  cases hcarried with
  | db hC hfate =>
    rcases hfate.state with rfl | rfl
    · exact Grows.refl _
    · exact query_grows h
  | processed => exact Grows.process _
  | sent => exact ⟨fun _ _ h => .inl h, fun _ => le_rfl, fun _ h => h, fun _ _ => le_rfl⟩
  | _ => exact Grows.refl _

theorem receives_grows (h : TelegramReceives s t) : Grows s t := by
  cases h with
  | update bot_token update hnext => exact Grows.receive bot_token update hnext

/-- A statement that leaves the offsets and the tokens as they are. -/
theorem AllSettled.same (h : AllSettled about s) (hst : Grows s t)
    (hoffset : ∀ tenant_id id, t.tables.get_telegram_update_offset tenant_id id =
      s.tables.get_telegram_update_offset tenant_id id)
    (hbots : ∀ bot ∈ t.tables.telegram_bots, ∃ old ∈ s.tables.telegram_bots,
      bot.id = old.id ∧ bot.bot_token = old.bot_token) : AllSettled about t := by
  intro bot hbot habout tenant_id
  obtain ⟨old, hold, hid, htoken⟩ := hbots bot hbot
  rw [hid] at habout
  rw [hid, htoken]
  exact Settled.grow (h old hold habout tenant_id) hst (hoffset tenant_id old.id)

theorem AllSettled.of_query (watch : Watch C about known K) (hs : OffsetsKept about K s) (hC : C s q)
    (hA : MayStore known s (.db q)) : AllSettled about (s.query q).2 := by
  have hgrows := query_grows hA
  have hsame : (q.run s.tables).2.telegram_bots = s.tables.telegram_bots →
      ∀ bot ∈ (s.query q).2.tables.telegram_bots, ∃ old ∈ s.tables.telegram_bots,
        bot.id = old.id ∧ bot.bot_token = old.bot_token :=
    fun hbots bot hbot => ⟨bot, hbots ▸ hbot, rfl, rfl⟩
  cases q with
  | get_telegram_bot_secret => exact hs.settled
  | list_active_verified_telegram_bot_secrets => exact hs.settled
  | create_telegram_bot tenant_id name bot_token status proxy_url =>
    intro bot hbot habout tenant
    rcases List.mem_append.mp hbot with hold | hnew
    · exact Settled.grow (hs.settled bot hold habout tenant) hgrows rfl
    · -- Nothing is stored for a new bot.
      obtain rfl := List.mem_singleton.mp hnew
      have hzero : s.tables.get_telegram_update_offset tenant s.tables.next_id = 0 :=
        TelegramTables.get_of_new tenant
      have hsettled : Settled s tenant s.tables.next_id bot_token := by
        refine ⟨hzero ▸ hs.numbered.positive bot_token, fun update hupdate hle => ?_⟩
        have hbound := hs.numbered.bounded bot_token update hupdate
        omega
      exact Settled.grow hsettled hgrows rfl
  | update_telegram_bot tenant_id id name bot_token status proxy_url_was_provided proxy_url =>
    intro bot hbot habout tenant
    obtain ⟨old, hold, rfl⟩ := Table.mem_update.mp hbot
    cases hkey : old.is_bot tenant_id id with
    | false =>
      rw [Table.revise_of_false hkey] at habout ⊢
      exact Settled.grow (hs.settled old hold habout tenant) hgrows rfl
    | true =>
      rw [Table.revise_of_true hkey] at habout ⊢
      have hold_settled := Settled.grow (hs.settled old hold habout tenant) hgrows rfl
      cases bot_token with
      | none => exact hold_settled
      | some bot_token =>
        have hid : old.id = id := by
          simp only [TelegramBotRow.is_bot, Bool.and_eq_true, beq_iff_eq] at hkey
          exact hkey.1
        rcases watch.replaced hs.bots hC (hid ▸ habout) old hold hkey with hequal | hsettled
        · subst hequal
          exact hold_settled
        · subst hid
          exact Settled.grow (hsettled tenant) hgrows rfl
  | mark_telegram_bot_verification tenant_id id status username last_error verified_at token =>
    refine hs.settled.same hgrows (fun _ _ => rfl) fun bot hbot => ?_
    obtain ⟨old, hold, rfl⟩ := Table.mem_update.mp hbot
    cases hkey : old.is_bot tenant_id id with
    | false => exact ⟨old, hold, by simp [hkey], by simp [hkey]⟩
    | true => exact ⟨old, hold, by simp [hkey, TelegramTables.marked_bot],
        by simp [hkey, TelegramTables.marked_bot]⟩
  | claim_telegram_update_offset tenant_id id locked_at stale_before =>
    rcases s.tables.run_offset (.claim_telegram_update_offset tenant_id id locked_at stale_before)
      with ⟨_, _, _, _, hq, _⟩ | hoffset
    · cases hq
    · exact hs.settled.same hgrows hoffset (hsame (s.tables.run_offset_bots trivial))
  | release_telegram_update_offset_lock tenant_id id locked_at =>
    rcases s.tables.run_offset (.release_telegram_update_offset_lock tenant_id id locked_at)
      with ⟨_, _, _, _, hq, _⟩ | hoffset
    · cases hq
    · exact hs.settled.same hgrows hoffset (hsame (s.tables.run_offset_bots trivial))
  | upsert_telegram_update_offset tenant_id id update_id polled_token =>
    have hbots := s.tables.run_offset_bots
      (q := .upsert_telegram_update_offset tenant_id id update_id polled_token) trivial
    rcases s.tables.run_offset
      (.upsert_telegram_update_offset tenant_id id update_id polled_token) with
      ⟨_, _, _, _, hq, hok⟩ | hoffset
    · cases hq
      obtain ⟨poller, hknown, rfl, rfl, rfl, hreached⟩ := hA
      obtain ⟨_, hself, hother⟩ := TelegramTables.upsert_offset hreached.positive hok
      intro bot hbot habout tenant
      rw [show (s.query _).2.tables.telegram_bots = s.tables.telegram_bots from hbots] at hbot
      have hold := hs.settled bot hbot habout tenant
      by_cases hkey : (tenant, bot.id) = (poller.tenant_id, poller.id)
      · obtain ⟨rfl, hid⟩ := Prod.mk.inj hkey
        have hstored : (s.query (.upsert_telegram_update_offset poller.tenant_id poller.id update_id
            poller.bot_token)).2.tables.get_telegram_update_offset poller.tenant_id poller.id =
            max (s.tables.get_telegram_update_offset poller.tenant_id poller.id) update_id := hself
        have hnew : Processed s poller.id bot.bot_token update_id := by
          rcases watch.polled hs.bots hknown hC (hid ▸ habout) bot hbot hid with htoken | habove
          · rw [hid, htoken] at hold
            exact htoken ▸ Settled.reached hold hreached
          · exact habove
        rw [hid] at hold ⊢
        have hboth := (Processed.max hold hnew).grow hgrows
        rwa [← hstored] at hboth
      · exact Settled.grow hold hgrows (hother tenant bot.id hkey)
    · exact hs.settled.same hgrows hoffset (hsame hbots)

theorem OffsetsKept.carried (watch : Watch C about known K) (hs : OffsetsKept about K s)
    (hA : MayStore known s op) (h : BotCarried limits C s op r t) : OffsetsKept about K t := by
  have hgrows := carried_grows hA h
  cases h with
  | db hC hfate =>
    rcases hfate.state with rfl | rfl
    · exact hs
    · exact ⟨watch.kept hs.bots hC, ⟨hs.numbered.positive, hs.numbered.bounded,
        hs.numbered.ascending⟩, AllSettled.of_query watch hs hC hA⟩
  | processed => exact ⟨hs.bots, ⟨hs.numbered.positive, hs.numbered.bounded,
      hs.numbered.ascending⟩, hs.settled.same hgrows (fun _ _ => rfl)
        fun bot hbot => ⟨bot, hbot, rfl, rfl⟩⟩
  | sent => exact ⟨hs.bots, ⟨hs.numbered.positive, hs.numbered.bounded, hs.numbered.ascending⟩,
      hs.settled.same hgrows (fun _ _ => rfl) fun bot hbot => ⟨bot, hbot, rfl, rfl⟩⟩
  | _ => exact hs

theorem OffsetsKept.receives (hs : OffsetsKept about K s) (h : TelegramReceives s t) :
    OffsetsKept about K t := by
  have hgrows := receives_grows h
  cases h with
  | update bot_token update hnext =>
    exact ⟨hs.bots, hs.numbered.receive hnext, hs.settled.same hgrows (fun _ _ => rfl)
      fun bot hbot => ⟨bot, hbot, rfl, rfl⟩⟩

end Steps

/-! ### Calls -/

/-- Nothing is known. -/
def anywhere : Prog.Assn Grows fun _ => True where
  holds _ := True
  stable _ _ := trivial
  good _ := trivial

def batch (bot : TelegramBotSecret) (updates : List TelegramUpdate) :
    Prog.Assn Grows fun _ => True where
  holds := Batch bot updates
  stable h hst := h.grow hst
  good _ := trivial

/-- The first update of the batch has been processed. -/
def processed (bot : TelegramBotSecret) (update : TelegramUpdate) (updates : List TelegramUpdate) :
    Prog.Assn Grows fun _ => True where
  holds s := Batch bot (update :: updates) s ∧ (bot.id, bot.bot_token, update.update_id) ∈ s.handled
  stable h hst := ⟨h.1.grow hst, hst.handled _ h.2⟩
  good _ := trivial

/-- What is stored for the bot is not below what its poller goes by. -/
def claimed (bot : TelegramBotSecret) (last_update_id : Int) : Prog.Assn Grows fun _ => True where
  holds s := last_update_id ≤ s.tables.get_telegram_update_offset bot.tenant_id bot.id
  stable h hst := h.trans (hst.offset _ _)
  good _ := trivial

/-- Statements that store no identifier. -/
def BotStatement.StoresNothing : BotStatement → Prop
  | .db (.upsert_telegram_update_offset ..) => False
  | _ => True

section Calls
variable {limits : Json.Limits} {C : TelegramWorld → TelegramQuery → Prop} {about : Uuid → Prop}
  {known : TelegramBotSecret → Prop} {K : List TelegramBotRow → Prop} {α : Type}

/-- A part of a call. Nothing is known after an error. -/
abbrev Polls (limits : Json.Limits) (C : TelegramWorld → TelegramQuery → Prop)
    (about : Uuid → Prop) (known : TelegramBotSecret → Prop) (K : List TelegramBotRow → Prop)
    (P : Prog.Assn Grows fun _ => True) (p : BotProg α)
    (Q : α → Prog.Assn Grows fun _ => True) : Prop :=
  Prog.Triple (MayStore known) (Prog.Within (OffsetsKept about K) (BotCarried limits C)) P p Q
    fun _ => anywhere

theorem StoresNothing.may_store {s : TelegramWorld} {op : BotStatement} (h : op.StoresNothing) :
    MayStore known s op := by
  unfold BotStatement.StoresNothing at h
  unfold MayStore
  split at h
  · exact h.elim
  · trivial

/-- A statement that stores nothing leaves what is known. -/
theorem polls_plain {op : BotStatement} (h : op.StoresNothing)
    (P : Prog.Assn Grows fun _ => True) :
    Polls limits C about known K P (Prog.perform op) fun _ => P := by
  refine .perform (fun _ _ => StoresNothing.may_store h) fun s hs r t ht => ?_
  have hmay : MayStore known s op := StoresNothing.may_store h
  have hgrows := carried_grows hmay ht.2.1
  cases r with
  | ok a => exact P.stable hs hgrows
  | error e => trivial

theorem polls_only {p : BotProg α} (h : p.Only BotStatement.StoresNothing) :
    Polls limits C about known K anywhere p fun _ => anywhere :=
  .of_only h (fun _ hop _ _ => StoresNothing.may_store hop) fun _ _ _ _ _ _ _ => trivial

theorem poll_updates_polls {bot : TelegramBotSecret} (hknown : known bot)
    (updates : List TelegramUpdate) :
    Polls limits C about known K (batch bot updates) (poll_updates bot updates)
      fun _ => anywhere := by
  induction updates with
  | nil => exact .done fun _ _ => trivial
  | cons update updates ih =>
    refine .bind Grows.refl (polls_plain (by trivial) _) fun now => ?_
    refine .bind Grows.refl (Q := fun _ => processed bot update updates) ?_ fun _ => ?_
    · refine .perform (fun _ _ => trivial) fun s hs r t ht => ?_
      have hmay : MayStore known s (.process_telegram_binding_update bot.id bot.bot_token
        bot.effective_proxy_url update now) := trivial
      have hgrows := carried_grows hmay ht.2.1
      obtain ⟨_, hcarried, _⟩ := ht
      cases hcarried with
      | processed => exact ⟨hs.grow hgrows, List.mem_append_right _ (List.mem_singleton.mpr rfl)⟩
      | not_processed => trivial
    · refine .bind Grows.refl (Q := fun _ => batch bot updates) ?_ fun _ => ih
      have hmay : ∀ s, (processed bot update updates).holds s → MayStore known s
          (.db (.upsert_telegram_update_offset bot.tenant_id bot.id update.update_id
            bot.bot_token)) :=
        fun s hs => ⟨bot, hknown, rfl, rfl, rfl, hs.1.reached hs.2⟩
      refine .perform hmay fun s hs r t ht => ?_
      have hgrows := carried_grows (hmay s hs) ht.2.1
      cases r with
      | ok _ => exact (hs.1.tail hs.2).grow hgrows
      | error e => trivial

/-- What a claim answers is stored. -/
theorem claim_stored {s t : TelegramWorld} {tenant_id id : Uuid} {locked_at stale_before : Timestamp}
    {offset_claim : TelegramUpdateOffsetClaim}
    (h : BotCarried limits C s (.db (.claim_telegram_update_offset tenant_id id locked_at
      stale_before)) (.ok (some offset_claim)) t) :
    offset_claim.last_update_id ≤ t.tables.get_telegram_update_offset tenant_id id := by
  cases h with
  | db hC hfate =>
    obtain ⟨hok, rfl⟩ := hfate.answer
    have hrun := TelegramTables.run_claim s.tables tenant_id id locked_at stale_before
    cases hclaim : s.tables.claim_telegram_update_offset tenant_id id locked_at stale_before with
    | error e =>
      rw [hclaim] at hrun
      exact nomatch (congrArg Prod.fst hrun).symm.trans hok
    | ok answer =>
      rw [hclaim] at hrun
      have hanswer : answer.1 = some offset_claim :=
        Except.ok.inj ((congrArg Prod.fst hrun).symm.trans hok)
      have htables : (s.query (.claim_telegram_update_offset tenant_id id locked_at
          stale_before)).2.tables = answer.2 := congrArg Prod.snd hrun
      obtain ⟨_, hsame, hlast⟩ := TelegramTables.claim_offset hclaim
      rw [htables, hsame, hlast offset_claim hanswer]

theorem poll_bot_polls {bot : TelegramBotSecret} (hknown : known bot) :
    Polls limits C about known K anywhere (poll_bot bot) fun _ => anywhere := by
  refine .bind Grows.refl (polls_plain (by trivial) _) fun locked_at => ?_
  refine .bind_perform (fun _ _ => trivial) fun s hs r t ht => ?_
  cases r with
  | error e => trivial
  | ok answer =>
    cases answer with
    | none => exact ⟨anywhere, trivial, .done fun _ _ => trivial⟩
    | some offset_claim =>
      refine ⟨claimed bot offset_claim.last_update_id, ?_, ?_⟩
      · obtain ⟨_, hcarried, _⟩ := ht
        exact claim_stored hcarried
      · refine .bind_perform (fun _ _ => trivial) fun s hs r t ht => ?_
        obtain ⟨hkept, hcarried, _⟩ := ht
        cases hcarried with
        | updates updates hstarts =>
          refine ⟨batch bot updates, Batch.of_updates hkept.numbered hs hstarts, ?_⟩
          exact .bind Grows.refl (poll_updates_polls hknown updates) fun _ => polls_plain (by trivial) _
        | no_updates outcome => exact ⟨anywhere, trivial, polls_plain (by trivial) _⟩

theorem poll_bots_polls {bots : List TelegramBotSecret} (hknown : ∀ bot ∈ bots, known bot) :
    Polls limits C about known K anywhere (poll_bots bots) fun _ => anywhere := by
  induction bots with
  | nil => exact .done fun _ _ => trivial
  | cons bot bots ih =>
    refine .bind Grows.refl (poll_bot_polls (hknown bot (List.mem_cons_self ..))) fun _ => ?_
    exact ih fun bot hbot => hknown bot (List.mem_cons_of_mem _ hbot)

theorem create_stores_nothing (tenant_id : Uuid) (request : CreateTelegramBotRequest) :
    (create_telegram_bot tenant_id request).Only BotStatement.StoresNothing := by
  unfold create_telegram_bot
  split
  · exact .fail
  dsimp only
  split
  · exact .fail
  refine .bind .lift fun _ => .bind .lift fun _ => ?_
  exact .perform (by trivial)

theorem update_stores_nothing (tenant_id id : Uuid) (request : UpdateTelegramBotRequest) :
    (update_telegram_bot tenant_id id request).Only BotStatement.StoresNothing := by
  unfold update_telegram_bot
  split
  · exact .fail
  refine .bind .lift fun _ => .bind .lift fun _ => .bind ?_ fun _ => .lift
  exact .perform (by trivial)

theorem verify_stores_nothing (tenant_id id : Uuid) :
    (verify_telegram_bot limits tenant_id id).Only BotStatement.StoresNothing := by
  unfold verify_telegram_bot
  refine .bind (.perform (by trivial)) fun _ => .bind .lift fun _ => ?_
  refine .bind (.perform (by trivial)) fun _ => .bind (.perform (by trivial)) fun _ => ?_
  exact .bind .lift fun _ => .bind (.perform (by trivial)) fun _ => .bind .lift fun _ => .done

theorem call_polls (watch : Watch C about known K) (call : BotCall) :
    Polls limits C about known K anywhere (call.program limits) fun _ => anywhere := by
  cases call with
  | create tenant_id request =>
    exact polls_only (.bind (create_stores_nothing tenant_id request) fun _ => .done)
  | update tenant_id id request =>
    exact polls_only (.bind (update_stores_nothing tenant_id id request) fun _ => .done)
  | verify tenant_id id => exact polls_only (.bind (verify_stores_nothing tenant_id id) fun _ => .done)
  | poll =>
    refine .bind_perform (fun _ _ => trivial) fun s hs r t ht => ?_
    obtain ⟨hkept, hcarried, _⟩ := ht
    cases r with
    | error e => trivial
    | ok bots =>
      refine ⟨anywhere, trivial, poll_bots_polls fun bot hbot => ?_⟩
      cases hcarried with
      | db hC hfate =>
        obtain ⟨hok, _⟩ := hfate.answer
        obtain rfl := Except.ok.inj hok
        obtain ⟨row, hrow, rfl⟩ := List.mem_map.mp hbot
        exact watch.listed hkept.bots row (List.mem_filter.mp hrow).1

/-- Any number of users and pollers. -/
theorem offset_rules {W : Type} [DecidableEq W] (watch : Watch C about known K) :
    Prog.Crew.Rules (fun _ : W => BotCarried limits C) TelegramReceives (BotLaunch limits)
      (OffsetsKept about K) (fun _ => MayStore known) (fun _ => Grows) fun _ _ _ => True where
  refl _ := Grows.refl
  trans _ := Grows.trans
  launch_inv := by
    rintro w s p t hs ⟨rfl, _⟩
    exact hs
  launch_safe := by
    rintro w s p t hs ⟨rfl, call, rfl⟩
    exact ((call_polls watch call).safe _ trivial).mono fun _ _ _ _ => trivial
  launch_others := by
    rintro w v s p t hs ⟨rfl, _⟩ hne
    exact Grows.refl _
  statement_inv hs hA hcarried := hs.carried watch hA hcarried
  statement_others _ hA hcarried _ := carried_grows hA hcarried
  others_inv hs h := hs.receives h
  others _ h := receives_grows h

theorem offsets_start {W : Type} (watch : Watch C about known K)
    (telegram_proxy_url : Uuid → Option String) :
    Prog.Crew.Good (fun _ : W => BotCarried limits C) (OffsetsKept about K)
      (fun _ => MayStore known) (fun _ => Grows) (fun _ _ _ => True)
      (telegram_start (W := W) telegram_proxy_url).1 (telegram_start telegram_proxy_url).2 := by
  refine ⟨⟨watch.start, ⟨fun _ => Int.one_pos, ?_, fun _ => .nil⟩, ?_⟩, fun w t _ => ?_⟩
  · exact fun _ _ h => absurd h List.not_mem_nil
  · exact fun _ h => absurd h List.not_mem_nil
  · exact ⟨trivial, trivial⟩

/-- What holds in every run. -/
theorem offsets_run {W : Type} [DecidableEq W] {telegram_proxy_url : Uuid → Option String}
    (watch : Watch C about known K) {s t : TelegramWorld} {ps qs : W → BotProg Unit}
    (hs : Relation.ReflTransGen (BotStep limits C) (telegram_start telegram_proxy_url) (s, ps))
    (ht : Relation.ReflTransGen (BotStep limits C) (s, ps) (t, qs)) :
    OffsetsKept about K t ∧ Grows s t := by
  have hgood := (offsets_start watch telegram_proxy_url).run (offset_rules watch) hs
  refine ⟨(hgood.run (offset_rules watch) ht).inv, ?_⟩
  refine hgood.kept (offset_rules watch) Grows.refl Grows.trans ?_ ?_ ?_ ht
  · rintro w s p t _ ⟨rfl, _⟩
    exact Grows.refl _
  · exact fun _ hA hcarried => carried_grows hA hcarried
  · exact fun _ h => receives_grows h

end Calls

/-! ### A bot that keeps its token -/

/-- The bot is created with this token, and never given another. -/
def unchanged (id : Uuid) (bot_token : String) (s : TelegramWorld) : TelegramQuery → Prop
  | .create_telegram_bot _ _ token _ _ => s.tables.next_id = id → token = bot_token
  | .update_telegram_bot _ bot_id _ token _ _ _ => bot_id = id → token.getD bot_token = bot_token
  | _ => True

theorem unchanged_watch (id : Uuid) (bot_token : String) :
    Watch (unchanged id bot_token) (· = id) (fun bot => bot.id = id → bot.bot_token = bot_token)
      fun bots => ∀ bot ∈ bots, bot.id = id → bot.bot_token = bot_token where
  start _ h := absurd h List.not_mem_nil
  kept := by
    intro s q hbots hC bot hbot hid
    cases q with
    | create_telegram_bot tenant_id name token status proxy_url =>
      rcases List.mem_append.mp hbot with hold | hnew
      · exact hbots bot hold hid
      · obtain rfl := List.mem_singleton.mp hnew
        exact hC hid
    | update_telegram_bot tenant_id bot_id name token status proxy_url_was_provided proxy_url =>
      obtain ⟨old, hold, rfl⟩ := Table.mem_update.mp hbot
      cases hkey : old.is_bot tenant_id bot_id with
      | false =>
        rw [Table.revise_of_false hkey] at hid ⊢
        exact hbots old hold hid
      | true =>
        rw [Table.revise_of_true hkey] at hid ⊢
        have hbot_id : old.id = bot_id := by
          simp only [TelegramBotRow.is_bot, Bool.and_eq_true, beq_iff_eq] at hkey
          exact hkey.1
        have htoken : token.getD bot_token = bot_token := hC (hbot_id.symm.trans hid)
        cases token with
        | none => exact hbots old hold hid
        | some token => exact htoken
    | mark_telegram_bot_verification tenant_id bot_id status username last_error verified_at token =>
      obtain ⟨old, hold, rfl⟩ := Table.mem_update.mp hbot
      cases hkey : old.is_bot tenant_id bot_id with
      | false =>
        rw [Table.revise_of_false hkey] at hid ⊢
        exact hbots old hold hid
      | true =>
        rw [Table.revise_of_true hkey] at hid ⊢
        exact hbots old hold hid
    | get_telegram_bot_secret => exact hbots bot hbot hid
    | list_active_verified_telegram_bot_secrets => exact hbots bot hbot hid
    | claim_telegram_update_offset tenant_id bot_id locked_at stale_before =>
      rw [s.tables.run_offset_bots trivial] at hbot
      exact hbots bot hbot hid
    | upsert_telegram_update_offset tenant_id bot_id update_id polled_token =>
      rw [s.tables.run_offset_bots trivial] at hbot
      exact hbots bot hbot hid
    | release_telegram_update_offset_lock tenant_id bot_id locked_at =>
      rw [s.tables.run_offset_bots trivial] at hbot
      exact hbots bot hbot hid
  listed hbots bot hbot hid := hbots bot hbot hid
  polled hbots hknown _ habout row hrow hid :=
    .inl ((hbots row hrow (hid.trans habout)).trans (hknown habout).symm)
  replaced := by
    intro s tenant_id bot_id name token status proxy_url_was_provided proxy_url hbots hC habout row
      hrow hkey
    have hid : row.id = bot_id := by
      simp only [TelegramBotRow.is_bot, Bool.and_eq_true, beq_iff_eq] at hkey
      exact hkey.1
    have htoken : token = bot_token := hC habout
    exact .inl ((hbots row hrow (hid.trans habout)).trans htoken.symm)

section Unchanged
variable {W : Type} [DecidableEq W] {limits : Json.Limits} {telegram_proxy_url : Uuid → Option String}
  {id : Uuid} {bot_token : String} {s t : TelegramWorld} {ps qs : W → BotProg Unit}

/-- The stored identifier never falls, and every update up to it has been processed. -/
theorem updates_processed
    (hs : Relation.ReflTransGen (BotStep limits (unchanged id bot_token))
      (telegram_start telegram_proxy_url) (s, ps))
    (ht : Relation.ReflTransGen (BotStep limits (unchanged id bot_token)) (s, ps) (t, qs)) :
    (∀ tenant_id, s.tables.get_telegram_update_offset tenant_id id ≤
      t.tables.get_telegram_update_offset tenant_id id) ∧
    ∀ tenant_id, ∀ update ∈ t.updates bot_token,
      update.update_id ≤ t.tables.get_telegram_update_offset tenant_id id →
        (id, bot_token, update.update_id) ∈ t.handled := by
  obtain ⟨hkept, hgrows⟩ := offsets_run (unchanged_watch id bot_token) hs ht
  refine ⟨fun tenant_id => hgrows.offset tenant_id id, fun tenant_id update hupdate hle => ?_⟩
  cases hoffset : t.tables.offset tenant_id id with
  | none =>
    rw [TelegramTables.get_of_none hoffset] at hle
    have hbound := hkept.numbered.bounded bot_token update hupdate
    omega
  | some row =>
    obtain ⟨bot, hbot, hkey⟩ := List.any_eq_true.mp (t.tables.has_bot_of_offset row hoffset)
    have hid : bot.id = id := by
      simp only [TelegramBotRow.is_bot, Bool.and_eq_true, beq_iff_eq] at hkey
      exact hkey.1.trans (TelegramTables.offset_key hoffset).2
    have hsettled := hkept.settled bot hbot hid tenant_id
    rw [hid, hkept.bots bot hbot hid] at hsettled
    exact hsettled.handled update hupdate hle

end Unchanged

/-! ### Runs -/

def accepted_bot : ExternalSendOutcome :=
  .Sent ⟨none, none, some 200, some "\x7b\"ok\":true,\"result\":\x7b\"username\":\"ops_bot\"\x7d\x7d"⟩

def ops_bot : CreateTelegramBotRequest :=
  { name := "ops"
    bot_token := "111:AAA"
    status := none
    proxy_url := none }

def text_update (update_id : Int) : TelegramUpdate :=
  { update_id := update_id
    message := none
    channel_post := none }

/-- A verified bot that has received an update. -/
def received_world : TelegramWorld :=
  let s := (telegram_start (W := Unit) fun _ => none).1
  let s := (BotCall.create 1 ops_bot).round .free accepted_bot s
  let s := (BotCall.verify 1 0).round .free accepted_bot s
  s.receive "111:AAA" (text_update 100)

/-- A poller has processed it. -/
def polled_world : TelegramWorld :=
  BotCall.poll.round .free accepted_bot received_world

section Runs
variable {C : TelegramWorld → TelegramQuery → Prop} {ok : TelegramWorld → TelegramQuery → Bool}
  (hok : ∀ s q, ok s q = true → C s q)
include hok

theorem received_run
    (hcreate : (BotCall.create 1 ops_bot).passes .free accepted_bot ok
      (telegram_start (W := Unit) fun _ => none).1 = true)
    (hverify : (BotCall.verify 1 0).passes .free accepted_bot ok ((BotCall.create 1 ops_bot).round
      .free accepted_bot (telegram_start (W := Unit) fun _ => none).1) = true) :
    ∃ qs, Relation.ReflTransGen (BotStep .free C) (telegram_start (W := Unit) fun _ => none)
      (received_world, qs) := by
  obtain ⟨ps, hps⟩ := BotCall.run hok () _ _ _ hcreate
  obtain ⟨qs, hqs⟩ := BotCall.run hok () _ _ ps hverify
  refine ⟨qs, (hps.trans hqs).tail (.others (.update "111:AAA" (text_update 100) ?_))⟩
  decide +kernel

theorem polled_run
    (hcreate : (BotCall.create 1 ops_bot).passes .free accepted_bot ok
      (telegram_start (W := Unit) fun _ => none).1 = true)
    (hverify : (BotCall.verify 1 0).passes .free accepted_bot ok ((BotCall.create 1 ops_bot).round
      .free accepted_bot (telegram_start (W := Unit) fun _ => none).1) = true)
    (hpoll : BotCall.poll.passes .free accepted_bot ok received_world = true) :
    ∃ qs, Relation.ReflTransGen (BotStep .free C) (telegram_start (W := Unit) fun _ => none)
      (polled_world, qs) := by
  obtain ⟨ps, hps⟩ := received_run hok hcreate hverify
  obtain ⟨qs, hqs⟩ := BotCall.run hok () _ _ ps hpoll
  exact ⟨qs, hps.trans hqs⟩

end Runs

instance (id : Uuid) (bot_token : String) (s : TelegramWorld) :
    DecidablePred (unchanged id bot_token s)
  | .create_telegram_bot .. => inferInstanceAs (Decidable (_ → _))
  | .update_telegram_bot .. => inferInstanceAs (Decidable (_ → _))
  | .get_telegram_bot_secret .. => inferInstanceAs (Decidable True)
  | .list_active_verified_telegram_bot_secrets => inferInstanceAs (Decidable True)
  | .mark_telegram_bot_verification .. => inferInstanceAs (Decidable True)
  | .claim_telegram_update_offset .. => inferInstanceAs (Decidable True)
  | .upsert_telegram_update_offset .. => inferInstanceAs (Decidable True)
  | .release_telegram_update_offset_lock .. => inferInstanceAs (Decidable True)

/-- One update is polled. -/
theorem updates_processed_polled : ∃ s t : TelegramWorld,
    (s.tables.get_telegram_update_offset 1 0 = 0 ∧
      t.tables.get_telegram_update_offset 1 0 = 100) ∧
    (∀ tenant_id, s.tables.get_telegram_update_offset tenant_id 0 ≤
      t.tables.get_telegram_update_offset tenant_id 0) ∧
    ∀ tenant_id, ∀ update ∈ t.updates "111:AAA",
      update.update_id ≤ t.tables.get_telegram_update_offset tenant_id 0 →
        (0, "111:AAA", update.update_id) ∈ t.handled := by
  have hok : ∀ s q, decide (unchanged 0 "111:AAA" s q) = true → unchanged 0 "111:AAA" s q :=
    fun _ _ => of_decide_eq_true
  obtain ⟨ps, hs⟩ := received_run hok (by decide +kernel) (by decide +kernel)
  obtain ⟨qs, ht⟩ := BotCall.run hok () .poll _ ps
    (show BotCall.poll.passes .free accepted_bot _ received_world = true by decide +kernel)
  exact ⟨received_world, polled_world, by decide +kernel, updates_processed hs ht⟩

/-! ### A token that is replaced -/

/-- Whenever the stored offset comes from another token, because the token is replaced or because a
poller goes on with an earlier one, the updates of the new token lie above it. -/
def above_offset (s : TelegramWorld) : TelegramQuery → Prop
  | .update_telegram_bot tenant_id id _ (some bot_token) _ _ _ =>
    ∀ row ∈ s.tables.telegram_bots, row.is_bot tenant_id id = true →
      row.bot_token = bot_token ∨ ∀ tenant_id, Settled s tenant_id id bot_token
  | .upsert_telegram_update_offset _ id update_id polled_token =>
    ∀ row ∈ s.tables.telegram_bots, row.id = id →
      row.bot_token = polled_token ∨ Processed s id row.bot_token update_id
  | _ => True

theorem above_offset_watch : Watch above_offset (fun _ => True) (fun _ => True) fun _ => True where
  start := trivial
  kept _ _ := trivial
  listed _ _ _ := trivial
  polled _ _ hC _ row hrow hid := hC row hrow hid
  replaced _ hC _ row hrow hkey := hC row hrow hkey

section Replaced
variable {W : Type} [DecidableEq W] {limits : Json.Limits} {telegram_proxy_url : Uuid → Option String}
  {t : TelegramWorld} {qs : W → BotProg Unit}

def replacement : BotCall :=
  .update 1 0 ⟨"ops", some "222:BBB", "active", none⟩

/-- The token has been replaced, and the new bot has been verified and has received its first
update. -/
def replaced_world : TelegramWorld :=
  let s := replacement.round .free accepted_bot polled_world
  let s := (BotCall.verify 1 0).round .free accepted_bot s
  s.receive "222:BBB" (text_update 5)

end Replaced

end CoinListener.Notifier
