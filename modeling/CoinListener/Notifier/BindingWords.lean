import CoinListener.Notifier.BindingRace

/-! The requests that a message names, and the one that is bound when the message is processed. -/
namespace CoinListener.Notifier
open Foundation Storage

/-! ### Words -/

def words (text : String) : List (List Char) :=
  (text.toList.splitOnP Text.isWhitespace).filter (!·.isEmpty)

/-- The word without the separators at its ends. -/
def bare (part : List Char) : String :=
  String.ofList ((part.dropWhile is_code_separator).reverse.dropWhile is_code_separator).reverse

/-- The word is the short code of the request, up to ASCII case, or its bind token. -/
def Names (part : List Char) (request : TelegramBindingRequest) : Prop :=
  Text.eqIgnoreAsciiCase (bare part) request.short_code = true ∨ bare part = request.bind_token

/-- The word is taken for a code. -/
def CodeLike (part : List Char) : Prop :=
  "bind_".toList <+: (bare part).toList ∨ "CL-".toList <+: (bare part).toList

/-- The first word that is taken for a code names the request. -/
def FirstCode (text : String) (request : TelegramBindingRequest) : Prop :=
  ∃ before word after, words text = before ++ word :: after ∧ CodeLike word ∧ Names word request ∧
    ∀ other ∈ before, ¬ CodeLike other

def update_text (update : TelegramUpdate) : Option String :=
  (update_message update).bind (·.text)

/-- The chat of the update is identified by a text or a number. -/
def HasChat (update : TelegramUpdate) : Prop :=
  ∃ message ∈ update_message update, message.chat.id ≠ .other

/-! ### Processing -/

/-- A statement that is carried out. -/
def carried_out (now : Timestamp) (outcome : ExternalSendOutcome) (s : BindingWorld) :
    (op : BindingStatement) → AppResult op.Answer × BindingWorld
  | .db q => s.query now q
  | .send_telegram .. => (.ok outcome, s)

/-- A pending request of the bot that has not expired. -/
structure Live (t : BindingTables) (telegram_bot_id : Uuid) (now : Timestamp)
    (request : TelegramBindingRequest) : Prop where
  mem : request ∈ t.telegram_binding_requests
  bot : request.telegram_bot_id = telegram_bot_id
  pending : request.status = .pending
  in_time : now < request.expires_at

/-- Processing the update binds the request, whatever becomes of the confirmation. -/
def Binds (s : BindingWorld) (bot : TelegramBotSecret) (update : TelegramUpdate) (now : Timestamp)
    (request : TelegramBindingRequest) : Prop :=
  ∀ outcome, ∃ bound t,
    (process_telegram_binding_update bot.id bot.bot_token bot.effective_proxy_url update now).eval
      (carried_out now outcome) s = (.ok (some bound), t) ∧
    bound.id = request.id ∧
    ∃ row ∈ t.tables.telegram_binding_requests, row.id = request.id ∧ row.status = .bound

/-! ### Spelling -/

section Spelling
variable {part : List Char} {request : TelegramBindingRequest} {text code : String}

theorem ascii_letters {P : Char → Prop} (hupper : ∀ n : Fin 26, P (Char.ofNat (65 + n)))
    (hlower : ∀ n : Fin 26, P (Char.ofNat (97 + n)))
    (hother : ∀ c, ¬ ('A' ≤ c ∧ c ≤ 'Z') → ¬ ('a' ≤ c ∧ c ≤ 'z') → P c) (c : Char) : P c := by
  by_cases hup : 'A' ≤ c ∧ c ≤ 'Z'
  · have hlow : 65 ≤ c.toNat := hup.1
    have hhigh : c.toNat ≤ 90 := hup.2
    have hletter := hupper ⟨c.toNat - 65, by omega⟩
    have hnat : 65 + (c.toNat - 65) = c.toNat := by omega
    rw [hnat, Char.ofNat_toNat] at hletter
    exact hletter
  · by_cases hdown : 'a' ≤ c ∧ c ≤ 'z'
    · have hlow : 97 ≤ c.toNat := hdown.1
      have hhigh : c.toNat ≤ 122 := hdown.2
      have hletter := hlower ⟨c.toNat - 97, by omega⟩
      have hnat : 97 + (c.toNat - 97) = c.toNat := by omega
      rw [hnat, Char.ofNat_toNat] at hletter
      exact hletter
    · exact hother c hup hdown

theorem asciiLower_asciiUpper : Text.asciiLower ∘ Text.asciiUpper = Text.asciiLower := by
  funext c
  refine @ascii_letters (fun c => Text.asciiLower (Text.asciiUpper c) = Text.asciiLower c)
    (by decide) (by decide) (fun c hup hdown => ?_) c
  rw [Text.asciiUpper, if_neg hdown]

theorem asciiUpper_asciiLower : Text.asciiUpper ∘ Text.asciiLower = Text.asciiUpper := by
  funext c
  refine @ascii_letters (fun c => Text.asciiUpper (Text.asciiLower c) = Text.asciiUpper c)
    (by decide) (by decide) (fun c hup hdown => ?_) c
  rw [Text.asciiLower, if_neg hup]

theorem asciiUpper_idem : Text.asciiUpper ∘ Text.asciiUpper = Text.asciiUpper := by
  funext c
  refine @ascii_letters (fun c => Text.asciiUpper (Text.asciiUpper c) = Text.asciiUpper c)
    (by decide) (by decide) (fun c hup hdown => ?_) c
  have hsame : Text.asciiUpper c = c := if_neg hdown
  rw [hsame, hsame]

theorem toAsciiUppercase_idem (text : String) :
    Text.toAsciiUppercase (Text.toAsciiUppercase text) = Text.toAsciiUppercase text := by
  unfold Text.toAsciiUppercase
  rw [String.toList_ofList, List.map_map, asciiUpper_idem]

/-- Up to case, a text is the same as one in capitals exactly if it is that one in capitals. -/
theorem same_as_capitals (hcapitals : Text.toAsciiUppercase code = code) :
    Text.eqIgnoreAsciiCase text code = true ↔ code = Text.toAsciiUppercase text := by
  unfold Text.eqIgnoreAsciiCase
  rw [beq_iff_eq]
  constructor
  · intro h
    rw [← hcapitals]
    have hupper := congrArg Text.toAsciiUppercase h
    simp only [Text.toAsciiUppercase, Text.toAsciiLowercase, String.toList_ofList, List.map_map,
      asciiUpper_asciiLower] at hupper ⊢
    exact hupper.symm
  · rintro rfl
    unfold Text.toAsciiUppercase Text.toAsciiLowercase
    rw [String.toList_ofList, List.map_map, asciiLower_asciiUpper]

/-! ### Codes -/

theorem word_letters (h : part ∈ words text) : ∀ c ∈ part, Text.isWhitespace c = false := by
  have hsplit : ∀ text : List Char, ∀ part ∈ text.splitOnP Text.isWhitespace, ∀ c ∈ part,
      Text.isWhitespace c = false := by
    intro text
    induction text with
    | nil => simp
    | cons c text ih =>
      intro part hpart
      rw [List.splitOnP_cons_eq_if_modifyHead] at hpart
      by_cases hc : Text.isWhitespace c = true
      · rw [if_pos hc] at hpart
        rcases List.mem_cons.mp hpart with rfl | hpart
        · simp
        · exact ih part hpart
      · rw [if_neg hc] at hpart
        cases hrest : text.splitOnP Text.isWhitespace with
        | nil => exact absurd hrest (List.splitOnP_ne_nil _ _)
        | cons first rest =>
          rw [hrest, List.modifyHead_cons] at hpart
          rw [hrest] at ih
          rcases List.mem_cons.mp hpart with rfl | hpart
          · intro d hd
            rcases List.mem_cons.mp hd with rfl | hd
            · simpa using hc
            · exact ih first (List.mem_cons_self ..) d hd
          · exact ih part (List.mem_cons_of_mem _ hpart)
  exact hsplit text.toList part (List.mem_filter.mp h).1

theorem bare_letters (h : ∀ c ∈ part, Text.isWhitespace c = false) :
    ∀ c ∈ (bare part).toList, Text.isWhitespace c = false := by
  intro c hc
  rw [bare, String.toList_ofList, List.mem_reverse] at hc
  have hmem := List.mem_reverse.mp ((List.dropWhile_sublist _).subset hc)
  exact h c ((List.dropWhile_sublist _).subset hmem)

/-- For a short code in capitals the extracted code answers a request exactly if its word names it. -/
theorem answers_bare (hcapitals : Text.toAsciiUppercase request.short_code = request.short_code)
    (h : ∀ c ∈ part, Text.isWhitespace c = false) :
    request.answers (bare part) = true ↔ Names part request := by
  have htrim := Text.trim_of_no_space (bare_letters h)
  unfold TelegramBindingRequest.answers Names normalize_short_code
  rw [htrim, same_as_capitals hcapitals, Bool.or_eq_true, beq_iff_eq, beq_iff_eq, or_comm]
  exact or_congr_right eq_comm

theorem binding_code_iff : binding_code? part = some code ↔ CodeLike part ∧ code = bare part := by
  have htest : ("bind_".toList.isPrefixOf (bare part).toList ||
      "CL-".toList.isPrefixOf (bare part).toList) = true ↔ CodeLike part := by
    rw [Bool.or_eq_true, List.isPrefixOf_iff_prefix, List.isPrefixOf_iff_prefix]
    rfl
  have hcode : binding_code? part = if ("bind_".toList.isPrefixOf (bare part).toList ||
      "CL-".toList.isPrefixOf (bare part).toList) = true then some (bare part) else none := by
    have htoken : (bare part).toList =
        ((part.dropWhile is_code_separator).reverse.dropWhile is_code_separator).reverse :=
      String.toList_ofList
    rw [htoken]
    rfl
  rw [hcode, Option.ite_none_right_eq_some, htest, Option.some.injEq]
  exact and_congr_right fun _ => eq_comm

theorem binding_code_none : binding_code? part = none ↔ ¬ CodeLike part := by
  constructor
  · intro hnone hcode
    exact nomatch hnone.symm.trans (binding_code_iff.mpr ⟨hcode, rfl⟩)
  · intro hnot
    refine Option.eq_none_iff_forall_ne_some.mpr fun code hcode => ?_
    exact hnot (binding_code_iff.mp hcode).1

/-- What is extracted is the first word that is taken for a code. -/
theorem extracted_iff : extract_binding_code text = some code ↔
    ∃ before word after, words text = before ++ word :: after ∧ CodeLike word ∧ code = bare word ∧
      ∀ other ∈ before, ¬ CodeLike other := by
  unfold extract_binding_code
  rw [List.findSome?_eq_some_iff]
  constructor
  · rintro ⟨before, word, after, hwords, hcode, hbefore⟩
    obtain ⟨hlike, hbare⟩ := binding_code_iff.mp hcode
    exact ⟨before, word, after, hwords, hlike, hbare,
      fun other hother => binding_code_none.mp (hbefore other hother)⟩
  · rintro ⟨before, word, after, hwords, hlike, hbare, hbefore⟩
    exact ⟨before, word, after, hwords, binding_code_iff.mpr ⟨hlike, hbare⟩,
      fun other hother => binding_code_none.mpr (hbefore other hother)⟩

end Spelling

/-! ### Requests -/

/-- The short code of every request is in capitals. -/
def Capitals (s : BindingWorld) : Prop :=
  ∀ request ∈ s.tables.telegram_binding_requests,
    Text.toAsciiUppercase request.short_code = request.short_code

/-- A request is created with a short code in capitals. -/
def BindingStatement.Capital : BindingStatement → Prop
  | .db (.create_binding_request _ _ _ short_code _) => Text.toAsciiUppercase short_code = short_code
  | _ => True

section Requests
variable {s t : BindingWorld} {now : Timestamp} {telegram_bot_id : Uuid} {code : String}
  {request : TelegramBindingRequest} {update : TelegramUpdate}

theorem Capitals.edit (hs : Capitals s) {p : TelegramBindingRequest → Bool}
    {f : TelegramBindingRequest → TelegramBindingRequest}
    (hf : ∀ request, TelegramBindingRequest.Same request (f request)) {bindings : List Binding} :
    Capitals ⟨s.tables.edit_requests p f hf, bindings⟩ := by
  intro request hrequest
  obtain ⟨old, hold, rfl⟩ := Table.mem_update.mp hrequest
  rw [(TelegramBindingRequest.Same.revise hf old).short_code]
  exact hs old hold

theorem Capitals.query (hs : Capitals s) {q : BindingQuery}
    (hq : BindingStatement.Capital (.db q)) : Capitals (s.query now q).2 := by
  cases q with
  | get_telegram_bot_secret => exact hs
  | telegram_bot_secret_by_id_any_tenant => exact hs
  | get_binding_request => exact hs
  | create_binding_request tenant_id telegram_bot_id bind_token short_code expires_at =>
    simp only [BindingWorld.query]
    cases hcreate : s.tables.create_binding_request now tenant_id telegram_bot_id bind_token
        short_code expires_at with
    | error e => exact hs
    | ok result =>
      obtain ⟨created, tables⟩ := result
      rcases create_cases hcreate with rfl | ⟨_, _, hrows⟩
      · exact hs
      · intro request hrequest
        change request ∈ tables.telegram_binding_requests at hrequest
        rw [hrows] at hrequest
        rcases List.mem_append.mp hrequest with hold | hnew
        · exact hs request hold
        · rw [List.mem_singleton.mp hnew]
          exact hq
  | expire_binding_request_if_due => exact hs.edit (closed_same BindingStatus.expired (by decide))
  | cancel_binding_request => exact hs.edit (closed_same BindingStatus.cancelled (by decide))
  | bind_pending_request telegram_bot_id code chat now update =>
    simp only [BindingWorld.query, BindingTables.bind_pending_request]
    cases hfound : s.tables.bindable telegram_bot_id code now with
    | none => exact hs
    | some found =>
      have hf : ∀ request, TelegramBindingRequest.Same request
          (BindingTables.bound_request chat now request) :=
        fun _ => ⟨rfl, rfl, rfl, rfl, rfl, fun h => by cases h⟩
      exact hs.edit hf
  | update_binding_confirmation_error tenant_id id confirmation_error =>
    have hf : ∀ request : TelegramBindingRequest, TelegramBindingRequest.Same request
        { request with confirmation_error := some confirmation_error } :=
      fun _ => ⟨rfl, rfl, rfl, rfl, rfl, fun h => h⟩
    exact hs.edit hf

theorem Capitals.carried (hs : Capitals s) {op : BindingStatement} {r : AppResult op.Answer}
    (hop : op.Capital) (h : BindingCarried s op r t) : Capitals t := by
  cases h with
  | db now hfate =>
    rcases hfate.state with rfl | rfl
    · exact hs
    · exact hs.query hop
  | sent => exact hs

theorem Capitals.others (hs : Capitals s) (h : BindingOthers s t) : Capitals t := by
  cases h with
  | bots q => exact hs
  | delete tenant_id id => exact fun request hrequest => hs request (List.mem_filter.mp hrequest).1

end Requests

section Calls

theorem process_capital (telegram_bot_id : Uuid) (bot_token : String) (proxy_url : Option String)
    (update : TelegramUpdate) (now : Timestamp) :
    (process_telegram_binding_update telegram_bot_id bot_token proxy_url update now).Only
      BindingStatement.Capital := by
  unfold process_telegram_binding_update
  split
  · exact .done
  · refine .bind (.perform (by trivial)) fun bound => ?_
    cases bound with
    | none => exact .done
    | some binding =>
      refine .bind (.bind (.perform (by trivial)) fun outcome => ?_) fun _ => .done
      split
      · exact .done
      · exact .perform (by trivial)

theorem call_capital (call : BindingCall) : call.program.Only BindingStatement.Capital := by
  cases call with
  | webhook configured header bot_id update now =>
    change (telegram_webhook configured header bot_id update now).Only _
    unfold telegram_webhook
    split
    · refine .bind (.perform (by trivial)) fun _ => .bind .lift fun _ => ?_
      exact .bind (process_capital ..) fun _ => .done
    · exact .fail
  | poll bot update now => exact .bind (process_capital ..) fun _ => .done
  | create tenant_id telegram_bot_id token code now =>
    refine .bind ?_ fun _ => .done
    refine .bind (.perform (by trivial)) fun _ => .bind .lift fun _ => ?_
    exact .bind (.perform (toAsciiUppercase_idem _)) fun _ => .lift
  | get tenant_id id now =>
    refine .bind (.bind (.perform (by trivial)) fun _ => ?_) fun _ => .done
    exact .bind (.perform (by trivial)) fun _ => .lift
  | cancel tenant_id id =>
    exact .bind (.bind (.perform (by trivial)) fun _ => .lift) fun _ => .done

variable {W : Type} [DecidableEq W] {telegram_proxy_url : Uuid → Option String}
  {s : BindingWorld} {ps : W → BindingProg Unit}

theorem capitals_run
    (hrun : Relation.ReflTransGen BindingStep (binding_start telegram_proxy_url) (s, ps)) :
    Capitals s := by
  have hstart : Capitals (binding_start (W := W) telegram_proxy_url).1 ∧
      ∀ w, ((binding_start (W := W) telegram_proxy_url).2 w).Only BindingStatement.Capital :=
    ⟨fun _ h => absurd h List.not_mem_nil, fun _ => .done⟩
  refine (Prog.Crew.only_run ?_ ?_ ?_ hstart hrun).1
  · rintro w s p t hs ⟨rfl, call, rfl⟩
    exact ⟨hs, call_capital call⟩
  · exact fun hs hop h => hs.carried hop h
  · exact fun hs h => hs.others h

end Calls

/-! ### The request that is bound -/

section Bound
variable {s : BindingWorld} {bot : TelegramBotSecret} {update : TelegramUpdate} {now : Timestamp}
  {request found : TelegramBindingRequest} {text : String} {candidate : TelegramBindingCandidate}
  {outcome : ExternalSendOutcome}

theorem chat_binding_iff :
    (∃ chat, chat_binding_from_update update = some chat) ↔ HasChat update := by
  unfold chat_binding_from_update HasChat
  cases update_message update with
  | none => exact ⟨fun ⟨_, h⟩ => (nomatch h), fun ⟨_, h, _⟩ => nomatch h⟩
  | some message =>
    cases hid : message.chat.id with
    | string value => simp [TelegramChatId.to_string?, hid]
    | number text => simp [TelegramChatId.to_string?, hid]
    | other => simp [TelegramChatId.to_string?, hid]

theorem candidate_iff : telegram_binding_candidate update = some candidate ↔
    (∃ text, update_text update = some text ∧ extract_binding_code text = some candidate.code) ∧
      chat_binding_from_update update = some candidate.chat := by
  unfold telegram_binding_candidate extract_binding_code_from_update update_text
  simp only [Option.bind_eq_bind, Option.bind_eq_some_iff]
  constructor
  · rintro ⟨code, ⟨message, hmessage, text, htext, hcode⟩, chat, hchat, hsame⟩
    obtain rfl := Option.some.inj hsame
    exact ⟨⟨text, ⟨message, hmessage, htext⟩, hcode⟩, hchat⟩
  · rintro ⟨⟨text, ⟨message, hmessage, htext⟩, hcode⟩, hchat⟩
    exact ⟨_, ⟨message, hmessage, text, htext, hcode⟩, _, hchat, rfl⟩

/-- A confirmation leaves every request where it is and as it was answered. -/
theorem confirm_eval (s : BindingWorld) (proxy_url : Option String) (bot_token : String)
    (binding : TelegramBindingRequest) :
    ∃ t, (confirm_binding bot.id bot_token proxy_url candidate binding).eval
        (carried_out now outcome) s = (.ok (), t) ∧
      ∀ row ∈ s.tables.telegram_binding_requests,
        ∃ later ∈ t.tables.telegram_binding_requests,
          later.id = row.id ∧ later.status = row.status := by
  have hsend : Prog.eval (carried_out now outcome) (Prog.perform (.send_telegram
      { telegram_bot_id := some bot.id
        bot_token_env := none
        chat_id := binding.chat_id.getD candidate.chat.chat_id }
      bot_token (telegram_binding_confirmation_text (chat_name binding)) proxy_url)) s =
        (.ok outcome, s) := rfl
  by_cases hsent : outcome.is_sent = true
  · refine ⟨s, (Prog.eval_bind_ok _ hsend).trans ?_, fun row hrow => ⟨row, hrow, rfl, rfl⟩⟩
    rw [if_pos hsent]
    rfl
  · let last_error := outcome.metadata.last_error.getD "telegram binding confirmation was not sent"
    refine ⟨{ s with
      tables := s.tables.update_binding_confirmation_error binding.tenant_id binding.id last_error },
      (Prog.eval_bind_ok _ hsend).trans ?_, ?_⟩
    · rw [if_neg hsent]
      rfl
    · intro row hrow
      refine ⟨_, Table.mem_update.mpr ⟨row, hrow, rfl⟩, ?_⟩
      unfold Table.revise
      split
      · exact ⟨rfl, rfl⟩
      · exact ⟨rfl, rfl⟩

/-- The row that was found is bound, also after its confirmation has failed. -/
theorem process_found (hcandidate : telegram_binding_candidate update = some candidate)
    (hfound : s.tables.bindable bot.id candidate.code now = some found) :
    ∃ t, (process_telegram_binding_update bot.id bot.bot_token bot.effective_proxy_url update
        now).eval (carried_out now outcome) s =
          (.ok (some (BindingTables.bound_request candidate.chat now found)), t) ∧
      ∃ row ∈ t.tables.telegram_binding_requests, row.id = found.id ∧ row.status = .bound := by
  have hbound : BindingTables.bound_request candidate.chat now found ∈
      Table.update (·.id == found.id) (BindingTables.bound_request candidate.chat now)
        s.tables.telegram_binding_requests :=
    Table.mem_update.mpr ⟨found, (bindable_spec hfound).1, Table.revise_of_true (by simp)⟩
  unfold process_telegram_binding_update
  rw [hcandidate]
  have hquery : ∃ u, Prog.eval (carried_out now outcome) (binding_query (.bind_pending_request bot.id
      candidate.code candidate.chat now update)) s =
        (.ok (some (BindingTables.bound_request candidate.chat now found)), u) ∧
      BindingTables.bound_request candidate.chat now found ∈ u.tables.telegram_binding_requests := by
    simp only [binding_query, Prog.perform, Prog.eval, carried_out, BindingWorld.query,
      BindingTables.bind_pending_request, hfound]
    exact ⟨_, rfl, hbound⟩
  obtain ⟨u, heval, hrow⟩ := hquery
  obtain ⟨t, hconfirm, hkept⟩ := @confirm_eval bot now candidate outcome u bot.effective_proxy_url
    bot.bot_token (BindingTables.bound_request candidate.chat now found)
  refine ⟨t, (Prog.eval_bind_ok _ heval).trans ((Prog.eval_bind_ok _ hconfirm).trans rfl), ?_⟩
  exact hkept _ hrow

theorem process_not_found (hcandidate : telegram_binding_candidate update = some candidate)
    (hfound : s.tables.bindable bot.id candidate.code now = none) :
    ∃ t, (process_telegram_binding_update bot.id bot.bot_token bot.effective_proxy_url update
      now).eval (carried_out now outcome) s = (.ok none, t) := by
  unfold process_telegram_binding_update
  rw [hcandidate]
  simp only [binding_query, Prog.perform, bind, Prog.bind, Prog.eval, carried_out,
    BindingWorld.query, BindingTables.bind_pending_request, hfound, pure]
  exact ⟨_, rfl⟩

/-- An update in which no code is found binds nothing. -/
theorem not_bound_of_none (h : telegram_binding_candidate update = none) :
    ¬ Binds s bot update now request := by
  intro hbinds
  obtain ⟨bound, t, heval, _⟩ := hbinds (.Sent ⟨none, none, none, none⟩)
  unfold process_telegram_binding_update at heval
  rw [h] at heval
  exact nomatch (Prod.mk.inj heval).1

theorem not_bound_of_other (hcandidate : telegram_binding_candidate update = some candidate)
    (hfound : s.tables.bindable bot.id candidate.code now = none) :
    ¬ Binds s bot update now request := by
  intro hbinds
  obtain ⟨bound, t, heval, _⟩ := hbinds (.Sent ⟨none, none, none, none⟩)
  obtain ⟨u, hnone⟩ := process_not_found hcandidate hfound
  exact nomatch (Prod.mk.inj (hnone.symm.trans heval)).1

theorem bindable_some {telegram_bot_id : Uuid} {code : String}
    (hlive : Live s.tables telegram_bot_id now request) (hanswers : request.answers code = true) :
    ∃ found, s.tables.bindable telegram_bot_id code now = some found := by
  refine Option.ne_none_iff_exists'.mp fun hnone => ?_
  have hmem : request ∈ (s.tables.telegram_binding_requests.filter fun request =>
      request.telegram_bot_id == telegram_bot_id && request.is_pending &&
        decide (now < request.expires_at) && request.answers code).insertionSort
          fun a b => a.created_at ≤ b.created_at := by
    refine (List.mem_insertionSort _).mpr (List.mem_filter.mpr ⟨hlive.mem, ?_⟩)
    simp [TelegramBindingRequest.is_pending, hlive.bot, hlive.pending, hlive.in_time, hanswers]
  rw [List.head?_eq_none_iff.mp hnone] at hmem
  exact absurd hmem List.not_mem_nil

end Bound

section Run
variable {W : Type} [DecidableEq W] {telegram_proxy_url : Uuid → Option String} {s : BindingWorld}
  {ps : W → BindingProg Unit} {bot : TelegramBotSecret} {update : TelegramUpdate} {now : Timestamp}
  {request : TelegramBindingRequest} {text : String}

/-- In every reachable state, processing a message binds the one live request it names exactly if the
first word that is taken for a code names it, and the chat has an identifier. -/
theorem named_request_bound
    (hrun : Relation.ReflTransGen BindingStep (binding_start telegram_proxy_url) (s, ps))
    (hlive : Live s.tables bot.id now request) (htext : update_text update = some text)
    (honly : ∀ other, Live s.tables bot.id now other → (∃ word ∈ words text, Names word other) →
      other = request) :
    Binds s bot update now request ↔ FirstCode text request ∧ HasChat update := by
  have hcapitals := capitals_run hrun
  constructor
  · intro hbinds
    cases hcandidate : telegram_binding_candidate update with
    | none => exact absurd hbinds (not_bound_of_none hcandidate)
    | some candidate =>
      cases hfound : s.tables.bindable bot.id candidate.code now with
      | none => exact absurd hbinds (not_bound_of_other hcandidate hfound)
      | some found =>
        obtain ⟨bound, t, heval, hid, _⟩ := hbinds (.Sent ⟨none, none, none, none⟩)
        obtain ⟨u, hsome, _⟩ := process_found hcandidate hfound
        have hsame := (Prod.mk.inj (hsome.symm.trans heval)).1
        obtain rfl := Option.some.inj (Except.ok.inj hsame)
        obtain ⟨hmem, _, _, _, hanswers⟩ := bindable_spec hfound
        obtain rfl := same_request hmem hlive.mem hid
        obtain ⟨⟨other_text, hother, hextract⟩, hchat⟩ := candidate_iff.mp hcandidate
        obtain rfl := Option.some.inj (hother.symm.trans htext)
        obtain ⟨before, word, after, hwords, hlike, hcode, hbefore⟩ := extracted_iff.mp hextract
        have hword : word ∈ words other_text := by
          rw [hwords]
          exact List.mem_append_right before (List.mem_cons_self ..)
        refine ⟨⟨before, word, after, hwords, hlike, ?_, hbefore⟩, chat_binding_iff.mp ⟨_, hchat⟩⟩
        exact (answers_bare (hcapitals found hmem) (word_letters hword)).mp (hcode ▸ hanswers)
  · rintro ⟨⟨before, word, after, hwords, hlike, hnames, hbefore⟩, hhas⟩ outcome
    have hword : word ∈ words text := by
      rw [hwords]
      exact List.mem_append_right before (List.mem_cons_self ..)
    obtain ⟨chat, hchat⟩ := chat_binding_iff.mpr hhas
    have hextract := extracted_iff.mpr ⟨before, word, after, hwords, hlike, rfl, hbefore⟩
    have hcandidate : telegram_binding_candidate update = some ⟨bare word, chat⟩ :=
      candidate_iff.mpr ⟨⟨text, htext, hextract⟩, hchat⟩
    have hanswers :=
      (answers_bare (hcapitals request hlive.mem) (word_letters hword)).mpr hnames
    obtain ⟨found, hfound⟩ := bindable_some hlive hanswers
    -- Whichever live request is found, the message names it.
    obtain ⟨hmem, hbot, hpending, htime, hfits⟩ := bindable_spec hfound
    have hother := (answers_bare (hcapitals found hmem) (word_letters hword)).mp hfits
    obtain rfl := honly found ⟨hmem, hbot, hpending, htime⟩ ⟨word, hword, hother⟩
    obtain ⟨t, heval, hrow⟩ := process_found hcandidate hfound
    exact ⟨_, t, heval, rfl, hrow⟩

end Run

/-! ### Messages -/

def binding_bot : TelegramBotSecret :=
  ⟨0, 1, "111:AAA", none, STATUS_ACTIVE⟩

def said (text : String) : TelegramUpdate :=
  { code_update with
    message := code_update.message.map fun message => { message with text := some text } }

theorem hex_a : ('a'.isDigit || ('a' ≤ 'a' && 'a' ≤ 'f')) = true := by
  decide

def open_request : TelegramBindingRequest :=
  verified_ops_bot.tables.new_request 0 1 0 ("bind_" ++ (uuid_of 'a' hex_a).text) "CL-CCCCCC" 900

theorem requested_rows :
    requested_world.tables.telegram_binding_requests = [open_request] := by
  decide +kernel

theorem open_live : Live requested_world.tables binding_bot.id 10 open_request where
  mem := by
    rw [requested_rows]
    exact List.mem_singleton_self _
  bot := rfl
  pending := rfl
  in_time := by decide

theorem live_open {request : TelegramBindingRequest}
    (h : Live requested_world.tables binding_bot.id 10 request) : request = open_request := by
  have hmem := h.mem
  rw [requested_rows] at hmem
  exact List.mem_singleton.mp hmem

/-- A message with the short code in capitals. -/
theorem named_request_bound_capitals :
    Binds requested_world binding_bot (said "cl: CL-CCCCCC") 10 open_request := by
  obtain ⟨qs, hrun⟩ := requested_run
  refine (named_request_bound hrun open_live rfl fun other hother _ => live_open hother).mpr ?_
  refine ⟨⟨["cl:".toList], "CL-CCCCCC".toList, [], ?_, .inr ?_, .inl ?_, ?_⟩, _, rfl, ?_⟩
  · decide +kernel
  · decide +kernel
  · decide +kernel
  · intro other hother
    rw [List.mem_singleton.mp hother]
    exact binding_code_none.mp (by decide +kernel)
  · decide

/-- The short code in small letters is not found, nor is one behind another word that looks like a
code. -/
theorem named_request_not_bound :
    ∃ (s : BindingWorld) (ps : Unit → BindingProg Unit) (request : TelegramBindingRequest),
      Relation.ReflTransGen BindingStep (binding_start fun _ => none) (s, ps) ∧
      Live s.tables binding_bot.id 10 request ∧
      (∀ other, Live s.tables binding_bot.id 10 other → other = request) ∧
      ∀ text ∈ ["cl-cccccc", "CL-OPS asks for CL-CCCCCC"],
        (∃ word ∈ words text, Names word request) ∧ ¬ Binds s binding_bot (said text) 10 request := by
  obtain ⟨qs, hrun⟩ := requested_run
  refine ⟨requested_world, qs, open_request, hrun, open_live, fun _ => live_open, ?_⟩
  intro text htext
  constructor
  · rcases List.mem_cons.mp htext with rfl | htext
    · exact ⟨"cl-cccccc".toList, by decide +kernel, .inl (by decide +kernel)⟩
    · rw [List.mem_singleton.mp htext]
      exact ⟨"CL-CCCCCC".toList, by decide +kernel, .inl (by decide +kernel)⟩
  · rcases List.mem_cons.mp htext with rfl | htext
    · exact not_bound_of_none (by decide +kernel)
    · rw [List.mem_singleton.mp htext]
      have hcandidate : telegram_binding_candidate (said "CL-OPS asks for CL-CCCCCC") =
          some ⟨"CL-OPS", ⟨"42", "private", none, some "ops"⟩⟩ := by decide +kernel
      exact not_bound_of_other hcandidate (by decide +kernel)

end CoinListener.Notifier
