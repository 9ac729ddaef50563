import CoinListener.Foundation.Transaction

/-! Calls that are one transaction and what they read afterwards: which errors may come too late. -/
namespace Foundation.Transaction

variable {Tables Change Key ε Query W : Type} {A : Query → Type} [DecidableEq W] [DecidableEq Key]
  {S : Schema Tables Change Key ε Query A} {edit : Tables → Tables → Prop} {fault : String → ε}
  {L : ε → Prop} {Read : Query → Prop} {w v : W} {α β : Type}

/-! ### The shape of a call -/

/-- A part of a call that only reads. It stops with a late error where its reads do. -/
def Reading (L : ε → Prop) (Read : Query → Prop) : Prog (Op Query) (Op.Answer A) ε α → Prop
  | .done _ => True
  | .fail e => L e
  | .ask op rest => (∃ q, op = .ask q ∧ Read q) ∧
    ∀ r, (∀ e, r = .error e → L e) → Reading L Read (rest r)

/-- A transaction that is open. It is committed, and then the call only reads, or it is rolled back
and the call fails. -/
def Opened (L : ε → Prop) (Read : Query → Prop) : Prog (Op Query) (Op.Answer A) ε α → Prop
  | .done _ => False
  | .fail _ => False
  | .ask .begin _ => False
  | .ask .commit rest => Reading L Read (rest (.ok ())) ∧ ∀ e, rest (.error e) = .fail e
  | .ask .rollback rest => ∀ r, ∃ e, rest r = .fail e
  | .ask (.ask _) rest => ∀ r, Opened L Read (rest r)

/-- A call before its transaction, or without one. -/
def OneTransaction (L : ε → Prop) (Read : Query → Prop) :
    Prog (Op Query) (Op.Answer A) ε α → Prop
  | .done _ => True
  | .fail _ => True
  | .ask .begin rest => Opened L Read (rest (.ok ())) ∧ ∀ e, rest (.error e) = .fail e
  | .ask _ _ => False

namespace Reading
variable {p : Prog (Op Query) (Op.Answer A) ε α} {f : α → Prog (Op Query) (Op.Answer A) ε β}

theorem done {a : α} : Reading L Read (.done a : Prog (Op Query) (Op.Answer A) ε α) :=
  trivial

theorem bind (hp : Reading L Read p) (hf : ∀ a, Reading L Read (f a)) :
    Reading L Read (p.bind f) := by
  induction p with
  | done a => exact hf a
  | fail e => exact hp
  | ask op rest ih => exact ⟨hp.1, fun r hr => ih r (hp.2 r hr)⟩

theorem lift {x : Except ε α} (h : ∀ e, x = .error e → L e) :
    Reading L Read (Prog.lift x : Prog (Op Query) (Op.Answer A) ε α) := by
  cases x with
  | ok a => trivial
  | error e => exact h e rfl

theorem perform {q : Query} (h : Read q) :
    Reading L Read (Prog.perform (Op.ask q) : Prog (Op Query) (Op.Answer A) ε (A q)) :=
  ⟨⟨q, rfl, h⟩, fun _ hr => lift hr⟩

end Reading

section Shape
variable {body : Prog (Op Query) (Op.Answer A) ε α} {f : α → Prog (Op Query) (Op.Answer A) ε β}

/-- What a transaction does once its body has come to an end. -/
theorem Opened.attempt {g : Except ε α → Prog (Op Query) (Op.Answer A) ε β}
    (hbody : body.Only fun op => ∃ q, op = .ask q) (hg : ∀ r, Opened L Read (g r)) :
    Opened L Read (body.attempt.bind g) := by
  induction body with
  | done a => exact hg _
  | fail e => exact hg _
  | ask op rest ih =>
    rw [Prog.Only.ask_iff] at hbody
    obtain ⟨⟨q, rfl⟩, hrest⟩ := hbody
    exact fun r => ih r (hrest r)

theorem OneTransaction.transaction (hbody : body.Only fun op => ∃ q, op = .ask q)
    (hf : ∀ a, Reading L Read (f a)) :
    OneTransaction L Read ((transaction body).bind f) := by
  refine ⟨?_, fun e => rfl⟩
  change Opened L Read ((body.attempt.bind _).bind f)
  rw [Prog.bind_assoc]
  refine Opened.attempt hbody fun r => ?_
  cases r with
  | ok a => exact ⟨hf a, fun e => rfl⟩
  | error e =>
    intro r
    cases r with
    | ok _ => exact ⟨e, rfl⟩
    | error _ => exact ⟨e, rfl⟩

/-- A check before the transaction. -/
theorem OneTransaction.check {x : Except ε α} (h : ∀ a, x = .ok a → OneTransaction L Read (f a)) :
    OneTransaction L Read ((Prog.lift x).bind f) := by
  cases x with
  | ok a => exact h a rfl
  | error e => trivial

/-- What is returned may be put in another form. -/
theorem Opened.map (g : α → β) (h : Opened L Read body) :
    Opened L Read (body.bind fun a => .done (g a)) := by
  induction body with
  | done a => exact h.elim
  | fail e => exact h.elim
  | ask op rest ih =>
    cases op with
    | begin => exact h.elim
    | ask q => exact fun r => ih r (h r)
    | commit =>
      exact ⟨.bind h.1 fun _ => trivial, fun e => congrArg (Prog.bind · _) (h.2 e)⟩
    | rollback =>
      intro r
      obtain ⟨e, he⟩ := h r
      exact ⟨e, congrArg (Prog.bind · _) he⟩

theorem OneTransaction.map (g : α → β) (h : OneTransaction L Read body) :
    OneTransaction L Read (body.bind fun a => .done (g a)) := by
  cases body with
  | done a => trivial
  | fail e => trivial
  | ask op rest =>
    cases op with
    | begin =>
      exact ⟨h.1.map g, fun e => congrArg (Prog.bind · _) (h.2 e)⟩
    | _ => exact h.elim

end Shape

/-! ### Runs -/

/-- The clients while one of them is at work on a call. -/
abbrev CallStep (S : Schema Tables Change Key ε Query A) (fault : String → ε)
    (edit : Tables → Tables → Prop) (call : Prog (Op Query) (Op.Answer A) ε α → Prop) (w : W) :
    World Tables Change Key W × (W → Prog (Op Query) (Op.Answer A) ε α) →
      World Tables Change Key W × (W → Prog (Op Query) (Op.Answer A) ε α) → Prop :=
  Prog.Crew (Carried S fault) (Edited edit) fun v s p t => v ≠ w ∧ Launch call v s p t

/-- The same, but the tables are changed by others only. -/
abbrev HarmlessStep (S : Schema Tables Change Key ε Query A) (fault : String → ε)
    (edit : Tables → Tables → Prop) (call : Prog (Op Query) (Op.Answer A) ε α → Prop) (w : W) :
    World Tables Change Key W × (W → Prog (Op Query) (Op.Answer A) ε α) →
      World Tables Change Key W × (W → Prog (Op Query) (Op.Answer A) ε α) → Prop :=
  Prog.Crew (fun v s op r t => Carried S fault v s op r t ∧ (v = w → t.tables = s.tables))
    (Edited edit) fun v s p t => v ≠ w ∧ Launch call v s p t

/-- The client's transaction is committed, whether or not it is told so. -/
def CommitStep (S : Schema Tables Change Key ε Query A) (w : W)
    (c d : World Tables Change Key W × (W → Prog (Op Query) (Op.Answer A) ε α)) : Prop :=
  ∃ rest r, c.2 w = .ask .commit rest ∧
    d = (c.1.commit S w, Function.update c.2 w (rest r))

section Runs
variable {call : Prog (Op Query) (Op.Answer A) ε α → Prop}
  {s t : World Tables Change Key W} {op : Op Query} {r : Except ε (op.Answer A)}
  {c₀ c d : World Tables Change Key W × (W → Prog (Op Query) (Op.Answer A) ε α)}

/-- Nobody writes to the transaction of another client. -/
theorem Carried.log_of_ne (h : Carried S fault v s op r t) (hne : w ≠ v) : t.log w = s.log w := by
  cases h with
  | begun => rfl
  | not_begun => rfl
  | answered => exact Function.update_of_ne hne ..
  | refused => rfl
  | unacknowledged => exact Function.update_of_ne hne ..
  | committed => exact Function.update_of_ne hne ..
  | not_committed => exact Function.update_of_ne hne ..
  | commit_lost => exact Function.update_of_ne hne ..
  | rolled_back => exact Function.update_of_ne hne ..

/-- How far a call has come. -/
inductive Phase (S : Schema Tables Change Key ε Query A) (fault : String → ε)
    (edit : Tables → Tables → Prop) (call : Prog (Op Query) (Op.Answer A) ε α → Prop)
    (L : ε → Prop) (Read : Query → Prop) (w : W)
    (c₀ c : World Tables Change Key W × (W → Prog (Op Query) (Op.Answer A) ε α)) : Prop where
  | outside (harmless : Relation.ReflTransGen (HarmlessStep S fault edit call w) c₀ c)
    (log : c.1.log w = []) (rest : OneTransaction L Read (c.2 w))
  | opened (harmless : Relation.ReflTransGen (HarmlessStep S fault edit call w) c₀ c)
    (rest : Opened L Read (c.2 w))
  | committed {a b} (before : Relation.ReflTransGen (HarmlessStep S fault edit call w) c₀ a)
    (commit : CommitStep S w a b)
    (after : Relation.ReflTransGen (HarmlessStep S fault edit call w) b c)
    (rest : Reading L Read (c.2 w))

/-- What others do leaves a call where it is. -/
theorem Phase.others (h : Phase S fault edit call L Read w c₀ c)
    (hstep : HarmlessStep S fault edit call w c d) (hlog : d.1.log w = c.1.log w)
    (hprog : d.2 w = c.2 w) : Phase S fault edit call L Read w c₀ d := by
  cases h with
  | outside harmless log rest =>
    exact .outside (harmless.tail hstep) (hlog.trans log) (hprog.symm ▸ rest)
  | opened harmless rest => exact .opened (harmless.tail hstep) (hprog.symm ▸ rest)
  | committed before commit after rest =>
    exact .committed before commit (after.tail hstep) (hprog.symm ▸ rest)

/-- The errors of a read come from the connection or from the statement itself. -/
theorem Carried.read_error {q : Query} {r : Except ε (A q)} (hfault : ∀ message, L (fault message))
    (hread : ∀ skipped now next_id tables e,
      (S.effect skipped now next_id tables q).answer = .error e → L e)
    (h : Carried S fault w s (.ask q) r t) : ∀ e, r = .error e → L e := by
  intro e he
  cases h with
  | answered => exact hread _ _ _ _ e he
  | refused message => exact Except.error.inj he ▸ hfault message
  | unacknowledged message => exact Except.error.inj he ▸ hfault message

/-- A statement of an open transaction changes no table. -/
theorem Carried.asked_tables {q : Query} {r : Except ε (A q)}
    (h : Carried S fault w s (.ask q) r t) : t.tables = s.tables := by
  cases h with
  | answered => rfl
  | refused => rfl
  | unacknowledged => rfl

/-- A step of the call itself. -/
theorem Phase.statement (hfault : ∀ message, L (fault message))
    (hread : ∀ q, Read q → ∀ skipped now next_id tables e,
      (S.effect skipped now next_id tables q).answer = .error e → L e)
    {ps : W → Prog (Op Query) (Op.Answer A) ε α} {rest : Except ε (op.Answer A) → _}
    (h : Phase S fault edit call L Read w c₀ (s, ps))
    (hp : ps w = .ask op rest) (hcarried : Carried S fault w s op r t) :
    Phase S fault edit call L Read w c₀ (t, Function.update ps w (rest r)) := by
  have hown : (t, Function.update ps w (rest r)).2 w = rest r := Function.update_self ..
  have hask : (s, ps).2 w = .ask op rest := hp
  have hstep : t.tables = s.tables →
      HarmlessStep S fault edit call w (s, ps) (t, Function.update ps w (rest r)) :=
    fun htables => .statement w hp ⟨hcarried, fun _ => htables⟩
  cases h with
  | outside harmless log hrest =>
    rw [hask] at hrest
    cases hcarried with
    | begun now =>
      refine .opened (harmless.tail (hstep rfl)) ?_
      rw [hown]
      exact hrest.1
    | not_begun message =>
      refine .outside (harmless.tail (hstep rfl)) log ?_
      rw [hown, hrest.2]
      trivial
    | _ => exact hrest.elim
  | opened harmless hrest =>
    rw [hask] at hrest
    cases op with
    | begin => exact hrest.elim
    | ask q =>
      refine .opened (harmless.tail (hstep hcarried.asked_tables)) ?_
      rw [hown]
      exact hrest r
    | rollback =>
      cases hcarried with
      | rolled_back =>
        obtain ⟨e, he⟩ := hrest r
        refine .outside (harmless.tail (hstep rfl)) (Function.update_self ..) ?_
        rw [hown, he]
        trivial
    | commit =>
      cases hcarried with
      | not_committed message =>
        refine .outside (harmless.tail (hstep rfl)) (Function.update_self ..) ?_
        rw [hown, hrest.2]
        trivial
      | committed =>
        refine .committed harmless ⟨rest, .ok (), hp, rfl⟩ .refl ?_
        rw [hown]
        exact hrest.1
      | commit_lost message =>
        refine .committed harmless ⟨rest, .error (fault message), hp, rfl⟩ .refl ?_
        rw [hown, hrest.2]
        exact hfault message
  | committed before commit after hrest =>
    rw [hask] at hrest
    obtain ⟨⟨q, rfl, hq⟩, hnext⟩ := hrest
    refine .committed before commit (after.tail (hstep hcarried.asked_tables)) ?_
    rw [hown]
    exact hnext r (Carried.read_error (S := S) (q := q) hfault (hread q hq) hcarried)

theorem Phase.step (hfault : ∀ message, L (fault message))
    (hread : ∀ q, Read q → ∀ skipped now next_id tables e,
      (S.effect skipped now next_id tables q).answer = .error e → L e)
    (h : Phase S fault edit call L Read w c₀ c) (hstep : CallStep S fault edit call w c d) :
    Phase S fault edit call L Read w c₀ d := by
  cases hstep with
  | launch v hl =>
    obtain ⟨hne, rfl, hp⟩ := hl
    refine h.others (.launch v ⟨hne, rfl, hp⟩) ?_ (Function.update_of_ne hne.symm ..)
    exact Function.update_of_ne hne.symm ..
  | @statement s t ps op rest r v hp hcarried =>
    by_cases hv : v = w
    · subst v
      exact h.statement hfault hread hp hcarried
    · have hne : w ≠ v := fun heq => hv heq.symm
      refine h.others (.statement v hp ⟨hcarried, fun heq => absurd heq hv⟩) ?_
        (Function.update_of_ne hne ..)
      exact hcarried.log_of_ne hne
  | others he =>
    refine h.others (.others he) ?_ rfl
    obtain ⟨tables, _, rfl⟩ := he
    rfl

/-- The run lemma. -/
theorem Phase.run (hfault : ∀ message, L (fault message))
    (hread : ∀ q, Read q → ∀ skipped now next_id tables e,
      (S.effect skipped now next_id tables q).answer = .error e → L e)
    (h : Phase S fault edit call L Read w c₀ c)
    (hrun : Relation.ReflTransGen (CallStep S fault edit call w) c d) :
    Phase S fault edit call L Read w c₀ d := by
  induction hrun with
  | refl => exact h
  | tail _ hstep ih => exact ih.step hfault hread hstep

/-- An error comes from a call that has changed nothing, or it is a late one of a call whose only
step with an effect is its commit. -/
theorem OneTransaction.run (hfault : ∀ message, L (fault message))
    (hread : ∀ q, Read q → ∀ skipped now next_id tables e,
      (S.effect skipped now next_id tables q).answer = .error e → L e)
    (hcall : OneTransaction L Read (c.2 w)) (hlog : c.1.log w = [])
    (hrun : Relation.ReflTransGen (CallStep S fault edit call w) c d) {e : ε}
    (hend : d.2 w = .fail e) :
    (Relation.ReflTransGen (HarmlessStep S fault edit call w) c d ∧ d.1.log w = []) ∨
      L e ∧ ∃ a b, Relation.ReflTransGen (HarmlessStep S fault edit call w) c a ∧
        CommitStep S w a b ∧ Relation.ReflTransGen (HarmlessStep S fault edit call w) b d := by
  have hstart : Phase S fault edit call L Read w c c := .outside .refl hlog hcall
  cases hstart.run hfault hread hrun with
  | outside harmless log rest => exact .inl ⟨harmless, log⟩
  | opened harmless rest =>
    rw [hend] at rest
    exact rest.elim
  | committed before commit after rest =>
    rw [hend] at rest
    exact .inr ⟨rest, _, _, before, commit, after⟩

end Runs

attribute [irreducible] Reading Opened OneTransaction

end Foundation.Transaction
