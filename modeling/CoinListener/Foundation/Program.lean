import Mathlib.Logic.Relation

/-! Programs that issue one statement at a time, and what survives every step of a run. -/
namespace Foundation

/-! ### The fate of a statement -/

section Fate
variable {σ α ε : Type} (fault : String → ε) (s : σ) (outcome : Except ε α × σ)

/-- What may become of a statement that has this outcome in state `s`: it is carried out and
answered, refused without effect, or carried out while its answer is lost. -/
inductive Fate : Except ε α → σ → Prop where
  | answered : Fate outcome.1 outcome.2
  | refused (message : String) : Fate (.error (fault message)) s
  | unacknowledged (message : String) : Fate (.error (fault message)) outcome.2

/-- A statement leaves the state it found or the one it makes. -/
theorem Fate.state {r : Except ε α} {t : σ} (h : Fate fault s outcome r t) :
    t = s ∨ t = outcome.2 := by
  cases h with
  | answered => exact .inr rfl
  | refused => exact .inl rfl
  | unacknowledged => exact .inr rfl

/-- An answer is the statement's own. -/
theorem Fate.answer {a : α} {t : σ} (h : Fate fault s outcome (.ok a) t) :
    outcome.1 = .ok a ∧ outcome.2 = t := by
  generalize hr : (Except.ok a : Except ε α) = r at h
  cases h with
  | answered => exact ⟨rfl, rfl⟩
  | refused => exact nomatch hr
  | unacknowledged => exact nomatch hr

/-- The fate of a statement as a choice made beforehand. -/
inductive Outcome where
  | answered
  | refused (message : String)
  | unacknowledged (message : String)
deriving DecidableEq

def Outcome.apply : Outcome → Except ε α × σ
  | .answered => outcome
  | .refused message => (.error (fault message), s)
  | .unacknowledged message => (.error (fault message), outcome.2)

theorem Outcome.fate (choice : Outcome) :
    Fate fault s outcome (choice.apply fault s outcome).1 (choice.apply fault s outcome).2 := by
  cases choice with
  | answered => exact .answered
  | refused message => exact .refused message
  | unacknowledged message => exact .unacknowledged message

/-- The statement takes effect. -/
def Outcome.commits : Outcome → Bool
  | .refused _ => false
  | _ => true

end Fate

/-! ### Programs -/

/-- A program over statements `Op`: it returns, stops with an error, or issues a statement and
continues on what came back. -/
inductive Prog (Op : Type) (Ans : Op → Type) (ε α : Type) : Type where
  | done (a : α)
  | fail (e : ε)
  | ask (op : Op) (rest : Except ε (Ans op) → Prog Op Ans ε α)

namespace Prog

variable {Op : Type} {Ans : Op → Type} {ε α β γ σ : Type}

def bind : Prog Op Ans ε α → (α → Prog Op Ans ε β) → Prog Op Ans ε β
  | .done a, f => f a
  | .fail e, _ => .fail e
  | .ask op rest, f => .ask op fun r => (rest r).bind f

instance : Monad (Prog Op Ans ε) where
  pure := .done
  bind := bind

/-- A pure result that may be an error. -/
def lift : Except ε α → Prog Op Ans ε α
  | .ok a => .done a
  | .error e => .fail e

/-- One statement whose error ends the program. -/
def perform (op : Op) : Prog Op Ans ε (Ans op) :=
  .ask op lift

/-- The outcome of a program as a value, so that the caller can look at the error. -/
def attempt : Prog Op Ans ε α → Prog Op Ans ε (Except ε α)
  | .done a => .done (.ok a)
  | .fail e => .done (.error e)
  | .ask op rest => .ask op fun r => (rest r).attempt

/-- One program for each item, in order; what they return is joined. -/
def forEach (f : α → Prog Op Ans ε (List β)) : List α → Prog Op Ans ε (List β)
  | [] => .done []
  | a :: items => (f a).bind fun xs => (forEach f items).bind fun ys => .done (xs ++ ys)

@[simp] theorem pure_eq (a : α) : (pure a : Prog Op Ans ε α) = .done a := rfl

@[simp] theorem bind_eq (p : Prog Op Ans ε α) (f : α → Prog Op Ans ε β) : p >>= f = p.bind f := rfl

@[simp] theorem done_bind (a : α) (f : α → Prog Op Ans ε β) :
    (Prog.done a : Prog Op Ans ε α).bind f = f a := rfl

@[simp] theorem fail_bind (e : ε) (f : α → Prog Op Ans ε β) :
    (Prog.fail e : Prog Op Ans ε α).bind f = .fail e := rfl

@[simp] theorem ask_bind (op : Op) (rest : Except ε (Ans op) → Prog Op Ans ε α)
    (f : α → Prog Op Ans ε β) : (Prog.ask op rest).bind f = .ask op fun r => (rest r).bind f := rfl

@[simp] theorem lift_ok (a : α) : (lift (.ok a) : Prog Op Ans ε α) = .done a := rfl

@[simp] theorem lift_error (e : ε) : (lift (.error e) : Prog Op Ans ε α) = .fail e := rfl

theorem bind_assoc (p : Prog Op Ans ε α) (f : α → Prog Op Ans ε β) (g : β → Prog Op Ans ε γ) :
    (p.bind f).bind g = p.bind fun a => (f a).bind g := by
  induction p with
  | done a => rfl
  | fail e => rfl
  | ask op rest ih => exact congrArg (Prog.ask op) (funext fun r => ih r)

/-- To look at the error and to hand it on is the same as to do nothing. -/
theorem attempt_lift (p : Prog Op Ans ε α) : p.attempt.bind lift = p := by
  induction p with
  | done a => rfl
  | fail e => rfl
  | ask op rest ih => exact congrArg (Prog.ask op) (funext fun r => ih r)

/-- An outcome that nobody looks at. -/
theorem lift_attempt_bind (x : Except ε α) (p : Prog Op Ans ε β) :
    (lift x).attempt.bind (fun _ => p) = p := by
  cases x with
  | ok a => rfl
  | error e => rfl

theorem attempt_bind_attempt (p : Prog Op Ans ε α) (f : Except ε α → Prog Op Ans ε β) :
    (p.attempt.bind f).attempt = p.attempt.bind fun r => (f r).attempt := by
  induction p with
  | done a => rfl
  | fail e => rfl
  | ask op rest ih => exact congrArg (Prog.ask op) (funext fun r => ih r)

/-! ### Deterministic runs -/

/-- Runs a program against a store that answers every statement. -/
def eval (step : σ → (op : Op) → Except ε (Ans op) × σ) : Prog Op Ans ε α → σ → Except ε α × σ
  | .done a, s => (.ok a, s)
  | .fail e, s => (.error e, s)
  | .ask op rest, s => eval step (rest (step s op).1) (step s op).2

section Eval
variable (step : σ → (op : Op) → Except ε (Ans op) × σ)

@[simp] theorem eval_done (a : α) (s : σ) :
    eval step (.done a : Prog Op Ans ε α) s = (.ok a, s) := rfl

@[simp] theorem eval_fail (e : ε) (s : σ) :
    eval step (.fail e : Prog Op Ans ε α) s = (.error e, s) := rfl

@[simp] theorem eval_ask (op : Op) (rest : Except ε (Ans op) → Prog Op Ans ε α) (s : σ) :
    eval step (.ask op rest) s = eval step (rest (step s op).1) (step s op).2 := rfl

theorem eval_bind (p : Prog Op Ans ε α) (f : α → Prog Op Ans ε β) (s : σ) :
    eval step (p.bind f) s = match eval step p s with
      | (.ok a, t) => eval step (f a) t
      | (.error e, t) => (.error e, t) := by
  induction p generalizing s with
  | done a => rfl
  | fail e => rfl
  | ask op rest ih => exact ih _ _

theorem eval_bind_ok {p : Prog Op Ans ε α} {f : α → Prog Op Ans ε β} {s t : σ} {a : α}
    (h : eval step p s = (.ok a, t)) : eval step (p.bind f) s = eval step (f a) t := by
  rw [eval_bind, h]

theorem eval_bind_error {p : Prog Op Ans ε α} {f : α → Prog Op Ans ε β} {s t : σ} {e : ε}
    (h : eval step p s = (.error e, t)) : eval step (p.bind f) s = (.error e, t) := by
  rw [eval_bind, h]

/-- A sequence returns where its parts do. -/
theorem eval_bind_ok_iff {p : Prog Op Ans ε α} {f : α → Prog Op Ans ε β} {s u : σ} {b : β} :
    eval step (p.bind f) s = (.ok b, u) ↔
      ∃ a t, eval step p s = (.ok a, t) ∧ eval step (f a) t = (.ok b, u) := by
  constructor
  · intro h
    rw [eval_bind] at h
    split at h
    · rename_i a t hp
      exact ⟨a, t, hp, h⟩
    · exact nomatch congrArg Prod.fst h
  · rintro ⟨a, t, hp, hf⟩
    rw [eval_bind_ok step hp, hf]

@[simp] theorem eval_lift (x : Except ε α) (s : σ) :
    eval step (lift x : Prog Op Ans ε α) s = (x, s) := by
  cases x with
  | ok a => rfl
  | error e => rfl

@[simp] theorem eval_perform (op : Op) (s : σ) :
    eval step (perform op : Prog Op Ans ε (Ans op)) s = step s op :=
  eval_lift step ..

/-- A loop returns where each of its rounds does. -/
theorem eval_forEach_ok {f : α → Prog Op Ans ε (List β)}
    (h : ∀ a s, ∃ b t, eval step (f a) s = (.ok b, t)) (items : List α) (s : σ) :
    ∃ b t, eval step (forEach f items) s = (.ok b, t) := by
  induction items generalizing s with
  | nil => exact ⟨[], s, rfl⟩
  | cons a items ih =>
    obtain ⟨xs, t, hfirst⟩ := h a s
    obtain ⟨ys, u, hrest⟩ := ih t
    refine ⟨xs ++ ys, u, (eval_bind_ok step hfirst).trans ?_⟩
    rw [eval_bind_ok step hrest, eval_done]

theorem eval_attempt (p : Prog Op Ans ε α) (s : σ) :
    eval step p.attempt s = (.ok (eval step p s).1, (eval step p s).2) := by
  induction p generalizing s with
  | done a => rfl
  | fail e => rfl
  | ask op rest ih => exact ih _ _

end Eval

/-- A program and its store after so many statements of a deterministic run. -/
def advance (step : σ → (op : Op) → Except ε (Ans op) × σ) :
    Nat → Prog Op Ans ε α → σ → Prog Op Ans ε α × σ
  | 0, p, s => (p, s)
  | _ + 1, .done a, s => (.done a, s)
  | _ + 1, .fail e, s => (.fail e, s)
  | n + 1, .ask op rest, s => advance step n (rest (step s op).1) (step s op).2

/-! ### Every step of every run -/

/-- `Safe A H R I Q p s`: from `s`, whatever the statements answer (`H`) and whatever others do in
between (`R`), every statement is allowed (`A`), every state on the way satisfies `I` and every end
satisfies `Q`. -/
def Safe (A : σ → Op → Prop) (H : σ → (op : Op) → Except ε (Ans op) → σ → Prop) (R : σ → σ → Prop)
    (I : σ → Prop) (Q : Except ε α → σ → Prop) : Prog Op Ans ε α → σ → Prop
  | .done a, s => ∀ t, R s t → I t ∧ Q (.ok a) t
  | .fail e, s => ∀ t, R s t → I t ∧ Q (.error e) t
  | .ask op rest, s =>
    ∀ t, R s t → (I t ∧ A t op) ∧ ∀ r u, H t op r u → Safe A H R I Q (rest r) u

/-- Where no statement is ruled out. -/
def Any : σ → Op → Prop := fun _ _ => True

section Safe
variable {A : σ → Op → Prop} {H : σ → (op : Op) → Except ε (Ans op) → σ → Prop}
  {R : σ → σ → Prop} {I : σ → Prop}
  {Q Q' : Except ε α → σ → Prop} {p : Prog Op Ans ε α} {s t : σ}

theorem Safe.now (hR : ∀ s, R s s) (h : Safe A H R I Q p s) : I s := by
  cases p with
  | done a => exact (h s (hR s)).1
  | fail e => exact (h s (hR s)).1
  | ask op rest => exact (h s (hR s)).1.1

/-- What others do between two statements keeps a program safe. -/
theorem Safe.interfere (hT : ∀ {a b c}, R a b → R b c → R a c) (h : Safe A H R I Q p s)
    (hst : R s t) : Safe A H R I Q p t := by
  cases p with
  | done a => exact fun u hu => h u (hT hst hu)
  | fail e => exact fun u hu => h u (hT hst hu)
  | ask op rest => exact fun u hu => h u (hT hst hu)

theorem Safe.statement {op : Op} {rest : Except ε (Ans op) → Prog Op Ans ε α}
    {r : Except ε (Ans op)} (hR : ∀ s, R s s) (h : Safe A H R I Q (.ask op rest) s)
    (hr : H s op r t) : Safe A H R I Q (rest r) t :=
  (h s (hR s)).2 r t hr

theorem Safe.allowed {op : Op} {rest : Except ε (Ans op) → Prog Op Ans ε α} (hR : ∀ s, R s s)
    (h : Safe A H R I Q (.ask op rest) s) : A s op :=
  (h s (hR s)).1.2

theorem Safe.mono (h : Safe A H R I Q p s) (hQ : ∀ r t, I t → Q r t → Q' r t) :
    Safe A H R I Q' p s := by
  induction p generalizing s with
  | done a => exact fun t ht => ⟨(h t ht).1, hQ _ _ (h t ht).1 (h t ht).2⟩
  | fail e => exact fun t ht => ⟨(h t ht).1, hQ _ _ (h t ht).1 (h t ht).2⟩
  | ask op rest ih => exact fun t ht => ⟨(h t ht).1, fun r u hu => ih r ((h t ht).2 r u hu)⟩

/-- Sequencing: the second program is safe wherever the first may return. -/
theorem Safe.bind {f : α → Prog Op Ans ε β} {Q : Except ε β → σ → Prop}
    (h : Safe A H R I (fun r t => match r with
      | .ok a => Safe A H R I Q (f a) t
      | .error e => Safe A H R I Q (.fail e : Prog Op Ans ε β) t) p s) (hR : ∀ s, R s s) :
    Safe A H R I Q (p.bind f) s := by
  induction p generalizing s with
  | done a => exact (h s (hR s)).2
  | fail e => exact (h s (hR s)).2
  | ask op rest ih =>
    intro t ht
    exact ⟨(h t ht).1, fun r u hu => ih r ((h t ht).2 r u hu)⟩

/-- What a program does is the same when its error is handed on as a value. -/
theorem Safe.attempt {Q : Except ε (Except ε α) → σ → Prop}
    (h : Safe A H R I (fun r t => Q (.ok r) t) p s) : Safe A H R I Q p.attempt s := by
  induction p generalizing s with
  | done a => exact h
  | fail e => exact h
  | ask op rest ih =>
    intro t ht
    exact ⟨(h t ht).1, fun r u hu => ih r ((h t ht).2 r u hu)⟩

/-- A single statement: its answer, good or bad, leads to a state where the end condition holds. -/
theorem Safe.perform {op : Op} {Q : Except ε (Ans op) → σ → Prop}
    (h : ∀ t, R s t → (I t ∧ A t op) ∧ ∀ r u, H t op r u → ∀ v, R u v → I v ∧ Q r v) :
    Safe A H R I Q (Prog.perform op) s := by
  intro t ht
  refine ⟨(h t ht).1, fun r u hu => ?_⟩
  cases r with
  | ok a => exact (h t ht).2 _ u hu
  | error e => exact (h t ht).2 _ u hu

end Safe

/-! ### Assertions -/

/-- A condition that others do not break and under which the state is good. -/
structure Assn (R : σ → σ → Prop) (I : σ → Prop) where
  holds : σ → Prop
  stable : ∀ {s t}, holds s → R s t → holds t
  good : ∀ {s}, holds s → I s

/-- From `P` the program keeps every state good, returns in `Q` and stops with an error in `E`. -/
structure Triple {R : σ → σ → Prop} {I : σ → Prop} (A : σ → Op → Prop)
    (H : σ → (op : Op) → Except ε (Ans op) → σ → Prop) (P : Assn R I) (p : Prog Op Ans ε α)
    (Q : α → Assn R I) (E : ε → Assn R I) : Prop where
  safe : ∀ s, P.holds s → Safe A H R I (fun r t => match r with
    | .ok a => (Q a).holds t
    | .error e => (E e).holds t) p s

namespace Triple
variable {A : σ → Op → Prop} {H : σ → (op : Op) → Except ε (Ans op) → σ → Prop}
  {R : σ → σ → Prop} {I : σ → Prop}
  {P P' : Assn R I} {Q Q' : α → Assn R I} {E E' : ε → Assn R I} {p : Prog Op Ans ε α}

theorem done {a : α} (h : ∀ s, P.holds s → (Q a).holds s) : Triple A H P (.done a) Q E :=
  ⟨fun _ hs _ ht => ⟨P.good (P.stable hs ht), h _ (P.stable hs ht)⟩⟩

theorem fail {e : ε} (h : ∀ s, P.holds s → (E e).holds s) : Triple A H P (.fail e) Q E :=
  ⟨fun _ hs _ ht => ⟨P.good (P.stable hs ht), h _ (P.stable hs ht)⟩⟩

theorem lift {x : Except ε α} (hok : ∀ a, x = .ok a → ∀ s, P.holds s → (Q a).holds s)
    (herror : ∀ e, x = .error e → ∀ s, P.holds s → (E e).holds s) :
    Triple A H P (Prog.lift x) Q E := by
  cases x with
  | ok a => exact done (hok a rfl)
  | error e => exact fail (herror e rfl)

/-- One statement: what it may answer in a state leads where it should. -/
theorem ask {op : Op} {rest : Except ε (Ans op) → Prog Op Ans ε α}
    (hA : ∀ s, P.holds s → A s op)
    (h : ∀ s, P.holds s → ∀ r t, H s op r t → ∃ M : Assn R I, M.holds t ∧ Triple A H M (rest r) Q E) :
    Triple A H P (.ask op rest) Q E := by
  constructor
  intro s hs t ht
  have hP := P.stable hs ht
  refine ⟨⟨P.good hP, hA t hP⟩, fun r u hu => ?_⟩
  obtain ⟨M, hM, hrest⟩ := h t hP r u hu
  exact hrest.safe u hM

theorem perform {op : Op} {Q : Ans op → Assn R I} (hA : ∀ s, P.holds s → A s op)
    (h : ∀ s, P.holds s → ∀ r t, H s op r t → match r with
      | .ok a => (Q a).holds t
      | .error e => (E e).holds t) :
    Triple A H P (Prog.perform op) Q E := by
  refine ask hA fun s hs r t ht => ?_
  have hr := h s hs r t ht
  cases r with
  | ok a => exact ⟨Q a, hr, done fun _ h => h⟩
  | error e => exact ⟨E e, hr, fail fun _ h => h⟩

theorem bind {β : Type} {f : α → Prog Op Ans ε β} {Q' : β → Assn R I} (hR : ∀ s, R s s)
    (hp : Triple A H P p Q E) (hf : ∀ a, Triple A H (Q a) (f a) Q' E) :
    Triple A H P (p.bind f) Q' E := by
  constructor
  intro s hs
  refine Safe.bind ((hp.safe s hs).mono fun r t _ hr => ?_) hR
  cases r with
  | ok a => exact (hf a).safe t hr
  | error e => exact fun u hu => ⟨(E e).good ((E e).stable hr hu), (E e).stable hr hu⟩

/-- An attempt returns what the program returns, or its error. -/
theorem attempt {Q' : Except ε α → Assn R I} (hp : Triple A H P p Q E)
    (hQ : ∀ a s, (Q a).holds s → (Q' (.ok a)).holds s)
    (hE : ∀ e s, (E e).holds s → (Q' (.error e)).holds s) : Triple A H P p.attempt Q' E' := by
  constructor
  intro s hs
  refine ((hp.safe s hs).mono fun r t _ hr => ?_).attempt
  cases r with
  | ok a => exact hQ a t hr
  | error e => exact hE e t hr

/-- What a pure result says is known to the rest of the program. -/
theorem bind_lift {β : Type} {x : Except ε α} {f : α → Prog Op Ans ε β} {Q : β → Assn R I}
    (hok : ∀ a, x = .ok a → Triple A H P (f a) Q E)
    (herror : ∀ e, x = .error e → ∀ s, P.holds s → (E e).holds s) :
    Triple A H P ((Prog.lift x).bind f) Q E := by
  cases x with
  | ok a => exact hok a rfl
  | error e => exact fail (herror e rfl)

/-- What a statement answered is known to the rest of the program. -/
theorem bind_perform {β : Type} {op : Op} {f : Ans op → Prog Op Ans ε β} {Q : β → Assn R I}
    (hA : ∀ s, P.holds s → A s op)
    (h : ∀ s, P.holds s → ∀ r t, H s op r t → match r with
      | .ok a => ∃ M : Assn R I, M.holds t ∧ Triple A H M (f a) Q E
      | .error e => (E e).holds t) :
    Triple A H P ((Prog.perform op).bind f) Q E := by
  refine ask hA fun s hs r t ht => ?_
  have hr := h s hs r t ht
  cases r with
  | ok a => exact hr
  | error e => exact ⟨E e, hr, fail fun _ h => h⟩

theorem consequence (hp : Triple A H P' p Q' E') (hP : ∀ s, P.holds s → P'.holds s)
    (hQ : ∀ a s, (Q' a).holds s → (Q a).holds s) (hE : ∀ e s, (E' e).holds s → (E e).holds s) :
    Triple A H P p Q E := by
  constructor
  intro s hs
  refine (hp.safe s (hP s hs)).mono fun r t _ hr => ?_
  cases r with
  | ok a => exact hQ a t hr
  | error e => exact hE e t hr

/-- The loop rule: `J` says what holds once a part of the items is done. -/
theorem forEach {β : Type} {f : α → Prog Op Ans ε (List β)} {J : List α → Assn R I}
    (hR : ∀ s, R s s) (before items : List α)
    (h : ∀ pre a post, items = pre ++ a :: post →
      Triple A H (J (before ++ pre)) (f a) (fun _ => J (before ++ pre ++ [a])) E) :
    Triple A H (J before) (Prog.forEach f items) (fun _ => J (before ++ items)) E := by
  induction items generalizing before with
  | nil => exact done fun s hs => by simpa using hs
  | cons a items ih =>
    have hfirst := h [] a items rfl
    rw [List.append_nil] at hfirst
    refine bind hR hfirst fun xs => ?_
    have hrest := ih (before ++ [a]) fun pre b post hitems => by
      have hb := h (a :: pre) b post (by rw [hitems]; rfl)
      simpa using hb
    refine bind hR hrest fun ys => done fun s hs => ?_
    simpa using hs

end Triple

/-! ### Runs one after another -/

/-- A store and the program at work on it. A new program is launched whether the last one
returned, failed or was cut off; `E` is what others do between two statements. -/
inductive Turn (H : σ → (op : Op) → Except ε (Ans op) → σ → Prop) (E : σ → σ → Prop)
    (launch : σ → Prog Op Ans ε α → σ → Prop) :
    σ × Prog Op Ans ε α → σ × Prog Op Ans ε α → Prop where
  | launch {s t p q} (h : launch s p t) : Turn H E launch (s, q) (t, p)
  | statement {s t op rest r} (h : H s op r t) : Turn H E launch (s, .ask op rest) (t, rest r)
  | others {s t p} (h : E s t) : Turn H E launch (s, p) (t, p)

section Turn
variable {A : σ → Op → Prop} {H : σ → (op : Op) → Except ε (Ans op) → σ → Prop} {E R : σ → σ → Prop}
  {launch : σ → Prog Op Ans ε α → σ → Prop} {I : σ → Prop} {Q : Except ε α → σ → Prop}
  {c d : σ × Prog Op Ans ε α}

/-- The induction over a run: launched programs are safe, so every state is good. -/
theorem Turn.safe (hR : ∀ s, R s s) (hT : ∀ {a b c}, R a b → R b c → R a c)
    (hE : ∀ s t, E s t → R s t)
    (hlaunch : ∀ s p t, I s → launch s p t → Safe A H R I Q p t)
    (h : Relation.ReflTransGen (Turn H E launch) c d) (hc : Safe A H R I Q c.2 c.1) :
    Safe A H R I Q d.2 d.1 := by
  induction h with
  | refl => exact hc
  | tail _ hstep ih =>
    cases hstep with
    | launch hl => exact hlaunch _ _ _ (ih.now hR) hl
    | statement hs => exact ih.statement hR hs
    | others he => exact ih.interfere hT (hE _ _ he)

theorem Turn.invariant (hR : ∀ s, R s s) (hT : ∀ {a b c}, R a b → R b c → R a c)
    (hE : ∀ s t, E s t → R s t)
    (hlaunch : ∀ s p t, I s → launch s p t → Safe A H R I Q p t)
    (h : Relation.ReflTransGen (Turn H E launch) c d) (hc : Safe A H R I Q c.2 c.1) : I d.1 :=
  (Turn.safe hR hT hE hlaunch h hc).now hR

/-- A deterministic evaluation is one of the runs, also where others act before a statement. -/
theorem Turn.of_eval {step : σ → (op : Op) → Except ε (Ans op) × σ}
    (hH : ∀ s op, ∃ u, (u = s ∨ E s u) ∧ H u op (step s op).1 (step s op).2)
    (p : Prog Op Ans ε α) (s : σ) :
    ∃ q, Relation.ReflTransGen (Turn H E launch) (s, p) ((eval step p s).2, q) := by
  induction p generalizing s with
  | done a => exact ⟨.done a, .refl⟩
  | fail e => exact ⟨.fail e, .refl⟩
  | ask op rest ih =>
    obtain ⟨q, hq⟩ := ih (step s op).1 (step s op).2
    obtain ⟨u, rfl | hu, hstep⟩ := hH s op
    · exact ⟨q, .head (.statement hstep) hq⟩
    · exact ⟨q, .head (.others hu) (.head (.statement hstep) hq)⟩

theorem Turn.of_advance {step : σ → (op : Op) → Except ε (Ans op) × σ}
    (hH : ∀ s op, H s op (step s op).1 (step s op).2) (n : Nat) (p : Prog Op Ans ε α) (s : σ) :
    Relation.ReflTransGen (Turn H E launch) (s, p)
      ((advance step n p s).2, (advance step n p s).1) := by
  induction n generalizing p s with
  | zero => exact .refl
  | succ n ih =>
    cases p with
    | done a => exact .refl
    | fail e => exact .refl
    | ask op rest => exact .head (.statement (hH s op)) (ih _ _)

end Turn

end Prog

end Foundation
