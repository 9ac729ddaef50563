import CoinListener.Foundation.Program
import Mathlib.Logic.Function.Basic

/-! Several programs at work on one store, each safe from what the others do. -/
namespace Foundation

namespace Prog

variable {Op : Type} {Ans : Op → Type} {ε α β σ W : Type}

/-! ### The statements a program can issue -/

/-- Every statement the program can issue satisfies `S`. -/
def Only (S : Op → Prop) : Prog Op Ans ε α → Prop
  | .done _ => True
  | .fail _ => True
  | .ask op rest => S op ∧ ∀ r, (rest r).Only S

namespace Only
variable {S : Op → Prop} {p : Prog Op Ans ε α}

theorem done {a : α} : (Prog.done a : Prog Op Ans ε α).Only S :=
  trivial

theorem fail {e : ε} : (Prog.fail e : Prog Op Ans ε α).Only S :=
  trivial

theorem bind {f : α → Prog Op Ans ε β} (hp : p.Only S) (hf : ∀ a, (f a).Only S) :
    (p.bind f).Only S := by
  induction p with
  | done a => exact hf a
  | fail e => trivial
  | ask op rest ih => exact ⟨hp.1, fun r => ih r (hp.2 r)⟩

theorem lift {x : Except ε α} : (Prog.lift x : Prog Op Ans ε α).Only S := by
  cases x with
  | ok a => trivial
  | error e => trivial

theorem perform {op : Op} (h : S op) : (Prog.perform op : Prog Op Ans ε (Ans op)).Only S :=
  ⟨h, fun _ => lift⟩

theorem attempt (hp : p.Only S) : p.attempt.Only S := by
  induction p with
  | done a => trivial
  | fail e => trivial
  | ask op rest ih => exact ⟨hp.1, fun r => ih r (hp.2 r)⟩

theorem forEach {f : α → Prog Op Ans ε (List β)} {items : List α}
    (h : ∀ a ∈ items, (f a).Only S) : (Prog.forEach f items).Only S := by
  induction items with
  | nil => trivial
  | cons a items ih =>
    refine bind (h a (List.mem_cons_self ..)) fun _ => ?_
    exact bind (ih fun b hb => h b (List.mem_cons_of_mem _ hb)) fun _ => trivial

theorem ask_iff {op : Op} {rest : Except ε (Ans op) → Prog Op Ans ε α} :
    (Prog.ask op rest).Only S ↔ S op ∧ ∀ r, (rest r).Only S :=
  Iff.rfl

theorem mono {S' : Op → Prop} (hp : p.Only S) (h : ∀ op, S op → S' op) : p.Only S' := by
  induction p with
  | done a => trivial
  | fail e => trivial
  | ask op rest ih => exact ⟨h op hp.1, fun r => ih r (hp.2 r)⟩

end Only

/-- An assertion no statement of the program touches holds throughout. -/
theorem Triple.of_only {A : σ → Op → Prop} {H : σ → (op : Op) → Except ε (Ans op) → σ → Prop}
    {R : σ → σ → Prop} {I : σ → Prop} {P : Assn R I} {S : Op → Prop} {p : Prog Op Ans ε α}
    (hp : p.Only S) (hA : ∀ op, S op → ∀ s, P.holds s → A s op)
    (hkeep : ∀ op, S op → ∀ s, P.holds s → ∀ r t, H s op r t → P.holds t) :
    Triple A H P p (fun _ => P) fun _ => P := by
  induction p with
  | done a => exact .done fun _ h => h
  | fail e => exact .fail fun _ h => h
  | ask op rest ih =>
    exact .ask (hA op hp.1) fun s hs r t ht => ⟨P, hkeep op hp.1 s hs r t ht, ih r (hp.2 r)⟩

/-- A deterministic run keeps what each of its statements keeps. -/
theorem eval_only {I : σ → Prop} {S : Op → Prop} {step : σ → (op : Op) → Except ε (Ans op) × σ}
    (hstep : ∀ s op, S op → I s → I (step s op).2) {p : Prog Op Ans ε α} (hp : p.Only S) {s : σ}
    (hs : I s) : I (eval step p s).2 := by
  induction p generalizing s with
  | done a => exact hs
  | fail e => exact hs
  | ask op rest ih => exact ih _ (hp.2 _) (hstep s op hp.1 hs)

attribute [irreducible] Only

/-! ### A crew -/

/-- The store and what each of several workers still has to do. A worker is launched anew whether
its last program returned, failed or was cut off. -/
inductive Crew [DecidableEq W] (H : W → σ → (op : Op) → Except ε (Ans op) → σ → Prop)
    (E : σ → σ → Prop) (launch : W → σ → Prog Op Ans ε α → σ → Prop) :
    σ × (W → Prog Op Ans ε α) → σ × (W → Prog Op Ans ε α) → Prop where
  | launch {s t ps p} (w : W) (h : launch w s p t) :
    Crew H E launch (s, ps) (t, Function.update ps w p)
  | statement {s t ps op rest r} (w : W) (hp : ps w = .ask op rest) (h : H w s op r t) :
    Crew H E launch (s, ps) (t, Function.update ps w (rest r))
  | others {s t ps} (h : E s t) : Crew H E launch (s, ps) (t, ps)

/-- An invariant that statements of one kind keep, in a crew whose programs issue no others. -/
theorem Crew.only_run [DecidableEq W]
    {H : W → σ → (op : Op) → Except ε (Ans op) → σ → Prop} {E : σ → σ → Prop}
    {launch : W → σ → Prog Op Ans ε α → σ → Prop} {Inv : σ → Prop} {S : Op → Prop}
    (hlaunch : ∀ {w s p t}, Inv s → launch w s p t → Inv t ∧ p.Only S)
    (hstatement : ∀ {w s op r t}, Inv s → S op → H w s op r t → Inv t)
    (hothers : ∀ {s t}, Inv s → E s t → Inv t) {c d : σ × (W → Prog Op Ans ε α)}
    (hc : Inv c.1 ∧ ∀ w, (c.2 w).Only S) (hrun : Relation.ReflTransGen (Crew H E launch) c d) :
    Inv d.1 ∧ ∀ w, (d.2 w).Only S := by
  induction hrun with
  | refl => exact hc
  | tail _ hstep ih =>
    cases hstep with
    | @launch s t ps p w hl =>
      obtain ⟨hinv, honly⟩ := hlaunch ih.1 hl
      refine ⟨hinv, fun v => ?_⟩
      by_cases hv : v = w
      · subst v
        simpa using honly
      · simpa [hv] using ih.2 v
    | @statement s t ps op rest r w hp hs =>
      have honly : (ps w).Only S := ih.2 w
      rw [hp, Only.ask_iff] at honly
      refine ⟨hstatement ih.1 honly.1 hs, fun v => ?_⟩
      by_cases hv : v = w
      · subst v
        simpa using honly.2 r
      · simpa [hv] using ih.2 v
    | others he => exact ⟨hothers ih.1 he, ih.2⟩

/-- None of these assertions is lost between two states. -/
def Keeps {ι : Type} (holds : ι → σ → Prop) (s t : σ) : Prop :=
  ∀ i, holds i s → holds i t

theorem Keeps.refl {ι : Type} {holds : ι → σ → Prop} (s : σ) : Keeps holds s s :=
  fun _ h => h

theorem Keeps.trans {ι : Type} {holds : ι → σ → Prop} {a b c : σ} (hab : Keeps holds a b)
    (hbc : Keeps holds b c) : Keeps holds a c :=
  fun i h => hbc i (hab i h)

/-- An assertion of the family, which others keep. -/
def Assn.of {ι : Type} (holds : ι → σ → Prop) (i : ι) : Assn (Keeps holds) fun _ => True where
  holds := holds i
  stable h hkeep := hkeep i h
  good _ := trivial

@[simp] theorem Assn.of_holds {ι : Type} (holds : ι → σ → Prop) (i : ι) (s : σ) :
    (Assn.of holds i).holds s ↔ holds i s :=
  Iff.rfl

/-- A step between states that both satisfy the invariant. -/
def Within (Inv : σ → Prop) (H : σ → (op : Op) → Except ε (Ans op) → σ → Prop) (s : σ) (op : Op)
    (r : Except ε (Ans op)) (t : σ) : Prop :=
  Inv s ∧ H s op r t ∧ Inv t

/-- What every step of a crew has to respect: allowed statements keep the invariant `Inv`, and to
each other worker `w` they are no more than the interference `R w`. -/
structure Crew.Rules (H : W → σ → (op : Op) → Except ε (Ans op) → σ → Prop) (E : σ → σ → Prop)
    (launch : W → σ → Prog Op Ans ε α → σ → Prop) (Inv : σ → Prop) (A : W → σ → Op → Prop)
    (R : W → σ → σ → Prop) (Q : W → Except ε α → σ → Prop) : Prop where
  refl : ∀ w s, R w s s
  trans : ∀ w {a b c}, R w a b → R w b c → R w a c
  launch_inv : ∀ {w s p t}, Inv s → launch w s p t → Inv t
  launch_safe : ∀ {w s p t}, Inv s → launch w s p t →
    Safe (A w) (Within Inv (H w)) (R w) (fun _ => True) (Q w) p t
  launch_others : ∀ {w v s p t}, Inv s → launch w s p t → v ≠ w → R v s t
  statement_inv : ∀ {w s op r t}, Inv s → A w s op → H w s op r t → Inv t
  statement_others : ∀ {w v s op r t}, Inv s → A w s op → H w s op r t → v ≠ w → R v s t
  others_inv : ∀ {s t}, Inv s → E s t → Inv t
  others : ∀ {w s t}, Inv s → E s t → R w s t

section Good
variable (H : W → σ → (op : Op) → Except ε (Ans op) → σ → Prop) (Inv : σ → Prop)
  (A : W → σ → Op → Prop) (R : W → σ → σ → Prop) (Q : W → Except ε α → σ → Prop)

/-- The invariant holds and every worker is safe. -/
structure Crew.Good (s : σ) (ps : W → Prog Op Ans ε α) : Prop where
  inv : Inv s
  safe : ∀ w, Safe (A w) (Within Inv (H w)) (R w) (fun _ => True) (Q w) (ps w) s

variable {H Inv A R Q} {E : σ → σ → Prop} {launch : W → σ → Prog Op Ans ε α → σ → Prop}
  {s t : σ} {ps qs : W → Prog Op Ans ε α}

/-- A statement about to be issued is allowed. -/
theorem Crew.Good.allowed (rules : Crew.Rules H E launch Inv A R Q)
    (h : Crew.Good H Inv A R Q s ps) {w : W} {op : Op}
    {rest : Except ε (Ans op) → Prog Op Ans ε α} (hp : ps w = .ask op rest) : A w s op := by
  have hsafe := h.safe w
  rw [hp] at hsafe
  exact hsafe.allowed (rules.refl w)

theorem Crew.Good.step [DecidableEq W] (rules : Crew.Rules H E launch Inv A R Q)
    (h : Crew.Good H Inv A R Q s ps) (hstep : Crew H E launch (s, ps) (t, qs)) :
    Crew.Good H Inv A R Q t qs := by
  cases hstep with
  | launch w hl =>
    refine ⟨rules.launch_inv h.inv hl, fun v => ?_⟩
    by_cases hv : v = w
    · subst v
      simpa using rules.launch_safe h.inv hl
    · have hsafe := Safe.interfere (R := R v) (rules.trans v) (h.safe v) (rules.launch_others h.inv hl hv)
      simpa [hv] using hsafe
  | statement w hp hs =>
    have hA := h.allowed rules hp
    have hinv := rules.statement_inv h.inv hA hs
    refine ⟨hinv, fun v => ?_⟩
    by_cases hv : v = w
    · subst v
      have hsafe := h.safe w
      rw [hp] at hsafe
      simpa using hsafe.statement (rules.refl w) ⟨h.inv, hs, hinv⟩
    · have hsafe := Safe.interfere (R := R v) (rules.trans v) (h.safe v)
        (rules.statement_others h.inv hA hs hv)
      simpa [hv] using hsafe
  | others he =>
    exact ⟨rules.others_inv h.inv he,
      fun v => Safe.interfere (R := R v) (rules.trans v) (h.safe v) (rules.others h.inv he)⟩

/-- The induction over a run. -/
theorem Crew.Good.run [DecidableEq W] (rules : Crew.Rules H E launch Inv A R Q)
    (h : Crew.Good H Inv A R Q s ps)
    (hrun : Relation.ReflTransGen (Crew H E launch) (s, ps) (t, qs)) :
    Crew.Good H Inv A R Q t qs := by
  generalize hc : (s, ps) = c at hrun
  generalize hd : (t, qs) = d at hrun
  induction hrun generalizing t qs with
  | refl =>
    obtain ⟨rfl, rfl⟩ := Prod.mk.injEq .. ▸ hc.trans hd.symm
    exact h
  | @tail b d _ hstep ih =>
    subst hd
    obtain ⟨u, rs⟩ := b
    exact (ih rfl).step rules hstep

/-- What no step changes for the worse is kept between any two states of a run. -/
theorem Crew.Good.kept [DecidableEq W] {G : σ → σ → Prop}
    (rules : Crew.Rules H E launch Inv A R Q) (hrefl : ∀ s, G s s)
    (htrans : ∀ {a b c}, G a b → G b c → G a c)
    (hlaunch : ∀ {w s p t}, Inv s → launch w s p t → G s t)
    (hstatement : ∀ {w s op r t}, Inv s → A w s op → H w s op r t → G s t)
    (hothers : ∀ {s t}, Inv s → E s t → G s t) (h : Crew.Good H Inv A R Q s ps)
    (hrun : Relation.ReflTransGen (Crew H E launch) (s, ps) (t, qs)) : G s t := by
  generalize hc : (s, ps) = c at hrun
  generalize hd : (t, qs) = d at hrun
  induction hrun generalizing t qs with
  | refl =>
    obtain ⟨rfl, rfl⟩ := Prod.mk.injEq .. ▸ hc.trans hd.symm
    exact hrefl s
  | @tail b d hbefore hstep ih =>
    subst hc hd
    obtain ⟨u, rs⟩ := b
    refine htrans (ih rfl) ?_
    have hu := h.run rules hbefore
    cases hstep with
    | launch w hl => exact hlaunch hu.inv hl
    | statement w hp hs => exact hstatement hu.inv (hu.allowed rules hp) hs
    | others he => exact hothers hu.inv he

end Good

/-- Every statement a deterministic run issues passes the test. -/
def along (step : σ → (op : Op) → Except ε (Ans op) × σ) (ok : σ → Op → Bool) :
    Prog Op Ans ε α → σ → Bool
  | .done _, _ => true
  | .fail _, _ => true
  | .ask op rest, s => ok s op && along step ok (rest (step s op).1) (step s op).2

theorem along_true (step : σ → (op : Op) → Except ε (Ans op) × σ) (p : Prog Op Ans ε α) (s : σ) :
    along step (fun _ _ => true) p s = true := by
  induction p generalizing s with
  | done a => rfl
  | fail e => rfl
  | ask op rest ih => exact ih _ _

/-- A round of one worker that nobody interrupts is one of the runs. -/
theorem Crew.of_eval [DecidableEq W] {H : W → σ → (op : Op) → Except ε (Ans op) → σ → Prop}
    {E : σ → σ → Prop} {launch : W → σ → Prog Op Ans ε α → σ → Prop} {w : W} {ok : σ → Op → Bool}
    {step : σ → (op : Op) → Except ε (Ans op) × σ}
    (hH : ∀ s op, ok s op = true → H w s op (step s op).1 (step s op).2) {p : Prog Op Ans ε α}
    (s : σ) (hp : along step ok p s = true) (ps : W → Prog Op Ans ε α) (hw : ps w = p) :
    ∃ qs, Relation.ReflTransGen (Crew H E launch) (s, ps) ((eval step p s).2, qs) ∧
      qs w = Prog.lift (eval step p s).1 := by
  induction p generalizing s ps with
  | done a => exact ⟨ps, .refl, hw⟩
  | fail e => exact ⟨ps, .refl, hw⟩
  | ask op rest ih =>
    rw [along, Bool.and_eq_true] at hp
    obtain ⟨qs, hqs, hdone⟩ := ih (step s op).1 (step s op).2 hp.2
      (Function.update ps w (rest (step s op).1)) (by simp)
    exact ⟨qs, .head (.statement w hw (hH s op hp.1)) hqs, hdone⟩

/-- Part of a round of one worker that nobody interrupts; the others stay where they are. -/
theorem Crew.of_advance [DecidableEq W]
    {H : W → σ → (op : Op) → Except ε (Ans op) → σ → Prop} {E : σ → σ → Prop}
    {launch : W → σ → Prog Op Ans ε α → σ → Prop} {w : W}
    {step : σ → (op : Op) → Except ε (Ans op) × σ}
    (hH : ∀ s op, H w s op (step s op).1 (step s op).2) (n : Nat) {p : Prog Op Ans ε α}
    (s : σ) (ps : W → Prog Op Ans ε α) (hw : ps w = p) :
    Relation.ReflTransGen (Crew H E launch) (s, ps)
      ((advance step n p s).2, Function.update ps w (advance step n p s).1) := by
  have hstill : ∀ {q}, ps w = q → Function.update ps w q = ps := fun h => by
    rw [← h, Function.update_eq_self]
  induction n generalizing p s ps with
  | zero =>
    rw [advance, hstill hw]
  | succ n ih =>
    cases p with
    | done a => rw [advance, hstill hw]
    | fail e => rw [advance, hstill hw]
    | ask op rest =>
      have hrest := ih (p := rest (step s op).1) (step s op).2
        (Function.update ps w (rest (step s op).1)) (by simp) (fun h => by
          rw [← h, Function.update_self, Function.update_idem])
      rw [Function.update_idem] at hrest
      exact .head (.statement w hw (hH s op)) hrest

end Prog

end Foundation
