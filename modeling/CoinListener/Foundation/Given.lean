import CoinListener.Foundation.Crew

/-! What a program does as long as it gets answers of some kind. -/
namespace Foundation

namespace Prog

variable {Op : Type} {Ans : Op → Type} {ε α β σ W M : Type}

/-- As long as the answers satisfy `A`, every statement the program issues satisfies `S`, and what it
returns satisfies `P`. -/
def Given (A : (op : Op) → Ans op → Prop) (S : Op → Prop) (P : α → Prop) : Prog Op Ans ε α → Prop
  | .done a => P a
  | .fail _ => True
  | .ask op rest => S op ∧ ∀ r, (∀ a, r = .ok a → A op a) → (rest r).Given A S P

namespace Given
variable {A : (op : Op) → Ans op → Prop} {S : Op → Prop} {P : α → Prop} {Q : β → Prop}
  {p : Prog Op Ans ε α}

theorem done {a : α} (h : P a) : (Prog.done a : Prog Op Ans ε α).Given A S P :=
  h

theorem fail {e : ε} : (Prog.fail e : Prog Op Ans ε α).Given A S P :=
  trivial

theorem bind {f : α → Prog Op Ans ε β} (hp : p.Given A S P) (hf : ∀ a, P a → (f a).Given A S Q) :
    (p.bind f).Given A S Q := by
  induction p with
  | done a => exact hf a hp
  | fail e => trivial
  | ask op rest ih => exact ⟨hp.1, fun r hr => ih r (hp.2 r hr)⟩

theorem lift {x : Except ε α} (h : ∀ a, x = .ok a → P a) :
    (Prog.lift x : Prog Op Ans ε α).Given A S P := by
  cases x with
  | ok a => exact h a rfl
  | error e => trivial

theorem perform {op : Op} (h : S op) : (Prog.perform op : Prog Op Ans ε (Ans op)).Given A S (A op) :=
  ⟨h, fun _ hr => lift hr⟩

theorem mono {P' : α → Prop} (hp : p.Given A S P) (h : ∀ a, P a → P' a) : p.Given A S P' := by
  induction p with
  | done a => exact h a hp
  | fail e => trivial
  | ask op rest ih => exact ⟨hp.1, fun r hr => ih r (hp.2 r hr)⟩

theorem attempt (hp : p.Given A S P) : p.attempt.Given A S fun r => ∀ a, r = .ok a → P a := by
  induction p with
  | done a => exact fun b hb => Except.ok.inj hb ▸ hp
  | fail e => exact nofun
  | ask op rest ih => exact ⟨hp.1, fun r hr => ih r (hp.2 r hr)⟩

theorem forEach {f : α → Prog Op Ans ε (List β)} {items : List α}
    (h : ∀ a ∈ items, (f a).Given A S fun _ => True) :
    (Prog.forEach f items).Given A S fun _ => True := by
  induction items with
  | nil => trivial
  | cons a items ih =>
    refine bind (h a (List.mem_cons_self ..)) fun _ _ => ?_
    exact bind (ih fun b hb => h b (List.mem_cons_of_mem _ hb)) fun _ _ => trivial

/-- A program that issues such statements whatever is answered. -/
theorem of_only (hp : p.Only S) : p.Given A S fun _ => True := by
  induction p with
  | done a => trivial
  | fail e => trivial
  | ask op rest ih =>
    obtain ⟨hop, hrest⟩ := Only.ask_iff.mp hp
    exact ⟨hop, fun r _ => ih r (hrest r)⟩

theorem bind_only {f : α → Prog Op Ans ε β} (hp : p.Only S) (hf : ∀ a, (f a).Given A S Q) :
    (p.bind f).Given A S Q :=
  bind (of_only hp) fun a _ => hf a

theorem ask_iff {op : Op} {rest : Except ε (Ans op) → Prog Op Ans ε α} :
    (Prog.ask op rest).Given A S P ↔
      S op ∧ ∀ r, (∀ a, r = .ok a → A op a) → (rest r).Given A S P :=
  Iff.rfl

end Given

/-- An assertion, and a fact that does not depend on the state. -/
def Assn.given {R : σ → σ → Prop} {I : σ → Prop} (fact : Prop) (P : Assn R I) : Assn R I where
  holds s := fact ∧ P.holds s
  stable h hst := ⟨h.1, P.stable h.2 hst⟩
  good h := P.good h.2

/-- Both assertions. -/
def Assn.and {R : σ → σ → Prop} {I : σ → Prop} (P Q : Assn R I) : Assn R I where
  holds s := P.holds s ∧ Q.holds s
  stable h hst := ⟨P.stable h.1 hst, Q.stable h.2 hst⟩
  good h := P.good h.1

/-- An assertion for each of these. -/
def Assn.every {ι : Type} {R : σ → σ → Prop} (items : List ι)
    (P : ι → Assn R fun _ => True) : Assn R fun _ => True where
  holds s := ∀ i ∈ items, (P i).holds s
  stable h hst i hi := (P i).stable (h i hi) hst
  good _ := trivial

/-- The assertion where others do less. -/
def Assn.under {R S : σ → σ → Prop} {I : σ → Prop} (h : ∀ s t, S s t → R s t) (P : Assn R I) :
    Assn S I where
  holds := P.holds
  stable hs hst := P.stable hs (h _ _ hst)
  good := P.good

section Both
variable {A B : σ → Op → Prop} {H : σ → (op : Op) → Except ε (Ans op) → σ → Prop}
  {R S : σ → σ → Prop} {I : σ → Prop} {p : Prog Op Ans ε α}

theorem Safe.under {Q : Except ε α → σ → Prop} (hS : ∀ s t, S s t → R s t) {s : σ}
    (h : Safe A H R I Q p s) : Safe A H S I Q p s := by
  induction p generalizing s with
  | done a => exact fun t ht => h t (hS s t ht)
  | fail e => exact fun t ht => h t (hS s t ht)
  | ask op rest ih =>
    intro t ht
    exact ⟨(h t (hS s t ht)).1, fun r u hu => ih r ((h t (hS s t ht)).2 r u hu)⟩

/-- What is safe for two reasons. -/
theorem Safe.both {Q Q' : Except ε α → σ → Prop} {s : σ} (h : Safe A H R I Q p s)
    (h' : Safe B H R I Q' p s) :
    Safe (fun s op => A s op ∧ B s op) H R I (fun r t => Q r t ∧ Q' r t) p s := by
  induction p generalizing s with
  | done a => exact fun t ht => ⟨(h t ht).1, (h t ht).2, (h' t ht).2⟩
  | fail e => exact fun t ht => ⟨(h t ht).1, (h t ht).2, (h' t ht).2⟩
  | ask op rest ih =>
    intro t ht
    obtain ⟨⟨hI, hA⟩, hrest⟩ := h t ht
    obtain ⟨⟨_, hB⟩, hrest'⟩ := h' t ht
    exact ⟨⟨hI, hA, hB⟩, fun r u hu => ih r (hrest r u hu) (hrest' r u hu)⟩

theorem Triple.under {P : Assn R I} {Q : α → Assn R I} {E : ε → Assn R I}
    (hS : ∀ s t, S s t → R s t) (h : Triple A H P p Q E) :
    Triple A H (P.under hS) p (fun a => (Q a).under hS) fun e => (E e).under hS := by
  constructor
  intro s hs
  refine ((h.safe s hs).under hS).mono fun r t _ hr => ?_
  cases r with
  | ok a => exact hr
  | error e => exact hr

theorem Triple.both {P P' : Assn R I} {Q Q' : α → Assn R I} {E E' : ε → Assn R I}
    (h : Triple A H P p Q E) (h' : Triple B H P' p Q' E') :
    Triple (fun s op => A s op ∧ B s op) H (P.and P') p (fun a => (Q a).and (Q' a))
      fun e => (E e).and (E' e) := by
  constructor
  rintro s ⟨hs, hs'⟩
  refine ((h.safe s hs).both (h'.safe s hs')).mono fun r t _ hr => ?_
  cases r with
  | ok a => exact hr
  | error e => exact hr

end Both

section Triple
variable {A : σ → Op → Prop} {H : σ → (op : Op) → Except ε (Ans op) → σ → Prop} {R : σ → σ → Prop}
  {I : σ → Prop} {P : Assn R I} {p : Prog Op Ans ε α}

/-- What is given beforehand is given all along. -/
theorem Triple.given {fact : Prop} {Q : α → Assn R I} {E : ε → Assn R I}
    (h : fact → Triple A H P p Q E) : Triple A H (P.given fact) p (fun a => (Q a).given fact) E := by
  constructor
  rintro s ⟨hfact, hs⟩
  refine ((h hfact).safe s hs).mono fun r t _ hr => ?_
  cases r with
  | ok a => exact ⟨hfact, hr⟩
  | error e => exact hr

theorem Triple.from_given {fact : Prop} {Q : α → Assn R I} {E : ε → Assn R I}
    (h : fact → Triple A H P p Q E) : Triple A H (P.given fact) p Q E :=
  (Triple.given h).consequence (fun _ h => h) (fun _ _ h => h.2) fun _ _ h => h

/-- Statements that keep an assertion, and what is returned whatever they answer. -/
theorem Triple.of_given {S : Op → Prop} {T : α → Prop} (hp : p.Given (fun _ _ => True) S T)
    (hA : ∀ op, S op → ∀ s, P.holds s → A s op)
    (hkeep : ∀ op, S op → ∀ s, P.holds s → ∀ r t, H s op r t → P.holds t) :
    Triple A H P p (fun a => P.given (T a)) fun _ => P := by
  induction p with
  | done a => exact .done fun _ h => ⟨hp, h⟩
  | fail e => exact .fail fun _ h => h
  | ask op rest ih =>
    obtain ⟨hop, hrest⟩ := Given.ask_iff.mp hp
    refine .ask (hA op hop) fun s hs r t ht => ⟨P, hkeep op hop s hs r t ht, ih r ?_⟩
    exact hrest r fun _ _ => trivial

end Triple

attribute [irreducible] Given

/-- An invariant that statements of one kind keep, in a crew whose programs issue no others as long
as the answers are of a kind. Which kind may depend on what the worker is at. -/
theorem Crew.given_run [DecidableEq W]
    {H : W → σ → (op : Op) → Except ε (Ans op) → σ → Prop} {E : σ → σ → Prop}
    {launch : W → σ → Prog Op Ans ε α → σ → Prop} {Inv : σ → Prop} {S : Op → Prop}
    {at_work : σ → W → M} {A : M → (op : Op) → Ans op → Prop} {P : α → Prop}
    (hlaunch : ∀ {w s p t}, Inv s → launch w s p t →
      Inv t ∧ (∀ v, v ≠ w → at_work t v = at_work s v) ∧ p.Given (A (at_work t w)) S P)
    (hstatement : ∀ {w s op r t}, Inv s → S op → H w s op r t →
      Inv t ∧ at_work t = at_work s ∧ ∀ a, r = .ok a → A (at_work s w) op a)
    (hothers : ∀ {s t}, Inv s → E s t → Inv t ∧ at_work t = at_work s)
    {c d : σ × (W → Prog Op Ans ε α)}
    (hc : Inv c.1 ∧ ∀ w, (c.2 w).Given (A (at_work c.1 w)) S P)
    (hrun : Relation.ReflTransGen (Crew H E launch) c d) :
    Inv d.1 ∧ ∀ w, (d.2 w).Given (A (at_work d.1 w)) S P := by
  induction hrun with
  | refl => exact hc
  | tail _ hstep ih =>
    cases hstep with
    | @launch s t ps p w hl =>
      obtain ⟨hinv, hothers, hgiven⟩ := hlaunch ih.1 hl
      refine ⟨hinv, fun v => ?_⟩
      by_cases hv : v = w
      · subst v
        simpa using hgiven
      · have hkept : (ps v).Given (A (at_work s v)) S P := ih.2 v
        rw [← hothers v hv] at hkept
        simpa [hv] using hkept
    | @statement s t ps op rest r w hp hs =>
      have hgiven : (ps w).Given (A (at_work s w)) S P := ih.2 w
      rw [hp, Given.ask_iff] at hgiven
      obtain ⟨hinv, hsame, hanswer⟩ := hstatement ih.1 hgiven.1 hs
      refine ⟨hinv, fun v => ?_⟩
      dsimp only
      rw [hsame]
      by_cases hv : v = w
      · subst v
        simpa using hgiven.2 r hanswer
      · have hkept : (ps v).Given (A (at_work s v)) S P := ih.2 v
        simpa [hv] using hkept
    | others he =>
      obtain ⟨hinv, hsame⟩ := hothers ih.1 he
      refine ⟨hinv, fun v => ?_⟩
      dsimp only
      rw [hsame]
      exact ih.2 v

end Prog

end Foundation
