import CoinListener.Foundation.Crew

/-! Parties at one store. What a party sees of it, and what its requests are answered, is as if the
others had not been there. -/
namespace Foundation.Prog

variable {Op : Type} {Ans : Op → Type} {ε α σ W D Req C : Type}

/-! ### Runs -/

/-- One action of a run: a worker takes up a request, or its next statement is carried out with what
the store draws for it. -/
inductive Act (W Req C : Type) where
  | call (w : W) (request : Req)
  | statement (w : W) (choice : C)

def Act.worker : Act W Req C → W
  | .call w _ => w
  | .statement w _ => w

/-- What the store draws for it. -/
def Act.choice : Act W Req C → Option C
  | .call .. => none
  | .statement _ choice => some choice

/-- The programs for the requests of each party, and a store that carries out their statements.
`fresh` says what the store may draw. -/
structure Service (Op : Type) (Ans : Op → Type) (ε α σ D Req C : Type) where
  program : D → Req → Prog Op Ans ε α
  perform : C → σ → (op : Op) → Except ε (Ans op) × σ
  fresh : σ → C → Prop

/-- The store and what every worker still has to do. -/
abbrev Scene (Op : Type) (Ans : Op → Type) (ε α σ W : Type) :=
  σ × (W → Prog Op Ans ε α)

namespace Service
variable [DecidableEq W] (service : Service Op Ans ε α σ D Req C) (owner : W → D)

/-- A worker that has nothing to do stays as it is. -/
def act (c : Scene Op Ans ε α σ W) : Act W Req C → Scene Op Ans ε α σ W
  | .call w request => (c.1, Function.update c.2 w (service.program (owner w) request))
  | .statement w choice =>
    match c.2 w with
    | .ask op rest =>
      ((service.perform choice c.1 op).2,
        Function.update c.2 w (rest (service.perform choice c.1 op).1))
    | _ => c

def run (c : Scene Op Ans ε α σ W) (acts : List (Act W Req C)) : Scene Op Ans ε α σ W :=
  acts.foldl (service.act owner) c

/-- Whatever the store draws in the run is fresh at the time. -/
def Draws : Scene Op Ans ε α σ W → List (Act W Req C) → Prop
  | _, [] => True
  | c, a :: acts => (∀ choice ∈ a.choice, service.fresh c.1 choice) ∧
      Draws (service.act owner c a) acts

/-- A run over a list can be checked draw by draw. -/
def decide_draws [∀ s choice, Decidable (service.fresh s choice)] (c : Scene Op Ans ε α σ W) :
    (acts : List (Act W Req C)) → Decidable (service.Draws owner c acts)
  | [] => inferInstanceAs (Decidable True)
  | a :: acts =>
    letI := decide_draws (service.act owner c a) acts
    inferInstanceAs (Decidable ((∀ choice ∈ a.choice, service.fresh c.1 choice) ∧
      service.Draws owner (service.act owner c a) acts))

/-- The actions of one party. -/
def own [DecidableEq D] (d : D) (acts : List (Act W Req C)) : List (Act W Req C) :=
  acts.filter fun a => owner a.worker = d

/-! ### As a crew -/

def Carried (_ : W) (s : σ) (op : Op) (r : Except ε (Ans op)) (t : σ) : Prop :=
  ∃ choice, service.fresh s choice ∧ service.perform choice s op = (r, t)

def Launched (w : W) (s : σ) (p : Prog Op Ans ε α) (t : σ) : Prop :=
  t = s ∧ ∃ request, p = service.program (owner w) request

/-- Nothing but the workers changes the store. -/
abbrev Steps : Scene Op Ans ε α σ W → Scene Op Ans ε α σ W → Prop :=
  Crew service.Carried (fun _ _ => False) (service.Launched owner)

variable {service owner} {c : Scene Op Ans ε α σ W}

theorem act_steps {a : Act W Req C} (hfresh : ∀ choice ∈ a.choice, service.fresh c.1 choice) :
    Relation.ReflTransGen (service.Steps owner) c (service.act owner c a) := by
  obtain ⟨s, ps⟩ := c
  cases a with
  | call w request => exact .single (.launch w ⟨rfl, request, rfl⟩)
  | statement w choice =>
    simp only [act]
    cases hp : ps w with
    | done a => exact .refl
    | fail e => exact .refl
    | ask op rest => exact .single (.statement w hp ⟨choice, hfresh choice rfl, rfl⟩)

theorem run_steps {acts : List (Act W Req C)} (hdraws : service.Draws owner c acts) :
    Relation.ReflTransGen (service.Steps owner) c (service.run owner c acts) := by
  induction acts generalizing c with
  | nil => exact .refl
  | cons a acts ih => exact (act_steps hdraws.1).trans (ih hdraws.2)

end Service

/-! ### Apart -/

section Apart
variable [DecidableEq W] {service : Service Op Ans ε α σ D Req C} {owner : W → D}
  {Inv : σ → Prop} {A : W → σ → Op → Prop} {R : W → σ → σ → Prop}
  {Q : W → Except ε α → σ → Prop} {same : D → σ → σ → Prop}

/-- What the statements of a service have to respect. `same d s t` says that party `d` sees the same
in both stores: its own statements then do the same in both, and those of others do nothing that it
sees. -/
structure Apart (service : Service Op Ans ε α σ D Req C) (owner : W → D) (Inv : σ → Prop)
    (A : W → σ → Op → Prop) (R : W → σ → σ → Prop) (Q : W → Except ε α → σ → Prop)
    (same : D → σ → σ → Prop) : Prop where
  rules : Crew.Rules service.Carried (fun _ _ => False) (service.Launched owner) Inv A R Q
  fresh : ∀ {d s t choice}, same d s t → service.fresh s choice → service.fresh t choice
  own : ∀ {w s t op choice}, Inv s → Inv t → A w s op → A w t op → service.fresh s choice →
    same (owner w) s t → (service.perform choice s op).1 = (service.perform choice t op).1 ∧
      same (owner w) (service.perform choice s op).2 (service.perform choice t op).2
  others : ∀ {w d s t op choice}, owner w ≠ d → Inv s → A w s op → service.fresh s choice →
    same d s t → same d (service.perform choice s op).2 t

variable (service owner Inv A R Q same) in
/-- A scene with everyone at work and one with only this party. -/
structure Alike (d : D) (c e : Scene Op Ans ε α σ W) : Prop where
  good : Crew.Good service.Carried Inv A R Q c.1 c.2
  alone : Crew.Good service.Carried Inv A R Q e.1 e.2
  same : same d c.1 e.1
  programs : ∀ w, owner w = d → c.2 w = e.2 w

variable {d : D} {c e : Scene Op Ans ε α σ W}

theorem good_act (h : Apart service owner Inv A R Q same)
    (hgood : Crew.Good service.Carried Inv A R Q c.1 c.2) {a : Act W Req C}
    (hfresh : ∀ choice ∈ a.choice, service.fresh c.1 choice) :
    Crew.Good service.Carried Inv A R Q (service.act owner c a).1 (service.act owner c a).2 :=
  hgood.run h.rules (Service.act_steps hfresh)

/-- An action of the party is taken in both. -/
theorem Alike.own (h : Apart service owner Inv A R Q same)
    (hcd : Alike service owner Inv A R Q same d c e) {a : Act W Req C} (hd : owner a.worker = d)
    (hfresh : ∀ choice ∈ a.choice, service.fresh c.1 choice) :
    Alike service owner Inv A R Q same d (service.act owner c a) (service.act owner e a) := by
  have hfresh' : ∀ choice ∈ a.choice, service.fresh e.1 choice := fun choice hmem =>
    h.fresh hcd.same (hfresh choice hmem)
  have hgood := good_act h hcd.good hfresh
  have halone := good_act h hcd.alone hfresh'
  cases a with
  | call w request =>
    refine ⟨hgood, halone, hcd.same, fun v hv => ?_⟩
    by_cases hw : v = w
    · subst v
      simp [Service.act]
    · simpa [Service.act, hw] using hcd.programs v hv
  | statement w choice =>
    have hw : c.2 w = e.2 w := hcd.programs w hd
    cases hp : c.2 w with
    | done a =>
      have hc : service.act owner c (.statement w choice) = c := by simp [Service.act, hp]
      have he : service.act owner e (.statement w choice) = e := by simp [Service.act, ← hw, hp]
      rw [hc, he]
      exact hcd
    | fail error =>
      have hc : service.act owner c (.statement w choice) = c := by simp [Service.act, hp]
      have he : service.act owner e (.statement w choice) = e := by simp [Service.act, ← hw, hp]
      rw [hc, he]
      exact hcd
    | ask op rest =>
      have hpe : e.2 w = .ask op rest := hw.symm.trans hp
      have hallowed := hcd.good.allowed h.rules hp
      have hallowed' := hcd.alone.allowed h.rules hpe
      obtain ⟨hanswer, hsame⟩ := h.own hcd.good.inv hcd.alone.inv hallowed hallowed'
        (hfresh choice rfl) ((show owner w = d from hd).symm ▸ hcd.same)
      have hc : service.act owner c (.statement w choice) = ((service.perform choice c.1 op).2,
          Function.update c.2 w (rest (service.perform choice c.1 op).1)) := by
        simp [Service.act, hp]
      have he : service.act owner e (.statement w choice) = ((service.perform choice e.1 op).2,
          Function.update e.2 w (rest (service.perform choice e.1 op).1)) := by
        simp [Service.act, hpe]
      rw [hc] at hgood ⊢
      rw [he] at halone ⊢
      refine ⟨hgood, halone, (show owner w = d from hd) ▸ hsame, fun v hv => ?_⟩
      by_cases hvw : v = w
      · subst v
        simp [hanswer]
      · simpa [hvw] using hcd.programs v hv

/-- An action of another is not seen. -/
theorem Alike.others (h : Apart service owner Inv A R Q same)
    (hcd : Alike service owner Inv A R Q same d c e) {a : Act W Req C} (hd : owner a.worker ≠ d)
    (hfresh : ∀ choice ∈ a.choice, service.fresh c.1 choice) :
    Alike service owner Inv A R Q same d (service.act owner c a) e := by
  have hgood := good_act h hcd.good hfresh
  have hne : ∀ v, owner v = d → v ≠ a.worker := by
    rintro v hv rfl
    exact hd hv
  cases a with
  | call w request =>
    refine ⟨hgood, hcd.alone, hcd.same, fun v hv => ?_⟩
    simpa [Service.act, show v ≠ w from hne v hv] using hcd.programs v hv
  | statement w choice =>
    cases hp : c.2 w with
    | done a =>
      have hc : service.act owner c (.statement w choice) = c := by simp [Service.act, hp]
      exact hc.symm ▸ hcd
    | fail error =>
      have hc : service.act owner c (.statement w choice) = c := by simp [Service.act, hp]
      exact hc.symm ▸ hcd
    | ask op rest =>
      have hallowed := hcd.good.allowed h.rules hp
      have hc : service.act owner c (.statement w choice) = ((service.perform choice c.1 op).2,
          Function.update c.2 w (rest (service.perform choice c.1 op).1)) := by
        simp [Service.act, hp]
      rw [hc] at hgood ⊢
      refine ⟨hgood, hcd.alone, h.others hd hcd.good.inv hallowed (hfresh choice rfl) hcd.same,
        fun v hv => ?_⟩
      simpa [show v ≠ w from hne v hv] using hcd.programs v hv

/-- The party could have been alone, and would see the same, and so would its workers. -/
theorem Apart.run [DecidableEq D] (h : Apart service owner Inv A R Q same)
    (hcd : Alike service owner Inv A R Q same d c e) {acts : List (Act W Req C)}
    (hdraws : service.Draws owner c acts) : service.Draws owner e (Service.own owner d acts) ∧
      Alike service owner Inv A R Q same d (service.run owner c acts)
        (service.run owner e (Service.own owner d acts)) := by
  induction acts generalizing c e with
  | nil => exact ⟨trivial, hcd⟩
  | cons a acts ih =>
    by_cases hd : owner a.worker = d
    · have hown : Service.own owner d (a :: acts) = a :: Service.own owner d acts := by
        simp [Service.own, hd]
      obtain ⟨halone, hrun⟩ := ih (hcd.own h hd hdraws.1) hdraws.2
      rw [hown]
      exact ⟨⟨fun choice hmem => h.fresh hcd.same (hdraws.1 choice hmem), halone⟩, hrun⟩
    · have hown : Service.own owner d (a :: acts) = Service.own owner d acts := by
        simp [Service.own, hd]
      rw [hown]
      exact ih (hcd.others h hd hdraws.1) hdraws.2

end Apart

end Foundation.Prog
