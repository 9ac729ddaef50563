import CoinListener.Foundation.Crew

/-! Transactions that lock what they change, and what one client knows while others go on. -/
namespace Foundation.Transaction

set_option linter.unusedSectionVars false

/-! ### Statements -/

/-- What a client asks of the database. -/
inductive Op (Query : Type) where
  | begin
  | commit
  | rollback
  | ask (q : Query)

abbrev Op.Answer {Query : Type} (A : Query → Type) : Op Query → Type
  | .ask q => A q
  | _ => Unit

/-- What a statement answers, the keys it locks and the changes it makes. -/
structure Effect (Change Key ε A : Type) where
  answer : Except ε A
  locks : List Key
  log : List Change
  next_id : Nat

/-- What statements and changes do. A statement sees the committed tables with the changes of its
own transaction, and it locks every key that its changes touch. -/
structure Schema (Tables Change Key ε Query : Type) (A : Query → Type) where
  apply : Change → Tables → Tables
  keys : Change → List Key
  effect : (skipped : Key → Bool) → (now : Int) → (next_id : Nat) → Tables → (q : Query) →
    Effect Change Key ε (A q)
  locked : ∀ {skipped now next_id t q}, ∀ c ∈ (effect skipped now next_id t q).log,
    ∀ k ∈ keys c, k ∈ (effect skipped now next_id t q).locks
  next_id_le : ∀ {skipped now next_id t q}, next_id ≤ (effect skipped now next_id t q).next_id

/-- The committed tables, and for each client what its transaction has changed so far. A key is
locked by one client at most. -/
structure World (Tables Change Key W : Type) where
  tables : Tables
  next_id : Nat
  owner : Key → Option W
  log : W → List Change
  started : W → Int

variable {Tables Change Key ε Query W : Type} {A : Query → Type}

/-! ### Programs -/

section Programs
variable {α : Type}

/-- A transaction that fails is rolled back. -/
def transaction (body : Prog (Op Query) (Op.Answer A) ε α) : Prog (Op Query) (Op.Answer A) ε α :=
  (Prog.perform (.begin : Op Query)).bind fun _ => body.attempt.bind fun
    | .ok a => (Prog.perform (.commit : Op Query)).bind fun _ => .done a
    | .error e => (Prog.perform (.rollback : Op Query)).attempt.bind fun _ => .fail e

end Programs

/-! ### Steps -/

namespace World
variable [DecidableEq W] [DecidableEq Key] (S : Schema Tables Change Key ε Query A)
  (s : World Tables Change Key W) (w : W)

/-- What a client sees. -/
def view : Tables :=
  (s.log w).foldl (fun t c => S.apply c t) s.tables

def locked_by_other (k : Key) : Bool :=
  s.owner k != none && s.owner k != some w

def effect (q : Query) : Effect Change Key ε (A q) :=
  S.effect (s.locked_by_other w) (s.started w) s.next_id (s.view S w) q

/-- Locks that others hold are waited for. -/
def Free {B : Type} (e : Effect Change Key ε B) : Prop :=
  ∀ k ∈ e.locks, s.owner k = none ∨ s.owner k = some w

def perform {B : Type} (e : Effect Change Key ε B) : World Tables Change Key W :=
  { s with
    next_id := e.next_id
    owner := fun k => if k ∈ e.locks then some w else s.owner k
    log := Function.update s.log w (s.log w ++ e.log) }

/-- The end of a transaction without its changes. -/
def abandon : World Tables Change Key W :=
  { s with
    owner := fun k => if s.owner k = some w then none else s.owner k
    log := Function.update s.log w [] }

def commit : World Tables Change Key W :=
  { s.abandon w with tables := s.view S w }

def start (now : Int) : World Tables Change Key W :=
  { s with started := Function.update s.started w now }

end World

section Steps
variable [DecidableEq W] [DecidableEq Key] (S : Schema Tables Change Key ε Query A)
  (fault : String → ε) (w : W) (s : World Tables Change Key W)

/-- What may become of a client's statement. The answer may be lost though it is carried out. -/
inductive Carried : (op : Op Query) → Except ε (op.Answer A) → World Tables Change Key W → Prop where
  | begun (now : Int) : Carried .begin (.ok ()) (s.start w now)
  | not_begun (message : String) : Carried .begin (.error (fault message)) s
  | answered {q} (hfree : s.Free w (s.effect S w q)) :
    Carried (.ask q) (s.effect S w q).answer (s.perform w (s.effect S w q))
  | refused {q} (message : String) : Carried (.ask q) (.error (fault message)) s
  | unacknowledged {q} (message : String) (hfree : s.Free w (s.effect S w q)) :
    Carried (.ask q) (.error (fault message)) (s.perform w (s.effect S w q))
  | committed : Carried .commit (.ok ()) (s.commit S w)
  | not_committed (message : String) : Carried .commit (.error (fault message)) (s.abandon w)
  | commit_lost (message : String) : Carried .commit (.error (fault message)) (s.commit S w)
  | rolled_back {r} : Carried .rollback r (s.abandon w)

end Steps

/-! ### Facts that locks protect -/

/-- Facts about the tables, each with the keys it rests on: a change that touches none of them
leaves it as it is, and so does what happens to the tables otherwise. -/
structure Facts (S : Schema Tables Change Key ε Query A) (edit : Tables → Tables → Prop) where
  Fact : Type
  holds : Fact → Tables → Prop
  keys : Fact → List Key
  kept : ∀ {f c t}, (∀ k ∈ S.keys c, k ∉ keys f) → holds f t → holds f (S.apply c t)
  edited : ∀ {f t u}, edit t u → holds f t → holds f u

/-- Every change still to be committed has its keys locked. -/
def Covered (S : Schema Tables Change Key ε Query A) (s : World Tables Change Key W) : Prop :=
  ∀ w, ∀ c ∈ s.log w, ∀ k ∈ S.keys c, s.owner k = some w

section Interference
variable [DecidableEq W] [DecidableEq Key] {S : Schema Tables Change Key ε Query A}
  {edit : Tables → Tables → Prop} {fault : String → ε} {s t u : World Tables Change Key W}
  {v w : W} {op : Op Query} {r : Except ε (op.Answer A)}

/-- What others may do to a client: its transaction and its locks are its own, and what it knows
stays true. -/
structure Interference (F : Facts S edit) (w : W) (s t : World Tables Change Key W) : Prop where
  log : t.log w = s.log w
  started : t.started w = s.started w
  owner : ∀ k, t.owner k = some w ↔ s.owner k = some w
  known : ∀ f, (∀ k ∈ F.keys f, s.owner k = some w) → F.holds f s.tables → F.holds f t.tables

namespace Interference
variable {F : Facts S edit}

theorem refl (w : W) (s : World Tables Change Key W) : Interference F w s s :=
  ⟨rfl, rfl, fun _ => Iff.rfl, fun _ _ h => h⟩

theorem trans (hst : Interference F w s t) (htu : Interference F w t u) : Interference F w s u := by
  refine ⟨htu.log.trans hst.log, htu.started.trans hst.started,
    fun k => (htu.owner k).trans (hst.owner k), fun f hkeys hf => ?_⟩
  exact htu.known f (fun k hk => (hst.owner k).mpr (hkeys k hk)) (hst.known f hkeys hf)

theorem of_edit {tables : Tables} (h : edit s.tables tables) :
    Interference F w s { s with tables := tables } :=
  ⟨rfl, rfl, fun _ => Iff.rfl, fun _ _ hf => F.edited h hf⟩

theorem start (now : Int) (hne : v ≠ w) : Interference F v s (s.start w now) :=
  ⟨rfl, Function.update_of_ne hne .., fun _ => Iff.rfl, fun _ _ h => h⟩

theorem perform {B : Type} {e : Effect Change Key ε B} (hfree : s.Free w e) (hne : v ≠ w) :
    Interference F v s (s.perform w e) := by
  refine ⟨Function.update_of_ne hne .., rfl, fun k => ?_, fun _ _ h => h⟩
  by_cases hk : k ∈ e.locks
  · have howner : (s.perform w e).owner k = some w := if_pos hk
    rw [howner]
    constructor
    · intro h
      exact absurd (Option.some.inj h).symm hne
    · intro h
      rcases hfree k hk with hnone | hown
      · exact nomatch hnone.symm.trans h
      · exact absurd (Option.some.inj (hown.symm.trans h)).symm hne
  · have howner : (s.perform w e).owner k = s.owner k := if_neg hk
    rw [howner]

theorem abandon_owner (hne : v ≠ w) (k : Key) :
    (s.abandon w).owner k = some v ↔ s.owner k = some v := by
  by_cases hk : s.owner k = some w
  · have howner : (s.abandon w).owner k = none := if_pos hk
    rw [howner, hk]
    exact ⟨nofun, fun h => absurd (Option.some.inj h).symm hne⟩
  · have howner : (s.abandon w).owner k = s.owner k := if_neg hk
    rw [howner]

theorem abandon (hne : v ≠ w) : Interference F v s (s.abandon w) :=
  ⟨Function.update_of_ne hne .., rfl, abandon_owner hne, fun _ _ h => h⟩

/-- Changes under other locks leave a fact as it is. -/
theorem known_replay {f : F.Fact} {log : List Change} {tables : Tables}
    (hlog : ∀ c ∈ log, ∀ k ∈ S.keys c, k ∉ F.keys f) (h : F.holds f tables) :
    F.holds f (log.foldl (fun t c => S.apply c t) tables) := by
  induction log generalizing tables with
  | nil => exact h
  | cons c log ih =>
    exact ih (fun d hd => hlog d (List.mem_cons_of_mem _ hd))
      (F.kept (hlog c (List.mem_cons_self ..)) h)

theorem commit (hcovered : Covered S s) (hne : v ≠ w) : Interference F v s (s.commit S w) := by
  refine ⟨Function.update_of_ne hne .., rfl, abandon_owner hne, fun f hkeys hf => ?_⟩
  refine known_replay (fun c hc k hk hmem => ?_) hf
  have hown := hcovered w c hc k hk
  exact hne (Option.some.inj ((hkeys k hmem).symm.trans hown))

/-- To the others a statement is no more than that. -/
theorem of_carried (hcovered : Covered S s) (h : Carried S fault w s op r t) (hne : v ≠ w) :
    Interference F v s t := by
  cases h with
  | begun now => exact start now hne
  | not_begun => exact refl v s
  | answered hfree => exact perform hfree hne
  | refused => exact refl v s
  | unacknowledged _ hfree => exact perform hfree hne
  | committed => exact commit hcovered hne
  | not_committed => exact abandon hne
  | commit_lost => exact commit hcovered hne
  | rolled_back => exact abandon hne

end Interference

namespace Covered

theorem perform {q : Query} (h : Covered S s) (hfree : s.Free w (s.effect S w q)) :
    Covered S (s.perform w (s.effect S w q)) := by
  intro v c hc k hk
  by_cases hv : v = w
  · subst v
    have hlog : (s.perform w (s.effect S w q)).log w = s.log w ++ (s.effect S w q).log :=
      Function.update_self ..
    rw [hlog] at hc
    rcases List.mem_append.mp hc with hold | hnew
    · have howner := h w c hold k hk
      by_cases hlock : k ∈ (s.effect S w q).locks
      · exact if_pos hlock
      · exact (if_neg hlock).trans howner
    · exact if_pos (S.locked c hnew k hk)
  · have hlog : (s.perform w (s.effect S w q)).log v = s.log v := Function.update_of_ne hv ..
    rw [hlog] at hc
    have howner := h v c hc k hk
    have hlock : k ∉ (s.effect S w q).locks := by
      intro hlock
      rcases hfree k hlock with hnone | hown
      · exact nomatch hnone.symm.trans howner
      · exact hv (Option.some.inj (howner.symm.trans hown))
    exact (if_neg hlock).trans howner

theorem abandon (h : Covered S s) : Covered S (s.abandon w) := by
  intro v c hc k hk
  by_cases hv : v = w
  · subst v
    have hlog : (s.abandon w).log w = [] := Function.update_self ..
    rw [hlog] at hc
    exact absurd hc List.not_mem_nil
  · have hlog : (s.abandon w).log v = s.log v := Function.update_of_ne hv ..
    rw [hlog] at hc
    exact (Interference.abandon_owner hv k).mpr (h v c hc k hk)

theorem of_carried (h : Covered S s) (hcarried : Carried S fault w s op r t) : Covered S t := by
  cases hcarried with
  | begun => exact h
  | not_begun => exact h
  | answered hfree => exact h.perform hfree
  | refused => exact h
  | unacknowledged _ hfree => exact h.perform hfree
  | committed => exact h.abandon
  | not_committed => exact h.abandon
  | commit_lost => exact h.abandon
  | rolled_back => exact h.abandon

end Covered

/-! ### What a client knows in the middle of a transaction -/

/-- The changes that count, so far, and facts that the client's own locks protect. -/
structure Knows (F : Facts S edit) (counts : Change → Bool) (w : W) (changes : List Change)
    (facts : List F.Fact) (s : World Tables Change Key W) : Prop where
  log : (s.log w).filter counts = changes
  holds : ∀ f ∈ facts, F.holds f s.tables
  locked : ∀ f ∈ facts, ∀ k ∈ F.keys f, s.owner k = some w

namespace Knows
variable {F : Facts S edit} {counts : Change → Bool} {changes : List Change}
  {facts : List F.Fact}

theorem interfere (h : Knows F counts w changes facts s) (hst : Interference F w s t) :
    Knows F counts w changes facts t := by
  refine ⟨hst.log ▸ h.log, fun f hf => hst.known f (h.locked f hf) (h.holds f hf),
    fun f hf k hk => (hst.owner k).mpr (h.locked f hf k hk)⟩

/-- A statement adds its changes, and the facts that its locks protect from now on. -/
theorem perform {B : Type} {e : Effect Change Key ε B} (more : List F.Fact)
    (h : Knows F counts w changes facts s) (hholds : ∀ f ∈ more, F.holds f s.tables)
    (hlocked : ∀ f ∈ more, ∀ k ∈ F.keys f, k ∈ e.locks ∨ s.owner k = some w) :
    Knows F counts w (changes ++ e.log.filter counts) (facts ++ more) (s.perform w e) := by
  have howner : ∀ k, k ∈ e.locks ∨ s.owner k = some w → (s.perform w e).owner k = some w := by
    intro k hk
    by_cases hlock : k ∈ e.locks
    · exact if_pos hlock
    · exact (if_neg hlock).trans (hk.resolve_left hlock)
  constructor
  · have hlog : (s.perform w e).log w = s.log w ++ e.log := Function.update_self ..
    rw [hlog, List.filter_append, h.log]
  · intro f hf
    rcases List.mem_append.mp hf with hold | hnew
    · exact h.holds f hold
    · exact hholds f hnew
  · intro f hf k hk
    rcases List.mem_append.mp hf with hold | hnew
    · exact howner k (Or.inr (h.locked f hold k hk))
    · exact howner k (hlocked f hnew k hk)

theorem start (h : Knows F counts w changes facts s) (now : Int) :
    Knows F counts w changes facts (s.start w now) :=
  ⟨h.log, h.holds, h.locked⟩

/-- Outside a transaction nothing is known. -/
theorem abandon : Knows F counts w [] [] (s.abandon w) := by
  refine ⟨?_, fun _ hf => absurd hf List.not_mem_nil, fun _ hf => absurd hf List.not_mem_nil⟩
  have hlog : (s.abandon w).log w = [] := Function.update_self ..
  rw [hlog]
  rfl

theorem commit : Knows F counts w [] [] (s.commit S w) := by
  refine ⟨?_, fun _ hf => absurd hf List.not_mem_nil, fun _ hf => absurd hf List.not_mem_nil⟩
  have hlog : (s.commit S w).log w = [] := Function.update_self ..
  rw [hlog]
  rfl

end Knows

end Interference

/-! ### Clients -/

section Clients
variable [DecidableEq W] [DecidableEq Key] {S : Schema Tables Change Key ε Query A}
  {edit : Tables → Tables → Prop} {fault : String → ε} {F : Facts S edit} {counts : Change → Bool}
  {J : World Tables Change Key W → Prop} {G : Tables → Tables → Prop}
  {s t : World Tables Change Key W} {w : W} {α β : Type}

/-- Other parts of the system edit the committed tables. -/
def Edited (edit : Tables → Tables → Prop) (s t : World Tables Change Key W) : Prop :=
  ∃ tables, edit s.tables tables ∧ t = { s with tables := tables }

/-- A client starts a call over; what its last transaction left is rolled back. -/
def Launch (call : Prog (Op Query) (Op.Answer A) ε α → Prop) (w : W)
    (s : World Tables Change Key W) (p : Prog (Op Query) (Op.Answer A) ε α)
    (t : World Tables Change Key W) : Prop :=
  t = s.abandon w ∧ call p

/-- The invariant of the worlds, whatever they hold. -/
structure Sound (S : Schema Tables Change Key ε Query A)
    (J : World Tables Change Key W → Prop) (s : World Tables Change Key W) : Prop where
  covered : Covered S s
  sound : J s

/-- What has to be known when a transaction is to be committed: the invariant holds afterwards, and
the tables go on as they should. -/
def MayCommit (S : Schema Tables Change Key ε Query A) (J : World Tables Change Key W → Prop)
    (G : Tables → Tables → Prop) (w : W) (s : World Tables Change Key W) : Op Query → Prop
  | .commit => Sound S J s → J (s.commit S w) ∧ G s.tables (s.view S w)
  | _ => True

def knows (F : Facts S edit) (counts : Change → Bool) (w : W) (changes : List Change)
    (facts : List F.Fact) : Prog.Assn (Interference F w) fun _ => True where
  holds := Knows F counts w changes facts
  stable h hst := h.interfere hst
  good _ := trivial

/-- Nothing is known, after an error. -/
def anything (F : Facts S edit) (w : W) : Prog.Assn (Interference F w) fun _ => True where
  holds _ := True
  stable _ _ := trivial
  good _ := trivial

/-- A part of a call: what its statements do, from `P` to `Q`. -/
abbrev Does (fault : String → ε) (F : Facts S edit) (J : World Tables Change Key W → Prop)
    (G : Tables → Tables → Prop) (w : W)
    (P : Prog.Assn (Interference F w) fun _ => True) (p : Prog (Op Query) (Op.Answer A) ε α)
    (Q : α → Prog.Assn (Interference F w) fun _ => True)
    (E : Prog.Assn (Interference F w) fun _ => True) : Prop :=
  Prog.Triple (MayCommit S J G w) (Prog.Within (Sound S J) (Carried S fault w)) P p Q fun _ => E

/-- What is known is one of these. -/
def knows_some (F : Facts S edit) (counts : Change → Bool) (w : W)
    (K : List Change → List F.Fact → Prop) : Prog.Assn (Interference F w) fun _ => True where
  holds s := ∃ changes facts, K changes facts ∧ Knows F counts w changes facts s
  stable := by
    rintro s t ⟨changes, facts, hK, h⟩ hst
    exact ⟨changes, facts, hK, h.interfere hst⟩
  good _ := trivial

/-- A part of a call may be looked at for each of these. -/
theorem does_of_each {K : List Change → List F.Fact → Prop}
    {p : Prog (Op Query) (Op.Answer A) ε α} {Q : α → Prog.Assn (Interference F w) fun _ => True}
    {E : Prog.Assn (Interference F w) fun _ => True}
    (h : ∀ changes facts, K changes facts →
      Does fault F J G w (knows F counts w changes facts) p Q E) :
    Does fault F J G w (knows_some F counts w K) p Q E :=
  ⟨fun s ⟨changes, facts, hK, hs⟩ => (h changes facts hK).safe s hs⟩

/-- A statement whose answer, where there is one, leaves what is to be known. -/
theorem ask_does {q : Query} {P : Prog.Assn (Interference F w) fun _ => True}
    {Q : A q → Prog.Assn (Interference F w) fun _ => True}
    (h : ∀ s, Sound S J s → P.holds s → ∀ a, (s.effect S w q).answer = .ok a →
      (Q a).holds (s.perform w (s.effect S w q))) :
    Does fault F J G w P (Prog.perform (.ask q)) Q (anything F w) := by
  refine .perform (fun _ _ => trivial) fun s hs r t ht => ?_
  obtain ⟨hsound, hcarried, _⟩ := ht
  cases r with
  | error e => exact trivial
  | ok a =>
    generalize hr : (Except.ok a : Except ε (A q)) = r at hcarried
    cases hcarried with
    | answered hfree =>
      have hnext := h s hsound hs a hr.symm
      rw [← hr]
      exact hnext
    | refused => exact nomatch hr
    | unacknowledged => exact nomatch hr

/-- The transaction around a body that ends where it may be committed. -/
theorem transaction_does {body : Prog (Op Query) (Op.Answer A) ε α}
    {Q : α → Prog.Assn (Interference F w) fun _ => True}
    (hbody : Does fault F J G w (knows F counts w [] []) body Q (anything F w))
    (hcommit : ∀ a s, (Q a).holds s → Sound S J s → J (s.commit S w) ∧ G s.tables (s.view S w)) :
    Does fault F J G w (knows F counts w [] []) (transaction body) (fun _ => knows F counts w [] [])
      (knows F counts w [] []) := by
  refine .bind (Interference.refl w) (Q := fun _ => knows F counts w [] []) ?_ fun _ => ?_
  · refine .perform (fun _ _ => trivial) fun s hs r t ht => ?_
    obtain ⟨_, hcarried, _⟩ := ht
    cases hcarried with
    | begun now => exact hs.start now
    | not_begun => exact hs
  refine .bind (Interference.refl w) (Q := fun r => match r with
    | .ok a => Q a
    | .error _ => anything F w) ?_ fun result => ?_
  · exact .attempt hbody (fun _ _ h => h) fun _ _ h => h
  cases result with
  | error e =>
    refine .bind (Interference.refl w) (Q := fun _ => knows F counts w [] []) ?_
      fun _ => .fail fun _ h => h
    refine .attempt (Q := fun _ => knows F counts w [] []) (E := fun _ => knows F counts w [] []) ?_
      (fun _ _ h => h) fun _ _ h => h
    refine .perform (fun _ _ => trivial) fun s hs r t ht => ?_
    obtain ⟨_, hcarried, _⟩ := ht
    cases hcarried with
    | rolled_back =>
      cases r with
      | ok _ => exact Knows.abandon
      | error _ => exact Knows.abandon
  | ok a =>
    refine .bind (Interference.refl w) (Q := fun _ => knows F counts w [] []) ?_
      fun _ => .done fun _ h => h
    refine .perform (fun s hs hsound => hcommit a s hs hsound) fun s hs r t ht => ?_
    obtain ⟨_, hcarried, _⟩ := ht
    cases hcarried with
    | committed => exact Knows.commit
    | not_committed => exact Knows.abandon
    | commit_lost => exact Knows.commit

/-- Statements of a kind that changes nothing that counts. -/
theorem does_of_only {T : Op Query → Prop} {changes : List Change} {facts : List F.Fact}
    {p : Prog (Op Query) (Op.Answer A) ε α} (hp : p.Only T)
    (hT : ∀ op, T op → ∃ q, op = .ask q ∧ ∀ skipped now next_id tables,
      ∀ c ∈ (S.effect skipped now next_id tables q).log, counts c = false) :
    Does fault F J G w (knows F counts w changes facts) p (fun _ => knows F counts w changes facts)
      (knows F counts w changes facts) := by
  refine .of_only hp (fun op hop s _ => ?_) fun op hop s hs r t ht => ?_
  · obtain ⟨q, rfl, _⟩ := hT op hop
    trivial
  · obtain ⟨q, rfl, hquiet⟩ := hT op hop
    have hperformed : Knows F counts w changes facts (s.perform w (s.effect S w q)) := by
      have hnone : (s.effect S w q).log.filter counts = [] :=
        List.filter_eq_nil_iff.mpr fun c hc => by
          simp [hquiet _ _ _ _ c hc]
      have hnext := Knows.perform (e := s.effect S w q) [] hs
        (fun _ hf => absurd hf List.not_mem_nil) fun _ hf => absurd hf List.not_mem_nil
      rwa [hnone, List.append_nil, List.append_nil] at hnext
    obtain ⟨_, hcarried, _⟩ := ht
    cases hcarried with
    | answered => exact hperformed
    | refused => exact hs
    | unacknowledged => exact hperformed

/-- Any number of clients, each with one call after another. -/
theorem rules {call : Prog (Op Query) (Op.Answer A) ε α → Prop}
    (hperform : ∀ {s q w}, Sound S J s → s.Free w (s.effect S w q) →
      J (s.perform w (s.effect S w q)))
    (hstart : ∀ {s w now}, J s → J (s.start w now)) (habandon : ∀ {s w}, J s → J (s.abandon w))
    (hedit : ∀ {s t}, J s → Edited edit s t → J t)
    (hcalls : ∀ p, call p → ∀ w, Does fault F J G w (knows F counts w [] []) p
      (fun _ => knows F counts w [] []) (knows F counts w [] [])) :
    Prog.Crew.Rules (Carried S fault) (Edited edit) (Launch (W := W) call) (Sound S J)
      (MayCommit S J G) (Interference F) fun _ _ _ => True where
  refl := Interference.refl
  trans w := Interference.trans
  launch_inv := by
    rintro w s p t h ⟨rfl, _⟩
    exact ⟨h.covered.abandon, habandon h.sound⟩
  launch_safe := by
    rintro w s p t h ⟨rfl, hp⟩
    exact ((hcalls p hp w).safe _ Knows.abandon).mono fun _ _ _ _ => trivial
  launch_others := by
    rintro w v s p t h ⟨rfl, _⟩ hne
    exact Interference.abandon hne
  statement_inv := by
    intro w s op r t h hA hcarried
    refine ⟨h.covered.of_carried hcarried, ?_⟩
    cases hcarried with
    | begun => exact hstart h.sound
    | not_begun => exact h.sound
    | answered hfree => exact hperform h hfree
    | refused => exact h.sound
    | unacknowledged _ hfree => exact hperform h hfree
    | committed => exact (hA h).1
    | not_committed => exact habandon h.sound
    | commit_lost => exact (hA h).1
    | rolled_back => exact habandon h.sound
  statement_others h _ hcarried hne := Interference.of_carried h.covered hcarried hne
  others_inv := by
    rintro s t h hedited
    refine ⟨?_, hedit h.sound hedited⟩
    obtain ⟨tables, _, rfl⟩ := hedited
    exact h.covered
  others := by
    rintro w s t _ ⟨tables, hedited, rfl⟩
    exact Interference.of_edit hedited

/-- Between two states of a run the tables go on as they should. -/
theorem kept {call : Prog (Op Query) (Op.Answer A) ε α → Prop}
    {Q : W → Except ε α → World Tables Change Key W → Prop}
    {ps qs : W → Prog (Op Query) (Op.Answer A) ε α}
    (hrules : Prog.Crew.Rules (Carried S fault) (Edited edit) (Launch (W := W) call) (Sound S J)
      (MayCommit S J G) (Interference F) Q)
    (hrefl : ∀ tables, G tables tables) (htrans : ∀ {a b c}, G a b → G b c → G a c)
    (hedit : ∀ {a b}, edit a b → G a b)
    (h : Prog.Crew.Good (Carried S fault) (Sound S J) (MayCommit S J G) (Interference F) Q s ps)
    (hrun : Relation.ReflTransGen (Prog.Crew (Carried S fault) (Edited edit) (Launch call))
      (s, ps) (t, qs)) : G s.tables t.tables := by
  refine h.kept (G := fun s t => G s.tables t.tables) hrules (fun _ => hrefl _) htrans ?_ ?_ ?_ hrun
  · rintro w s p t _ ⟨rfl, _⟩
    exact hrefl _
  · intro w s op r t hs hA hcarried
    cases hcarried with
    | begun => exact hrefl _
    | not_begun => exact hrefl _
    | answered => exact hrefl _
    | refused => exact hrefl _
    | unacknowledged => exact hrefl _
    | committed => exact (hA hs).2
    | not_committed => exact hrefl _
    | commit_lost => exact (hA hs).2
    | rolled_back => exact hrefl _
  · rintro s t _ ⟨tables, hedited, rfl⟩
    exact hedit hedited

end Clients

/-! ### A client that nobody interrupts -/

section Alone
variable [DecidableEq W] [DecidableEq Key] (S : Schema Tables Change Key ε Query A) (w : W)

/-- Every statement is carried out and answered; transactions start at `0`. -/
def World.alone (s : World Tables Change Key W) :
    (op : Op Query) → Except ε (op.Answer A) × World Tables Change Key W
  | .begin => (.ok (), s.start w 0)
  | .commit => (.ok (), s.commit S w)
  | .rollback => (.ok (), s.abandon w)
  | .ask q => ((s.effect S w q).answer, s.perform w (s.effect S w q))

/-- The statement need not wait for a lock. -/
def World.unblocked (s : World Tables Change Key W) : Op Query → Bool
  | .ask q => (s.effect S w q).locks.all fun k => s.owner k = none ∨ s.owner k = some w
  | _ => true

variable {S w} {fault : String → ε} {edit : Tables → Tables → Prop} {α : Type}

theorem Carried.alone {s : World Tables Change Key W} {op : Op Query}
    (h : s.unblocked S w op = true) :
    Carried S fault w s op (s.alone S w op).1 (s.alone S w op).2 := by
  cases op with
  | begin => exact .begun 0
  | commit => exact .committed
  | rollback => exact .rolled_back
  | ask q =>
    refine .answered fun k hk => ?_
    exact of_decide_eq_true (List.all_eq_true.mp h k hk)

theorem World.view_perform (s : World Tables Change Key W) {B : Type} (e : Effect Change Key ε B) :
    (s.perform w e).view S w = e.log.foldl (fun t c => S.apply c t) (s.view S w) := by
  have hlog : (s.perform w e).log w = s.log w ++ e.log := Function.update_self ..
  rw [World.view, hlog, List.foldl_append]
  rfl

theorem World.view_abandon (s : World Tables Change Key W) : (s.abandon w).view S w = s.tables := by
  have hlog : (s.abandon w).log w = [] := Function.update_self ..
  rw [World.view, hlog]
  rfl

/-- After a commit a client sees what it has committed. -/
theorem World.view_commit (s : World Tables Change Key W) :
    (s.commit S w).view S w = s.view S w := by
  have hlog : (s.commit S w).log w = [] := Function.update_self ..
  rw [World.view, hlog]
  rfl

theorem alone_transaction_ok {body : Prog (Op Query) (Op.Answer A) ε α} {a : α}
    {s t : World Tables Change Key W}
    (h : Prog.eval (World.alone S w) body (s.start w 0) = (.ok a, t)) :
    Prog.eval (World.alone S w) (transaction body) s = (.ok a, t.commit S w) := by
  have hattempt : Prog.eval (World.alone S w) body.attempt (s.start w 0) = (.ok (.ok a), t) := by
    rw [Prog.eval_attempt, h]
  have hbegin : Prog.eval (World.alone S w)
      (Prog.perform (.begin : Op Query) : Prog (Op Query) (Op.Answer A) ε _) s =
        (.ok (), s.start w 0) := rfl
  rw [transaction, Prog.eval_bind_ok _ hbegin, Prog.eval_bind_ok _ hattempt]
  rfl

/-- A transaction that fails changes nothing. -/
theorem alone_transaction_error {body : Prog (Op Query) (Op.Answer A) ε α} {e : ε}
    {s t : World Tables Change Key W}
    (h : Prog.eval (World.alone S w) body (s.start w 0) = (.error e, t)) :
    Prog.eval (World.alone S w) (transaction body) s = (.error e, t.abandon w) := by
  have hattempt : Prog.eval (World.alone S w) body.attempt (s.start w 0) = (.ok (.error e), t) := by
    rw [Prog.eval_attempt, h]
  have hbegin : Prog.eval (World.alone S w)
      (Prog.perform (.begin : Op Query) : Prog (Op Query) (Op.Answer A) ε _) s =
        (.ok (), s.start w 0) := rfl
  rw [transaction, Prog.eval_bind_ok _ hbegin, Prog.eval_bind_ok _ hattempt]
  rfl

/-- A call from its start to its end. -/
theorem alone_run {call : Prog (Op Query) (Op.Answer A) ε α → Prop}
    {p : Prog (Op Query) (Op.Answer A) ε α} (hp : call p) (s : World Tables Change Key W)
    (ps : W → Prog (Op Query) (Op.Answer A) ε α)
    (hfree : Prog.along (World.alone S w) (World.unblocked S w) p (s.abandon w) = true) :
    ∃ qs, Relation.ReflTransGen (Prog.Crew (Carried S fault) (Edited edit) (Launch call)) (s, ps)
      ((Prog.eval (World.alone S w) p (s.abandon w)).2, qs) := by
  obtain ⟨qs, hqs, _⟩ := Prog.Crew.of_eval (E := Edited edit) (H := Carried S fault)
      (fun _ _ => Carried.alone) (s.abandon w) hfree
    (Function.update ps w p) (Function.update_self ..)
  exact ⟨qs, .head (.launch w ⟨rfl, hp⟩) hqs⟩

end Alone

end Foundation.Transaction
