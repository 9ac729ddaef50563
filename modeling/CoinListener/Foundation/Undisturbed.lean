import CoinListener.Foundation.Transaction

/-! A transaction that nobody else disturbs, from what its client sees before it to what is committed.
Statements may fail. -/
namespace Foundation.Transaction

variable {Tables Change Key ε Query W : Type} {A : Query → Type} [DecidableEq W] [DecidableEq Key]
  {S : Schema Tables Change Key ε Query A} {fault : String → ε} {w : W} {C : Tables → Prop}
  {P : Tables → Nat → Prop} {α β : Type}

/-- What is said of the tables that the client sees and of the next identifier. -/
def sees (S : Schema Tables Change Key ε Query A) (w : W) (P : Tables → Nat → Prop) :
    Prog.Assn (Eq (α := World Tables Change Key W)) fun _ => True where
  holds s := P (s.view S w) s.next_id
  stable h heq := heq ▸ h
  good _ := trivial

/-- Only tables like these are committed. -/
def CommitsOnly (S : Schema Tables Change Key ε Query A) (w : W) (C : Tables → Prop)
    (s : World Tables Change Key W) : Op Query → Prop
  | .commit => C (s.view S w)
  | _ => True

/-- A part of a call, from `P` to `Q`. After an error nothing is said. -/
abbrev Works (S : Schema Tables Change Key ε Query A) (fault : String → ε) (w : W)
    (C : Tables → Prop) (P : Tables → Nat → Prop) (p : Prog (Op Query) (Op.Answer A) ε α)
    (Q : α → Tables → Nat → Prop) : Prop :=
  Prog.Triple (CommitsOnly S w C) (Carried S fault w) (sees S w P) p (fun a => sees S w (Q a))
    fun _ => sees S w fun _ _ => True

namespace Works
variable {p : Prog (Op Query) (Op.Answer A) ε α} {f : α → Prog (Op Query) (Op.Answer A) ε β}
  {Q : α → Tables → Nat → Prop} {Q' : β → Tables → Nat → Prop}

theorem done {a : α} (h : ∀ v n, P v n → Q a v n) : Works S fault w C P (.done a) Q :=
  Prog.Triple.done fun _ hs => h _ _ hs

theorem fail {e : ε} : Works S fault w C P (.fail e) Q :=
  Prog.Triple.fail fun _ _ => trivial

theorem lift {x : Except ε α} (h : ∀ a, x = .ok a → ∀ v n, P v n → Q a v n) :
    Works S fault w C P (Prog.lift x) Q :=
  Prog.Triple.lift (fun a ha _ hs => h a ha _ _ hs) fun _ _ _ _ => trivial

theorem bind (hp : Works S fault w C P p Q) (hf : ∀ a, Works S fault w C (Q a) (f a) Q') :
    Works S fault w C P (p.bind f) Q' :=
  Prog.Triple.bind (fun _ => rfl) hp hf

/-- A pure check, passed. -/
theorem check {x : Except ε α} (h : ∀ a, x = .ok a → Works S fault w C P (f a) Q') :
    Works S fault w C P ((Prog.lift x).bind f) Q' :=
  Prog.Triple.bind_lift h fun _ _ _ _ => trivial

theorem consequence {P' : Tables → Nat → Prop} {R : α → Tables → Nat → Prop}
    (hp : Works S fault w C P' p R) (hP : ∀ v n, P v n → P' v n)
    (hQ : ∀ a v n, R a v n → Q a v n) : Works S fault w C P p Q :=
  Prog.Triple.consequence hp (fun _ hs => hP _ _ hs) (fun a _ hs => hQ a _ _ hs) fun _ _ _ => trivial

theorem weaken {P' : Tables → Nat → Prop} (hp : Works S fault w C P' p Q)
    (hP : ∀ v n, P v n → P' v n) : Works S fault w C P p Q :=
  hp.consequence hP fun _ _ _ h => h

/-- What the tables were in the beginning may be spoken of to the end. -/
theorem each (h : ∀ v n, P v n → Works S fault w C (fun v' n' => v' = v ∧ n' = n) p Q) :
    Works S fault w C P p Q :=
  ⟨fun s hs => (h _ _ hs).safe s ⟨rfl, rfl⟩⟩

/-- A statement, answered. -/
theorem ask {q : Query} {Q : A q → Tables → Nat → Prop}
    (h : ∀ v n skipped now, P v n → ∀ a, (S.effect skipped now n v q).answer = .ok a →
      Q a ((S.effect skipped now n v q).log.foldl (fun t c => S.apply c t) v)
        (S.effect skipped now n v q).next_id) :
    Works S fault w C P (Prog.perform (.ask q)) Q := by
  refine Prog.Triple.perform (fun _ _ => trivial) fun s hs r t ht => ?_
  cases r with
  | error e => exact trivial
  | ok a =>
    generalize hr : (Except.ok a : Except ε (A q)) = r at ht
    cases ht with
    | answered hfree =>
      have hnext : Q a ((s.perform w (s.effect S w q)).view S w) (s.effect S w q).next_id := by
        rw [World.view_perform]
        exact h _ _ _ _ hs a hr.symm
      rw [← hr]
      exact hnext
    | refused => exact nomatch hr
    | unacknowledged => exact nomatch hr

/-- Statements of a kind that keeps an assertion. -/
theorem of_only {T : Op Query → Prop} (hp : p.Only T)
    (hT : ∀ op, T op → ∃ q, op = .ask q ∧ ∀ v n skipped now, P v n →
      P ((S.effect skipped now n v q).log.foldl (fun t c => S.apply c t) v)
        (S.effect skipped now n v q).next_id) :
    Works S fault w C P p fun _ => P := by
  refine (Prog.Triple.of_only hp (P := sees S w P) (fun op hop s _ => ?_)
    fun op hop s hs r t ht => ?_).consequence (fun _ hs => hs) (fun _ _ hs => hs) fun _ _ _ => trivial
  · obtain ⟨q, rfl, _⟩ := hT op hop
    trivial
  · obtain ⟨q, rfl, hkeep⟩ := hT op hop
    have hnext : P ((s.perform w (s.effect S w q)).view S w) (s.effect S w q).next_id := by
      rw [World.view_perform]
      exact hkeep _ _ _ _ hs
    cases ht with
    | answered => exact hnext
    | refused => exact hs
    | unacknowledged => exact hnext

/-- The loop rule. -/
theorem forEach {f : α → Prog (Op Query) (Op.Answer A) ε (List β)}
    {J : List α → Tables → Nat → Prop} (items : List α)
    (h : ∀ before a after, items = before ++ a :: after →
      Works S fault w C (J before) (f a) fun _ => J (before ++ [a])) :
    Works S fault w C (J []) (Prog.forEach f items) fun _ => J items :=
  Prog.Triple.forEach (J := fun done => sees S w (J done)) (fun _ => rfl) [] items
    fun before a after hitems => h before a after hitems

/-- The rest of a call, where nothing is committed. -/
theorem afterwards (hp : p.Only fun op => op ≠ .commit) :
    Works S fault w C P p fun _ _ _ => True := by
  refine (Prog.Triple.of_only hp (P := sees S w fun _ _ => True) (fun op hop s _ => ?_)
    fun _ _ _ _ _ _ _ => trivial).consequence (fun _ _ => trivial) (fun _ _ hs => hs)
    fun _ _ hs => hs
  cases op with
  | commit => exact absurd rfl hop
  | begin => trivial
  | rollback => trivial
  | ask q => trivial

/-- The transaction around a body that ends in tables that may be committed. -/
theorem transaction (hp : Works S fault w C P p Q) (hcommit : ∀ a v n, Q a v n → C v) :
    Works S fault w C P (transaction p) fun _ _ _ => True := by
  refine .bind (Q := fun _ => P) ?_ fun _ => ?_
  · refine Prog.Triple.perform (fun _ _ => trivial) fun s hs r t ht => ?_
    cases ht with
    | begun now => exact hs
    | not_begun => exact trivial
  refine .bind (Q := fun r v n => ∀ a, r = .ok a → Q a v n) ?_ fun result => ?_
  · refine Prog.Triple.attempt hp (fun a _ hs b hb => ?_) fun _ _ _ => nofun
    obtain rfl := Except.ok.inj hb
    exact hs
  cases result with
  | error e => exact afterwards (.bind (.attempt (.perform nofun)) fun _ => .fail)
  | ok a =>
    refine .bind (Q := fun _ _ _ => True) ?_ fun _ => .done fun _ _ _ => trivial
    refine Prog.Triple.perform (fun s hs => hcommit a _ _ (hs a rfl)) fun s hs r t _ => ?_
    cases r with
    | ok _ => exact trivial
    | error _ => exact trivial

end Works

/-- A call goes on, and nothing else happens. -/
abbrev Undisturbed (S : Schema Tables Change Key ε Query A) (fault : String → ε) (w : W) :
    World Tables Change Key W × Prog (Op Query) (Op.Answer A) ε α →
      World Tables Change Key W × Prog (Op Query) (Op.Answer A) ε α → Prop :=
  Prog.Turn (Carried S fault w) (fun _ _ => False) fun _ _ _ => False

/-- What a call commits. -/
theorem Works.committed {s u : World Tables Change Key W}
    {p : Prog (Op Query) (Op.Answer A) ε α} {Q : α → Tables → Nat → Prop}
    {rest : Except ε ((.commit : Op Query).Answer A) → Prog (Op Query) (Op.Answer A) ε α}
    (hp : Works S fault w C (fun v n => v = s.tables ∧ n = s.next_id) p Q)
    (hrun : Relation.ReflTransGen (Undisturbed S fault w) (s.abandon w, p) (u, .ask .commit rest)) :
    C (u.commit S w).tables := by
  have hstart := hp.safe (s.abandon w) ⟨World.view_abandon s, rfl⟩
  have hsafe := Prog.Turn.safe (fun _ => rfl) Eq.trans (fun _ _ h => h.elim)
    (fun _ _ _ _ h => h.elim) hrun hstart
  exact hsafe.allowed fun _ => rfl

omit [DecidableEq Key] in
/-- A client without company waits for nobody. -/
theorem World.unblocked_unit (s : World Tables Change Key Unit) (op : Op Query) :
    s.unblocked S () op = true := by
  cases op with
  | ask q =>
    refine List.all_eq_true.mpr fun k _ => decide_eq_true ?_
    cases s.owner k with
    | none => exact .inl rfl
    | some v => exact .inr rfl
  | begin => rfl
  | commit => rfl
  | rollback => rfl

theorem Undisturbed.of_advance {s : World Tables Change Key Unit}
    {p : Prog (Op Query) (Op.Answer A) ε α} (n : Nat) :
    Relation.ReflTransGen (Undisturbed S fault ()) (s, p)
      ((Prog.advance (World.alone S ()) n p s).2, (Prog.advance (World.alone S ()) n p s).1) := by
  have hstep : ∀ (s : World Tables Change Key Unit) (op : Op Query),
      Carried S fault () s op (World.alone S () s op).1 (World.alone S () s op).2 :=
    fun s op => .alone (World.unblocked_unit s op)
  exact Prog.Turn.of_advance hstep n p s

/-- What comes next is a commit. -/
def commits : Prog (Op Query) (Op.Answer A) ε α → Bool
  | .ask .commit _ => true
  | _ => false

/-- A client without company comes to its commit. -/
theorem Undisturbed.of_commits {s : World Tables Change Key Unit}
    {p : Prog (Op Query) (Op.Answer A) ε α} {n : Nat}
    (h : commits (Prog.advance (World.alone S ()) n p s).1 = true) :
    ∃ u rest, Relation.ReflTransGen (Undisturbed S fault ()) (s, p) (u, .ask .commit rest) := by
  have hrun := @Undisturbed.of_advance _ _ _ _ _ A _ S fault α s p n
  generalize Prog.advance (World.alone S ()) n p s = next at h hrun
  obtain ⟨q, u⟩ := next
  cases q with
  | done a => exact nomatch h
  | fail e => exact nomatch h
  | ask op rest =>
    cases op with
    | commit => exact ⟨u, rest, hrun⟩
    | _ => exact nomatch h

end Foundation.Transaction
