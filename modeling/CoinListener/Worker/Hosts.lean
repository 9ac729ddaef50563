import CoinListener.Worker.Statement

/-! Database statements inside a larger world. -/
namespace CoinListener.Worker
open Foundation Storage

/-- The statements of a scan, where those against the database change nothing else. -/
structure Hosts {σ : Type} (H : σ → (s : Statement) → AppResult s.Answer → σ → Prop) (db : σ → Db)
    (store : σ → Db → σ) : Prop where
  same : ∀ w, store w (db w) = w
  fate : ∀ {w q r t}, H w (.db q) r t → ∃ d, Query.Fate (db w) q r d ∧ t = store w d

namespace Hosts
variable {σ : Type} {H : σ → (s : Statement) → AppResult s.Answer → σ → Prop} {db : σ → Db}
  {store : σ → Db → σ} {R : σ → σ → Prop} {I : σ → Prop} {P : Prog.Assn R I}
  {E : AppError → Prog.Assn R I} {q : Query} {r : AppResult q.Answer} {w t : σ}

/-- A query is carried out, whether or not its answer arrives, or the world is as before. -/
theorem query_cases (host : Hosts H db store) (h : H w (.db q) r t) :
    (t = store w (q.run (db w)).2 ∧ (r = (q.run (db w)).1 ∨ ∃ e, r = .error e)) ∨
      (t = w ∧ ∃ e, r = .error e) := by
  obtain ⟨d, hfate, rfl⟩ := host.fate h
  cases hfate with
  | answered => exact Or.inl ⟨rfl, Or.inl rfl⟩
  | refused message => exact Or.inr ⟨host.same w, _, rfl⟩
  | unacknowledged message => exact Or.inl ⟨rfl, Or.inr ⟨_, rfl⟩⟩

/-- A query that only reads leaves the world as it is, and its answer is what is stored. -/
theorem read_cases (host : Hosts H db store) (hread : ∀ d, (q.run d).2 = d)
    (h : H w (.db q) r t) : t = w ∧ ∀ a, r = .ok a → (q.run (db w)).1 = .ok a := by
  rcases host.query_cases h with ⟨ht, hr⟩ | ⟨ht, e, rfl⟩
  · rw [hread, host.same] at ht
    refine ⟨ht, fun a ha => ?_⟩
    rcases hr with hr | ⟨e, hr⟩
    · exact hr.symm.trans ha
    · exact nomatch hr.symm.trans ha
  · exact ⟨ht, nofun⟩

/-- The rest of a program goes on with what a reading query found. -/
theorem bind_read (host : Hosts H db store) {β : Type} {f : q.Answer → Scan β}
    {Q : β → Prog.Assn R I} (hread : ∀ d, (q.run d).2 = d) (hE : ∀ e w, I w → (E e).holds w)
    (h : ∀ w a, P.holds w → (q.run (db w)).1 = .ok a →
      ∃ M : Prog.Assn R I, M.holds w ∧ Prog.Triple Prog.Any H M (f a) Q E) :
    Prog.Triple Prog.Any H P ((query q).bind f) Q E := by
  refine Prog.Triple.bind_perform (fun _ _ => trivial) fun w hw r t ht => ?_
  obtain ⟨rfl, hanswer⟩ := host.read_cases hread ht
  cases r with
  | ok a => exact h t a hw (hanswer a rfl)
  | error e => exact hE e t (P.good hw)

/-- A query that may change the database: what holds once it is carried out. -/
theorem perform (host : Hosts H db store) {Q : Prog.Assn R I} (hE : ∀ e w, I w → (E e).holds w)
    (h : ∀ w, P.holds w → Q.holds (store w (q.run (db w)).2)) :
    Prog.Triple Prog.Any H P (query q) (fun _ => Q) E := by
  refine Prog.Triple.perform (fun _ _ => trivial) fun w hw r t ht => ?_
  rcases host.query_cases ht with ⟨rfl, _⟩ | ⟨rfl, e, rfl⟩
  · cases r with
    | ok a => exact h w hw
    | error e => exact hE e _ (Q.good (h w hw))
  · exact hE e _ (P.good hw)

end Hosts

end CoinListener.Worker
