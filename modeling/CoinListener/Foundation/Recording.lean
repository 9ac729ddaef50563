import CoinListener.Foundation.Program

/-! Programs whose statements only add to a record. -/
namespace Foundation.Prog

variable {Op : Type} {Ans : Op → Type} {ε α β γ δ : Type}
  {step : List δ → (op : Op) → Except ε (Ans op) × List δ}

/-- Whatever was recorded before, the program succeeds exactly under `succeeds`, and then adds
`added` to the record. -/
structure Records (step : List δ → (op : Op) → Except ε (Ans op) × List δ)
    (p : Prog Op Ans ε α) (succeeds : Prop) (added : List δ) : Prop where
  ok : succeeds → ∀ record, ∃ a, p.eval step record = (.ok a, record ++ added)
  error : ¬ succeeds → ∀ record, ∃ e record', p.eval step record = (.error e, record')

namespace Records
variable {p : Prog Op Ans ε α} {f : α → Prog Op Ans ε β} {succeeds succeeds' : Prop}
  {added added' : List δ}

theorem done (a : α) : Records step (.done a : Prog Op Ans ε α) True [] where
  ok := fun _ record => ⟨a, by simp⟩
  error := fun h => absurd trivial h

/-- A run that came to its end. -/
theorem of_ok {record record' : List δ} {a : α} (h : Records step p succeeds added)
    (heval : p.eval step record = (.ok a, record')) : succeeds ∧ record' = record ++ added := by
  by_cases hs : succeeds
  · obtain ⟨b, hb⟩ := h.ok hs record
    exact ⟨hs, congrArg Prod.snd (heval.symm.trans hb)⟩
  · obtain ⟨e, t, he⟩ := h.error hs record
    exact nomatch congrArg Prod.fst (heval.symm.trans he)

theorem congr (h : Records step p succeeds added) (hiff : succeeds ↔ succeeds')
    (hadded : succeeds → added = added') : Records step p succeeds' added' where
  ok := fun hs => hadded (hiff.mpr hs) ▸ h.ok (hiff.mpr hs)
  error := fun hs => h.error fun h' => hs (hiff.mp h')

theorem bind (h : Records step p succeeds added)
    (hf : ∀ a, Records step (f a) succeeds' added') :
    Records step (p.bind f) (succeeds ∧ succeeds') (added ++ added') := by
  refine ⟨fun hs record => ?_, fun hs record => ?_⟩
  · obtain ⟨a, ha⟩ := h.ok hs.1 record
    obtain ⟨b, hb⟩ := (hf a).ok hs.2 (record ++ added)
    refine ⟨b, ?_⟩
    rw [eval_bind_ok step ha, hb, List.append_assoc]
  · by_cases hp : succeeds
    · obtain ⟨a, ha⟩ := h.ok hp record
      rw [eval_bind_ok step ha]
      exact (hf a).error (fun hf => hs ⟨hp, hf⟩) _
    · obtain ⟨e, record', he⟩ := h.error hp record
      exact ⟨e, record', eval_bind_error step he⟩

/-- Only what is returned changes. -/
theorem bind_done (h : Records step p succeeds added) (g : α → β) :
    Records step (p.bind fun a => .done (g a)) succeeds added :=
  (h.bind fun a => done (g a)).congr (and_iff_left trivial) fun _ => List.append_nil _

/-- A check whose result the rest does not depend on. -/
theorem lift (r : Except ε α) : Records step (Prog.lift r) (∃ a, r = .ok a) [] := by
  cases r with
  | ok a => exact (done a).congr (iff_of_true trivial ⟨a, rfl⟩) fun _ => rfl
  | error e =>
    refine ⟨fun h => ?_, fun _ record => ⟨e, record, rfl⟩⟩
    obtain ⟨_, h⟩ := h
    exact nomatch h

theorem bind_lift {r : Except ε α} {succeeds : α → Prop}
    (hf : ∀ a, r = .ok a → Records step (f a) (succeeds a) added) :
    Records step ((Prog.lift r).bind f) (∃ a, r = .ok a ∧ succeeds a) added := by
  cases r with
  | ok a =>
    refine (hf a rfl).congr ⟨fun h => ⟨a, rfl, h⟩, fun ⟨b, hb, h⟩ => ?_⟩ fun _ => rfl
    obtain rfl := Except.ok.inj hb
    exact h
  | error e =>
    refine ⟨fun h => ?_, fun _ record => ⟨e, record, rfl⟩⟩
    obtain ⟨_, h, _⟩ := h
    exact nomatch h

/-- A statement that is always answered the same and adds nothing. -/
theorem read {op : Op} {f : Ans op → Prog Op Ans ε β} {a : Ans op}
    (ha : ∀ record, step record op = (.ok a, record)) (hf : Records step (f a) succeeds added) :
    Records step ((Prog.perform op).bind f) succeeds added := by
  have hread : ∀ record, ((Prog.perform op).bind f).eval step record = (f a).eval step record := by
    intro record
    rw [eval_bind_ok step (t := record) (a := a)]
    simp [Prog.perform, ha]
  refine ⟨fun hs record => ?_, fun hs record => ?_⟩
  · rw [hread]
    exact hf.ok hs record
  · rw [hread]
    exact hf.error hs record

/-- A statement that succeeds and adds to the record. -/
theorem perform {op : Op} (h : ∀ record, ∃ a, step record op = (.ok a, record ++ added)) :
    Records step (Prog.perform op) True added where
  ok := fun _ record => by
    obtain ⟨a, ha⟩ := h record
    exact ⟨a, by simp [Prog.perform, ha]⟩
  error := fun h => absurd trivial h

/-- One program for each item: it succeeds if all do, and all records are joined. -/
theorem forEach {f : α → Prog Op Ans ε (List β)} {succeeds : α → Prop} {added : α → List δ} :
    ∀ {items : List α}, (∀ a ∈ items, Records step (f a) (succeeds a) (added a)) →
      Records step (Prog.forEach f items) (∀ a ∈ items, succeeds a) (items.flatMap added)
  | [], _ => (done []).congr (iff_of_true trivial fun _ h => absurd h List.not_mem_nil) fun _ => rfl
  | a :: items, h => by
    have hrest := forEach fun b hb => h b (List.mem_cons_of_mem _ hb)
    have hboth := (h a (List.mem_cons_self ..)).bind fun xs =>
      hrest.bind_done fun ys => xs ++ ys
    exact hboth.congr List.forall_mem_cons.symm fun _ => (List.flatMap_cons ..).symm

end Records
end Foundation.Prog
