import CoinListener.Storage.DeliveryRace

/-! The attempts on an external delivery: one row, numbers that only rise, and an end that stays. -/
namespace CoinListener.Storage
open Foundation

/-! ### What is promised -/

/-- The attempt a delivery was made ready for last. -/
def latest_ready (ready : List (Uuid × Int)) (id : Uuid) : Option Int :=
  ((ready.filter (·.1 == id)).getLast?).map (·.2)

/-- Each attempt made ready has a larger number than those before it on the delivery, and the row
carries the last of them. -/
structure ReadyCounts (rows : List NotificationDelivery) (ready : List (Uuid × Int)) : Prop where
  increasing : ready.Pairwise fun a b => a.1 = b.1 → a.2 < b.2
  current : ∀ row ∈ rows, latest_ready ready row.id = some row.attempt_count
  bounded : ∀ row ∈ rows, ∀ attempt ∈ ready, attempt.1 = row.id → attempt.2 ≤ row.attempt_count
  has_row : ∀ attempt ∈ ready, ∃ row ∈ rows, row.id = attempt.1

namespace DeliveryRace
variable {W : Type}

/-- One row for each key, and numbers that only rise. -/
structure Sound (s : DeliveryRace W) : Prop where
  one_row : s.notification_deliveries.Pairwise DistinctKeys
  has_row : ∀ answer ∈ s.answers, ∃ row ∈ s.notification_deliveries,
    row.unique_key = some answer.target.key
  counts : ReadyCounts s.notification_deliveries s.ready
  answered : (s.answers.filterMap (·.ready)).Sublist s.ready

/-- A row that was sent or skipped is as it was, and the answers since then say so. -/
structure Later (s t : DeliveryRace W) : Prop where
  final : ∀ row ∈ s.notification_deliveries, row.Final → row ∈ t.notification_deliveries
  answers : ∃ more, t.answers = s.answers ++ more ∧ ∀ answer ∈ more,
    ∀ row ∈ s.notification_deliveries, row.Final → row.unique_key = some answer.target.key →
      answer.start = .AlreadyComplete row.id

theorem Later.refl (s : DeliveryRace W) : Later s s :=
  ⟨fun _ h _ => h, [], by simp, by simp⟩

theorem Later.trans {s t u : DeliveryRace W} (hst : Later s t) (htu : Later t u) : Later s u := by
  obtain ⟨more, hmore, hcomplete⟩ := hst.answers
  obtain ⟨more', hmore', hcomplete'⟩ := htu.answers
  refine ⟨fun row hrow hfinal => htu.final row (hst.final row hrow hfinal) hfinal, more ++ more',
    ?_, ?_⟩
  · rw [hmore', hmore, List.append_assoc]
  · intro answer hanswer row hrow hfinal hkey
    rcases List.mem_append.mp hanswer with hfirst | hlast
    · exact hcomplete answer hfirst row hrow hfinal hkey
    · exact hcomplete' answer hlast row (hst.final row hrow hfinal) hfinal hkey

end DeliveryRace

/-! ### Counting the attempts made ready -/

section Counting
variable {rows rows' : List NotificationDelivery} {ready : List (Uuid × Int)} {id : Uuid}
  {attempt_count : Int}

theorem latest_ready_same : latest_ready (ready ++ [(id, attempt_count)]) id = some attempt_count := by
  simp [latest_ready]

theorem latest_ready_other {other : Uuid} (h : other ≠ id) :
    latest_ready (ready ++ [(id, attempt_count)]) other = latest_ready ready other := by
  simp [latest_ready, h.symm]

/-- Another attempt is ready, with a number of its own. -/
theorem ReadyCounts.append (h : ReadyCounts rows ready)
    (hlarger : ∀ attempt ∈ ready, attempt.1 = id → attempt.2 < attempt_count)
    (hrows : ∀ row ∈ rows', (row.id = id ∧ row.attempt_count = attempt_count) ∨
      (row.id ≠ id ∧ row ∈ rows))
    (hkept : ∀ row ∈ rows, ∃ row' ∈ rows', row'.id = row.id) (hrow : ∃ row ∈ rows', row.id = id) :
    ReadyCounts rows' (ready ++ [(id, attempt_count)]) := by
  constructor
  · refine List.pairwise_append.mpr ⟨h.increasing, List.pairwise_singleton .., ?_⟩
    intro attempt hattempt other hother hsame
    rw [List.mem_singleton.mp hother] at hsame ⊢
    exact hlarger attempt hattempt hsame
  · intro row hrow
    rcases hrows row hrow with ⟨hid, hcount⟩ | ⟨hid, hold⟩
    · rw [hid, hcount]
      exact latest_ready_same
    · rw [latest_ready_other hid]
      exact h.current row hold
  · intro row hrow attempt hattempt hsame
    rcases hrows row hrow with ⟨hid, hcount⟩ | ⟨hid, hold⟩
    · rw [hcount]
      rcases List.mem_append.mp hattempt with hfirst | hlast
      · exact Int.le_of_lt (hlarger attempt hfirst (hsame.trans hid))
      · rw [List.mem_singleton.mp hlast]
    · rcases List.mem_append.mp hattempt with hfirst | hlast
      · exact h.bounded row hold attempt hfirst hsame
      · rw [List.mem_singleton.mp hlast] at hsame
        exact absurd hsame.symm hid
  · intro attempt hattempt
    rcases List.mem_append.mp hattempt with hfirst | hlast
    · obtain ⟨row, hmem, hid⟩ := h.has_row attempt hfirst
      obtain ⟨row', hmem', hid'⟩ := hkept row hmem
      exact ⟨row', hmem', hid'.trans hid⟩
    · rw [List.mem_singleton.mp hlast]
      exact hrow

/-- A begin counts the attempt it makes ready. -/
theorem ReadyCounts.begin {target : ExternalTarget} {start : ExternalDeliveryStart}
    (h : ReadyCounts rows ready)
    (heffect : BeginEffect target attempt_count rows start rows') :
    ReadyCounts rows' (ready ++ (BeginAnswer.mk target attempt_count start).ready.toList) := by
  have hkept : ∀ row ∈ rows, ∃ row' ∈ rows', row'.id = row.id := by
    intro row hrow
    obtain ⟨row', hrow', hid, _⟩ := heffect.kept hrow
    exact ⟨row', hrow', hid⟩
  cases heffect with
  | @inserted id hid hnew =>
    refine h.append ?_ ?_ hkept ⟨_, List.mem_append_right _ (List.mem_singleton_self _), rfl⟩
    · intro attempt hattempt hsame
      obtain ⟨row, hrow, hrowid⟩ := h.has_row attempt hattempt
      exact absurd (hrowid.trans hsame) (hid row hrow)
    · intro row hrow
      rcases List.mem_append.mp hrow with hold | hrow
      · exact .inr ⟨hid row hold, hold⟩
      · rw [List.mem_singleton.mp hrow]
        exact .inl ⟨rfl, rfl⟩
  | @restarted delivery hmem hsel hopen holder =>
    refine h.append ?_ ?_ hkept (hkept delivery hmem)
    · intro attempt hattempt hsame
      exact Int.lt_of_le_of_lt (h.bounded delivery hmem attempt hattempt hsame) holder
    · intro row hrow
      obtain ⟨old, hold, rfl⟩ := Table.mem_update.mp hrow
      by_cases hid : old.id = delivery.id
      · left
        simp [Table.revise, hid, NotificationDelivery.restarted]
      · right
        simpa [Table.revise, hid] using hold
  | complete hmem hsel hdone => simpa [BeginAnswer.ready] using h

/-- A mark counts nothing. -/
theorem ReadyCounts.mark (h : ReadyCounts rows ready) {p : NotificationDelivery → Bool}
    {f : NotificationDelivery → NotificationDelivery} (hid : ∀ row, (f row).id = row.id)
    (hcount : ∀ row, (f row).attempt_count = row.attempt_count) :
    ReadyCounts (Table.update p f rows) ready := by
  constructor
  · exact h.increasing
  · intro row hrow
    obtain ⟨old, hold, rfl⟩ := Table.mem_update.mp hrow
    rw [Table.revise_column hid, Table.revise_column hcount]
    exact h.current old hold
  · intro row hrow attempt hattempt hsame
    obtain ⟨old, hold, rfl⟩ := Table.mem_update.mp hrow
    rw [Table.revise_column hid] at hsame
    rw [Table.revise_column hcount]
    exact h.bounded old hold attempt hattempt hsame
  · intro attempt hattempt
    obtain ⟨row, hrow, hrowid⟩ := h.has_row attempt hattempt
    exact ⟨_, List.mem_map_of_mem hrow, (Table.revise_column hid row).trans hrowid⟩

end Counting

/-! ### The invariant -/

/-- What a transaction holds bears out what it is about to answer. -/
inductive Fits (answer : BeginAnswer) : OpenDelivery → Prop where
  | inserted (id : Uuid) (hstart : answer.start = .ReadyToSend id) :
    Fits answer (.inserted (answer.target.new_delivery id answer.attempt_count))
  | locked {delivery : NotificationDelivery} (hsel : answer.target.selects delivery = true)
      (hdone : delivery.Final ∨ answer.attempt_count ≤ delivery.attempt_count)
      (hstart : answer.start = .AlreadyComplete delivery.id) :
    Fits answer (.locked delivery)
  | restarted {delivery : NotificationDelivery} (hsel : answer.target.selects delivery = true)
      (hopen : ¬ delivery.Final) (holder : delivery.attempt_count < answer.attempt_count)
      (hstart : answer.start = .ReadyToSend delivery.id) :
    Fits answer (.restarted delivery answer.attempt_count)

def delivery_permitted {W : Type} (w : W) (s : DeliveryRace W) : DeliveryStatement → Prop
  | .commit answer => Fits answer (s.opened w)
  | .mark_external_notification_delivery _ => s.opened w = .idle
  | _ => True

/-- What transactions hold is out of the others' reach. -/
structure DeliveryInvariant {W : Type} (s : DeliveryRace W) : Prop where
  sound : s.Sound
  id_lt : ∀ row ∈ s.notification_deliveries, row.id < s.next_id
  id_nodup : (s.notification_deliveries.map (·.id)).Nodup
  inserted : ∀ w delivery, s.opened w = .inserted delivery → delivery.id < s.next_id ∧
    ∀ row ∈ s.notification_deliveries, row.id ≠ delivery.id ∧ DistinctKeys row delivery
  apart : ∀ v w a b, s.opened v = .inserted a → s.opened w = .inserted b → v ≠ w →
    a.id ≠ b.id ∧ DistinctKeys a b
  held : ∀ w delivery, (s.opened w).held = some delivery → delivery ∈ s.notification_deliveries
  exclusive : ∀ v w a b, (s.opened v).held = some a → (s.opened w).held = some b → a.id = b.id →
    v = w

section Invariant
variable {W : Type} [DecidableEq W] {s t : DeliveryRace W} {w : W}

theorem opened_cases {v : W} {opened held : OpenDelivery}
    (h : (s.set_opened w opened).opened v = held) :
    (v = w ∧ opened = held) ∨ (v ≠ w ∧ s.opened v = held) := by
  by_cases hsame : v = w
  · subst hsame
    exact .inl ⟨rfl, by simpa [DeliveryRace.set_opened] using h⟩
  · exact .inr ⟨hsame, by simpa [DeliveryRace.set_opened, hsame] using h⟩

/-- A transaction may hold a new row that is nobody else's, or a row that nobody else has locked. -/
theorem DeliveryInvariant.set_opened (h : DeliveryInvariant s) {opened : OpenDelivery}
    (hinserted : ∀ delivery, opened = .inserted delivery → delivery.id < s.next_id ∧
      (∀ row ∈ s.notification_deliveries, row.id ≠ delivery.id ∧ DistinctKeys row delivery) ∧
      ∀ v, v ≠ w → ∀ other, s.opened v = .inserted other →
        other.id ≠ delivery.id ∧ DistinctKeys other delivery)
    (hheld : ∀ delivery, opened.held = some delivery →
      delivery ∈ s.notification_deliveries ∧ s.Unlocked w delivery.id) :
    DeliveryInvariant (s.set_opened w opened) := by
  have hheld_cases : ∀ v delivery, ((s.set_opened w opened).opened v).held = some delivery →
      (v = w ∧ opened.held = some delivery) ∨ (v ≠ w ∧ (s.opened v).held = some delivery) := by
    intro v delivery hv
    have hopened : (s.set_opened w opened).opened v = (s.set_opened w opened).opened v := rfl
    rcases opened_cases hopened with ⟨hsame, hown⟩ | ⟨hother, hold⟩
    · exact .inl ⟨hsame, hown ▸ hv⟩
    · exact .inr ⟨hother, hold ▸ hv⟩
  constructor
  · exact ⟨h.sound.one_row, h.sound.has_row, h.sound.counts, h.sound.answered⟩
  · exact h.id_lt
  · exact h.id_nodup
  · intro v delivery hv
    rcases opened_cases hv with ⟨_, hown⟩ | ⟨_, hold⟩
    · obtain ⟨hlt, hrows, _⟩ := hinserted delivery hown
      exact ⟨hlt, hrows⟩
    · exact h.inserted v delivery hold
  · intro u v a b ha hb huv
    rcases opened_cases ha with ⟨rfl, hown⟩ | ⟨hu, hold⟩
    · rcases opened_cases hb with ⟨rfl, _⟩ | ⟨hv, hold⟩
      · exact absurd rfl huv
      · obtain ⟨hid, hkey⟩ := (hinserted a hown).2.2 v hv b hold
        exact ⟨hid.symm, Std.Symm.symm _ _ hkey⟩
    · rcases opened_cases hb with ⟨rfl, hown⟩ | ⟨_, hold'⟩
      · exact (hinserted b hown).2.2 u hu a hold
      · exact h.apart u v a b hold hold' huv
  · intro v delivery hv
    rcases hheld_cases v delivery hv with ⟨_, hown⟩ | ⟨_, hold⟩
    · exact (hheld delivery hown).1
    · exact h.held v delivery hold
  · intro u v a b ha hb hid
    rcases hheld_cases u a ha with ⟨rfl, hown⟩ | ⟨hu, hold⟩
    · rcases hheld_cases v b hb with ⟨rfl, _⟩ | ⟨hv, hold⟩
      · rfl
      · exact absurd hid.symm ((hheld a hown).2 v hv b hold)
    · rcases hheld_cases v b hb with ⟨rfl, hown⟩ | ⟨_, hold'⟩
      · exact absurd hid ((hheld b hown).2 u hu a hold)
      · exact h.exclusive u v a b hold hold' hid

theorem DeliveryInvariant.idle (h : DeliveryInvariant s) :
    DeliveryInvariant (s.set_opened w .idle) := by
  refine h.set_opened ?_ ?_
  · intro delivery hidle
    cases hidle
  · intro delivery hidle
    cases hidle

omit [DecidableEq W] in
/-- A commit has the effect of a begin in one piece. -/
theorem commit_effect (h : DeliveryInvariant s) {answer : BeginAnswer}
    (hfits : Fits answer (s.opened w)) :
    BeginEffect answer.target answer.attempt_count s.notification_deliveries answer.start
      ((s.opened w).commit s.notification_deliveries) := by
  generalize hopened : s.opened w = opened at hfits
  cases hfits with
  | inserted id hstart =>
    obtain ⟨_, hrows⟩ := h.inserted w _ hopened
    rw [hstart]
    refine .inserted (fun row hrow => (hrows row hrow).1) fun row hrow hkey => ?_
    exact (hrows row hrow).2 _ hkey rfl
  | locked hsel hdone hstart =>
    rw [hstart]
    exact .complete (h.held w _ (by rw [hopened]; rfl)) hsel hdone
  | restarted hsel hopen holder hstart =>
    rw [hstart]
    exact .restarted (h.held w _ (by rw [hopened]; rfl)) hsel hopen holder

omit [DecidableEq W] in
/-- Other rows, where what the transactions hold stays in place. -/
theorem DeliveryInvariant.set_rows (h : DeliveryInvariant s) {rows : List NotificationDelivery}
    {ready : List (Uuid × Int)}
    (hkept : ∀ row ∈ s.notification_deliveries, ∃ row' ∈ rows,
      row'.id = row.id ∧ row'.unique_key = row.unique_key)
    (hids : (rows.map (·.id)).Nodup) (hkeys : rows.Pairwise DistinctKeys)
    (hlt : ∀ row ∈ rows, row.id < s.next_id)
    (hinserted : ∀ w delivery, s.opened w = .inserted delivery →
      ∀ row ∈ rows, row.id ≠ delivery.id ∧ DistinctKeys row delivery)
    (hheld : ∀ w delivery, (s.opened w).held = some delivery → delivery ∈ rows)
    (hcounts : ReadyCounts rows ready) (hready : s.ready.Sublist ready) :
    DeliveryInvariant { s with notification_deliveries := rows, ready := ready } where
  sound := by
    refine ⟨hkeys, fun answer hanswer => ?_, hcounts, h.sound.answered.trans hready⟩
    obtain ⟨row, hrow, hkey⟩ := h.sound.has_row answer hanswer
    obtain ⟨row', hrow', _, hkey'⟩ := hkept row hrow
    exact ⟨row', hrow', hkey'.trans hkey⟩
  id_lt := hlt
  id_nodup := hids
  inserted w delivery hw := ⟨(h.inserted w delivery hw).1, hinserted w delivery hw⟩
  apart := h.apart
  held := hheld
  exclusive := h.exclusive

/-- A row after a commit is the successor of an old one, or the new one. -/
theorem mem_opened_commit {opened : OpenDelivery} {rows : List NotificationDelivery}
    {row : NotificationDelivery} (hrow : row ∈ opened.commit rows) :
    (∃ old ∈ rows, row.id = old.id ∧ row.unique_key = old.unique_key) ∨
      opened = .inserted row := by
  cases opened with
  | idle => exact .inl ⟨row, hrow, rfl, rfl⟩
  | inserted delivery =>
    rcases List.mem_append.mp hrow with hold | hnew
    · exact .inl ⟨row, hold, rfl, rfl⟩
    · rw [List.mem_singleton.mp hnew]
      exact .inr rfl
  | locked => exact .inl ⟨row, hrow, rfl, rfl⟩
  | restarted delivery attempt_count =>
    obtain ⟨old, hold, rfl⟩ := Table.mem_update.mp hrow
    refine .inl ⟨old, hold, ?_, ?_⟩
    · exact Table.revise_column (NotificationDelivery.restarted_id attempt_count) old
    · exact Table.revise_column (NotificationDelivery.restarted_unique_key attempt_count) old

omit [DecidableEq W] in
/-- A row that somebody else has locked stays as it is. -/
theorem mem_commit_of_held (h : DeliveryInvariant s) {v : W} (hv : v ≠ w)
    {delivery : NotificationDelivery} (hheld : (s.opened v).held = some delivery) :
    delivery ∈ (s.opened w).commit s.notification_deliveries := by
  have hmem := h.held v delivery hheld
  cases hopened : s.opened w with
  | idle => exact hmem
  | inserted => exact List.mem_append_left _ hmem
  | locked => exact hmem
  | restarted own attempt_count =>
    refine Table.mem_update_of_false (beq_eq_false_iff_ne.mpr fun hid => ?_) hmem
    exact hv (h.exclusive v w delivery own hheld (by rw [hopened]; rfl) hid)

theorem DeliveryInvariant.commit (h : DeliveryInvariant s) {answer : BeginAnswer}
    (hfits : Fits answer (s.opened w)) : DeliveryInvariant (s.commit w answer) := by
  have heffect := commit_effect h hfits
  have hcounts := h.sound.counts.begin heffect
  refine (h.idle (w := w)).set_rows (fun _ hrow => heffect.kept hrow) (heffect.ids_nodup h.id_nodup)
    (heffect.distinct_keys h.sound.one_row) ?_ ?_ ?_ hcounts (List.sublist_append_left ..)
  · intro row hrow
    rcases mem_opened_commit hrow with ⟨old, hold, hid, _⟩ | hnew
    · rw [hid]
      exact h.id_lt old hold
    · exact (h.inserted w row hnew).1
  · intro v delivery hv row hrow
    rcases opened_cases hv with ⟨_, hidle⟩ | ⟨hother, hold⟩
    · cases hidle
    rcases mem_opened_commit hrow with ⟨old, hmem, hid, hkey⟩ | hnew
    · obtain ⟨hne, hapart⟩ := (h.inserted v delivery hold).2 old hmem
      refine ⟨hid ▸ hne, fun key hrowkey => ?_⟩
      exact hapart key (hkey ▸ hrowkey)
    · exact h.apart w v row delivery hnew hold hother.symm
  · intro v delivery hv
    have hopened : (s.set_opened w .idle).opened v = (s.set_opened w .idle).opened v := rfl
    rcases opened_cases hopened with ⟨_, hidle⟩ | ⟨hother, hold⟩
    · rw [← hidle] at hv
      cases hv
    · exact mem_commit_of_held h hother (hold ▸ hv)

/-! ### The marks -/

theorem MarkChange.apply_id (change : MarkChange) (delivery : NotificationDelivery) :
    (change.apply delivery).id = delivery.id := by
  cases change <;> rfl

theorem MarkChange.apply_unique_key (change : MarkChange) (delivery : NotificationDelivery) :
    (change.apply delivery).unique_key = delivery.unique_key := by
  cases change <;> rfl

theorem MarkChange.apply_attempt_count (change : MarkChange) (delivery : NotificationDelivery) :
    (change.apply delivery).attempt_count = delivery.attempt_count := by
  cases change <;> rfl

omit [DecidableEq W] in
theorem DeliveryInvariant.mark (h : DeliveryInvariant s) {mark : ExternalMark}
    (hfree : ∀ v delivery, (s.opened v).held = some delivery → mark.marks delivery = false) :
    DeliveryInvariant (s.mark_external_notification_delivery mark).2 := by
  refine h.set_rows ?_ ?_ ?_ ?_ ?_ ?_ ?_ (List.Sublist.refl _)
  · intro row hrow
    refine ⟨_, List.mem_map_of_mem hrow, ?_, ?_⟩
    · exact Table.revise_column mark.change.apply_id row
    · exact Table.revise_column mark.change.apply_unique_key row
  · rw [Table.update_column mark.change.apply_id]
    exact h.id_nodup
  · exact distinct_keys_update mark.change.apply_unique_key h.sound.one_row
  · intro row hrow
    obtain ⟨old, hold, rfl⟩ := Table.mem_update.mp hrow
    rw [Table.revise_column mark.change.apply_id]
    exact h.id_lt old hold
  · intro w delivery hw row hrow
    obtain ⟨old, hold, rfl⟩ := Table.mem_update.mp hrow
    obtain ⟨hid, hkey⟩ := (h.inserted w delivery hw).2 old hold
    rw [Table.revise_column mark.change.apply_id]
    refine ⟨hid, fun key hrowkey => ?_⟩
    rw [Table.revise_column mark.change.apply_unique_key] at hrowkey
    exact hkey key hrowkey
  · intro w delivery hw
    exact Table.mem_update_of_false (hfree w delivery hw) (h.held w delivery hw)
  · exact h.sound.counts.mark mark.change.apply_id mark.change.apply_attempt_count

/-! ### Steps -/

theorem DeliveryInvariant.insert (h : DeliveryInvariant s) {target : ExternalTarget}
    (attempt_count : Int)
    (hfree : s.settings.has_target s.events target = true → s.KeyFree w target.key) :
    DeliveryInvariant (s.insert_external_notification_delivery w target attempt_count).2 := by
  unfold DeliveryRace.insert_external_notification_delivery
  split
  · rename_i hinsert
    rw [Bool.and_eq_true, Bool.not_eq_true'] at hinsert
    have hnext : DeliveryInvariant { s with next_id := s.next_id + 1 } := by
      refine ⟨⟨h.sound.one_row, h.sound.has_row, h.sound.counts, h.sound.answered⟩,
        fun row hrow => Nat.lt_succ_of_lt (h.id_lt row hrow), h.id_nodup, ?_, h.apart, h.held,
        h.exclusive⟩
      intro v delivery hv
      obtain ⟨hlt, hrows⟩ := h.inserted v delivery hv
      exact ⟨Nat.lt_succ_of_lt hlt, hrows⟩
    refine hnext.set_opened (w := w) ?_ ?_
    · intro delivery hdelivery
      cases hdelivery
      refine ⟨Nat.lt_succ_self _, fun row hrow => ⟨Nat.ne_of_lt (h.id_lt row hrow), ?_⟩, ?_⟩
      · intro key hkey hnew
        have hconflict := List.any_eq_false.mp hinsert.2 row hrow
        exact hconflict (beq_iff_eq.mpr (hkey.trans hnew.symm))
      · intro v hv other hother
        refine ⟨Nat.ne_of_lt (h.inserted v other hother).1, fun key hkey hnew => ?_⟩
        exact hfree hinsert.1 v hv other hother (hkey.trans hnew.symm)
    · intro delivery hheld
      cases hheld
  · exact h

theorem DeliveryInvariant.select (h : DeliveryInvariant s) {target : ExternalTarget}
    (hfree : ∀ delivery ∈ s.notification_deliveries, target.selects delivery = true →
      s.Unlocked w delivery.id) :
    DeliveryInvariant (s.select_external_notification_delivery w target).2 := by
  unfold DeliveryRace.select_external_notification_delivery
  split
  · rename_i delivery hfind
    have hmem := List.mem_of_find?_eq_some hfind
    refine h.set_opened ?_ ?_
    · intro other hother
      cases hother
    · intro other hother
      cases hother
      exact ⟨hmem, hfree delivery hmem (List.find?_some hfind)⟩
  · exact h

theorem DeliveryInvariant.update (h : DeliveryInvariant s) {delivery_id tenant_id : Uuid}
    {attempt_count : Int} (hfree : s.Unlocked w delivery_id) :
    DeliveryInvariant (s.update_external_notification_delivery_processing w delivery_id tenant_id
      attempt_count).2 := by
  unfold DeliveryRace.update_external_notification_delivery_processing
  split
  · rename_i delivery hfind
    have hfound := List.find?_some hfind
    rw [Bool.and_eq_true, Bool.and_eq_true, beq_iff_eq] at hfound
    refine h.set_opened ?_ ?_
    · intro other hother
      cases hother
    · intro other hother
      cases hother
      exact ⟨List.mem_of_find?_eq_some hfind, hfound.1.1 ▸ hfree⟩
  · exact h

/-- Everything but a commit, carried out. -/
theorem DeliveryInvariant.run (h : DeliveryInvariant s) {op : DeliveryStatement}
    (hA : delivery_permitted w s op) (hfree : op.Free s w) : DeliveryInvariant (op.run s w).2 := by
  cases op with
  | begin => exact h.idle
  | insert_external_notification_delivery target attempt_count => exact h.insert attempt_count hfree
  | select_external_notification_delivery target => exact h.select hfree
  | update_external_notification_delivery_processing => exact h.update hfree
  | mark_external_notification_delivery mark =>
    refine h.mark fun v delivery hheld => ?_
    by_cases hmarks : mark.marks delivery = true
    · by_cases hv : v = w
      · have hidle : s.opened w = .idle := hA
        rw [hv, hidle] at hheld
        cases hheld
      · exact absurd rfl (hfree delivery (h.held v delivery hheld) hmarks v hv delivery hheld)
    · exact Bool.not_eq_true _ ▸ hmarks
  | commit answer => exact h.commit hA
  | rollback => exact h.idle

theorem DeliveryInvariant.heard (h : DeliveryInvariant s) {op : DeliveryStatement}
    (hA : delivery_permitted w s op) (hrun : DeliveryInvariant (op.run s w).2) :
    DeliveryInvariant (op.heard (op.run s w).2) := by
  cases op with
  | commit answer =>
    have heffect := commit_effect h hA
    refine ⟨⟨hrun.sound.one_row, ?_, hrun.sound.counts, ?_⟩, hrun.id_lt, hrun.id_nodup,
      hrun.inserted, hrun.apart, hrun.held, hrun.exclusive⟩
    · intro other hother
      rcases List.mem_append.mp hother with hold | hnew
      · exact hrun.sound.has_row other hold
      · rw [List.mem_singleton.mp hnew]
        exact heffect.has_row
    · have hnew : ([answer].filterMap (·.ready)) = answer.ready.toList := by
        cases hready : answer.ready <;> simp [hready]
      simp only [DeliveryStatement.run, DeliveryStatement.heard, DeliveryRace.commit,
        DeliveryRace.set_opened, List.filterMap_append, hnew]
      exact h.sound.answered.append (List.Sublist.refl _)
  | _ => exact hrun

theorem DeliveryInvariant.statement (h : DeliveryInvariant s) {op : DeliveryStatement}
    {r : AppResult op.Answer} (hA : delivery_permitted w s op) (hs : DeliveryCarried w s op r t) :
    DeliveryInvariant t := by
  cases hs with
  | answered hfree => exact h.heard hA (h.run hA hfree)
  | refused => exact h
  | lost message hop hfree => exact h.run hA hfree
  | commit_refused => exact h.idle

/-- Nobody else's transaction is touched. -/
theorem opened_of_ne {v : W} (hv : v ≠ w) {op : DeliveryStatement} {r : AppResult op.Answer}
    (hs : DeliveryCarried w s op r t) : t.opened v = s.opened v := by
  have hset : ∀ opened, (s.set_opened w opened).opened v = s.opened v := by
    intro opened
    simp [DeliveryRace.set_opened, hv]
  have hrun : (op.run s w).2.opened v = s.opened v := by
    cases op with
    | begin => exact hset _
    | insert_external_notification_delivery =>
      simp only [DeliveryStatement.run, DeliveryRace.insert_external_notification_delivery]
      split
      · exact hset _
      · rfl
    | select_external_notification_delivery =>
      simp only [DeliveryStatement.run, DeliveryRace.select_external_notification_delivery]
      split
      · exact hset _
      · rfl
    | update_external_notification_delivery_processing =>
      simp only [DeliveryStatement.run,
        DeliveryRace.update_external_notification_delivery_processing]
      split
      · exact hset _
      · rfl
    | mark_external_notification_delivery => rfl
    | commit => exact hset _
    | rollback => exact hset _
  cases hs with
  | answered =>
    cases op <;> exact hrun
  | refused => rfl
  | lost => exact hrun
  | commit_refused => exact hset _

/-! ### What stays for good -/

omit [DecidableEq W] in
theorem DeliveryRace.Later.of_same (hrows : t.notification_deliveries = s.notification_deliveries)
    (hanswers : t.answers = s.answers) : s.Later t := by
  refine ⟨fun row hrow _ => ?_, [], ?_, ?_⟩
  · rw [hrows]
    exact hrow
  · rw [hanswers, List.append_nil]
  · intro answer hanswer
    cases hanswer

omit [DecidableEq W] in
/-- A mark passes by the rows that are sent or skipped. -/
theorem ExternalMark.not_final {mark : ExternalMark} {delivery : NotificationDelivery}
    (hfinal : delivery.Final) : mark.marks delivery = false := by
  refine Bool.eq_false_iff.mpr fun hmarks => ?_
  have hstatus := (NotificationDelivery.under_way_iff.mp hmarks).2.2.1
  rcases hfinal with hsent | hskipped
  · exact nomatch hsent.symm.trans hstatus
  · exact nomatch hskipped.symm.trans hstatus

theorem later_run (h : DeliveryInvariant s) {op : DeliveryStatement}
    (hA : delivery_permitted w s op) : s.Later (op.run s w).2 := by
  cases op with
  | begin => exact .of_same rfl rfl
  | insert_external_notification_delivery =>
    simp only [DeliveryStatement.run, DeliveryRace.insert_external_notification_delivery]
    split
    · exact .of_same rfl rfl
    · exact .refl s
  | select_external_notification_delivery =>
    simp only [DeliveryStatement.run, DeliveryRace.select_external_notification_delivery]
    split
    · exact .of_same rfl rfl
    · exact .refl s
  | update_external_notification_delivery_processing =>
    simp only [DeliveryStatement.run, DeliveryRace.update_external_notification_delivery_processing]
    split
    · exact .of_same rfl rfl
    · exact .refl s
  | mark_external_notification_delivery mark =>
    refine ⟨fun row hrow hfinal => ?_, [], by simp [DeliveryStatement.run,
      DeliveryRace.mark_external_notification_delivery], by simp⟩
    exact Table.mem_update_of_false (ExternalMark.not_final hfinal) hrow
  | commit answer =>
    have heffect := commit_effect h hA
    refine ⟨fun row hrow hfinal => heffect.final_mem h.id_nodup hrow hfinal, [], ?_, by simp⟩
    simp [DeliveryStatement.run, DeliveryRace.commit, DeliveryRace.set_opened]
  | rollback => exact .of_same rfl rfl

theorem later_heard (h : DeliveryInvariant s) {op : DeliveryStatement}
    (hA : delivery_permitted w s op) : s.Later (op.heard (op.run s w).2) := by
  have hlater := later_run h hA
  cases op with
  | commit answer =>
    have heffect := commit_effect h hA
    refine ⟨hlater.final, [answer], ?_, fun other hother row hrow hfinal hkey => ?_⟩
    · simp [DeliveryStatement.run, DeliveryStatement.heard, DeliveryRace.commit,
        DeliveryRace.set_opened]
    · rw [List.mem_singleton.mp hother] at hkey ⊢
      exact heffect.complete_of_final h.sound.one_row hrow hfinal hkey
  | _ => exact hlater

theorem later_statement (h : DeliveryInvariant s) {op : DeliveryStatement} {r : AppResult op.Answer}
    (hA : delivery_permitted w s op) (hs : DeliveryCarried w s op r t) : s.Later t := by
  cases hs with
  | answered => exact later_heard h hA
  | refused => exact .refl s
  | lost => exact later_run h hA
  | commit_refused => exact .of_same rfl rfl

/-- A mark that changes anything carries the number of the attempt that was made ready last. -/
theorem mark_changes (h : DeliveryInvariant s) {mark : ExternalMark}
    {r : AppResult (Option NotificationDelivery)}
    (hs : DeliveryCarried w s (.mark_external_notification_delivery mark) r t) :
    t.notification_deliveries = s.notification_deliveries ∨
      (latest_ready s.ready mark.delivery_id = some mark.attempt_count ∧
        ∀ row ∈ s.notification_deliveries, row.id ≠ mark.delivery_id →
          row ∈ t.notification_deliveries) := by
  have hmarked : Table.update mark.marks mark.change.apply s.notification_deliveries =
      s.notification_deliveries ∨
      (latest_ready s.ready mark.delivery_id = some mark.attempt_count ∧
        ∀ row ∈ s.notification_deliveries, row.id ≠ mark.delivery_id →
          row ∈ Table.update mark.marks mark.change.apply s.notification_deliveries) := by
    by_cases hany : ∃ row ∈ s.notification_deliveries, mark.marks row = true
    · obtain ⟨row, hrow, hmarks⟩ := hany
      obtain ⟨hid, _, _, hcount⟩ := NotificationDelivery.under_way_iff.mp hmarks
      right
      refine ⟨?_, fun other hother hne => Table.mem_update_of_false ?_ hother⟩
      · rw [← hid, ← hcount]
        exact h.sound.counts.current row hrow
      · refine Bool.eq_false_iff.mpr fun hothermarks => ?_
        exact hne (NotificationDelivery.under_way_iff.mp hothermarks).1
    · left
      refine Table.update_of_none fun row hrow => Bool.eq_false_iff.mpr fun hmarks => ?_
      exact hany ⟨row, hrow, hmarks⟩
  cases hs with
  | answered => exact hmarked
  | refused => exact .inl rfl
  | lost => exact hmarked

end Invariant

/-! ### The calls -/

section Calls
open Prog
variable {W : Type} [DecidableEq W] {w : W}

/-- What a call knows of its own transaction. -/
def delivery_known (w : W) (P : OpenDelivery → Prop) (s : DeliveryRace W) : Prop :=
  P (s.opened w)

/-- A part of a call; after an error nothing is known. -/
abbrev DeliveryPhase (w : W) {α : Type} (P : OpenDelivery → Prop) (p : DeliveryProg α)
    (Q : α → OpenDelivery → Prop) : Prop :=
  Triple (delivery_permitted w) (Within DeliveryInvariant (DeliveryCarried w))
    (Assn.of (delivery_known w) P) p (fun a => Assn.of (delivery_known w) (Q a))
    fun _ => Assn.of (delivery_known w) fun _ => True

/-- A statement of a begin before its commit. -/
def InBegin : DeliveryStatement → Prop
  | .mark_external_notification_delivery _ => False
  | .commit _ => False
  | _ => True

theorem delivery_statement_phase {P : OpenDelivery → Prop} {op : DeliveryStatement}
    (hop : InBegin op) {Q : op.Answer → OpenDelivery → Prop}
    (hrun : ∀ s : DeliveryRace W, DeliveryInvariant s → P (s.opened w) →
      Q (op.run s w).1 ((op.run s w).2.opened w)) :
    DeliveryPhase w P (delivery_statement op) Q := by
  refine .perform (fun s _ => ?_) fun s hs r t ht => ?_
  · cases op with
    | mark_external_notification_delivery => exact hop.elim
    | commit => exact hop.elim
    | _ => trivial
  · obtain ⟨hinv, hcarried, _⟩ := ht
    cases hcarried with
    | answered =>
      have hheard : (op.heard (op.run s w).2).opened w = (op.run s w).2.opened w := by
        cases op <;> rfl
      have hknown := hrun s hinv hs
      rw [← hheard] at hknown
      exact hknown
    | refused => trivial
    | lost => trivial
    | commit_refused => trivial

/-- The transaction has the row of the target locked, as it has read it. -/
def Selected (target : ExternalTarget) (existing : Uuid × DeliveryStatus × Int)
    (opened : OpenDelivery) : Prop :=
  ∃ delivery, opened = .locked delivery ∧ target.selects delivery = true ∧
    existing = (delivery.id, delivery.status, delivery.attempt_count)

section Phases
variable (target : ExternalTarget) (attempt_count : Int)

theorem insert_external_phase : DeliveryPhase w (fun _ => True)
    (delivery_statement (.insert_external_notification_delivery target attempt_count))
    fun inserted opened => ∀ delivery, inserted = some delivery →
      Fits ⟨target, attempt_count, .ReadyToSend delivery.id⟩ opened := by
  refine delivery_statement_phase (by trivial) fun s _ _ delivery hdelivery => ?_
  simp only [DeliveryStatement.run, DeliveryRace.insert_external_notification_delivery]
    at hdelivery ⊢
  split at hdelivery
  · rename_i hinsert
    cases hdelivery
    rw [if_pos hinsert]
    simp only [DeliveryRace.set_opened, Function.update_self]
    exact .inserted s.next_id rfl
  · cases hdelivery

theorem select_external_phase : DeliveryPhase w (fun _ => True)
    (delivery_statement (.select_external_notification_delivery target))
    fun selected opened => ∀ existing, selected = some existing →
      Selected target existing opened := by
  refine delivery_statement_phase (by trivial) fun s _ _ existing hexisting => ?_
  simp only [DeliveryStatement.run, DeliveryRace.select_external_notification_delivery]
    at hexisting ⊢
  cases hfind : s.notification_deliveries.find? target.selects with
  | none =>
    rw [hfind] at hexisting
    cases hexisting
  | some delivery =>
    rw [hfind] at hexisting
    cases hexisting
    exact ⟨delivery, by simp [DeliveryRace.set_opened], List.find?_some hfind, rfl⟩

theorem update_external_phase {existing : Uuid × DeliveryStatus × Int} {delivery_id : Uuid}
    (hstart : external_delivery_start_from_status_and_attempt existing.1 existing.2.1 existing.2.2
      attempt_count = .ReadyToSend delivery_id) :
    DeliveryPhase w (Selected target existing)
      (delivery_statement (.update_external_notification_delivery_processing delivery_id
        target.tenant_id attempt_count))
      fun updated opened => updated.isSome = true →
        Fits ⟨target, attempt_count, .ReadyToSend delivery_id⟩ opened := by
  refine delivery_statement_phase (by trivial) fun s hinv hselected hupdated => ?_
  obtain ⟨delivery, hopened, hsel, rfl⟩ := hselected
  have hheld : (s.opened w).held = some delivery := by rw [hopened]; rfl
  by_cases hdone : delivery.Final ∨ attempt_count ≤ delivery.attempt_count
  · exact nomatch (start_complete hdone).symm.trans hstart
  · have hid : delivery.id = delivery_id :=
      ExternalDeliveryStart.ReadyToSend.inj ((start_ready hdone).symm.trans hstart)
    rw [not_or, Int.not_le] at hdone
    simp only [DeliveryStatement.run, DeliveryRace.update_external_notification_delivery_processing]
      at hupdated ⊢
    split at hupdated
    · rename_i row hfind
      have hfound := List.find?_some hfind
      rw [Bool.and_eq_true, Bool.and_eq_true, beq_iff_eq] at hfound
      obtain rfl : row = delivery := List.inj_on_of_nodup_map hinv.id_nodup
        (List.mem_of_find?_eq_some hfind) (hinv.held w delivery hheld) (hfound.1.1.trans hid.symm)
      simp only [DeliveryRace.set_opened, Function.update_self]
      exact .restarted hsel hdone.1 hdone.2 (congrArg _ hid.symm)
    · cases hupdated

theorem begin_in_transaction_phase : DeliveryPhase w (fun _ => True)
    (begin_in_transaction target attempt_count) fun start => Fits ⟨target, attempt_count, start⟩ := by
  refine .bind Keeps.refl (insert_external_phase target attempt_count) fun inserted => ?_
  cases inserted with
  | some delivery => exact .done fun s hs => hs delivery rfl
  | none =>
    refine .bind Keeps.refl ((select_external_phase target).consequence (fun _ _ => trivial)
      (fun _ _ h => h) fun _ _ h => h) fun selected => ?_
    refine .bind_lift (fun existing hexisting => ?_) fun _ _ _ _ => trivial
    rw [required_ok] at hexisting
    subst hexisting
    cases hstart : external_delivery_start_from_status_and_attempt existing.1 existing.2.1
      existing.2.2 attempt_count with
    | AlreadyComplete delivery_id =>
      refine .done fun s hs => ?_
      obtain ⟨delivery, hopened, hsel, rfl⟩ := hs existing rfl
      by_cases hdone : delivery.Final ∨ attempt_count ≤ delivery.attempt_count
      · rw [start_complete hdone] at hstart
        simp only [Assn.of_holds, delivery_known, hopened]
        exact .locked hsel hdone (congrArg _ (ExternalDeliveryStart.AlreadyComplete.inj hstart).symm)
      · cases (start_ready hdone).symm.trans hstart
    | ReadyToSend delivery_id =>
      refine .bind Keeps.refl ((update_external_phase target attempt_count hstart).consequence
        (fun s hs => hs existing rfl) (fun _ _ h => h) fun _ _ h => h) fun updated => ?_
      refine .bind_lift (fun row hrow => ?_) fun _ _ _ _ => trivial
      rw [required_ok] at hrow
      subst hrow
      exact .done fun s hs => hs rfl

theorem begin_external_phase : DeliveryPhase w (fun _ => True)
    (begin_external_notification_delivery target attempt_count) fun _ _ => True := by
  refine .bind Keeps.refl (Q := fun _ => Assn.of (delivery_known w) fun _ => True) ?_ fun _ => ?_
  · exact delivery_statement_phase (by trivial) fun _ _ _ => trivial
  refine .bind Keeps.refl (Q := fun r => Assn.of (delivery_known w) fun opened =>
    ∀ start, r = .ok start → Fits ⟨target, attempt_count, start⟩ opened) ?_ fun result => ?_
  · refine .attempt (begin_in_transaction_phase target attempt_count) (fun start s hs => ?_) ?_
    · intro other hother
      cases hother
      exact hs
    · intro e s _ start hstart
      cases hstart
  cases result with
  | error error =>
    refine .bind Keeps.refl (Q := fun _ => Assn.of (delivery_known w) fun _ => True) ?_ fun _ =>
      .fail fun _ _ => trivial
    exact delivery_statement_phase (by trivial) fun _ _ _ => trivial
  | ok start =>
    refine .perform (fun s hs => hs start rfl) fun s _ r t _ => ?_
    cases r <;> trivial

theorem mark_external_phase (mark : ExternalMark) : DeliveryPhase w (· = .idle)
    (mark_external_notification_delivery mark) fun _ _ => True := by
  refine .bind Keeps.refl (Q := fun _ => Assn.of (delivery_known w) fun _ => True) ?_ fun marked => ?_
  · refine .perform (fun s hs => hs) fun s _ r t _ => ?_
    cases r <;> trivial
  · exact .bind_lift (fun _ _ => .done fun _ _ => trivial) fun _ _ _ _ => trivial

end Phases

end Calls

/-! ### The system -/

section System
variable {W : Type} [DecidableEq W]

theorem delivery_rules : Prog.Crew.Rules DeliveryCarried DeliveryOthers DeliveryLaunch
    (DeliveryInvariant (W := W)) delivery_permitted (fun w => Prog.Keeps (delivery_known w))
    fun _ _ _ => True where
  refl _ := Prog.Keeps.refl
  trans _ := Prog.Keeps.trans
  launch_inv h hlaunch := by
    cases hlaunch with
    | begin => exact h.idle
    | mark => exact h.idle
  launch_safe := by
    intro w s p t h hlaunch
    cases hlaunch with
    | begin target attempt_count =>
      exact ((begin_external_phase target attempt_count).safe _ trivial).mono fun _ _ _ _ => trivial
    | mark mark =>
      have hidle : delivery_known w (· = .idle) (s.set_opened w .idle) := by
        simp [delivery_known, DeliveryRace.set_opened]
      exact ((mark_external_phase mark).safe _ hidle).mono fun _ _ _ _ => trivial
  launch_others := by
    intro w v s p t _ hlaunch hv P hP
    have hsame : t.opened v = s.opened v := by
      cases hlaunch <;> simp [DeliveryRace.set_opened, hv]
    unfold delivery_known at hP ⊢
    rw [hsame]
    exact hP
  statement_inv h hA hs := h.statement hA hs
  statement_others := by
    intro w v s op r t _ _ hs hv P hP
    have hsame := opened_of_ne hv hs
    unfold delivery_known at hP ⊢
    rw [hsame]
    exact hP
  others_inv := by
    intro s t h ho
    cases ho
    exact ⟨⟨h.sound.one_row, h.sound.has_row, h.sound.counts, h.sound.answered⟩, h.id_lt, h.id_nodup,
      h.inserted, h.apart, h.held, h.exclusive⟩
  others := by
    intro w s t _ ho
    cases ho
    exact fun _ hP => hP

omit [DecidableEq W] in
theorem DeliveryInvariant.start : DeliveryInvariant (delivery_start (W := W)).1 := by
  refine ⟨⟨.nil, by simp [delivery_start], ?_, by simp [delivery_start]⟩, by simp [delivery_start],
    .nil, ?_, ?_, ?_, ?_⟩
  · exact ⟨.nil, by simp [delivery_start], by simp [delivery_start], by simp [delivery_start]⟩
  · intro w delivery hw
    cases hw
  · intro v w a b ha
    cases ha
  · intro w delivery hw
    cases hw
  · intro v w a b ha
    cases ha

variable {s t : DeliveryRace W} {ps qs : W → DeliveryProg Unit}

theorem delivery_good (hrun : Relation.ReflTransGen DeliveryStep delivery_start (s, ps)) :
    Prog.Crew.Good DeliveryCarried DeliveryInvariant delivery_permitted
      (fun w => Prog.Keeps (delivery_known w)) (fun _ _ _ => True) s ps := by
  have hstart : Prog.Crew.Good DeliveryCarried DeliveryInvariant delivery_permitted
      (fun w : W => Prog.Keeps (delivery_known w)) (fun _ _ _ => True) delivery_start.1
      delivery_start.2 := ⟨.start, fun _ _ _ => ⟨trivial, trivial⟩⟩
  exact hstart.run delivery_rules hrun

/-- The transaction of a begin does what the begin in one piece does. -/
theorem begin_commits_whole (hrun : Relation.ReflTransGen DeliveryStep delivery_start (s, ps))
    {w : W} {answer : BeginAnswer} {rest : AppResult Unit → DeliveryProg Unit}
    (hw : ps w = .ask (.commit answer) rest) :
    BeginEffect answer.target answer.attempt_count s.notification_deliveries answer.start
      (s.commit w answer).notification_deliveries := by
  have hgood := delivery_good hrun
  exact commit_effect hgood.inv (hgood.allowed delivery_rules hw)

theorem later_step (hgood : Prog.Crew.Good DeliveryCarried DeliveryInvariant delivery_permitted
      (fun w => Prog.Keeps (delivery_known w)) (fun _ _ _ => True) s ps)
    (hstep : DeliveryStep (s, ps) (t, qs)) : s.Later t := by
  cases hstep with
  | launch w hlaunch => cases hlaunch <;> exact .of_same rfl rfl
  | statement w hw hs => exact later_statement hgood.inv (hgood.allowed delivery_rules hw) hs
  | others ho =>
    cases ho
    exact .of_same rfl rfl

/-- Whichever attempts begin and mark deliveries, with whatever numbers: there is one row for each
key, an attempt is made ready only with a larger number than any before it, a row that is sent or
skipped stays as it is and is answered as complete, and a mark changes a row only if it carries the
number of the attempt made ready last. -/
theorem external_deliveries_hold
    (hrun : Relation.ReflTransGen DeliveryStep delivery_start (s, ps)) :
    s.Sound ∧ (∀ t qs, Relation.ReflTransGen DeliveryStep (s, ps) (t, qs) → s.Later t) ∧
      ∀ w mark r t, DeliveryCarried w s (.mark_external_notification_delivery mark) r t →
        t.notification_deliveries = s.notification_deliveries ∨
          (latest_ready s.ready mark.delivery_id = some mark.attempt_count ∧
            ∀ row ∈ s.notification_deliveries, row.id ≠ mark.delivery_id →
              row ∈ t.notification_deliveries) := by
  have hgood := delivery_good hrun
  refine ⟨hgood.inv.sound, fun t qs hafter => ?_, fun w mark r t hs => mark_changes hgood.inv hs⟩
  generalize hd : (t, qs) = d at hafter
  induction hafter generalizing t qs with
  | refl =>
    obtain ⟨rfl, rfl⟩ := Prod.mk.injEq .. ▸ hd
    exact .refl _
  | @tail b d hbefore hstep ih =>
    subst hd
    obtain ⟨u, rs⟩ := b
    exact (ih u rs rfl).trans (later_step (delivery_good (hrun.trans hbefore)) hstep)

end System

/-! ### Calls that nobody interrupts -/

section OneCaller

def answered_delivery (s : DeliveryRace Unit) (op : DeliveryStatement) :
    AppResult op.Answer × DeliveryRace Unit :=
  (.ok (op.run s ()).1, op.heard (op.run s ()).2)

theorem answered_delivery_carried (s : DeliveryRace Unit) (op : DeliveryStatement) :
    DeliveryCarried () s op (answered_delivery s op).1 (answered_delivery s op).2 := by
  refine .answered ?_
  cases op with
  | insert_external_notification_delivery => exact fun _ v hv => absurd rfl hv
  | select_external_notification_delivery => exact fun _ _ _ v hv => absurd rfl hv
  | update_external_notification_delivery_processing => exact fun v hv => absurd rfl hv
  | mark_external_notification_delivery => exact fun _ _ _ v hv => absurd rfl hv
  | _ => trivial

def after_call (p : DeliveryProg Unit) (s : DeliveryRace Unit) : DeliveryRace Unit :=
  (Prog.eval answered_delivery p (s.set_opened () .idle)).2

theorem call_steps {s : DeliveryRace Unit} {p : DeliveryProg Unit}
    (hlaunch : DeliveryLaunch () s p (s.set_opened () .idle)) (ps : Unit → DeliveryProg Unit) :
    ∃ qs, Relation.ReflTransGen DeliveryStep (s, ps) (after_call p s, qs) := by
  obtain ⟨qs, hcall, _⟩ := Prog.Crew.of_eval (H := DeliveryCarried) (E := DeliveryOthers)
    (w := ()) (fun s op _ => answered_delivery_carried s op) (s.set_opened () .idle)
    (Prog.along_true answered_delivery p _) (Function.update ps () p) (by simp)
  exact ⟨qs, .head (.launch () hlaunch) hcall⟩

def webhook_target : ExternalTarget :=
  { tenant_id := 3, event_id := 1, rule_id := 20, channel_id := 10, channel_type := "webhook",
    idempotency_key := "event:1:rule:20:channel:10:v1" }

def target_event : AddressEvent :=
  { id := 1, tenant_id := 3, chain_id := 1, address_id := 0, asset_id := 5,
    event_type := "transfer", direction := "inbound", is_transfer := true, tx_hash := some "0xab",
    log_index := some 0, block_number := some 100, block_hash := none, confirmations := 12,
    from_address := none, to_address := none, amount_raw := some "7", amount_decimal := some "7",
    balance_before_raw := none, balance_after_raw := none, balance_delta_raw := none,
    metadata := .obj [] }

def webhook_rule : NotificationRule :=
  { id := 20, tenant_id := 3, chain_id := none, address_id := none, asset_id := none,
    event_type := none, is_transfer := none, min_amount_raw := none, direction := none,
    channel_ids := [10], enabled := true, created_at := 0,
    unique_channel_ids := List.nodup_singleton _ }

def webhook_channel : NotificationChannel :=
  { id := 10, tenant_id := 3, channel_type := "webhook", name := "hook", config := .obj [],
    status := "active", created_at := 0 }

/-- One rule and its webhook. -/
def webhook_settings : NotifySettings :=
  { NotifySettings.empty with
    notification_rules := [webhook_rule]
    notification_channels := [webhook_channel]
    unique_rule_id := List.nodup_singleton _
    unique_channel_id := List.nodup_singleton _ }

def with_webhook : DeliveryRace Unit :=
  { (delivery_start (W := Unit)).1 with events := [target_event], settings := webhook_settings }

/-- The first attempt sends. -/
def webhook_sent : DeliveryRace Unit :=
  after_call (mark_external_notification_delivery ⟨3, 0, 1, .sent 0 none (some 200) none⟩)
    (after_call (begin_external_notification_delivery webhook_target 1) with_webhook)

/-- A second attempt finds the delivery complete. -/
def webhook_again : DeliveryRace Unit :=
  after_call (begin_external_notification_delivery webhook_target 2) webhook_sent

theorem external_deliveries_hold_webhook :
    webhook_again.answers.map (·.start) = [.ReadyToSend 0, .AlreadyComplete 0] ∧
      webhook_sent.Sound ∧ webhook_sent.Later webhook_again := by
  have hedit : DeliveryStep (W := Unit) delivery_start (with_webhook, delivery_start.2) :=
    .others (.edit [target_event] webhook_settings)
  obtain ⟨ps, hbegin⟩ := call_steps (.begin webhook_target 1) delivery_start.2
  obtain ⟨qs, hmark⟩ := call_steps (.mark ⟨3, 0, 1, .sent 0 none (some 200) none⟩) ps
  obtain ⟨rs, hagain⟩ := call_steps (.begin webhook_target 2) qs
  obtain ⟨hsound, hlater, _⟩ := external_deliveries_hold (.head hedit (hbegin.trans hmark))
  exact ⟨by decide +kernel, hsound, hlater webhook_again rs hagain⟩

end OneCaller

end CoinListener.Storage
