import CoinListener.Foundation.Text

/-! Texts cut at byte offsets: a cut inside a character is none. -/
namespace Foundation.Text

variable {text a b pre post : List Char} {c : Char} {n m : Nat}

theorem width_pos (c : Char) : 0 < width c := by
  simp only [width, String.utf8EncodeChar]
  split
  · exact Nat.one_pos
  · split
    · exact Nat.two_pos
    · split
      · exact Nat.succ_pos 2
      · exact Nat.succ_pos 3

@[simp] theorem byteLength_nil : byteLength [] = 0 := rfl

@[simp] theorem byteLength_cons : byteLength (c :: text) = width c + byteLength text := by
  simp [byteLength]

@[simp] theorem byteLength_append : byteLength (a ++ b) = byteLength a + byteLength b := by
  simp [byteLength]

theorem length_le_byteLength (text : List Char) : text.length ≤ byteLength text := by
  induction text with
  | nil => exact Nat.le_refl _
  | cons c text ih =>
    have hwidth := width_pos c
    rw [List.length_cons, byteLength_cons]
    omega

theorem width_le_one (h : width c ≤ 1) : c.toNat ≤ 127 := by
  by_contra hwide
  have hval : ¬ c.val ≤ 127 := fun hle => hwide hle
  simp only [width, String.utf8EncodeChar] at h
  split at h
  · next hle => exact hwide hle
  · split at h
    · exact absurd h (by simp)
    · split at h
      · exact absurd h (by simp)
      · exact absurd h (by simp)

/-- A text with no more bytes than characters is ASCII. -/
theorem byteLength_eq_length_iff :
    byteLength text = text.length ↔ ∀ c ∈ text, c.toNat ≤ 127 := by
  constructor
  · intro h
    induction text with
    | nil => exact fun c hc => absurd hc List.not_mem_nil
    | cons d text ih =>
      have hwidth := width_pos d
      have hrest := length_le_byteLength text
      rw [byteLength_cons, List.length_cons] at h
      intro c hc
      rcases List.mem_cons.mp hc with rfl | hc
      · exact width_le_one (by omega)
      · exact ih (by omega) c hc
  · exact byteLength_of_ascii

/-- `split_at` with a byte offset. -/
def splitBytes : Nat → List Char → Option (List Char × List Char)
  | 0, text => some ([], text)
  | _ + 1, [] => none
  | n + 1, c :: text =>
    if width c ≤ n + 1 then
      (splitBytes (n + 1 - width c) text).map fun parts => (c :: parts.1, parts.2)
    else none

/-- The parts of a text are what is in front of the offset and what is behind it. -/
theorem splitBytes_iff :
    splitBytes n text = some (pre, post) ↔ text = pre ++ post ∧ byteLength pre = n := by
  constructor
  · intro h
    induction text generalizing n pre with
    | nil =>
      cases n with
      | zero =>
        obtain ⟨rfl, rfl⟩ := Prod.mk.inj (Option.some.inj h)
        exact ⟨rfl, rfl⟩
      | succ n => exact nomatch h
    | cons c text ih =>
      cases n with
      | zero =>
        obtain ⟨rfl, rfl⟩ := Prod.mk.inj (Option.some.inj h)
        exact ⟨rfl, rfl⟩
      | succ n =>
        unfold splitBytes at h
        split at h
        · next hfits =>
          obtain ⟨⟨pre', post'⟩, hparts, heq⟩ := Option.map_eq_some_iff.mp h
          obtain ⟨rfl, rfl⟩ := Prod.mk.inj heq
          obtain ⟨rfl, hlength⟩ := ih hparts
          have hwhole : byteLength (c :: pre') = n + 1 := by
            rw [byteLength_cons]
            omega
          exact ⟨rfl, hwhole⟩
        · exact nomatch h
  · rintro ⟨rfl, rfl⟩
    induction pre with
    | nil => simp [splitBytes]
    | cons c pre ih =>
      obtain ⟨n, hn⟩ : ∃ n, byteLength (c :: pre) = n + 1 := by
        have hwidth := width_pos c
        exact ⟨byteLength (c :: pre) - 1, by rw [byteLength_cons]; omega⟩
      have hrest : n + 1 - width c = byteLength pre := by
        rw [← hn, byteLength_cons]
        omega
      have hfits : width c ≤ n + 1 := by
        rw [← hn, byteLength_cons]
        omega
      rw [hn, List.cons_append, splitBytes, if_pos hfits, hrest, ih]
      rfl

theorem splitBytes_append (pre post : List Char) :
    splitBytes (byteLength pre) (pre ++ post) = some (pre, post) :=
  splitBytes_iff.mpr ⟨rfl, rfl⟩

/-- `is_char_boundary`. -/
def isCharBoundary (n : Nat) (text : List Char) : Bool :=
  (splitBytes n text).isSome

theorem isCharBoundary_iff :
    isCharBoundary n text = true ↔ ∃ pre post, text = pre ++ post ∧ byteLength pre = n := by
  rw [isCharBoundary, Option.isSome_iff_exists]
  constructor
  · rintro ⟨⟨pre, post⟩, h⟩
    exact ⟨pre, post, splitBytes_iff.mp h⟩
  · rintro ⟨pre, post, h⟩
    exact ⟨(pre, post), splitBytes_iff.mpr h⟩

/-- Beginnings of a text are ordered by their bytes. -/
theorem prefix_of_byteLength_le {v : List Char} (ha : a <+: v) (hb : b <+: v)
    (h : byteLength a ≤ byteLength b) : a <+: b := by
  rcases List.prefix_or_prefix_of_prefix ha hb with hab | hba
  · exact hab
  · obtain ⟨rest, rfl⟩ := hba
    have hrest := length_le_byteLength rest
    rw [byteLength_append] at h
    have hnil : rest = [] := List.length_eq_zero_iff.mp (by omega)
    simp [hnil]

end Foundation.Text
