import CoinListener.Foundation.Slices
import CoinListener.Notifier.Telegram

/-! What is kept of a provider's response. It is read chunk by chunk and cut by bytes. -/
namespace CoinListener.Notifier
open Foundation

namespace Checked

/-! ### Reading and cutting

Subtractions that would go below zero and slices that would go out of bounds or through a character
are `none`. -/

def sub (a b : Nat) : Option Nat :=
  if b ≤ a then some (a - b) else none

/-- `&bytes[..end]`. -/
def slice (bytes : List UInt8) (stop : Nat) : Option (List UInt8) :=
  if stop ≤ bytes.length then some (bytes.take stop) else none

/-- The loop of `read_provider_response_prefix`. -/
def read_chunks (bytes : List UInt8) : List (Except String (List UInt8)) → Option (List UInt8)
  | [] => some bytes
  | chunk :: chunks =>
    if bytes.length < PROVIDER_RESPONSE_MAX_BYTES then
      match chunk with
      | .ok chunk => do
        let remaining ← sub PROVIDER_RESPONSE_MAX_BYTES bytes.length
        let kept ← slice chunk (min chunk.length remaining)
        read_chunks (bytes ++ kept) chunks
      | .error _ => some bytes
    else some bytes

/-- The search for a boundary, from `stop` backwards. -/
def boundary_before (body : List Char) (stop : Nat) : Option Nat :=
  if Text.isCharBoundary stop body then some stop
  else
    match stop with
    | 0 => none
    | stop + 1 => boundary_before body stop

def truncate_provider_response (body : List Char) : Option (List Char) :=
  if Text.byteLength body ≤ PROVIDER_RESPONSE_MAX_BYTES then some body
  else do
    let stop ← boundary_before body PROVIDER_RESPONSE_MAX_BYTES
    let (kept, _) ← Text.splitBytes stop body
    some kept

/-- What is kept of a response. -/
def kept_response (response : Response) : Option (List Char) := do
  let bytes ← read_chunks [] response.chunks
  truncate_provider_response (Utf8.from_utf8_lossy bytes)

end Checked

/-! ### Nothing goes out of bounds -/

theorem checked_read (bytes : List UInt8) (chunks : List (Except String (List UInt8))) :
    Checked.read_chunks bytes chunks = some (read_chunks bytes chunks) := by
  induction chunks generalizing bytes with
  | nil => rfl
  | cons chunk chunks ih =>
    unfold Checked.read_chunks read_chunks
    by_cases hroom : bytes.length < PROVIDER_RESPONSE_MAX_BYTES
    · rw [if_pos hroom, if_pos hroom]
      cases chunk with
      | error message => rfl
      | ok chunk =>
        have hsub : Checked.sub PROVIDER_RESPONSE_MAX_BYTES bytes.length =
            some (PROVIDER_RESPONSE_MAX_BYTES - bytes.length) := if_pos hroom.le
        have hslice : ∀ n, Checked.slice chunk (min chunk.length n) = some (chunk.take n) := by
          intro n
          rw [Checked.slice, if_pos (Nat.min_le_left ..)]
          by_cases hn : n ≤ chunk.length
          · rw [Nat.min_eq_right hn]
          · rw [Nat.min_eq_left (by omega), List.take_length, List.take_of_length_le (by omega)]
        simp only [hsub, hslice, Option.bind_eq_bind, Option.bind_some]
        exact ih _
    · rw [if_neg hroom, if_neg hroom]

section Cut
variable {body kept : List Char} {n stop : Nat}

/-- The longest beginning of the text, in whole characters, that fits into so many bytes. -/
structure LongestWithin (n : Nat) (kept body : List Char) : Prop where
  start : kept <+: body
  fits : Text.byteLength kept ≤ n
  longest : ∀ start, start <+: body → Text.byteLength start ≤ n → start <+: kept

theorem LongestWithin.whole (h : Text.byteLength body ≤ n) : LongestWithin n body body :=
  ⟨List.prefix_rfl, h, fun _ hstart _ => hstart⟩

theorem LongestWithin.unique {other : List Char} (h : LongestWithin n kept body)
    (h' : LongestWithin n other body) : kept = other := by
  have hle := h'.longest kept h.start h.fits
  exact hle.eq_of_length_le (h.longest other h'.start h'.fits).length_le

/-- The search finds the boundary behind the longest beginning; at the latest it finds the start. -/
theorem boundary_before_longest (body : List Char) (n : Nat) :
    ∃ kept rest, Checked.boundary_before body n = some (Text.byteLength kept) ∧
      body = kept ++ rest ∧ LongestWithin n kept body := by
  induction n with
  | zero =>
    refine ⟨[], body, ?_, rfl, List.nil_prefix, Nat.le_refl 0, fun start hstart hfits => ?_⟩
    · have hzero : Text.isCharBoundary 0 body = true :=
        Text.isCharBoundary_iff.mpr ⟨[], body, rfl, rfl⟩
      rw [Checked.boundary_before, if_pos hzero]
      rfl
    · have hlength := Text.length_le_byteLength start
      obtain rfl := List.length_eq_zero_iff.mp (show start.length = 0 by omega)
      exact List.prefix_rfl
  | succ n ih =>
    by_cases hboundary : Text.isCharBoundary (n + 1) body = true
    · obtain ⟨kept, rest, hbody, hkept⟩ := Text.isCharBoundary_iff.mp hboundary
      have hstart : kept <+: body := ⟨rest, hbody.symm⟩
      refine ⟨kept, rest, ?_, hbody, hstart, hkept.le, fun start hprefix hfits => ?_⟩
      · rw [Checked.boundary_before, if_pos hboundary, hkept]
      · exact Text.prefix_of_byteLength_le hprefix hstart (hkept ▸ hfits)
    · obtain ⟨kept, rest, hsearch, hbody, hlongest⟩ := ih
      refine ⟨kept, rest, ?_, hbody, hlongest.start, Nat.le_succ_of_le hlongest.fits,
        fun start hprefix hfits => hlongest.longest start hprefix ?_⟩
      · rw [Checked.boundary_before, if_neg hboundary]
        exact hsearch
      · -- no beginning has exactly `n + 1` bytes
        have hne : Text.byteLength start ≠ n + 1 := by
          intro heq
          obtain ⟨rest, hrest⟩ := hprefix
          exact hboundary (Text.isCharBoundary_iff.mpr ⟨start, rest, hrest.symm, heq⟩)
        omega

theorem checked_truncate (body : List Char) :
    ∃ kept, Checked.truncate_provider_response body = some kept ∧
      LongestWithin PROVIDER_RESPONSE_MAX_BYTES kept body := by
  by_cases hshort : Text.byteLength body ≤ PROVIDER_RESPONSE_MAX_BYTES
  · exact ⟨body, if_pos hshort, .whole hshort⟩
  · obtain ⟨kept, rest, hsearch, hbody, hlongest⟩ :=
      boundary_before_longest body PROVIDER_RESPONSE_MAX_BYTES
    have hsplit : Text.splitBytes (Text.byteLength kept) body = some (kept, rest) :=
      Text.splitBytes_iff.mpr ⟨hbody, rfl⟩
    refine ⟨kept, ?_, hlongest⟩
    rw [Checked.truncate_provider_response, if_neg hshort, hsearch]
    simp only [Option.bind_eq_bind, Option.bind_some, hsplit]

theorem takeBytes_longest (n : Nat) (body : List Char) :
    LongestWithin n (Text.takeBytes n body) body := by
  refine ⟨Text.takeBytes_prefix n body, Text.takeBytes_length n body, ?_⟩
  induction body generalizing n with
  | nil => exact fun start hstart _ => hstart
  | cons c body ih =>
    intro start hstart hfits
    cases start with
    | nil => exact List.nil_prefix
    | cons d start =>
      obtain ⟨rfl, hrest⟩ := List.cons_prefix_cons.mp hstart
      rw [Text.byteLength_cons] at hfits
      rw [Text.takeBytes, if_pos (by omega)]
      exact List.cons_prefix_cons.mpr ⟨rfl, ih _ start hrest (by omega)⟩

/-- The search by bytes cuts where the characters do. -/
theorem checked_truncate_eq (body : String) :
    (Checked.truncate_provider_response body.toList).map String.ofList =
      some (truncate_provider_response body) := by
  obtain ⟨kept, hkept, hlongest⟩ := checked_truncate body.toList
  rw [hkept, truncate_provider_response]
  by_cases hshort : Text.byteLength body.toList ≤ PROVIDER_RESPONSE_MAX_BYTES
  · rw [if_pos hshort, hlongest.unique (.whole hshort)]
    exact congrArg some String.ofList_toList
  · rw [if_neg hshort, hlongest.unique (takeBytes_longest ..)]
    rfl

end Cut

/-! ### Responses -/

/-- The chunks that arrive: those before the first error. -/
def received : List (Except String (List UInt8)) → List (List UInt8)
  | .ok chunk :: chunks => chunk :: received chunks
  | _ => []

theorem read_received (bytes : List UInt8) (chunks : List (Except String (List UInt8))) :
    read_chunks bytes chunks = read_chunks bytes ((received chunks).map .ok) := by
  induction chunks generalizing bytes with
  | nil => rfl
  | cons chunk chunks ih =>
    cases chunk with
    | error message => exact ite_self bytes
    | ok chunk =>
      rw [received, List.map_cons, read_chunks, read_chunks]
      split
      · exact ih _
      · rfl

theorem received_ok (chunks : List (List UInt8)) : received (chunks.map .ok) = chunks := by
  induction chunks with
  | nil => rfl
  | cons chunk chunks ih => exact congrArg (chunk :: ·) ih

theorem kept_response_eq (response : Response) :
    Checked.kept_response response = Checked.truncate_provider_response (Utf8.from_utf8_lossy
      ((received response.chunks).flatten.take PROVIDER_RESPONSE_MAX_BYTES)) := by
  have hread := read_chunks_ok [] (received response.chunks) (Nat.zero_le _)
  rw [List.nil_append] at hread
  rw [Checked.kept_response, checked_read, read_received, hread]
  rfl

/-- What is kept of a response depends on its bytes only, whatever the chunks: it is the longest
beginning, in whole characters, of the text of its first bytes. -/
theorem response_kept :
    (∀ response, ∃ kept, Checked.kept_response response = some kept ∧
      LongestWithin PROVIDER_RESPONSE_MAX_BYTES kept (Utf8.from_utf8_lossy
        ((received response.chunks).flatten.take PROVIDER_RESPONSE_MAX_BYTES))) ∧
    ∀ status status' (chunks chunks' : List (List UInt8)), chunks.flatten = chunks'.flatten →
      Checked.kept_response ⟨status, chunks.map .ok⟩ =
        Checked.kept_response ⟨status', chunks'.map .ok⟩ := by
  constructor
  · intro response
    rw [kept_response_eq]
    exact checked_truncate _
  · intro status status' chunks chunks' hbytes
    rw [kept_response_eq, kept_response_eq, received_ok, received_ok, hbytes]

end CoinListener.Notifier
