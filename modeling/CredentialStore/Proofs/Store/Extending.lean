import CredentialStore.Proofs.Store.Listing
import CredentialStore.Proofs.Store.Removing

namespace CredentialStore

namespace Bytes

/-- What is left of a store without its first record of a key. -/
def without (b : Bytes) (identity realm : Text) : Bytes :=
  (Record.survivors identity realm (lines b)).flatten

/-- Octets with a line after the end of their last one, if there is a line to add. -/
def extended (b : Bytes) : Option Bytes → Bytes
  | none => b
  | some line => b.terminated ++ line

@[simp] theorem extended_none (b : Bytes) : b.extended none = b := rfl

@[simp] theorem extended_some (b line : Bytes) : b.extended (some line) = b.terminated ++ line := rfl

/-- Two ended lines that are added stand one after the other. -/
theorem extended_extended (b : Bytes) {line line' : Bytes} (hline : line ≠ [])
    (hended : line.endsOpen = false) :
    (b.extended (some line)).extended (some line') = b.terminated ++ line ++ line' := by
  rw [extended_some, extended_some, terminated_append _ hline, terminated_of_ended hended]

/-- Unless there are two lines to add, it does not matter which is added first. -/
theorem extended_comm (b : Bytes) {first second : Option Bytes} (hone : first = none ∨ second = none) :
    (b.extended first).extended second = (b.extended second).extended first := by
  rcases hone with rfl | rfl <;> rfl

end Bytes

namespace Record

variable {identity realm identity' realm' : Text} {written : Option Record}

theorem IsWritten.isLineFor_eq_false {r : Record} (hwritten : r.IsWritten)
    (hother : r.key ≠ (identity, realm)) : isLineFor identity realm r.octets = false := by
  obtain ⟨-, -, hparse⟩ := hwritten.octets_spec
  rw [isLineFor, hparse, Option.any_some, ← Bool.not_eq_true, isFor_iff_key]
  exact hother

theorem IsWritten.octets_ne_nil {r : Record} (hwritten : r.IsWritten) : r.octets ≠ [] :=
  Bytes.ne_nil_of_lines_eq_singleton hwritten.octets_spec.1

theorem lines_without (b : Bytes) (identity realm : Text) :
    Bytes.lines (b.without identity realm) = survivors identity realm (Bytes.lines b) :=
  (apart_survivors identity realm b).lines_flatten

theorem without_comm (hkeys : (identity, realm) ≠ (identity', realm')) (b : Bytes) :
    (b.without identity' realm').without identity realm =
      (b.without identity realm).without identity' realm' := by
  rw [Bytes.without, lines_without, survivors_comm hkeys, ← lines_without]
  rfl

section Extended

variable (hwritten : ∀ r, written = some r → r.IsWritten)
  (hother : ∀ r, written = some r → r.key ≠ (identity, realm))

include hwritten hother

/-- What is looked for is found where it was found before another key was rewritten. -/
theorem firstFor?_extended (hkeys : (identity, realm) ≠ (identity', realm')) (b : Bytes) :
    firstFor? identity realm (Bytes.lines ((b.without identity' realm').extended
      (written.map octets))) = firstFor? identity realm (Bytes.lines b) := by
  cases written with
  | none =>
    rw [Option.map_none, Bytes.extended_none, lines_without, firstFor?_survivors hkeys]
  | some r =>
    have hfor := (hwritten r rfl).isLineFor_eq_false (hother r rfl)
    rw [Option.map_some, Bytes.extended_some, Bytes.without,
      lines_survivors_append _ _ _ (hwritten r rfl).octets_spec.1, firstFor?_append_singleton hfor,
      firstFor?_map_terminated, firstFor?_survivors hkeys]

/-- What is left of a store that was rewritten for another key has the line that was added. -/
theorem without_extended (b : Bytes) :
    ((b.without identity' realm').extended (written.map octets)).without identity realm =
      ((b.without identity' realm').without identity realm).extended (written.map octets) := by
  cases written with
  | none => rfl
  | some r =>
    obtain ⟨hsingle, -, hparse⟩ := (hwritten r rfl).octets_spec
    have hfor := (hwritten r rfl).isLineFor_eq_false (hother r rfl)
    have hapart := (apart_survivors identity' realm' b).sublist (survivors_sublist identity realm _)
    rw [Option.map_some, Bytes.extended_some, Bytes.extended_some, Bytes.without, Bytes.without,
      lines_survivors_append _ _ _ hsingle, survivors_append_singleton (by rw [hparse]; rfl) hfor,
      survivors_map_terminated, List.flatten_append, hapart.flatten_map_terminated,
      List.flatten_singleton, Bytes.without, (apart_survivors identity' realm' b).lines_flatten]

end Extended

end Record

end CredentialStore
