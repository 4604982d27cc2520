import Flotilla.Text.Split

/-!
# Placeholders

A template is a text with a placeholder in it. Filling it replaces the occurrences
of the placeholder from left to right; an occurrence that overlaps an earlier one
does not count, and the inserted text is not searched again.
-/

namespace Flotilla

namespace Placeholder

/-- Whether `mark` occurs in a text. -/
def occurs (mark : List Char) : List Char → Bool
  | [] => mark.isEmpty
  | c :: cs => (Split.after? mark (c :: cs)).isSome || occurs mark cs

theorem length_after? {lead cs rest : List Char} (h : Split.after? lead cs = some rest) :
    rest.length + lead.length = cs.length := by
  induction lead generalizing cs with
  | nil =>
    simp only [Split.after?, Option.some.injEq] at h
    simp [h]
  | cons l lead ih =>
    cases cs with
    | nil => simp [Split.after?] at h
    | cons c cs =>
      unfold Split.after? at h
      split at h
      · have := ih h
        simp only [List.length_cons]
        omega
      · simp at h

/-- The text with each occurrence of the nonempty mark `m :: mark` replaced. -/
def fill (m : Char) (mark value : List Char) (cs : List Char) : List Char :=
  match _h : Split.after? (m :: mark) cs with
  | some rest => value ++ fill m mark value rest
  | none =>
    match cs with
    | [] => []
    | c :: cs => c :: fill m mark value cs
termination_by cs.length
decreasing_by
  · have := length_after? _h
    simp only [List.length_cons] at this
    omega
  · simp

end Placeholder

end Flotilla
