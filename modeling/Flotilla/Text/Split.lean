/-!
# Splitting texts at a character

`Split.first` cuts at the first separator and leaves later ones alone;
`Split.every` cuts at each of them, so its pieces hold no separator and number
one more than the separators of the text.
-/

namespace Flotilla

namespace Split

/-- The texts before and after the first `sep`, if there is one. -/
def first (sep : Char) : List Char → Option (List Char × List Char)
  | [] => none
  | c :: cs =>
    if c = sep then some ([], cs)
    else (first sep cs).map fun parts => (c :: parts.1, parts.2)

/-- The pieces between the separators of a text, in order; empty pieces count. -/
def every (sep : Char) : List Char → List (List Char)
  | [] => [[]]
  | c :: cs =>
    if c = sep then [] :: every sep cs
    else
      match every sep cs with
      | [] => [[c]]
      | piece :: pieces => (c :: piece) :: pieces

/-- What follows `lead` at the front of a text that starts with it. -/
def after? (lead : List Char) (cs : List Char) : Option (List Char) :=
  match lead, cs with
  | [], cs => some cs
  | _ :: _, [] => none
  | l :: lead, c :: cs => if l = c then after? lead cs else none

theorem first_eq_some {sep : Char} {cs before rest : List Char}
    (h : first sep cs = some (before, rest)) : cs = before ++ sep :: rest ∧ sep ∉ before := by
  induction cs generalizing before with
  | nil => simp [first] at h
  | cons c cs ih =>
    unfold first at h
    split at h
    · next hc => simp_all
    · next hc =>
      obtain ⟨⟨b, r⟩, hp, heq⟩ := Option.map_eq_some_iff.mp h
      simp only [Prod.mk.injEq] at heq
      obtain ⟨rfl, rfl⟩ := heq
      obtain ⟨rfl, hb⟩ := ih hp
      exact ⟨rfl, by simpa [hb] using fun h => hc h.symm⟩

theorem after?_append (lead rest : List Char) : after? lead (lead ++ rest) = some rest := by
  induction lead with
  | nil => simp [after?]
  | cons l lead ih => simp [after?, ih]

theorem every_ne_nil (sep : Char) (cs : List Char) : every sep cs ≠ [] := by
  cases cs with
  | nil => simp [every]
  | cons c cs =>
    unfold every
    split
    · simp
    · split <;> simp

end Split

end Flotilla
