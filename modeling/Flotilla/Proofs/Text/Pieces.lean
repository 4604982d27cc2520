import Flotilla.Text.Split

/-!
# Pieces of a text

The three ways of `Split` to take a text apart, each from both sides: which pieces are found, and
which text they came from. Joining the pieces between the separators gives the text back.
-/

namespace Flotilla

namespace Split

variable {sep : Char} {piece before lead rest cs : List Char} {pieces : List (List Char)}

theorem first_append_cons (h : sep ∉ before) :
    first sep (before ++ sep :: rest) = some (before, rest) := by
  induction before with
  | nil => simp [first]
  | cons c before ih =>
      obtain ⟨hc, hbefore⟩ := List.ne_and_not_mem_of_not_mem_cons h
      rw [List.cons_append, first, if_neg (Ne.symm hc), ih hbefore]
      rfl

theorem first_eq_some_iff :
    first sep cs = some (before, rest) ↔ cs = before ++ sep :: rest ∧ sep ∉ before := by
  constructor
  · exact first_eq_some
  · rintro ⟨rfl, h⟩
    exact first_append_cons h

theorem first_eq_none_iff : first sep cs = none ↔ sep ∉ cs := by
  induction cs with
  | nil => simp [first]
  | cons c cs ih =>
      rw [first, List.mem_cons, not_or]
      split
      next heq => simp [heq]
      next hne => simp [ih, Ne.symm hne]

theorem after?_eq_some_iff : after? lead cs = some rest ↔ cs = lead ++ rest := by
  induction lead generalizing cs with
  | nil => simp [after?, eq_comm]
  | cons l lead ih =>
      cases cs with
      | nil => simp [after?]
      | cons c cs =>
          rw [after?]
          split
          next heq => simp [heq, ih]
          next hne => simp [Ne.symm hne]

theorem every_of_not_mem (h : sep ∉ piece) : every sep piece = [piece] := by
  induction piece with
  | nil => rfl
  | cons c piece ih =>
      obtain ⟨hc, hpiece⟩ := List.ne_and_not_mem_of_not_mem_cons h
      rw [every, if_neg (Ne.symm hc), ih hpiece]

theorem every_append_cons (h : sep ∉ piece) :
    every sep (piece ++ sep :: rest) = piece :: every sep rest := by
  induction piece with
  | nil => simp [every]
  | cons c piece ih =>
      obtain ⟨hc, hpiece⟩ := List.ne_and_not_mem_of_not_mem_cons h
      rw [List.cons_append, every, if_neg (Ne.symm hc), ih hpiece]

/-- What the first piece of a text is, and where the other pieces come from. -/
theorem every_eq_cons_iff :
    every sep cs = piece :: pieces ↔
      sep ∉ piece ∧ (cs = piece ∧ pieces = [] ∨
        ∃ rest, cs = piece ++ sep :: rest ∧ every sep rest = pieces) := by
  constructor
  · intro h
    cases hfirst : first sep cs with
    | none =>
        have hnotMem := first_eq_none_iff.mp hfirst
        rw [every_of_not_mem hnotMem] at h
        obtain ⟨rfl, rfl⟩ := List.cons.inj h
        exact ⟨hnotMem, .inl ⟨rfl, rfl⟩⟩
    | some parts =>
        obtain ⟨rfl, hnotMem⟩ := first_eq_some hfirst
        rw [every_append_cons hnotMem] at h
        obtain ⟨rfl, rfl⟩ := List.cons.inj h
        exact ⟨hnotMem, .inr ⟨_, rfl, rfl⟩⟩
  · rintro ⟨hnotMem, ⟨rfl, rfl⟩ | ⟨rest, rfl, rfl⟩⟩
    · exact every_of_not_mem hnotMem
    · exact every_append_cons hnotMem

theorem every_eq_singleton_iff : every sep cs = [piece] ↔ cs = piece ∧ sep ∉ piece := by
  rw [every_eq_cons_iff]
  constructor
  · rintro ⟨hnotMem, ⟨rfl, -⟩ | ⟨rest, -, hnone⟩⟩
    · exact ⟨rfl, hnotMem⟩
    · exact absurd hnone (every_ne_nil sep rest)
  · rintro ⟨rfl, hnotMem⟩
    exact ⟨hnotMem, .inl ⟨rfl, rfl⟩⟩

theorem every_eq_cons_cons_iff {next : List Char} :
    every sep cs = piece :: next :: pieces ↔
      ∃ rest, cs = piece ++ sep :: rest ∧ sep ∉ piece ∧ every sep rest = next :: pieces := by
  rw [every_eq_cons_iff]
  constructor
  · rintro ⟨hnotMem, ⟨-, hnil⟩ | ⟨rest, hcs, hrest⟩⟩
    · simp at hnil
    · exact ⟨rest, hcs, hnotMem, hrest⟩
  · rintro ⟨rest, hcs, hnotMem, hrest⟩
    exact ⟨hnotMem, .inr ⟨rest, hcs, hrest⟩⟩

theorem every_eq_splitOn (sep : Char) (cs : List Char) : every sep cs = cs.splitOn sep := by
  induction cs with
  | nil => rfl
  | cons c cs ih =>
      obtain ⟨piece, pieces, hcs⟩ := List.exists_cons_of_ne_nil (every_ne_nil sep cs)
      rw [every, List.splitOn_cons_eq_if_modifyHead, ← ih, hcs]
      by_cases h : c = sep <;> simp [h]

theorem not_mem_of_mem_every (h : every sep cs = pieces) : ∀ piece ∈ pieces, sep ∉ piece := by
  induction pieces generalizing cs with
  | nil => simp
  | cons piece pieces ih =>
      obtain ⟨hnotMem, ⟨-, rfl⟩ | ⟨rest, -, hrest⟩⟩ := every_eq_cons_iff.mp h
      · simpa using hnotMem
      · exact List.forall_mem_cons.mpr ⟨hnotMem, ih hrest⟩

/-- The pieces of a text hold no separator, and with separators between them they are the text. -/
structure Cuts (sep : Char) (cs : List Char) (pieces : List (List Char)) : Prop where
  present : pieces ≠ []
  apart : ∀ piece ∈ pieces, sep ∉ piece
  joined : [sep].intercalate pieces = cs

theorem every_eq_iff_cuts : every sep cs = pieces ↔ Cuts sep cs pieces := by
  constructor
  · intro h
    refine ⟨h ▸ every_ne_nil sep cs, not_mem_of_mem_every h, ?_⟩
    rw [← h, every_eq_splitOn]
    exact List.intercalate_splitOn sep
  · rintro ⟨present, apart, rfl⟩
    rw [every_eq_splitOn]
    exact List.splitOn_intercalate sep apart present

end Split

end Flotilla
