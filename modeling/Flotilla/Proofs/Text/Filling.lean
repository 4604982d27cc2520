import Flotilla.Proofs.Text.Pieces
import Flotilla.Text.Placeholder

/-!
# Templates filled in

A template falls into the parts between the places of its mark, and to fill it is to put the value
between the parts. Two places cannot overlap if the first character of the mark does not come again
in it, so then the mark is filled in wherever it occurs. A value in which no mark can begin or end
makes no new place for one, neither inside of it nor where it meets the text around it.
-/

namespace Flotilla

namespace Placeholder

variable {m c : Char} {mark value other before after cs xs ys part : List Char}
  {parts : List (List Char)}

/-- The parts of a template: the mark occurs between each part and the next one, and nowhere
else. -/
structure Parts (mark cs : List Char) (parts : List (List Char)) : Prop where
  present : parts ≠ []
  joined : mark.intercalate parts = cs
  apart : ∀ part ∈ parts, ¬mark <:+: part
  placed : ∀ before after, cs = before ++ mark ++ after →
    ∃ front back, front ≠ [] ∧ back ≠ [] ∧ parts = front ++ back ∧
      mark.intercalate front = before ∧ mark.intercalate back = after

section Cutting

/-- A mark that does not begin again before it is over does not overlap the next one. -/
theorem exists_of_overlap (unique : m ∉ mark) (h : m :: mark ++ cs = before ++ m :: mark ++ after) :
    before = [] ∧ cs = after ∨
      ∃ rest, before = m :: mark ++ rest ∧ cs = rest ++ m :: mark ++ after := by
  rw [List.append_assoc, List.append_eq_append_iff] at h
  rcases h with ⟨rest, rfl, hrest⟩ | ⟨rest, hmark, hrest⟩
  · exact .inr ⟨rest, rfl, by rw [hrest, List.append_assoc]⟩
  · cases before with
    | nil =>
        obtain rfl : m :: mark = rest := hmark
        exact .inl ⟨rfl, (List.append_cancel_left hrest).symm⟩
    | cons b before =>
        -- the second mark would begin inside of the first one
        obtain ⟨rfl, rfl⟩ := List.cons.inj hmark
        cases rest with
        | nil => exact .inr ⟨[], by simp, by simpa using hrest.symm⟩
        | cons r rest =>
            obtain ⟨rfl, -⟩ := List.cons.inj hrest
            simp at unique

theorem parts_nil : Parts (m :: mark) [] [[]] where
  present := by simp
  joined := by simp
  apart := by simp
  placed before after h := by simp at h

/-- A character at which no mark begins is put in front of the first part. -/
theorem Parts.cons (h : Parts (m :: mark) cs (part :: parts))
    (unmarked : ¬m :: mark <+: c :: cs) : Parts (m :: mark) (c :: cs) ((c :: part) :: parts) where
  present := by simp
  joined := by
    rw [← h.joined]
    cases parts <;> simp
  apart := by
    obtain ⟨hpart, hparts⟩ := List.forall_mem_cons.mp h.apart
    refine List.forall_mem_cons.mpr ⟨fun hinfix => ?_, hparts⟩
    rcases List.infix_cons_iff.mp hinfix with hfront | hinfix
    · refine unmarked (hfront.trans ?_)
      rw [← h.joined]
      cases parts <;> simp
    · exact hpart hinfix
  placed before after heq := by
    cases before with
    | nil => exact absurd ⟨after, heq.symm⟩ unmarked
    | cons b before =>
        obtain ⟨rfl, hcs⟩ := List.cons.inj heq
        obtain ⟨front, back, hfront, hback, hparts, rfl, rfl⟩ := h.placed before after hcs
        obtain ⟨first, front, rfl⟩ := List.exists_cons_of_ne_nil hfront
        obtain ⟨rfl, rfl⟩ := List.cons.inj hparts
        refine ⟨(c :: part) :: front, back, by simp, hback, rfl, ?_, rfl⟩
        cases front <;> simp

/-- At a mark a part ends. -/
theorem Parts.cut (h : Parts (m :: mark) cs parts) (unique : m ∉ mark) :
    Parts (m :: mark) (m :: mark ++ cs) ([] :: parts) where
  present := by simp
  joined := by rw [List.intercalate_cons_of_ne_nil h.present, h.joined, List.nil_append]
  apart := List.forall_mem_cons.mpr ⟨by simp, h.apart⟩
  placed before after heq := by
    rcases exists_of_overlap unique heq with ⟨rfl, rfl⟩ | ⟨rest, rfl, hcs⟩
    · exact ⟨[[]], parts, by simp, h.present, rfl, by simp, h.joined⟩
    · obtain ⟨front, back, hfront, hback, rfl, rfl, rfl⟩ := h.placed rest after hcs
      exact ⟨[] :: front, back, by simp, hback, rfl,
        by rw [List.intercalate_cons_of_ne_nil hfront, List.nil_append], rfl⟩

theorem fill_nil : fill m mark value [] = [] := by
  rw [fill]
  rfl

theorem fill_mark (h : Split.after? (m :: mark) cs = some xs) :
    fill m mark value cs = value ++ fill m mark value xs := by
  rw [fill]
  split <;> simp_all

theorem fill_cons (h : Split.after? (m :: mark) (c :: cs) = none) :
    fill m mark value (c :: cs) = c :: fill m mark value cs := by
  rw [fill]
  split <;> simp_all

/-- A template falls into parts, whatever it is filled with, and the value is put between them. -/
theorem exists_parts (unique : m ∉ mark) (cs : List Char) :
    ∃ parts, Parts (m :: mark) cs parts ∧
      ∀ value, fill m mark value cs = value.intercalate parts := by
  induction cs using fill.induct m mark with
  | case1 cs rest hmark ih =>
      obtain ⟨parts, hparts, hfill⟩ := ih
      obtain rfl := Split.after?_eq_some_iff.mp hmark
      refine ⟨[] :: parts, hparts.cut unique, fun value => ?_⟩
      rw [fill_mark hmark, hfill, List.intercalate_cons_of_ne_nil hparts.present, List.nil_append]
  | case2 hnone =>
      exact ⟨[[]], parts_nil, fun value => fill_nil⟩
  | case3 c cs hnone ih =>
      obtain ⟨parts, hparts, hfill⟩ := ih
      obtain ⟨part, parts, rfl⟩ := List.exists_cons_of_ne_nil hparts.present
      have unmarked : ¬m :: mark <+: c :: cs := by
        rintro ⟨rest, heq⟩
        rw [Split.after?_eq_some_iff.mpr heq.symm] at hnone
        simp at hnone
      refine ⟨(c :: part) :: parts, hparts.cons unmarked, fun value => ?_⟩
      rw [fill_cons hnone, hfill]
      cases parts <;> simp

/-- A template in which the mark occurs has more than one part. -/
theorem Parts.two_le_length (h : Parts mark cs parts) (marked : mark <:+: cs) :
    2 ≤ parts.length := by
  obtain ⟨before, after, heq⟩ := marked
  obtain ⟨front, back, hfront, hback, rfl, -, -⟩ := h.placed before after heq.symm
  have := List.length_pos_iff.mpr hfront
  have := List.length_pos_iff.mpr hback
  rw [List.length_append]
  omega

end Cutting

section Joining

/-- A value in which no mark begins or ends, and which no mark is longer than. -/
structure Inert (mark value : List Char) : Prop where
  begins : ∀ c ∈ mark.head?, c ∉ value
  ends : ∀ c ∈ mark.getLast?, c ∉ value
  long : mark.length ≤ value.length

/-- Where a value in which no mark begins or ends meets other texts, no mark comes about. -/
theorem Inert.infix_append (inert : Inert mark value) (h : mark <:+: xs ++ value ++ ys) :
    mark <:+: xs ∨ mark <:+: ys := by
  have front {first rest : List Char} (heq : mark = first ++ rest) (hne : first ≠ [])
      (hsub : first ⊆ value) : False := by
    refine inert.begins (first.head hne) ?_ (hsub (List.head_mem hne))
    simp [heq, List.head?_append, List.head?_eq_some_head hne]
  have back {first rest : List Char} (heq : mark = first ++ rest) (hne : rest ≠ [])
      (hsub : rest ⊆ value) : False := by
    refine inert.ends (rest.getLast hne) ?_ (hsub (List.getLast_mem hne))
    simp [heq, List.getLast?_append, List.getLast?_eq_some_getLast hne]
  rcases List.infix_append_iff.mp h with hleft | hright | ⟨first, rest, heq, hsuffix, hfront⟩
  · rcases List.infix_append_iff.mp hleft with hxs | hvalue | ⟨first, rest, heq, hsuffix, hfront⟩
    · exact .inl hxs
    · by_cases hmark : mark = []
      · exact .inl (hmark ▸ List.nil_infix)
      · exact (front (List.append_nil mark).symm hmark hvalue.subset).elim
    · by_cases hrest : rest = []
      · subst hrest
        exact .inl (heq ▸ (List.append_nil first ▸ hsuffix).isInfix)
      · exact (back heq hrest hfront.subset).elim
  · exact .inr hright
  · by_cases hfirst : first = []
    · subst hfirst
      exact .inr (heq ▸ hfront.isInfix)
    · -- what is in front of the end of the value is no longer than the value
      have hlength : first.length ≤ value.length := by
        have := inert.long
        rw [heq, List.length_append] at this
        omega
      have hvalue := List.suffix_of_suffix_length_le hsuffix (List.suffix_append xs value) hlength
      exact (front heq hfirst hvalue.subset).elim

/-- Texts without the mark make no mark with such a value between them. -/
theorem Inert.not_infix_intercalate (inert : Inert mark value) (present : parts ≠ [])
    (apart : ∀ part ∈ parts, ¬mark <:+: part) : ¬mark <:+: value.intercalate parts := by
  induction parts with
  | nil => exact absurd rfl present
  | cons part parts ih =>
      obtain ⟨hpart, hparts⟩ := List.forall_mem_cons.mp apart
      cases parts with
      | nil => simpa using hpart
      | cons next parts =>
          intro h
          rw [List.intercalate_cons_cons] at h
          rcases inert.infix_append h with h | h
          · exact hpart h
          · exact ih (by simp) hparts h

/-- What is put between parts can be told from the result, if its length is known. -/
theorem eq_of_intercalate_eq (two : 2 ≤ parts.length) (length : value.length = other.length)
    (h : value.intercalate parts = other.intercalate parts) : value = other := by
  match parts with
  | [] | [_] => simp at two
  | first :: second :: parts =>
      rw [List.intercalate_cons_cons, List.intercalate_cons_cons, List.append_assoc,
        List.append_assoc] at h
      exact (List.append_inj (List.append_cancel_left h) length).1

end Joining

end Placeholder

end Flotilla
