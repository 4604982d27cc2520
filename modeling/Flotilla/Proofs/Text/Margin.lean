import Mathlib.Data.List.Basic
import Flotilla.Text.Blank

/-!
# Blanks around a text

Every text is a gap, a core that neither begins nor ends with a blank, and another gap. Trimming
finds the core, and `trim_eq_iff` says that no other core can be found.
-/

namespace Flotilla

namespace Blank

variable {c : Char} {cs core before after : List Char}

/-- A text of blanks only. -/
def Gap (cs : List Char) : Prop := ∀ c ∈ cs, isBlank c = true

instance (cs : List Char) : Decidable (Gap cs) :=
  decidable_of_iff (cs.all isBlank = true) List.all_eq_true

/-- A text that neither begins nor ends with a blank. -/
structure Tight (cs : List Char) : Prop where
  front : ∀ c ∈ cs.head?, isBlank c = false
  back : ∀ c ∈ cs.getLast?, isBlank c = false

theorem isBlank_of_isDigit (h : c.isDigit = true) : isBlank c = false := by
  have hrange : 48 ≤ c.toNat ∧ c.toNat ≤ 57 := by
    simpa [Char.isDigit, UInt32.le_iff_toNat_le] using h
  simp only [isBlank, ranges, List.any_cons, List.any_nil, Bool.or_false, Bool.or_eq_false_iff,
    Bool.and_eq_false_iff, decide_eq_false_iff_not]
  omega

@[simp] theorem trimFront_nil : trimFront [] = [] := rfl

theorem trimFront_cons (h : isBlank c = false) : trimFront (c :: cs) = c :: cs := by
  simp [trimFront, h]

theorem trimFront_append (h : Gap before) : trimFront (before ++ cs) = trimFront cs :=
  List.dropWhile_append_of_pos h

theorem trimFront_of_head (h : ∀ c ∈ cs.head?, isBlank c = false) : trimFront cs = cs := by
  cases cs with
  | nil => rfl
  | cons c cs => exact trimFront_cons (h c rfl)

/-- What is left of a text begins with no blank, and a gap was in front of it. -/
theorem exists_trimFront (cs : List Char) :
    ∃ gap, Gap gap ∧ cs = gap ++ trimFront cs ∧ ∀ c ∈ (trimFront cs).head?, isBlank c = false := by
  refine ⟨cs.takeWhile isBlank, List.all_eq_true.mp List.all_takeWhile,
    List.takeWhile_append_dropWhile.symm, fun c hc => ?_⟩
  have hhead := List.head?_dropWhile_not isBlank cs
  rw [← trimFront, Option.mem_def.mp hc] at hhead
  exact hhead

theorem Gap.reverse (h : Gap cs) : Gap cs.reverse := fun c hc => h c (List.mem_reverse.mp hc)

theorem Gap.append (front : Gap before) (back : Gap after) : Gap (before ++ after) :=
  List.forall_mem_append.mpr ⟨front, back⟩

theorem Gap.trimFront_eq (h : Gap cs) : trimFront cs = [] := by
  rw [← List.append_nil cs, trimFront_append h]
  rfl

theorem trim_append (front : Gap before) (tight : Tight core) (back : Gap after) :
    trim (before ++ (core ++ after)) = core := by
  cases core with
  | nil => simp [trim, trimFront_append front, back.trimFront_eq]
  | cons c cs =>
      have hfront : trimFront (c :: cs ++ after) = c :: cs ++ after :=
        trimFront_cons (tight.front c rfl)
      rw [trim, trimFront_append front, hfront, List.reverse_append,
        trimFront_append back.reverse, trimFront_of_head, List.reverse_reverse]
      intro c hc
      exact tight.back c (List.head?_reverse ▸ hc)

theorem exists_trim (cs : List Char) :
    ∃ before after, Gap before ∧ Gap after ∧ Tight (trim cs) ∧
      cs = before ++ (trim cs ++ after) := by
  obtain ⟨before, hbefore, hcs, hfront⟩ := exists_trimFront cs
  obtain ⟨after, hafter, hrest, hback⟩ := exists_trimFront (trimFront cs).reverse
  have hcore : trimFront cs = trim cs ++ after.reverse := by
    simpa [trim] using congrArg List.reverse hrest
  refine ⟨before, after.reverse, hbefore, hafter.reverse, ⟨?_, ?_⟩, hcore ▸ hcs⟩
  · -- The first character of the core is that of the text without its gap.
    intro c hc
    refine hfront c ?_
    rw [hcore, List.head?_append, Option.mem_def.mp hc]
    rfl
  · intro c hc
    exact hback c (by simpa [trim] using hc)

theorem tight_of_forall (h : ∀ c ∈ cs, isBlank c = false) : Tight cs :=
  ⟨fun c hc => h c (List.mem_of_mem_head? hc), fun c hc => h c (List.mem_of_mem_getLast? hc)⟩

/-- Blanks within a text do not matter. -/
theorem tight_append (hbefore : before ≠ []) (hafter : after ≠ [])
    (front : ∀ c ∈ before, isBlank c = false) (back : ∀ c ∈ after, isBlank c = false) :
    Tight (before ++ (cs ++ after)) := by
  refine ⟨fun c hc => front c ?_, fun c hc => back c ?_⟩
  · rw [List.head?_append_of_ne_nil _ hbefore] at hc
    exact List.mem_of_mem_head? hc
  · rw [← List.append_assoc, List.getLast?_append_of_ne_nil _ hafter] at hc
    exact List.mem_of_mem_getLast? hc

theorem Gap.not_mem (h : Gap cs) (other : isBlank c = false) : c ∉ cs := by
  intro hmem
  simp [h c hmem] at other

/-- The core of a text is the only way to see it between two gaps. -/
theorem trim_eq_iff :
    trim cs = core ↔
      Tight core ∧ ∃ before after, Gap before ∧ Gap after ∧ cs = before ++ (core ++ after) := by
  constructor
  · rintro rfl
    obtain ⟨before, after, hbefore, hafter, tight, hcs⟩ := exists_trim cs
    exact ⟨tight, before, after, hbefore, hafter, hcs⟩
  · rintro ⟨tight, before, after, hbefore, hafter, rfl⟩
    exact trim_append hbefore tight hafter

theorem trim_eq_nil_iff : trim cs = [] ↔ Gap cs := by
  rw [trim_eq_iff]
  constructor
  · rintro ⟨-, before, after, hbefore, hafter, rfl⟩
    exact hbefore.append hafter
  · intro h
    exact ⟨⟨by simp, by simp⟩, cs, [], h, by simp [Gap], by simp⟩

end Blank

end Flotilla
