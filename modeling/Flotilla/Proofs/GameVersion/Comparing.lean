import Flotilla.GameVersion.Order

/-!
# How versions compare

Two version texts are compared in one of three ways: they are the same, they are both numbered,
or one of them is a weekly snapshot and both have a release date. `Compares` lists the three
ways, and `compare_eq_some_iff` says that there are no others. Without release dates the third
way is closed, so dates can make two versions equal, but never keep them from being equal.
-/

namespace Flotilla

namespace Instant

theorem compare_eq_eq_iff {a b : Instant} : a.compare b = .eq ↔ a = b := by
  obtain ⟨day, second, nanos, _, _, _, _⟩ := a
  obtain ⟨day', second', nanos', _, _, _, _⟩ := b
  simp [compare, Ordering.then_eq_eq]

end Instant

namespace GameVersion

/-- Whether a version is a weekly snapshot. -/
def isWeekly : GameVersion → Bool
  | .weekly .. => true
  | .numbered _ => false

/-- The ways in which two version texts compare. -/
inductive Compares (dates : ReleaseDates) (a b : String) : Ordering → Prop where
  | same (h : a = b) : Compares dates a b .eq
  | numbered {v w} (ne : a ≠ b) (left : parse a = .ok (.numbered v))
      (right : parse b = .ok (.numbered w)) : Compares dates a b (v.compare w)
  | dated {v w s t} (ne : a ≠ b) (left : parse a = .ok v) (right : parse b = .ok w)
      (weekly : v.isWeekly = true ∨ w.isWeekly = true) (first : dates a = some s)
      (second : dates b = some t) : Compares dates a b (s.compare t)

variable {dates : ReleaseDates} {a b : String} {order : Ordering}

theorem compare_eq_some_iff : compare dates a b = some order ↔ Compares dates a b order := by
  constructor
  · intro h
    unfold compare at h
    split at h
    next heq =>
      obtain rfl := Option.some.inj h
      exact .same heq
    next hne =>
      split at h
      next v w left right =>
        obtain rfl := Option.some.inj h
        exact .numbered hne left right
      next v w numbered left right =>
        obtain ⟨s, first, h⟩ := Option.bind_eq_some_iff.mp h
        obtain ⟨t, second, h⟩ := Option.bind_eq_some_iff.mp h
        obtain rfl := Option.some.inj h
        refine .dated hne left right ?_ first second
        cases v with
        | weekly => exact .inl rfl
        | numbered v =>
            cases w with
            | weekly => exact .inr rfl
            | numbered w => exact absurd rfl (numbered v w rfl)
      next => simp at h
  · intro h
    cases h with
    | same h => simp [compare, h]
    | numbered ne left right => simp [compare, ne, left, right]
    | @dated v w s t ne left right weekly first second =>
        cases v with
        | weekly => simp [compare, ne, left, right, first, second]
        | numbered v =>
            cases w with
            | weekly => simp [compare, ne, left, right, first, second]
            | numbered w => simp [isWeekly] at weekly

@[simp] theorem compare_self (dates : ReleaseDates) (a : String) :
    compare dates a a = some .eq := if_pos rfl

/-- Whether two versions are equal by nothing but their release dates. -/
def SharesDate (dates : ReleaseDates) (a b : String) : Prop :=
  a ≠ b ∧ (∃ v w, parse a = .ok v ∧ parse b = .ok w ∧ (v.isWeekly = true ∨ w.isWeekly = true)) ∧
    ∃ date, dates a = some date ∧ dates b = some date

/-- Release dates make equal what shares a date, and leave equal what is equal without them. -/
theorem compare_eq_eq_iff : compare dates a b = some .eq ↔
    compare .unknown a b = some .eq ∨ SharesDate dates a b := by
  constructor
  · intro h
    -- a dated pair is equal only if its dates are
    generalize hequal : Ordering.eq = order at h ⊢
    cases compare_eq_some_iff.mp h with
    | same heq =>
        obtain rfl := heq
        exact .inl (compare_self _ a)
    | numbered ne left right => exact .inl (compare_eq_some_iff.mpr (.numbered ne left right))
    | dated ne left right weekly first second =>
        obtain rfl := Instant.compare_eq_eq_iff.mp hequal.symm
        exact .inr ⟨ne, ⟨_, _, left, right, weekly⟩, _, first, second⟩
  · rintro (h | ⟨ne, ⟨v, w, left, right, weekly⟩, date, first, second⟩)
    · generalize Ordering.eq = order at h ⊢
      cases compare_eq_some_iff.mp h with
      | same heq =>
          obtain rfl := heq
          exact compare_self _ a
      | numbered ne left right => exact compare_eq_some_iff.mpr (.numbered ne left right)
      | dated _ _ _ _ first => simp [ReleaseDates.unknown] at first
    · have hsame : date.compare date = .eq := Instant.compare_eq_eq_iff.mpr rfl
      rw [← hsame]
      exact compare_eq_some_iff.mpr (.dated ne left right weekly first second)

end GameVersion

end Flotilla
