import Flotilla.Proofs.GameVersion.Preorder
import Flotilla.Proofs.Upgrade.Gate

/-!
# There and back

The order of versions is antisymmetric, and the plan for the way back mirrors the plan for the way
there: there is one exactly if there is the other, and it leads in the opposite direction. So if
both may go ahead, nothing changes. The extensions have no part in this, as they are looked up for
two different targets; all that must not change in between is what the registry says of releases.
-/

namespace Flotilla

namespace Direction

/-- The direction of the way back. -/
def opposite : Direction → Direction
  | .upgrade => .downgrade
  | .unchanged => .unchanged
  | .downgrade => .upgrade

theorem ofOrdering_swap (order : Ordering) :
    ofOrdering order.swap = (ofOrdering order).opposite := by
  cases order <;> rfl

theorem ofOrdering_eq_unchanged_iff {order : Ordering} :
    ofOrdering order = .unchanged ↔ order = .eq := by
  cases order <;> simp [ofOrdering]

@[simp] theorem opposite_eq_unchanged_iff {direction : Direction} :
    direction.opposite = .unchanged ↔ direction = .unchanged := by
  cases direction <;> simp [opposite]

/-- One of two ways goes back to an older version, unless neither leads anywhere. -/
theorem eq_unchanged_of_ne_downgrade {direction : Direction} (there : direction ≠ .downgrade)
    (back : direction.opposite ≠ .downgrade) : direction = .unchanged := by
  cases direction with
  | upgrade => exact absurd rfl back
  | unchanged => rfl
  | downgrade => exact absurd rfl there

end Direction

namespace Plan

variable {registry : Registry} {loader : Loader} {a b : String} {extensions : List Extension}

theorem isSafe_iff {plan : Plan} :
    plan.isSafe = true ↔ plan.gate = .safe ∧ plan.direction ≠ .downgrade := by
  simp [isSafe]

/-- A blocked gate stops every plan. -/
theorem isSafe_of_blocked {plan : Plan} {keys : List String} (h : plan.gate = .blocked keys) :
    plan.isSafe = false := by
  apply Bool.eq_false_iff.mpr
  intro safe
  have hgate := (isSafe_iff.mp safe).1
  simp [h] at hgate

/-- The plan of a change between versions that compare. -/
theorem make_of_compare {order : Ordering}
    (h : GameVersion.compare registry.catalog.dates a b = some order) :
    make registry loader a b extensions =
      let verdicts := Verdicts.resolve registry registry.catalog.dates loader b extensions
      .ok ⟨a, b, .ofOrdering order, verdicts, .ofVerdicts verdicts⟩ := by
  simp only [make, h]

theorem make_of_incomparable (h : GameVersion.compare registry.catalog.dates a b = none) :
    make registry loader a b extensions = .error (.incomparable a b) := by
  simp only [make, h]

/-- Between versions that do not compare nothing is looked up. -/
theorem queries_of_incomparable (h : GameVersion.compare registry.catalog.dates a b = none) :
    queries registry loader a b extensions = [] := by
  simp only [queries, h]

end Plan

/-- The way there and the way back, between which the registry may change its answers about
projects, but not about releases: either the versions are incomparable in both directions, and
then nothing is looked up, or there is a plan for each, in opposite directions, and no change in
either exactly if the versions are equal. Both are safe only if nothing changes, and neither is if
its gate is blocked. A registry that does not answer about releases is like one that has none. -/
theorem plans_mirrored (there back : Registry) (fixed : back.releases = there.releases)
    (loader : Loader) (extensions : List Extension) (a b : String) :
    ((Plan.make there loader a b extensions = .error (.incomparable a b) ∧
        Plan.make back loader b a extensions = .error (.incomparable b a) ∧
        Plan.queries there loader a b extensions = [] ∧
        Plan.queries back loader b a extensions = []) ∨
      ∃ p q, Plan.make there loader a b extensions = .ok p ∧
        Plan.make back loader b a extensions = .ok q ∧
        q.direction = p.direction.opposite ∧
        (p.direction = .unchanged ↔
          GameVersion.compare there.catalog.dates a b = some .eq) ∧
        (q.direction = .unchanged ↔
          GameVersion.compare there.catalog.dates a b = some .eq) ∧
        (p.isSafe = true → q.isSafe = true → p.direction = .unchanged) ∧
        (∀ keys, p.gate = .blocked keys → p.isSafe = false) ∧
        ∀ keys, q.gate = .blocked keys → q.isSafe = false) ∧
    ∀ error,
      let failing : Registry := { there with releases := .error error }
      let empty : Registry := { there with releases := .ok [] }
      Plan.make failing loader a b extensions = Plan.make empty loader a b extensions ∧
        Plan.queries failing loader a b extensions = Plan.queries empty loader a b extensions := by
  have catalog : back.catalog = there.catalog := by
    simp only [Registry.catalog, fixed]
  have swapped : GameVersion.compare back.catalog.dates b a =
      (GameVersion.compare there.catalog.dates a b).map Ordering.swap := by
    rw [catalog, GameVersion.compare_swap]
  refine ⟨?_, fun error => ⟨rfl, rfl⟩⟩
  cases h : GameVersion.compare there.catalog.dates a b with
  | none =>
      rw [h] at swapped
      exact .inl ⟨Plan.make_of_incomparable h, Plan.make_of_incomparable swapped,
        Plan.queries_of_incomparable h, Plan.queries_of_incomparable swapped⟩
  | some order =>
      rw [h] at swapped
      have unchanged : Direction.ofOrdering order = .unchanged ↔ some order = some .eq := by
        rw [Direction.ofOrdering_eq_unchanged_iff, Option.some_inj]
      refine .inr ⟨_, _, Plan.make_of_compare h, Plan.make_of_compare swapped,
        Direction.ofOrdering_swap order, unchanged, ?_, ?_,
        fun _ => Plan.isSafe_of_blocked, fun _ => Plan.isSafe_of_blocked⟩
      · rw [Direction.ofOrdering_swap, Direction.opposite_eq_unchanged_iff, unchanged]
      · intro safe safe'
        have hback := (Plan.isSafe_iff.mp safe').2
        rw [Direction.ofOrdering_swap] at hback
        exact Direction.eq_unchanged_of_ne_downgrade (Plan.isSafe_iff.mp safe).2 hback

/-- Between two spellings of one version both ways are safe, and neither leads anywhere. -/
theorem plans_mirrored_sample :
    (Sample.registry "1.21.0" []).releases = (Sample.registry "1.21" []).releases ∧
    ∃ p q, Plan.make (Sample.registry "1.21" []) .fabric "1.21" "1.21.0" [Sample.kept "x"] = .ok p ∧
      Plan.make (Sample.registry "1.21.0" []) .fabric "1.21.0" "1.21" [Sample.kept "x"] = .ok q ∧
      p.isSafe = true ∧ q.isSafe = true ∧ p.direction = .unchanged ∧ q.direction = .unchanged := by
  have equal : GameVersion.compare (Sample.registry "1.21" []).catalog.dates "1.21" "1.21.0" =
      some .eq := by decide
  have equal' : GameVersion.compare (Sample.registry "1.21.0" []).catalog.dates "1.21.0" "1.21" =
      some .eq := by decide
  obtain ⟨mirrored, -⟩ := plans_mirrored (Sample.registry "1.21" []) (Sample.registry "1.21.0" [])
    rfl .fabric [Sample.kept "x"] "1.21" "1.21.0"
  cases mirrored with
  | inl incomparable =>
      have failed := incomparable.1
      rw [Plan.make_of_compare equal] at failed
      cases failed
  | inr planned =>
      obtain ⟨p, q, hp, hq, -, there, back, -⟩ := planned
      have hp' := Except.ok.inj (hp.symm.trans (Plan.make_of_compare equal))
      have hq' := Except.ok.inj (hq.symm.trans (Plan.make_of_compare equal'))
      have safe : p.isSafe = true := by
        rw [hp']
        decide
      have safe' : q.isSafe = true := by
        rw [hq']
        decide
      exact ⟨rfl, p, q, hp, hq, safe, safe', there.mpr equal, back.mpr equal⟩

end Flotilla
