import Flotilla.Proofs.GameVersion.Comparing

/-!
# The preorder of versions

Version texts are compared by three different rules, so it is not plain that the comparisons fit
together. They do if the release dates of numbered versions follow their numbers: texts that
compare with one another pairwise then lie on one scale, that of the numbers, that of the dates,
or a single point. Whatever holds of comparisons on a scale holds of the texts.

Without that condition on the dates the order is still reflexive and antisymmetric, and where it
is defined depends only on what the texts name and on which of them have a date.
-/

namespace Flotilla

instance : Std.TransCmp NumberedVersion.compare :=
  inferInstanceAs <| Std.TransCmp <| compareLex (compareOn NumberedVersion.major) <|
    compareLex (compareOn NumberedVersion.minor) <| compareLex (compareOn NumberedVersion.patch) <|
      compareLex (compareOn fun v => v.stage.rank) (compareOn NumberedVersion.ordinal)

instance : Std.TransCmp Instant.compare :=
  inferInstanceAs <| Std.TransCmp <| compareLex (compareOn Instant.day) <|
    compareLex (compareOn Instant.second) (compareOn Instant.nanos)

namespace GameVersion

/-- Whether a text names a numbered version. -/
def IsNumbered (a : String) : Prop := ∃ v, parse a = .ok (.numbered v)

/-- Whether only release dates can order two texts: both name versions, and not both of these
are numbered. -/
def NeedDates (a b : String) : Prop :=
  ∃ v w, parse a = .ok v ∧ parse b = .ok w ∧ (v.isWeekly = true ∨ w.isWeekly = true)

/-- Whether a text is at most another one. -/
def AtMost (dates : ReleaseDates) (a b : String) : Prop :=
  ∃ order, compare dates a b = some order ∧ order.isLE = true

/-- Whether a text is strictly below another one. -/
def Below (dates : ReleaseDates) (a b : String) : Prop := compare dates a b = some .lt

end GameVersion

/-- Whether the numbered versions that have a date are dated in the order of their numbers. -/
def ReleaseDates.FollowNumbers (dates : ReleaseDates) : Prop :=
  ∀ a b v w s t, GameVersion.parse a = .ok (.numbered v) →
    GameVersion.parse b = .ok (.numbered w) → dates a = some s → dates b = some t →
      ((v.compare w).isLE = true ↔ (s.compare t).isLE = true)

namespace GameVersion

variable {dates : ReleaseDates} {a b c : String} {order : Ordering}

theorem Compares.swap (h : Compares dates a b order) : Compares dates b a order.swap := by
  cases h with
  | same h => exact .same h.symm
  | numbered ne left right =>
      rw [← Std.OrientedCmp.eq_swap]
      exact .numbered ne.symm right left
  | dated ne left right weekly first second =>
      rw [← Std.OrientedCmp.eq_swap]
      exact .dated ne.symm right left weekly.symm second first

theorem compare_swap (dates : ReleaseDates) (a b : String) :
    compare dates b a = (compare dates a b).map Ordering.swap := by
  cases h : compare dates a b with
  | some order => exact compare_eq_some_iff.mpr (compare_eq_some_iff.mp h).swap
  | none =>
      cases hba : compare dates b a with
      | none => rfl
      | some order =>
          have hab := compare_eq_some_iff.mpr (compare_eq_some_iff.mp hba).swap
          simp [h] at hab

theorem compare_of_numbered {v w : NumberedVersion} (left : parse a = .ok (.numbered v))
    (right : parse b = .ok (.numbered w)) : compare dates a b = some (v.compare w) := by
  by_cases same : a = b
  · obtain rfl := same
    obtain rfl := GameVersion.numbered.inj (Except.ok.inj (left.symm.trans right))
    have hself : v.compare v = .eq := Std.ReflCmp.compare_self
    rw [compare_self, hself]
  · exact compare_eq_some_iff.mpr (.numbered same left right)

theorem isSome_compare_iff : (compare dates a b).isSome = true ↔
    a = b ∨ (IsNumbered a ∧ IsNumbered b) ∨
      NeedDates a b ∧ (dates a).isSome = true ∧ (dates b).isSome = true := by
  constructor
  · intro h
    obtain ⟨order, h⟩ := Option.isSome_iff_exists.mp h
    cases compare_eq_some_iff.mp h with
    | same same => exact .inl same
    | numbered ne left right => exact .inr (.inl ⟨⟨_, left⟩, _, right⟩)
    | dated ne left right weekly first second =>
        exact .inr (.inr ⟨⟨_, _, left, right, weekly⟩, by simp [first], by simp [second]⟩)
  · rintro (rfl | ⟨⟨v, left⟩, w, right⟩ | ⟨⟨v, w, left, right, weekly⟩, first, second⟩)
    · simp
    · simp [compare_of_numbered left right]
    · obtain ⟨s, first⟩ := Option.isSome_iff_exists.mp first
      obtain ⟨t, second⟩ := Option.isSome_iff_exists.mp second
      by_cases same : a = b
      · simp [same]
      · simp [compare_eq_some_iff.mpr (.dated same left right weekly first second)]

/-- If the dates follow the numbers, all that has a date is ordered by it. -/
theorem Compares.eq_of_dates (follow : dates.FollowNumbers) (h : Compares dates a b order)
    {s t : Instant} (first : dates a = some s) (second : dates b = some t) :
    order = s.compare t := by
  cases h with
  | same same =>
      obtain rfl := same
      obtain rfl := Option.some.inj (first.symm.trans second)
      exact (Instant.compare_eq_eq_iff.mpr rfl).symm
  | @numbered v w ne left right =>
      have hle := follow a b v w s t left right first second
      have hge := follow b a w v t s right left second first
      have hnumbers : w.compare v = (v.compare w).swap := Std.OrientedCmp.eq_swap
      have hdates : t.compare s = (s.compare t).swap := Std.OrientedCmp.eq_swap
      rw [hnumbers, hdates] at hge
      cases hvw : v.compare w <;> cases hst : s.compare t <;> simp [hvw, hst] at hle hge ⊢
  | dated ne left right weekly first' second' =>
      obtain rfl := Option.some.inj (first'.symm.trans first)
      obtain rfl := Option.some.inj (second'.symm.trans second)
      rfl

/-- Texts that compare with one another pairwise lie on one scale, if the dates follow the
numbers. -/
theorem exists_scale (follow : dates.FollowNumbers) {texts : List String}
    (comparable : ∀ a ∈ texts, ∀ b ∈ texts, (compare dates a b).isSome = true) :
    ∃ (α : Type) (cmp : α → α → Ordering) (_ : Std.TransCmp cmp) (place : ∀ a ∈ texts, α),
      ∀ a (ha : a ∈ texts) b (hb : b ∈ texts),
        compare dates a b = some (cmp (place a ha) (place b hb)) := by
  by_cases numbered : ∀ a ∈ texts, IsNumbered a
  · refine ⟨NumberedVersion, NumberedVersion.compare, inferInstance,
      fun a ha => (numbered a ha).choose, ?_⟩
    intro a ha b hb
    exact compare_of_numbered (numbered a ha).choose_spec (numbered b hb).choose_spec
  by_cases dated : ∀ a ∈ texts, (dates a).isSome = true
  · refine ⟨Instant, Instant.compare, inferInstance, fun a ha => (dates a).get (dated a ha), ?_⟩
    intro a ha b hb
    obtain ⟨order, h⟩ := Option.isSome_iff_exists.mp (comparable a ha b hb)
    have hdates := (compare_eq_some_iff.mp h).eq_of_dates follow
      (Option.some_get (dated a ha)).symm (Option.some_get (dated b hb)).symm
    rw [h, hdates]
  · obtain ⟨t, h⟩ := Classical.not_forall.mp numbered
    obtain ⟨ht, unnumbered⟩ := Classical.not_imp.mp h
    obtain ⟨u, h⟩ := Classical.not_forall.mp dated
    obtain ⟨hu, undated⟩ := Classical.not_imp.mp h
    -- a text without a number and without a date compares with nothing but itself
    have htu : t = u := by
      obtain same | ⟨number, -⟩ | ⟨-, -, date⟩ := isSome_compare_iff.mp (comparable t ht u hu)
      · exact same
      · exact absurd number unnumbered
      · exact absurd date undated
    have alone : ∀ a ∈ texts, a = t := by
      intro a ha
      obtain same | ⟨-, number⟩ | ⟨-, -, date⟩ := isSome_compare_iff.mp (comparable a ha t ht)
      · exact same
      · exact absurd number unnumbered
      · exact absurd (htu ▸ date) undated
    refine ⟨Unit, fun _ _ => .eq, ?_, fun _ _ => (), ?_⟩
    · exact { eq_swap := rfl, isLE_trans := fun _ _ => rfl }
    · intro a ha b hb
      obtain rfl := (alone a ha).trans (alone b hb).symm
      exact compare_self dates a

/-- The comparison of version texts. A text equals itself; the other way round the answer is the
reverse; two texts compare if they are the same, if both are numbered, or if both have a date
where only dates can order them; dates change nothing between numbered versions; and if they
follow the numbers, the order is transitive wherever it is defined, strictly so if one of the two
steps is strict. -/
theorem compare_preorder (dates : ReleaseDates) (a b c : String) :
    compare dates a a = some .eq ∧
    compare dates b a = (compare dates a b).map Ordering.swap ∧
    ((compare dates a b).isSome = true ↔
      a = b ∨ (IsNumbered a ∧ IsNumbered b) ∨
        NeedDates a b ∧ (dates a).isSome = true ∧ (dates b).isSome = true) ∧
    (IsNumbered a → IsNumbered b → ∀ other, compare other a b = compare dates a b) ∧
    (dates.FollowNumbers → (compare dates a c).isSome = true →
      AtMost dates a b → AtMost dates b c →
        AtMost dates a c ∧ (Below dates a b ∨ Below dates b c → Below dates a c)) := by
  refine ⟨compare_self dates a, compare_swap dates a b, isSome_compare_iff, ?_, ?_⟩
  · rintro ⟨v, left⟩ ⟨w, right⟩ other
    rw [compare_of_numbered left right, compare_of_numbered left right]
  · intro follow hac ⟨first, hab, first_le⟩ ⟨second, hbc, second_le⟩
    have comparable : ∀ x ∈ [a, b, c], ∀ y ∈ [a, b, c], (compare dates x y).isSome = true := by
      have hba := compare_swap dates a b
      have hcb := compare_swap dates b c
      have hca := compare_swap dates a c
      simp [hab, hbc, hac, hba, hcb, hca]
    obtain ⟨α, cmp, _, place, hplace⟩ := exists_scale follow comparable
    have ha : a ∈ [a, b, c] := by simp
    have hb : b ∈ [a, b, c] := by simp
    have hc : c ∈ [a, b, c] := by simp
    obtain rfl := Option.some.inj (hab.symm.trans (hplace a ha b hb))
    obtain rfl := Option.some.inj (hbc.symm.trans (hplace b hb c hc))
    have hac := hplace a ha c hc
    refine ⟨⟨_, hac, Std.TransCmp.isLE_trans first_le second_le⟩, ?_⟩
    rintro (strict | strict)
    · have hlt := Option.some.inj (hab.symm.trans strict)
      exact hac.trans (congrArg some (Std.TransCmp.lt_of_lt_of_isLE hlt second_le))
    · have hlt := Option.some.inj (hbc.symm.trans strict)
      exact hac.trans (congrArg some (Std.TransCmp.lt_of_isLE_of_lt first_le hlt))

end GameVersion

namespace Sample

/-- An evening in the autumn of 2023. -/
def autumn : Instant := ⟨19621, 64800, 0, by decide, by decide, by decide, .inl (Nat.succ_pos _)⟩

/-- An evening some weeks later. -/
def winter : Instant := ⟨19698, 64800, 0, by decide, by decide, by decide, .inl (Nat.succ_pos _)⟩

/-- The dates of two releases, and of a weekly snapshot that came out with the second one. -/
def calendar : ReleaseDates := fun text =>
  if text = "1.20.2" then some autumn
  else if text = "23w45a" ∨ text = "1.20.4" then some winter
  else none

theorem followNumbers_calendar : calendar.FollowNumbers := by
  have placed {a : String} {v : NumberedVersion} {s : Instant}
      (named : GameVersion.parse a = .ok (.numbered v)) (dated : calendar a = some s) :
      v = ⟨1, 20, 2, .release, 0⟩ ∧ s = autumn ∨ v = ⟨1, 20, 4, .release, 0⟩ ∧ s = winter := by
    have htext : (a = "1.20.2" ∧ s = autumn) ∨ (a = "23w45a" ∨ a = "1.20.4") ∧ s = winter := by
      unfold calendar at dated
      grind
    obtain ⟨rfl, rfl⟩ | ⟨rfl | rfl, rfl⟩ := htext
    · cases named
      exact .inl ⟨rfl, rfl⟩
    · cases named
    · cases named
      exact .inr ⟨rfl, rfl⟩
  intro a b v w s t left right first second
  obtain ⟨rfl, rfl⟩ | ⟨rfl, rfl⟩ := placed left first <;>
    obtain ⟨rfl, rfl⟩ | ⟨rfl, rfl⟩ := placed right second <;> decide

end Sample

namespace GameVersion

/-- A release is below a weekly snapshot and this is at most the next release, by their dates; so
the one release is below the other, as their numbers say. -/
theorem compare_preorder_sample :
    Sample.calendar.FollowNumbers ∧
    (compare Sample.calendar "1.20.2" "1.20.4").isSome = true ∧
    AtMost Sample.calendar "1.20.2" "23w45a" ∧ AtMost Sample.calendar "23w45a" "1.20.4" ∧
    Below Sample.calendar "1.20.2" "1.20.4" := by
  have first : AtMost Sample.calendar "1.20.2" "23w45a" := ⟨.lt, rfl, rfl⟩
  have second : AtMost Sample.calendar "23w45a" "1.20.4" := ⟨.eq, rfl, rfl⟩
  obtain ⟨-, -, -, -, transitive⟩ :=
    compare_preorder Sample.calendar "1.20.2" "23w45a" "1.20.4"
  obtain ⟨-, strict⟩ := transitive Sample.followNumbers_calendar rfl first second
  exact ⟨Sample.followNumbers_calendar, rfl, first, second, strict (.inl rfl)⟩

end GameVersion

end Flotilla
