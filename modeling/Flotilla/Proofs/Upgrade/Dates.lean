import Flotilla.Proofs.Upgrade.Support

/-!
# Verdicts and release dates

A plan resolves its extensions with the release dates of the registry, and a plain resolution
knows none. Dates never take support away. They add it where a version lists a game version of
the same date as the target, one of the two being a weekly snapshot. The verdict on an extension
changes exactly if a look-up by order comes upon such a version, unless the installed version is
found without dates, and the verdicts of a plan are those of a plain resolution exactly if that
happens to no extension that is heard.
-/

namespace Flotilla

namespace Publication

/-- Whether a version supports the target by nothing but release dates. -/
def SupportsByDate (dates : ReleaseDates) (target : String) (p : Publication) : Prop :=
  ¬ p.supports .unknown target = true ∧
    ∃ supported ∈ p.gameVersions, GameVersion.SharesDate dates supported target

variable {dates : ReleaseDates} {target : String} {p : Publication}

theorem supports_iff_unknown : p.supports dates target = true ↔
    p.supports .unknown target = true ∨
      ∃ supported ∈ p.gameVersions, GameVersion.SharesDate dates supported target := by
  simp only [supports_iff]
  constructor
  · rintro ⟨supported, hmem, hequal⟩
    cases GameVersion.compare_eq_eq_iff.mp hequal with
    | inl hequal => exact .inl ⟨supported, hmem, hequal⟩
    | inr hdate => exact .inr ⟨supported, hmem, hdate⟩
  · rintro (⟨supported, hmem, hequal⟩ | ⟨supported, hmem, hdate⟩)
    · exact ⟨supported, hmem, GameVersion.compare_eq_eq_iff.mpr (.inl hequal)⟩
    · exact ⟨supported, hmem, GameVersion.compare_eq_eq_iff.mpr (.inr hdate)⟩

theorem supportsByDate_iff : p.SupportsByDate dates target ↔
    p.supports dates target = true ∧ ¬ p.supports .unknown target = true := by
  rw [supports_iff_unknown]
  unfold SupportsByDate
  constructor
  · rintro ⟨undated, hdate⟩
    exact ⟨.inr hdate, undated⟩
  · rintro ⟨undated | hdate, hne⟩
    · exact absurd undated hne
    · exact ⟨hne, hdate⟩

/-- What is supported without dates is part of what is supported with them. -/
theorem sublist_supports (dates : ReleaseDates) (target : String)
    (publications : List Publication) :
    (publications.filter fun p => p.supports .unknown target).Sublist
      (publications.filter fun p => p.supports dates target) := by
  have hfilter : publications.filter (fun p => p.supports .unknown target) =
      (publications.filter fun p => p.supports dates target).filter
        fun p => p.supports .unknown target := by
    rw [List.filter_filter]
    refine List.filter_congr fun p _ => ?_
    rw [Bool.eq_iff_iff, Bool.and_eq_true]
    exact ⟨fun h => ⟨h, supports_iff_unknown.mpr (.inl h)⟩, fun h => h.1⟩
  rw [hfilter]
  exact List.filter_sublist

theorem filter_supports_eq_iff {publications : List Publication} :
    (publications.filter fun p => p.supports dates target) =
      (publications.filter fun p => p.supports .unknown target) ↔
      ∀ p ∈ publications, ¬ p.SupportsByDate dates target := by
  simp only [supportsByDate_iff, not_and, Classical.not_not]
  constructor
  · intro heq p hmem hdated
    have h : p ∈ publications.filter fun p => p.supports dates target :=
      List.mem_filter.mpr ⟨hmem, hdated⟩
    rw [heq] at h
    exact (List.mem_filter.mp h).2
  · intro h
    refine List.filter_congr fun p hmem => ?_
    rw [Bool.eq_iff_iff]
    exact ⟨h p hmem, fun undated => supports_iff_unknown.mpr (.inl undated)⟩

end Publication

namespace Finding

/-- A verdict tells a list of versions from any part of it, unless the part has the installed
version. -/
theorem verdict_eq_iff_of_sublist (e : Extension) (confidence : Confidence)
    {part whole : List Publication} (h : part.Sublist whole) :
    (Finding.mk whole confidence).verdict e = (Finding.mk part confidence).verdict e ↔
      whole = part ∨ ∃ p ∈ part, e.installed = some p.id := by
  constructor
  · intro heq
    by_cases hinstalled : ((Finding.mk part confidence).verdict e).standing = .upToDate
    · exact .inr (standing_eq_upToDate_iff.mp hinstalled)
    · have hlength := length_candidates hinstalled
      rw [← heq] at hinstalled hlength
      rw [length_candidates hinstalled] at hlength
      exact .inl (h.eq_of_length hlength.symm).symm
  · rintro (rfl | ⟨p, hmem, hp⟩)
    · rfl
    · have hpart : (Finding.mk part confidence).verdict e = .bare .upToDate confidence :=
        verdict_of_installed ⟨p, hmem, hp⟩
      have hwhole : (Finding.mk whole confidence).verdict e = .bare .upToDate confidence :=
        verdict_of_installed ⟨p, h.subset hmem, hp⟩
      rw [hwhole, hpart]

end Finding

namespace Extension

/-- Whether the verdict on an extension is decided by release dates: no version lists the target,
some version supports it by date, and the installed version does not support it without dates. -/
def Swayed (registry : Registry) (dates : ReleaseDates) (loader : Loader) (target : String)
    (e : Extension) : Prop :=
  registry.publications (.exact e.project loader.tag target) = .ok [] ∧
    ∃ all, registry.publications (.broad e.project loader.tag) = .ok all ∧
      (∃ p ∈ all, p.SupportsByDate dates target) ∧
      ¬ ∃ p ∈ all, p.supports .unknown target = true ∧ e.installed = some p.id

variable {registry : Registry} {dates : ReleaseDates} {loader : Loader} {target : String}
  {e : Extension}

theorem verdict_eq_unknown_iff :
    e.verdict registry dates loader target = e.verdict registry .unknown loader target ↔
      ¬ e.Swayed registry dates loader target := by
  unfold verdict lookup Swayed
  rw [Lookup.found_run, Lookup.found_run]
  cases registry.publications (.exact e.project loader.tag target) with
  | error error => simp [bind, Except.bind]
  | ok listed =>
    cases listed with
    | cons first rest => simp [bind, Except.bind, pure, Except.pure]
    | nil =>
      cases registry.publications (.broad e.project loader.tag) with
      | error error => simp [bind, Except.bind]
      | ok all =>
        simp only [bind, Except.bind, pure, Except.pure, if_true, true_and]
        rw [Finding.verdict_eq_iff_of_sublist e .degraded
          (Publication.sublist_supports dates target all), Publication.filter_supports_eq_iff]
        simp only [List.mem_filter, and_assoc, Except.ok.injEq, exists_eq_left']
        rw [Classical.not_and_iff_not_or_not, Classical.not_not, not_exists]
        simp only [not_and]

end Extension

namespace Verdicts

variable {registry : Registry} {dates : ReleaseDates} {loader : Loader} {target : String}
  {extensions : List Extension}

/-- The verdict on an extension that is heard is the same without dates exactly if dates do not
decide it. -/
theorem get?_resolve_eq_unknown_iff {e : Extension} (last : e.IsLast extensions) :
    (resolve registry dates loader target extensions).get? e.id =
      (resolve registry .unknown loader target extensions).get? e.id ↔
      ¬ e.Swayed registry dates loader target := by
  rw [get?_resolve_eq_some_iff.mpr ⟨e, last, rfl, rfl⟩,
    get?_resolve_eq_some_iff.mpr ⟨e, last, rfl, rfl⟩, Option.some_inj,
    Extension.verdict_eq_unknown_iff]

theorem resolve_eq_unknown_iff :
    resolve registry dates loader target extensions =
      resolve registry .unknown loader target extensions ↔
      ∀ e : Extension, e.IsLast extensions → ¬ e.Swayed registry dates loader target := by
  constructor
  · intro heq e last
    rw [← get?_resolve_eq_unknown_iff last, heq]
  · intro unswayed
    refine Index.ext_get? fun key => ?_
    rw [get?_resolve, get?_resolve]
    cases hfind : extensions.reverse.find? fun e => e.id = key with
    | none => rfl
    | some e =>
      obtain ⟨last, -⟩ := Extension.find?_reverse_eq_some_iff.mp hfind
      exact congrArg some (Extension.verdict_eq_unknown_iff.mpr (unswayed e last))

end Verdicts

theorem Plan.verdicts_of_make {registry : Registry} {loader : Loader} {current target : String}
    {extensions : List Extension} {plan : Plan}
    (made : make registry loader current target extensions = .ok plan) :
    plan.verdicts = Verdicts.resolve registry registry.catalog.dates loader target extensions := by
  simp only [make] at made
  split at made
  next => cases made
  next =>
    obtain rfl := Except.ok.inj made
    rfl

/-- The verdicts of a plan are those of a plain resolution exactly if release dates decide none
of them. Dates add support only, to versions that list another game version of the date of the
target. -/
theorem plan_verdicts_eq_resolve_iff (registry : Registry) (loader : Loader)
    (current target : String) (extensions : List Extension) (plan : Plan)
    (made : Plan.make registry loader current target extensions = .ok plan) :
    (plan.verdicts = Verdicts.resolve registry .unknown loader target extensions ↔
      ∀ e : Extension, e.IsLast extensions →
        ¬ e.Swayed registry registry.catalog.dates loader target) ∧
    (∀ e : Extension, e.IsLast extensions →
      (plan.verdicts.get? e.id =
          (Verdicts.resolve registry .unknown loader target extensions).get? e.id ↔
        ¬ e.Swayed registry registry.catalog.dates loader target)) ∧
    ∀ p : Publication, p.supports registry.catalog.dates target = true ↔
      p.supports .unknown target = true ∨
        ∃ supported ∈ p.gameVersions,
          GameVersion.SharesDate registry.catalog.dates supported target := by
  rw [Plan.verdicts_of_make made]
  exact ⟨Verdicts.resolve_eq_unknown_iff, fun e => Verdicts.get?_resolve_eq_unknown_iff,
    fun p => Publication.supports_iff_unknown⟩

namespace Sample

/-- A catalog in which a weekly snapshot and a release have one date. -/
def releases : List Release := [⟨"23w45a", noon⟩, ⟨"1.20.4", noon⟩]

end Sample

/-- No date decides the verdict on an extension whose project lists the target. -/
theorem plan_verdicts_eq_resolve_iff_sample :
    ∃ plan, Plan.make (Sample.registry "23w45a" Sample.releases) .fabric "1.20.4" "23w45a"
        [Sample.kept "x"] = .ok plan ∧
      plan.verdicts = Verdicts.resolve (Sample.registry "23w45a" Sample.releases) .unknown .fabric
        "23w45a" [Sample.kept "x"] := by
  obtain ⟨plan, made⟩ : ∃ plan, Plan.make (Sample.registry "23w45a" Sample.releases) .fabric
    "1.20.4" "23w45a" [Sample.kept "x"] = .ok plan := ⟨_, rfl⟩
  obtain ⟨whole, -, -⟩ := plan_verdicts_eq_resolve_iff _ _ _ _ _ plan made
  refine ⟨plan, made, whole.mpr ?_⟩
  rintro e last ⟨listed, -⟩
  obtain rfl := List.mem_singleton.mp last.mem
  cases Except.ok.inj listed

/-- A weekly snapshot and a release of one date: a plan finds an update for the snapshot, and a
plain resolution finds nothing. -/
theorem not_always_plan_verdicts_eq_resolve :
    ¬ ∀ (registry : Registry) (loader : Loader) (current target : String)
      (extensions : List Extension) (plan : Plan),
      Plan.make registry loader current target extensions = .ok plan →
        plan.verdicts = Verdicts.resolve registry .unknown loader target extensions := by
  intro agree
  obtain ⟨plan, made⟩ : ∃ plan, Plan.make (Sample.registry "1.20.4" Sample.releases) .fabric
    "23w45a" "23w45a" [Sample.kept "x"] = .ok plan := ⟨_, rfl⟩
  have same := agree _ _ _ _ _ _ made
  rw [Plan.verdicts_of_make made] at same
  revert same
  decide

end Flotilla
