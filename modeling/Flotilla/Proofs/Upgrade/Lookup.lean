import Flotilla.Verdict

/-!
# What a look-up comes to

A look-up is one equation: the versions that list the target, or else those that support a game
version equal to it. What was found decides the verdict on an extension, in one of three ways.
-/

namespace Flotilla

/-- What a look-up finds: the versions that list the target, if there are any, and otherwise those
versions of the loader that support a game version equal to it. -/
theorem Lookup.found_run (registry : Registry) (dates : ReleaseDates) (loader : Loader)
    (target project : String) :
    (run registry dates loader target project).found = do
      let listed ← registry.publications (.exact project loader.tag target)
      if listed = [] then
        let all ← registry.publications (.broad project loader.tag)
        return ⟨all.filter fun p => p.supports dates target, .degraded⟩
      else return ⟨listed, .exact⟩ := by
  simp only [run]
  cases registry.publications (.exact project loader.tag target) with
  | error error => rfl
  | ok listed =>
    cases listed with
    | cons first rest => rfl
    | nil =>
      cases registry.publications (.broad project loader.tag) with
      | error error => rfl
      | ok all => rfl

namespace Finding

variable {finding : Finding} {e : Extension}

/-- The three verdicts on an extension: nothing was found, its own version was, or others were. -/
theorem verdict_cases (finding : Finding) (e : Extension) :
    (finding.publications = [] ∧
      finding.verdict e = .bare .noCompatibleVersions finding.confidence) ∨
    ((∃ p ∈ finding.publications, e.installed = some p.id) ∧
      finding.verdict e = .bare .upToDate finding.confidence) ∨
    (finding.publications ≠ [] ∧ (¬ ∃ p ∈ finding.publications, e.installed = some p.id) ∧
      finding.verdict e =
        let sorted := Publication.newestFirst finding.publications
        ⟨.updateAvailable, sorted.map fun p => p.id, sorted.map fun p => p.gameVersions,
          finding.confidence, none⟩) := by
  have hinstalled : (finding.publications.any fun p => some p.id = e.installed) = true ↔
      ∃ p ∈ finding.publications, e.installed = some p.id := by
    simp [eq_comm (a := e.installed)]
  by_cases hempty : finding.publications = []
  · exact .inl ⟨hempty, by simp [verdict, hempty]⟩
  · by_cases h : ∃ p ∈ finding.publications, e.installed = some p.id
    · exact .inr (.inl ⟨h, by simp only [verdict, List.isEmpty_iff, hempty, hinstalled, h, if_true,
        if_false]⟩)
    · exact .inr (.inr ⟨hempty, h, by simp only [verdict, List.isEmpty_iff, hempty, hinstalled, h,
        if_false]⟩)

@[simp] theorem confidence_verdict : (finding.verdict e).confidence = finding.confidence := by
  obtain ⟨-, h⟩ | ⟨-, h⟩ | ⟨-, -, h⟩ := verdict_cases finding e <;> rw [h] <;> rfl

theorem standing_eq_noCompatibleVersions_iff :
    (finding.verdict e).standing = .noCompatibleVersions ↔ finding.publications = [] := by
  obtain ⟨hempty, h⟩ | ⟨⟨p, hmem, -⟩, h⟩ | ⟨hne, -, h⟩ := verdict_cases finding e
  · simp [h, hempty, Verdict.bare]
  · simp [h, List.ne_nil_of_mem hmem, Verdict.bare]
  · simp [h, hne]

theorem standing_eq_upToDate_iff : (finding.verdict e).standing = .upToDate ↔
    ∃ p ∈ finding.publications, e.installed = some p.id := by
  obtain ⟨hempty, h⟩ | ⟨hinstalled, h⟩ | ⟨-, hother, h⟩ := verdict_cases finding e
  · simp [h, hempty, Verdict.bare]
  · exact iff_of_true (by rw [h]; rfl) hinstalled
  · exact iff_of_false (by simp [h]) hother

theorem verdict_of_installed (h : ∃ p ∈ finding.publications, e.installed = some p.id) :
    finding.verdict e = .bare .upToDate finding.confidence := by
  obtain ⟨hempty, -⟩ | ⟨-, hverdict⟩ | ⟨-, hother, -⟩ := verdict_cases finding e
  · obtain ⟨p, hmem, -⟩ := h
    exact absurd hempty (List.ne_nil_of_mem hmem)
  · exact hverdict
  · exact absurd h hother

/-- As many candidates as versions, if none of them is installed. -/
theorem length_candidates (h : (finding.verdict e).standing ≠ .upToDate) :
    (finding.verdict e).candidates.length = finding.publications.length := by
  obtain ⟨hempty, hverdict⟩ | ⟨hinstalled, -⟩ | ⟨-, -, hverdict⟩ := verdict_cases finding e
  · simp [hverdict, hempty, Verdict.bare]
  · exact absurd (standing_eq_upToDate_iff.mpr hinstalled) h
  · simp [hverdict, Publication.newestFirst]

end Finding

namespace Extension

variable {registry : Registry} {dates : ReleaseDates} {loader : Loader} {target : String}
  {e : Extension}

theorem verdict_of_found {finding : Finding}
    (h : (e.lookup registry dates loader target).found = .ok finding) :
    e.verdict registry dates loader target = finding.verdict e := by
  simp [verdict, h]

theorem verdict_of_error {error : RegistryError}
    (failed : registry.publications (.exact e.project loader.tag target) = .error error) :
    e.verdict registry dates loader target = .failed error := by
  have hfound : (e.lookup registry dates loader target).found = .error error := by
    rw [lookup, Lookup.found_run, failed]
    rfl
  simp [verdict, hfound]

end Extension

end Flotilla
