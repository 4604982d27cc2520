import Flotilla.Proofs.Upgrade.Gate

/-!
# Verdicts on their own

If no key occurs twice, a list of extensions is nothing but its members: each verdict is the one
that the extension gets alone, whatever stands before or after it. What couples two extensions is
their project. Both make the same queries then, and if these fail, both fail.
-/

namespace Flotilla

namespace Registry

/-- The registry after a project has become unavailable: every query about it fails. -/
def failing (registry : Registry) (project : String) (error : RegistryError) : Registry :=
  { registry with
    publications := fun q => if q.project = project then .error error else registry.publications q }

/-- Whether two registries differ in nothing but what they answer about one project. -/
def AgreeBeyond (project : String) (registry changed : Registry) : Prop :=
  ∀ q : Query, q.project ≠ project → changed.publications q = registry.publications q

theorem agreeBeyond_failing (registry : Registry) (project : String) (error : RegistryError) :
    AgreeBeyond project registry (registry.failing project error) := by
  intro q hother
  simp [failing, hother]

end Registry

namespace Extension

/-- Only what is answered about its own project decides the verdict on an extension. -/
theorem verdict_congr {registry changed : Registry} {dates : ReleaseDates} {loader : Loader}
    {target : String} {e : Extension}
    (agree : ∀ q : Query, q.project = e.project →
      changed.publications q = registry.publications q) :
    e.verdict changed dates loader target = e.verdict registry dates loader target := by
  have hexact := agree (.exact e.project loader.tag target) rfl
  have hbroad := agree (.broad e.project loader.tag) rfl
  simp only [verdict, lookup, Lookup.found_run, hexact, hbroad]

end Extension

namespace Verdicts

variable {registry : Registry} {dates : ReleaseDates} {loader : Loader} {target key : String}
  {extensions permuted before after : List Extension} {e : Extension} {verdict : Verdict}

/-- The keys of the verdicts are those of the extensions. -/
theorem mem_keys_resolve : key ∈ (resolve registry dates loader target extensions).keys ↔
    key ∈ extensions.map fun e => e.id := by
  rw [Index.mem_keys, get?_resolve]
  simp

theorem keys_resolve_perm (distinct : (extensions.map fun e => e.id).Nodup) :
    (resolve registry dates loader target extensions).keys.Perm
      (extensions.map fun e => e.id) := by
  apply (List.perm_ext_iff_of_nodup (Index.nodup_keys _) distinct).mpr
  intro key
  exact mem_keys_resolve

/-- Under different keys every extension has its own verdict. -/
theorem get?_resolve_iff_of_nodup (distinct : (extensions.map fun e => e.id).Nodup) :
    (resolve registry dates loader target extensions).get? key = some verdict ↔
      ∃ e ∈ extensions, e.id = key ∧ e.verdict registry dates loader target = verdict := by
  rw [get?_resolve_eq_some_iff]
  constructor
  · rintro ⟨e, hlast, held⟩
    exact ⟨e, hlast.mem, held⟩
  · rintro ⟨e, hmem, held⟩
    exact ⟨e, Extension.isLast_of_nodup distinct hmem, held⟩

theorem get?_resolve_of_mem (distinct : (extensions.map fun e => e.id).Nodup)
    (h : e ∈ extensions) : (resolve registry dates loader target extensions).get? e.id =
      some (e.verdict registry dates loader target) :=
  (get?_resolve_iff_of_nodup distinct).mpr ⟨e, h, rfl, rfl⟩

theorem resolve_perm (distinct : (extensions.map fun e => e.id).Nodup)
    (perm : permuted.Perm extensions) : resolve registry dates loader target permuted =
      resolve registry dates loader target extensions := by
  have distinct' : (permuted.map fun e => e.id).Nodup := (perm.map _).nodup_iff.mpr distinct
  apply Index.ext_get?
  intro key
  apply Option.ext
  intro verdict
  simp only [get?_resolve_iff_of_nodup distinct, get?_resolve_iff_of_nodup distinct',
    perm.mem_iff]

/-- One extension more or less changes nothing under the other keys. -/
theorem get?_resolve_cons_of_ne (ne : key ≠ e.id) :
    (resolve registry dates loader target (before ++ e :: after)).get? key =
      (resolve registry dates loader target (before ++ after)).get? key := by
  simp [get?_resolve, List.find?_append, ne.symm]

end Verdicts

/-- Under different keys the verdicts are independent of each other. There is one for each key of
the list, the one that the extension gets alone; the order of the list does not matter, neither for
the verdicts nor for the gate; and no extension that is added or removed changes the verdict on
another one. Neither does a change of the answers about its project, unless the other one is of the
same project: that one makes the same queries, and gets the same failure. -/
theorem verdicts_independent (registry : Registry) (dates : ReleaseDates) (loader : Loader)
    (target : String) (extensions : List Extension)
    (distinct : (extensions.map fun e => e.id).Nodup) :
    let resolve (registry : Registry) := Verdicts.resolve registry dates loader target
    ((resolve registry extensions).keys.Perm (extensions.map fun e => e.id)) ∧
    (∀ e ∈ extensions, ∃ verdict, (resolve registry extensions).get? e.id = some verdict ∧
      (resolve registry [e]).get? e.id = some verdict) ∧
    (∀ permuted : List Extension, permuted.Perm extensions →
      resolve registry permuted = resolve registry extensions ∧
      Gate.ofVerdicts (resolve registry permuted) =
        Gate.ofVerdicts (resolve registry extensions)) ∧
    (∀ (before after : List Extension) (e : Extension), extensions = before ++ e :: after →
      ∀ other ∈ before ++ after, (resolve registry extensions).get? other.id =
        (resolve registry (before ++ after)).get? other.id) ∧
    ∀ (project : String) (changed : Registry), Registry.AgreeBeyond project registry changed →
      ∀ other ∈ extensions,
        (other.project ≠ project → (resolve changed extensions).get? other.id =
          (resolve registry extensions).get? other.id) ∧
        ∀ error, changed.publications (.exact project loader.tag target) = .error error →
          other.project = project →
            (resolve changed extensions).get? other.id = some (.failed error) := by
  intro resolve
  refine ⟨Verdicts.keys_resolve_perm distinct, ?_, ?_, ?_, ?_⟩
  · intro e hmem
    exact ⟨_, Verdicts.get?_resolve_of_mem distinct hmem, Verdicts.get?_resolve_singleton e⟩
  · intro permuted perm
    have same : resolve registry permuted = resolve registry extensions :=
      Verdicts.resolve_perm distinct perm
    exact ⟨same, congrArg Gate.ofVerdicts same⟩
  · rintro before after e rfl other hother
    exact Verdicts.get?_resolve_cons_of_ne (Extension.id_ne_of_nodup distinct hother)
  · intro project changed agree other hmem
    have hchanged : (resolve changed extensions).get? other.id =
        some (other.verdict changed dates loader target) :=
      Verdicts.get?_resolve_of_mem distinct hmem
    constructor
    · intro hother
      have same : other.verdict changed dates loader target =
          other.verdict registry dates loader target :=
        Extension.verdict_congr fun q hq => agree q (hq ▸ hother)
      rw [hchanged, same]
      exact (Verdicts.get?_resolve_of_mem distinct hmem).symm
    · rintro error failed rfl
      rw [hchanged, Extension.verdict_of_error failed]

/-- A project becomes unavailable. The extension of another project keeps its verdict, the one of
that project gets the failure. -/
theorem verdicts_independent_sample :
    ([Sample.gone "a", Sample.kept "b"].map fun e => e.id).Nodup ∧
    (Verdicts.resolve ((Sample.registry "1.21.8" []).failing "gone" (.unavailable "503")) .unknown
        .fabric "1.21.8" [Sample.gone "a", Sample.kept "b"]).get? "b" =
      (Verdicts.resolve (Sample.registry "1.21.8" []) .unknown .fabric "1.21.8"
        [Sample.gone "a", Sample.kept "b"]).get? "b" ∧
    (Verdicts.resolve ((Sample.registry "1.21.8" []).failing "gone" (.unavailable "503")) .unknown
      .fabric "1.21.8" [Sample.gone "a", Sample.kept "b"]).get? "a" =
        some (.failed (.unavailable "503")) := by
  have distinct : ([Sample.gone "a", Sample.kept "b"].map fun e => e.id).Nodup := by decide
  obtain ⟨-, -, -, -, changes⟩ := verdicts_independent (Sample.registry "1.21.8" []) .unknown
    .fabric "1.21.8" [Sample.gone "a", Sample.kept "b"] distinct
  have changed := changes "gone" _ (Registry.agreeBeyond_failing _ "gone" (.unavailable "503"))
  have kept := (changed (Sample.kept "b") (by simp)).1 (by decide)
  have failed := (changed (Sample.gone "a") (by simp)).2 (.unavailable "503") rfl rfl
  exact ⟨distinct, kept, failed⟩

/-- Two extensions of one project: when it becomes unavailable, both verdicts change. -/
theorem not_always_isolated :
    ¬ ∀ (registry : Registry) (dates : ReleaseDates) (loader : Loader) (target : String)
      (extensions : List Extension), (extensions.map fun e => e.id).Nodup →
      ∀ e ∈ extensions, ∀ (error : RegistryError), ∀ other ∈ extensions, other.id ≠ e.id →
        (Verdicts.resolve (registry.failing e.project error) dates loader target
            extensions).get? other.id =
          (Verdicts.resolve registry dates loader target extensions).get? other.id := by
  intro isolated
  have distinct : ([Sample.kept "a", Sample.kept "b"].map fun e => e.id).Nodup := by decide
  have same := isolated (Sample.registry "1.21.8" []) .unknown .fabric "1.21.8"
    [Sample.kept "a", Sample.kept "b"] distinct (Sample.kept "a") (by simp) (.unavailable "503")
    (Sample.kept "b") (by simp) (by decide)
  have failed : (Sample.kept "b").verdict
      ((Sample.registry "1.21.8" []).failing "kept" (.unavailable "503")) .unknown .fabric
      "1.21.8" = .failed (.unavailable "503") := Extension.verdict_of_error rfl
  have found : ((Sample.kept "b").verdict (Sample.registry "1.21.8" []) .unknown .fabric
      "1.21.8").standing = .updateAvailable := by decide
  rw [Verdicts.get?_resolve_of_mem distinct (by simp),
    Verdicts.get?_resolve_of_mem distinct (by simp), Option.some_inj] at same
  have standing := congrArg Verdict.standing (failed.symm.trans same)
  rw [found] at standing
  exact absurd standing (by decide)

end Flotilla
