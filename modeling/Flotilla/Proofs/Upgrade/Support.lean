import Flotilla.Proofs.GameVersion.Comparing
import Flotilla.Proofs.Upgrade.Gate

/-!
# What supports a target

A version of a project suits a loader and a target if it carries the tag of the loader and lists
some game version that equals the target. A look-up does not ask for that: it takes the versions
that list the text of the target, and orders game versions only if there are none. At a registry
that answers from a fixed list both ways come to the same. A version that lists the target suits
it, because every text equals itself, so nothing suits the target if nothing is found, and what
is found first is the part of the suitable versions that lists the target.
-/

namespace Flotilla

namespace Publication

/-- Whether a version is for a loader and lists the target itself. -/
def Names (loader : Loader) (target : String) (p : Publication) : Prop :=
  loader.tag ∈ p.loaders ∧ target ∈ p.gameVersions

/-- Whether a version is for a loader and lists a game version that equals the target. -/
def Suits (dates : ReleaseDates) (loader : Loader) (target : String) (p : Publication) : Prop :=
  loader.tag ∈ p.loaders ∧
    ∃ supported ∈ p.gameVersions, GameVersion.compare dates supported target = some .eq

instance (loader : Loader) (target : String) (p : Publication) :
    Decidable (p.Names loader target) :=
  inferInstanceAs (Decidable (_ ∧ _))

instance (dates : ReleaseDates) (loader : Loader) (target : String) (p : Publication) :
    Decidable (p.Suits dates loader target) :=
  inferInstanceAs (Decidable (_ ∧ _))

/-- The suitable versions of a list. -/
def suited (dates : ReleaseDates) (loader : Loader) (target : String)
    (publications : List Publication) : List Publication :=
  publications.filter fun p => p.Suits dates loader target

variable {dates : ReleaseDates} {loader : Loader} {target : String} {p : Publication}
  {publications : List Publication}

theorem supports_iff : p.supports dates target = true ↔
    ∃ supported ∈ p.gameVersions, GameVersion.compare dates supported target = some .eq := by
  simp [supports]

theorem answers_exact_iff (project : String) :
    p.answers (.exact project loader.tag target) = true ↔ p.Names loader target := by
  simp [answers, Query.exact, Names]

theorem answers_broad_iff (project : String) :
    p.answers (.broad project loader.tag) = true ↔ loader.tag ∈ p.loaders := by
  simp [answers, Query.broad]

/-- A version that lists the target suits it, whatever the dates are. -/
theorem Names.suits (h : p.Names loader target) : p.Suits dates loader target :=
  ⟨h.1, target, h.2, GameVersion.compare_self dates target⟩

theorem filter_names_ne_nil_iff : (publications.filter fun p => p.Names loader target) ≠ [] ↔
    ∃ p ∈ publications, p.Names loader target := by
  simp

/-- Of the suitable versions those that list the target are all that do for the loader. -/
theorem filter_suited (dates : ReleaseDates) :
    (suited dates loader target publications).filter (fun p => target ∈ p.gameVersions) =
      publications.filter fun p => p.Names loader target := by
  unfold suited
  rw [List.filter_filter]
  refine List.filter_congr fun p _ => ?_
  have hnames : (target ∈ p.gameVersions ∧ p.Suits dates loader target) ↔ p.Names loader target := by
    constructor
    · rintro ⟨hlisted, htag, -⟩
      exact ⟨htag, hlisted⟩
    · intro h
      exact ⟨h.2, h.suits⟩
  simp [← hnames]

end Publication

namespace Registry

/-- Whether a registry answers about a project by filtering a fixed list of its versions. -/
def Stocks (registry : Registry) (project : String) (publications : List Publication) : Prop :=
  ∀ q : Query, q.project = project →
    registry.publications q = .ok (publications.filter fun p => p.answers q)

theorem stocks_ofShelves {shelves : String → Option Shelf}
    {releases : Except RegistryError (List Release)} {project : String}
    {publications : List Publication} (h : shelves project = some (.stock publications)) :
    (ofShelves shelves releases).Stocks project publications := by
  rintro q rfl
  simp [ofShelves, h, Shelf.answer]

end Registry

namespace Extension

variable {registry : Registry} {dates : ReleaseDates} {loader : Loader} {target : String}
  {e : Extension} {publications : List Publication}

/-- From a fixed list a look-up finds what names the target, or else all that suits it. -/
theorem found_of_stocks (stocks : registry.Stocks e.project publications) :
    (e.lookup registry dates loader target).found = .ok
      (if (publications.filter fun p => p.Names loader target) = [] then
        ⟨Publication.suited dates loader target publications, .degraded⟩
      else ⟨publications.filter fun p => p.Names loader target, .exact⟩) := by
  have hexact : registry.publications (.exact e.project loader.tag target) =
      .ok (publications.filter fun p => p.Names loader target) := by
    rw [stocks (.exact e.project loader.tag target) rfl]
    simp only [← Publication.answers_exact_iff e.project, Bool.decide_eq_true]
  have hbroad : registry.publications (.broad e.project loader.tag) =
      .ok (publications.filter fun p => loader.tag ∈ p.loaders) := by
    rw [stocks (.broad e.project loader.tag) rfl]
    simp only [← Publication.answers_broad_iff e.project, Bool.decide_eq_true]
  have hsuited : (publications.filter fun p => loader.tag ∈ p.loaders).filter
      (fun p => p.supports dates target) = Publication.suited dates loader target publications := by
    rw [List.filter_filter]
    refine List.filter_congr fun p _ => ?_
    rw [Bool.eq_iff_iff, Bool.and_eq_true, Publication.supports_iff, decide_eq_true_iff,
      decide_eq_true_iff]
    exact And.comm
  rw [lookup, Lookup.found_run, hexact, hbroad]
  simp only [bind, Except.bind, pure, Except.pure, hsuited]
  split
  next => rfl
  next => rfl

end Extension

/-- At a registry that answers about a project from a fixed list, the verdict on an extension of
the project agrees with the plain definition of support. -/
theorem verdict_agrees_with_support (registry : Registry) (dates : ReleaseDates) (loader : Loader)
    (target : String) (e : Extension) (publications : List Publication)
    (stocks : registry.Stocks e.project publications) :
    let suited := Publication.suited dates loader target publications
    let verdict := e.verdict registry dates loader target
    ∃ finding, (e.lookup registry dates loader target).found = .ok finding ∧
      (verdict.standing = .noCompatibleVersions ↔ suited = []) ∧
      (verdict.confidence = .exact ↔
        ∃ p ∈ publications, loader.tag ∈ p.loaders ∧ target ∈ p.gameVersions) ∧
      (verdict.confidence = .exact →
        finding.publications = suited.filter fun p => target ∈ p.gameVersions) ∧
      (verdict.confidence = .degraded → finding.publications = suited) ∧
      (verdict.standing = .upToDate ↔ ∃ p ∈ finding.publications, e.installed = some p.id) := by
  intro suited verdict
  obtain ⟨finding, hfound⟩ : ∃ finding,
      (e.lookup registry dates loader target).found = .ok finding := ⟨_, e.found_of_stocks stocks⟩
  have hverdict : verdict = finding.verdict e := Extension.verdict_of_found hfound
  refine ⟨finding, hfound, ?_⟩
  rw [hverdict, Finding.standing_eq_noCompatibleVersions_iff, Finding.confidence_verdict,
    Finding.standing_eq_upToDate_iff]
  rw [e.found_of_stocks stocks] at hfound
  obtain rfl := Except.ok.inj hfound
  split
  next h =>
    have unnamed : ¬ ∃ p ∈ publications, p.Names loader target :=
      fun named => Publication.filter_names_ne_nil_iff.mpr named h
    refine ⟨Iff.rfl, ?_, ?_, fun _ => rfl, Iff.rfl⟩
    · simpa [Publication.Names] using unnamed
    · intro exact
      cases exact
  next h =>
    have named := Publication.filter_names_ne_nil_iff.mp h
    refine ⟨?_, ?_, fun _ => (Publication.filter_suited dates).symm, ?_, Iff.rfl⟩
    · -- what names the target is among what suits it
      have hsuited : suited ≠ [] := by
        intro none
        apply h
        rw [← Publication.filter_suited dates]
        exact congrArg _ none
      simp [h, hsuited]
    · simpa [Publication.Names] using named
    · intro degraded
      cases degraded

/-- A version for 1.21 is found for 1.21.0 by the order of versions. -/
theorem verdict_agrees_with_support_sample :
    (Sample.registry "1.21" []).Stocks "kept" [Sample.edition "k" "1.21"] ∧
    ((Sample.kept "x").verdict (Sample.registry "1.21" []) .unknown .fabric "1.21.0").standing ≠
      .noCompatibleVersions ∧
    ((Sample.kept "x").verdict (Sample.registry "1.21" []) .unknown .fabric "1.21.0").confidence ≠
      .exact := by
  have stocks : (Sample.registry "1.21" []).Stocks "kept" [Sample.edition "k" "1.21"] :=
    Registry.stocks_ofShelves rfl
  obtain ⟨-, -, standing, confidence, -⟩ := verdict_agrees_with_support (Sample.registry "1.21" [])
    .unknown .fabric "1.21.0" (Sample.kept "x") _ stocks
  refine ⟨stocks, ?_, ?_⟩
  · rw [Ne, standing]
    decide
  · rw [Ne, confidence]
    decide

end Flotilla
