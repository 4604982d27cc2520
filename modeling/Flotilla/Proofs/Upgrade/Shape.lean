import Flotilla.Proofs.GameVersion.Preorder
import Flotilla.Proofs.Upgrade.Gate

/-!
# The shape of a verdict

A verdict is made of the versions that were considered: those that list the target, or else those
that support it by the order of versions. It names candidates only if there is something to update
to, and then it names all versions considered, newest first, each with its game versions; the
installed version is not among them. It tells of a failure exactly if a query failed that was made
for the extension, and then in the words of that failure.
-/

namespace Flotilla

namespace Publication

/-- Whether versions are arranged by descending date, those of one date in the order that they had
before. -/
structure IsNewestFirst (order publications : List Publication) : Prop where
  perm : order.Perm publications
  descending : order.Pairwise fun a b => (a.published.compare b.published).isGE = true
  ties : ∀ date : Instant, (order.filter fun p => p.published = date) =
    publications.filter fun p => p.published = date

theorem newer_trans (a b c : Publication) (first : (a.published.compare b.published).isGE = true)
    (second : (b.published.compare c.published).isGE = true) :
    (a.published.compare c.published).isGE = true :=
  Std.TransCmp.isGE_trans first second

theorem newer_total (a b : Publication) :
    ((a.published.compare b.published).isGE || (b.published.compare a.published).isGE) = true := by
  have hswap : b.published.compare a.published = (a.published.compare b.published).swap :=
    Std.OrientedCmp.eq_swap
  rw [hswap]
  cases a.published.compare b.published <;> rfl

theorem isNewestFirst_newestFirst (publications : List Publication) :
    IsNewestFirst (newestFirst publications) publications := by
  have perm : (newestFirst publications).Perm publications := List.mergeSort_perm _ _
  refine ⟨perm, List.pairwise_mergeSort newer_trans newer_total _, ?_⟩
  intro date
  -- versions of one date are in order already, so the sorting keeps them as they are
  have level : (publications.filter fun p => p.published = date).Pairwise
      fun a b => (a.published.compare b.published).isGE = true := by
    refine List.pairwise_filter.mpr (List.pairwise_of_forall ?_)
    intro a b ha hb
    have hself : date.compare date = .eq := Instant.compare_eq_eq_iff.mpr rfl
    rw [of_decide_eq_true ha, of_decide_eq_true hb, hself]
    rfl
  have kept : (publications.filter fun p => p.published = date).Sublist
      (newestFirst publications) :=
    List.sublist_mergeSort newer_trans newer_total level List.filter_sublist
  have hfilter := kept.filter fun p => decide (p.published = date)
  rw [List.filter_filter] at hfilter
  simp only [Bool.and_self] at hfilter
  exact (hfilter.eq_of_length (perm.filter _).length_eq.symm).symm

end Publication

/-- The ways in which a look-up goes: the queries that it makes, and what it finds. -/
inductive Lookup.Goes (registry : Registry) (dates : ReleaseDates) (loader : Loader)
    (target project : String) : Lookup → Prop where
  | fails {error}
      (failed : registry.publications (.exact project loader.tag target) = .error error) :
      Goes registry dates loader target project
        ⟨[.exact project loader.tag target], .error error⟩
  | lists {listed} (nonempty : listed ≠ [])
      (answered : registry.publications (.exact project loader.tag target) = .ok listed) :
      Goes registry dates loader target project
        ⟨[.exact project loader.tag target], .ok ⟨listed, .exact⟩⟩
  | broadFails {error}
      (unlisted : registry.publications (.exact project loader.tag target) = .ok [])
      (failed : registry.publications (.broad project loader.tag) = .error error) :
      Goes registry dates loader target project
        ⟨[.exact project loader.tag target, .broad project loader.tag], .error error⟩
  | orders {all}
      (unlisted : registry.publications (.exact project loader.tag target) = .ok [])
      (answered : registry.publications (.broad project loader.tag) = .ok all) :
      Goes registry dates loader target project
        ⟨[.exact project loader.tag target, .broad project loader.tag],
          .ok ⟨all.filter fun p => p.supports dates target, .degraded⟩⟩

namespace Extension

/-- Whether these are the versions that an extension is judged by: those that list the target, or
if there are none, those for the loader that support it. -/
def Considers (registry : Registry) (dates : ReleaseDates) (loader : Loader) (target : String)
    (e : Extension) (publications : List Publication) : Prop :=
  (registry.publications (.exact e.project loader.tag target) = .ok publications ∧
    publications ≠ []) ∨
  (registry.publications (.exact e.project loader.tag target) = .ok [] ∧
    ∃ all, registry.publications (.broad e.project loader.tag) = .ok all ∧
      publications = all.filter fun p => p.supports dates target)

variable {registry : Registry} {dates : ReleaseDates} {loader : Loader} {target : String}
  {e : Extension}

theorem goes_lookup (registry : Registry) (dates : ReleaseDates) (loader : Loader)
    (target : String) (e : Extension) :
    Lookup.Goes registry dates loader target e.project (e.lookup registry dates loader target) := by
  simp only [lookup, Lookup.run]
  split
  next failed => exact .fails failed
  next answered => exact .lists (List.cons_ne_nil _ _) answered
  next unlisted =>
    split
    next failed => exact .broadFails unlisted failed
    next answered => exact .orders unlisted answered

/-- Every version of the loader is asked for only after an answer without versions. -/
theorem asked_lookup (registry : Registry) (dates : ReleaseDates) (loader : Loader)
    (target : String) (e : Extension) :
    ((e.lookup registry dates loader target).asked = [.exact e.project loader.tag target] ∧
      registry.publications (.exact e.project loader.tag target) ≠ .ok []) ∨
    ((e.lookup registry dates loader target).asked =
        [.exact e.project loader.tag target, .broad e.project loader.tag] ∧
      registry.publications (.exact e.project loader.tag target) = .ok []) := by
  have goes := goes_lookup registry dates loader target e
  generalize e.lookup registry dates loader target = lookup at goes
  cases goes with
  | fails failed => exact .inl ⟨rfl, by simp [failed]⟩
  | lists nonempty answered => exact .inl ⟨rfl, by simp [answered, nonempty]⟩
  | broadFails unlisted failed => exact .inr ⟨rfl, unlisted⟩
  | orders unlisted answered => exact .inr ⟨rfl, unlisted⟩

/-- A look-up fails exactly with the failure of a query that is made for it. -/
theorem found_eq_error_iff {error : RegistryError} :
    (e.lookup registry dates loader target).found = .error error ↔
      ∃ q ∈ (e.lookup registry dates loader target).asked,
        registry.publications q = .error error := by
  have goes := goes_lookup registry dates loader target e
  generalize e.lookup registry dates loader target = lookup at goes
  cases goes with
  | fails failed => simp [failed]
  | lists nonempty answered => simp [answered]
  | broadFails unlisted failed => simp [unlisted, failed]
  | orders unlisted answered => simp [unlisted, answered]

/-- The versions that an extension is judged by are those that its look-up finds. -/
theorem considers_iff {publications : List Publication} :
    e.Considers registry dates loader target publications ↔
      ∃ confidence, (e.lookup registry dates loader target).found =
        .ok ⟨publications, confidence⟩ := by
  have goes := goes_lookup registry dates loader target e
  generalize e.lookup registry dates loader target = lookup at goes
  cases goes with
  | fails failed => simp [Considers, failed]
  | @lists listed nonempty answered =>
      constructor
      · rintro (⟨same, -⟩ | ⟨unlisted, -⟩)
        · obtain rfl := Except.ok.inj (answered.symm.trans same)
          exact ⟨_, rfl⟩
        · exact absurd (Except.ok.inj (answered.symm.trans unlisted)) nonempty
      · rintro ⟨confidence, found⟩
        cases found
        exact .inl ⟨answered, nonempty⟩
  | broadFails unlisted failed => simp [Considers, unlisted, failed]
  | orders unlisted answered => simp [Considers, unlisted, answered, eq_comm]

end Extension

namespace Finding

variable {finding : Finding} {e : Extension}

/-- A look-up that finds something never leads to an error. -/
theorem standing_verdict_ne_error : (finding.verdict e).standing ≠ .error := by
  obtain ⟨-, h⟩ | ⟨-, h⟩ | ⟨-, -, h⟩ := verdict_cases finding e <;> simp [h, Verdict.bare]

theorem failure_verdict : (finding.verdict e).failure = none := by
  obtain ⟨-, h⟩ | ⟨-, h⟩ | ⟨-, -, h⟩ := verdict_cases finding e <;> simp [h, Verdict.bare]

/-- Candidates are named only if there is something to update to. -/
theorem candidates_of_standing_ne (h : (finding.verdict e).standing ≠ .updateAvailable) :
    (finding.verdict e).candidates = [] ∧ (finding.verdict e).gameVersions = [] := by
  obtain ⟨-, hverdict⟩ | ⟨-, hverdict⟩ | ⟨-, -, hverdict⟩ := verdict_cases finding e
  · simp [hverdict, Verdict.bare]
  · simp [hverdict, Verdict.bare]
  · simp [hverdict] at h

theorem standing_eq_updateAvailable_iff : (finding.verdict e).standing = .updateAvailable ↔
    finding.publications ≠ [] ∧ ∀ p ∈ finding.publications, e.installed ≠ some p.id := by
  obtain ⟨hempty, h⟩ | ⟨⟨p, hmem, hinstalled⟩, h⟩ | ⟨hne, hother, h⟩ := verdict_cases finding e
  · simp [h, hempty, Verdict.bare]
  · have hnot : ¬ ∀ p ∈ finding.publications, e.installed ≠ some p.id :=
      fun others => others p hmem hinstalled
    simp [h, hnot, Verdict.bare]
  · simpa [h, hne] using hother

/-- The candidates are the versions found, newest first, each with its game versions. -/
theorem exists_order (h : (finding.verdict e).standing = .updateAvailable) :
    ∃ order, Publication.IsNewestFirst order finding.publications ∧
      (finding.verdict e).candidates = order.map (fun p => p.id) ∧
      (finding.verdict e).gameVersions = order.map (fun p => p.gameVersions) ∧
      ∀ id ∈ (finding.verdict e).candidates, e.installed ≠ some id := by
  obtain ⟨-, hverdict⟩ | ⟨-, hverdict⟩ | ⟨-, hother, hverdict⟩ := verdict_cases finding e
  · simp [hverdict, Verdict.bare] at h
  · simp [hverdict, Verdict.bare] at h
  · have newest := Publication.isNewestFirst_newestFirst finding.publications
    rw [hverdict]
    refine ⟨_, newest, rfl, rfl, ?_⟩
    intro id hid hinstalled
    obtain ⟨p, hp, rfl⟩ := List.mem_map.mp hid
    exact hother ⟨p, newest.perm.mem_iff.mp hp, hinstalled⟩

end Finding

namespace Extension

variable {registry : Registry} {dates : ReleaseDates} {loader : Loader} {target : String}
  {e : Extension}

/-- A query that fails decides the verdict. -/
theorem verdict_of_failed {q : Query} {error : RegistryError}
    (asked : q ∈ (e.lookup registry dates loader target).asked)
    (failed : registry.publications q = .error error) :
    e.verdict registry dates loader target = .failed error := by
  have found := found_eq_error_iff.mpr ⟨q, asked, failed⟩
  simp [verdict, found]

/-- The versions considered decide the verdict. -/
theorem verdict_of_considers {publications : List Publication}
    (considers : e.Considers registry dates loader target publications) :
    ∃ confidence, e.verdict registry dates loader target =
      Finding.verdict ⟨publications, confidence⟩ e := by
  obtain ⟨confidence, found⟩ := considers_iff.mp considers
  exact ⟨confidence, verdict_of_found found⟩

/-- A query fails, or some versions are considered. -/
theorem failed_or_considers (registry : Registry) (dates : ReleaseDates) (loader : Loader)
    (target : String) (e : Extension) :
    (∃ q ∈ (e.lookup registry dates loader target).asked, ∃ error,
        registry.publications q = .error error) ∨
      ∃ publications, e.Considers registry dates loader target publications := by
  cases found : (e.lookup registry dates loader target).found with
  | error error =>
      obtain ⟨q, asked, failed⟩ := found_eq_error_iff.mp found
      exact .inl ⟨q, asked, error, failed⟩
  | ok finding => exact .inr ⟨finding.publications, considers_iff.mpr ⟨finding.confidence, found⟩⟩

theorem standing_eq_error_iff : (e.verdict registry dates loader target).standing = .error ↔
    ∃ q ∈ (e.lookup registry dates loader target).asked, ∃ error,
      registry.publications q = .error error := by
  constructor
  · intro h
    obtain failed | ⟨publications, considers⟩ := failed_or_considers registry dates loader target e
    · exact failed
    · obtain ⟨confidence, hverdict⟩ := verdict_of_considers considers
      rw [hverdict] at h
      exact absurd h Finding.standing_verdict_ne_error
  · rintro ⟨q, asked, error, failed⟩
    rw [verdict_of_failed asked failed]
    rfl

/-- Without an error there are versions considered, and no failure is told. -/
theorem considers_of_standing_ne
    (h : (e.verdict registry dates loader target).standing ≠ .error) :
    (e.verdict registry dates loader target).failure = none ∧
      ∃ publications, e.Considers registry dates loader target publications := by
  obtain failed | ⟨publications, considers⟩ := failed_or_considers registry dates loader target e
  · exact absurd (standing_eq_error_iff.mpr failed) h
  · obtain ⟨confidence, hverdict⟩ := verdict_of_considers considers
    rw [hverdict]
    exact ⟨Finding.failure_verdict, publications, considers⟩

theorem candidates_of_standing_ne
    (h : (e.verdict registry dates loader target).standing ≠ .updateAvailable) :
    (e.verdict registry dates loader target).candidates = [] ∧
      (e.verdict registry dates loader target).gameVersions = [] := by
  obtain ⟨q, asked, error, failed⟩ | ⟨publications, considers⟩ :=
    failed_or_considers registry dates loader target e
  · rw [verdict_of_failed asked failed]
    exact ⟨rfl, rfl⟩
  · obtain ⟨confidence, hverdict⟩ := verdict_of_considers considers
    rw [hverdict] at h ⊢
    exact Finding.candidates_of_standing_ne h

end Extension

/-- One query is made for an extension, and a second one only after an answer without versions.
The verdict is an error exactly if one of them fails, and then it carries the words of that failure;
otherwise it carries none, and some versions are considered. Candidates are named exactly if there
are such versions and none of them is installed: they are the versions considered, newest first,
those of one date as the registry lists them, each with its own game versions, and the installed
version is not among them. -/
theorem verdict_shape (registry : Registry) (dates : ReleaseDates) (loader : Loader)
    (target : String) (e : Extension) :
    let exact := Query.exact e.project loader.tag target
    let broad := Query.broad e.project loader.tag
    let asked := (e.lookup registry dates loader target).asked
    let verdict := e.verdict registry dates loader target
    ((asked = [exact] ∧ registry.publications exact ≠ .ok []) ∨
      (asked = [exact, broad] ∧ registry.publications exact = .ok [])) ∧
    (verdict.standing = .error ↔ ∃ q ∈ asked, ∃ error, registry.publications q = .error error) ∧
    (∀ q ∈ asked, ∀ error, registry.publications q = .error error →
      verdict.failure = some error.message) ∧
    (verdict.standing ≠ .error → verdict.failure = none ∧
      ∃ considered, e.Considers registry dates loader target considered) ∧
    (verdict.standing ≠ .updateAvailable →
      verdict.candidates = [] ∧ verdict.gameVersions = []) ∧
    ∀ considered, e.Considers registry dates loader target considered →
      (verdict.standing = .updateAvailable ↔
        considered ≠ [] ∧ ∀ p ∈ considered, e.installed ≠ some p.id) ∧
      (verdict.standing = .updateAvailable →
        ∃ order, Publication.IsNewestFirst order considered ∧
          verdict.candidates = order.map (fun p => p.id) ∧
          verdict.gameVersions = order.map (fun p => p.gameVersions) ∧
          ∀ id ∈ verdict.candidates, e.installed ≠ some id) := by
  refine ⟨e.asked_lookup registry dates loader target, Extension.standing_eq_error_iff, ?_,
    Extension.considers_of_standing_ne, Extension.candidates_of_standing_ne, ?_⟩
  · intro q asked error failed
    rw [Extension.verdict_of_failed asked failed]
    rfl
  · intro considered considers
    obtain ⟨confidence, hverdict⟩ := Extension.verdict_of_considers considers
    rw [hverdict]
    exact ⟨Finding.standing_eq_updateAvailable_iff, Finding.exists_order⟩

namespace Sample

/-- The noon of the following day. -/
def later : Instant := { noon with day := 18263, day_ge := by decide, day_le := by decide }

/-- A project with two versions of one day and one of the next day. -/
def stock : List Publication :=
  [edition "a" "1.21.8", edition "b" "1.21.8", { edition "c" "1.21.8" with published := later }]

/-- A registry that knows the project only. -/
def stocked : Registry :=
  .ofShelves (fun project => if project = "kept" then some (.stock stock) else none) (.ok [])

end Sample

/-- All three versions are named, the one of the next day first. -/
theorem verdict_shape_sample :
    (Sample.kept "x").Considers Sample.stocked .unknown .fabric "1.21.8" Sample.stock ∧
    ((Sample.kept "x").verdict Sample.stocked .unknown .fabric "1.21.8").standing =
      .updateAvailable ∧
    ((Sample.kept "x").verdict Sample.stocked .unknown .fabric "1.21.8").candidates.Perm
      ["a", "b", "c"] := by
  have considers : (Sample.kept "x").Considers Sample.stocked .unknown .fabric "1.21.8"
      Sample.stock := .inl ⟨rfl, List.cons_ne_nil _ _⟩
  obtain ⟨-, -, -, -, -, judged⟩ :=
    verdict_shape Sample.stocked .unknown .fabric "1.21.8" (Sample.kept "x")
  obtain ⟨update, named⟩ := judged Sample.stock considers
  have standing := update.mpr ⟨List.cons_ne_nil _ _, by simp [Sample.kept]⟩
  obtain ⟨order, newest, candidates, -⟩ := named standing
  rw [candidates]
  exact ⟨considers, standing, newest.perm.map _⟩

end Flotilla
