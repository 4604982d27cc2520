import Flotilla.Proofs.GameVersion.Preorder
import Flotilla.Proofs.Upgrade.Support

/-!
# The spelling of a target

A numbered version can be spelled in several ways: 1.21 is 1.21.0, and 26.1-pre-1 is 26.1-pre1.
Which versions of an extension are found for a target depends on the spelling, as one spelling may
be listed by some version and the other by none. Whether anything is found does not, since without
release dates equal targets are equal to the same texts. So the verdicts for the two targets have
the same keys and block the same extensions, whatever candidates they name.
-/

namespace Flotilla

namespace GameVersion

variable {a t u : String}

/-- Without release dates only numbered versions compare with a numbered version. -/
theorem isNumbered_of_compare {order : Ordering} (h : compare .unknown a t = some order)
    (numbered : IsNumbered t) : IsNumbered a := by
  cases compare_eq_some_iff.mp h with
  | same same => exact same ▸ numbered
  | numbered ne left right => exact ⟨_, left⟩
  | dated ne left right weekly first second => simp [ReleaseDates.unknown] at first

/-- What equals a numbered version equals every other spelling of it. -/
theorem compare_trans_of_numbered (first : IsNumbered t) (second : IsNumbered u)
    {dates : ReleaseDates} (equal : compare dates t u = some .eq)
    (h : compare .unknown a t = some .eq) : compare .unknown a u = some .eq := by
  obtain ⟨v, hv⟩ := isNumbered_of_compare h first
  obtain ⟨w, hw⟩ := first
  obtain ⟨x, hx⟩ := second
  rw [compare_of_numbered hv hw, Option.some_inj] at h
  rw [compare_of_numbered hw hx, Option.some_inj] at equal
  rw [compare_of_numbered hv hx, Option.some_inj]
  exact Std.TransCmp.eq_trans h equal

theorem compare_eq_iff_of_numbered (first : IsNumbered t) (second : IsNumbered u)
    {dates : ReleaseDates} (equal : compare dates t u = some .eq) (a : String) :
    compare .unknown a t = some .eq ↔ compare .unknown a u = some .eq := by
  have swapped : compare dates u t = some .eq := by
    rw [compare_swap, equal]
    rfl
  exact ⟨compare_trans_of_numbered first second equal,
    compare_trans_of_numbered second first swapped⟩

end GameVersion

namespace Registry

/-- Whether a registry has one answer about a project: a fixed list, of which a query gets what
matches it, or the same failure every time. -/
def Plain (registry : Registry) (project : String) : Prop :=
  (∃ publications, registry.Stocks project publications) ∨
    ∃ error, ∀ q : Query, q.project = project → registry.publications q = .error error

theorem plain_ofShelves {shelves : String → Option Shelf}
    {releases : Except RegistryError (List Release)} {project : String}
    (h : ∀ shelf, shelves project = some shelf → ∃ publications, shelf = .stock publications) :
    (ofShelves shelves releases).Plain project := by
  cases hshelf : shelves project with
  | some shelf =>
      obtain ⟨publications, rfl⟩ := h shelf hshelf
      exact .inl ⟨publications, stocks_ofShelves hshelf⟩
  | none =>
      refine .inr ⟨.notFound project, ?_⟩
      rintro q rfl
      simp [ofShelves, hshelf]

end Registry

namespace Finding

theorem isBlocking_verdict_iff {finding : Finding} {e : Extension} :
    (finding.verdict e).isBlocking = true ↔ finding.publications = [] := by
  obtain ⟨hempty, h⟩ | ⟨⟨p, hmem, -⟩, h⟩ | ⟨hne, -, h⟩ := verdict_cases finding e
  · simp [h, hempty, Verdict.bare, Verdict.isBlocking]
  · simp [h, List.ne_nil_of_mem hmem, Verdict.bare, Verdict.isBlocking]
  · simp [h, hne, Verdict.isBlocking]

end Finding

namespace Extension

variable {registry : Registry} {loader : Loader} {target t u : String} {e : Extension}
  {dates : ReleaseDates}

/-- From a fixed list an extension is blocked exactly if nothing suits the target. -/
theorem isBlocking_verdict_of_stocks {publications : List Publication}
    (stocks : registry.Stocks e.project publications) :
    (e.verdict registry dates loader target).isBlocking = true ↔
      ∀ p ∈ publications, ¬ p.Suits dates loader target := by
  rw [verdict_of_found (found_of_stocks stocks), Finding.isBlocking_verdict_iff]
  have hsuited : Publication.suited dates loader target publications = [] ↔
      ∀ p ∈ publications, ¬ p.Suits dates loader target := by
    simp [Publication.suited]
  split
  next => exact hsuited
  next h =>
    obtain ⟨p, hmem, names⟩ := Publication.filter_names_ne_nil_iff.mp h
    exact iff_of_false h fun unsuited => unsuited p hmem names.suits

/-- Whether an extension is blocked does not depend on the spelling of the target. -/
theorem isBlocking_verdict_congr (plain : registry.Plain e.project)
    (first : GameVersion.IsNumbered t) (second : GameVersion.IsNumbered u)
    (equal : GameVersion.compare dates t u = some .eq) :
    (e.verdict registry .unknown loader t).isBlocking =
      (e.verdict registry .unknown loader u).isBlocking := by
  obtain ⟨publications, stocks⟩ | ⟨error, fails⟩ := plain
  · have hsuits (p : Publication) :
        p.Suits .unknown loader t ↔ p.Suits .unknown loader u := by
      unfold Publication.Suits
      simp only [GameVersion.compare_eq_iff_of_numbered first second equal]
    rw [Bool.eq_iff_iff, isBlocking_verdict_of_stocks stocks, isBlocking_verdict_of_stocks stocks]
    simp only [hsuits]
  · rw [verdict_of_error (fails _ rfl), verdict_of_error (fails _ rfl)]

end Extension

namespace Index

variable {κ α β : Type} [LT κ] [DecidableEq κ]

@[simp] theorem get?_mapValues (f : α → β) (m : Index κ α) (key : κ) :
    (m.mapValues f).get? key = (m.get? key).map f := by
  obtain ⟨entries, sorted⟩ := m
  unfold get? mapValues
  induction entries with
  | nil => rfl
  | cons head rest ih =>
      obtain ⟨-, hrest⟩ := List.pairwise_cons.mp sorted
      by_cases h : head.1 = key
      · simp [lookupEntry, h]
      · simpa [lookupEntry, h] using ih hrest

omit [DecidableEq κ] in
@[simp] theorem keys_mapValues (f : α → β) (m : Index κ α) : (m.mapValues f).keys = m.keys := by
  simp [keys, mapValues]

end Index

/-- The gate of a set of verdicts depends on which of them block alone. -/
theorem Gate.ofVerdicts_eq_of_mapValues {verdicts others : Verdicts}
    (h : verdicts.mapValues Verdict.isBlocking = others.mapValues Verdict.isBlocking) :
    ofVerdicts verdicts = ofVerdicts others := by
  have blocking (verdicts : Verdicts) :
      (verdicts.entries.filter fun entry => entry.2.isBlocking).map (fun entry => entry.1) =
        ((verdicts.mapValues Verdict.isBlocking).entries.filter fun entry => entry.2).map
          fun entry => entry.1 := by
    simp [Index.mapValues, List.filter_map, Function.comp_def]
  unfold ofVerdicts
  rw [blocking verdicts, blocking others, h]

/-- Two spellings of one numbered version: at a registry that answers from fixed lists, the
verdicts for the one target have the keys of those for the other, the same of them block, and the
gates are the same. -/
theorem resolve_respelled (registry : Registry) (loader : Loader) (extensions : List Extension)
    (t u : String) (dates : ReleaseDates) (plain : ∀ e ∈ extensions, registry.Plain e.project)
    (first : GameVersion.IsNumbered t) (second : GameVersion.IsNumbered u)
    (equal : GameVersion.compare dates t u = some .eq) :
    let before := Verdicts.resolve registry .unknown loader t extensions
    let after := Verdicts.resolve registry .unknown loader u extensions
    before.keys = after.keys ∧
      (∀ key, (before.get? key).map Verdict.isBlocking =
        (after.get? key).map Verdict.isBlocking) ∧
      Gate.ofVerdicts before = Gate.ofVerdicts after := by
  intro before after
  have blocking (key : String) : (before.get? key).map Verdict.isBlocking =
      (after.get? key).map Verdict.isBlocking := by
    rw [Verdicts.get?_resolve, Verdicts.get?_resolve]
    cases hlast : extensions.reverse.find? fun e => e.id = key with
    | none => rfl
    | some e =>
        obtain ⟨last, -⟩ := Extension.find?_reverse_eq_some_iff.mp hlast
        exact congrArg some
          (Extension.isBlocking_verdict_congr (plain e last.mem) first second equal)
  have same : before.mapValues Verdict.isBlocking = after.mapValues Verdict.isBlocking := by
    apply Index.ext_get?
    intro key
    rw [Index.get?_mapValues, Index.get?_mapValues, blocking]
  refine ⟨?_, blocking, Gate.ofVerdicts_eq_of_mapValues same⟩
  rw [← Index.keys_mapValues Verdict.isBlocking before, same, Index.keys_mapValues]

/-- A project lists 1.21, which the target 1.21.0 reaches by the order of versions alone; another
project is unknown. For both spellings the same extension is blocked. -/
theorem resolve_respelled_sample :
    (∀ e ∈ [Sample.kept "a", Sample.gone "b"], (Sample.registry "1.21" []).Plain e.project) ∧
    GameVersion.IsNumbered "1.21" ∧ GameVersion.IsNumbered "1.21.0" ∧
    GameVersion.compare .unknown "1.21" "1.21.0" = some .eq ∧
    Gate.ofVerdicts (Verdicts.resolve (Sample.registry "1.21" []) .unknown .fabric "1.21"
        [Sample.kept "a", Sample.gone "b"]) =
      Gate.ofVerdicts (Verdicts.resolve (Sample.registry "1.21" []) .unknown .fabric "1.21.0"
        [Sample.kept "a", Sample.gone "b"]) := by
  have plain : ∀ e ∈ [Sample.kept "a", Sample.gone "b"],
      (Sample.registry "1.21" []).Plain e.project := by
    intro e _
    apply Registry.plain_ofShelves
    intro shelf hshelf
    split at hshelf
    next =>
      obtain rfl := Option.some.inj hshelf
      exact ⟨_, rfl⟩
    next => simp at hshelf
  have first : GameVersion.IsNumbered "1.21" := ⟨_, rfl⟩
  have second : GameVersion.IsNumbered "1.21.0" := ⟨_, rfl⟩
  have equal : GameVersion.compare .unknown "1.21" "1.21.0" = some .eq := rfl
  obtain ⟨-, -, gate⟩ := resolve_respelled (Sample.registry "1.21" []) .fabric
    [Sample.kept "a", Sample.gone "b"] "1.21" "1.21.0" .unknown plain first second equal
  exact ⟨plain, first, second, equal, gate⟩

end Flotilla
