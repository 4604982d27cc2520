import Flotilla.Plan
import Flotilla.Proofs.Upgrade.Lookup

/-!
# The gate of an upgrade

Verdicts are kept by key, so of several extensions of one key only the last one is heard. The
gate over a list of extensions looks at these alone: it is safe exactly if none of them is
blocked when it is resolved alone, and otherwise lists the keys of those that are. If no key
occurs twice, that speaks for every extension of the list; if a key does, a blocked extension
can pass unnoticed.
-/

namespace Flotilla

namespace Gate

/-- Whether a gate is closed on account of a key. -/
def Lists (gate : Gate) (key : String) : Prop := ∃ keys, gate = .blocked keys ∧ key ∈ keys

variable {verdicts : Verdicts} {key : String}

/-- A gate lists the keys of the blocking verdicts. -/
theorem lists_ofVerdicts : (ofVerdicts verdicts).Lists key ↔
    ∃ verdict, verdicts.get? key = some verdict ∧ verdict.isBlocking = true := by
  have hlists : (ofVerdicts verdicts).Lists key ↔
      key ∈ (verdicts.entries.filter fun entry => entry.2.isBlocking).map fun entry => entry.1 := by
    unfold ofVerdicts
    split
    next h => simp [Lists, h]
    next h => simp [Lists, h]
  rw [hlists, List.mem_map]
  constructor
  · rintro ⟨entry, hmem, rfl⟩
    obtain ⟨hentry, hblocking⟩ := List.mem_filter.mp hmem
    exact ⟨entry.2, (verdicts.mem_entries_iff entry).mp hentry, hblocking⟩
  · rintro ⟨verdict, hget, hblocking⟩
    have hentry := (verdicts.mem_entries_iff (key, verdict)).mpr hget
    exact ⟨(key, verdict), List.mem_filter.mpr ⟨hentry, hblocking⟩, rfl⟩

/-- A gate is never closed without a reason. -/
theorem ofVerdicts_eq_safe_iff : ofVerdicts verdicts = .safe ↔
    ∀ key, ¬ (ofVerdicts verdicts).Lists key := by
  unfold ofVerdicts
  split
  next => simp [Lists]
  next key keys _ =>
    constructor
    · intro h
      simp at h
    · intro h
      exact absurd ⟨_, rfl, by simp⟩ (h key)

end Gate

namespace Extension

/-- Whether an extension is the last one of its key in a list. -/
def IsLast (e : Extension) (extensions : List Extension) : Prop :=
  ∃ before after, extensions = before ++ e :: after ∧ ∀ other ∈ after, other.id ≠ e.id

variable {e : Extension} {extensions : List Extension} {key : String}

theorem IsLast.mem (h : e.IsLast extensions) : e ∈ extensions := by
  obtain ⟨before, after, rfl, -⟩ := h
  simp

/-- If no key occurs twice, the others of a list have other keys than one of its members. -/
theorem id_ne_of_nodup {before after : List Extension} {other : Extension}
    (distinct : ((before ++ e :: after).map fun e => e.id).Nodup) (h : other ∈ before ++ after) :
    other.id ≠ e.id := by
  have hperm : ((before ++ e :: after).map fun e => e.id).Perm
      ((e :: (before ++ after)).map fun e => e.id) := List.perm_middle.map _
  have hnotMem := (List.nodup_cons.mp (hperm.nodup_iff.mp distinct)).1
  intro same
  exact hnotMem (List.mem_map.mpr ⟨other, h, same⟩)

/-- If no key occurs twice, every extension is the last one of its key. -/
theorem isLast_of_nodup (distinct : (extensions.map fun e => e.id).Nodup) (h : e ∈ extensions) :
    e.IsLast extensions := by
  obtain ⟨before, after, rfl⟩ := List.append_of_mem h
  refine ⟨before, after, rfl, ?_⟩
  intro other hother
  exact id_ne_of_nodup distinct (List.mem_append_right before hother)

theorem find?_reverse_eq_some_iff :
    (extensions.reverse.find? fun e => e.id = key) = some e ↔
      e.IsLast extensions ∧ e.id = key := by
  rw [List.find?_eq_some_iff_append]
  constructor
  · rintro ⟨hkey, after, before, hreverse, others⟩
    have hkey : e.id = key := by simpa using hkey
    refine ⟨⟨before.reverse, after.reverse, ?_, ?_⟩, hkey⟩
    · simpa using congrArg List.reverse hreverse
    · intro other hother
      simpa [hkey] using others other (List.mem_reverse.mp hother)
  · rintro ⟨⟨before, after, rfl, others⟩, rfl⟩
    refine ⟨by simp, after.reverse, before.reverse, by simp, ?_⟩
    intro other hother
    simpa using others other (List.mem_reverse.mp hother)

end Extension

namespace Verdicts

variable {registry : Registry} {dates : ReleaseDates} {loader : Loader} {target : String}
  {extensions : List Extension} {key : String} {verdict : Verdict}

/-- Under a key stands the verdict on the last extension of that key. -/
theorem get?_resolve : (resolve registry dates loader target extensions).get? key =
    (extensions.reverse.find? fun e => e.id = key).map
      fun e => e.verdict registry dates loader target := by
  unfold resolve
  rw [Index.get?_ofList, ← List.map_reverse, List.find?_map, Option.map_map]
  rfl

theorem get?_resolve_eq_some_iff :
    (resolve registry dates loader target extensions).get? key = some verdict ↔
      ∃ e : Extension, e.IsLast extensions ∧ e.id = key ∧
        e.verdict registry dates loader target = verdict := by
  simp only [get?_resolve, Option.map_eq_some_iff, Extension.find?_reverse_eq_some_iff, and_assoc]

@[simp] theorem get?_resolve_singleton (e : Extension) :
    (resolve registry dates loader target [e]).get? e.id =
      some (e.verdict registry dates loader target) := by
  simp [get?_resolve]

end Verdicts

namespace Extension

/-- Whether an extension gets a blocking verdict when it is resolved alone. -/
def Blocks (registry : Registry) (dates : ReleaseDates) (loader : Loader) (target : String)
    (e : Extension) : Prop :=
  ∃ verdict, (Verdicts.resolve registry dates loader target [e]).get? e.id = some verdict ∧
    verdict.isBlocking = true

variable {registry : Registry} {dates : ReleaseDates} {loader : Loader} {target : String}
  {e : Extension}

theorem blocks_iff : e.Blocks registry dates loader target ↔
    (e.verdict registry dates loader target).isBlocking = true := by
  simp [Blocks]

/-- An extension is blocked if the registry has no answer for it. -/
theorem blocks_of_error {error : RegistryError}
    (failed : registry.publications (.exact e.project loader.tag target) = .error error) :
    e.Blocks registry dates loader target := by
  rw [blocks_iff, verdict_of_error failed]
  rfl

end Extension

/-- The gate over a list of extensions hears the last extension of each key. It is safe exactly
if none of these is blocked when resolved alone, and lists exactly the keys of those that are.
So it speaks for the whole list if no key occurs twice. -/
theorem gate_hears_last (registry : Registry) (dates : ReleaseDates) (loader : Loader)
    (target : String) (extensions : List Extension) :
    (Gate.ofVerdicts (Verdicts.resolve registry dates loader target extensions) = .safe ↔
      ∀ e : Extension, e.IsLast extensions → ¬ e.Blocks registry dates loader target) ∧
    (∀ key, (Gate.ofVerdicts (Verdicts.resolve registry dates loader target extensions)).Lists key ↔
      ∃ e : Extension, e.IsLast extensions ∧ e.id = key ∧
        e.Blocks registry dates loader target) ∧
    ((extensions.map fun e => e.id).Nodup →
      (Gate.ofVerdicts (Verdicts.resolve registry dates loader target extensions) = .safe ↔
        ∀ e ∈ extensions, ¬ e.Blocks registry dates loader target) ∧
      ∀ e ∈ extensions, e.Blocks registry dates loader target →
        (Gate.ofVerdicts
          (Verdicts.resolve registry dates loader target extensions)).Lists e.id) := by
  have lists (key : String) :
      (Gate.ofVerdicts (Verdicts.resolve registry dates loader target extensions)).Lists key ↔
        ∃ e : Extension, e.IsLast extensions ∧ e.id = key ∧
          e.Blocks registry dates loader target := by
    simp only [Gate.lists_ofVerdicts, Verdicts.get?_resolve_eq_some_iff, Extension.blocks_iff]
    constructor
    · rintro ⟨_, ⟨e, hlast, hkey, rfl⟩, hblocking⟩
      exact ⟨e, hlast, hkey, hblocking⟩
    · rintro ⟨e, hlast, hkey, hblocking⟩
      exact ⟨_, ⟨e, hlast, hkey, rfl⟩, hblocking⟩
  have safe : Gate.ofVerdicts (Verdicts.resolve registry dates loader target extensions) = .safe ↔
      ∀ e : Extension, e.IsLast extensions → ¬ e.Blocks registry dates loader target := by
    rw [Gate.ofVerdicts_eq_safe_iff]
    constructor
    · intro h e hlast hblocks
      exact h e.id ((lists e.id).mpr ⟨e, hlast, rfl, hblocks⟩)
    · intro h key hkey
      obtain ⟨e, hlast, -, hblocks⟩ := (lists key).mp hkey
      exact h e hlast hblocks
  refine ⟨safe, lists, fun distinct => ⟨?_, ?_⟩⟩
  · rw [safe]
    constructor
    · intro h e hmem
      exact h e (Extension.isLast_of_nodup distinct hmem)
    · intro h e hlast
      exact h e hlast.mem
  · intro e hmem hblocks
    exact (lists e.id).mpr ⟨e, Extension.isLast_of_nodup distinct hmem, rfl, hblocks⟩

namespace Sample

/-- The noon of the first day of a year. -/
def noon : Instant := ⟨18262, 43200, 0, by decide, by decide, by decide, .inl (by decide)⟩

/-- A version of a project that supports one game version. -/
def edition (id gameVersion : String) : Publication :=
  ⟨id, "kept", "1", [gameVersion], ["fabric"], noon⟩

/-- A registry that knows one project only. -/
def registry (gameVersion : String) (releases : List Release) : Registry :=
  .ofShelves
    (fun project => if project = "kept" then some (.stock [edition "k" gameVersion]) else none)
    (.ok releases)

/-- An extension that the registry knows. -/
def kept (key : String) : Extension := ⟨key, "kept", none⟩

/-- An extension that the registry does not know. -/
def gone (key : String) : Extension := ⟨key, "gone", none⟩

theorem blocks_gone (key : String) :
    (gone key).Blocks (registry "1.21.8" []) .unknown .fabric "1.21.8" :=
  Extension.blocks_of_error rfl

end Sample

/-- Of two extensions of different keys one is blocked. -/
theorem gate_hears_last_sample :
    ([Sample.gone "a", Sample.kept "b"].map fun e => e.id).Nodup ∧
    (Gate.ofVerdicts (Verdicts.resolve (Sample.registry "1.21.8" []) .unknown .fabric "1.21.8"
      [Sample.gone "a", Sample.kept "b"])).Lists "a" := by
  have distinct : ([Sample.gone "a", Sample.kept "b"].map fun e => e.id).Nodup := by decide
  obtain ⟨-, -, whole⟩ := gate_hears_last (Sample.registry "1.21.8" []) .unknown .fabric "1.21.8"
    [Sample.gone "a", Sample.kept "b"]
  exact ⟨distinct, (whole distinct).2 (Sample.gone "a") (by simp) (Sample.blocks_gone "a")⟩

/-- Of two extensions of one key the first one is blocked, and the gate is safe. -/
theorem not_always_gate_sound :
    ¬ ∀ (registry : Registry) (dates : ReleaseDates) (loader : Loader) (target : String)
      (extensions : List Extension),
      (Gate.ofVerdicts (Verdicts.resolve registry dates loader target extensions) = .safe →
        ∀ e ∈ extensions, ¬ e.Blocks registry dates loader target) ∧
      ∀ e ∈ extensions, e.Blocks registry dates loader target →
        (Gate.ofVerdicts
          (Verdicts.resolve registry dates loader target extensions)).Lists e.id := by
  intro sound
  have safe : Gate.ofVerdicts (Verdicts.resolve (Sample.registry "1.21.8" []) .unknown .fabric
      "1.21.8" [Sample.gone "x", Sample.kept "x"]) = .safe := by decide
  obtain ⟨unblocked, -⟩ := sound _ _ _ _ _
  exact unblocked safe (Sample.gone "x") (by simp) (Sample.blocks_gone "x")

end Flotilla
