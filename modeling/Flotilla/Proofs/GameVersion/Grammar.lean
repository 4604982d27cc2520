import Mathlib.Data.List.Basic
import Flotilla.GameVersion
import Flotilla.Proofs.Text.Numeral
import Flotilla.Proofs.Text.Pieces

/-!
# The grammar of game versions

`Spells` says which texts name a version and which version they name, without saying how a text is
taken apart. `parse_eq_ok_iff` ties the reader to it: each part of a text is found by its separator,
and no part holds the separator that ends it. A version may have several spellings. `IsValid` is
what all of them keep, and a valid version is read back from the spelling that writes everything.
-/

namespace Flotilla

namespace GameVersion

/-- One or more ASCII digits that stand for a number below `2 ^ 32`; leading zeros are allowed. -/
def Writes (digits : List Char) (n : Nat) : Prop :=
  digits ≠ [] ∧ (∀ d ∈ digits, d.isDigit = true) ∧ Nat.ofDigitChars 10 digits 0 = n ∧
    n < UInt32.size

/-- The third number of a base with the point before it, or nothing for zero. -/
inductive Patch : List Char → Nat → Prop where
  | missing : Patch [] 0
  | written {digits n} (h : Writes digits n) : Patch ('.' :: digits) n

/-- Zero or more digits, none standing for zero. -/
inductive Count : List Char → Nat → Prop where
  | missing : Count [] 0
  | written {digits n} (h : Writes digits n) : Count digits n

/-- The number behind `pre` or `rc`, with a hyphen before it or not. -/
inductive Ordinal : List Char → Nat → Prop where
  | plain {digits n} (h : Count digits n) : Ordinal digits n
  | hyphen {digits n} (h : Count digits n) : Ordinal ('-' :: digits) n

/-- The part of a text behind its base. -/
inductive Suffix : List Char → Stage → Nat → Prop where
  | release : Suffix [] .release 0
  | pre {cs n} (h : Ordinal cs n) : Suffix ('-' :: ("pre".toList ++ cs)) .pre n
  | rc {cs n} (h : Ordinal cs n) : Suffix ('-' :: ("rc".toList ++ cs)) .rc n
  | snapshot {digits n} (h : Writes digits n) :
      Suffix ('-' :: ("snapshot-".toList ++ digits)) .snapshot n

/-- The texts of a version. -/
inductive Spells : List Char → GameVersion → Prop where
  | weekly {y₁ y₂ w₁ w₂ revision year week} (hyear : Writes [y₁, y₂] year)
      (hweek : Writes [w₁, w₂] week) (letter : 'a' ≤ revision ∧ revision ≤ 'z') :
      Spells [y₁, y₂, 'w', w₁, w₂, revision] (.weekly year week revision)
  | numbered {v : NumberedVersion} {major minor patch suffix} (hmajor : Writes major v.major)
      (hminor : Writes minor v.minor) (hpatch : Patch patch v.patch)
      (hsuffix : Suffix suffix v.stage v.ordinal) (positive : 1 ≤ v.major)
      (modern : v.stage = .snapshot → 2 ≤ v.major) :
      Spells (major ++ '.' :: (minor ++ (patch ++ suffix))) (.numbered v)

variable {cs : List Char} {n : Nat} {stage : Stage} {v : GameVersion}

theorem read?_eq_some_iff_writes : Digits.read? numberBound cs = some n ↔ Writes cs n := by
  rw [Digits.read?_eq_some_iff, List.all_eq_true]
  rfl

section Separators

theorem Writes.not_mem {digits : List Char} (h : Writes digits n) {c : Char}
    (other : c.isDigit = false) : c ∉ digits := by
  intro hmem
  simp [h.2.1 c hmem] at other

theorem Patch.hyphen_not_mem (h : Patch cs n) : '-' ∉ cs := by
  cases h with
  | missing => simp
  | written h => simpa using h.not_mem (c := '-') rfl

end Separators

/-- The base of a text: two numbers with a point between them, and perhaps a third one. -/
theorem base?_eq_some_iff {base : Nat × Nat × Nat} :
    base? cs = some base ↔ ∃ major minor patch, cs = major ++ '.' :: (minor ++ patch) ∧
      Writes major base.1 ∧ Writes minor base.2.1 ∧ Patch patch base.2.2 := by
  constructor
  · intro h
    unfold base? at h
    split at h
    next major minor hpieces =>
      obtain ⟨rest, rfl, -, hrest⟩ := Split.every_eq_cons_cons_iff.mp hpieces
      obtain ⟨rfl, -⟩ := Split.every_eq_singleton_iff.mp hrest
      obtain ⟨a, ha, h⟩ := Option.bind_eq_some_iff.mp h
      obtain ⟨b, hb, h⟩ := Option.bind_eq_some_iff.mp h
      obtain rfl := Option.some.inj h
      exact ⟨major, rest, [], by simp, read?_eq_some_iff_writes.mp ha,
        read?_eq_some_iff_writes.mp hb, .missing⟩
    next major minor patch hpieces =>
      obtain ⟨rest, rfl, -, hrest⟩ := Split.every_eq_cons_cons_iff.mp hpieces
      obtain ⟨rest, rfl, -, hrest⟩ := Split.every_eq_cons_cons_iff.mp hrest
      obtain ⟨rfl, -⟩ := Split.every_eq_singleton_iff.mp hrest
      obtain ⟨a, ha, h⟩ := Option.bind_eq_some_iff.mp h
      obtain ⟨b, hb, h⟩ := Option.bind_eq_some_iff.mp h
      obtain ⟨c, hc, h⟩ := Option.bind_eq_some_iff.mp h
      obtain rfl := Option.some.inj h
      exact ⟨major, minor, '.' :: rest, rfl, read?_eq_some_iff_writes.mp ha,
        read?_eq_some_iff_writes.mp hb, .written (read?_eq_some_iff_writes.mp hc)⟩
    next => simp at h
  · rintro ⟨major, minor, patch, rfl, ha, hb, hc⟩
    obtain ⟨a, b, c⟩ := base
    have hmajor := read?_eq_some_iff_writes.mpr ha
    have hminor := read?_eq_some_iff_writes.mpr hb
    have hdot : '.' ∉ minor := hb.not_mem rfl
    unfold base?
    rw [Split.every_append_cons (ha.not_mem rfl)]
    cases hc with
    | missing =>
        rw [List.append_nil, Split.every_of_not_mem hdot]
        simp [hmajor, hminor]
    | written hc =>
        have hpatch := read?_eq_some_iff_writes.mpr hc
        rw [Split.every_append_cons hdot, Split.every_of_not_mem (hc.not_mem rfl)]
        simp [hmajor, hminor, hpatch]

theorem ordinal?_eq_some_iff : ordinal? cs = some n ↔ Ordinal cs n := by
  have hcount (digits : List Char) :
      (if digits.isEmpty then some 0 else Digits.read? numberBound digits) = some n ↔
        Count digits n := by
    cases digits with
    | nil =>
        constructor
        · intro h
          obtain rfl := Option.some.inj h
          exact .missing
        · rintro (_ | h)
          · rfl
          · exact absurd rfl h.1
    | cons d digits =>
        rw [if_neg (by simp), read?_eq_some_iff_writes]
        constructor
        · exact .written
        · rintro (_ | h)
          exact h
  unfold ordinal?
  split
  next digits =>
    rw [hcount]
    constructor
    · exact .hyphen
    · rintro ((_ | h) | h)
      · exact absurd (h.2.1 '-' (by simp)) (by decide)
      · exact h
  next other =>
    rw [hcount]
    constructor
    · exact .plain
    · rintro (h | h)
      · exact h
      · exact absurd rfl (other _)

/-- What the part behind the first hyphen names is what the grammar says of a suffix. -/
theorem stage?_eq_some_iff : stage? cs = some (stage, n) ↔ Suffix ('-' :: cs) stage n := by
  constructor
  · intro h
    unfold stage? at h
    split at h
    next rest _ _ hpre =>
      obtain rfl := Split.after?_eq_some_iff.mp hpre
      obtain ⟨m, hm, heq⟩ := Option.map_eq_some_iff.mp h
      obtain ⟨rfl, rfl⟩ := Prod.mk.inj heq
      exact .pre (ordinal?_eq_some_iff.mp hm)
    next rest _ _ hrc =>
      obtain rfl := Split.after?_eq_some_iff.mp hrc
      obtain ⟨m, hm, heq⟩ := Option.map_eq_some_iff.mp h
      obtain ⟨rfl, rfl⟩ := Prod.mk.inj heq
      exact .rc (ordinal?_eq_some_iff.mp hm)
    next rest _ _ hsnapshot =>
      obtain rfl := Split.after?_eq_some_iff.mp hsnapshot
      obtain ⟨m, hm, heq⟩ := Option.map_eq_some_iff.mp h
      obtain ⟨rfl, rfl⟩ := Prod.mk.inj heq
      exact .snapshot (read?_eq_some_iff_writes.mp hm)
    next => simp at h
  · intro h
    cases h with
    | pre h => simp [stage?, Split.after?, ordinal?_eq_some_iff.mpr h]
    | rc h => simp [stage?, Split.after?, ordinal?_eq_some_iff.mpr h]
    | snapshot h => simp [stage?, Split.after?, read?_eq_some_iff_writes.mpr h]

/-- A base and a suffix make a version, unless the major number is too small for them. -/
theorem assemble?_eq_some_iff {base : Nat × Nat × Nat} :
    assemble? base (stage, n) = some v ↔
      (1 ≤ base.1 ∧ (stage = .snapshot → 2 ≤ base.1)) ∧
        v = .numbered ⟨base.1, base.2.1, base.2.2, stage, n⟩ := by
  unfold assemble?
  split
  next h =>
    simp only [reduceCtorEq, false_iff, not_and]
    rintro ⟨positive, modern⟩ -
    rcases h with h | ⟨h, hstage⟩
    · omega
    · have := modern hstage
      omega
  next h =>
    obtain ⟨hzero, hlegacy⟩ := not_or.mp h
    rw [Option.some.injEq, eq_comm, and_iff_right]
    refine ⟨by omega, fun hstage => ?_⟩
    have : base.1 ≠ 1 := fun heq => hlegacy ⟨heq, hstage⟩
    omega

/-- A suffix is empty for a release and begins with a hyphen for everything else. -/
theorem Suffix.cases_nil (h : Suffix cs stage n) :
    cs = [] ∧ stage = .release ∧ n = 0 ∨ ∃ rest, cs = '-' :: rest := by
  cases h with
  | release => exact .inl ⟨rfl, rfl, rfl⟩
  | pre | rc | snapshot => exact .inr ⟨_, rfl⟩

theorem numbered?_eq_some_iff {w : NumberedVersion} :
    numbered? cs = some (.numbered w) ↔ Spells cs (.numbered w) := by
  constructor
  · intro h
    unfold numbered? at h
    split at h
    next =>
      obtain ⟨base, hbase, hrest⟩ := Option.bind_eq_some_iff.mp h
      obtain ⟨major, minor, patch, rfl, hmajor, hminor, hpatch⟩ := base?_eq_some_iff.mp hbase
      obtain ⟨⟨positive, modern⟩, hv⟩ := assemble?_eq_some_iff.mp hrest
      obtain rfl := GameVersion.numbered.inj hv
      simpa using Spells.numbered (v := ⟨_, _, _, _, _⟩) hmajor hminor hpatch .release positive
        modern
    next front rest hfirst =>
      obtain ⟨rfl, -⟩ := Split.first_eq_some hfirst
      obtain ⟨base, hbase, hrest⟩ := Option.bind_eq_some_iff.mp h
      obtain ⟨⟨stage, n⟩, hstage, hversion⟩ := Option.bind_eq_some_iff.mp hrest
      obtain ⟨major, minor, patch, rfl, hmajor, hminor, hpatch⟩ := base?_eq_some_iff.mp hbase
      obtain ⟨⟨positive, modern⟩, hv⟩ := assemble?_eq_some_iff.mp hversion
      obtain rfl := GameVersion.numbered.inj hv
      simpa using Spells.numbered (v := ⟨_, _, _, _, _⟩) hmajor hminor hpatch
        (stage?_eq_some_iff.mp hstage) positive modern
  · intro h
    cases h with
    | @numbered _ major minor patch suffix hmajor hminor hpatch hsuffix positive modern =>
    have hbase : base? (major ++ '.' :: (minor ++ patch)) = some (w.major, w.minor, w.patch) :=
      base?_eq_some_iff.mpr ⟨major, minor, patch, rfl, hmajor, hminor, hpatch⟩
    have hassemble : assemble? (w.major, w.minor, w.patch) (w.stage, w.ordinal) =
        some (.numbered w) := assemble?_eq_some_iff.mpr ⟨⟨positive, modern⟩, rfl⟩
    have hfront : '-' ∉ major ++ '.' :: (minor ++ patch) := by
      simp [hmajor.not_mem (c := '-') rfl, hminor.not_mem (c := '-') rfl, hpatch.hyphen_not_mem]
    have hsplit : major ++ '.' :: (minor ++ (patch ++ suffix)) =
        (major ++ '.' :: (minor ++ patch)) ++ suffix := by simp
    unfold numbered?
    rw [hsplit]
    rcases hsuffix.cases_nil with ⟨rfl, hstage, hordinal⟩ | ⟨rest, rfl⟩
    · rw [List.append_nil, Split.first_eq_none_iff.mpr hfront]
      simp_all
    · rw [Split.first_append_cons hfront]
      have hstage := stage?_eq_some_iff.mpr hsuffix
      simp [hbase, hstage, hassemble]

section Weekly

variable {year week : Nat} {a b revision : Char}

theorem Writes.lt_hundred (h : Writes [a, b] n) : n < 100 := by
  obtain ⟨-, hdigits, hvalue, -⟩ := h
  obtain ⟨ha, hb⟩ := List.forall_mem_cons.mp hdigits
  have hhigh := Char.isDigit_iff_toNat.mp ha
  have hlow := Char.isDigit_iff_toNat.mp (hb b (by simp))
  rw [Nat.ofDigitChars_cons, Nat.ofDigitChars_cons, Nat.ofDigitChars_nil] at hvalue
  simp only [show '0'.toNat = 48 from rfl, show '9'.toNat = 57 from rfl] at hvalue hhigh hlow
  omega

theorem read?_pair_eq_some_iff : Digits.read? 100 [a, b] = some n ↔ Writes [a, b] n := by
  constructor
  · intro h
    obtain ⟨hne, hall, hvalue, hlt⟩ := Digits.read?_eq_some_iff.mp h
    exact ⟨hne, List.all_eq_true.mp hall, hvalue, Nat.lt_trans hlt (by decide)⟩
  · intro h
    exact Digits.read?_eq_some_iff.mpr ⟨h.1, List.all_eq_true.mpr h.2.1, h.2.2.1, h.lt_hundred⟩

theorem weekly?_eq_some_iff :
    weekly? cs = some v ↔
      Spells cs v ∧ ∃ year week revision, v = .weekly year week revision := by
  constructor
  · intro h
    unfold weekly? at h
    split at h
    next y₁ y₂ w₁ w₂ revision =>
      obtain ⟨year, hyear, h⟩ := Option.bind_eq_some_iff.mp h
      obtain ⟨week, hweek, h⟩ := Option.bind_eq_some_iff.mp h
      split at h
      next letter =>
        obtain rfl := Option.some.inj h
        exact ⟨.weekly (read?_pair_eq_some_iff.mp hyear) (read?_pair_eq_some_iff.mp hweek) letter,
          year, week, revision, rfl⟩
      next => simp at h
    next => simp at h
  · rintro ⟨h, year, week, revision, rfl⟩
    cases h with
    | weekly hyear hweek letter =>
        simp [weekly?, read?_pair_eq_some_iff.mpr hyear, read?_pair_eq_some_iff.mpr hweek, letter]

theorem numbered?_ne_weekly : numbered? cs ≠ some (.weekly year week revision) := by
  intro h
  unfold numbered? at h
  split at h
  all_goals simp [Option.bind_eq_some_iff, assemble?_eq_some_iff] at h

/-- Only a numbered version has a point in its text. -/
theorem Spells.point_mem_iff (h : Spells cs v) : '.' ∈ cs ↔ ∃ w, v = .numbered w := by
  cases h with
  | @weekly y₁ y₂ w₁ w₂ revision year week hyear hweek letter =>
      have hfirst := hyear.not_mem (c := '.') rfl
      have hsecond := hweek.not_mem (c := '.') rfl
      have hletter : '.' ≠ revision := by
        rintro rfl
        exact absurd letter (by decide)
      simp_all
  | numbered => simp

end Weekly

theorem ofChars?_eq_some_iff : ofChars? cs = some v ↔ Spells cs v := by
  unfold ofChars?
  rw [Option.or_eq_some_iff]
  cases v with
  | weekly year week revision => simp [weekly?_eq_some_iff, numbered?_ne_weekly]
  | numbered w =>
      rw [weekly?_eq_some_iff, numbered?_eq_some_iff]
      constructor
      · rintro (⟨h, -⟩ | ⟨-, h⟩)
        · exact h
        · exact h
      · intro h
        refine .inr ⟨Option.eq_none_iff_forall_ne_some.mpr ?_, h⟩
        intro other hother
        obtain ⟨hspells, year, week, revision, rfl⟩ := weekly?_eq_some_iff.mp hother
        have hpoint := hspells.point_mem_iff.mp (h.point_mem_iff.mpr ⟨w, rfl⟩)
        simp at hpoint

theorem parse_eq_ok_iff {s : String} : parse s = .ok v ↔ Spells s.toList v := by
  rw [← ofChars?_eq_some_iff]
  unfold parse
  split
  next h => simp [h]
  next h => simp [h]

theorem parse_eq_error_iff {s : String} {e : VersionError} :
    parse s = .error e ↔ e = .unrecognized s ∧ ∀ v, ¬Spells s.toList v := by
  simp only [← ofChars?_eq_some_iff]
  unfold parse
  split
  next v h => simp [h]
  next h => simp [h, eq_comm]

section Canonical

/-- The fields that a text can name. -/
def IsValid : GameVersion → Prop
  | .weekly year week revision => year < 100 ∧ week < 100 ∧ 'a' ≤ revision ∧ revision ≤ 'z'
  | .numbered v =>
    (1 ≤ v.major ∧ v.major < UInt32.size) ∧ v.minor < UInt32.size ∧ v.patch < UInt32.size ∧
      v.ordinal < UInt32.size ∧
      (v.stage = .snapshot → 2 ≤ v.major) ∧ (v.stage = .release → v.ordinal = 0)

theorem writes_render (h : n < UInt32.size) : Writes (Digits.render n) n :=
  ⟨Digits.render_ne_nil n, fun _ => Digits.isDigit_of_mem_render, Digits.ofDigitChars_render n, h⟩

theorem Patch.lt (h : Patch cs n) : n < UInt32.size := by
  cases h with
  | missing => decide
  | written h => exact h.2.2.2

theorem Ordinal.lt (h : Ordinal cs n) : n < UInt32.size := by
  rcases h with (_ | h) | (_ | h)
  · decide
  · exact h.2.2.2
  · decide
  · exact h.2.2.2

theorem Suffix.lt (h : Suffix cs stage n) : n < UInt32.size ∧ (stage = .release → n = 0) := by
  cases h with
  | release => exact ⟨by decide, fun _ => rfl⟩
  | pre h | rc h => exact ⟨h.lt, nofun⟩
  | snapshot h => exact ⟨h.2.2.2, nofun⟩

theorem Spells.isValid (h : Spells cs v) : v.IsValid := by
  cases h with
  | weekly hyear hweek letter => exact ⟨hyear.lt_hundred, hweek.lt_hundred, letter⟩
  | numbered hmajor hminor hpatch hsuffix positive modern =>
      exact ⟨⟨positive, hmajor.2.2.2⟩, hminor.2.2.2, hpatch.lt, hsuffix.lt.1, modern, hsuffix.lt.2⟩

theorem suffix_renderStage {ordinal : Nat} (fits : ordinal < UInt32.size)
    (release : stage = .release → ordinal = 0) :
    Suffix (renderStage stage ordinal) stage ordinal := by
  have hdigits := writes_render fits
  cases stage with
  | release =>
      rw [release rfl]
      exact .release
  | pre => exact .pre (.plain (.written hdigits))
  | rc => exact .rc (.plain (.written hdigits))
  | snapshot => exact .snapshot hdigits

/-- The two digits of a year or a week. -/
theorem exists_padded_eq (h : n < 100) :
    ∃ a b, Digits.padded 2 n = [a, b] ∧ Writes [a, b] n := by
  have hlength : (Digits.padded 2 n).length = 2 := Digits.length_padded (by decide) h
  obtain ⟨a, b, hpair⟩ := List.length_eq_two.mp hlength
  refine ⟨a, b, hpair, hpair ▸ ⟨Digits.padded_ne_nil 2 n, ?_, Digits.ofDigitChars_padded 2 n, ?_⟩⟩
  · exact fun _ => Digits.isDigit_of_mem_padded
  · exact Nat.lt_trans h (by decide)

theorem spells_render (h : v.IsValid) : Spells v.render v := by
  cases v with
  | weekly year week revision =>
      obtain ⟨hyear, hweek, letter⟩ := h
      obtain ⟨y₁, y₂, hfirst, hyear⟩ := exists_padded_eq hyear
      obtain ⟨w₁, w₂, hsecond, hweek⟩ := exists_padded_eq hweek
      rw [render, hfirst, hsecond]
      exact .weekly hyear hweek letter
  | numbered v =>
      obtain ⟨⟨positive, hmajor⟩, hminor, hpatch, hordinal, modern, release⟩ := h
      have hpatch : Patch ('.' :: Digits.render v.patch) v.patch := .written (writes_render hpatch)
      exact .numbered (writes_render hmajor) (writes_render hminor) hpatch
        (suffix_renderStage hordinal release) positive modern

end Canonical

/-- The reader accepts the texts of the grammar and no others, and gives the version that the text
names; from any other text the error carries the text as it was. The versions that have a text are
the valid ones, and each of them is read back from its full spelling. -/
theorem parse_grammar :
    (∀ s v, parse s = .ok v ↔ Spells s.toList v) ∧
    (∀ s e, parse s = .error e ↔ e = .unrecognized s ∧ ∀ v, ¬Spells s.toList v) ∧
    (∀ v, (∃ s, parse s = .ok v) ↔ v.IsValid) ∧
    (∀ v, parse v.text = .ok v ↔ v.IsValid) ∧
    ∀ v : NumberedVersion, v.numbering = .legacy ↔ v.major = 1 := by
  have hvalid {s : String} {v : GameVersion} (h : parse s = .ok v) : v.IsValid :=
    (parse_eq_ok_iff.mp h).isValid
  have htext {v : GameVersion} (h : v.IsValid) : parse v.text = .ok v := by
    rw [parse_eq_ok_iff, text, String.toList_ofList]
    exact spells_render h
  refine ⟨fun _ _ => parse_eq_ok_iff, fun _ _ => parse_eq_error_iff, ?_, ?_, ?_⟩
  · exact fun v => ⟨fun ⟨_, h⟩ => hvalid h, fun h => ⟨v.text, htext h⟩⟩
  · exact fun v => ⟨hvalid, htext⟩
  · intro v
    unfold NumberedVersion.numbering
    split <;> simp_all

end GameVersion

end Flotilla
