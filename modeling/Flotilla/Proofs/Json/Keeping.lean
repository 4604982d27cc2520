import Flotilla.Proofs.Json.Arrangement

/-!
# What can be kept

Which trees the decoders of values take. A tree that is kept must fit: it is nested no deeper than
there is room for, its numerals are in range and its texts pair their surrogates. A natural number
is taken from a numeral of digits only, since a point or a power makes a double of it, a minus a
negative number or a double, and 64 bits have to hold it.
-/

namespace Flotilla

namespace Numeral

variable {n : Numeral} {digits : List Char} {significand m i : Nat}

/-- Digits are all taken in exactly if they stand for a number of 64 bits. -/
theorem absorb_eq_nil_iff (start : significand ≤ maxWord) :
    absorb significand digits = (m, []) ↔
      Nat.ofDigitChars 10 digits significand = m ∧ m ≤ maxWord := by
  constructor
  · intro h
    induction digits generalizing significand with
    | nil =>
        obtain ⟨rfl, -⟩ := Prod.mk.inj h
        exact ⟨rfl, start⟩
    | cons d digits ih =>
        rw [absorb] at h
        split at h
        next => simp at h
        next fits =>
          rw [Nat.ofDigitChars_cons, Nat.mul_comm]
          exact ih (Nat.not_lt.mp fits) h
  · rintro ⟨rfl, fits⟩
    exact absorb_of_le fits

/-- A numeral of digits only, that stand for `i`. -/
structure Plain (n : Numeral) (i : Nat) : Prop where
  unsigned : n.negative = false
  integral : n.fraction = []
  unscaled : n.power = none
  value : Nat.ofDigitChars 10 n.whole 0 = i

/-- A numeral that is moved by a power of ten is a double. -/
theorem scaled?_ne_int (s : Nat) (k i : Int) : n.scaled? s k ≠ some (.int i) := by
  have hdouble (x : Option Binary64) : x.map Json.float ≠ some (.int i) := by
    cases x <;> simp
  unfold scaled?
  split
  next => exact hdouble _
  next =>
    split
    next => exact hdouble _
    next =>
      split
      next => simp
      next => simp

/-- The numerals of natural numbers are the plain ones that 64 bits can hold. -/
theorem value?_eq_nat_iff : n.value? = some (.nat i) ↔ n.Plain i ∧ i ≤ maxWord := by
  unfold Json.nat
  constructor
  · intro h
    unfold value? at h
    split at h
    next s habsorb =>
      obtain ⟨hvalue, fits⟩ := (absorb_eq_nil_iff (Nat.zero_le _)).mp habsorb
      split at h
      next hplain =>
        split at h
        next unsigned =>
          obtain rfl : s = i := Int.ofNat.inj (Json.int.inj (Option.some.inj h))
          exact ⟨⟨unsigned, List.isEmpty_iff.mp hplain.1, Option.isNone_iff_eq_none.mp hplain.2,
            hvalue⟩, fits⟩
        next =>
          split at h
          next => simp at h
          next small =>
            have hnegative : -(s : Int) = i := by simpa using h
            omega
      next => exact absurd h (scaled?_ne_int _ _ _)
    next => exact absurd h (scaled?_ne_int _ _ _)
  · rintro ⟨⟨unsigned, integral, unscaled, hvalue⟩, fits⟩
    have habsorb : absorb 0 n.whole = (i, []) :=
      (absorb_eq_nil_iff (Nat.zero_le _)).mpr ⟨hvalue, fits⟩
    unfold value?
    rw [habsorb]
    simp [unsigned, integral, unscaled]

end Numeral

namespace Tree

mutual

/-- Whether a tree can be kept where so many brackets may still be opened. -/
def fits : Nat → Tree → Bool
  | _, .null => true
  | _, .bool _ => true
  | _, .number n => n.value?.isSome
  | _, .text s => s.isSome
  | 0, .array _ _ => false
  | depth + 1, .array items closed => closed && itemsFit depth items
  | 0, .object _ _ => false
  | depth + 1, .object members closed => closed && membersFit depth members
  | _, .broken => false

/-- Whether every tree of a list can be kept. -/
def itemsFit : Nat → List Tree → Bool
  | _, [] => true
  | depth, item :: rest => fits depth item && itemsFit depth rest

/-- Whether every member has a proper name and a tree that can be kept. -/
def membersFit : Nat → List (Tree × Tree) → Bool
  | _, [] => true
  | depth, (.text (some _), tree) :: rest => fits depth tree && membersFit depth rest
  | _, _ :: _ => false

end

end Tree

namespace Decoder

variable {α : Type} {decode : Decoder α} {depth : Nat} {tree : Tree}

mutual

/-- Any value is read exactly where the tree fits. -/
theorem json_ok_iff (tree : Tree) (depth : Nat) :
    (∃ v, json depth tree = .ok v) ↔ tree.fits depth = true := by
  match tree, depth with
  | .null, _ | .bool _, _ | .text (some _), _ => simp [json, Tree.fits]
  | .text none, _ | .broken, _ | .array _ _, 0 | .object _ _, 0 => simp [json, Tree.fits]
  | .number n, _ =>
      rw [json, Tree.fits]
      cases n.value? <;> simp
  | .array items closed, depth + 1 =>
      have hitems := jsonItems_ok_iff items depth
      rw [json, Tree.fits, Bool.and_eq_true, ← hitems]
      cases jsonItems depth items <;> cases closed <;> simp [bind, Except.bind]
  | .object members closed, depth + 1 =>
      have hmembers := jsonMembers_ok_iff members depth
      rw [json, Tree.fits, Bool.and_eq_true, ← hmembers]
      cases jsonMembers depth members <;> cases closed <;> simp [bind, Except.bind]

theorem jsonItems_ok_iff (items : List Tree) (depth : Nat) :
    (∃ values, jsonItems depth items = .ok values) ↔ Tree.itemsFit depth items = true := by
  match items with
  | [] => simp [jsonItems, Tree.itemsFit]
  | item :: rest =>
      have hitem := json_ok_iff item depth
      have hrest := jsonItems_ok_iff rest depth
      rw [jsonItems, Tree.itemsFit, Bool.and_eq_true, ← hitem, ← hrest]
      cases json depth item <;> cases jsonItems depth rest <;>
        simp [bind, Except.bind, pure, Except.pure]

theorem jsonMembers_ok_iff (members : List (Tree × Tree)) (depth : Nat) :
    (∃ values, jsonMembers depth members = .ok values) ↔
      Tree.membersFit depth members = true := by
  match members with
  | [] => simp [jsonMembers, Tree.membersFit]
  | (name, tree) :: rest =>
      match name with
      | .text (some name) =>
          have htree := json_ok_iff tree depth
          have hrest := jsonMembers_ok_iff rest depth
          rw [jsonMembers, Tree.membersFit, Bool.and_eq_true, ← htree, ← hrest]
          cases json depth tree <;> cases jsonMembers depth rest <;>
            simp [bind, Except.bind, pure, Except.pure]
      | .text none | .null | .bool _ | .number _ | .array _ _ | .object _ _ | .broken =>
          simp [jsonMembers, Tree.membersFit]

end

theorem string_eq_ok_iff {s : String} : string depth tree = .ok s ↔ tree = .text (some s) := by
  unfold string
  split <;> simp_all

/-- A number below a bound is read from a plain numeral and from nothing else. -/
theorem natural_eq_ok_iff {bound i : Nat} (hbound : bound ≤ Nat.pow 2 64) :
    natural bound depth tree = .ok i ↔ ∃ n, tree = .number n ∧ n.Plain i ∧ i < bound := by
  cases tree with
  | number n =>
      have hvalue : natural bound depth (.number n) = .ok i ↔
          n.value? = some (.nat i) ∧ i < bound := by
        rw [natural, Json.nat]
        cases n.value? with
        | none => simp
        | some v =>
            cases v with
            | int j =>
                cases j with
                | ofNat j =>
                    simp only [Option.some.injEq, Json.int.injEq, Int.ofNat_eq_natCast,
                      Int.natCast_inj]
                    split <;> simp <;> omega
                | negSucc j => simp
            | _ => simp
      have hfits (hlt : i < bound) : i ≤ Numeral.maxWord := by
        unfold Numeral.maxWord
        omega
      rw [hvalue, Numeral.value?_eq_nat_iff]
      constructor
      · rintro ⟨⟨plain, -⟩, hlt⟩
        exact ⟨n, rfl, plain, hlt⟩
      · rintro ⟨n, heq, plain, hlt⟩
        obtain rfl := Tree.number.inj heq
        exact ⟨⟨plain, hfits hlt⟩, hlt⟩
  | _ => simp [natural]

/-- What may be missing is read from `null`, or as what it should be. -/
theorem optional_eq_ok_iff {found : Option α} :
    optional decode depth tree = .ok found ↔
      tree = .null ∧ found = none ∨
        tree ≠ .null ∧ ∃ a, decode depth tree = .ok a ∧ found = some a := by
  unfold optional
  split
  next => simp [eq_comm]
  next other =>
    have hother : tree ≠ .null := fun heq => other heq
    cases decode depth tree <;> simp [Except.map, eq_comm, hother]

end Decoder

/-- A JSON text has the value that the decoder finds in its tree. -/
theorem decodeText_of_item {α : Type} (decode : Decoder α) {text : String} {tree : Tree}
    (h : Tree.Item text.toList tree) : decodeText decode text = decode maxDepth tree := by
  rw [decodeText, Document.read_of_item h]
  cases decode maxDepth tree <;> rfl

end Flotilla
