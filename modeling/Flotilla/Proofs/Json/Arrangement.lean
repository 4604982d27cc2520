import Mathlib.Data.List.Forall2
import Flotilla.Json.Decoder
import Flotilla.Proofs.Json.Surface

/-!
# The order of members

Two values are arranged alike but for the order of the members of their objects, at any depth.
The form in which values are kept, with ascending names, is one such arrangement. `json_surface`
says that a proper value that has been written is read in that form.
-/

namespace Flotilla

namespace Numeral

theorem le_ofDigitChars (n : Nat) (digits : List Char) : n ≤ Nat.ofDigitChars 10 digits n := by
  rw [Nat.ofDigitChars_eq_ofDigitChars_zero]
  have hpow : 0 < 10 ^ digits.length := Nat.pow_pos (by decide)
  exact Nat.le_trans (Nat.le_mul_of_pos_left n hpow) (Nat.le_add_right _ _)

/-- Digits that stand for a number of 64 bits are all taken in. -/
theorem absorb_of_le {digits : List Char} {significand : Nat}
    (fits : Nat.ofDigitChars 10 digits significand ≤ maxWord) :
    absorb significand digits = (Nat.ofDigitChars 10 digits significand, []) := by
  induction digits generalizing significand with
  | nil => simp [absorb]
  | cons d digits ih =>
      have hnext :
          significand * 10 + (d.toNat - 48) = 10 * significand + (d.toNat - '0'.toNat) := by
        rw [Nat.mul_comm]
        rfl
      rw [Nat.ofDigitChars_cons, ← hnext] at fits ⊢
      have hle := Nat.le_trans (le_ofDigitChars _ digits) fits
      rw [absorb, if_neg (Nat.not_lt.mpr hle)]
      exact ih fits

/-- The numeral of an integer of 64 bits has that integer for its value. -/
theorem value?_ofInt {i : Int} (low : -9223372036854775808 ≤ i)
    (high : i < 18446744073709551616) : (ofInt i).value? = some (.int i) := by
  have hfits : Nat.ofDigitChars 10 (Digits.render i.natAbs) 0 ≤ maxWord := by
    rw [Digits.ofDigitChars_render, show maxWord = 18446744073709551615 from rfl]
    omega
  unfold value? ofInt
  simp only [absorb_of_le hfits, Digits.ofDigitChars_render]
  by_cases negative : i < 0
  · have hrange : ¬(i.natAbs = 0 ∨ Nat.pow 2 63 < i.natAbs) := by
      rw [show Nat.pow 2 63 = 9223372036854775808 from rfl]
      omega
    have hvalue : -(i.natAbs : Int) = i := by omega
    simp only [negative, hrange, hvalue, decide_true, List.isEmpty_nil, Option.isNone_none,
      and_self, if_true, Bool.true_eq_false, if_false]
  · have hvalue : (i.natAbs : Int) = i := by omega
    simp [negative, hvalue]

end Numeral

namespace Json

mutual

/-- A value in the form in which values are kept: the members of every object by ascending name. -/
def sorted : Json → Json
  | .arr items => .arr (sortedItems items)
  | .obj members => .object (sortedMembers members)
  | .null => .null
  | .bool b => .bool b
  | .int i => .int i
  | .float x => .float x
  | .str s => .str s

/-- The items of an array, each in the form in which it is kept. -/
def sortedItems : List Json → List Json
  | [] => []
  | item :: rest => sorted item :: sortedItems rest

/-- The members of an object, each value in the form in which it is kept. -/
def sortedMembers : List (String × Json) → List (String × Json)
  | [] => []
  | (name, value) :: rest => (name, sorted value) :: sortedMembers rest

end

end Json

namespace Decoder

mutual

/-- A proper value is read from its surface in the form in which it is kept. -/
theorem json_surface (v : Json) {depth : Nat} (h : v.isProper depth = true) :
    json depth v.surface = .ok v.sorted := by
  match v with
  | .null => rfl
  | .bool b => rfl
  | .int i =>
      rw [Json.isProper, Bool.and_eq_true, decide_eq_true_iff, decide_eq_true_iff] at h
      rw [Json.surface, json, Numeral.value?_ofInt h.1 h.2, Json.sorted]
  | .float x => simp [Json.isProper] at h
  | .str s => rfl
  | .arr items =>
      obtain ⟨depth, rfl, h⟩ := Json.isProper_arr_iff.mp h
      rw [Json.surface, json, jsonItems_surfaces items h]
      rfl
  | .obj members =>
      obtain ⟨depth, rfl, -, h⟩ := Json.isProper_obj_iff.mp h
      rw [Json.surface, json, jsonMembers_surfaces members h]
      rfl

theorem jsonItems_surfaces (items : List Json) {depth : Nat}
    (h : Json.areProper depth items = true) :
    jsonItems depth (Json.surfaces items) = .ok (Json.sortedItems items) := by
  match items with
  | [] => rfl
  | item :: rest =>
      rw [Json.areProper, Bool.and_eq_true] at h
      rw [Json.surfaces, jsonItems, json_surface item h.1, jsonItems_surfaces rest h.2]
      rfl

theorem jsonMembers_surfaces (members : List (String × Json)) {depth : Nat}
    (h : Json.haveProper depth members = true) :
    jsonMembers depth (Json.memberSurfaces members) = .ok (Json.sortedMembers members) := by
  match members with
  | [] => rfl
  | (name, value) :: rest =>
      rw [Json.haveProper, Bool.and_eq_true] at h
      rw [Json.memberSurfaces, jsonMembers, json_surface value h.1, jsonMembers_surfaces rest h.2]
      rfl

end

end Decoder

namespace Json

/-- Another arrangement of a value: the same but for the order of the members of its objects. -/
inductive Arranges : Json → Json → Prop where
  | same (v) : Arranges v v
  | arr {items others} (each : List.Forall₂ Arranges items others) :
      Arranges (.arr items) (.arr others)
  | obj {members arranged others} (names : arranged.map (·.1) = members.map (·.1))
      (each : List.Forall₂ Arranges (members.map (·.2)) (arranged.map (·.2)))
      (order : others.Perm arranged) : Arranges (.obj members) (.obj others)

variable {members arranged : List (String × Json)} {w : Json} {depth : Nat}

theorem haveProper_iff :
    haveProper depth members = true ↔ ∀ member ∈ members, member.2.isProper depth = true := by
  induction members with
  | nil => simp [haveProper]
  | cons member rest ih => simp [haveProper, ih]

/-- Members that are arranged one by one are found on both sides. -/
theorem exists_of_arranged (names : arranged.map (·.1) = members.map (·.1))
    (each : List.Forall₂ Arranges (members.map (·.2)) (arranged.map (·.2))) :
    (∀ member ∈ members, ∃ other ∈ arranged, other.1 = member.1 ∧ Arranges member.2 other.2) ∧
      ∀ other ∈ arranged, ∃ member ∈ members, other.1 = member.1 ∧ Arranges member.2 other.2 := by
  induction members generalizing arranged with
  | nil =>
      obtain rfl := List.map_eq_nil_iff.mp names
      simp
  | cons member members ih =>
      cases arranged with
      | nil => simp at names
      | cons other arranged =>
          obtain ⟨hname, hnames⟩ := List.cons.inj names
          obtain ⟨hvalue, hvalues⟩ := List.forall₂_cons.mp each
          obtain ⟨hleft, hright⟩ := ih hnames hvalues
          constructor
          · refine List.forall_mem_cons.mpr ⟨⟨other, by simp, hname, hvalue⟩, ?_⟩
            intro member hmem
            obtain ⟨other, hother, hmatch⟩ := hleft member hmem
            exact ⟨other, List.mem_cons_of_mem _ hother, hmatch⟩
          · refine List.forall_mem_cons.mpr ⟨⟨member, by simp, hname, hvalue⟩, ?_⟩
            intro other hother
            obtain ⟨member, hmem, hmatch⟩ := hright other hother
            exact ⟨member, List.mem_cons_of_mem _ hmem, hmatch⟩

/-- What another arrangement of an object is: its members are arranged one by one, and brought into
some order. -/
theorem Arranges.exists_arranged (h : Arranges (.obj members) w) :
    ∃ arranged others, w = .obj others ∧ arranged.map (·.1) = members.map (·.1) ∧
      List.Forall₂ Arranges (members.map (·.2)) (arranged.map (·.2)) ∧ others.Perm arranged := by
  cases h with
  | same => exact ⟨members, members, rfl, rfl, List.forall₂_same.mpr fun v _ => .same v, .refl _⟩
  | obj names each order => exact ⟨_, _, rfl, names, each, order⟩

/-- The names stay, and each of them has an arrangement of what it had. -/
theorem Arranges.exists_of_obj (h : Arranges (.obj members) w) :
    ∃ others, w = .obj others ∧ (others.map (·.1)).Perm (members.map (·.1)) ∧
      (∀ member ∈ members, ∃ other ∈ others, other.1 = member.1 ∧ Arranges member.2 other.2) ∧
      ∀ other ∈ others, ∃ member ∈ members, other.1 = member.1 ∧ Arranges member.2 other.2 := by
  obtain ⟨arranged, others, rfl, names, each, order⟩ := h.exists_arranged
  obtain ⟨hleft, hright⟩ := exists_of_arranged names each
  refine ⟨others, rfl, names ▸ order.map _, ?_, ?_⟩
  · intro member hmem
    obtain ⟨other, hother, hmatch⟩ := hleft member hmem
    exact ⟨other, order.mem_iff.mpr hother, hmatch⟩
  · intro other hother
    exact hright other (order.mem_iff.mp hother)

/-- Another arrangement of a text is the text. -/
theorem Arranges.eq_of_str {s : String} (h : Arranges (.str s) w) : w = .str s := by
  cases h
  rfl

mutual

/-- Another arrangement of a proper value is proper. -/
theorem Arranges.isProper (v : Json) {w : Json} (h : Arranges v w) {depth : Nat}
    (proper : v.isProper depth = true) : w.isProper depth = true := by
  match v, h with
  | v, .same _ => exact proper
  | .arr items, .arr each =>
      obtain ⟨depth, rfl, hitems⟩ := isProper_arr_iff.mp proper
      exact isProper_arr_iff.mpr ⟨depth, rfl, areProper_of_forall₂ items each hitems⟩
  | .obj members, .obj names each order =>
      obtain ⟨depth, rfl, distinct, hmembers⟩ := isProper_obj_iff.mp proper
      refine isProper_obj_iff.mpr ⟨depth, rfl, ?_, ?_⟩
      · exact (order.map _).nodup_iff.mpr (names ▸ distinct)
      · rw [haveProper_iff]
        intro other hother
        exact haveProper_iff.mp (haveProper_of_forall₂ members names each hmembers) other
          (order.mem_iff.mp hother)

theorem areProper_of_forall₂ (items : List Json) {others : List Json}
    (each : List.Forall₂ Arranges items others) {depth : Nat}
    (proper : areProper depth items = true) : areProper depth others = true := by
  match items, each with
  | [], .nil => rfl
  | item :: items, .cons hitem hitems =>
      rw [areProper, Bool.and_eq_true] at proper ⊢
      exact ⟨hitem.isProper item proper.1, areProper_of_forall₂ items hitems proper.2⟩

theorem haveProper_of_forall₂ (members : List (String × Json)) {arranged : List (String × Json)}
    (names : arranged.map (·.1) = members.map (·.1))
    (each : List.Forall₂ Arranges (members.map (·.2)) (arranged.map (·.2))) {depth : Nat}
    (proper : haveProper depth members = true) : haveProper depth arranged = true := by
  match members, arranged with
  | [], [] => rfl
  | (_, value) :: members, (_, other) :: arranged =>
      obtain ⟨hvalue, hvalues⟩ := List.forall₂_cons.mp each
      rw [haveProper, Bool.and_eq_true] at proper ⊢
      exact ⟨hvalue.isProper value proper.1,
        haveProper_of_forall₂ members (List.cons.inj names).2 hvalues proper.2⟩

end

theorem perm_setMember {name : String} (value : Json) (absent : name ∉ members.map (·.1)) :
    (setMember name value members).Perm ((name, value) :: members) := by
  unfold setMember
  induction members with
  | nil => exact .refl _
  | cons head rest ih =>
      obtain ⟨hne, hrest⟩ := not_or.mp (List.mem_cons.not.mp absent)
      unfold Index.insertEntry
      split
      next => exact .refl _
      next hnotLt =>
        split
        next => exact ((ih hrest).cons head).trans (.swap _ _ _)
        next hnotGt => exact absurd (Index.eq_of_not_lt hnotLt hnotGt) hne

/-- Members of different names are kept, all of them. -/
theorem exists_object_perm {members : List (String × Json)} (distinct : (members.map (·.1)).Nodup) :
    ∃ kept, Json.object members = .obj kept ∧ kept.Perm members := by
  have hfold (kept : List (String × Json)) (apart : ∀ member ∈ members, member.1 ∉ kept.map (·.1)) :
      (members.foldl (fun sorted member => setMember member.1 member.2 sorted) kept).Perm
        (kept ++ members) := by
    induction members generalizing kept with
    | nil => simp
    | cons member members ih =>
        obtain ⟨hnotMem, hdistinct⟩ := List.nodup_cons.mp distinct
        obtain ⟨habsent, hapart⟩ := List.forall_mem_cons.mp apart
        have hset := perm_setMember member.2 habsent
        refine (ih hdistinct _ ?_).trans ?_
        · intro other hother hmem
          rw [(hset.map (·.1)).mem_iff, List.map_cons, List.mem_cons] at hmem
          rcases hmem with heq | hkept
          · exact hnotMem (List.mem_map.mpr ⟨other, hother, heq⟩)
          · exact hapart other hother hkept
        · exact (hset.append_right members).trans List.perm_middle.symm
  exact ⟨_, rfl, by simpa using hfold [] (by simp)⟩

theorem names_sortedMembers (members : List (String × Json)) :
    (sortedMembers members).map (·.1) = members.map (·.1) := by
  induction members with
  | nil => rfl
  | cons member rest ih => rw [sortedMembers, List.map_cons, ih, List.map_cons]

mutual

/-- The form in which a value is kept is an arrangement of it. -/
theorem arranges_sorted (v : Json) {depth : Nat} (proper : v.isProper depth = true) :
    Arranges v v.sorted := by
  match v with
  | .null | .bool _ | .int _ | .float _ | .str _ => exact .same _
  | .arr items =>
      obtain ⟨depth, rfl, hitems⟩ := isProper_arr_iff.mp proper
      exact .arr (forall₂_sortedItems items hitems)
  | .obj members =>
      obtain ⟨depth, rfl, distinct, hmembers⟩ := isProper_obj_iff.mp proper
      have hnames := names_sortedMembers members
      obtain ⟨kept, hkept, order⟩ := exists_object_perm (hnames ▸ distinct)
      rw [sorted, hkept]
      exact .obj hnames (forall₂_sortedMembers members hmembers) order

theorem forall₂_sortedItems (items : List Json) {depth : Nat}
    (proper : areProper depth items = true) : List.Forall₂ Arranges items (sortedItems items) := by
  match items with
  | [] => exact .nil
  | item :: rest =>
      rw [areProper, Bool.and_eq_true] at proper
      exact .cons (arranges_sorted item proper.1) (forall₂_sortedItems rest proper.2)

theorem forall₂_sortedMembers (members : List (String × Json)) {depth : Nat}
    (proper : haveProper depth members = true) :
    List.Forall₂ Arranges (members.map (·.2)) ((sortedMembers members).map (·.2)) := by
  match members with
  | [] => exact .nil
  | (_, value) :: rest =>
      rw [haveProper, Bool.and_eq_true] at proper
      exact .cons (arranges_sorted value proper.1) (forall₂_sortedMembers rest proper.2)

end

end Json

end Flotilla
