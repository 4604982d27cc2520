import Flotilla.Json.Printer
import Flotilla.Proofs.Json.Grammar

/-!
# The surface of a written value

`Json.surface` is the tree that the text of a value shows. `value_render` says that the text is
spelled by the grammar with exactly this tree, and `read_render` that reading finds it: no character
of a text is lost on the way through quotes and escapes, and no bracket or comma of the writer is
taken for another one. Doubles are left out, as their numerals are read by rules of their own.
-/

namespace Flotilla

namespace Tree

section Quotes

variable {c : Char} {cs : List Char} {marks : List Mark}

theorem hexValue?_hexDigit : ∀ n < 16, hexValue? (Json.hexDigit n) = some n := by decide

/-- A control character behind `\u` is one mark. -/
theorem Units.control (control : c.toNat < 32) (h : Units cs marks) :
    Units ('\\' :: 'u' :: '0' :: '0' :: Json.hexDigit (c.toNat / 16) ::
      Json.hexDigit (c.toNat % 16) :: cs) (.char c :: marks) := by
  have hquad : hexQuad? '0' '0' (Json.hexDigit (c.toNat / 16)) (Json.hexDigit (c.toNat % 16)) =
      some c.toNat := by
    have hhigh := hexValue?_hexDigit (c.toNat / 16) (by omega)
    have hlow := hexValue?_hexDigit (c.toNat % 16) (by omega)
    have hzero : hexValue? '0' = some 0 := rfl
    simp only [hexQuad?, hhigh, hlow, hzero, Option.bind_eq_bind, Option.bind_some, Option.pure_def]
    congr 1
    omega
  have hmark : unitMark c.toNat = .char c := by
    unfold unitMark
    rw [if_neg (by omega), if_neg (by omega), Char.ofNat_toNat]
  rw [← hmark]
  exact .code hquad h

/-- An escaped character is one mark. -/
theorem Units.escape (c : Char) (h : Units cs marks) :
    Units (Json.escape c ++ cs) (.char c :: marks) := by
  have letter {n : Nat} {named : Char} (h : c.toNat = n) (hn : named.toNat = n) : c = named :=
    Char.toNat_inj.mp (h.trans hn.symm)
  unfold Json.escape
  split
  next hc => exact .named (by subst hc; decide) h
  split
  next hc => exact .named (by subst hc; decide) h
  split
  next hc => exact .named (by rw [@letter _ '\x08' hc rfl]; rfl) h
  split
  next hc => exact .named (by rw [@letter _ '\t' hc rfl]; rfl) h
  split
  next hc => exact .named (by rw [@letter _ '\n' hc rfl]; rfl) h
  split
  next hc => exact .named (by rw [@letter _ '\x0c' hc rfl]; rfl) h
  split
  next hc => exact .named (by rw [@letter _ '\r' hc rfl]; rfl) h
  split
  next control => exact .control control h
  next quote backslash _ _ _ _ _ control =>
    exact .plain quote backslash (Nat.not_lt.mp control) h

theorem units_flatMap_escape (cs : List Char) :
    Units (cs.flatMap Json.escape) (cs.map .char) := by
  induction cs with
  | nil => exact .nil
  | cons c cs ih =>
      rw [List.flatMap_cons]
      exact .escape c ih

theorem charsOf?_map_char (cs : List Char) : charsOf? (cs.map .char) = some cs := by
  induction cs with
  | nil => rfl
  | cons c cs ih => simp [charsOf?, ih]

/-- A written text is a quoted text. -/
theorem quoted_quote (s : String) : Quoted (Json.quote s) (some s) := by
  have h := Quoted.mk (units_flatMap_escape s.toList)
  rwa [charsOf?_map_char, Option.map_some, String.ofList_toList] at h

end Quotes

end Tree

namespace Numeral

/-- The numeral of an integer. -/
def ofInt (i : Int) : Numeral := ⟨decide (i < 0), Digits.render i.natAbs, [], none⟩

theorem ofInt_inj {i j : Int} (h : ofInt i = ofInt j) : i = j := by
  obtain ⟨hsign, hdigits, -⟩ := Numeral.mk.inj h
  have habs := congrArg (fun digits => Nat.ofDigitChars 10 digits 0) hdigits
  simp only [Digits.ofDigitChars_render, decide_eq_decide] at habs hsign
  omega

end Numeral

namespace Tree

/-- A written integer is a numeral. -/
theorem number_renderInt (i : Int) : Number (Json.renderInt i) (.ofInt i) := by
  have hrun : Run (Digits.render i.natAbs) :=
    ⟨Digits.render_ne_nil _, fun _ => Digits.isDigit_of_mem_render⟩
  have hzero (leading : (Digits.render i.natAbs).head? = some '0') :
      Digits.render i.natAbs = ['0'] := by
    by_cases positive : 0 < i.natAbs
    · exact absurd leading (Digits.head?_render_ne_zero positive)
    · rw [Nat.eq_zero_of_not_pos positive]
      exact Nat.toDigits_zero 10
  unfold Json.renderInt Numeral.ofInt
  split
  next negative =>
    simpa [negative] using Number.mk .minus hrun hzero .absent .absent
  next negative =>
    simpa [negative] using Number.mk .plus hrun hzero .absent .absent

end Tree

namespace Json

mutual

/-- The tree that the text of a value shows. -/
def surface : Json → Tree
  | .null => .null
  | .bool b => .bool b
  | .int i => .number (.ofInt i)
  | .float x =>
    match Tree.numeral? x.render with
    | some (n, _) => .number n
    | none => .broken
  | .str s => .text (some s)
  | .arr items => .array (surfaces items) true
  | .obj members => .object (memberSurfaces members) true

/-- The trees of the items of an array. -/
def surfaces : List Json → List Tree
  | [] => []
  | item :: rest => surface item :: surfaces rest

/-- The trees of the members of an object. -/
def memberSurfaces : List (String × Json) → List (Tree × Tree)
  | [] => []
  | (name, value) :: rest => (.text (some name), surface value) :: memberSurfaces rest

end

mutual

/-- Whether a value is proper: nested so deep at most, without doubles, with integers of 64 bits
only, and with no name twice in an object. -/
def isProper : Nat → Json → Bool
  | _, .float _ => false
  | _, .int i => -9223372036854775808 ≤ i && i < 18446744073709551616
  | 0, .arr _ => false
  | depth + 1, .arr items => areProper depth items
  | 0, .obj _ => false
  | depth + 1, .obj members => decide (members.map (·.1)).Nodup && haveProper depth members
  | _, .null | _, .bool _ | _, .str _ => true

/-- Whether the items of an array are proper. -/
def areProper : Nat → List Json → Bool
  | _, [] => true
  | depth, item :: rest => isProper depth item && areProper depth rest

/-- Whether the members of an object are proper. -/
def haveProper : Nat → List (String × Json) → Bool
  | _, [] => true
  | depth, (_, value) :: rest => isProper depth value && haveProper depth rest

end

theorem isProper_arr_iff {depth : Nat} {items : List Json} :
    isProper depth (.arr items) = true ↔
      ∃ less, depth = less + 1 ∧ areProper less items = true := by
  cases depth <;> simp [isProper]

theorem isProper_obj_iff {depth : Nat} {members : List (String × Json)} :
    isProper depth (.obj members) = true ↔
      ∃ less, depth = less + 1 ∧ (members.map (·.1)).Nodup ∧ haveProper less members = true := by
  cases depth <;> simp [isProper]

end Json

namespace Tree

mutual

/-- The text of a value is spelled by the grammar with the surface of the value. -/
theorem value_render (v : Json) {depth : Nat} (h : v.isProper depth = true) :
    Value v.render v.surface := by
  match v with
  | .null => exact .null
  | .bool true => exact .yes
  | .bool false => exact .no
  | .int i => exact .number (number_renderInt i)
  | .float x => simp [Json.isProper] at h
  | .str s => exact .text (quoted_quote s)
  | .arr [] => exact .noItems gap_nil
  | .arr (item :: items) =>
      obtain ⟨depth, rfl, h⟩ := Json.isProper_arr_iff.mp h
      exact .array (items_render (item :: items) (by simp) h)
  | .obj [] => exact .noMembers gap_nil
  | .obj (member :: members) =>
      obtain ⟨depth, rfl, -, h⟩ := Json.isProper_obj_iff.mp h
      exact .object (members_render (member :: members) (by simp) h)

theorem items_render (items : List Json) (present : items ≠ []) {depth : Nat}
    (h : Json.areProper depth items = true) :
    Items (Json.renderItems items) (Json.surfaces items) := by
  match items with
  | [] => exact absurd rfl present
  | item :: rest =>
      rw [Json.areProper, Bool.and_eq_true] at h
      have hitem := (value_render item h.1).item
      match rest with
      | [] => exact .last hitem
      | next :: rest => exact .more hitem (items_render (next :: rest) (by simp) h.2)

theorem members_render (members : List (String × Json)) (present : members ≠ []) {depth : Nat}
    (h : Json.haveProper depth members = true) :
    Members (Json.renderMembers members) (Json.memberSurfaces members) := by
  match members with
  | [] => exact absurd rfl present
  | (name, value) :: rest =>
      rw [Json.haveProper, Bool.and_eq_true] at h
      have hvalue := (value_render value h.1).item
      match rest with
      | [] => exact .last gap_nil (quoted_quote name) gap_nil hvalue
      | next :: rest =>
          exact .more gap_nil (quoted_quote name) gap_nil hvalue
            (members_render (next :: rest) (by simp) h.2)

end

end Tree

namespace Document

/-- What is written is read as its surface, and nothing is left behind it. -/
theorem read_render {v : Json} {depth : Nat} (h : v.isProper depth = true) :
    Document.read v.render = ⟨v.surface, true⟩ := read_of_item (Tree.value_render v h).item

end Document

namespace Json

mutual

/-- Values that show the same tree are the same. -/
theorem surface_inj (v w : Json) {depth less : Nat} (hv : v.isProper depth = true)
    (hw : w.isProper less = true) (h : v.surface = w.surface) : v = w := by
  match v with
  | .float x => simp [isProper] at hv
  | .null | .bool _ | .str _ => cases w <;> simp_all [surface, isProper]
  | .int i =>
      cases w with
      | int j => rw [Numeral.ofInt_inj (Tree.number.inj h)]
      | float x => simp [isProper] at hw
      | _ => simp [surface] at h
  | .arr items =>
      cases w with
      | arr others =>
          obtain ⟨_, rfl, hitems⟩ := isProper_arr_iff.mp hv
          obtain ⟨_, rfl, hothers⟩ := isProper_arr_iff.mp hw
          rw [surfaces_inj items others hitems hothers (Tree.array.inj h).1]
      | float x => simp [isProper] at hw
      | _ => simp [surface] at h
  | .obj members =>
      cases w with
      | obj others =>
          obtain ⟨_, rfl, -, hmembers⟩ := isProper_obj_iff.mp hv
          obtain ⟨_, rfl, -, hothers⟩ := isProper_obj_iff.mp hw
          rw [memberSurfaces_inj members others hmembers hothers (Tree.object.inj h).1]
      | float x => simp [isProper] at hw
      | _ => simp [surface] at h

theorem surfaces_inj (items others : List Json) {depth less : Nat}
    (hitems : areProper depth items = true) (hothers : areProper less others = true)
    (h : surfaces items = surfaces others) : items = others := by
  match items, others with
  | [], [] => rfl
  | [], _ :: _ | _ :: _, [] => simp [surfaces] at h
  | item :: items, other :: others =>
      rw [areProper, Bool.and_eq_true] at hitems hothers
      obtain ⟨hhead, htail⟩ := List.cons.inj h
      rw [surface_inj item other hitems.1 hothers.1 hhead,
        surfaces_inj items others hitems.2 hothers.2 htail]

theorem memberSurfaces_inj (members others : List (String × Json)) {depth less : Nat}
    (hmembers : haveProper depth members = true) (hothers : haveProper less others = true)
    (h : memberSurfaces members = memberSurfaces others) : members = others := by
  match members, others with
  | [], [] => rfl
  | [], _ :: _ | _ :: _, [] => simp [memberSurfaces] at h
  | (name, value) :: members, (other, v) :: others =>
      rw [haveProper, Bool.and_eq_true] at hmembers hothers
      obtain ⟨hhead, htail⟩ := List.cons.inj h
      obtain ⟨hname, hvalue⟩ := Prod.mk.inj hhead
      obtain rfl := Option.some.inj (Tree.text.inj hname)
      rw [surface_inj value v hmembers.1 hothers.1 hvalue,
        memberSurfaces_inj members others hmembers.2 hothers.2 htail]

end

/-- Values that are written alike are the same. -/
theorem text_inj {v w : Json} {depth less : Nat} (hv : v.isProper depth = true)
    (hw : w.isProper less = true) (h : v.text = w.text) : v = w := by
  have hrender : v.render = w.render := String.ofList_injective h
  have hread := (Document.read_render hv).symm.trans (hrender ▸ Document.read_render hw)
  exact surface_inj v w hv hw (Document.mk.inj hread).1

end Json

end Flotilla
