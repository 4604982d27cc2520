import Flotilla.Id
import Flotilla.Proofs.Json.Record
import Flotilla.Proofs.Text.Pieces

/-!
# Identifiers read back

The written form of an identifier is hyphenated and has no letter in upper case, neither braces
nor a name in front, so exactly one of the forms that are accepted fits it.
-/

namespace Flotilla

namespace Id

variable {subject : Subject} {digits : List Char} {c : Char} {count n : Nat}

/-- The characters of written identifiers other than hyphens. -/
def IsHex (c : Char) : Prop := ∃ n < 16, c = Json.hexDigit n

theorem IsHex.ne_hyphen (h : IsHex c) : c ≠ '-' := by
  obtain ⟨n, hn, rfl⟩ := h
  have hdigits : ∀ n < 16, Json.hexDigit n ≠ '-' := by decide
  exact hdigits n hn

/-- Neither a brace nor the `urn:uuid:` in front of a name is made of hexadecimal digits. -/
theorem IsHex.not_prefix (h : IsHex c) : c ≠ '\x7b' ∧ c.toLower ≠ 'u' := by
  obtain ⟨n, hn, rfl⟩ := h
  have hdigits : ∀ n < 16, Json.hexDigit n ≠ '\x7b' ∧ (Json.hexDigit n).toLower ≠ 'u' := by decide
  exact hdigits n hn

@[simp] theorem length_hexDigits (count n : Nat) : (hexDigits count n).length = count := by
  induction count generalizing n with
  | zero => rfl
  | succ count ih => simp [hexDigits, ih]

theorem isHex_of_mem_hexDigits (h : c ∈ hexDigits count n) : IsHex c := by
  induction count generalizing n with
  | zero => simp [hexDigits] at h
  | succ count ih =>
      rcases List.mem_append.mp h with hfront | hlast
      · exact ih hfront
      · exact ⟨n % 16, Nat.mod_lt _ (by decide), List.mem_singleton.mp hlast⟩

/-- The digits of a number stand for the number, as far as they reach. -/
theorem hexNumber?_hexDigits (h : n < Nat.pow 16 count) :
    hexNumber? (hexDigits count n) = some n := by
  induction count generalizing n with
  | zero =>
      obtain rfl : n = 0 := Nat.lt_one_iff.mp h
      rfl
  | succ count ih =>
      have hless : n < 16 * Nat.pow 16 count := Nat.mul_comm (Nat.pow 16 count) 16 ▸ h
      have hfront := ih (Nat.div_lt_of_lt_mul hless)
      have hlast := Tree.hexValue?_hexDigit (n % 16) (Nat.mod_lt _ (by decide))
      unfold hexNumber? at hfront ⊢
      rw [hexDigits, List.foldlM_append, hfront]
      simp [hlast, Nat.div_add_mod]

/-- Reading takes the digits out of the groups between the hyphens. -/
theorem ofHyphenated?_hyphenate (length : digits.length = 32) (hex : ∀ c ∈ digits, IsHex c) :
    ofHyphenated? (hyphenate digits) = (ofDigits? digits : Option (Id subject)) := by
  have apart {group : List Char} (h : ∀ c ∈ group, c ∈ digits) : '-' ∉ group :=
    fun hmem => (hex _ (h _ hmem)).ne_hyphen rfl
  have inner (i j : Nat) : '-' ∉ (digits.drop i).take j :=
    apart fun c hc => List.mem_of_mem_drop (List.mem_of_mem_take hc)
  have hgroups : Split.every '-' (hyphenate digits) =
      [digits.take 8, (digits.drop 8).take 4, (digits.drop 12).take 4, (digits.drop 16).take 4,
        digits.drop 20] := by
    rw [hyphenate, Split.every_append_cons (apart fun c hc => List.mem_of_mem_take hc),
      Split.every_append_cons (inner 8 4), Split.every_append_cons (inner 12 4),
      Split.every_append_cons (inner 16 4),
      Split.every_of_not_mem (apart fun c hc => List.mem_of_mem_drop hc)]
  have hjoined : [digits.take 8, (digits.drop 8).take 4, (digits.drop 12).take 4,
      (digits.drop 16).take 4, digits.drop 20].flatten = digits := by
    have hstep (i j : Nat) : (digits.drop i).take j ++ digits.drop (i + j) = digits.drop i := by
      rw [← List.drop_drop, List.take_append_drop]
    simp [hstep, List.take_append_drop]
  rw [ofHyphenated?, hgroups, hjoined, if_pos (by simp [length])]

theorem length_hyphenate (length : digits.length = 32) : (hyphenate digits).length = 36 := by
  simp [hyphenate, length]

theorem parse?_text (id : Id subject) : parse? id.text = some id := by
  have hlength := length_hexDigits 32 id.value
  have hhex : ∀ c ∈ hexDigits 32 id.value, IsHex c := fun c hc => isHex_of_mem_hexDigits hc
  have hnumber : hexNumber? (hexDigits 32 id.value) = some id.value :=
    hexNumber?_hexDigits id.value_lt
  have hfirst : ∃ c cs, id.render = c :: cs ∧ IsHex c := by
    obtain ⟨c, cs, hcons⟩ := List.exists_cons_of_length_eq_add_one hlength
    exact ⟨c, _, by rw [render, hyphenate, hcons]; rfl, hhex c (by simp [hcons])⟩
  have hplain : unbraced? id.render = none ∧ uniformName? id.render = none := by
    obtain ⟨c, cs, hcons, hc⟩ := hfirst
    rw [hcons]
    constructor
    · unfold unbraced?
      split
      next heq => exact absurd (List.cons.inj heq).1 hc.not_prefix.1
      next => rfl
    · refine if_neg fun heq => hc.not_prefix.2 ?_
      exact (List.cons.inj heq).1
  rw [parse?, text, String.toList_ofList, ofChars?,
    if_neg (by rw [render, length_hyphenate hlength]; decide), hplain.1, hplain.2]
  simp only [render, ofHyphenated?_hyphenate hlength hhex, ofDigits?, hlength, if_true, hnumber,
    Option.bind_some, dif_pos id.value_lt]

theorem text_injective : Function.Injective (text : Id subject → String) := by
  intro a b h
  have hparse := parse?_text a
  rw [h, parse?_text b] at hparse
  exact (Option.some.inj hparse).symm

theorem length_render (id : Id subject) : id.render.length = 36 :=
  length_hyphenate (length_hexDigits 32 id.value)

theorem mem_hyphenate (h : c ∈ hyphenate digits) : c = '-' ∨ c ∈ digits := by
  simp only [hyphenate, List.mem_append, List.mem_cons] at h
  grind [List.mem_of_mem_take, List.mem_of_mem_drop]

theorem eq_or_isHex_of_mem_render {id : Id subject} (h : c ∈ id.render) : c = '-' ∨ IsHex c :=
  (mem_hyphenate h).imp_right isHex_of_mem_hexDigits

theorem reads_decode (depth : Nat) (id : Id subject) : Decoder.Reads decode depth id.toJson id :=
  Decoder.reads_parsed id.parse?_text

end Id

end Flotilla
