/-!
# Decimal numerals

A numeral is a nonempty run of ASCII digits. Digits of other scripts are not
digits here, leading zeros are harmless, and a reader that serves a bounded
field refuses every number that does not fit instead of reducing it.

`Digits.render` writes the shortest numeral of a number and `Digits.padded` fills
it up with zeros on the left, so a written numeral always reads back.
-/

namespace Flotilla

namespace Digits

/-- The number that a nonempty run of ASCII digits below `bound` stands for. -/
def read? (bound : Nat) (cs : List Char) : Option Nat :=
  if cs ≠ [] ∧ cs.all Char.isDigit = true ∧ Nat.ofDigitChars 10 cs 0 < bound then
    some (Nat.ofDigitChars 10 cs 0)
  else
    none

/-- As `read?`, with one plus sign allowed in front of the digits. -/
def readSigned? (bound : Nat) : List Char → Option Nat
  | '+' :: cs => read? bound cs
  | cs => read? bound cs

/-- The shortest numeral of a number. -/
def render (n : Nat) : List Char := Nat.toDigits 10 n

/-- The numeral of `n`, filled up with zeros on the left to `width` digits. -/
def padded (width n : Nat) : List Char :=
  List.replicate (width - (render n).length) '0' ++ render n

/-- The digits at the front of a text, and what follows them. -/
def span (cs : List Char) : List Char × List Char :=
  (cs.takeWhile Char.isDigit, cs.dropWhile Char.isDigit)

theorem read?_eq_some_iff {bound n : Nat} {cs : List Char} :
    read? bound cs = some n ↔
      cs ≠ [] ∧ cs.all Char.isDigit = true ∧ Nat.ofDigitChars 10 cs 0 = n ∧ n < bound := by
  unfold read?
  split
  · next h =>
    constructor
    · rintro ⟨rfl⟩
      exact ⟨h.1, h.2.1, rfl, h.2.2⟩
    · rintro ⟨_, _, rfl, _⟩
      rfl
  · next h =>
    constructor
    · intro hn
      exact absurd hn (by simp)
    · rintro ⟨h₁, h₂, rfl, h₃⟩
      exact absurd ⟨h₁, h₂, h₃⟩ h

theorem read?_render {bound n : Nat} (h : n < bound) : read? bound (render n) = some n := by
  refine read?_eq_some_iff.mpr ⟨Nat.toDigits_ne_nil, ?_, ?_, h⟩
  · exact List.all_eq_true.mpr fun _ hc => Nat.isDigit_of_mem_toDigits (by decide) (by decide) hc
  · exact Nat.ofDigitChars_toDigits (by decide) (by decide)

@[simp] theorem span_append (cs : List Char) : (span cs).1 ++ (span cs).2 = cs :=
  List.takeWhile_append_dropWhile

end Digits

end Flotilla
