import Flotilla.Text.Digits

/-!
# Written numerals

What `Digits.render` and `Digits.padded` write: digits only, as many as are asked for, that stand
for the number that was written. A reader that takes the digits at the front of a text takes the
whole numeral, as long as no digit follows it.
-/

namespace Flotilla

namespace Digits

variable {n width : Nat} {c : Char} {digits rest : List Char}

theorem isDigit_of_mem_render (h : c ∈ render n) : c.isDigit = true :=
  Nat.isDigit_of_mem_toDigits (by decide) (by decide) h

@[simp] theorem ofDigitChars_render (n : Nat) : Nat.ofDigitChars 10 (render n) 0 = n :=
  Nat.ofDigitChars_ten_toDigits

theorem render_ne_nil (n : Nat) : render n ≠ [] := Nat.toDigits_ne_nil

/-- Only the numeral of zero begins with a zero. -/
theorem head?_render_ne_zero (h : 0 < n) : (render n).head? ≠ some '0' := by
  induction n using Nat.strongRecOn with
  | ind n ih =>
      unfold render
      rw [Nat.toDigits_eq_if (by decide)]
      split
      next hlt =>
        have hdigits : ∀ d < 10, 0 < d → d.digitChar ≠ '0' := by decide
        simpa using hdigits n hlt h
      next hge =>
        rw [List.head?_append, Option.or_of_isSome (List.isSome_head?.mpr Nat.toDigits_ne_nil)]
        exact ih (n / 10) (by omega) (by omega)

theorem isDigit_of_mem_padded (h : c ∈ padded width n) : c.isDigit = true := by
  rcases List.mem_append.mp h with hzero | hrender
  · obtain rfl := List.eq_of_mem_replicate hzero
    rfl
  · exact isDigit_of_mem_render hrender

@[simp] theorem ofDigitChars_padded (width n : Nat) :
    Nat.ofDigitChars 10 (padded width n) 0 = n := by
  rw [padded, Nat.ofDigitChars_append, Nat.ofDigitChars_replicate_zero, Nat.mul_zero,
    ofDigitChars_render]

theorem padded_ne_nil (width n : Nat) : padded width n ≠ [] :=
  List.append_ne_nil_of_right_ne_nil _ (render_ne_nil n)

/-- A number that fits is written with exactly as many digits as are asked for. -/
theorem length_padded (positive : 0 < width) (fits : n < Nat.pow 10 width) :
    (padded width n).length = width := by
  have hle : (render n).length ≤ width := (Nat.length_toDigits_le_iff (by decide) positive).mpr fits
  rw [padded, List.length_append, List.length_replicate]
  omega

/-- A numeral that no digit follows is the digits at the front. -/
theorem span_append_of_digits (all : ∀ c ∈ digits, c.isDigit = true)
    (stops : ∀ c ∈ rest.head?, c.isDigit = false) : span (digits ++ rest) = (digits, rest) := by
  have hrest : rest.takeWhile Char.isDigit = [] ∧ rest.dropWhile Char.isDigit = rest := by
    cases rest with
    | nil => simp
    | cons c rest => simp [stops c rfl]
  rw [span, List.takeWhile_append_of_pos all, List.dropWhile_append_of_pos all, hrest.1, hrest.2,
    List.append_nil]

/-- A nonempty run of digits for a number below `bound`; leading zeros are allowed. -/
structure Numeral (bound : Nat) (digits : List Char) (n : Nat) : Prop where
  present : digits ≠ []
  all : ∀ d ∈ digits, d.isDigit = true
  value : Nat.ofDigitChars 10 digits 0 = n
  fits : n < bound

/-- A numeral for a number below `bound`, with a plus sign in front or without one. -/
inductive Signed (bound : Nat) : List Char → Nat → Prop where
  | plain {digits : List Char} {n : Nat} (h : Numeral bound digits n) : Signed bound digits n
  | plus {digits : List Char} {n : Nat} (h : Numeral bound digits n) :
      Signed bound ('+' :: digits) n

variable {bound : Nat} {cs : List Char}

theorem read?_eq_some_iff_numeral : read? bound cs = some n ↔ Numeral bound cs n := by
  rw [read?_eq_some_iff, List.all_eq_true]
  constructor
  · rintro ⟨present, all, value, fits⟩
    exact ⟨present, all, value, fits⟩
  · rintro ⟨present, all, value, fits⟩
    exact ⟨present, all, value, fits⟩

theorem readSigned?_eq_some_iff : readSigned? bound cs = some n ↔ Signed bound cs n := by
  constructor
  · intro h
    unfold readSigned? at h
    split at h
    next digits => exact .plus (read?_eq_some_iff_numeral.mp h)
    next => exact .plain (read?_eq_some_iff_numeral.mp h)
  · intro h
    cases h with
    | plus h => exact read?_eq_some_iff_numeral.mpr h
    | plain h =>
        unfold readSigned?
        split
        next digits => exact absurd (h.all '+' (by simp)) (by decide)
        next => exact read?_eq_some_iff_numeral.mpr h

theorem Signed.ne_nil (h : Signed bound cs n) : cs ≠ [] := by
  cases h with
  | plain h => exact h.present
  | plus => simp

theorem Signed.isDigit_or_eq_plus (h : Signed bound cs n) :
    ∀ c ∈ cs, c.isDigit = true ∨ c = '+' := by
  cases h with
  | plain h => exact fun c hc => .inl (h.all c hc)
  | plus h => exact List.forall_mem_cons.mpr ⟨.inr rfl, fun c hc => .inl (h.all c hc)⟩

theorem Signed.not_mem (h : Signed bound cs n) (digit : c.isDigit = false) (plus : c ≠ '+') :
    c ∉ cs := by
  intro hmem
  rcases h.isDigit_or_eq_plus c hmem with hc | hc
  · simp [hc] at digit
  · exact plus hc

theorem numeral_render (fits : n < bound) : Numeral bound (render n) n :=
  ⟨render_ne_nil n, fun _ => isDigit_of_mem_render, ofDigitChars_render n, fits⟩

end Digits

end Flotilla
