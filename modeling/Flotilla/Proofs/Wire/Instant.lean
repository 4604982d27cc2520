import Flotilla.Proofs.Json.Record
import Flotilla.Proofs.Text.Margin
import Flotilla.Proofs.Wire.Calendar

/-!
# Instants read back

The reader of instants is lenient, but it takes the form that is written in one way only. Every
part of it is read in full, because neither a digit nor a blank stands behind the digits of a part.
The fraction is written with as few groups of three digits as it needs, and a sixtieth second
stands for a leap second, so no part of an instant is lost.
-/

namespace Flotilla

namespace Instant

variable {digits rest : List Char} {most width n nanos : Nat} {c : Char}

section Parts

/-- A numeral of as many digits as a part may have ends with the part. -/
theorem number?_append (all : ∀ c ∈ digits, c.isDigit = true) (length : digits.length = most)
    (ne_nil : digits ≠ []) :
    number? most (digits ++ rest) = some (Nat.ofDigitChars 10 digits 0, rest) := by
  obtain ⟨c, cs, rfl⟩ := List.exists_cons_of_ne_nil ne_nil
  have htrim : Blank.trimFront (c :: cs ++ rest) = c :: cs ++ rest :=
    Blank.trimFront_cons (Blank.isBlank_of_isDigit (all c (by simp)))
  have htake : (((c :: cs) ++ rest).take most).takeWhile Char.isDigit = c :: cs := by
    rw [List.take_left' length]
    have hall : ((c :: cs) ++ []).takeWhile Char.isDigit = (c :: cs) ++ [].takeWhile Char.isDigit :=
      List.takeWhile_append_of_pos all
    simpa using hall
  simp only [number?, htrim, htake, List.isEmpty_cons, Bool.false_eq_true, if_false, List.drop_left]

theorem number?_padded (positive : 0 < width) (fits : n < Nat.pow 10 width) :
    number? width (Digits.padded width n ++ rest) = some (n, rest) := by
  rw [number?_append (fun c hc => Digits.isDigit_of_mem_padded hc)
    (Digits.length_padded positive fits) (Digits.padded_ne_nil width n), Digits.ofDigitChars_padded]

theorem separator?_cons (h : Blank.isBlank c = false) : separator? c (c :: rest) = some rest := by
  simp [separator?, Blank.trimFront_cons h, Split.after?]

/-- A year is read up to the dash behind it. -/
theorem year?_renderYear (year : Int) :
    year? (renderYear year ++ '-' :: rest) = some (year, '-' :: rest) := by
  have hspan (n : Nat) : Digits.span (Digits.padded 4 n ++ '-' :: rest) =
      (Digits.padded 4 n, '-' :: rest) :=
    Digits.span_append_of_digits (fun c hc => Digits.isDigit_of_mem_padded hc) (by simp)
  have hsome (n : Nat) : (Digits.padded 4 n).isEmpty = false :=
    List.isEmpty_eq_false_iff.mpr (Digits.padded_ne_nil 4 n)
  unfold renderYear
  split
  next hplain =>
    obtain ⟨digit, digits, hdigits⟩ := List.exists_cons_of_ne_nil (Digits.padded_ne_nil 4 year.toNat)
    have hdigit : digit.isDigit = true :=
      Digits.isDigit_of_mem_padded (hdigits ▸ List.mem_cons_self)
    have htrim : Blank.trimFront (Digits.padded 4 year.toNat ++ '-' :: rest) =
        Digits.padded 4 year.toNat ++ '-' :: rest := by
      rw [hdigits]
      exact Blank.trimFront_cons (Blank.isBlank_of_isDigit hdigit)
    have hnumber : number? 4 (Digits.padded 4 year.toNat ++ '-' :: rest) =
        some (year.toNat, '-' :: rest) := number?_padded (by decide) (show year.toNat < 10000 by omega)
    rw [year?, htrim]
    split
    next heq =>
      rw [hdigits] at heq
      obtain rfl := (List.cons.inj heq).1
      exact absurd hdigit (by decide)
    next heq =>
      rw [hdigits] at heq
      obtain rfl := (List.cons.inj heq).1
      exact absurd hdigit (by decide)
    next =>
      rw [hnumber]
      simp [Int.toNat_of_nonneg hplain.1]
  next hsigned =>
    by_cases hnegative : year < 0
    · have habs : -(year.natAbs : Int) = year := by omega
      have htrim (cs : List Char) : Blank.trimFront ('-' :: cs) = '-' :: cs :=
        Blank.trimFront_cons (by decide)
      rw [if_pos hnegative, List.cons_append, year?, htrim]
      simp only [hspan, hsome, Digits.ofDigitChars_padded]
      exact congrArg (fun read => some (read, '-' :: rest)) habs
    · have habs : (year.natAbs : Int) = year := by omega
      have htrim (cs : List Char) : Blank.trimFront ('+' :: cs) = '+' :: cs :=
        Blank.trimFront_cons (by decide)
      rw [if_neg hnegative, List.cons_append, year?, htrim]
      simp only [hspan, hsome, Digits.ofDigitChars_padded]
      exact congrArg (fun read => some (read, '-' :: rest)) habs

/-- Up to nine digits behind a point are read as that part of a second. -/
theorem fraction?_padded (positive : 0 < width) (le : width ≤ 9) (fits : n < Nat.pow 10 width) :
    fraction? ('.' :: (Digits.padded width n ++ ['Z'])) =
      some (n * Nat.pow 10 (9 - width), ['Z']) := by
  have hspan : Digits.span (Digits.padded width n ++ ['Z']) = (Digits.padded width n, ['Z']) :=
    Digits.span_append_of_digits (fun c hc => Digits.isDigit_of_mem_padded hc) (by simp)
  have hsome : (Digits.padded width n).isEmpty = false :=
    List.isEmpty_eq_false_iff.mpr (Digits.padded_ne_nil width n)
  have hlength := Digits.length_padded positive fits
  have htake : (Digits.padded width n).take 9 = Digits.padded width n :=
    List.take_of_length_le (by omega)
  simp [fraction?, hspan, hsome, htake, hlength]

/-- No digit of a fraction is lost: the ones that are left out are zero. -/
theorem fraction?_renderFraction (h : nanos < 1000000000) :
    fraction? (renderFraction nanos ++ ['Z']) = some (nanos, ['Z']) := by
  unfold renderFraction
  split
  next hzero => rw [hzero]; rfl
  next =>
    split
    next hmillis =>
      have hfits : nanos / 1000000 < 1000 := by omega
      have hwhole : nanos / 1000000 * 1000000 = nanos := by omega
      rw [List.cons_append, fraction?_padded (by decide) (by decide) hfits]
      exact congrArg (fun read => some (read, ['Z'])) hwhole
    next =>
      split
      next hmicros =>
        have hfits : nanos / 1000 < 1000000 := by omega
        have hwhole : nanos / 1000 * 1000 = nanos := by omega
        rw [List.cons_append, fraction?_padded (by decide) (by decide) hfits]
        exact congrArg (fun read => some (read, ['Z'])) hwhole
      next =>
        rw [List.cons_append, fraction?_padded (by decide) (by decide) h]
        exact congrArg (fun read => some (read, ['Z'])) (Nat.mul_one nanos)

end Parts

/-- The date and the time of day of an instant determine it. -/
theorem ofLocal?_dateOf (t : Instant) :
    ofLocal? (Calendar.dateOf t.day).1 (Calendar.dateOf t.day).2.1 (Calendar.dateOf t.day).2.2
      (t.second / 3600) (t.second / 60 % 60) (t.second % 60 + t.nanos / 1000000000)
      (t.nanos % 1000000000) 0 = some t := by
  have hdate := Calendar.isDate_dateOf t.day
  have hnumber := Calendar.dayNumber_dateOf t.day
  have hyear := Calendar.year_bounds hdate (hnumber.symm ▸ t.day_ge) (hnumber.symm ▸ t.day_le)
  have hsecond := t.second_lt
  have hnanos := t.nanos_lt
  have hclock : t.second / 3600 * 3600 + t.second / 60 % 60 * 60 +
      (if t.second % 60 + t.nanos / 1000000000 = 60 then 59
        else t.second % 60 + t.nanos / 1000000000) = t.second := by
    split <;> omega
  have hfraction : (if t.second % 60 + t.nanos / 1000000000 = 60
      then t.nanos % 1000000000 + 1000000000 else t.nanos % 1000000000) = t.nanos := by
    split <;> omega
  have hday : (t.second : Int) / 86400 = 0 := by omega
  have hrest : ((t.second : Int) % 86400).toNat = t.second := by omega
  rw [ofLocal?, if_pos ⟨hyear.1, hyear.2, hdate, by omega, by omega, by omega⟩, hnumber]
  simp only [hclock, hfraction, Int.mul_zero, Int.sub_zero, hday, hrest, Int.add_zero]
  exact dif_pos ⟨⟨t.day_ge, t.day_le⟩, hsecond, hnanos⟩

/-- The parts of a written instant are read one by one. -/
theorem ofChars?_parts {year : Int} {month day hour minute second : Nat} (hmonth : month < 100)
    (hday : day < 100) (hhour : hour < 100) (hminute : minute < 100) (hsecond : second < 100)
    (hnanos : nanos < 1000000000) :
    ofChars? (renderYear year ++ '-' :: (Digits.padded 2 month ++ '-' :: (Digits.padded 2 day ++
      'T' :: (Digits.padded 2 hour ++ ':' :: (Digits.padded 2 minute ++
        ':' :: (Digits.padded 2 second ++ (renderFraction nanos ++ ['Z']))))))) =
      ofLocal? year month day hour minute second nanos 0 := by
  have htwo {n : Nat} (h : n < 100) (rest : List Char) :
      number? 2 (Digits.padded 2 n ++ rest) = some (n, rest) := number?_padded (by decide) h
  have hdash (rest : List Char) : separator? '-' ('-' :: rest) = some rest :=
    separator?_cons (by decide)
  have hcolon (rest : List Char) : separator? ':' (':' :: rest) = some rest :=
    separator?_cons (by decide)
  have hoffset : offset? (Blank.trimFront ['Z']) = some (0, []) := by decide
  rw [ofChars?, year?_renderYear]
  dsimp only [Option.bind_eq_bind, Option.bind_some]
  rw [hdash, Option.bind_some, htwo hmonth, Option.bind_some, hdash, Option.bind_some, htwo hday,
    Option.bind_some]
  dsimp only
  rw [if_pos (.inl rfl), htwo hhour, Option.bind_some, hcolon, Option.bind_some, htwo hminute,
    Option.bind_some, hcolon, Option.bind_some, htwo hsecond, Option.bind_some,
    fraction?_renderFraction hnanos, Option.bind_some, hoffset]
  rfl

theorem parse?_text (t : Instant) : parse? t.text = some t := by
  have hdate := Calendar.isDate_dateOf t.day
  simp only [Calendar.isDate, Bool.and_eq_true, decide_eq_true_eq] at hdate
  have hlength := Calendar.monthLength_le (Calendar.dateOf t.day).1 (Calendar.dateOf t.day).2.1
  have hsecond := t.second_lt
  have hnanos := t.nanos_lt
  rw [parse?, text, String.toList_ofList, render]
  exact (ofChars?_parts (by omega) (by omega) (by omega) (by omega) (by omega) (by omega)).trans
    t.ofLocal?_dateOf

theorem reads_decode (depth : Nat) (t : Instant) : Decoder.Reads decode depth t.toJson t :=
  Decoder.reads_parsed t.parse?_text

end Instant

end Flotilla
