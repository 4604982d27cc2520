import Flotilla.Json.Decoder
import Flotilla.Text.Blank
import Flotilla.Text.Split

/-!
# Instants

An instant is a day of the Gregorian calendar, a second of that day in universal
time and a count of nanoseconds. A count of a billion or more marks the inside of
a leap second, which belongs to the second before it. Instants are ordered by
these three numbers.

The reader is lenient: numbers may have fewer digits than usual, blanks may stand
before any of them, before the dashes, colons and the offset, and the offset may be
a letter, the name of universal time, or hours and minutes with any separator of
colons and blanks. The writer always uses one form, and writes three, six or nine
digits of the fraction, or none if it is zero.
-/

namespace Flotilla

namespace Calendar

/-- Whether a year has a twenty-ninth of February. -/
def isLeap (year : Int) : Bool :=
  year % 4 = 0 && (year % 100 ≠ 0 || year % 400 = 0)

/-- The number of days of a month. -/
def monthLength (year : Int) (month : Nat) : Nat :=
  if month = 2 then (if isLeap year then 29 else 28)
  else if month = 4 ∨ month = 6 ∨ month = 9 ∨ month = 11 then 30
  else 31

/-- Whether a year, a month and a day name a date. -/
def isDate (year : Int) (month day : Nat) : Bool :=
  1 ≤ month && month ≤ 12 && 1 ≤ day && day ≤ monthLength year month

/-- Days from the first of January 1970 to a date. Years are counted from March, so
that the leap day is the last day of a year. -/
def dayNumber (year : Int) (month day : Nat) : Int :=
  let y := if month ≤ 2 then year - 1 else year
  let m : Int := if month ≤ 2 then month + 9 else month - 3
  365 * y + y / 4 - y / 100 + y / 400 + (153 * m + 2) / 5 + day - 1 - 719468

/-- The year, month and day of a day number. -/
def dateOf (number : Int) : Int × Nat × Nat :=
  let n := number + 719468
  let era := n / 146097
  let ofEra := n % 146097
  let yearOfEra := (ofEra - ofEra / 1460 + ofEra / 36524 - ofEra / 146096) / 365
  let ofYear := ofEra - (365 * yearOfEra + yearOfEra / 4 - yearOfEra / 100)
  let m := (5 * ofYear + 2) / 153
  let day := (ofYear - (153 * m + 2) / 5 + 1).toNat
  let month := (if m < 10 then m + 3 else m - 9).toNat
  let year := yearOfEra + era * 400
  (if month ≤ 2 then year + 1 else year, month, day)

/-- The first year in which instants lie. -/
def firstYear : Int := -262143

/-- The last year in which instants lie. -/
def lastYear : Int := 262142

/-- The first day on which instants lie. -/
def firstDay : Int := dayNumber firstYear 1 1

/-- The last day on which instants lie. -/
def lastDay : Int := dayNumber lastYear 12 31

end Calendar

/-- A point in universal time, as a clock reads it or a text spells it. Nanoseconds beyond a second
stand in the last second of a minute only; a time that has been given them in another second, which
neither a clock nor a text does, is left out. -/
structure Instant where
  /-- Days since the first of January 1970. -/
  day : Int
  /-- Seconds since midnight. -/
  second : Nat
  /-- Nanoseconds, a billion more inside a leap second. -/
  nanos : Nat
  day_ge : Calendar.firstDay ≤ day
  day_le : day ≤ Calendar.lastDay
  second_lt : second < 86400
  /-- A leap second belongs to the last second of a minute. -/
  nanos_lt : nanos < 1000000000 ∨ second % 60 = 59 ∧ nanos < 2000000000
  deriving DecidableEq

namespace Instant

/-- The instant of these numbers, if there is one. -/
def of? (day : Int) (second nanos : Nat) : Option Instant :=
  if h : (Calendar.firstDay ≤ day ∧ day ≤ Calendar.lastDay) ∧ second < 86400 ∧
      (nanos < 1000000000 ∨ second % 60 = 59 ∧ nanos < 2000000000) then
    some ⟨day, second, nanos, h.1.1, h.1.2, h.2.1, h.2.2⟩
  else none

/-- The order of instants. -/
def compare (a b : Instant) : Ordering :=
  (Ord.compare a.day b.day).then
    ((Ord.compare a.second b.second).then (Ord.compare a.nanos b.nanos))

/-- The year of an instant: four digits, or a sign and at least four digits if the
year needs one. -/
def renderYear (year : Int) : List Char :=
  if 0 ≤ year ∧ year ≤ 9999 then Digits.padded 4 year.toNat
  else (if year < 0 then '-' else '+') :: Digits.padded 4 year.natAbs

/-- The fraction of a second, in three, six or nine digits. -/
def renderFraction (nanos : Nat) : List Char :=
  if nanos = 0 then []
  else if nanos % 1000000 = 0 then '.' :: Digits.padded 3 (nanos / 1000000)
  else if nanos % 1000 = 0 then '.' :: Digits.padded 6 (nanos / 1000)
  else '.' :: Digits.padded 9 nanos

/-- The written form of an instant. -/
def render (t : Instant) : List Char :=
  let (year, month, day) := Calendar.dateOf t.day
  let leap := t.nanos / 1000000000
  renderYear year ++ '-' :: (Digits.padded 2 month ++ '-' :: (Digits.padded 2 day ++
    'T' :: (Digits.padded 2 (t.second / 3600) ++ ':' :: (Digits.padded 2 (t.second / 60 % 60) ++
      ':' :: (Digits.padded 2 (t.second % 60 + leap) ++
        (renderFraction (t.nanos % 1000000000) ++ ['Z']))))))

/-- A number of one up to `most` digits, with blanks before it. -/
def number? (most : Nat) (cs : List Char) : Option (Nat × List Char) :=
  let cs := Blank.trimFront cs
  let digits := (cs.take most).takeWhile Char.isDigit
  if digits.isEmpty then none
  else some (Nat.ofDigitChars 10 digits 0, cs.drop digits.length)

/-- A year: up to four digits, or any number of them behind a sign. Years of more
than 18 digits are out of range in any case. -/
def year? (cs : List Char) : Option (Int × List Char) :=
  let signed (cs : List Char) : Option (Nat × List Char) :=
    let (digits, rest) := Digits.span cs
    if digits.isEmpty then none else some (Nat.ofDigitChars 10 digits 0, rest)
  match Blank.trimFront cs with
  | '-' :: cs => (signed cs).map fun found => (-(found.1 : Int), found.2)
  | '+' :: cs => (signed cs).map fun found => ((found.1 : Int), found.2)
  | cs => (number? 4 cs).map fun found => ((found.1 : Int), found.2)

/-- A separator, with blanks before it. -/
def separator? (c : Char) (cs : List Char) : Option (List Char) :=
  Split.after? [c] (Blank.trimFront cs)

/-- The nanoseconds of a written fraction; digits past the ninth do not count. -/
def fraction? : List Char → Option (Nat × List Char)
  | '.' :: cs =>
    let (digits, rest) := Digits.span cs
    if digits.isEmpty then none
    else
      let kept := digits.take 9
      some (Nat.ofDigitChars 10 kept 0 * Nat.pow 10 (9 - kept.length), rest)
  | cs => some (0, cs)

/-- Two digits. -/
def twoDigits? : List Char → Option (Nat × List Char)
  | a :: b :: rest =>
    if a.isDigit ∧ b.isDigit then some (Nat.ofDigitChars 10 [a, b] 0, rest) else none
  | _ => none

/-- Whether a character may stand between the hours and the minutes of an offset. -/
def isOffsetGap (c : Char) : Bool := c = ':' || Blank.isBlank c

/-- The minutes of an offset from universal time, and what follows the offset. -/
def offset? (cs : List Char) : Option (Int × List Char) :=
  let signed (negative : Bool) (cs : List Char) : Option (Int × List Char) := do
    let (hours, cs) ← twoDigits? cs
    let (minutes, cs) ← twoDigits? (cs.dropWhile isOffsetGap)
    if minutes < 60 ∧ hours < 24 then
      let total : Int := (hours * 60 + minutes : Nat)
      return (if negative then -total else total, cs)
    else none
  match cs with
  | [] => none
  | c :: rest =>
    if (cs.take 3).map Char.toLower = ['u', 't', 'c'] then some (0, cs.drop 3)
    else if c = 'Z' ∨ c = 'z' then some (0, rest)
    else if c = '+' then signed false rest
    else if c = '-' ∨ c = '\u2212' then signed true rest
    else none

/-- The instant of a date and a time of day at an offset in minutes. A sixtieth second
is a leap second. -/
def ofLocal? (year : Int) (month day hour minute second nanos : Nat) (offset : Int) :
    Option Instant :=
  if Calendar.firstYear ≤ year ∧ year ≤ Calendar.lastYear ∧ Calendar.isDate year month day ∧
      hour < 24 ∧ minute < 60 ∧ second ≤ 60 then
    let leap := second = 60
    let clock : Int := (hour * 3600 + minute * 60 + (if leap then 59 else second) : Nat)
    let shifted := clock - 60 * offset
    of? (Calendar.dayNumber year month day + shifted / 86400) (shifted % 86400).toNat
      (if leap then nanos + 1000000000 else nanos)
  else none

/-- The instant that a text names. -/
def ofChars? (cs : List Char) : Option Instant := do
  let (year, cs) ← year? cs
  let cs ← separator? '-' cs
  let (month, cs) ← number? 2 cs
  let cs ← separator? '-' cs
  let (day, cs) ← number? 2 cs
  let cs ←
    match cs with
    | c :: rest => if c = 'T' ∨ c = 't' ∨ c = ' ' then some rest else none
    | [] => none
  let (hour, cs) ← number? 2 cs
  let cs ← separator? ':' cs
  let (minute, cs) ← number? 2 cs
  let cs ← separator? ':' cs
  let (second, cs) ← number? 2 cs
  let (nanos, cs) ← fraction? cs
  let (offset, cs) ← offset? (Blank.trimFront cs)
  if (Blank.trimFront cs).isEmpty then
    ofLocal? year month day hour minute second nanos offset
  else none

/-- The instant that a string names. -/
def parse? (s : String) : Option Instant := ofChars? s.toList

/-- The written form of an instant as a string. -/
def text (t : Instant) : String := String.ofList t.render

/-- The written form of an instant with its offset from universal time in digits. -/
def offsetText (t : Instant) : String := String.ofList (t.render.dropLast ++ "+00:00".toList)

/-- An instant as a JSON value. -/
def toJson (t : Instant) : Json := .str t.text

/-- An instant in a JSON text. -/
def decode : Decoder Instant := Decoder.parsed parse?

end Instant

end Flotilla
