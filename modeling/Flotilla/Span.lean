import Flotilla.Json.Decoder

/-!
# Lengths of time

A span is a whole number of nanoseconds. It is written in the largest unit among
seconds, milliseconds, microseconds and nanoseconds of which it holds at least one,
as a decimal without trailing zeros.
-/

namespace Flotilla

/-- A length of time. -/
structure Span where
  nanos : Nat
  deriving DecidableEq

namespace Span

instance : LE Span := ⟨fun a b => a.nanos ≤ b.nanos⟩

instance : LT Span := ⟨fun a b => a.nanos < b.nanos⟩

instance : DecidableLE Span := fun a b => inferInstanceAs (Decidable (a.nanos ≤ b.nanos))

instance : DecidableLT Span := fun a b => inferInstanceAs (Decidable (a.nanos < b.nanos))

/-- The span of a number of seconds. -/
def ofSeconds (n : Nat) : Span := ⟨n * 1000000000⟩

/-- The span of a number of milliseconds. -/
def ofMillis (n : Nat) : Span := ⟨n * 1000000⟩

/-- The sum of two spans. -/
def add (a b : Span) : Span := ⟨a.nanos + b.nanos⟩

instance : Add Span := ⟨add⟩

/-- The whole seconds of a span. -/
def seconds (s : Span) : Nat := s.nanos / 1000000000

/-- The nanoseconds beyond the whole seconds. -/
def subsecNanos (s : Span) : Nat := s.nanos % 1000000000

/-- A span in seconds, as the nearest double. -/
def secondsFloat (s : Span) : Binary64 :=
  let x := (Binary64.ofQuotient? s.nanos 1000000000).getD (0, Binary64.minExponent)
  ⟨false, x.1, x.2⟩

/-- `nanos` in units of `unit`, as a decimal without trailing zeros. -/
def decimal (nanos unit : Nat) : List Char :=
  let places := (Digits.render unit).length - 1
  let fraction := (Digits.padded places (nanos % unit)).reverse.dropWhile (· = '0') |>.reverse
  Digits.render (nanos / unit) ++
    (if nanos % unit = 0 then [] else '.' :: fraction)

/-- The written form of a span. -/
def render (s : Span) : List Char :=
  if 1000000000 ≤ s.nanos then decimal s.nanos 1000000000 ++ ['s']
  else if 1000000 ≤ s.nanos then decimal s.nanos 1000000 ++ ['m', 's']
  else if 1000 ≤ s.nanos then decimal s.nanos 1000 ++ ['µ', 's']
  else Digits.render s.nanos ++ ['n', 's']

/-- The written form of a span as a string. -/
def text (s : Span) : String := String.ofList s.render

@[simp] theorem nanos_add (a b : Span) : (a + b).nanos = a.nanos + b.nanos := rfl

@[simp] theorem le_iff (a b : Span) : a ≤ b ↔ a.nanos ≤ b.nanos := Iff.rfl

@[simp] theorem lt_iff (a b : Span) : a < b ↔ a.nanos < b.nanos := Iff.rfl

end Span

end Flotilla
