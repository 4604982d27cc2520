import Flotilla.Json.Value

/-!
# The surface of a JSON text

A `Tree` is a JSON text as far as it can be read. Reading never fails: where a
value should stand and none does, the tree holds `broken`, and an array or object
whose items stop without the closing bracket is marked as open. What a text
means is decided later, by readers that walk the tree in the order of the text,
so the first thing wrong in a text is the one that counts.

Two things are settled only when a value is kept, and stay open here: whether a
numeral is in range, and whether the escapes of a text pair their surrogates.
-/

namespace Flotilla

/-- A numeral as it is written. -/
structure Numeral where
  negative : Bool
  whole : List Char
  fraction : List Char
  /-- The sign and the digits of the power of ten, if one is written. -/
  power : Option (Bool × List Char)
  deriving DecidableEq

/-- A JSON text as far as it can be read. -/
inductive Tree where
  | null
  | bool (b : Bool)
  | number (n : Numeral)
  /-- A quoted text, or `none` if its escapes leave a surrogate unpaired. -/
  | text (s : Option String)
  | array (items : List Tree) (closed : Bool)
  /-- Each member has the tree that stands in the place of its name. -/
  | object (members : List (Tree × Tree)) (closed : Bool)
  /-- No value stands here. -/
  | broken

namespace Numeral

/-- The greatest unsigned integer of 64 bits. -/
def maxWord : Nat := Nat.pow 2 64 - 1

/-- Digits taken into `significand` while it fits into 64 bits, and the digits left. -/
def absorb (significand : Nat) : List Char → Nat × List Char
  | [] => (significand, [])
  | d :: digits =>
    let next := significand * 10 + (d.toNat - 48)
    if maxWord < next then (significand, d :: digits) else absorb next digits

/-- The power of ten of a numeral, kept to 31 bits; `none` stands for a larger one. -/
def powerOf (digits : List Char) : Option Nat :=
  let n := Nat.ofDigitChars 10 digits 0
  if n < Nat.pow 2 31 then some n else none

/-- The double of a significand at a power of ten, moved by the written power. A
written power beyond 31 bits takes every number to zero or out of range. -/
def scaled? (n : Numeral) (significand : Nat) (k : Int) : Option Json :=
  match n.power with
  | none => (Binary64.ofDecimal? n.negative significand k).map .float
  | some (down, digits) =>
    match powerOf digits with
    | some p =>
      let exponent := if down then k - p else k + p
      (Binary64.ofDecimal? n.negative significand exponent).map .float
    | none =>
      if significand ≠ 0 ∧ down = false then none
      else some (.float ⟨n.negative, 0, Binary64.minExponent⟩)

/-- The value of a numeral, unless it is out of range. Without fraction and power it
is an integer if 64 bits hold it. Digits past the first that do not fit into 64 bits
do not count: in the whole part they move the power of ten, and behind the point
they are dropped. -/
def value? (n : Numeral) : Option Json :=
  match absorb 0 n.whole with
  | (significand, []) =>
    if n.fraction.isEmpty ∧ n.power.isNone then
      if n.negative = false then some (.int significand)
      else if significand = 0 ∨ Nat.pow 2 63 < significand then
        some (.float { Binary64.ofNat significand with negative := true })
      else some (.int (-significand))
    else
      let (s, dropped) := absorb significand n.fraction
      n.scaled? s (-((n.fraction.length - dropped.length : Nat) : Int))
  | (significand, left) =>
    let (s, dropped) := absorb significand n.fraction
    n.scaled? s ((left.length : Int) - ((n.fraction.length - dropped.length : Nat) : Int))

end Numeral

namespace Tree

mutual

/-- Whether a tree is the surface of a whole value: nothing in it is broken or open. -/
def isWhole : Tree → Bool
  | .array items closed => closed && areWhole items
  | .object members closed => closed && haveWhole members
  | .broken => false
  | _ => true

/-- Whether every tree of a list is whole. -/
def areWhole : List Tree → Bool
  | [] => true
  | item :: rest => isWhole item && areWhole rest

/-- Whether every member has a text for a name and a whole value. -/
def haveWhole : List (Tree × Tree) → Bool
  | [] => true
  | (.text _, value) :: rest => isWhole value && haveWhole rest
  | _ :: _ => false

end

end Tree

end Flotilla
