import Flotilla.Json.Decoder
import Flotilla.Json.Printer
import Flotilla.Text.Split

/-!
# Identifiers

Servers and viewers are named by numbers of 128 bits. The two kinds of number are
told apart by their types, so one can never stand for the other.

An identifier is written as 32 lower-case hexadecimal digits in groups of 8, 4, 4,
4 and 12. It is read back with or without the hyphens, and in its hyphenated form
also in braces or as a `urn:uuid:` name. The case of letters never matters.
-/

namespace Flotilla

/-- What an identifier names. -/
inductive Subject where
  | server
  | viewer

/-- An identifier: a number of 128 bits. -/
structure Id (subject : Subject) where
  value : Nat
  value_lt : value < Nat.pow 2 128

/-- The identifier of a managed game server. -/
abbrev ServerId := Id .server

/-- The identity of someone who watches the fleet. -/
abbrev ViewerId := Id .viewer

namespace Id

variable {subject : Subject}

theorem ext {a b : Id subject} (h : a.value = b.value) : a = b := by
  cases a
  cases b
  simp_all

instance : DecidableEq (Id subject) := fun a b =>
  if h : a.value = b.value then isTrue (ext h)
  else isFalse fun heq => h (congrArg value heq)

instance : LT (Id subject) := ⟨fun a b => a.value < b.value⟩

instance : LE (Id subject) := ⟨fun a b => a.value ≤ b.value⟩

instance : DecidableLT (Id subject) := fun a b => inferInstanceAs (Decidable (a.value < b.value))

instance : Std.IsLinearOrder (Id subject) where
  le_refl a := Nat.le_refl a.value
  le_trans _ _ _ h₁ h₂ := Nat.le_trans h₁ h₂
  le_antisymm _ _ h₁ h₂ := ext (Nat.le_antisymm h₁ h₂)
  le_total a b := Nat.le_total a.value b.value

instance : Std.LawfulOrderLT (Id subject) where
  lt_iff a b := by
    change a.value < b.value ↔ a.value ≤ b.value ∧ ¬ b.value ≤ a.value
    omega

/-- The last `count` hexadecimal digits of a number. -/
def hexDigits : Nat → Nat → List Char
  | 0, _ => []
  | count + 1, n => hexDigits count (n / 16) ++ [Json.hexDigit (n % 16)]

/-- Digits with hyphens behind the eighth, twelfth, sixteenth and twentieth. -/
def hyphenate (digits : List Char) : List Char :=
  digits.take 8 ++ '-' :: ((digits.drop 8).take 4 ++ '-' :: ((digits.drop 12).take 4 ++
    '-' :: ((digits.drop 16).take 4 ++ '-' :: digits.drop 20)))

/-- The written form of an identifier. -/
def render (id : Id subject) : List Char := hyphenate (hexDigits 32 id.value)

/-- The written form of an identifier as a string. -/
def text (id : Id subject) : String := String.ofList id.render

/-- The number that hexadecimal digits stand for. -/
def hexNumber? (digits : List Char) : Option Nat :=
  digits.foldlM (fun n c => (Tree.hexValue? c).map (16 * n + ·)) 0

/-- The identifier of 32 hexadecimal digits. -/
def ofDigits? (digits : List Char) : Option (Id subject) :=
  if digits.length = 32 then
    (hexNumber? digits).bind fun n => if h : n < Nat.pow 2 128 then some ⟨n, h⟩ else none
  else none

/-- The identifier of a hyphenated text. -/
def ofHyphenated? (cs : List Char) : Option (Id subject) :=
  let groups := Split.every '-' cs
  if groups.map (·.length) = [8, 4, 4, 4, 12] then ofDigits? groups.flatten else none

/-- The text inside a pair of braces. -/
def unbraced? : List Char → Option (List Char)
  | '{' :: cs => if cs.getLast? = some '}' then some cs.dropLast else none
  | _ => none

/-- What stands behind `urn:uuid:`, in either case of letters. -/
def uniformName? (cs : List Char) : Option (List Char) :=
  if (cs.take 9).map Char.toLower = "urn:uuid:".toList then some (cs.drop 9) else none

/-- The identifier that a text is one of the accepted forms of. -/
def ofChars? (cs : List Char) : Option (Id subject) :=
  if cs.length = 32 then ofDigits? cs
  else
    match unbraced? cs, uniformName? cs with
    | some inner, _ => ofHyphenated? inner
    | none, some name => ofHyphenated? name
    | none, none => ofHyphenated? cs

/-- The identifier that a string is one of the accepted forms of. -/
def parse? (s : String) : Option (Id subject) := ofChars? s.toList

/-- An identifier as a JSON value. -/
def toJson (id : Id subject) : Json := .str id.text

/-- An identifier in a JSON text. -/
def decode : Decoder (Id subject) := Decoder.parsed parse?

end Id

end Flotilla
