import Flotilla.Json.Reader
import Flotilla.Text.Split

/-!
# Percent encoding

Paths and queries write bytes as a percent sign and two hexadecimal digits. A percent
sign without two such digits stands for itself. The bytes have to be UTF-8 to be
read as a text.

A query is a list of fields with ampersands between them, and the name of a field ends
at its first equals sign. In both parts of a field a plus sign stands for a space.
-/

namespace Flotilla

namespace Percent

/-- The bytes that a text with percent signs stands for. -/
def decode : List Char → List UInt8
  | [] => []
  | '%' :: a :: b :: rest =>
    match Tree.hexValue? a, Tree.hexValue? b with
    | some high, some low => UInt8.ofNat (16 * high + low) :: decode rest
    | _, _ => 37 :: decode (a :: b :: rest)
  | c :: rest => String.utf8EncodeChar c ++ decode rest

/-- The text that a text with percent signs stands for, if its bytes are one. -/
def text? (cs : List Char) : Option String := String.fromUTF8? ⟨(decode cs).toArray⟩

/-- A part of a field of a query. -/
def formText? (cs : List Char) : Option String :=
  text? (cs.map fun c => if c = '+' then ' ' else c)

/-- The name and the value of a written field; a field without equals sign has no value. -/
def field (cs : List Char) : List Char × List Char := (Split.first '=' cs).getD (cs, [])

/-- The fields of a query, with names and values decoded; a part that is no text is left
out. Empty fields do not count. -/
def fields (query : List Char) : List (Option String × Option String) :=
  ((Split.every '&' query).filter fun piece => !piece.isEmpty).map fun piece =>
    let (name, value) := field piece
    (formText? name, formText? value)

end Percent

end Flotilla
