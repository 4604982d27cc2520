import Flotilla.Id
import Flotilla.Text.Blank

/-!
# Header fields

The name of a field is a nonempty token, and case does not matter in it. A value is
a line of bytes without control characters other than the tab; its bytes stand here
as the characters of their numbers.

A viewer is known by the field that the layer in front of the gateway sets. Only its
first value counts, and one with bytes beyond ASCII names nobody.
-/

namespace Flotilla

/-- A header field. -/
structure Header where
  name : String
  value : String
  deriving DecidableEq

namespace Header

/-- Whether a character may stand in the name of a field. -/
def isTokenChar (c : Char) : Bool :=
  c.isAlphanum || "!#$%&'*+-.^_\x60|~".toList.contains c

/-- Whether a character may stand in the value of a field. -/
def isValueChar (c : Char) : Bool :=
  c = '\t' || (32 ≤ c.toNat && c.toNat ≠ 127)

/-- Whether name and value are well formed. -/
def isValid (header : Header) : Bool :=
  !header.name.isEmpty && header.name.toList.all isTokenChar &&
    header.value.toList.all isValueChar

/-- A name in lower case. -/
def lower (name : String) : String := String.ofList (name.toList.map Char.toLower)

/-- The first value of the field of a name. -/
def first? (headers : List Header) (name : String) : Option String :=
  (headers.find? fun header => lower header.name = lower name).map (·.value)

/-- A value that is plain ASCII text. -/
def asciiText? (value : String) : Option String :=
  if value.toList.all fun c => c = '\t' || (32 ≤ c.toNat && c.toNat < 127) then some value
  else none

/-- A value whose bytes are a text in UTF-8. -/
def text? (value : String) : Option String :=
  String.fromUTF8? ⟨(value.toList.map fun c => UInt8.ofNat c.toNat).toArray⟩

/-- The field that names the viewer. -/
def viewerField : String := "x-viewer-id"

/-- The viewer that the fields of a request name. -/
def viewer? (headers : List Header) : Option ViewerId := do
  let value ← first? headers viewerField
  let text ← asciiText? value
  Id.ofChars? (Blank.trim text.toList)

end Header

end Flotilla
