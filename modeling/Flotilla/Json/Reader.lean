import Flotilla.Json.Tree

/-!
# Reading the surface of a JSON text

`Document.read` takes a text apart into a `Tree` and says whether anything but
blanks follows it. Blanks are the space, the tab and the two line ends. A control
character inside a quoted text, an unknown escape, a leading zero, a missing digit
and a comma before a closing bracket are all faults; a surrogate escape without
its partner is noted and left to whoever keeps the text.

The readers recurse on fuel. A reader uses up one unit for each value, and every
value takes at least one character, so the length of the text is always enough.
-/

namespace Flotilla

namespace Tree

/-- Whether a character may stand between the tokens of a text. -/
def isGap (c : Char) : Bool := c = ' ' || c = '\n' || c = '\t' || c = '\r'

/-- The text from its first character that is no gap. -/
def skipGaps (cs : List Char) : List Char := cs.dropWhile isGap

/-- The number that one hexadecimal digit stands for. -/
def hexValue? (c : Char) : Option Nat :=
  if c.isDigit then some (c.toNat - 48)
  else if 'a' ≤ c ∧ c ≤ 'f' then some (c.toNat - 87)
  else if 'A' ≤ c ∧ c ≤ 'F' then some (c.toNat - 55)
  else none

/-- The number of four hexadecimal digits. -/
def hexQuad? (a b c d : Char) : Option Nat := do
  let a ← hexValue? a
  let b ← hexValue? b
  let c ← hexValue? c
  let d ← hexValue? d
  return ((a * 16 + b) * 16 + c) * 16 + d

/-- What a step inside a quoted text finds: a character, or half of a surrogate pair. -/
inductive Mark where
  | char (c : Char)
  | high (n : Nat)
  | low (n : Nat)

/-- The mark of a code unit written as `\u`. -/
def unitMark (n : Nat) : Mark :=
  if 0xD800 ≤ n ∧ n < 0xDC00 then .high n
  else if 0xDC00 ≤ n ∧ n < 0xE000 then .low n
  else .char (Char.ofNat n)

/-- The character that a letter behind a backslash names. -/
def named? (c : Char) : Option Char :=
  if c = '"' ∨ c = '\\' ∨ c = '/' then some c
  else if c = 'b' then some '\x08'
  else if c = 'f' then some '\x0c'
  else if c = 'n' then some '\n'
  else if c = 'r' then some '\r'
  else if c = 't' then some '\t'
  else none

/-- The marks up to the closing quote, and the text after it. -/
def marks? : List Char → Option (List Mark × List Char)
  | [] => none
  | '"' :: rest => some ([], rest)
  | '\\' :: 'u' :: a :: b :: c :: d :: rest =>
    match hexQuad? a b c d, marks? rest with
    | some n, some (found, rest) => some (unitMark n :: found, rest)
    | _, _ => none
  | '\\' :: c :: rest =>
    match named? c, marks? rest with
    | some c, some (found, rest) => some (.char c :: found, rest)
    | _, _ => none
  | c :: rest =>
    if c = '\\' ∨ c.toNat < 32 then none
    else (marks? rest).map fun found => (.char c :: found.1, found.2)

/-- The character of a high and a low surrogate. -/
def pairChar (high low : Nat) : Char :=
  Char.ofNat (0x10000 + (high - 0xD800) * 0x400 + (low - 0xDC00))

/-- The characters of a text, unless a surrogate is left without its partner. -/
def charsOf? : List Mark → Option (List Char)
  | [] => some []
  | .char c :: rest => (charsOf? rest).map (c :: ·)
  | .high h :: .low l :: rest => (charsOf? rest).map (pairChar h l :: ·)
  | _ => none

/-- The text behind an opening quote, and what follows the closing one. -/
def quoted? (cs : List Char) : Option (Option String × List Char) :=
  (marks? cs).map fun found => ((charsOf? found.1).map String.ofList, found.2)

/-- The digits behind the point of a numeral, if a point is written. -/
def fraction? : List Char → Option (List Char × List Char)
  | '.' :: cs =>
    let (digits, rest) := Digits.span cs
    if digits.isEmpty then none else some (digits, rest)
  | cs => some ([], cs)

/-- The power of ten of a numeral, if one is written. -/
def power? : List Char → Option (Option (Bool × List Char) × List Char)
  | c :: cs =>
    if c = 'e' ∨ c = 'E' then
      let (down, cs) :=
        match cs with
        | '-' :: rest => (true, rest)
        | '+' :: rest => (false, rest)
        | _ => (false, cs)
      let (digits, rest) := Digits.span cs
      if digits.isEmpty then none else some (some (down, digits), rest)
    else some (none, c :: cs)
  | [] => some (none, [])

/-- A numeral and what follows it. Its whole part has no leading zero. -/
def numeral? (cs : List Char) : Option (Numeral × List Char) := do
  let (negative, cs) :=
    match cs with
    | '-' :: rest => (true, rest)
    | _ => (false, cs)
  let (whole, cs) := Digits.span cs
  if whole.isEmpty ∨ (whole.head? = some '0' ∧ whole ≠ ['0']) then none
  else
    let (fraction, cs) ← fraction? cs
    let (power, cs) ← power? cs
    return (⟨negative, whole, fraction, power⟩, cs)

mutual

/-- The value at the front of a text, and what follows it. -/
def readValue : Nat → List Char → Tree × List Char
  | 0, _ => (.broken, [])
  | fuel + 1, cs =>
    match skipGaps cs with
    | [] => (.broken, [])
    | '"' :: rest =>
      match quoted? rest with
      | some (s, rest) => (.text s, rest)
      | none => (.broken, [])
    | '[' :: rest =>
      match skipGaps rest with
      | ']' :: rest => (.array [] true, rest)
      | rest =>
        let (items, closed, rest) := readItems fuel rest
        (.array items closed, rest)
    | '{' :: rest =>
      match skipGaps rest with
      | '}' :: rest => (.object [] true, rest)
      | rest =>
        let (members, closed, rest) := readMembers fuel rest
        (.object members closed, rest)
    | 'n' :: 'u' :: 'l' :: 'l' :: rest => (.null, rest)
    | 't' :: 'r' :: 'u' :: 'e' :: rest => (.bool true, rest)
    | 'f' :: 'a' :: 'l' :: 's' :: 'e' :: rest => (.bool false, rest)
    | rest =>
      match numeral? rest with
      | some (n, rest) => (.number n, rest)
      | none => (.broken, [])

/-- The items of an array from its first one on, and whether the bracket closes. -/
def readItems : Nat → List Char → List Tree × Bool × List Char
  | 0, _ => ([], false, [])
  | fuel + 1, cs =>
    let (item, rest) := readValue fuel cs
    match skipGaps rest with
    | ']' :: rest => ([item], true, rest)
    | ',' :: rest =>
      let (items, closed, rest) := readItems fuel rest
      (item :: items, closed, rest)
    | _ => ([item], false, [])

/-- The members of an object from its first one on, and whether the brace closes. A
name that is no text is kept where it stands, and nothing after it. -/
def readMembers : Nat → List Char → List (Tree × Tree) × Bool × List Char
  | 0, _ => ([], false, [])
  | fuel + 1, cs =>
    match readValue fuel cs with
    | (.text name, rest) =>
      match skipGaps rest with
      | ':' :: rest =>
        let (value, rest) := readValue fuel rest
        match skipGaps rest with
        | '}' :: rest => ([(.text name, value)], true, rest)
        | ',' :: rest =>
          let (members, closed, rest) := readMembers fuel rest
          ((.text name, value) :: members, closed, rest)
        | _ => ([(.text name, value)], false, [])
      | _ => ([(.text name, .broken)], false, [])
    | (other, _) => ([(other, .broken)], false, [])

end

end Tree

/-- A whole JSON text: its value, and whether only gaps follow it. -/
structure Document where
  root : Tree
  ends : Bool

namespace Document

/-- The surface of a text. -/
def read (cs : List Char) : Document :=
  let (root, rest) := Tree.readValue (2 * cs.length + 2) cs
  ⟨root, (Tree.skipGaps rest).isEmpty⟩

/-- A string is read as the characters that it is made of. -/
theorem read_toList {text : String} {cs : List Char} {document : Document}
    (spelled : text = String.ofList cs) (found : read cs = document) :
    read text.toList = document := by
  rw [spelled, String.toList_ofList, found]

end Document

end Flotilla
