import Flotilla.Json.Reader

/-!
# Reading typed values

A `Decoder` takes a value of some type from the surface of a text. It fails in one
of two ways: the text is no JSON where it was needed, or it is JSON of the wrong
shape. Decoders walk a text from front to back, so of several faults the first in
the text is reported.

Arrays and objects that are kept may be nested 127 deep, and the first argument of
a decoder counts how many may still be opened. Members that nobody asked for are
only skipped: they have to be whole, and neither their depth nor the range of their
numerals matters.

A record may be written as an object or as the array of its columns in order. In an
object every column stands at most once; in an array nothing may follow the last
column, and only columns with a default may be missing at its end.
-/

namespace Flotilla

/-- Why a text does not hold a value of the wanted type. -/
inductive Fault where
  /-- The text is not JSON, or it is nested too deeply or holds a number out of range. -/
  | malformed
  /-- The text is JSON of another shape. -/
  | mismatch
  deriving DecidableEq

/-- A reader of values of one type, told how many brackets may still be opened. -/
abbrev Decoder (α : Type) := Nat → Tree → Except Fault α

/-- How deep kept values may be nested. -/
def maxDepth : Nat := 127

namespace Decoder

/-- The fault of a tree that is not of the wanted type. Texts and numerals are read
to their end before they are refused, arrays and objects are not. -/
def unexpected : Tree → Fault
  | .broken => .malformed
  | .text none => .malformed
  | .number n => if n.value?.isSome then .mismatch else .malformed
  | _ => .mismatch

mutual

/-- Any value. -/
def json : Decoder Json
  | _, .null => .ok .null
  | _, .bool b => .ok (.bool b)
  | _, .number n =>
    match n.value? with
    | some v => .ok v
    | none => .error .malformed
  | _, .text (some s) => .ok (.str s)
  | _, .text none => .error .malformed
  | 0, .array _ _ => .error .malformed
  | depth + 1, .array items closed => do
    let values ← jsonItems depth items
    if closed then .ok (.arr values) else .error .malformed
  | 0, .object _ _ => .error .malformed
  | depth + 1, .object members closed => do
    let values ← jsonMembers depth members
    if closed then .ok (Json.object values) else .error .malformed
  | _, .broken => .error .malformed

/-- The items of an array of any values. -/
def jsonItems : Nat → List Tree → Except Fault (List Json)
  | _, [] => .ok []
  | depth, item :: rest => do
    let value ← json depth item
    let values ← jsonItems depth rest
    return value :: values

/-- The members of an object of any values. -/
def jsonMembers : Nat → List (Tree × Tree) → Except Fault (List (String × Json))
  | _, [] => .ok []
  | depth, (.text (some name), tree) :: rest => do
    let value ← json depth tree
    let values ← jsonMembers depth rest
    return (name, value) :: values
  | _, _ :: _ => .error .malformed

end

/-- A text. -/
def string : Decoder String
  | _, .text (some s) => .ok s
  | _, tree => .error (unexpected tree)

/-- A text that `parse?` accepts. -/
def parsed {α : Type} (parse? : String → Option α) : Decoder α := fun depth tree => do
  match parse? (← string depth tree) with
  | some a => .ok a
  | none => .error .mismatch

/-- A natural number below `bound`, written as a plain integer. -/
def natural (bound : Nat) : Decoder Nat
  | _, .number n =>
    match n.value? with
    | none => .error .malformed
    | some (.int (.ofNat i)) => if i < bound then .ok i else .error .mismatch
    | some _ => .error .mismatch
  | _, tree => .error (unexpected tree)

/-- A value, or `none` for `null`. -/
def optional {α : Type} (decode : Decoder α) : Decoder (Option α)
  | _, .null => .ok none
  | depth, tree => (decode depth tree).map some

/-- A list of values. -/
def list {α : Type} (decode : Decoder α) : Decoder (List α)
  | 0, .array _ _ => .error .malformed
  | depth + 1, .array items closed => do
    let values ← items.mapM (decode depth)
    if closed then .ok values else .error .malformed
  | _, tree => .error (unexpected tree)

/-- Members with values of one type, under names that `parse?` accepts. -/
def entries {κ α : Type} (parse? : String → Option κ) (decode : Decoder α) :
    Decoder (List (κ × α))
  | 0, .object _ _ => .error .malformed
  | depth + 1, .object members closed => do
    let values ← members.mapM fun member =>
      match member.1 with
      | .text (some name) =>
        match parse? name with
        | none => .error .mismatch
        | some key => (decode depth member.2).map fun value => (key, value)
      | _ => .error .malformed
    if closed then .ok values else .error .malformed
  | _, tree => .error (unexpected tree)

/-- One of a closed set of names, written as a text or as an object whose only member
has that name and the value `null`. Other values are not even looked into. -/
def choice {α : Type} (parse? : String → Option α) : Decoder α
  | depth, .text s => parsed parse? depth (.text s)
  | depth + 1, .object ((name, value) :: rest) closed => do
    let a ← parsed parse? depth name
    match value with
    | .null => if rest.isEmpty ∧ closed then .ok a else .error .malformed
    | tree => .error (unexpected tree)
  | _, _ => .error .malformed

end Decoder

/-- A column of a record: its name, what its values must satisfy to be read, and
whether it has a default. -/
structure Column where
  name : String
  check : Nat → Tree → Except Fault Unit
  hasDefault : Bool

namespace Column

/-- A column that has to be there. -/
def required {α : Type} (name : String) (decode : Decoder α) : Column :=
  ⟨name, fun depth tree => (decode depth tree).map fun _ => (), false⟩

/-- A column with a default. -/
def defaulted {α : Type} (name : String) (decode : Decoder α) : Column :=
  ⟨name, fun depth tree => (decode depth tree).map fun _ => (), true⟩

end Column

/-- The columns that a record fills, each checked, and the depth they were read at. -/
structure Row where
  depth : Nat
  cells : List (String × Tree)

namespace Row

/-- Reads the members of an object into the cells filled so far. -/
def ofMembers (columns : List Column) (depth : Nat) :
    List (String × Tree) → List (Tree × Tree) → Except Fault (List (String × Tree))
  | cells, [] => .ok cells
  | cells, (.text (some name), tree) :: rest =>
    match columns.find? fun column => column.name = name with
    | none =>
      if tree.isWhole then ofMembers columns depth cells rest else .error .malformed
    | some column =>
      if cells.any fun cell => cell.1 = name then .error .mismatch
      else do
        column.check depth tree
        ofMembers columns depth (cells ++ [(name, tree)]) rest
  | _, _ :: _ => .error .malformed

/-- Reads the items of an array as the columns in order. -/
def ofItems (depth : Nat) (closed : Bool) :
    List Column → List Tree → Except Fault (List (String × Tree))
  | [], [] => if closed then .ok [] else .error .malformed
  | [], _ :: _ => .error .malformed
  | column :: columns, [] =>
    if closed = false then .error .malformed
    else if (column :: columns).all (·.hasDefault) then .ok []
    else .error .mismatch
  | column :: columns, tree :: rest => do
    column.check depth tree
    let cells ← ofItems depth closed columns rest
    return (column.name, tree) :: cells

/-- Reads a record in either form. -/
def read (columns : List Column) : Decoder Row
  | 0, .object _ _ => .error .malformed
  | depth + 1, .object members closed => do
    let cells ← ofMembers columns depth [] members
    if closed then .ok ⟨depth, cells⟩ else .error .malformed
  | 0, .array _ _ => .error .malformed
  | depth + 1, .array items closed => do
    let cells ← ofItems depth closed columns items
    return ⟨depth, cells⟩
  | _, tree => .error (Decoder.unexpected tree)

/-- The tree in a column, if the record fills it. -/
def cell? (row : Row) (name : String) : Option Tree :=
  (row.cells.find? fun cell => cell.1 = name).map (·.2)

/-- The value of a column that has to be there. -/
def required {α : Type} (row : Row) (name : String) (decode : Decoder α) : Except Fault α :=
  match row.cell? name with
  | some tree => decode row.depth tree
  | none => .error .mismatch

/-- The value of a column that may be missing or `null`. -/
def optional {α : Type} (row : Row) (name : String) (decode : Decoder α) :
    Except Fault (Option α) :=
  match row.cell? name with
  | some tree => Decoder.optional decode row.depth tree
  | none => .ok none

/-- The value of a column, or a default if it is missing. -/
def defaulted {α : Type} (row : Row) (name : String) (decode : Decoder α) (value : α) :
    Except Fault α :=
  match row.cell? name with
  | some tree => decode row.depth tree
  | none => .ok value

end Row

/-- A record whose kind is named by one of its own members: the kind, and the rest of
the record. -/
structure Tagged (α : Type) where
  kind : α
  body : Tree

namespace Tagged

/-- Reads members up to the end, setting the tag apart. Everything else is kept, so it
has to be a proper value. -/
def ofMembers {α : Type} (tag : String) (parse? : String → Option α) (depth : Nat) :
    Option α → List (Tree × Tree) →
      Except Fault (Option α × List (Tree × Tree))
  | kind, [] => .ok (kind, [])
  | kind, (.text (some name), tree) :: rest =>
    if name = tag then
      if kind.isSome then .error .mismatch
      else do
        let found ← Decoder.parsed parse? depth tree
        ofMembers tag parse? depth (some found) rest
    else do
      let _ ← Decoder.json depth tree
      let (kind, kept) ← ofMembers tag parse? depth kind rest
      return (kind, (.text (some name), tree) :: kept)
  | _, _ :: _ => .error .malformed

/-- Reads a tagged record: an object with the tag among its members, or an array that
starts with it. -/
def read {α : Type} (tag : String) (parse? : String → Option α) : Decoder (Tagged α)
  | 0, .object _ _ => .error .malformed
  | depth + 1, .object members closed => do
    let (kind, kept) ← ofMembers tag parse? depth none members
    if closed = false then .error .malformed
    else
      match kind with
      | some kind => return ⟨kind, .object kept true⟩
      | none => .error .mismatch
  | 0, .array _ _ => .error .malformed
  | _ + 1, .array [] closed => .error (if closed then .mismatch else .malformed)
  | depth + 1, .array (first :: rest) closed => do
    let kind ← Decoder.parsed parse? depth first
    let _ ← Decoder.jsonItems depth rest
    if closed then return ⟨kind, .array rest true⟩ else .error .malformed
  | _, tree => .error (Decoder.unexpected tree)

/-- Reads the columns of a tagged record once its kind is known. The record has been
read as JSON by then, so all that can be wrong is its shape. -/
def row (columns : List Column) (body : Tree) : Except Fault Row :=
  match Row.read columns (maxDepth + 1) body with
  | .ok row => .ok row
  | .error _ => .error .mismatch

end Tagged

/-- The value of a whole text. -/
def decodeText {α : Type} (decode : Decoder α) (text : String) : Except Fault α := do
  let document := Document.read text.toList
  let value ← decode maxDepth document.root
  if document.ends then .ok value else .error .malformed

end Flotilla
