import Flotilla.Text.Split

/-!
# Resource identifiers

A resource is named by a scheme and an authority, by a path, or by all of them. A
text without a scheme is a path if it begins with a slash, and an authority as a
whole if it does not. Behind a scheme the authority is required; it ends at the
first slash, question mark or hash sign. What stands behind a hash sign does not
count.

Outside the part before its last at-sign and outside brackets an authority holds at
most one colon and no percent sign. Its brackets come in one pair, and it does not
end in an at-sign.
-/

namespace Flotilla

/-- The name of a resource. -/
structure Uri where
  /-- Empty if there is none. -/
  authority : List Char
  scheme : Option (List Char)
  path : List Char
  query : Option (List Char)
  deriving DecidableEq

namespace Uri

/-- No name has this many bytes or more. -/
def byteBound : Nat := 65535

/-- No scheme is longer than this. -/
def maxScheme : Nat := 64

/-- Whether a character may stand in a scheme. -/
def isSchemeChar (c : Char) : Bool := c.isAlphanum || "+-.~".toList.contains c

/-- Whether a character may stand in an authority, the percent sign aside. -/
def isAuthorityChar (c : Char) : Bool := c.isAlphanum || "!$&'()*+,-.:;=@[]_~".toList.contains c

/-- Whether a character ends an authority. -/
def endsAuthority (c : Char) : Bool := c = '/' || c = '?' || c = '#'

/-- Whether a character may stand in a path. -/
def isPathChar (c : Char) : Bool := 33 ≤ c.toNat && !("#<>?\x60".toList.contains c)

/-- Whether a character may stand in a query. -/
def isQueryChar (c : Char) : Bool := 33 ≤ c.toNat && !("\"#<>".toList.contains c)

/-- What the characters of an authority have shown so far. -/
structure AuthorityScan where
  /-- Colons since the last at-sign or closing bracket. -/
  colons : Nat
  /-- Whether a percent sign stands behind the last at-sign and the closing bracket. -/
  percent : Bool
  opened : Bool
  closed : Bool

namespace AuthorityScan

/-- Nothing has been seen. -/
def start : AuthorityScan := ⟨0, false, false, false⟩

/-- No stretch of an authority holds more colons than this. -/
def maxColons : Nat := 8

/-- The next character, or `none` if it may not stand here. -/
def next (scan : AuthorityScan) (c : Char) : Option AuthorityScan :=
  if c = ':' then
    if scan.colons < maxColons then some { scan with colons := scan.colons + 1 } else none
  else if c = '[' then
    if scan.percent || scan.opened then none else some { scan with opened := true }
  else if c = ']' then
    if !scan.opened || scan.closed then none
    else some { scan with closed := true, colons := 0, percent := false }
  else if c = '@' then some { scan with colons := 0, percent := false }
  else if c = '%' then some { scan with percent := true }
  else if isAuthorityChar c then some scan
  else none

/-- Whether an authority may end here. -/
def isComplete (scan : AuthorityScan) : Bool :=
  scan.opened == scan.closed && scan.colons ≤ 1 && !scan.percent

end AuthorityScan

/-- The authority at the front of a text, which may be empty, and what follows it. -/
def authority? (cs : List Char) : Option (List Char × List Char) :=
  let authority := cs.takeWhile fun c => !endsAuthority c
  match authority.foldlM AuthorityScan.next .start with
  | none => none
  | some scan =>
    if scan.isComplete ∧ authority.getLast? ≠ some '@' then
      some (authority, cs.dropWhile fun c => !endsAuthority c)
    else none

/-- The scheme at the front of a text and what follows its two slashes. A text has none
if anything but scheme characters stands before the first colon. -/
def scheme? (cs : List Char) : Option (List Char × List Char) :=
  let scheme := cs.takeWhile isSchemeChar
  (Split.after? "://".toList (cs.dropWhile isSchemeChar)).map fun rest => (scheme, rest)

/-- The path and the query that a text consists of. -/
def pathAndQuery? (cs : List Char) : Option (List Char × Option (List Char)) :=
  let path := cs.takeWhile fun c => c ≠ '?' && c ≠ '#'
  if path.all isPathChar then
    let shown := if path.isEmpty then ['/'] else path
    match cs.dropWhile fun c => c ≠ '?' && c ≠ '#' with
    | '?' :: rest =>
      let query := rest.takeWhile (· ≠ '#')
      if query.all isQueryChar then some (shown, some query) else none
    | _ => some (shown, none)
  else none

/-- The resource of a text with a scheme. -/
def ofScheme? (scheme rest : List Char) : Option Uri :=
  if maxScheme < scheme.length then none
  else
    match authority? rest with
    | none => none
    | some (authority, rest) =>
      if authority.isEmpty then none
      else (pathAndQuery? rest).map fun found => ⟨authority, some scheme, found.1, found.2⟩

/-- The resource of a text that is an authority as a whole. -/
def ofAuthority? (cs : List Char) : Option Uri :=
  match authority? cs with
  | some (authority, []) => if authority.isEmpty then none else some ⟨authority, none, [], none⟩
  | _ => none

/-- The resource that a text names. -/
def ofChars? (cs : List Char) : Option Uri :=
  if byteBound ≤ (String.ofList cs).utf8ByteSize then none
  else
    match cs with
    | '/' :: _ => (pathAndQuery? cs).map fun found => ⟨[], none, found.1, found.2⟩
    | ['*'] => some ⟨[], none, ['*'], none⟩
    | _ =>
      match (if cs.length ≤ 3 then none else scheme? cs) with
      | some (scheme, rest) => ofScheme? scheme rest
      | none => ofAuthority? cs

/-- The resource that a string names. -/
def parse? (s : String) : Option Uri := ofChars? s.toList

end Uri

end Flotilla
