import Flotilla.Json.Reader
import Flotilla.Text.Split

/-!
# Socket addresses

The address of a listening socket: an address of the internet protocol of version 4
or 6 and the number of a service. The numbers of a version 4 address have up to three digits and no
leading zero. A version 6 address stands in brackets, may leave out one run of
zero groups, may end in a version 4 address, and may name a zone by its number.

The writer leaves out the longest run of zero groups if there are at least two, the
first one of several, and shows the version 4 address inside a mapped one.
-/

namespace Flotilla

/-- A version 4 address. -/
structure IPv4 where
  octets : List Nat
  deriving DecidableEq

/-- A version 6 address. -/
structure IPv6 where
  groups : List Nat
  deriving DecidableEq

/-- Where to listen. -/
inductive SocketAddress where
  | v4 (address : IPv4) (service : Nat)
  | v6 (address : IPv6) (zone service : Nat)
  deriving DecidableEq

namespace SocketAddress

/-- The number that hexadecimal digits stand for. -/
def hexNumber (digits : List Char) : Nat :=
  digits.foldl (fun n c => 16 * n + (Tree.hexValue? c).getD 0) 0

/-- A decimal number below `bound`, and what follows its digits. -/
def number? (bound : Nat) (cs : List Char) : Option (Nat × List Char) :=
  let (digits, rest) := Digits.span cs
  (Digits.read? bound digits).map fun n => (n, rest)

/-- A number of a version 4 address. -/
def octet? (cs : List Char) : Option (Nat × List Char) :=
  let (digits, rest) := Digits.span cs
  if digits.length ≤ 3 ∧ (digits.head? ≠ some '0' ∨ digits.length = 1) then
    (Digits.read? 256 digits).map fun n => (n, rest)
  else none

/-- A version 4 address at the front of a text. -/
def ipv4? (cs : List Char) : Option (IPv4 × List Char) := do
  let (a, cs) ← octet? cs
  let cs ← Split.after? ['.'] cs
  let (b, cs) ← octet? cs
  let cs ← Split.after? ['.'] cs
  let (c, cs) ← octet? cs
  let cs ← Split.after? ['.'] cs
  let (d, cs) ← octet? cs
  return (⟨[a, b, c, d]⟩, cs)

/-- A group of a version 6 address. -/
def group? (cs : List Char) : Option (Nat × List Char) :=
  let digits := cs.takeWhile fun c => (Tree.hexValue? c).isSome
  if digits.length = 0 ∨ 4 < digits.length then none
  else some (hexNumber digits, cs.dropWhile fun c => (Tree.hexValue? c).isSome)

/-- The two groups that a version 4 address takes up. -/
def pairGroups : List Nat → List Nat
  | [a, b, c, d] => [a * 256 + b, c * 256 + d]
  | _ => []

/-- Up to `limit` groups with colons between them, whether they ended in a version 4
address, and what follows. -/
def groups (first : Bool) : Nat → List Char → List Nat × Bool × List Char
  | 0, cs => ([], false, cs)
  | limit + 1, cs =>
    match (if first then some cs else Split.after? [':'] cs) with
    | none => ([], false, cs)
    | some inner =>
      match (if limit = 0 then none else ipv4? inner) with
      | some (address, rest) => (pairGroups address.octets, true, rest)
      | none =>
        match group? inner with
        | none => ([], false, cs)
        | some (group, rest) =>
          let (found, embedded, rest) := groups false limit rest
          (group :: found, embedded, rest)

/-- A version 6 address at the front of a text. -/
def ipv6? (cs : List Char) : Option (IPv6 × List Char) :=
  let (head, embedded, rest) := groups true 8 cs
  if head.length = 8 then some (⟨head⟩, rest)
  else if embedded then none
  else do
    let rest ← Split.after? [':', ':'] rest
    let (tail, _, rest) := groups true (7 - head.length) rest
    return (⟨head ++ List.replicate (8 - head.length - tail.length) 0 ++ tail⟩, rest)

/-- The number of a service behind a colon. -/
def service? (cs : List Char) : Option (Nat × List Char) := do
  number? 65536 (← Split.after? [':'] cs)

/-- A zone behind a percent sign; no zone is zone zero. -/
def zone (cs : List Char) : Nat × List Char :=
  match (Split.after? ['%'] cs).bind (number? (Nat.pow 2 32)) with
  | some found => found
  | none => (0, cs)

/-- A socket address with a version 4 address. -/
def socketV4? (cs : List Char) : Option SocketAddress := do
  let (address, cs) ← ipv4? cs
  let (service, cs) ← service? cs
  if cs.isEmpty then some (.v4 address service) else none

/-- A socket address with a version 6 address. -/
def socketV6? (cs : List Char) : Option SocketAddress := do
  let cs ← Split.after? ['['] cs
  let (address, cs) ← ipv6? cs
  let (zone, cs) := zone cs
  let cs ← Split.after? [']'] cs
  let (service, cs) ← service? cs
  if cs.isEmpty then some (.v6 address zone service) else none

/-- The socket address that a text names. -/
def ofChars? (cs : List Char) : Option SocketAddress := (socketV4? cs).or (socketV6? cs)

/-- The socket address that a string names. -/
def parse? (s : String) : Option SocketAddress := ofChars? s.toList

/-- The written form of a version 4 address. -/
def renderIPv4 (address : IPv4) : List Char :=
  List.intercalate ['.'] (address.octets.map Digits.render)

/-- Groups in hexadecimal with colons between them. -/
def renderGroups (groups : List Nat) : List Char :=
  List.intercalate [':'] (groups.map fun g => Nat.toDigits 16 g)

/-- How many zeros stand at the front. -/
def zeros (groups : List Nat) : Nat := (groups.takeWhile (· = 0)).length

/-- The start and the length of the longest run of zeros, the first one of several. -/
def longestZeros : List Nat → Nat × Nat
  | [] => (0, 0)
  | g :: rest =>
    let here := zeros (g :: rest)
    let later := longestZeros rest
    if later.2 ≤ here then (0, here) else (later.1 + 1, later.2)

/-- The written form of a version 6 address. -/
def renderIPv6 (address : IPv6) : List Char :=
  match address.groups with
  | [0, 0, 0, 0, 0, 0xFFFF, a, b] =>
    "::ffff:".toList ++ renderIPv4 ⟨[a / 256, a % 256, b / 256, b % 256]⟩
  | groups =>
    let (start, length) := longestZeros groups
    if 1 < length then
      renderGroups (groups.take start) ++ [':', ':'] ++
        renderGroups (groups.drop (start + length))
    else renderGroups groups

/-- The written form of a socket address. -/
def render : SocketAddress → List Char
  | .v4 address service => renderIPv4 address ++ ':' :: Digits.render service
  | .v6 address zone service =>
    '[' :: (renderIPv6 address ++ (if zone = 0 then [] else '%' :: Digits.render zone) ++
      ']' :: ':' :: Digits.render service)

/-- The written form of a socket address as a string. -/
def text (address : SocketAddress) : String := String.ofList address.render

end SocketAddress

end Flotilla
