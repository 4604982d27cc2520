import Flotilla.Http.Header

/-!
# Media types

A body is taken for JSON if its media type is `application/json`, or an application
type whose name ends in `+json`. A media type is a pair of tokens with a slash between
them, and parameters behind semicolons. A parameter is a name, an equals sign and a
token or a quoted text; spaces may stand before a name and behind a quoted text. A
media type that is not well formed is none.
-/

namespace Flotilla

namespace MediaType

/-- The characters at the front that may stand in a token, and the rest. -/
def token (cs : List Char) : List Char × List Char :=
  (cs.takeWhile Header.isTokenChar, cs.dropWhile Header.isTokenChar)

/-- What follows a quoted text whose opening quote has been read. The text is not empty,
and a backslash takes any character behind it into the text. -/
def afterQuoted? (first : Bool) : List Char → Option (List Char)
  | [] => none
  | '"' :: rest => if first then afterQuoted? false rest else some rest
  | '\\' :: c :: rest =>
    if 32 ≤ c.toNat ∧ c.toNat ≠ 127 then afterQuoted? false rest else none
  | c :: rest => if 32 ≤ c.toNat ∧ c.toNat ≠ 127 then afterQuoted? false rest else none

/-- What follows the value of a parameter and its semicolon. -/
def afterValue? (cs : List Char) : Option (List Char) :=
  match cs with
  | '"' :: rest => do
    match (← afterQuoted? true rest).dropWhile (· = ' ') with
    | [] => some []
    | ';' :: rest => some rest
    | _ => none
  | _ =>
    match token cs with
    | (_, []) => some []
    | (_ :: _, ';' :: rest) => some rest
    | _ => none

/-- Whether a text is a list of parameters, with enough fuel for their number. -/
def areParameters : Nat → List Char → Bool
  | 0, _ => false
  | fuel + 1, cs =>
    match cs.dropWhile (· = ' ') with
    | [] => true
    | cs =>
      match token cs with
      | (_ :: _, '=' :: rest) =>
        match afterValue? rest with
        | some [] => true
        | some rest => areParameters fuel rest
        | none => false
      | _ => false

/-- The part of a subtype before its last plus sign and the part behind it. A plus sign
at the front belongs to the name. -/
def splitSuffix (subtype : List Char) : List Char × Option (List Char) :=
  let suffix := (subtype.reverse.takeWhile (· ≠ '+')).reverse
  if suffix.length + 1 < subtype.length then
    (subtype.take (subtype.length - suffix.length - 1), some suffix)
  else (subtype, none)

/-- Whether the text of a media type calls for JSON. -/
def isJson (text : String) : Bool :=
  match token (Header.lower text).toList with
  | (type, '/' :: rest) =>
    let (subtype, rest) := token rest
    let (name, suffix) := splitSuffix subtype
    let wellFormed :=
      match rest with
      | [] => true
      | ';' :: parameters => !subtype.isEmpty && areParameters (parameters.length + 1) parameters
      | _ => false
    wellFormed && type = "application".toList &&
      (name = "json".toList || suffix = some "json".toList)
  | _ => false

end MediaType

end Flotilla
