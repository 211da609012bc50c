import Backlog.Text.Split

/-! # Media types

A media type reads `type/subtype`, with an optional suffix after the last `+` of the subtype, and may be
followed by parameters, each after a semicolon. The letter case of type, subtype and suffix does not
matter. Parameters have no meaning here, but one that breaks the grammar spoils the whole. -/

namespace Backlog

open Backlog.Text

/-- A media type without its parameters, in lower case. -/
structure MediaType where
  type : String
  subtype : String
  suffix : Option String
  deriving Repr, DecidableEq

namespace MediaType

/-- Whether a character may stand in a token. -/
def isTokenChar (c : Char) : Bool :=
  c.isAlphanum || "!#$%&'*+-.^_`|~".toList.contains c

/-- Whether a character may stand between quotes. -/
def isQuotable (c : Char) : Bool := decide (32 ≤ c.toNat) && c.toNat != 127

/-- What follows the quoted text that starts here, blanks passed over; quoted text is not empty, so its
first character may be a quote. -/
def afterQuoted? : List Char → Option (List Char)
  | [] => none
  | c :: cs =>
    match cs.span (· != '"') with
    | (text, '"' :: rest) =>
      if isQuotable c && text.all isQuotable then some (rest.dropWhile (· == ' ')) else none
    | _ => none

/-- What follows the value that starts here; a value that something follows is not empty. -/
def afterValue? : List Char → Option (List Char)
  | '"' :: cs => afterQuoted? cs
  | cs =>
    match cs.span isTokenChar with
    | (_, []) => some []
    | ([], _) => none
    | (_, rest) => some rest

/-- What follows the parameter that starts here. -/
def afterParameter? (cs : List Char) : Option (List Char) :=
  match cs.span isTokenChar with
  | (_ :: _, '=' :: rest) => afterValue? rest
  | _ => none

/-- Whether parameters follow their grammar: each ends at a semicolon or at the end of the text, blanks
may stand before each, and nothing may follow the last semicolon. -/
def parametersFit : Nat → List Char → Bool
  | 0, _ => false
  | fuel + 1, cs =>
    match cs.dropWhile (· == ' ') with
    | [] => true
    | cs' =>
      match afterParameter? cs' with
      | some [] => true
      | some (';' :: rest) => parametersFit fuel rest
      | _ => false

/-- A text in lower case. -/
def lower (cs : List Char) : String := String.ofList (cs.map Char.toLower)

/-- The media type with a type and with what follows the slash before the parameters. -/
def ofNames (type : List Char) : List Char → MediaType
  | [] => ⟨lower type, "", none⟩
  | c :: cs =>
    match cutLast '+' cs with
    | some (subtype, suffix) => ⟨lower type, lower (c :: subtype), some (lower suffix)⟩
    | none => ⟨lower type, lower (c :: cs), none⟩

/-- Reads a media type. -/
def ofText? (s : String) : Option MediaType :=
  match s.toList.span isTokenChar with
  | (c :: type, '/' :: rest) =>
    match rest.span isTokenChar with
    | (names, []) => some (ofNames (c :: type) names)
    | (n :: names, ';' :: parameters) =>
      if parametersFit (parameters.length + 1) parameters then
        some (ofNames (c :: type) (n :: names))
      else none
    | _ => none
  | _ => none

/-- Whether what has a media type is JSON. -/
def isJson (m : MediaType) : Bool :=
  m.type == "application" && (m.subtype == "json" || m.suffix == some "json")

end MediaType

end Backlog
