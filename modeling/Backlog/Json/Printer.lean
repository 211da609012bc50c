import Backlog.Json.Basic

/-! # Writing JSON

`Json.render` writes a document without spaces, members in their order. Inside a string a quote and a
backslash get a backslash, the usual control characters their short escapes, every other character
below U+0020 its four hexadecimal digits, and all else stands for itself. -/

namespace Backlog.Json

/-- The escape of one character of a string. -/
def escapeChar (c : Char) : List Char :=
  if c = '"' then ['\\', '"']
  else if c = '\\' then ['\\', '\\']
  else if c = '\n' then ['\\', 'n']
  else if c = '\r' then ['\\', 'r']
  else if c = '\t' then ['\\', 't']
  else if c.toNat = 8 then ['\\', 'b']
  else if c.toNat = 12 then ['\\', 'f']
  else if c.toNat < 32 then
    ['\\', 'u', '0', '0', Nat.digitChar (c.toNat / 16), Nat.digitChar (c.toNat % 16)]
  else [c]

/-- A string literal. -/
def renderString (s : String) : List Char := '"' :: (s.toList.flatMap escapeChar ++ ['"'])

/-- A number literal. -/
def renderNumeral (n : Numeral) : List Char :=
  (if n.negative then ['-'] else []) ++ n.whole ++
    (if n.fraction.isEmpty then [] else '.' :: n.fraction) ++
    match n.exponent with
    | none => []
    | some e => 'e' :: (if e < 0 then '-' :: Nat.toDigits 10 e.natAbs else Nat.toDigits 10 e.natAbs)

mutual

/-- The text of a document. -/
def renderChars : Json → List Char
  | .null | .malformed => ['n', 'u', 'l', 'l']
  | .bool true => ['t', 'r', 'u', 'e']
  | .bool false => ['f', 'a', 'l', 's', 'e']
  | .number n => renderNumeral n
  | .string s => renderString s
  | .unpaired => ['"', '\\', 'u', 'd', '8', '0', '0', '"']
  | .array items => '[' :: (renderItems items ++ [']'])
  | .object members => '{' :: (renderMembers members ++ ['}'])

/-- The items of an array, separated by commas. -/
def renderItems : List Json → List Char
  | [] => []
  | [v] => renderChars v
  | v :: w :: vs => renderChars v ++ ',' :: renderItems (w :: vs)

/-- The members of an object, separated by commas. -/
def renderMembers : List (String × Json) → List Char
  | [] => []
  | [(k, v)] => renderString k ++ ':' :: renderChars v
  | (k, v) :: m :: ms => renderString k ++ ':' :: (renderChars v ++ ',' :: renderMembers (m :: ms))

end

/-- The text of a document. -/
def render (v : Json) : String := String.ofList v.renderChars

end Backlog.Json
