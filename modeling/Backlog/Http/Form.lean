import Backlog.Json.Parser
import Backlog.Text.Split
import Backlog.Text.Utf8

/-! # Escaped text in targets

In the target of a request a byte may be written as `%` and two hexadecimal digits. A segment of a path
must then be UTF-8. A query is a list of fields `name=value` between `&`, in which `+` stands for a
blank; it is read whatever its bytes are. -/

namespace Backlog.Form

open Backlog.Text

/-- The byte `%`. -/
def percent : Nat := 37

/-- The value of a byte as a hexadecimal digit. -/
def hexByte? (b : Nat) : Option Nat := if b < 128 then Json.hexValue? (Char.ofNat b) else none

/-- The byte of an escape with these two digits. -/
def escaped? (a b : Nat) : Option Nat := do
  let x ← hexByte? a
  let y ← hexByte? b
  some (x * 16 + y)

/-- Bytes with their escapes replaced; a `%` that starts no escape stands for itself. -/
def unescape : List Nat → List Nat
  | [] => []
  | [a] => [a]
  | [a, b] => [a, b]
  | p :: a :: b :: rest =>
    match if p = percent then escaped? a b else none with
    | some x => x :: unescape rest
    | none => p :: unescape (a :: b :: rest)

/-- The text of a segment of a path. -/
def segment? (s : String) : Option String := Utf8.text? (unescape (Utf8.encode s.toList))

/-- The text of a name or value in a query. -/
def decode (cs : List Char) : String :=
  Utf8.lossy (unescape (Utf8.encode (cs.map fun c => if c = '+' then ' ' else c)))

/-- A field of a query; without `=` its value is empty. -/
def field (cs : List Char) : String × String :=
  match cutFirst '=' cs with
  | some (name, value) => (decode name, decode value)
  | none => (decode cs, "")

/-- The fields of a query; nothing between two `&` is no field. -/
def fields (query : String) : List (String × String) :=
  ((pieces (· == '&') query.toList).filter fun f => !f.isEmpty).map field

end Backlog.Form
