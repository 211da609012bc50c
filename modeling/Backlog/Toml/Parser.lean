import Backlog.Toml.Scalar
import Backlog.Toml.Table

/-! # TOML documents

A document is read line by line: a header, a key with its value, or nothing, each with an optional
comment. The result is the tree that a JSON document of the same content has. -/

namespace Backlog.Toml

open Backlog.Text

/-- Whether a character may stand in a key without quotes. -/
def isBare (c : Char) : Bool := c.isAlphanum || c == '_' || c == '-'

/-- One part of a key. -/
def simpleKey? (cs : List Char) : Option (String × List Char) :=
  match cs with
  | '"' :: r => (basic? (r.length + 1) [] r).map fun (k, r') => (String.ofList k, r')
  | '\'' :: r => (literal? [] r).map fun (k, r') => (String.ofList k, r')
  | _ => match cs.takeWhile isBare with
    | [] => none
    | k => some (String.ofList k, cs.drop k.length)

/-- The parts of a key, blanks around them. -/
def key? : Nat → List Char → Option (List String × List Char)
  | 0, _ => none
  | fuel + 1, cs => do
    let (k, r) ← simpleKey? (skipBlanks cs)
    match skipBlanks r with
    | '.' :: r' =>
      let (ks, rest) ← key? fuel r'
      some (k :: ks, rest)
    | r' => some ([k], r')

/-- A key as the path before its last part, and that part. -/
def splitKey? (ks : List String) : Option (List String × String) :=
  ks.getLast?.map fun k => (ks.dropLast, k)

/-- Blanks, comments and line breaks. -/
def skipLines : Nat → List Char → Option (List Char)
  | 0, _ => none
  | fuel + 1, cs =>
    match skipBlanks cs with
    | '#' :: r => do skipLines fuel (← skipComment ('#' :: r))
    | r => match lineBreak? r with
      | some r' => skipLines fuel r'
      | none => some r

mutual

/-- A value. -/
def value? : Nat → List Char → Option (Json × List Char)
  | 0, _ => none
  | fuel + 1, cs =>
    match cs with
    | '"' :: _ | '\'' :: _ => (string? cs).map fun (s, r) => (.string (String.ofList s), r)
    | '[' :: r => (items? fuel r).map fun (vs, r') => (.array vs, r')
    | '\x7b' :: r =>
      match skipBlanks r with
      | '\x7d' :: r' => some (.object [], r')
      | r' => (pairs? fuel Table.root r').map fun (t, r₂) => (t.toJson, r₂)
    | 't' :: 'r' :: 'u' :: 'e' :: r => some (.bool true, r)
    | 'f' :: 'a' :: 'l' :: 's' :: 'e' :: r => some (.bool false, r)
    | _ => number? cs

/-- The items of an array up to its closing bracket; a comma may stand before it. -/
def items? : Nat → List Char → Option (List Json × List Char)
  | 0, _ => none
  | fuel + 1, cs => do
    match ← skipLines (cs.length + 1) cs with
    | ']' :: r => some ([], r)
    | r =>
      let (v, r) ← value? fuel r
      match ← skipLines (r.length + 1) r with
      | ',' :: r' =>
        let (vs, rest) ← items? fuel r'
        some (v :: vs, rest)
      | ']' :: r' => some ([v], r')
      | _ => none

/-- The pairs of a table in one line up to its closing brace. -/
def pairs? : Nat → Table → List Char → Option (Table × List Char)
  | 0, _, _ => none
  | fuel + 1, t, cs => do
    let (ks, r) ← key? (cs.length + 1) cs
    let (path, k) ← splitKey? ks
    let (v, r) ← value? fuel (skipBlanks (← mark? '=' r))
    let t ← t.insert path k v
    match skipBlanks r with
    | ',' :: r' => pairs? fuel t r'
    | '\x7d' :: r' => some (t, r')
    | _ => none

end

/-- The text after the end of a line: blanks, a comment, and a line break or the end of the text. -/
def endLine? (cs : List Char) : Option (List Char) := do
  let r ← skipComment (skipBlanks cs)
  match r with
  | [] => some []
  | _ => lineBreak? r

/-- A document under construction: its tables, and the path and kind of the header it is under. -/
structure Draft where
  root : Table
  header : List String

/-- A draft with a pair added under its header. -/
def Draft.insert (d : Draft) (path : List String) (k : String) (v : Json) : Option Draft :=
  (Table.change false (·.insert path k v) d.header d.root).map ({ d with root := · })

/-- A draft with a header. -/
def Draft.enter (d : Draft) (repeated : Bool) (ks : List String) : Option Draft := do
  let (path, k) ← splitKey? ks
  let root ← Table.change false (if repeated then (·.openNext k) else (·.openTable k)) path d.root
  some ⟨root, ks⟩

/-- One line, and the text after it. -/
def line? (d : Draft) (cs : List Char) : Option (Draft × List Char) :=
  match skipBlanks cs with
  | '[' :: '[' :: r => do
    let (ks, r) ← key? (r.length + 1) r
    let d ← d.enter true ks
    some (d, ← endLine? (← mark? ']' (← mark? ']' r)))
  | '[' :: r => do
    let (ks, r) ← key? (r.length + 1) r
    let d ← d.enter false ks
    some (d, ← endLine? (← mark? ']' r))
  | r =>
    if r.head?.all fun c => c == '#' || c == '\n' || c == '\r' then
      (endLine? r).map (d, ·)
    else do
      let (ks, r) ← key? (r.length + 1) r
      let (path, k) ← splitKey? ks
      let (v, r) ← value? (r.length + 1) (skipBlanks (← mark? '=' r))
      let d ← d.insert path k v
      some (d, ← endLine? r)

/-- All lines of a text. -/
def lines? : Nat → Draft → List Char → Option Draft
  | _, d, [] => some d
  | 0, _, _ => none
  | fuel + 1, d, cs => do
    let (d, r) ← line? d cs
    lines? fuel d r

/-- The document of a text, if the text is one. A byte-order mark may stand before it. -/
def parse? (s : String) : Option Json :=
  let cs := match s.toList with
    | '\ufeff' :: r => r
    | r => r
  (lines? (cs.length + 1) ⟨Table.root, []⟩ cs).map (·.root.toJson)

end Backlog.Toml
