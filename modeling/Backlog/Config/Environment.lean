import Backlog.Config.Basic
import Backlog.Text.Blank
import Backlog.Text.Split
import Backlog.Toml.Parser

/-! # Where a configuration comes from

A configuration is a TOML text, over which environment variables may be laid. A variable counts if its
name starts with `TICKETWRIGHT_`, in any mixture of cases; the rest of the name, in small letters, is a
path whose parts are divided by two underscores. Its value is a truth value, a number, a quoted text, a
bracketed list or a braced table if it reads as one, and otherwise a text. Where both have tables these
are joined; elsewhere the variable wins. -/

namespace Backlog.Environment

open Backlog.Text

/-! ### Values -/

/-- Blanks around the parts of a value. -/
def skipGap (cs : List Char) : List Char :=
  cs.dropWhile fun c => c == ' ' || c == '\t' || c == '\n' || c == '\x0c' || c == '\r'

/-- Whether a character divides the parts of a value. -/
def isDivider (c : Char) : Bool :=
  c == ',' || c == '\x7b' || c == '\x7d' || c == '[' || c == ']'

/-- The decimal that a text is: digits with a point before, among or after them, an exponent perhaps
behind them. -/
def decimal? (cs : List Char) : Option Numeral :=
  let (negative, r) := Toml.sign cs
  let (whole, r) := r.span Char.isDigit
  match r with
  | '.' :: r =>
    let (part, r) := r.span Char.isDigit
    let n (e : Option Int) : Option Numeral :=
      if whole.isEmpty && part.isEmpty then none
      else some ⟨negative, '0' :: whole, part ++ ['0'], e⟩
    match r with
    | [] => n none
    | 'e' :: r | 'E' :: r =>
      match Json.exponent? r with
      | some (e, []) => n (some e)
      | _ => none
    | _ => none
  | _ => none

/-- The integer that a text is, from `-2 ^ 63` to `2 ^ 64 - 1`. -/
def integer? (cs : List Char) : Option Int :=
  let (negative, ds) := Toml.sign cs
  if ds.isEmpty || !ds.all Char.isDigit then none
  else
    let n := digitsValue ds
    if negative then (if n ≤ 9223372036854775808 then some (-(n : Int)) else none)
    else if Text.fits64 n then some n else none

/-- A word of no special form. -/
def plain (cs : List Char) : Json :=
  match decimal? cs with
  | some n => .number n
  | none => match integer? cs with
    | some i => .ofInt i
    | none => .string (String.ofList cs)

/-- The rest of a quoted text. -/
def quoted? : Nat → List Char → List Char → Option (List Char × List Char)
  | 0, _, _ => none
  | fuel + 1, acc, cs =>
    match cs with
    | [] => none
    | '"' :: r => some (acc.reverse, r)
    | '\\' :: r => do
      let (c, r') ← Toml.escape? r
      quoted? fuel (c :: acc) r'
    | c :: r => if Toml.isPrintable c then quoted? fuel (c :: acc) r else none

mutual

/-- A value and the text after it. -/
def value? : Nat → List Char → Option (Json × List Char)
  | 0, _ => none
  | fuel + 1, cs => do
    let (v, r) ← match skipGap cs with
      | 't' :: 'r' :: 'u' :: 'e' :: r => some (Json.bool true, r)
      | 'f' :: 'a' :: 'l' :: 's' :: 'e' :: r => some (Json.bool false, r)
      | '\x7b' :: r => (pairs? fuel r).map fun (ms, r') => (Json.object ms, r')
      | '[' :: r => (items? fuel r).map fun (vs, r') => (Json.array vs, r')
      | '"' :: r => (quoted? (r.length + 1) [] r).map fun (s, r') =>
          (Json.string (String.ofList s), r')
      | '\'' :: c :: '\'' :: r => some (Json.string (String.ofList [c]), r)
      | '\'' :: _ => none
      | r =>
        let w := r.takeWhile fun c => !isDivider c
        some (plain (trimChars w), r.drop w.length)
    some (v, skipGap r)

/-- The items of a list up to its closing bracket. -/
def items? : Nat → List Char → Option (List Json × List Char)
  | 0, _ => none
  | fuel + 1, cs =>
    match cs with
    | ']' :: r => some ([], r)
    | _ => do
      let (v, r) ← value? fuel cs
      match r with
      | ',' :: r' =>
        let (vs, rest) ← items? fuel r'
        some (v :: vs, rest)
      | ']' :: r' => some ([v], r')
      | _ => none

/-- The pairs of a table up to its closing brace. -/
def pairs? : Nat → List Char → Option (List (String × Json) × List Char)
  | 0, _ => none
  | fuel + 1, cs =>
    match cs with
    | '\x7d' :: r => some ([], r)
    | _ => do
      let (k, r) ← match skipGap cs with
        | '"' :: r => quoted? (r.length + 1) [] r
        | r => match r.takeWhile Toml.isBare with
          | [] => none
          | k => some (k, r.drop k.length)
      let r ← Toml.mark? '=' (skipGap r)
      let (v, r) ← value? fuel r
      match r with
      | ',' :: r' =>
        let (ms, rest) ← pairs? fuel r'
        some ((String.ofList k, v) :: ms, rest)
      | '\x7d' :: r' => some ([(String.ofList k, v)], r')
      | _ => none

end

/-- What the value of a variable stands for. -/
def readValue (s : String) : Json :=
  match value? (s.length + 2) s.toList with
  | some (v, []) => v
  | _ => .string s

/-! ### Variables -/

/-- What the names of variables start with. -/
def lead : List Char := "TICKETWRIGHT_".toList

/-- The path that a variable sets, if it counts. -/
def path? (name : String) : Option (List String) :=
  match stripLead? (lead.map Char.toLower) (name.toList.map Char.toLower) with
  | none | some [] => none
  | some rest => some (divide rest)
where
  /-- The parts of a path; an empty part ends it. -/
  divide (cs : List Char) : List String :=
    let rec go : Nat → List Char → List Char → List String
      | 0, _, _ => []
      | fuel + 1, acc, cs =>
        match cs with
        | [] => if acc.isEmpty then [] else [String.ofList acc.reverse]
        | '_' :: '_' :: r =>
          if acc.isEmpty then [] else String.ofList acc.reverse :: go fuel [] r
        | '.' :: r =>
          if acc.isEmpty then [] else String.ofList acc.reverse :: go fuel [] r
        | c :: r => go fuel (c :: acc) r
    go (cs.length + 1) [] cs

/-- A value at the end of a path. -/
def nest : List String → Json → Json
  | [], v => v
  | k :: ks, v => .object [(k, nest ks v)]

mutual

/-- One document laid over another. -/
def overlay : Json → Json → Json
  | .object below, .object above => .object (overlayMembers below above)
  | _, v => v

/-- The members of one object laid over those of another. -/
def overlayMembers : List (String × Json) → List (String × Json) → List (String × Json)
  | below, [] => below
  | below, (k, v) :: above =>
    match below.lookup k with
    | none => overlayMembers (below ++ [(k, v)]) above
    | some w =>
      overlayMembers (below.map fun m => if m.1 = k then (k, overlay w v) else m) above

end

/-- A document with variables laid over it. -/
def apply (settings : List (String × String)) (doc : Json) : Json :=
  settings.foldl (fun d (name, v) =>
    match path? name with
    | some (k :: ks) => overlay d (nest (k :: ks) (readValue v))
    | _ => d) doc

/-- The configuration of a text. -/
def configOfText (s : String) : Except ConfigError Config :=
  match Toml.parse? s with
  | none => .error .unreadable
  | some doc => match Config.read doc with
    | .ok c => .ok c
    | .error _ => .error .unreadable

/-- The configuration of a text under some environment variables. -/
def configOfFile (s : String) (settings : List (String × String)) : Except ConfigError Config :=
  match Toml.parse? s with
  | none => .error .unreadable
  | some doc => match Config.read (apply settings doc) with
    | .ok c => .ok c
    | .error _ => .error .unreadable

end Backlog.Environment
