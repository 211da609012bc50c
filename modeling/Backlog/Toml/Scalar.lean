import Backlog.Json.Number
import Backlog.Time.Calendar

/-! # TOML scalars

Strings in four spellings, numbers in four bases, truth values, dates and times. A scalar becomes a leaf
of a document: integers of 64 bits and decimals as numbers, and a date or time as an object of its one
part, the text, which no reader takes for anything else. -/

namespace Backlog.Toml

open Backlog.Text

/-- Blanks within a line. -/
def skipBlanks (cs : List Char) : List Char := cs.dropWhile fun c => c == ' ' || c == '\t'

/-- The text after a line break. -/
def lineBreak? : List Char → Option (List Char)
  | '\n' :: r => some r
  | '\r' :: '\n' :: r => some r
  | _ => none

/-- Whether a character may stand in a line: a tab, or no control character. -/
def isPrintable (c : Char) : Bool := c == '\t' || (32 ≤ c.toNat && c.toNat != 127)

/-- The text after a comment, if one starts here; `none` if the comment is not one. -/
def skipComment (cs : List Char) : Option (List Char) :=
  match cs with
  | '#' :: r =>
    let rest := r.dropWhile fun c => c != '\n' && c != '\r'
    let body := r.takeWhile fun c => c != '\n' && c != '\r'
    if body.all isPrintable then some rest else none
  | r => some r

/-! ### Strings -/

/-- The character with a code, if it is one. -/
def charOf? (n : Nat) : Option Char := if n.isValidChar then some (Char.ofNat n) else none

/-- The value of hexadecimal digits. -/
def hexDigits? (ds : List Char) : Option Nat :=
  ds.foldlM (fun n d => (Json.hexValue? d).map (n * 16 + ·)) 0

/-- The character that an escape stands for, after its backslash. -/
def escape? : List Char → Option (Char × List Char)
  | '"' :: r => some ('"', r)
  | '\\' :: r => some ('\\', r)
  | 'b' :: r => some (Char.ofNat 8, r)
  | 'f' :: r => some (Char.ofNat 12, r)
  | 'n' :: r => some ('\n', r)
  | 'r' :: r => some ('\r', r)
  | 't' :: r => some ('\t', r)
  | 'u' :: r => do
    if r.length < 4 then none
    let c ← charOf? (← hexDigits? (r.take 4))
    some (c, r.drop 4)
  | 'U' :: r => do
    if r.length < 8 then none
    let c ← charOf? (← hexDigits? (r.take 8))
    some (c, r.drop 8)
  | _ => none

/-- The rest of a string in one line between quotes. -/
def basic? : Nat → List Char → List Char → Option (List Char × List Char)
  | 0, _, _ => none
  | fuel + 1, acc, cs =>
    match cs with
    | '"' :: r => some (acc.reverse, r)
    | '\\' :: r => do
      let (c, r') ← escape? r
      basic? fuel (c :: acc) r'
    | c :: r => if isPrintable c then basic? fuel (c :: acc) r else none
    | [] => none

/-- The rest of a string in one line between apostrophes. -/
def literal? : List Char → List Char → Option (List Char × List Char)
  | _, [] => none
  | acc, c :: r =>
    if c = '\'' then some (acc.reverse, r)
    else if isPrintable c then literal? (c :: acc) r else none

/-- What follows the three marks that close a string of several lines; up to two more marks before them
belong to the string. -/
def closing? (mark : Char) (cs : List Char) : Option (List Char × List Char) :=
  let run := (cs.takeWhile (· == mark)).length
  if 3 ≤ run then
    let extra := min (run - 3) 2
    some (List.replicate extra mark, cs.drop (extra + 3))
  else none

/-- The text after a backslash that ends a line, and all blanks and line breaks after it. -/
def joinLines? (cs : List Char) : Option (List Char) :=
  match lineBreak? (skipBlanks cs) with
  | none => none
  | some r => some (r.dropWhile fun c => c == ' ' || c == '\t' || c == '\n' || c == '\r')

/-- The rest of a string of several lines. -/
def multiline? (mark : Char) : Nat → List Char → List Char → Option (List Char × List Char)
  | 0, _, _ => none
  | fuel + 1, acc, cs =>
    match closing? mark cs with
    | some (extra, r) => some (acc.reverse ++ extra, r)
    | none =>
      match lineBreak? cs with
      | some r => multiline? mark fuel ('\n' :: acc) r
      | none =>
        match cs with
        | [] => none
        | c :: r =>
          if c = '\\' ∧ mark = '"' then
            match joinLines? r with
            | some r' => multiline? mark fuel acc r'
            | none => do
              let (x, r') ← escape? r
              multiline? mark fuel (x :: acc) r'
          else if isPrintable c then multiline? mark fuel (c :: acc) r else none

/-- The rest of a string of several lines, after its three marks. -/
def afterMarks? (mark : Char) (cs : List Char) : Option (List Char × List Char) :=
  multiline? mark (cs.length + 1) [] ((lineBreak? cs).getD cs)

/-- A string. -/
def string? : List Char → Option (List Char × List Char)
  | '"' :: '"' :: '"' :: r => afterMarks? '"' r
  | '\'' :: '\'' :: '\'' :: r => afterMarks? '\'' r
  | '"' :: r => basic? (r.length + 1) [] r
  | '\'' :: r => literal? [] r
  | _ => none

/-! ### Numbers -/

/-- Digits of some kind, single underscores between them; the digits alone are kept. -/
def spacedDigits (ok : Char → Bool) : List Char → List Char × List Char
  | [] => ([], [])
  | [c] => if ok c then ([c], []) else ([], [c])
  | c :: d :: r =>
    if !ok c then ([], c :: d :: r)
    else if d = '_' then
      if r.head?.any ok then
        let (ds, rest) := spacedDigits ok r
        (c :: ds, rest)
      else ([c], d :: r)
    else
      let (ds, rest) := spacedDigits ok (d :: r)
      (c :: ds, rest)

/-- An integer, if it fits 64 bits. -/
def ofInt64? (i : Int) : Option Json :=
  if Text.fitsSigned64 i then some (.ofInt i) else none

/-- An integer in a base other than ten, after its two-character mark. -/
def based? (base : Nat) (cs : List Char) : Option (Json × List Char) :=
  match spacedDigits (fun c => (Json.hexValue? c).any (decide <| · < base)) cs with
  | ([], _) => none
  | (ds, r) =>
    (ofInt64? (ds.foldl (fun n d => n * base + (Json.hexValue? d).getD 0) 0 : Nat)).map (·, r)

/-- The digits of a decimal number without sign: zero alone, or no zero in front. -/
def wholeDigits? (cs : List Char) : Option (List Char × List Char) :=
  match cs with
  | '0' :: r => some (['0'], r)
  | _ => match spacedDigits Char.isDigit cs with
    | ([], _) => none
    | (ds, r) => some (ds, r)

/-- The digits after a point, if there is one. -/
def fraction? : List Char → Option (List Char × List Char)
  | '.' :: r => match spacedDigits Char.isDigit r with
    | ([], _) => none
    | (ds, r') => some (ds, r')
  | r => some ([], r)

/-- An exponent after its letter. -/
def exponent? (cs : List Char) : Option (Int × List Char) :=
  let (negative, r) := match cs with
    | '+' :: r => (false, r)
    | '-' :: r => (true, r)
    | r => (false, r)
  match spacedDigits Char.isDigit r with
  | ([], _) => none
  | (ds, r') => some (if negative then -(digitsValue ds : Int) else digitsValue ds, r')

/-- A sign and the text after it. -/
def sign : List Char → Bool × List Char
  | '+' :: r => (false, r)
  | '-' :: r => (true, r)
  | r => (false, r)

/-- What stands for a number that has no digits. -/
def unbounded (negative : Bool) : Json := .number ⟨negative, ['1'], ['0'], some 99999⟩

/-- A decimal number: an integer, or a decimal that does not exceed every double. -/
def decimal? (cs : List Char) : Option (Json × List Char) := do
  let (negative, r) := sign cs
  match r with
  | 'i' :: 'n' :: 'f' :: r' | 'n' :: 'a' :: 'n' :: r' => some (unbounded negative, r')
  | _ =>
    let (whole, r) ← wholeDigits? r
    let (fraction, r) ← fraction? r
    match r with
    | 'e' :: r' | 'E' :: r' =>
      let (e, r₂) ← exponent? r'
      let n : Numeral := ⟨negative, whole, fraction, some e⟩
      if n.inRange then some (.number n, r₂) else none
    | _ =>
      if fraction.isEmpty then
        let i : Int := if negative then -(digitsValue whole : Int) else digitsValue whole
        (ofInt64? i).map (·, r)
      else
        let n : Numeral := ⟨negative, whole, fraction, none⟩
        if n.inRange then some (.number n, r) else none

/-! ### Dates and times -/

/-- As many digits as asked for, and their value. -/
def exactDigits? (n : Nat) (cs : List Char) : Option (Nat × List Char) :=
  let ds := cs.take n
  if ds.length = n ∧ ds.all Char.isDigit then some (digitsValue ds, cs.drop n) else none

/-- The text after a character. -/
def mark? (c : Char) : List Char → Option (List Char)
  | x :: r => if x = c then some r else none
  | [] => none

/-- Whether a text starts like a date. -/
def looksLikeDate (cs : List Char) : Bool :=
  match exactDigits? 4 cs with
  | some (_, '-' :: _) => true
  | _ => false

/-- Whether a text starts like a time. -/
def looksLikeTime (cs : List Char) : Bool :=
  match exactDigits? 2 cs with
  | some (_, ':' :: _) => true
  | _ => false

/-- The text after a date. -/
def date? (cs : List Char) : Option (List Char) := do
  let (y, r) ← exactDigits? 4 cs
  let (m, r) ← exactDigits? 2 (← mark? '-' r)
  let (d, r) ← exactDigits? 2 (← mark? '-' r)
  if 1 ≤ m ∧ m ≤ 12 ∧ 1 ≤ d ∧ d ≤ Date.daysIn y m then some r else none

/-- The text after a time. -/
def time? (cs : List Char) : Option (List Char) := do
  let (h, r) ← exactDigits? 2 cs
  let (m, r) ← exactDigits? 2 (← mark? ':' r)
  let (s, r) ← exactDigits? 2 (← mark? ':' r)
  if h < 24 ∧ m < 60 ∧ s ≤ 60 then
    match r with
    | '.' :: d :: r' => if d.isDigit then some (r'.dropWhile Char.isDigit) else some r
    | _ => some r
  else none

/-- The text after a zone, if there is one. -/
def zone? (cs : List Char) : Option (List Char) :=
  match cs with
  | 'Z' :: r | 'z' :: r => some r
  | '+' :: r | '-' :: r => do
    let (h, r) ← exactDigits? 2 r
    let (m, r) ← exactDigits? 2 (← mark? ':' r)
    if h < 24 ∧ m < 60 then some r else none
  | r => some r

/-- The text after a date, a time or both. -/
def moment? (cs : List Char) : Option (List Char) :=
  if looksLikeDate cs then do
    let r ← date? cs
    match r with
    | 'T' :: r' | 't' :: r' => zone? (← time? r')
    | ' ' :: r' => if looksLikeTime r' then zone? (← time? r') else some r
    | _ => some r
  else time? cs

/-- A number, date or time. -/
def number? (cs : List Char) : Option (Json × List Char) :=
  if looksLikeDate cs || looksLikeTime cs then
    (moment? cs).map fun r =>
      (.object [("moment", .string (String.ofList (cs.take (cs.length - r.length))))], r)
  else match cs with
    | '0' :: 'x' :: r => based? 16 r
    | '0' :: 'o' :: r => based? 8 r
    | '0' :: 'b' :: r => based? 2 r
    | _ => decimal? cs

end Backlog.Toml
