import Backlog.Json.Basic
import Backlog.Text.Digits

/-! # Reading JSON text

`Json.read` is total: a text that is not JSON gives the document of all that comes before its first
fault, with `malformed` at the place of the fault. Whoever walks the document in order thus meets a
fault of the text exactly after everything that precedes it. The grammar is that of RFC 8259: blanks
are the four JSON blanks, a number has no superfluous leading zero, no comma stands before a closing
bracket, control characters are escaped. -/

namespace Backlog.Json

/-- Blanks between tokens. -/
def isGap (c : Char) : Bool := c == ' ' || c == '\n' || c == '\t' || c == '\r'

/-- A text from its first token on. -/
def skipGap (cs : List Char) : List Char := cs.dropWhile isGap

/-- The value of a hexadecimal digit. -/
def hexValue? (c : Char) : Option Nat :=
  if '0' ≤ c ∧ c ≤ '9' then some (c.toNat - 48)
  else if 'a' ≤ c ∧ c ≤ 'f' then some (c.toNat - 87)
  else if 'A' ≤ c ∧ c ≤ 'F' then some (c.toNat - 55)
  else none

/-- Four hexadecimal digits and the text after them. -/
def hexFour? : List Char → Option (Nat × List Char)
  | a :: b :: c :: d :: rest => do
    let a ← hexValue? a
    let b ← hexValue? b
    let c ← hexValue? c
    let d ← hexValue? d
    some (((a * 16 + b) * 16 + c) * 16 + d, rest)
  | _ => none

/-- Whether a code unit starts a surrogate pair. -/
def isHighHalf (n : Nat) : Bool := decide (0xD800 ≤ n) && decide (n < 0xDC00)

/-- Whether a code unit ends a surrogate pair. -/
def isLowHalf (n : Nat) : Bool := decide (0xDC00 ≤ n) && decide (n < 0xE000)

/-- The text of a string literal after its opening quote, and what follows its closing quote. The text
is `none` if an escape names half of a surrogate pair alone; the whole is `none` if the literal is not
one. `text` holds the characters so far, the last first. -/
def literal? : Nat → List Char → Option (List Char) → Option (Option String × List Char)
  | 0, _, _ => none
  | _ + 1, [], _ => none
  | fuel + 1, c :: cs, text =>
    let push (x : Char) := text.map (x :: ·)
    if c = '"' then some (text.map fun t => String.ofList t.reverse, cs)
    else if c.toNat < 32 then none
    else if c = '\\' then
      match cs with
      | '"' :: r => literal? fuel r (push '"')
      | '\\' :: r => literal? fuel r (push '\\')
      | '/' :: r => literal? fuel r (push '/')
      | 'b' :: r => literal? fuel r (push (Char.ofNat 8))
      | 'f' :: r => literal? fuel r (push (Char.ofNat 12))
      | 'n' :: r => literal? fuel r (push '\n')
      | 'r' :: r => literal? fuel r (push '\r')
      | 't' :: r => literal? fuel r (push '\t')
      | 'u' :: r =>
        match hexFour? r with
        | none => none
        | some (n, r') =>
          if isHighHalf n then
            match r' with
            | '\\' :: 'u' :: r₂ =>
              match hexFour? r₂ with
              | none => none
              | some (m, r₃) =>
                if isLowHalf m then
                  literal? fuel r₃ (push (Char.ofNat (0x10000 + (n - 0xD800) * 0x400 + (m - 0xDC00))))
                else literal? fuel r' none
            | _ => literal? fuel r' none
          else if isLowHalf n then literal? fuel r' none
          else literal? fuel r' (push (Char.ofNat n))
      | _ => none
    else literal? fuel cs (push c)

/-- Leading decimal digits and the rest. -/
def spanDigits (cs : List Char) : List Char × List Char := cs.span Char.isDigit

/-- The exponent of a literal, after its `e`. -/
def exponent? (cs : List Char) : Option (Int × List Char) :=
  let (negative, r) := match cs with
    | '+' :: r => (false, r)
    | '-' :: r => (true, r)
    | r => (false, r)
  match spanDigits r with
  | ([], _) => none
  | (ds, r') =>
    let n : Int := Text.digitsValue ds
    some (if negative then -n else n, r')

/-- A literal from its whole digits on. -/
def numeralAfter? (negative : Bool) (whole rest : List Char) : Option (Numeral × List Char) :=
  let fractionDone : Option (List Char × List Char) := match rest with
    | '.' :: r => match spanDigits r with
      | ([], _) => none
      | (ds, r') => some (ds, r')
    | r => some ([], r)
  match fractionDone with
  | none => none
  | some (fraction, r) =>
    match r with
    | 'e' :: r' | 'E' :: r' =>
      (exponent? r').map fun (e, r₂) => (⟨negative, whole, fraction, some e⟩, r₂)
    | _ => some (⟨negative, whole, fraction, none⟩, r)

/-- A literal without its sign. -/
def numeral? (negative : Bool) (cs : List Char) : Option (Numeral × List Char) :=
  match spanDigits cs with
  | ([], _) => none
  | (['0'], r) => numeralAfter? negative ['0'] r
  | ('0' :: _ :: _, _) => none
  | (ds, r) => numeralAfter? negative ds r

/-- The text after a fixed word. -/
def word? : List Char → List Char → Option (List Char)
  | [], cs => some cs
  | w :: ws, c :: cs => if w = c then word? ws cs else none
  | _ :: _, [] => none

mutual

/-- A value and the text after it, or the document up to the fault and nothing. -/
def value : Nat → List Char → Json × Option (List Char)
  | 0, _ => (.malformed, none)
  | fuel + 1, cs =>
    let broken : Json × Option (List Char) := (.malformed, none)
    let leaf (v : Json) : Option (List Char) → Json × Option (List Char)
      | some r => (v, some r)
      | none => broken
    match skipGap cs with
    | '{' :: r =>
      match skipGap r with
      | '}' :: r' => (.object [], some r')
      | r' =>
        let (ms, rest) := members fuel r'
        (.object ms, rest)
    | '[' :: r =>
      match skipGap r with
      | ']' :: r' => (.array [], some r')
      | r' =>
        let (vs, rest) := items fuel r'
        (.array vs, rest)
    | '"' :: r =>
      match literal? (r.length + 1) r (some []) with
      | some (some s, r') => (.string s, some r')
      | some (none, r') => (.unpaired, some r')
      | none => broken
    | 'n' :: r => leaf .null (word? ['u', 'l', 'l'] r)
    | 't' :: r => leaf (.bool true) (word? ['r', 'u', 'e'] r)
    | 'f' :: r => leaf (.bool false) (word? ['a', 'l', 's', 'e'] r)
    | '-' :: r => match numeral? true r with
      | some (n, r') => (.number n, some r')
      | none => broken
    | c :: r => match numeral? false (c :: r) with
      | some (n, r') => (.number n, some r')
      | none => broken
    | [] => broken

/-- The items of an array up to its closing bracket. -/
def items : Nat → List Char → List Json × Option (List Char)
  | 0, _ => ([.malformed], none)
  | fuel + 1, cs =>
    match value fuel cs with
    | (v, none) => ([v], none)
    | (v, some r) =>
      match skipGap r with
      | ',' :: r' =>
        let (vs, rest) := items fuel r'
        (v :: vs, rest)
      | ']' :: r' => ([v], some r')
      | _ => ([v, .malformed], none)

/-- The members of an object up to its closing brace. -/
def members : Nat → List Char → List (String × Json) × Option (List Char)
  | 0, _ => ([("", .malformed)], none)
  | fuel + 1, cs =>
    match skipGap cs with
    | '"' :: r =>
      match literal? (r.length + 1) r (some []) with
      | some (some k, r') =>
        match skipGap r' with
        | ':' :: r₂ =>
          match value fuel r₂ with
          | (v, none) => ([(k, v)], none)
          | (v, some r₃) =>
            match skipGap r₃ with
            | ',' :: r₄ =>
              let (ms, rest) := members fuel r₄
              ((k, v) :: ms, rest)
            | '}' :: r₄ => ([(k, v)], some r₄)
            | _ => ([(k, v), ("", .malformed)], none)
        | _ => ([(k, .malformed)], none)
      | _ => ([("", .malformed)], none)
    | _ => ([("", .malformed)], none)

end

/-- A text as a document; `surplus` tells that more text follows it. -/
structure Reading where
  document : Json
  surplus : Bool

/-- The document at the start of a text. -/
def read (s : String) : Reading :=
  let cs := s.toList
  match value (2 * cs.length + 2) cs with
  | (v, none) => ⟨v, false⟩
  | (v, some r) => ⟨v, !(skipGap r).isEmpty⟩

end Backlog.Json
