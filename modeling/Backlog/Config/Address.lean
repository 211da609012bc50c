import Backlog.Json.Parser

/-! # Internet addresses

An address of either family as text. Version 4 has four numbers without superfluous zeros. Version 6 has
eight groups of up to four hexadecimal digits, one run of which may be left out as `::`, and may end in
an address of version 4. It is written in small letters with the longest run of at least two zero groups
left out, the first of several; only mapped addresses keep a version 4 ending. -/

namespace Backlog

inductive Address where
  | v4 (bytes : List Nat)
  | v6 (groups : List Nat)
  deriving Repr, DecidableEq, Inhabited

namespace Address

open Backlog.Text

/-! ### Reading -/

/-- A number below 256 without superfluous zeros. -/
def byte? (cs : List Char) : Option (Nat × List Char) :=
  let ds := cs.takeWhile Char.isDigit
  let n := digitsValue ds
  if ds.isEmpty || decide (3 < ds.length) || (ds.head? == some '0' && decide (1 < ds.length)) ||
      decide (255 < n) then none
  else some (n, cs.drop ds.length)

/-- The text after a character. -/
def mark? (c : Char) : List Char → Option (List Char)
  | x :: r => if x = c then some r else none
  | [] => none

/-- Four numbers. -/
def quad? (cs : List Char) : Option (List Nat × List Char) := do
  let (a, r) ← byte? cs
  let (b, r) ← byte? (← mark? '.' r)
  let (c, r) ← byte? (← mark? '.' r)
  let (d, r) ← byte? (← mark? '.' r)
  some ([a, b, c, d], r)

/-- A group of one to four hexadecimal digits. -/
def group? (cs : List Char) : Option (Nat × List Char) :=
  let ds := cs.takeWhile fun c => (Json.hexValue? c).isSome
  if ds.isEmpty || decide (4 < ds.length) then none
  else some (ds.foldl (fun n d => n * 16 + (Json.hexValue? d).getD 0) 0, cs.drop ds.length)

/-- Two groups that four numbers stand for. -/
def quadGroups : List Nat → List Nat
  | [a, b, c, d] => [a * 256 + b, c * 256 + d]
  | _ => []

/-- At most `limit` groups with colons between them; tells whether four numbers end them. -/
def groups : Nat → Bool → List Char → List Nat × Bool × List Char
  | 0, _, cs => ([], false, cs)
  | limit + 1, first, cs =>
    match (if first then some cs else mark? ':' cs) with
    | none => ([], false, cs)
    | some r =>
      match (if 0 < limit then quad? r else none) with
      | some (q, r') => (quadGroups q, true, r')
      | none => match group? r with
        | none => ([], false, cs)
        | some (g, r') =>
          let (gs, ended, rest) := groups limit false r'
          (g :: gs, ended, rest)

/-- Eight groups, as far as they are written out. -/
def eight? (cs : List Char) : Option (List Nat × List Char) :=
  let (head, ended, r) := groups 8 true cs
  if head.length = 8 then some (head, r)
  else if ended then none
  else match r with
    | ':' :: ':' :: r' =>
      let (tail, _, rest) := groups (7 - head.length) true r'
      some (head ++ List.replicate (8 - head.length - tail.length) 0 ++ tail, rest)
    | _ => none

/-- The address that a text names. -/
def ofText? (s : String) : Option Address :=
  match quad? s.toList with
  | some (q, []) => some (.v4 q)
  | _ => match eight? s.toList with
    | some (gs, []) => some (.v6 gs)
    | _ => none

/-! ### Writing -/

/-- Four numbers as text. -/
def quadText (bytes : List Nat) : String := ".".intercalate (bytes.map toString)

/-- A group as text. -/
def groupText (g : Nat) : String := String.ofList (Nat.toDigits 16 g)

/-- Groups as text. -/
def groupsText (gs : List Nat) : String := ":".intercalate (gs.map groupText)

/-- How many zeros a list starts with. -/
def zeros (gs : List Nat) : Nat := (gs.takeWhile (· == 0)).length

/-- The start and length of the longest run of zeros, the first of several. -/
def longestZeros (gs : List Nat) : Nat × Nat :=
  (List.range gs.length).foldl (fun best i =>
    let n := zeros (gs.drop i)
    if best.2 < n then (i, n) else best) (0, 0)

/-- The text of an address. -/
def toText : Address → String
  | .v4 bytes => quadText bytes
  | .v6 gs =>
    match gs with
    | [0, 0, 0, 0, 0, 0xFFFF, a, b] =>
      "::ffff:" ++ quadText [a / 256, a % 256, b / 256, b % 256]
    | _ =>
      let (i, n) := longestZeros gs
      if n ≤ 1 then groupsText gs
      else groupsText (gs.take i) ++ "::" ++ groupsText (gs.drop (i + n))

end Address

end Backlog
