import Backlog.Json.Parser

/-! # What a number literal stands for

A whole literal is an integer while it fits 64 bits (`Numeral.whole?`); every other literal is a double.
A double is read as a 64-bit integer times a power of ten: digits are taken as long as the integer fits
64 bits, later ones only count as places, and the integer is then multiplied or divided by the power of
ten in double arithmetic, in steps of at most `10 ^ 308`. A literal beyond the largest double stands
for nothing. -/

namespace Backlog.Numeral

/-- The integer a whole literal stands for: from `-2 ^ 63` to `2 ^ 64 - 1`, and not minus zero. -/
def whole? (n : Numeral) : Option Int :=
  if !n.isWhole then none
  else
    let v := Text.digitsValue n.whole
    if n.negative then (if 0 < v ∧ v ≤ 9223372036854775808 then some (-(v : Int)) else none)
    else if Text.fits64 v then some v else none

/-- Digits taken into a 64-bit integer while they fit: the integer, and how many digits were left. -/
def takeDigits (acc : Nat) : List Char → Nat × Nat
  | [] => (acc, 0)
  | d :: ds =>
    let acc' := acc * 10 + Text.digitValue d
    if Text.fits64 acc' then takeDigits acc' ds else (acc, ds.length + 1)

/-- A natural power of ten as a double. -/
def tenTo (k : Nat) : Float := Float.ofScientific 1 false k

/-- `significand * 10 ^ exponent` as a double. -/
def scaleBy : Nat → Float → Int → Option Float
  | 0, x, _ => some x
  | fuel + 1, x, e =>
    if e.natAbs ≤ 308 then
      if 0 ≤ e then
        let y := x * tenTo e.natAbs
        if y.isInf then none else some y
      else some (x / tenTo e.natAbs)
    else if x == 0.0 then some x
    else if 0 ≤ e then none
    else scaleBy fuel (x / tenTo 308) (e + 308)

/-- The largest exponent that is told apart from a larger one. -/
def exponentLimit : Nat := 2147483647

/-- The magnitude of a literal as a double. -/
def magnitude? (n : Numeral) : Option Float :=
  let (w, dropped) := takeDigits 0 n.whole
  let (significand, kept) :=
    if n.fraction.isEmpty then (w, 0)
    else
      let (s, left) := takeDigits w n.fraction
      (s, n.fraction.length - left)
  let start : Int := (dropped : Int) - kept
  let x := significand.toUInt64.toFloat
  match n.exponent with
  | none => scaleBy 10 x start
  | some e =>
    if exponentLimit < e.natAbs then
      if significand ≠ 0 ∧ 0 < e then none else some 0.0
    else scaleBy (e.natAbs / 308 + start.natAbs / 308 + 3) x (start + e)

/-- The double a literal stands for. -/
def toFloat? (n : Numeral) : Option Float :=
  match n.whole? with
  | some i => some (if i < 0 then -(i.natAbs.toUInt64.toFloat) else i.natAbs.toUInt64.toFloat)
  | none => (magnitude? n).map fun x => if n.negative then -x else x

/-- The double nearest to a literal; in documents that are written here it is the one meant. -/
def nearest (n : Numeral) : Float :=
  let e : Int := n.exponent.getD 0 - n.fraction.length
  let x := Float.ofScientific (Text.digitsValue (n.whole ++ n.fraction)) (decide (e < 0)) e.natAbs
  if n.negative then -x else x

/-- Whether a literal stands for a number at all. -/
def inRange (n : Numeral) : Bool := n.whole?.isSome || (magnitude? n).isSome

end Backlog.Numeral
