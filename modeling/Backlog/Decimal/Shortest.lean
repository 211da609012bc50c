/-! # The shortest decimal of a binary number

A finite binary number is `mantissa * 2 ^ exponent`. The decimals that read back as it form an interval
around it, half a unit of the last place wide on each side (a quarter below a power of two), with its
ends when the mantissa is even. `shortest` is the decimal of fewest digits in that interval, and of
those the nearest to the number: for 1, 2, … digits it tries the two neighbours of the number on the
grid of that many digits. -/

namespace Backlog.Decimal

/-- A positive binary number: `mantissa * 2 ^ exponent`. The interval below it is half as wide as the
one above when `narrowBelow` holds. -/
structure Binary where
  mantissa : Nat
  exponent : Int
  narrowBelow : Bool
  deriving Repr, DecidableEq

/-- A decimal: `digits * 10 ^ exponent`. -/
structure Scaled where
  digits : Nat
  exponent : Int
  deriving Repr, DecidableEq

/-- A quarter of the last place, as a fraction. -/
def Binary.quarter (b : Binary) : Nat × Nat :=
  if 2 ≤ b.exponent then (Nat.pow 2 (b.exponent - 2).toNat, 1) else (1, Nat.pow 2 (2 - b.exponent).toNat)

/-- How many decimal digits a number has. -/
def digitCount (n : Nat) : Nat := (Nat.toDigits 10 n).length

/-- The exponent of the leading digit of `num / den`. -/
def leadingExponent (num den : Nat) : Int :=
  let k : Int := (digitCount num : Int) - digitCount den
  let enough := if 0 ≤ k then Nat.pow 10 k.toNat * den ≤ num else den ≤ num * Nat.pow 10 (-k).toNat
  if enough then k else k - 1

/-- The better of the neighbours of `num / den` on the grid `10 ^ e` that lie between `low / den` and
`high / den`. -/
def neighbour? (num den low high : Nat) (closed : Bool) (e : Int) : Option Scaled :=
  let up := Nat.pow 10 (-e).toNat
  let down := Nat.pow 10 e.toNat
  let unit := den * down
  let below := num * up / unit
  let inside (d : Nat) : Bool :=
    let x := d * unit
    if closed then decide (low * up ≤ x) && decide (x ≤ high * up)
    else decide (low * up < x) && decide (x < high * up)
  let gapBelow := num * up - below * unit
  let gapAbove := (below + 1) * unit - num * up
  match inside below && decide (0 < below), inside (below + 1) with
  | true, true =>
    some ⟨if gapBelow < gapAbove || (gapBelow == gapAbove && below % 2 == 0) then below
      else below + 1, e⟩
  | true, false => some ⟨below, e⟩
  | false, true => some ⟨below + 1, e⟩
  | false, false => none

/-- The first number of digits, from `n` on, whose grid meets the interval. -/
def searchFrom (num den low high : Nat) (closed : Bool) (lead : Int) : Nat → Nat → Scaled
  | 0, n => ⟨num * Nat.pow 10 n / den, -n⟩
  | fuel + 1, n =>
    match neighbour? num den low high closed (lead - n + 1) with
    | some s => s
    | none => searchFrom num den low high closed lead fuel (n + 1)

/-- A decimal without trailing zeros in its digits. -/
def Scaled.strip : Nat → Scaled → Scaled
  | 0, s => s
  | fuel + 1, s =>
    if s.digits ≠ 0 ∧ s.digits % 10 = 0 then Scaled.strip fuel ⟨s.digits / 10, s.exponent + 1⟩ else s

/-- The shortest decimal that reads back as `b`; 17 digits always suffice for 53 bits. -/
def Binary.shortest (b : Binary) : Scaled :=
  let (qn, den) := b.quarter
  let num := 4 * b.mantissa * qn
  let low := (4 * b.mantissa - (if b.narrowBelow then 1 else 2)) * qn
  let high := (4 * b.mantissa + 2) * qn
  let closed := b.mantissa % 2 == 0
  Scaled.strip 20 (searchFrom num den low high closed (leadingExponent num den) 20 1)

/-- The parts of a double: sign, then the magnitude unless it is zero; `none` for what is no number. -/
def ofDouble? (x : Float) : Option (Bool × Option Binary) :=
  let bits := x.toBits.toNat
  let negative := decide (Nat.pow 2 63 ≤ bits)
  let biased : Nat := bits / Nat.pow 2 52 % Nat.pow 2 11
  let fraction : Nat := bits % Nat.pow 2 52
  if biased = 2047 then none
  else if biased = 0 then
    some (negative, if fraction = 0 then none else some ⟨fraction, -1074, false⟩)
  else
    some (negative,
      some ⟨Nat.pow 2 52 + fraction, (biased : Int) - 1075, fraction == 0 && biased != 1⟩)

/-- The parts of a single-precision number, as for a double. -/
def ofSingle? (x : Float32) : Option (Bool × Option Binary) :=
  let bits := x.toBits.toNat
  let negative := decide (Nat.pow 2 31 ≤ bits)
  let biased : Nat := bits / Nat.pow 2 23 % Nat.pow 2 8
  let fraction : Nat := bits % Nat.pow 2 23
  if biased = 255 then none
  else if biased = 0 then
    some (negative, if fraction = 0 then none else some ⟨fraction, -149, false⟩)
  else
    some (negative,
      some ⟨Nat.pow 2 23 + fraction, (biased : Int) - 150, fraction == 0 && biased != 1⟩)

end Backlog.Decimal
