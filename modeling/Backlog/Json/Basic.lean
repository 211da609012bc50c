import Backlog.Decimal.Shortest

/-! # JSON documents

A `Json` is a document as its text spells it: numbers keep their digits and objects keep every member
in order, repeated names included, because which readings of a document are accepted depends on both.
Two leaves stand for what a text may hold and no value has: `unpaired` is a string literal with half of
a surrogate pair, and `malformed` marks the place where a text stops being JSON (nothing follows it). -/

namespace Backlog

/-- A number literal: sign, digits before the point, digits after it, exponent. -/
structure Numeral where
  negative : Bool
  whole : List Char
  fraction : List Char
  exponent : Option Int
  deriving Repr, DecidableEq, Inhabited

inductive Json where
  | null
  | bool (b : Bool)
  | number (n : Numeral)
  | string (s : String)
  | array (items : List Json)
  | object (members : List (String × Json))
  | unpaired
  | malformed
  deriving Repr, Inhabited

namespace Numeral

/-- The literal of a whole number. -/
def ofInt (i : Int) : Numeral := ⟨decide (i < 0), Nat.toDigits 10 i.natAbs, [], none⟩

/-- Whether the literal has neither a fraction nor an exponent. -/
def isWhole (n : Numeral) : Bool := n.fraction.isEmpty && n.exponent.isNone

/-- The layout of a decimal: whole numbers below `10 ^ 16` and fractions from `10 ^ -5` on are written
in full, with at least one digit after the point, and all others with one digit before it and an
exponent. -/
def ofScaled (negative : Bool) (s : Decimal.Scaled) : Numeral :=
  let ds := Nat.toDigits 10 s.digits
  let point : Int := (ds.length : Int) + s.exponent
  if 0 ≤ s.exponent ∧ point ≤ 16 then
    ⟨negative, ds ++ List.replicate s.exponent.toNat '0', ['0'], none⟩
  else if 0 < point ∧ point ≤ 16 then
    ⟨negative, ds.take point.toNat, ds.drop point.toNat, none⟩
  else if -5 < point ∧ point ≤ 0 then
    ⟨negative, ['0'], List.replicate (-point).toNat '0' ++ ds, none⟩
  else ⟨negative, ds.take 1, ds.drop 1, some (point - 1)⟩

end Numeral

namespace Json

/-- A whole number. -/
def ofInt (i : Int) : Json := .number (.ofInt i)

/-- A natural number. -/
def ofNat (n : Nat) : Json := .number (.ofInt n)

/-- The number with the given sign and magnitude. -/
def ofParts : Option (Bool × Option Decimal.Binary) → Json
  | none => .null
  | some (negative, none) => .number ⟨negative, ['0'], ['0'], none⟩
  | some (negative, some b) => .number (.ofScaled negative b.shortest)

/-- A double, by its shortest decimal; what is no number is `null`. -/
def ofFloat (x : Float) : Json := ofParts (Decimal.ofDouble? x)

/-- A single-precision number, by its shortest decimal. -/
def ofFloat32 (x : Float32) : Json := ofParts (Decimal.ofSingle? x)

/-- An optional value, absent as `null`. -/
def ofOption {α : Type} (f : α → Json) : Option α → Json
  | none => .null
  | some a => f a

/-- A list of values. -/
def ofList {α : Type} (f : α → Json) (xs : List α) : Json := .array (xs.map f)

/-- The last member of an object with a name. -/
def get? (name : String) : Json → Option Json
  | .object ms => (ms.filter (·.1 == name)).getLast?.map (·.2)
  | _ => none

end Json

end Backlog
