/-! # Decimal digits

The number that a run of decimal digits spells. -/

namespace Backlog.Text

/-- The value of a decimal digit. -/
def digitValue (d : Char) : Nat := d.toNat - 48

/-- The number that decimal digits spell. -/
def digitsValue (ds : List Char) : Nat := ds.foldl (fun n d => n * 10 + digitValue d) 0

/-- Whether a whole number fits 64 bits with a sign. -/
def fitsSigned64 (i : Int) : Bool :=
  decide (-9223372036854775808 ≤ i) && decide (i ≤ 9223372036854775807)

/-- Whether a natural number fits 64 bits. -/
def fits64 (n : Nat) : Bool := decide (n ≤ 18446744073709551615)

end Backlog.Text
