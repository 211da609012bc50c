/-! # Lengths of time

The text of a length of time names the largest unit among seconds, milliseconds, microseconds and
nanoseconds of which there is at least one, with the decimals it needs and no trailing zeros. -/

namespace Backlog

/-- A length of time in nanoseconds. -/
structure Span where
  nanos : Nat
  deriving Repr, DecidableEq, Inhabited

namespace Span

/-- A number of milliseconds. -/
def ofMillis (ms : Nat) : Span := ⟨ms * 1000000⟩

/-- Digits after the point of `n / 10 ^ places`, without trailing zeros. -/
def decimals (places n : Nat) : List Char :=
  let ds := Nat.toDigits 10 n
  let all := List.replicate (places - ds.length) '0' ++ ds
  (all.reverse.dropWhile (· == '0')).reverse

/-- `whole` units and `part / 10 ^ places` of one. -/
def inUnit (unit : String) (places whole part : Nat) : String :=
  let ds := if part = 0 then [] else decimals places part
  toString whole ++ (if ds.isEmpty then "" else "." ++ String.ofList ds) ++ unit

/-- The text of a length of time. -/
def toText (s : Span) : String :=
  let n := s.nanos
  if 1000000000 ≤ n then inUnit "s" 9 (n / 1000000000) (n % 1000000000)
  else if 1000000 ≤ n then inUnit "ms" 6 (n / 1000000) (n % 1000000)
  else if 1000 ≤ n then inUnit "µs" 3 (n / 1000) (n % 1000)
  else inUnit "ns" 0 n 0

end Span

end Backlog
