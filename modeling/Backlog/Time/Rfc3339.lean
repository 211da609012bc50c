import Backlog.Text.Blank
import Backlog.Text.Digits
import Backlog.Time.Calendar

/-! # RFC 3339 texts

An instant is written as date, `T`, time and zone, with as many digits of the second as it needs: none,
3, 6 or 9. Reading is more generous than writing: blanks may stand before each part, the date and the
time may be parted by a blank or a small letter, month, day, hour, minute and second may have one digit,
and the zone may be `Z`, `UTC` or an offset in hours and minutes. A sixtieth second is a leap second. Texts
in tables are read strictly. -/

namespace Backlog.Instant

open Backlog.Text

/-! ### Writing -/

/-- Decimal digits, padded with zeros on the left. -/
def padded (width n : Nat) : List Char :=
  let ds := Nat.toDigits 10 n
  List.replicate (width - ds.length) '0' ++ ds

/-- A year: four digits, or with a sign outside 0 to 9999. -/
def yearDigits (y : Int) : List Char :=
  if 0 ≤ y ∧ y ≤ 9999 then padded 4 y.toNat
  else (if y < 0 then '-' else '+') :: padded 4 y.natAbs

/-- The digits of the second. -/
def fractionDigits (nanos : Nat) : List Char :=
  if nanos = 0 then []
  else if nanos % 1000000 = 0 then '.' :: padded 3 (nanos / 1000000)
  else if nanos % 1000 = 0 then '.' :: padded 6 (nanos / 1000)
  else '.' :: padded 9 nanos

/-- Date and time, without a zone. -/
def dateTimeChars (t : Instant) : List Char :=
  let d := Date.ofDays (t.seconds / 86400)
  let s := (t.seconds % 86400).toNat
  let leap := decide (1000000000 ≤ t.nanos)
  yearDigits d.year ++ '-' :: padded 2 d.month ++ '-' :: padded 2 d.day ++ 'T' ::
    padded 2 (s / 3600) ++ ':' :: padded 2 (s / 60 % 60) ++
    ':' :: padded 2 (if leap then s % 60 + 1 else s % 60) ++
    fractionDigits (if leap then t.nanos - 1000000000 else t.nanos)

/-- The text of an instant, in universal time. -/
def toText (t : Instant) : String := String.ofList (t.dateTimeChars ++ ['Z'])

/-! ### Reading -/

/-- A number of at least one and at most `most` digits, after blanks. -/
def number? (most : Nat) (cs : List Char) : Option (Nat × List Char) :=
  let cs := trimStart cs
  match (cs.take most).takeWhile Char.isDigit with
  | [] => none
  | ds => some (digitsValue ds, cs.drop ds.length)

/-- The text after a character, which blanks may precede. -/
def mark? (c : Char) (cs : List Char) : Option (List Char) :=
  match trimStart cs with
  | x :: r => if x = c then some r else none
  | [] => none

/-- A year, after blanks: up to four digits, or any number of them after a sign. -/
def year? (cs : List Char) : Option (Int × List Char) :=
  match trimStart cs with
  | '-' :: r => if r.head?.any Char.isDigit then
      (number? r.length r).map fun (n, r') => (-(n : Int), r') else none
  | '+' :: r => if r.head?.any Char.isDigit then
      (number? r.length r).map fun (n, r') => ((n : Int), r') else none
  | r => (number? 4 r).map fun (n, r') => ((n : Int), r')

/-- The digits of the second as nanoseconds; digits after the ninth do not count. -/
def fraction? : List Char → Option (Nat × List Char)
  | '.' :: r =>
    match r.takeWhile Char.isDigit with
    | [] => none
    | ds =>
      let kept := ds.take 9
      some (digitsValue kept * Nat.pow 10 (9 - kept.length), r.drop ds.length)
  | r => some (0, r)

/-- Two digits. -/
def twoDigits? : List Char → Option (Nat × List Char)
  | a :: b :: r =>
    if a.isDigit && b.isDigit then some (digitsValue [a, b], r) else none
  | _ => none

/-- An offset from universal time after its sign, in seconds. -/
def offsetSize? (cs : List Char) : Option (Nat × List Char) := do
  let (h, r) ← twoDigits? cs
  let (m, r) ← twoDigits? (r.dropWhile fun c => c == ':' || isBlank c)
  if m < 60 then some (h * 3600 + m * 60, r) else none

/-- A zone as its offset in seconds. -/
def zone? (cs : List Char) : Option (Int × List Char) :=
  match cs with
  | 'Z' :: r | 'z' :: r => some (0, r)
  | '+' :: r => (offsetSize? r).map fun (n, r') => ((n : Int), r')
  | '-' :: r | '−' :: r => (offsetSize? r).map fun (n, r') => (-(n : Int), r')
  | u :: t :: c :: r =>
    if u.toUpper = 'U' ∧ t.toUpper = 'T' ∧ c.toUpper = 'C' then some (0, r) else none
  | _ => none

/-- The instant of a date, a time of day and an offset in seconds, if there is one. -/
def ofParts? (date : Date) (hour minute second nanos : Nat) (offset : Int) : Option Instant :=
  if date.isValid && decide (hour < 24) && decide (minute < 60) && decide (second ≤ 60) then
    let leap := second = 60
    let seconds := date.toDays * 86400 + hour * 3600 + minute * 60 + (if leap then 59 else second)
      - offset
    if firstSecond ≤ seconds ∧ seconds ≤ lastSecond then
      some ⟨seconds, if leap then nanos + 1000000000 else nanos⟩
    else none
  else none

/-- The instant that a text names. -/
def ofText? (s : String) : Option Instant := do
  let (year, r) ← year? s.toList
  let (month, r) ← number? 2 (← mark? '-' r)
  let (day, r) ← number? 2 (← mark? '-' r)
  let r ← match r with
    | 't' :: r | 'T' :: r | ' ' :: r => some r
    | _ => none
  let (hour, r) ← number? 2 r
  let (minute, r) ← number? 2 (← mark? ':' r)
  let (second, r) ← number? 2 (← mark? ':' r)
  let (nanos, r) ← fraction? r
  let (offset, r) ← zone? (trimStart r)
  if (trimStart r).isEmpty && decide (offset.natAbs < 86400) then
    ofParts? ⟨year, month, day⟩ hour minute second nanos offset
  else none

/-! ### Strict texts

In a table an instant stands with the offset of universal time, and is read as RFC 3339 has it: no blanks
between the parts, every number with all its digits, an offset with a colon. -/

/-- The text of an instant, with the offset of universal time. -/
def toStrictText (t : Instant) : String := String.ofList (t.dateTimeChars ++ ['+', '0', '0', ':', '0', '0'])

/-- A number of exactly so many digits. -/
def fixed? (width : Nat) (cs : List Char) : Option (Nat × List Char) :=
  let ds := cs.take width
  if ds.length = width ∧ ds.all Char.isDigit then some (digitsValue ds, cs.drop width) else none

/-- The text after a character. -/
def after? (c : Char) : List Char → Option (List Char)
  | x :: r => if x = c then some r else none
  | [] => none

/-- An offset from universal time in seconds. -/
def strictOffset? : List Char → Option (Int × List Char)
  | [] => none
  | x :: r =>
    if x = 'Z' ∨ x = 'z' then some (0, r)
    else do
      let sign : Int ← if x = '+' then some 1 else if x = '-' ∨ x = '−' then some (-1) else none
      let (hours, r) ← fixed? 2 r
      let (minutes, r) ← fixed? 2 (← after? ':' r)
      if hours < 24 ∧ minutes < 60 then some (sign * (hours * 3600 + minutes * 60), r) else none

/-- The instant that a strict text names. -/
def ofStrictText? (s : String) : Option Instant := do
  let (year, r) ← fixed? 4 s.toList
  let (month, r) ← fixed? 2 (← after? '-' r)
  let (day, r) ← fixed? 2 (← after? '-' r)
  let r ← match r with
    | 't' :: r | 'T' :: r | ' ' :: r => some r
    | _ => none
  let (hour, r) ← fixed? 2 r
  let (minute, r) ← fixed? 2 (← after? ':' r)
  let (second, r) ← fixed? 2 (← after? ':' r)
  let (nanos, r) ← fraction? r
  let (offset, r) ← strictOffset? r
  if r.isEmpty then ofParts? ⟨year, month, day⟩ hour minute second nanos offset else none

end Backlog.Instant
