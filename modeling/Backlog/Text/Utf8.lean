import Backlog.Text.Digits

/-! # UTF-8

Bytes are natural numbers below 256. The first byte of a character tells how many bytes follow it and
what the next of them may be (`Lead`); every later one is between 0x80 and 0xBF. Bytes that are no text
are cut into the longest starts of characters, each of which counts as one fault: `text?` refuses any
fault, and `lossy` puts a replacement character in its place. -/

namespace Backlog.Text.Utf8

/-- The bytes of a text. -/
def encode (cs : List Char) : List Nat := (cs.flatMap String.utf8EncodeChar).map UInt8.toNat

/-- What the first byte of a character says. -/
structure Lead where
  /-- How many bytes follow. -/
  owed : Nat
  /-- The least value of the next byte. -/
  least : Nat
  /-- The greatest value of the next byte. -/
  greatest : Nat
  /-- The share of the first byte in the code point. -/
  bits : Nat
  deriving Repr, DecidableEq

/-- What a first byte says; some bytes start no character. -/
def lead? (b : Nat) : Option Lead :=
  if b < 0x80 then some ⟨0, 0x80, 0xBF, b⟩
  else if b < 0xC2 then none
  else if b < 0xE0 then some ⟨1, 0x80, 0xBF, b - 0xC0⟩
  else if b = 0xE0 then some ⟨2, 0xA0, 0xBF, 0⟩
  else if b = 0xED then some ⟨2, 0x80, 0x9F, 0xD⟩
  else if b < 0xF0 then some ⟨2, 0x80, 0xBF, b - 0xE0⟩
  else if b = 0xF0 then some ⟨3, 0x90, 0xBF, 0⟩
  else if b < 0xF4 then some ⟨3, 0x80, 0xBF, b - 0xF0⟩
  else if b = 0xF4 then some ⟨3, 0x80, 0x8F, 4⟩
  else none

/-- The code point once the bytes that are owed have been taken, and the bytes after it. -/
def take : Nat → Nat → Nat → Nat → List Nat → Option Nat × List Nat
  | 0, _, _, n, bs => (some n, bs)
  | _ + 1, _, _, _, [] => (none, [])
  | k + 1, least, greatest, n, b :: bs =>
    if least ≤ b ∧ b ≤ greatest then take k 0x80 0xBF (n * 64 + (b - 0x80)) bs else (none, b :: bs)

/-- Bytes are only taken away. -/
theorem take_length_le (k least greatest n : Nat) (bs : List Nat) :
    (take k least greatest n bs).2.length ≤ bs.length := by
  induction bs generalizing k least greatest n with
  | nil => cases k <;> simp [take]
  | cons b bs ih =>
    cases k with
    | zero => simp [take]
    | succ k =>
      simp only [take]
      split
      · exact Nat.le_succ_of_le (ih ..)
      · exact Nat.le_refl _

/-- The characters of bytes; `none` stands for a fault. -/
def chars (bs : List Nat) : List (Option Char) :=
  match bs with
  | [] => []
  | b :: rest =>
    match lead? b with
    | none => none :: chars rest
    | some l =>
      (take l.owed l.least l.greatest l.bits rest).1.map Char.ofNat ::
        chars (take l.owed l.least l.greatest l.bits rest).2
termination_by bs.length
decreasing_by
  · simp
  · simpa using Nat.lt_succ_of_le (take_length_le ..)

/-- The text of bytes without faults. -/
def text? (bs : List Nat) : Option String := ((chars bs).mapM id).map String.ofList

/-- The text of bytes, with U+FFFD for every fault. -/
def lossy (bs : List Nat) : String :=
  String.ofList ((chars bs).map fun c => c.getD (Char.ofNat 0xFFFD))

end Backlog.Text.Utf8
