import Backlog.Json.Number

/-! # Reading values out of documents

A `Read α` turns a document into an `α` or a fault, walking the document in order, so that the first
fault of the text wins: `malformed` when the text stops being JSON there, `mismatch` when it is JSON of
the wrong shape. What is passed over (`skip`) need only be JSON. -/

namespace Backlog.Json

/-- Why a document does not give a value. -/
inductive Fault where
  /-- The text is not JSON at this place. -/
  | malformed
  /-- The value at this place has the wrong shape. -/
  | mismatch
  deriving Repr, DecidableEq, Inhabited

/-- What is wrong with a document. -/
def Fault.message : Fault → String
  | malformed => "malformed document"
  | mismatch => "unexpected value"

/-- A way to read a value. -/
abbrev Read (α : Type) := Json → Except Fault α

mutual

/-- Whether the text broke off somewhere in a document. -/
def isBroken : Json → Bool
  | .malformed => true
  | .array vs => anyBroken vs
  | .object ms => anyMemberBroken ms
  | _ => false

/-- Whether the text broke off in one of the items. -/
def anyBroken : List Json → Bool
  | [] => false
  | v :: vs => isBroken v || anyBroken vs

/-- Whether the text broke off in one of the members. -/
def anyMemberBroken : List (String × Json) → Bool
  | [] => false
  | (_, v) :: ms => isBroken v || anyMemberBroken ms

end

/-- Passes over a value. -/
def skip (v : Json) : Except Fault Unit := if v.isBroken then .error .malformed else .ok ()

/-- The fault of a value of an unexpected kind: brackets are refused at once, literals once read. -/
def wrongKind : Json → Fault
  | .malformed | .unpaired => .malformed
  | .number n => if n.inRange then .mismatch else .malformed
  | _ => .mismatch

mutual

/-- Whether a document is a value of its own: complete, no lone surrogates, numbers in range, and nested
at most `depth` deep. -/
def isPlain : Nat → Json → Bool
  | _, .malformed | _, .unpaired => false
  | _, .null | _, .bool _ | _, .string _ => true
  | _, .number n => n.inRange
  | 0, .array _ | 0, .object _ => false
  | d + 1, .array vs => allPlain d vs
  | d + 1, .object ms => allMembersPlain d ms

/-- Whether all items are values of their own. -/
def allPlain : Nat → List Json → Bool
  | _, [] => true
  | d, v :: vs => isPlain d v && allPlain d vs

/-- Whether all members are values of their own. -/
def allMembersPlain : Nat → List (String × Json) → Bool
  | _, [] => true
  | d, (_, v) :: ms => isPlain d v && allMembersPlain d ms

end

/-- How deep a value may be nested when its shape is not known beforehand. -/
def depthLimit : Nat := 127

/-! ### Leaves -/

/-- A string. -/
def readString : Read String
  | .string s => .ok s
  | v => .error v.wrongKind

/-- A truth value. -/
def readBool : Read Bool
  | .bool b => .ok b
  | v => .error v.wrongKind

/-- A whole number from `low` to `high`. -/
def readInt (low high : Int) : Read Int
  | .number n =>
    match n.whole? with
    | some i => if low ≤ i ∧ i ≤ high then .ok i else .error .mismatch
    | none => .error (wrongKind (.number n))
  | v => .error v.wrongKind

/-- A natural number below `bound`. -/
def readNat (bound : Nat) (v : Json) : Except Fault Nat :=
  (readInt 0 ((bound : Int) - 1) v).map Int.toNat

/-- A double; whole numbers are accepted. -/
def readFloat : Read Float
  | .number n =>
    match n.toFloat? with
    | some x => .ok x
    | none => .error .malformed
  | v => .error v.wrongKind

/-- A value or `null`. -/
def readOption {α : Type} (r : Read α) : Read (Option α)
  | .null => .ok none
  | v => (r v).map some

/-- A list. -/
def readList {α : Type} (r : Read α) : Read (List α)
  | .array vs => vs.mapM r
  | v => .error v.wrongKind

/-- An object as a map from strings; of a repeated name the last member counts. Names ascend. -/
def readMap {α : Type} (r : Read α) : Read (List (String × α))
  | .object ms => do
    let entries ← ms.mapM fun (k, v) => do
      let a ← r v
      pure (k, a)
    let last := entries.foldl (fun (acc : List (String × α)) e => acc.filter (·.1 != e.1) ++ [e]) []
    pure (last.mergeSort fun a b => decide (a.1 ≤ b.1))
  | v => .error v.wrongKind

/-- One of a set of names: the name as a string, or as the one member of an object, with `null`. -/
def readName {α : Type} (ofName? : String → Option α) : Read α
  | .string s => match ofName? s with
    | some a => .ok a
    | none => .error .mismatch
  | .object ((k, v) :: rest) =>
    match v, ofName? k, rest with
    | .malformed, none, _ => if k.isEmpty then .error .malformed else .error .mismatch
    | _, none, _ => .error .mismatch
    | .null, some a, [] => .ok a
    | .null, some _, _ => .error .malformed
    | w, some _, _ => .error w.wrongKind
  | _ => .error .malformed

/-- One of a set of names in a value that was read whole before its shape was known: the name as a string, or as
the one member of an object, with `null` or with an empty object. -/
def readBufferedName {α : Type} (ofName? : String → Option α) : Read α
  | .string s | .object [(s, .null)] | .object [(s, .object [])] =>
    match ofName? s with
    | some a => .ok a
    | none => .error .mismatch
  | _ => .error .mismatch

/-- A value read from a whole text: nothing but blanks may follow it. -/
def ofText {α : Type} (r : Read α) (s : String) : Except Fault α := do
  let reading := Json.read s
  let a ← r reading.document
  if reading.surplus then .error .malformed else .ok a

mutual

/-- A value without repeated names (the last member counts) and with its numbers brought to one of two
forms: an integer, or the shortest decimal of a double. -/
def normal : Json → Json
  | .number n => match n.whole? with
    | some i => .ofInt i
    | none => match n.toFloat? with
      | some x => .ofFloat x
      | none => .malformed
  | .array vs => .array (normalItems vs)
  | .object ms => .object (normalMembers ms)
  | v => v

/-- The items of an array, each in normal form. -/
def normalItems : List Json → List Json
  | [] => []
  | v :: vs => normal v :: normalItems vs

/-- The members of an object, each in normal form, less those whose name occurs again later. -/
def normalMembers : List (String × Json) → List (String × Json)
  | [] => []
  | (k, v) :: ms =>
    if ms.any (·.1 == k) then normalMembers ms else (k, normal v) :: normalMembers ms

end

/-- Any value, in normal form. -/
def readAny (v : Json) : Except Fault Json :=
  if v.isPlain depthLimit then .ok v.normal else .error .malformed

end Backlog.Json
