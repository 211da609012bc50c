import Backlog.Json.Reader

/-! # Records and tagged messages

A record type is described once, by the list of its fields in order; the list serves both directions.
An object gives a record by its member names, whatever their order: unknown names are passed over, a
name given twice is a mismatch. An array gives it by position. What the absence of a field means is its
`Presence`. A tagged message is a record whose first field names the kind of message. -/

namespace Backlog.Json

/-- What it means that a field is absent. -/
inductive Presence where
  /-- The record is refused. -/
  | required
  /-- An object may leave the field out; an array may not. -/
  | nullable
  /-- The field keeps its initial value. -/
  | defaulted
  deriving Repr, DecidableEq

/-- A field of a record type `σ`: how a value is put into a record, and the value that is written for it,
if any. -/
structure RecordField (σ : Type) where
  name : String
  presence : Presence
  put : σ → Json → Except Fault σ
  take : σ → Option Json := fun _ => none

namespace RecordField

variable {σ α : Type}

/-- A field from a reader, a writer and the access to a component. -/
def of (name : String) (presence : Presence) (r : Read α) (w : α → Json) (get : σ → α)
    (set : σ → α → σ) : RecordField σ where
  name := name
  presence := presence
  put x v := (r v).map (set x)
  take x := some (w (get x))

/-- An optional field that is left out of the written record when it has no value. -/
def sparse (name : String) (r : Read α) (w : α → Json) (get : σ → Option α)
    (set : σ → Option α → σ) : RecordField σ where
  name := name
  presence := .defaulted
  put x v := (readOption r v).map (set x)
  take x := (get x).map w

/-- A string field that must be given. -/
def string (name : String) (get : σ → String) (set : σ → String → σ) : RecordField σ :=
  of name .required readString .string get set

end RecordField

/-- The record under construction after the members `ms`; `seen` names the fields already given. -/
def putMembers {σ : Type} (fields : List (RecordField σ)) :
    List (String × Json) → List String → σ → Except Fault (σ × List String)
  | [], seen, x => .ok (x, seen)
  | (k, v) :: ms, seen, x =>
    match fields.find? (·.name == k) with
    | none => do
      skip v
      putMembers fields ms seen x
    | some f =>
      if seen.contains k then .error .mismatch
      else do
        let x' ← f.put x v
        putMembers fields ms (k :: seen) x'

/-- The record under construction after the items of an array. -/
def putItems {σ : Type} : List (RecordField σ) → List Json → σ → Except Fault σ
  | [], [], x => .ok x
  | [], _ :: _, _ => .error .malformed
  | f :: fs, v :: vs, x => do
    let x' ← f.put x v
    putItems fs vs x'
  | f :: fs, [], x => if f.presence = .defaulted then putItems fs [] x else .error .mismatch

/-- A record whose absent fields are those of `initial`. -/
def readRecord {σ : Type} (fields : List (RecordField σ)) (initial : σ) : Read σ
  | .object ms => do
    let (x, seen) ← putMembers fields ms [] initial
    if fields.all fun f => f.presence != .required || seen.contains f.name then .ok x
    else .error .mismatch
  | .array vs => putItems fields vs initial
  | v => .error v.wrongKind

/-- The members that are written for a record. -/
def recordMembers {σ : Type} (fields : List (RecordField σ)) (x : σ) : List (String × Json) :=
  fields.filterMap fun f => (f.take x).map (f.name, ·)

/-- A record as an object. -/
def ofRecord {σ : Type} (fields : List (RecordField σ)) (x : σ) : Json :=
  .object (recordMembers fields x)

/-- A message whose `tag` field says how the rest is read. -/
def readTagged {α : Type} (tag : String) (kind? : String → Option (Read α)) (v : Json) :
    Except Fault α :=
  if !v.isPlain depthLimit then .error .malformed
  else match v with
    | .object ms =>
      match ms.filter (·.1 == tag) with
      | [(_, .string t)] => match kind? t with
        | some r => r (.object (ms.filter (·.1 != tag)))
        | none => .error .mismatch
      | _ => .error .mismatch
    | .array (.string t :: vs) => match kind? t with
      | some r => r (.array vs)
      | none => .error .mismatch
    | _ => .error .mismatch

end Backlog.Json
