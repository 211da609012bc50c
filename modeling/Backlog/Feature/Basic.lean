import Backlog.Ticket.Wire
import Backlog.Text.Blank

/-! # Features of a prototype

An extraction reads a manifest, the list of a prototype's file paths, and finds features. `normalize`
brings findings that come from outside into shape: features without a name are dropped, missing ids are
numbered, complexities are moved into 1 to 10 and hours that are no amount become zero. It changes
nothing the second time. -/

namespace Backlog

open Json (RecordField Read readString readBool readNat readFloat readOption readList)

/-- A feature of a prototype. -/
structure Feature where
  id : String
  name : String
  description : String
  complexity : Nat
  files : List String
  userFacing : Bool
  hours : Float
  deriving Repr, Inhabited

/-- What an extraction finds. -/
structure Findings where
  features : List Feature
  techStack : List String
  complexity : Option Nat
  deriving Repr, Inhabited

/-- How an extraction ends. -/
inductive Extraction where
  | extracted (found : Findings)
  | unavailable
  | failed (reason : String)
  deriving Repr, Inhabited

/-- The paths of a prototype's files. -/
structure Manifest where
  files : List String
  deriving Repr, DecidableEq, Inhabited

/-! ### As JSON -/

/-- The fields of a feature. -/
def Feature.fields : List (RecordField Feature) := [
  .of "id" .defaulted readString .string (·.id) fun x v => { x with id := v },
  .string "name" (·.name) fun x v => { x with name := v },
  .of "description" .defaulted readString .string (·.description)
    fun x v => { x with description := v },
  .of "complexity" .required (readNat 256) Json.ofNat (·.complexity)
    fun x v => { x with complexity := v },
  .of "files" .defaulted (readList readString) (Json.ofList .string) (·.files)
    fun x v => { x with files := v },
  .of "isUserFacing" .defaulted readBool .bool (·.userFacing) fun x v => { x with userFacing := v },
  .of "estimatedHours" .defaulted readFloat Json.ofFloat (·.hours) fun x v => { x with hours := v }]

/-- Reads a feature. -/
def Feature.read : Read Feature := Json.readRecord fields ⟨"", "", "", 0, [], false, 0⟩

/-- Writes a feature. -/
def Feature.write : Feature → Json := Json.ofRecord fields

/-- The fields of findings. -/
def Findings.fields : List (RecordField Findings) := [
  .of "features" .defaulted (readList Feature.read) (Json.ofList Feature.write) (·.features)
    fun x v => { x with features := v },
  .of "techStack" .defaulted (readList readString) (Json.ofList .string) (·.techStack)
    fun x v => { x with techStack := v },
  .of "overallComplexity" .defaulted (readOption (readNat 256)) (Json.ofOption Json.ofNat)
    (·.complexity) fun x v => { x with complexity := v }]

/-- Reads findings. -/
def Findings.read : Read Findings := Json.readRecord fields ⟨[], [], none⟩

/-- Writes findings. -/
def Findings.write : Findings → Json := Json.ofRecord fields

/-- The fields of a manifest. -/
def Manifest.fields : List (RecordField Manifest) := [
  .of "files" .required (readList readString) (Json.ofList .string) (·.files)
    fun x v => { x with files := v }]

/-- Reads a manifest. -/
def Manifest.read : Read Manifest := Json.readRecord fields ⟨[]⟩

/-- Writes a manifest. -/
def Manifest.write : Manifest → Json := Json.ofRecord fields

/-! ### Normal form -/

/-- A complexity moved into 1 to 10. -/
def clampComplexity (c : Nat) : Nat := min (max c 1) 10

/-- Hours, or zero if they are no amount of time. -/
def cleanHours (h : Float) : Float := if !h.isFinite || h < 0 then 0 else h

/-- The id that the feature at a position gets when it has none. -/
def Feature.numberedId (i : Nat) : String := "feature-" ++ toString (i + 1)

/-- The feature at a position, in normal form. -/
def Feature.normalize (i : Nat) (f : Feature) : Feature :=
  { f with
    id := if Text.isBlankText f.id then numberedId i else f.id
    complexity := clampComplexity f.complexity
    hours := cleanHours f.hours }

/-- Findings in normal form. -/
def Findings.normalize (a : Findings) : Findings :=
  { a with
    features := (a.features.filter fun f => !Text.isBlankText f.name).mapIdx Feature.normalize
    complexity := a.complexity.map clampComplexity }

end Backlog
