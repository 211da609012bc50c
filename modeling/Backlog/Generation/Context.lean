import Backlog.Feature.Grouping
import Backlog.Graph.Rules

/-! # Contexts

What a generation run knew about the project, kept beside its tickets: at most one context of each of
four kinds. The file structure counts every file of the manifest once by its top-level directory (`.`
for files at the top) and once by its extension (the empty text for files without one). -/

namespace Backlog

open Json (RecordField Read readString readBool readNat readFloat readOption readList readMap)
open Backlog.Text

/-- A feature in short. -/
structure FeatureBrief where
  id : String
  name : String
  complexity : Nat
  userFacing : Bool
  fileCount : Nat
  hours : Float
  deriving Repr, Inhabited

/-- The short form of a feature. -/
def FeatureBrief.ofFeature (f : Feature) : FeatureBrief :=
  ⟨f.id, f.name, f.complexity, f.userFacing, f.files.length, f.hours⟩

/-- How often each key occurs; keys ascend. -/
abbrev Tally := List (String × Nat)

inductive Context where
  | techStack (technologies : List String) (complexity : Option Nat)
  | features (briefs : List FeatureBrief)
  | fileStructure (total : Nat) (directories extensions : Tally)
  | dependencies (tickets edges : Nat) (criticalPath : List String)
  deriving Repr, Inhabited

namespace Context

/-- The name of a context's kind. -/
def kind : Context → String
  | techStack .. => "tech_stack"
  | features .. => "features"
  | fileStructure .. => "file_structure"
  | dependencies .. => "dependency_analysis"

/-! ### Counting files -/

/-- The distinct keys of a list with their numbers of occurrences, ascending. -/
def tally (keys : List String) : Tally :=
  (keys.eraseDups.mergeSort atMost).map fun k => (k, keys.count k)

/-- The top-level directory of a file. -/
def directoryOf (path : String) : String :=
  match cutFirst '/' (Path.dropHere path.toList) with
  | some (top, _) => String.ofList top
  | none => "."

/-- The extension of a file; a name that only starts with a dot has none. -/
def extensionOf (path : String) : String :=
  match Path.stemAndExtension? (Path.fileName (Path.dropHere path.toList)) with
  | some ([], _) | none => ""
  | some (_, ext) => String.ofList (lowerChars ext)

/-- The file structure of a manifest. -/
def ofFiles (files : List String) : Context :=
  fileStructure files.length (tally (files.map directoryOf)) (tally (files.map extensionOf))

/-- The contexts of a run; `found` is absent when no features were extracted. -/
def stage (files : List String) (found : Option Findings) (a : Analysis) : List Context :=
  let technologies := match found with
    | some f => if f.techStack.isEmpty then TechStack.detect files else f.techStack
    | none => TechStack.detect files
  [techStack technologies (found.bind (·.complexity))] ++
    (match found with
      | some f => [features (f.features.map FeatureBrief.ofFeature)]
      | none => []) ++
    [ofFiles files, dependencies a.graph.nodes.length a.graph.edgeCount a.criticalPath]

end Context

/-! ### As JSON -/

/-- The fields of a feature in short. -/
def FeatureBrief.fields : List (RecordField FeatureBrief) := [
  .string "id" (·.id) fun x v => { x with id := v },
  .string "name" (·.name) fun x v => { x with name := v },
  .of "complexity" .required (readNat 256) Json.ofNat (·.complexity)
    fun x v => { x with complexity := v },
  .of "is_user_facing" .required readBool .bool (·.userFacing) fun x v => { x with userFacing := v },
  .of "file_count" .required (readNat word64) Json.ofNat (·.fileCount)
    fun x v => { x with fileCount := v },
  .of "estimated_hours" .required readFloat Json.ofFloat (·.hours) fun x v => { x with hours := v }]

/-- Reads a feature in short. -/
def FeatureBrief.read : Read FeatureBrief := Json.readRecord fields ⟨"", "", 0, false, 0, 0⟩

/-- Writes a feature in short. -/
def FeatureBrief.write : FeatureBrief → Json := Json.ofRecord fields

namespace Context

/-- Writes counts as an object. -/
def writeTally (c : Tally) : Json := .object (c.map fun (k, n) => (k, Json.ofNat n))

/-- The fields of a `techStack`. -/
def techStackFields : List (RecordField (List String × Option Nat)) := [
  .of "technologies" .required (readList readString) (Json.ofList .string) (·.1)
    fun x v => (v, x.2),
  .of "overall_complexity" .nullable (readOption (readNat 256)) (Json.ofOption Json.ofNat) (·.2)
    fun x v => (x.1, v)]

/-- The fields of a `features`. -/
def featuresFields : List (RecordField (List FeatureBrief)) := [
  .of "features" .required (readList FeatureBrief.read) (Json.ofList FeatureBrief.write) id
    fun _ v => v]

/-- The fields of a `fileStructure`. -/
def fileStructureFields : List (RecordField (Nat × Tally × Tally)) := [
  .of "total_files" .required (readNat word64) Json.ofNat (·.1) fun x v => (v, x.2),
  .of "directories" .required (readMap (readNat word64)) writeTally (·.2.1)
    fun x v => (x.1, v, x.2.2),
  .of "extensions" .required (readMap (readNat word64)) writeTally (·.2.2)
    fun x v => (x.1, x.2.1, v)]

/-- The fields of a `dependencies`. -/
def dependenciesFields : List (RecordField (Nat × Nat × List String)) := [
  .of "ticket_count" .required (readNat word64) Json.ofNat (·.1) fun x v => (v, x.2),
  .of "edge_count" .required (readNat word64) Json.ofNat (·.2.1) fun x v => (x.1, v, x.2.2),
  .of "critical_path" .required (readList readString) (Json.ofList .string) (·.2.2)
    fun x v => (x.1, x.2.1, v)]

/-- Writes a context, its kind first. -/
def write (c : Context) : Json :=
  .object (("context_type", .string c.kind) :: match c with
    | techStack ts o => Json.recordMembers techStackFields (ts, o)
    | features bs => Json.recordMembers featuresFields bs
    | fileStructure n ds es => Json.recordMembers fileStructureFields (n, ds, es)
    | dependencies n m p => Json.recordMembers dependenciesFields (n, m, p))

/-- How the context of a kind is read. -/
def reader? : String → Option (Read Context)
  | "tech_stack" => some fun v =>
    (Json.readRecord techStackFields ([], none) v).map fun (ts, o) => techStack ts o
  | "features" => some fun v => (Json.readRecord featuresFields [] v).map features
  | "file_structure" => some fun v =>
    (Json.readRecord fileStructureFields (0, [], []) v).map fun (n, ds, es) => fileStructure n ds es
  | "dependency_analysis" => some fun v =>
    (Json.readRecord dependenciesFields (0, 0, []) v).map fun (n, m, p) => dependencies n m p
  | _ => none

/-- Reads a context. -/
def read : Read Context := Json.readTagged "context_type" reader?

end Context

end Backlog
