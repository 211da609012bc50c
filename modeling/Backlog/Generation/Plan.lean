import Backlog.Feature.Grouping
import Backlog.Feature.Inquiry
import Backlog.Generation.Enrichment
import Backlog.Generation.Synthesis
import Backlog.Llm.Service
import Backlog.Store.Commit

/-! # Planning a backlog

A `Planner` turns the manifest of a project into a plan: features are extracted, made into tickets,
joined by dependencies, ranked in execution order and enriched. Nothing is stored meanwhile, and each
step may refuse (`GenerationError`). Where no features are known the plan holds the setup ticket
alone. -/

namespace Backlog

/-- Why a generation run fails. -/
inductive GenerationError where
  | noFiles
  | projectMissing (id : String)
  | features (refusal : Synthesis.Refusal)
  /-- The graph of the tickets cannot be built. -/
  | graph (e : GraphError)
  | cyclic (cycles : List (List String))
  | unranked (ticket : String)
  /-- The store refuses the plan as a wrong input. -/
  | refused (e : StoreError)
  | store (e : StoreError)
  deriving Repr, DecidableEq

namespace GenerationError

/-- The short name of an error's kind. -/
def code : GenerationError → String
  | noFiles => "no_files"
  | projectMissing _ => "project_not_found"
  | features _ | graph _ | unranked _ | refused _ => "validation"
  | cyclic _ => "cyclic_dependency"
  | store _ => "store"

/-- The message of an error. -/
def message : GenerationError → String
  | noFiles => "file manifest is empty"
  | projectMissing id => "project not found: " ++ id
  | features r => "validation error: " ++ r.message
  | graph e => "validation error: " ++ e.detail
  | cyclic cycles => (GraphError.cyclic cycles).detail
  | unranked t => "validation error: ticket " ++ t ++ " missing from sorted order"
  | refused e => "validation error: " ++ e.detail
  | store e => "store error: " ++ e.message

/-- The error of a run whose graph cannot be analyzed. -/
def ofGraph : GraphError → GenerationError
  | .cyclic cycles => cyclic cycles
  | e => graph e

/-- The error of a run whose result cannot be stored. -/
def ofStore : StoreError → GenerationError
  | .projectMissing id => projectMissing id
  | .namelessProject => refused .namelessProject
  | .emptyPatch => refused .emptyPatch
  | .strayTicket t p => refused (.strayTicket t p)
  | e => store e

end GenerationError

/-- The collaborators of a run. Without an extractor no features are known. -/
structure Planner where
  extractor : Option Extractor := none
  enricher : Enricher := Enricher.passthrough
  analyzer : Analyzer := analyze

/-- What a run has made, ready to be stored. -/
structure Plan where
  commit : Commit
  criticalPath : List String
  /-- Whether no features were known. -/
  fallback : Bool
  deriving Repr, Inhabited

namespace Extractor

/-- Finds features by the file tree. -/
def heuristic : Extractor := fun files _ => .pure (.extracted (Grouping.extract files))

/-- Always comes to the same end. -/
def fixed (e : Extraction) : Extractor := fun _ _ => .pure e

end Extractor

namespace Planner

/-! ### Ranking -/

/-- The place of an id in an execution order; of a repeated id the last one counts. -/
def placeOf? (id : String) : List String → Option Nat
  | [] => none
  | x :: xs =>
    match placeOf? id xs with
    | some i => some (i + 1)
    | none => if x == id then some 0 else none

/-- A ticket with its rank in an execution order. Places are not cut to 32 bits here, which makes no difference for
orders of up to `2 ^ 32` tickets. -/
def rankTicket (sorted : List String) (t : Ticket) : Except GenerationError Ticket :=
  match placeOf? t.id sorted with
  | some i => .ok { t with rank := some i }
  | none => .error (.unranked t.id)

/-- Whether a ticket has at most the rank of another. -/
def rankAtMost (a b : Ticket) : Bool := decide (a.rank.getD 0 ≤ b.rank.getD 0)

/-- Tickets in an execution order, each with its rank. -/
def rankAll (sorted : List String) (tickets : List Ticket) : Except GenerationError (List Ticket) := do
  let ranked ← tickets.mapM (rankTicket sorted)
  pure (ranked.mergeSort rankAtMost)

/-! ### The plan -/

/-- The findings of an extraction. -/
def findings? : Extraction → Option Findings
  | .extracted f => some f
  | .unavailable | .failed _ => none

/-- What is known of a prototype's features. -/
def extract (p : Planner) (files : List String) (description : String) :
    Llm.Consultation (Option Findings) :=
  match p.extractor with
  | none => .pure none
  | some e =>
    let c := e files description
    { c with result := findings? c.result }

/-- The technologies that contexts name. -/
def technologies (contexts : List Context) : List String :=
  (contexts.findSome? fun
    | .techStack ts _ => some ts
    | _ => none).getD []

/-- The plan for ranked tickets, with what is known of them. -/
def assemble (project : String) (files : List String) (found : Option Findings) (a : Analysis)
    (ranked : List Ticket) : Plan :=
  let contexts := Context.stage files found a
  { criticalPath := a.criticalPath
    fallback := found.isNone
    commit := {
      project := project
      tickets := ranked
      edges := a.graph.edges
      contexts := contexts
      summary := {
        tickets := ranked.length
        features := ((found.map (·.features)).getD []).length
        criticalPath := a.criticalPath
        techStack := technologies contexts
        complexity := found.bind (·.complexity)
        fallback := found.isNone } } }

/-- A plan before its texts are enriched. -/
def draft (p : Planner) (now : Instant) (mint : Nat → String) (project description : String)
    (files : List String) (found : Option Findings) : Except GenerationError Plan := do
  let features := (found.map (·.features)).getD []
  let tickets ← (Synthesis.synthesize project description now mint features).mapError .features
  let a ← (p.analyzer tickets).mapError .ofGraph
  if a.cyclic then .error (.cyclic a.cycles)
  else
    let ranked ← rankAll a.sorted tickets
    pure (assemble project files found a ranked)

/-- Tickets after enrichment: the enriched ones if their structure is kept, else as they were. -/
def enriched (tickets : List Ticket) (r : Except EnrichmentFailure (List Ticket)) : List Ticket :=
  match r with
  | .ok ts => if preservesStructure tickets ts then ts else tickets
  | .error _ => tickets

/-- A plan with its texts enriched. -/
def enrich (p : Planner) (description : String) (plan : Plan) : Llm.Consultation Plan :=
  let tickets := plan.commit.tickets
  let c := p.enricher tickets description
  { c with result := { plan with commit := { plan.commit with tickets := enriched tickets c.result } } }

/-- The plan for a manifest. -/
def plan (p : Planner) (now : Instant) (mint : Nat → String) (project description : String)
    (files : List String) : Llm.Consultation (Except GenerationError Plan) :=
  if files.isEmpty then .pure (.error .noFiles)
  else
    let found := p.extract files description
    match p.draft now mint project description files found.result with
    | .error e => { found with result := .error e }
    | .ok draft =>
      let done := p.enrich description draft
      { result := .ok done.result
        requests := found.requests ++ done.requests
        counts := found.counts ++ done.counts }

/-! ### From a configuration -/

/-- The client that a configuration needs, if any. -/
def client? (send : Llm.Transport) (c : GenerationConfig) : Except Llm.Failure (Option Llm.Client) :=
  if c.needsLlm then
    match c.llm with
    | none => .error (.notConfigured "[generation.llm] section is required")
    | some llm => (Llm.Service.ofConfig llm).map fun s => some (s.client send)
  else .ok none

/-- The planner that a configuration asks for. -/
def ofConfig (send : Llm.Transport) (c : GenerationConfig) : Except Llm.Failure Planner := do
  let client ← client? send c
  pure {
    extractor := match c.extractor with
      | .none => none
      | .heuristic => some .heuristic
      | .llm => client.map fun m => Inquiry.extractor m Inquiry.defaultLimit Inquiry.defaultMaxTokens
    enricher := match c.enrich, client, c.llm with
      | true, some m, some llm => Enrichment.enricher m llm.maxTokens
      | _, _, _ => .passthrough }

end Planner

end Backlog
