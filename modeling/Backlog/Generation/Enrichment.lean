import Backlog.Llm.Basic
import Backlog.Ticket.Wire

/-! # Enriching the texts of tickets

An enricher may reword the texts of a list of tickets. Its result is used only if it keeps the tickets,
their order, types, ranks and files (`preservesStructure`). The enricher that asks a language model
takes from the reply, for each ticket, a description that is not blank and the criteria that the ticket
does not have yet. -/

namespace Backlog

open Json (RecordField Read readString readOption readList)
open Backlog.Text

/-- Why tickets were not enriched. -/
inductive EnrichmentFailure where
  | model (failure : Llm.Failure)
  | invalid (detail : String)
  deriving Repr, DecidableEq

/-- The message of a failure. -/
def EnrichmentFailure.message : EnrichmentFailure → String
  | model f => "LLM request failed: " ++ f.message
  | invalid d => "invalid enrichment response: " ++ d

/-- A way to reword the texts of tickets, given the description of their project. -/
abbrev Enricher :=
  List Ticket → String → Llm.Consultation (Except EnrichmentFailure (List Ticket))

namespace Enricher

/-- Leaves tickets as they are. -/
def passthrough : Enricher := fun tickets _ => .pure (.ok tickets)

/-- Fails whatever it is given. -/
def failing : Enricher := fun _ _ => .pure (.error (.invalid "enrichment unavailable"))

/-- Loses the last ticket and rewords the others. -/
def dropping : Enricher := fun tickets _ =>
  .pure (.ok (tickets.dropLast.map fun t => { t with description := t.description ++ " (rewritten)" }))

end Enricher

/-- Whether two tickets may differ in their texts only. -/
def Ticket.sameStructure (a b : Ticket) : Bool :=
  a.id == b.id && a.type == b.type && a.rank == b.rank && a.files == b.files

/-- Whether a list of tickets differs from another in its texts only. -/
def preservesStructure : List Ticket → List Ticket → Bool
  | [], [] => true
  | a :: as, b :: bs => a.sameStructure b && preservesStructure as bs
  | _, _ => false

namespace Enrichment

/-- New texts for one ticket. -/
structure Rewording where
  id : String
  description : Option String
  criteria : List String
  deriving Repr, DecidableEq, Inhabited

/-- The fields of new texts. -/
def Rewording.fields : List (RecordField Rewording) := [
  .string "id" (·.id) fun x v => { x with id := v },
  .of "description" .defaulted (readOption readString) (Json.ofOption .string) (·.description)
    fun x v => { x with description := v },
  .of "acceptanceCriteria" .defaulted (readList readString) (Json.ofList .string) (·.criteria)
    fun x v => { x with criteria := v }]

/-- Reads the new texts of a reply. -/
def readReply : Read (List Rewording) :=
  Json.readRecord [.of "tickets" .required (readList (Json.readRecord Rewording.fields default))
    (Json.ofList (Json.ofRecord Rewording.fields)) id fun _ v => v] []

/-- Adds a criterion unless it is blank or there already. -/
def addCriterion (cs : List Criterion) (text : String) : List Criterion :=
  if isBlankText text || cs.any (·.text == text) then cs else cs ++ [⟨text, false⟩]

/-- A ticket with new texts. -/
def Rewording.apply (r : Rewording) (t : Ticket) : Ticket :=
  { t with
    description := (r.description.filter fun d => !isBlankText d).getD t.description
    criteria := r.criteria.foldl addCriterion t.criteria }

/-- Tickets with new texts: of several for one id the last counts, and it serves one ticket. -/
def merge (rs : List Rewording) : List Ticket → List Ticket
  | [] => []
  | t :: ts =>
    match (rs.filter (·.id == t.id)).getLast? with
    | none => t :: merge rs ts
    | some r => r.apply t :: merge (rs.filter (·.id != t.id)) ts

/-- What the model is told to do. -/
def instructions : String := "\n".intercalate [
  "You refine development tickets. For each ticket, write a clearer description and up to three " ++
    "concrete, testable acceptance criteria.",
  "Respond with JSON only: \x7b\"tickets\": [\x7b\"id\": \"...\", \"description\": \"...\", " ++
    "\"acceptanceCriteria\": [\"...\"]\x7d]\x7d",
  "Use the ids exactly as given."]

/-- A ticket as the model sees it. -/
def ticketText (t : Ticket) : String :=
  "- id: " ++ t.id ++ "\n  type: " ++ Named.name t.type ++ "\n  title: " ++ t.title ++
    "\n  description: " ++ t.description ++ "\n"

/-- The request about some tickets. -/
def request (maxTokens : Nat) (tickets : List Ticket) (description : String) : Llm.Request where
  system := some instructions
  prompt := "PROJECT: " ++ trim description ++ "\n\nTICKETS:\n" ++
    String.join (tickets.map ticketText)
  maxTokens := maxTokens

/-- The tickets after a reply. -/
def conclude (tickets : List Ticket) :
    Except Llm.Failure (List Rewording) → Except EnrichmentFailure (List Ticket)
  | .error e => .error (.model e)
  | .ok [] => .error (.invalid "no tickets in response")
  | .ok rs => .ok (merge rs tickets)

/-- Asks a model for better texts. -/
def enricher (c : Llm.Client) (maxTokens : Nat) : Enricher := fun tickets description =>
  let reply := c.ask readReply (request maxTokens tickets description)
  { reply with result := conclude tickets reply.result }

end Enrichment

end Backlog
