import Backlog.Graph.Search
import Backlog.Text.Keywords

/-! # The graph of a set of tickets

Three rules join tickets, in this order; a pair that an earlier rule joined keeps its kind.

* Everything waits for the setup ticket.
* Of two tickets that share a file, any waits for the setup ticket, and an enhancement or refactoring
  waits for a feature.
* Tests, documentation and refactorings wait for the features they are related to: those that share a
  file with them or at least two keywords of title and description. -/

namespace Backlog

/-- What the rules compare of a ticket. -/
structure Facts where
  id : String
  type : TicketType
  files : List String
  keywords : List String
  deriving Repr

namespace Facts

/-- The facts of a ticket. -/
def ofTicket (t : Ticket) : Facts :=
  ⟨t.id, t.type, t.paths, Text.keywords (t.title ++ " " ++ t.description)⟩

/-- Whether two tickets touch a common file. -/
def sharesFile (a b : Facts) : Bool := a.files.any b.files.contains

/-- Whether two tickets are about the same thing. -/
def isRelated (a b : Facts) : Bool :=
  a.sharesFile b || decide (2 ≤ Text.sharedKeywords a.keywords b.keywords)

/-- Whether `a` changes what the feature `b` makes. -/
def amends (a b : Facts) : Bool :=
  b.type == .feature && (a.type == .enhancement || a.type == .refactor)

/-- Whether `a` accompanies the feature `b`. -/
def accompanies (a b : Facts) : Bool :=
  b.type == .feature && (a.type == .test || a.type == .documentation || a.type == .refactor)

end Facts

namespace Graph

/-- All pairs of facts, in the order of the first and then of the second. -/
def pairs (facts : List Facts) : List (Facts × Facts) :=
  facts.flatMap fun a => facts.map fun b => (a, b)

/-- The pairs that a rule joins, as edges of one kind. -/
def ruleEdges (facts : List Facts) (kind : DependencyKind) (joins : Facts → Facts → Bool) :
    List Dependency :=
  ((pairs facts).filter fun (a, b) => a.id != b.id && joins a b).map fun (a, b) =>
    ⟨a.id, b.id, kind⟩

/-- The edges of all rules in turn. -/
def proposed (facts : List Facts) : List Dependency :=
  let isSetup (b : Facts) := b.type == .setup
  ruleEdges facts .blocks (fun _ b => isSetup b) ++
  ruleEdges facts .fileConflict (fun a b => a.sharesFile b && (isSetup b || a.amends b)) ++
  ruleEdges facts .related (fun a b => a.accompanies b && a.isRelated b)

/-- The graph of a set of tickets. -/
def ofTickets (tickets : List Ticket) : Except GraphError Graph := do
  let g ← ofNodes (tickets.map (·.id))
  let setups := (tickets.filter (·.isSetup)).length
  if 1 < setups then .error (.severalSetups setups)
  else pure ((proposed (tickets.map Facts.ofTicket)).foldl (fun g e => (g.insert e).1) g)

end Graph

/-- A graph with its execution order and critical path; both are empty when there are cycles. -/
structure Analysis where
  graph : Graph
  sorted : List String
  criticalPath : List String
  cyclic : Bool
  cycles : List (List String)
  deriving Repr, Inhabited

/-- A way to analyze the dependencies of tickets. -/
abbrev Analyzer := List Ticket → Except GraphError Analysis

/-- Builds the graph of some tickets and orders it. -/
def analyze : Analyzer := fun tickets => do
  let g ← Graph.ofTickets tickets
  if g.cycles.isEmpty then pure ⟨g, g.postOrder, g.longestChain g.postOrder, false, []⟩
  else pure ⟨g, [], [], true, g.cycles⟩

end Backlog
