import Backlog.Ticket.Basic

/-! # Dependency graphs

A graph has distinct nodes, in the order they were given, and dependencies between them, in the order
they were accepted. `addEdge` accepts a dependency between two different nodes that are not yet joined;
an edge that is there already keeps its kind. `closure` collects what can be reached by one or more
edges: it expands each node once, so it ends also on a cycle. -/

namespace Backlog

/-- Why a graph cannot be built or ordered. -/
inductive GraphError where
  | duplicateNode (id : String)
  | unknownNode (id : String)
  | severalSetups (count : Nat)
  | cyclic (cycles : List (List String))
  deriving Repr, DecidableEq

namespace GraphError

/-- Cycles as text: the nodes of each joined by arrows. -/
def cyclesText (cycles : List (List String)) : String :=
  "; ".intercalate (cycles.map (" -> ".intercalate ·))

/-- What is wrong, without saying what it is wrong with. -/
def detail : GraphError → String
  | duplicateNode id => "duplicate ticket id: " ++ id
  | unknownNode id => "unknown ticket id: " ++ id
  | severalSetups n => "expected at most one setup ticket, found " ++ toString n
  | cyclic cycles => "cyclic dependency detected: " ++ cyclesText cycles

/-- The message of an error. -/
def message : GraphError → String
  | cyclic cycles => detail (cyclic cycles)
  | e => "invalid dependency graph: " ++ e.detail

end GraphError

/-- Nodes and the dependencies between them. -/
structure Graph where
  nodes : List String
  accepted : List Dependency
  deriving Repr, DecidableEq, Inhabited

namespace Graph

/-- The graph with the given nodes and one more at the end. -/
def addNode (g : Graph) (id : String) : Except GraphError Graph :=
  if g.nodes.contains id then .error (.duplicateNode id)
  else .ok { g with nodes := g.nodes ++ [id] }

/-- The graph of some nodes, without edges. -/
def ofNodes (ids : List String) : Except GraphError Graph := ids.foldlM addNode ⟨[], []⟩

/-- Whether two nodes are joined. -/
def dependsOn (g : Graph) (id other : String) : Bool :=
  g.accepted.any fun e => e.ticket == id && e.dependsOn == other

/-- Joins two nodes unless they are one or joined already; tells whether it did. -/
def insert (g : Graph) (e : Dependency) : Graph × Bool :=
  if e.ticket == e.dependsOn || g.dependsOn e.ticket e.dependsOn then (g, false)
  else ({ g with accepted := g.accepted ++ [e] }, true)

/-- Adds an edge between nodes of the graph; tells whether it is new. -/
def addEdge (g : Graph) (e : Dependency) : Except GraphError (Graph × Bool) :=
  if !g.nodes.contains e.ticket then .error (.unknownNode e.ticket)
  else if !g.nodes.contains e.dependsOn then .error (.unknownNode e.dependsOn)
  else .ok (g.insert e)

/-- The graph of some nodes and edges. -/
def ofEdges (ids : List String) (edges : List Dependency) : Except GraphError Graph := do
  let g ← ofNodes ids
  edges.foldlM (fun g e => (g.addEdge e).map (·.1)) g

/-- The position of a node. -/
def indexOf? (g : Graph) (id : String) : Option Nat := g.nodes.idxOf? id

/-- The edges that start at a node, in the order they were accepted. -/
def edgesFrom (g : Graph) (id : String) : List Dependency := g.accepted.filter (·.ticket == id)

/-- What a node depends on directly. -/
def dependencies (g : Graph) (id : String) : List String := (g.edgesFrom id).map (·.dependsOn)

/-- All edges, grouped by the node they start at. -/
def edges (g : Graph) : List Dependency := g.nodes.flatMap g.edgesFrom

/-- How many edges there are. -/
def edgeCount (g : Graph) : Nat := g.accepted.length

/-- The nodes that have not been seen. -/
def unseen (g : Graph) (seen : List String) : List String :=
  g.nodes.filter fun n => !seen.contains n

/-- What can be reached from the nodes of `stack`, beside what has been seen. -/
def reach (g : Graph) (stack seen : List String) : List String :=
  match stack with
  | [] => seen
  | v :: rest =>
    if _h : v ∈ g.nodes ∧ v ∉ seen then g.reach (g.dependencies v ++ rest) (seen ++ [v])
    else g.reach rest seen
termination_by ((g.unseen seen).length, stack.length)
decreasing_by
  · apply Prod.Lex.left
    have hv : v ∈ g.unseen seen := by simp [unseen, _h.1, _h.2]
    have hsub : g.unseen (seen ++ [v]) = (g.unseen seen).filter (· != v) := by
      simp only [unseen, List.filter_filter]
      congr 1
      funext n
      by_cases h : n = v <;> simp [h]
    rw [hsub]
    exact List.length_filter_lt_length_iff_exists.2 ⟨v, hv, by simp⟩
  · apply Prod.Lex.right
    simp

/-- Everything that a node depends on, directly or not. -/
def closure (g : Graph) (id : String) : List String := g.reach (g.dependencies id) []

end Graph

end Backlog
