import Backlog.Graph.Basic

/-! # Graphs by position

A dependency graph as it is held: the nodes in the order they were given, a table with the position of each
id, and for each node a row of the positions it depends on, in the order they were added. A call that adds
an edge answers whether the edge is new and leaves a graph behind in any case, also if it fails. -/

namespace Backlog

/-- A graph whose edges lead from position to position. -/
structure IndexedGraph where
  nodes : List String := []
  /-- The position of each id. -/
  index : List (String × Nat) := []
  /-- For each node, what it depends on and how. -/
  rows : List (List (Nat × DependencyKind)) := []
  deriving Repr, DecidableEq, Inhabited

namespace IndexedGraph

/-- The position of a node. -/
def indexOf? (g : IndexedGraph) (id : String) : Option Nat := g.index.lookup id

/-- The graph with one more node at the end. -/
def addNode (g : IndexedGraph) (id : String) : Except GraphError IndexedGraph :=
  match g.indexOf? id with
  | some _ => .error (.duplicateNode id)
  | none => .ok ⟨g.nodes ++ [id], g.index ++ [(id, g.nodes.length)], g.rows ++ [[]]⟩

/-- The graph of some nodes, without edges. -/
def ofNodes (ids : List String) : Except GraphError IndexedGraph := ids.foldlM addNode {}

/-- The position of a node that has to be there. -/
def require (g : IndexedGraph) (id : String) : Except GraphError Nat :=
  match g.indexOf? id with
  | some i => .ok i
  | none => .error (.unknownNode id)

/-- Joins two positions unless they are one or joined already; tells whether it did. -/
def join (g : IndexedGraph) (i j : Nat) (kind : DependencyKind) : Bool × IndexedGraph :=
  if i == j || (g.rows.getD i []).any (·.1 == j) then (false, g)
  else (true, { g with rows := g.rows.modify i (· ++ [(j, kind)]) })

/-- Adds an edge between nodes: the answer, and the graph that is left. -/
def addEdge (g : IndexedGraph) (e : Dependency) : Except GraphError Bool × IndexedGraph :=
  match g.require e.ticket with
  | .error fault => (.error fault, g)
  | .ok i =>
    match g.require e.dependsOn with
    | .error fault => (.error fault, g)
    | .ok j => ((.ok (g.join i j e.kind).1), (g.join i j e.kind).2)

/-- The graph of some nodes and edges. -/
def ofEdges (ids : List String) (edges : List Dependency) : Except GraphError IndexedGraph := do
  let g ← ofNodes ids
  edges.foldlM (fun g e => (g.addEdge e).1.map fun _ => (g.addEdge e).2) g

/-- All edges, grouped by the node they start at. -/
def edges (g : IndexedGraph) : List Dependency :=
  g.rows.zipIdx.flatMap fun (row, i) =>
    row.map fun (j, kind) => ⟨g.nodes.getD i "", g.nodes.getD j "", kind⟩

/-- How many edges there are. -/
def edgeCount (g : IndexedGraph) : Nat := g.rows.foldl (fun n row => n + row.length) 0

end IndexedGraph

end Backlog
