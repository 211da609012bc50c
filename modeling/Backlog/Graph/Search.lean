import Backlog.Graph.Basic

/-! # Cycles, execution order and the critical path

Two depth-first searches visit the nodes in their order and follow edges in the order they were accepted.

* The first (`visit`) looks for cycles: an edge back to a node on the current path closes a cycle, which
  is reported from that node's first occurrence to its second.
* The second (`walk`) lists each node once everything it depends on has been walked to. If no cycle is
  found its order is an execution order (`order`), and along it the longest chain that starts at each
  node is known from those of the nodes it depends on (`criticalPath`). -/

namespace Backlog.Graph

/-! ### The search for cycles -/

/-- What a search has found: finished nodes in order of finishing, and cycles. -/
structure Search where
  finished : List String
  cycles : List (List String)
  deriving Repr, DecidableEq, Inhabited

/-- The cycle that an edge back to `w` closes; `path` lists the current path from its end. -/
def closeCycle (path : List String) (w : String) : List String :=
  path.reverse.dropWhile (· != w) ++ [w]

/-- Follows an edge to `w` from the end of `path`: a finished node is passed over, one on the path closes
a cycle, any other is visited. -/
def follow (visit : Search → String → Search) (path : List String) (s : Search) (w : String) :
    Search :=
  if s.finished.contains w then s
  else if path.contains w then { s with cycles := s.cycles ++ [closeCycle path w] }
  else visit s w

/-- Visits `v`, to which `path` leads (nearest node first). Paths have no repetition, so a path of as
many nodes as the graph has cannot be continued and `fuel` never runs out. -/
def visit (g : Graph) : Nat → List String → Search → String → Search
  | 0, _, s, _ => s
  | fuel + 1, path, s, v =>
    let s' := (g.dependencies v).foldl (follow (visit g fuel (v :: path)) (v :: path)) s
    { s' with finished := s'.finished ++ [v] }

/-- The search from every node that is not finished yet. -/
def search (g : Graph) : Search :=
  g.nodes.foldl (follow (visit g g.nodes.length []) []) ⟨[], []⟩

/-- The cycles of a graph. -/
def cycles (g : Graph) : List (List String) := g.search.cycles

/-! ### The execution order -/

/-- Where a walk has been: the nodes it has come to, and those it has listed. -/
structure Walk where
  visited : List String
  listed : List String
  deriving Repr, DecidableEq, Inhabited

/-- Goes on to `w` unless the walk has been there. -/
def goOn (walk : Walk → String → Walk) (s : Walk) (w : String) : Walk :=
  if s.visited.contains w then s else walk s w

/-- Walks to `v` and on to everything it depends on, then lists it. -/
def walk (g : Graph) : Nat → Walk → String → Walk
  | 0, s, _ => s
  | fuel + 1, s, v =>
    let s' := (g.dependencies v).foldl (goOn (walk g fuel)) { s with visited := v :: s.visited }
    { s' with listed := s'.listed ++ [v] }

/-- The nodes in the order of a walk from each of them. -/
def postOrder (g : Graph) : List String :=
  (g.nodes.foldl (goOn (walk g g.nodes.length)) ⟨[], []⟩).listed

/-- Every node after all that it depends on. -/
def order (g : Graph) : Except GraphError (List String) :=
  if g.cycles.isEmpty then .ok g.postOrder else .error (.cyclic g.cycles)

/-! ### The critical path -/

/-- The longer of two chains; of two equally long ones the first. -/
def longer (a b : List String) : List String := if a.length < b.length then b else a

/-- The longest of some chains, the first of several. -/
def longest (chains : List (List String)) : List String := chains.foldl longer []

/-- Adds the longest chain from a node, given those from what it depends on. -/
def addChain (g : Graph) (chains : List (String × List String)) (v : String) :
    List (String × List String) :=
  chains ++ [(v, v :: longest ((g.dependencies v).map fun w => (chains.lookup w).getD []))]

/-- For each node the longest chain that starts there, along an execution order. -/
def chains (g : Graph) (order : List String) : List (String × List String) :=
  order.foldl g.addChain []

/-- The longest chain along an execution order, from its end to its start. -/
def longestChain (g : Graph) (order : List String) : List String :=
  let cs := g.chains order
  (longest (g.nodes.map fun v => (cs.lookup v).getD [])).reverse

/-- The longest chain of dependencies, in execution order. -/
def criticalPath (g : Graph) : Except GraphError (List String) := g.order.map g.longestChain

end Backlog.Graph
