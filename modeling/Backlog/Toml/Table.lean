import Backlog.Json.Basic

/-! # TOML tables

A table is opened by its header, by a dotted key, or merely by being on the way to another one. What may
be added to it later depends on that: a header opens a table once; a dotted key adds only to tables that
dotted keys have made; whatever was given as a value is closed for good. `Table.insert` and its relatives
are `none` exactly when one of these rules is broken. -/

namespace Backlog.Toml

/-- How a table came about. -/
inductive Origin where
  /-- By a header, or as the whole document. -/
  | header
  /-- On the way to a table with a header. -/
  | passed
  /-- By a dotted key. -/
  | dotted
  deriving Repr, DecidableEq, Inhabited

inductive Node where
  | value (v : Json)
  | table (origin : Origin) (entries : List (String × Node))
  /-- The tables of a repeated header, the last one first. -/
  | series (tables : List (List (String × Node)))
  deriving Inhabited

/-- A table: how it came about and what it holds. -/
structure Table where
  origin : Origin
  entries : List (String × Node)
  deriving Inhabited

/-- The document before its first line. -/
def Table.root : Table := ⟨.header, []⟩

/-- The entries with a new value for a key, in its place or at the end. -/
def putEntry (k : String) (n : Node) : List (String × Node) → List (String × Node)
  | [] => [(k, n)]
  | (k', n') :: es => if k' = k then (k, n) :: es else (k', n') :: putEntry k n es

/-- Changes the table that a path leads to, making tables on the way. A dotted key may only pass through
tables that have no header. -/
def Table.change (dotted : Bool) (f : Table → Option Table) : List String → Table → Option Table
  | [], t => f t
  | k :: path, t =>
    match t.entries.lookup k with
    | none => do
      let t' ← Table.change dotted f path ⟨if dotted then .dotted else .passed, []⟩
      some { t with entries := putEntry k (.table t'.origin t'.entries) t.entries }
    | some (.value _) => none
    | some (.series (last :: others)) => do
      let t' ← Table.change dotted f path ⟨.header, last⟩
      some { t with entries := putEntry k (.series (t'.entries :: others)) t.entries }
    | some (.series []) => none
    | some (.table origin es) =>
      if dotted ∧ origin = .header then none
      else do
        let t' ← Table.change dotted f path ⟨origin, es⟩
        some { t with entries := putEntry k (.table t'.origin t'.entries) t.entries }

/-- Opens the table of a header. -/
def Table.openTable (k : String) (t : Table) : Option Table :=
  match t.entries.lookup k with
  | none => some { t with entries := putEntry k (.table .header []) t.entries }
  | some (.table .passed es) => some { t with entries := putEntry k (.table .header es) t.entries }
  | some _ => none

/-- Opens the next table of a repeated header. -/
def Table.openNext (k : String) (t : Table) : Option Table :=
  match t.entries.lookup k with
  | none => some { t with entries := putEntry k (.series [[]]) t.entries }
  | some (.series ts) => some { t with entries := putEntry k (.series ([] :: ts)) t.entries }
  | some _ => none

/-- Adds a value under a key that must be new; after a dotted path the table must be one that dotted keys
have made, and without one it must not be. -/
def Table.addValue (afterPath : Bool) (k : String) (v : Json) (t : Table) : Option Table :=
  if (t.origin == .dotted) != afterPath then none
  else match t.entries.lookup k with
    | some _ => none
    | none => some { t with entries := t.entries ++ [(k, .value v)] }

/-- Adds a value under a key with dots. -/
def Table.insert (path : List String) (k : String) (v : Json) (t : Table) : Option Table :=
  Table.change true (Table.addValue (!path.isEmpty) k v) path t

mutual

/-- A node as a document. -/
def Node.toJson : Node → Json
  | .value v => v
  | .table _ es => .object (entriesToJson es)
  | .series ts => .array (seriesToJson ts).reverse

/-- The entries of a table as members. -/
def entriesToJson : List (String × Node) → List (String × Json)
  | [] => []
  | (k, n) :: es => (k, n.toJson) :: entriesToJson es

/-- Tables as objects. -/
def seriesToJson : List (List (String × Node)) → List Json
  | [] => []
  | es :: ts => .object (entriesToJson es) :: seriesToJson ts

end

/-- A table as a document. -/
def Table.toJson (t : Table) : Json := .object (entriesToJson t.entries)

end Backlog.Toml
