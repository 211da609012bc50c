import Backlog.Text.Split

/-! # File paths

The parts of a slash-separated path that grouping and counting look at. -/

namespace Backlog.Path

open Backlog.Text

/-- A path without any number of leading `./`. -/
def dropHere : List Char → List Char
  | '.' :: '/' :: cs => dropHere cs
  | cs => cs

/-- The file name: what follows the last slash. -/
def fileName (path : List Char) : List Char :=
  match cutLast '/' path with
  | some (_, file) => file
  | none => path

/-- What follows the last dot of a file name, and what comes before it. -/
def stemAndExtension? (file : List Char) : Option (List Char × List Char) := cutLast '.' file

/-- The parts of a path between slashes, less the empty ones. -/
def segments (path : List Char) : List String :=
  ((pieces (· == '/') (dropHere path)).filter fun p => !p.isEmpty).map String.ofList

end Backlog.Path
