import Backlog.Feature.Basic
import Backlog.Feature.TechStack
import Backlog.Text.LetterCase

/-! # Features from the file tree

Without any help from outside, features are found by directory: the files under one directory make one
feature. A source root (`src`, `app`, `lib`) is looked through to the directory below it; files at the
top and directories that hold tools belong to no feature. The features ascend by directory name and are
numbered, and each file of the manifest belongs to at most one of them. -/

namespace Backlog.Grouping

open Backlog.Text

/-- Top-level directories that hold tools. -/
def toolDirs : List String :=
  ["node_modules", ".git", ".github", "dist", "build", "target", "vendor", "coverage"]

/-- Directories whose own directories are the features. -/
def sourceRoots : List String := ["src", "app", "lib"]

/-- Path fragments of user-facing code. -/
def visibleDirs : List String :=
  ["components/", "pages/", "views/", "screens/", "ui/", "layouts/", "public/", "styles/"]

/-- Extensions of user-facing code. -/
def visibleExtensions : List String := ["tsx", "jsx", "vue", "svelte", "html", "css", "scss"]

/-- The directory whose feature a file belongs to. -/
def group? (path : String) : Option String :=
  match Path.segments path.toList with
  | [] | [_] => none
  | top :: next :: rest =>
    if toolDirs.contains top then none
    else if sourceRoots.contains top then some (if rest.isEmpty then top else next)
    else some top

/-- Whether a file is user-facing, by its directories or its extension. -/
def isVisible (path : String) : Bool :=
  let lower := lowerChars path.toList
  visibleDirs.any (fun d => occursIn d.toList lower) ||
    match cutLast '.' lower with
    | some (_, ext) => visibleExtensions.contains (String.ofList ext)
    | none => false

/-- One point for every three files, on top of two, and at most ten. -/
def complexityFor (files : Nat) : Nat := min (2 + files / 3) 10

/-- A word with a capital at its start. -/
def capitalize : List Char → List Char
  | [] => []
  | c :: cs => upperChar c ++ cs

/-- A directory name as a title. -/
def title (name : String) : String :=
  let words := (pieces (fun c => c == '-' || c == '_' || c == ' ') name.toList).filter
    fun w => !w.isEmpty
  " ".intercalate (words.map fun w => String.ofList (capitalize w))

/-- The groups of a manifest, ascending. -/
def groups (files : List String) : List String :=
  (files.filterMap group?).eraseDups.mergeSort atMost

/-- The feature of one group. -/
def featureOf (files : List String) (i : Nat) (group : String) : Feature :=
  let own := files.filter fun f => group? f == some group
  let complexity := complexityFor own.length
  { id := Feature.numberedId i
    name := title group
    description := "Work covering " ++ toString own.length ++ " file(s) under " ++ group
    complexity := complexity
    files := own
    userFacing := own.any isVisible
    hours := Float.ofNat (complexity * 2) }

/-- The average complexity of some features. -/
def averageComplexity (fs : List Feature) : Option Nat :=
  if fs.isEmpty then none
  else some (clampComplexity ((fs.map (·.complexity)).foldr (· + ·) 0 / fs.length))

/-- What the file tree tells about a prototype. -/
def extract (files : List String) : Findings :=
  let features := (groups files).mapIdx (featureOf files)
  ⟨features, TechStack.detect files, averageComplexity features⟩

end Backlog.Grouping
