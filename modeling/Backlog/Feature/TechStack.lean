import Backlog.Feature.Path

/-! # Languages and frameworks

The technologies of a prototype, recognised by the names and extensions of its files, each listed once
in order of first sight. -/

namespace Backlog.TechStack

/-- The technology that a file name alone gives away. -/
def ofFileName (file : String) : List String :=
  match file with
  | "package.json" => ["javascript"]
  | "tsconfig.json" => ["typescript"]
  | "Cargo.toml" => ["rust"]
  | "go.mod" => ["go"]
  | "pyproject.toml" | "setup.py" | "requirements.txt" => ["python"]
  | "Gemfile" => ["ruby"]
  | "next.config.js" | "next.config.mjs" | "next.config.ts" => ["next.js"]
  | "vite.config.ts" | "vite.config.js" => ["vite"]
  | "tailwind.config.js" | "tailwind.config.ts" => ["tailwind"]
  | "Dockerfile" => ["docker"]
  | _ => []

/-- The technologies that an extension gives away. -/
def ofExtension (ext : String) : List String :=
  match ext with
  | "ts" => ["typescript"]
  | "tsx" => ["typescript", "react"]
  | "jsx" => ["react"]
  | "js" | "mjs" => ["javascript"]
  | "vue" => ["vue"]
  | "svelte" => ["svelte"]
  | "py" => ["python"]
  | "rs" => ["rust"]
  | "go" => ["go"]
  | "rb" => ["ruby"]
  | "sql" => ["sql"]
  | _ => []

/-- The technologies of one file. -/
def ofPath (path : String) : List String :=
  let file := Path.fileName path.toList
  ofFileName (String.ofList file) ++
    match Path.stemAndExtension? file with
    | some (_, ext) => ofExtension (String.ofList ext)
    | none => []

/-- The technologies of a prototype. -/
def detect (files : List String) : List String := (files.flatMap ofPath).eraseDups

end Backlog.TechStack
