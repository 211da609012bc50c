import Backlog.Feature.Basic
import Backlog.Llm.Basic

/-! # Asking a model for features

One request describes the manifest to a language model, which is to answer with findings. They are
brought into normal form and lose the files that the manifest does not have; without any feature left
the inquiry has failed. A failure is an outcome of the extraction, never an error. -/

namespace Backlog

/-- A way to find the features of a prototype from its files and its description. -/
abbrev Extractor := List String → String → Llm.Consultation Extraction

namespace Inquiry

open Backlog.Text

/-- What the model is told to do. -/
def instructions : String := "\n".intercalate [
  "You analyze prototype applications and list the features a development team must build.",
  "",
  "Respond with a single JSON object and nothing else:",
  "\x7b",
  "  \"features\": [",
  "    \x7b",
  "      \"id\": \"short-kebab-id\",",
  "      \"name\": \"Feature name\",",
  "      \"description\": \"What the feature does\",",
  "      \"complexity\": 1-10,",
  "      \"files\": [\"paths from the manifest this feature touches\"],",
  "      \"isUserFacing\": true|false,",
  "      \"estimatedHours\": number",
  "    \x7d",
  "  ],",
  "  \"techStack\": [\"languages and frameworks\"],",
  "  \"overallComplexity\": 1-10",
  "\x7d",
  "",
  "Only reference files that appear in the manifest. Do not include project setup as a feature."]

/-- The description of a prototype, if there is one. -/
def aboutText (description : String) : String :=
  let about := trim description
  if about.isEmpty then "" else "PROJECT DESCRIPTION:\n" ++ about ++ "\n\n"

/-- The manifest, of which at most `limit` files are listed. -/
def filesText (limit : Nat) (files : List String) : String :=
  let n := files.length
  "FILE MANIFEST (" ++ toString n ++ " files):\n" ++
    String.join ((files.take limit).map fun path => "- " ++ path ++ "\n") ++
    (if limit < n then "... and " ++ toString (n - limit) ++ " more files\n" else "")

/-- The request about a prototype. -/
def request (limit maxTokens : Nat) (files : List String) (description : String) : Llm.Request where
  system := some instructions
  prompt := aboutText description ++ filesText limit files
  maxTokens := maxTokens

/-- Findings without files that the manifest does not have. -/
def keepKnown (files : List String) (found : Findings) : Findings :=
  { found with
    features := found.features.map fun f => { f with files := f.files.filter files.contains } }

/-- What a reply amounts to. -/
def conclude (files : List String) : Except Llm.Failure Findings → Extraction
  | .error e => .failed ("LLM request failed: " ++ e.message)
  | .ok found =>
    let kept := keepKnown files found.normalize
    if kept.features.isEmpty then .failed "invalid extractor response: no features in response"
    else .extracted kept

/-- Asks a model for the features of a prototype. -/
def extractor (c : Llm.Client) (limit maxTokens : Nat) : Extractor := fun files description =>
  let reply := c.ask Findings.read (request limit maxTokens files description)
  { reply with result := conclude files reply.result }

/-- How many files of a manifest are listed. -/
def defaultLimit : Nat := 400

/-- How long a reply may be. -/
def defaultMaxTokens : Nat := 4096

end Inquiry

end Backlog
