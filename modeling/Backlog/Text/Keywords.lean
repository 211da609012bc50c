import Backlog.Text.LetterCase
import Backlog.Text.Split

/-! # Keywords

The keywords of a text are its lower-case words of more than three characters that are not stop words,
each listed once, in order of first occurrence. A word is a run of letters, digits and underscores. -/

namespace Backlog.Text

/-- Words that tell nothing about a subject. -/
def stopWords : List String := [
  "the", "and", "for", "with", "from", "into", "onto", "over", "under", "about", "after",
  "before", "between", "through", "within", "without", "this", "that", "these", "those",
  "their", "there", "where", "when", "then", "than", "will", "should", "must", "have", "been",
  "being", "implement", "implements", "implementation", "add", "adds", "adding", "fix",
  "fixes", "fixing", "create", "creates", "update", "updates", "make", "makes", "build",
  "builds", "support", "supports", "ensure", "allow", "allows", "handle", "handles"]

/-- Whether a character belongs to a word. -/
def isWordChar (c : Char) : Bool := isAlphanumeric c || c == '_'

/-- Whether a word is a keyword. -/
def isKeyword (w : List Char) : Bool :=
  decide (3 < w.length) && !stopWords.contains (String.ofList w)

/-- The keywords of a text. -/
def keywords (s : String) : List String :=
  (((pieces (fun c => !isWordChar c) (lowerChars s.toList)).filter isKeyword).map
    String.ofList).eraseDups

/-- How many keywords two sets have in common. -/
def sharedKeywords (a b : List String) : Nat := (a.filter b.contains).length

end Backlog.Text
