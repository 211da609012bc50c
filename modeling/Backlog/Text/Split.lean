/-! # Cutting texts at separators

`pieces p cs` lists the maximal runs between the characters of `p`, empty runs included, so joining
them again at a single separator gives the text back. `cutFirst` and `cutLast` split a text in two at
one occurrence of a separator and are `none` when there is none. -/

namespace Backlog.Text

/-- The runs of `cs` between characters that satisfy `p`; always at least one run. -/
def pieces (p : Char → Bool) : List Char → List (List Char)
  | [] => [[]]
  | c :: cs =>
    if p c then [] :: pieces p cs
    else match pieces p cs with
      | [] => [[c]]
      | w :: ws => (c :: w) :: ws

/-- The text before and after the first `sep`. -/
def cutFirst (sep : Char) : List Char → Option (List Char × List Char)
  | [] => none
  | c :: cs => if c = sep then some ([], cs) else (cutFirst sep cs).map fun (a, b) => (c :: a, b)

/-- The text before and after the last `sep`. -/
def cutLast (sep : Char) : List Char → Option (List Char × List Char)
  | [] => none
  | c :: cs =>
    match cutLast sep cs with
    | some (a, b) => some (c :: a, b)
    | none => if c = sep then some ([], cs) else none

/-- The text after `lead`, when it starts with it. -/
def stripLead? : List Char → List Char → Option (List Char)
  | [], cs => some cs
  | _ :: _, [] => none
  | l :: ls, c :: cs => if l = c then stripLead? ls cs else none

/-- The text before `tail`, when it ends with it. -/
def stripTail? (tail cs : List Char) : Option (List Char) :=
  (stripLead? tail.reverse cs.reverse).map List.reverse

/-- Whether `pat` occurs somewhere in a text. -/
def occursIn (pat : List Char) : List Char → Bool
  | [] => pat.isEmpty
  | c :: cs => (stripLead? pat (c :: cs)).isSome || occursIn pat cs

/-- The order of strings by their code points, which is also that of their UTF-8 bytes. -/
def atMost (a b : String) : Bool := decide (a ≤ b)

end Backlog.Text
