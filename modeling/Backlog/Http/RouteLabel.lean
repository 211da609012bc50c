import Backlog.Text.Split

/-! # Route labels

For counting requests by route, the parts of a path that name single things are replaced by one label:
first every identifier in the 8-4-4-4-12 form, wherever it stands, then every segment of decimal digits.
A digit segment is matched together with both of its slashes, so of two that share a slash only the
first is replaced. -/

namespace Backlog.RouteLabel

/-- What stands for an identifier. -/
def label : List Char := ['\x7b', 'i', 'd', '\x7d']

/-- Whether a character is a hexadecimal digit. -/
def isHex (c : Char) : Bool :=
  c.isDigit || ('a' ≤ c && c ≤ 'f') || ('A' ≤ c && c ≤ 'F')

/-- The form of an identifier; `x` stands for a hexadecimal digit. -/
def identifierForm : List Char := "xxxxxxxx-xxxx-xxxx-xxxx-xxxxxxxxxxxx".toList

/-- Whether a text starts with something of a form. -/
def startsWithForm : List Char → List Char → Bool
  | [], _ => true
  | _ :: _, [] => false
  | f :: fs, c :: cs => (if f = 'x' then isHex c else c == f) && startsWithForm fs cs

/-- A text with its identifiers replaced. -/
def replaceIdentifiers (cs : List Char) : List Char :=
  match cs with
  | [] => []
  | c :: rest =>
    if startsWithForm identifierForm (c :: rest) then label ++ replaceIdentifiers (rest.drop 35)
    else c :: replaceIdentifiers rest
termination_by cs.length
decreasing_by all_goals simp only [List.length_cons, List.length_drop]; omega

/-- A text with its digit segments replaced. -/
def replaceNumbers (cs : List Char) : List Char :=
  match cs with
  | [] => []
  | c :: rest =>
    if c = '/' ∧ (rest.takeWhile Char.isDigit).isEmpty = false then
      match _h : rest.dropWhile Char.isDigit with
      | [] => '/' :: label
      | d :: r =>
        if d = '/' then '/' :: label ++ '/' :: replaceNumbers r else c :: replaceNumbers rest
    else c :: replaceNumbers rest
termination_by cs.length
decreasing_by
  · have := congrArg List.length _h
    have hle := (List.dropWhile_sublist (l := rest) Char.isDigit).length_le
    simp only [List.length_cons] at this ⊢
    omega
  all_goals simp

/-- The label of a path. -/
def ofPath (path : String) : String :=
  String.ofList (replaceNumbers (replaceIdentifiers path.toList))

end Backlog.RouteLabel
