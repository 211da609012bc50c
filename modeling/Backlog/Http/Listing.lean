import Backlog.Auth.Token
import Backlog.Http.Form
import Backlog.Store.Basic

/-! # Listings

Which part of a project's tickets a query asks for. A query is refused if a field that has a meaning is
given twice or a number is none. The part that is listed is brought into range: from 1 to 1000 tickets,
100 unless the query says otherwise, and no negative offset. Status and type stay words until the
project is known. -/

namespace Backlog

/-- What a query asks for. -/
structure Listing where
  status : Option String := none
  type : Option String := none
  limit : Option Int := none
  offset : Option Int := none
  deriving Repr, DecidableEq

namespace Listing

/-- The value of a field that is given at most once. -/
def single? (fields : List (String × String)) (name : String) : Option (Option String) :=
  match fields.filter (·.1 == name) with
  | [] => some none
  | [(_, v)] => some (some v)
  | _ => none

/-- The number in a field that is given at most once. -/
def number? (fields : List (String × String)) (name : String) : Option (Option Int) := do
  match ← single? fields name with
  | none => some none
  | some v => (Token.wholeNumber? v).map some

/-- Reads a query. -/
def ofQuery? (query : String) : Option Listing := do
  let fields := Form.fields query
  let status ← single? fields "status"
  let type ← single? fields "type"
  let limit ← number? fields "limit"
  let offset ← number? fields "offset"
  some ⟨status, type, limit, offset⟩

/-- How many tickets are listed at most. -/
def pageSize (l : Listing) : Int := max 1 (min 1000 (l.limit.getD 100))

/-- How many tickets are passed over. -/
def start (l : Listing) : Int := max 0 (l.offset.getD 0)

/-- An optional word as a value with that name. -/
def named {α : Type} [Named α] : Option String → Except String (Option α)
  | none => .ok none
  | some s => (Named.parse s).map some

/-- The tickets of a project that are asked for, or what is wrong with the words of the query. -/
def filter (l : Listing) (project : String) : Except String Filter := do
  let status ← named l.status
  let type ← named l.type
  pure ⟨some project, status, type, l.pageSize, l.start⟩

end Listing

end Backlog
