import Backlog.Json.Record

/-! # Types whose values have names

A finite type of named values is read from and written as those names. `ofName?` searches the values for
a name; where no two values share a name it undoes `name`. -/

namespace Backlog

/-- A finite type whose values have names. -/
class Named (α : Type) where
  /-- What a value of the type is called in a message. -/
  noun : String
  /-- All values. -/
  values : List α
  /-- The name of a value. -/
  name : α → String

namespace Named

variable {α : Type} [Named α]

/-- The value with a name. -/
def ofName? (s : String) : Option α := (values (α := α)).find? fun a => name a == s

/-- The value with a name, or a message that there is none. -/
def parse (s : String) : Except String α :=
  match ofName? s with
  | some a => .ok a
  | none => .error ("Invalid " ++ noun α ++ ": " ++ s)

/-- Reads a value by its name. -/
def read : Json.Read α := Json.readName ofName?

/-- Reads a value by its name within a message, which is read whole before its kind is known. -/
def readBuffered : Json.Read α := Json.readBufferedName ofName?

/-- Writes a value as its name. -/
def write (a : α) : Json := .string (name a)

end Named

end Backlog
