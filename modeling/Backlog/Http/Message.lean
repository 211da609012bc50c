import Backlog.Http.Form
import Backlog.Http.MediaType
import Backlog.Json.Printer
import Backlog.Json.Reader

/-! # Requests and responses

A request has a method, a target and headers, and its body is text. `Request.read` takes a value out of
the body, which must be declared as JSON; each way to fail has a status of its own. -/

namespace Backlog

open Backlog.Text

/-- What a request wants to do with a resource. -/
inductive Method where
  | get | head | post | patch | options | other
  deriving Repr, DecidableEq, Inhabited

/-- The method with a name. -/
def Method.ofName : String → Method
  | "GET" => get
  | "HEAD" => head
  | "POST" => post
  | "PATCH" => patch
  | "OPTIONS" => options
  | _ => other

/-- What is sent back. -/
inductive Body where
  | empty
  /-- Text for people. -/
  | text (s : String)
  | json (v : Json)
  deriving Repr, Inhabited

/-- An answer to a request. -/
structure Response where
  status : Nat
  body : Body := .empty
  deriving Repr, Inhabited

namespace Response

/-- Success with a value. -/
def ok (v : Json) : Response := ⟨200, .json v⟩

/-- A failure and its message. -/
def error (status : Nat) (message : String) : Response :=
  ⟨status, .json (.object [("error", .string message)])⟩

/-- Whether a response tells of success. -/
def isSuccess (r : Response) : Bool := decide (200 ≤ r.status) && decide (r.status < 300)

end Response

/-- A request. Names of headers are in lower case. -/
structure Request where
  method : Method
  /-- The target before its query. -/
  path : String
  query : String := ""
  headers : List (String × String) := []
  body : String := ""
  deriving Repr, Inhabited

/-- Whether a character may stand in a header that is read as text. -/
def isVisible (c : Char) : Bool := c == '\t' || (decide (32 ≤ c.toNat) && decide (c.toNat < 127))

namespace Request

/-- A target cut into path and query; a fragment is dropped. -/
def cutTarget (target : String) : String × String :=
  let cs := target.toList.takeWhile (· != '#')
  match cutFirst '?' cs with
  | some (path, query) => (String.ofList path, String.ofList query)
  | none => (String.ofList cs, "")

/-- The values of a header, in order. -/
def valuesOf (r : Request) (name : String) : List String :=
  (r.headers.filter (·.1 == name)).map (·.2)

/-- The `authorization` header: the last one that is visible text. -/
def authorization? (r : Request) : Option String :=
  ((r.valuesOf "authorization").filter fun v => v.toList.all isVisible).getLast?

/-- The media type of the body, by the first `content-type` header. -/
def mediaType? (r : Request) : Option MediaType := do
  let value ← (r.valuesOf "content-type").head?
  if value.toList.all isVisible then MediaType.ofText? value else none

/-- Whether the first header with a name has a property. -/
def firstOf (r : Request) (name : String) (p : String → Bool) : Bool := (r.valuesOf name).head?.any p

/-- Whether a request asks for its connection to be upgraded to a socket. -/
def asksForSocket (r : Request) : Bool :=
  r.firstOf "connection" (fun v => occursIn "upgrade".toList (v.toList.map Char.toLower)) &&
  r.firstOf "upgrade" (fun v => v.toList.map Char.toLower == "websocket".toList) &&
  r.firstOf "sec-websocket-key" (fun _ => true) && r.firstOf "sec-websocket-version" (· == "13")

/-- How many bytes a body may have. -/
def bodyLimit : Nat := 2097152

/-- The response to a body that gives no value. -/
def refusal : Json.Fault → Response
  | .malformed => ⟨400, .text "The body is not JSON"⟩
  | .mismatch => ⟨422, .text "The body does not have the expected shape"⟩

/-- A value from the body of a request. -/
def read {α : Type} (r : Request) (reader : Json.Read α) : Except Response α :=
  if !r.mediaType?.any (·.isJson) then .error ⟨415, .text "The body is not declared as JSON"⟩
  else if bodyLimit < r.body.utf8ByteSize then .error ⟨413, .text "The body is too long"⟩
  else (Json.ofText reader r.body).mapError refusal

end Request

end Backlog
