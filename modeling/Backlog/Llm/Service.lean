import Backlog.Config.Basic
import Backlog.Llm.Basic

/-! # Services that run language models

A service is reached by one call: `Service.call` gives the path, headers and body of a request, and
`Service.reply` reads the status and body of the answer. How a call travels is a parameter
(`Transport`). -/

namespace Backlog.Llm

open Json (RecordField Read readString readNat readList)

/-- A service with what it takes to use it. -/
inductive Service where
  | anthropic (key model : String)
  | ollama (model : String)
  deriving Repr, DecidableEq

/-- A call to a service. -/
structure Call where
  path : String
  headers : List (String × String)
  body : Json

/-- A way to make calls: the status and body of the answer. -/
abbrev Transport := Call → Except Failure (Nat × String)

namespace Service

/-- The service that a configuration asks for. -/
def ofConfig (c : LlmConfig) : Except Failure Service :=
  match c.provider, c.apiKey with
  | .ollama, _ => .ok (ollama c.model)
  | .anthropic, some key =>
    if key.isEmpty then .error (.notConfigured "anthropic requires an api_key")
    else .ok (anthropic key c.model)
  | .anthropic, none => .error (.notConfigured "anthropic requires an api_key")

/-- The provider of a service. -/
def provider : Service → Provider
  | anthropic .. => .anthropic
  | ollama _ => .ollama

/-- The model that a service runs. -/
def model : Service → String
  | anthropic _ m | ollama m => m

/-- An optional member of an object. -/
def optionalMember (name : String) : Option Json → List (String × Json)
  | none => []
  | some v => [(name, v)]

/-- The call for a request. -/
def call (q : Request) : Service → Call
  | anthropic key model => {
      path := "/v1/messages"
      headers := [("x-api-key", key), ("anthropic-version", "2023-06-01"),
        ("content-type", "application/json")]
      body := .object ([("model", .string model), ("max_tokens", Json.ofNat q.maxTokens)] ++
        optionalMember "system" (q.system.map .string) ++
        [("messages", .array [.object [("role", .string "user"), ("content", .string q.prompt)]])] ++
        optionalMember "temperature"
          (if q.temperature == 0 then none else some (Json.ofFloat32 q.temperature))) }
  | ollama model => {
      path := "/api/generate"
      headers := [("content-type", "application/json")]
      body := .object ([("model", .string model), ("prompt", .string q.prompt)] ++
        optionalMember "system" (q.system.map .string) ++
        [("stream", .bool false), ("format", .string "json"),
         ("options", .object [("temperature", Json.ofFloat32 q.temperature),
           ("num_predict", Json.ofNat q.maxTokens)])]) }

/-! ### Answers -/

/-- The parts of a message: each has a type and maybe a text. -/
def partFields : List (RecordField (String × String)) := [
  .string "type" (·.1) fun x v => (v, x.2),
  .of "text" .defaulted readString .string (·.2) fun x v => (x.1, v)]

/-- The token counts of a message. -/
def usageFields : List (RecordField Usage) := [
  .of "input_tokens" .required (readNat word32) Json.ofNat (·.input) fun x v => { x with input := v },
  .of "output_tokens" .required (readNat word32) Json.ofNat (·.output)
    fun x v => { x with output := v }]

/-- A message: the parts of type `text`, joined, are its text. -/
def messageFields : List (RecordField Reply) := [
  { name := "content", presence := .required, put := fun x v =>
      (readList (Json.readRecord partFields ("", "")) v).map fun parts =>
        { x with text := String.join ((parts.filter (·.1 == "text")).map (·.2)) } },
  .string "model" (·.model) fun x v => { x with model := v },
  { name := "usage", presence := .required, put := fun x v =>
      (Json.readRecord usageFields {} v).map fun u => { x with usage := u } }]

/-- A generated response with its token counts. -/
def responseFields : List (RecordField Reply) := [
  .string "model" (·.model) fun x v => { x with model := v },
  .string "response" (·.text) fun x v => { x with text := v },
  .of "eval_count" .defaulted (readNat word32) Json.ofNat (·.usage.output)
    fun x v => { x with usage := { x.usage with output := v } },
  .of "prompt_eval_count" .defaulted (readNat word32) Json.ofNat (·.usage.input)
    fun x v => { x with usage := { x.usage with input := v } }]

/-- The message of an error report. -/
def reportFields : List (RecordField String) := [.string "message" id fun _ v => v]

/-- How an answer of status 200 is read. -/
def readReply : Service → Read Reply
  | anthropic .. => Json.readRecord messageFields ⟨"", {}, ""⟩
  | ollama _ => Json.readRecord responseFields ⟨"", {}, ""⟩

/-- How the message of any other answer is read. -/
def readReport : Service → Read String
  | anthropic .. => Json.readRecord
      [.of "error" .required (Json.readRecord reportFields "") .string id fun _ v => v] ""
  | ollama _ => Json.readRecord [.string "error" id fun _ v => v] ""

/-- What an answer says. -/
def reply (s : Service) (status : Nat) (body : String) : Except Failure Reply :=
  if status = 200 then
    match Json.ofText s.readReply body with
    | .ok r => .ok r
    | .error f => .error (.unreadable f none)
  else
    .error (.refused status ((Json.ofText s.readReport body).toOption.getD body))

/-- A service as a client. -/
def client (send : Transport) (s : Service) : Client where
  provider := Named.name s.provider
  complete q := do
    let (status, body) ← send (s.call q)
    s.reply status body

end Service

end Backlog.Llm
