import Backlog.Json.Reader
import Backlog.Metric
import Backlog.Text.Blank
import Backlog.Text.Split
import Backlog.Time.Span

/-! # Language models

A `Client` answers a request with a text or fails; it is a parameter of everything that asks one.
`Client.ask` sends one request and reads the reply as JSON, which models like to fence with three
backticks: a fence is taken off first (`unfence`). A `Consultation` is a result together with the
requests that were made for it and the counts that it caused. -/

namespace Backlog.Llm

open Backlog.Text

/-- Why a model gave no usable reply. -/
inductive Failure where
  /-- The service was not reached. -/
  | unreachable (detail : String)
  /-- The service answered with a status other than 200. -/
  | refused (status : Nat) (detail : String)
  /-- The reply, kept if a model wrote it, does not have the shape asked for. -/
  | unreadable (fault : Json.Fault) (reply : Option String)
  | timeout (after : Span)
  | notConfigured (detail : String)
  deriving Repr, DecidableEq

/-- The message of a failure. -/
def Failure.message : Failure → String
  | unreachable d => "HTTP error: " ++ d
  | refused s d => "API error: " ++ toString s ++ " - " ++ d
  | unreadable f none => "JSON error: " ++ f.message
  | unreadable f (some reply) => "JSON error: " ++ f.message ++ ": " ++ reply
  | timeout t => "Timeout after " ++ t.toText
  | notConfigured d => "Not configured: " ++ d

/-- How many tokens were sent and received. -/
structure Usage where
  input : Nat := 0
  output : Nat := 0
  deriving Repr, DecidableEq, Inhabited

/-- What a model is asked. A temperature of zero makes the reply deterministic. -/
structure Request where
  system : Option String := none
  prompt : String
  maxTokens : Nat := 1024
  temperature : Float32 := 0
  deriving Repr

/-- What a model answers. -/
structure Reply where
  text : String
  usage : Usage
  model : String
  deriving Repr, DecidableEq

/-- A language model that can be asked. -/
structure Client where
  provider : String
  complete : Request → Except Failure Reply

/-- A text without the fence around it: the opening line is dropped whole, the closing backticks only if
they are there. -/
def unfence (s : String) : String :=
  let cs := trimChars s.toList
  let fence := ['\x60', '\x60', '\x60']
  match stripLead? fence cs with
  | none => String.ofList cs
  | some rest =>
    let body := match cutFirst '\n' rest with
      | some (_, b) => b
      | none => []
    String.ofList (trimChars ((stripTail? fence body).getD body))

/-- What a reply says, read as JSON. -/
def Reply.read {α : Type} (r : Json.Read α) (reply : Reply) : Except Failure α :=
  match Json.ofText r (unfence reply.text) with
  | .ok a => .ok a
  | .error f => .error (.unreadable f (some reply.text))

/-- The reply of a model to a request, read as JSON. -/
def Client.completeJson {α : Type} (c : Client) (r : Json.Read α) (q : Request) :
    Except Failure (α × Usage) := do
  let reply ← c.complete q
  let a ← reply.read r
  pure (a, reply.usage)

/-- A result with the requests that were made for it and what was counted meanwhile. -/
structure Consultation (α : Type) where
  result : α
  requests : List Request := []
  counts : Counts := []

/-- A result without any request. -/
def Consultation.pure {α : Type} (a : α) : Consultation α := { result := a }

/-- The counts of the tokens of a reply. -/
def Usage.counts (provider : String) (u : Usage) : Counts :=
  [(.tokens provider .input, u.input), (.tokens provider .output, u.output)]

/-- Asks a model once; the tokens of a readable reply are counted. -/
def Client.ask {α : Type} (c : Client) (r : Json.Read α) (q : Request) :
    Consultation (Except Failure α) :=
  match c.completeJson r q with
  | .ok (a, u) => { result := .ok a, requests := [q], counts := u.counts c.provider }
  | .error e => { result := .error e, requests := [q] }

end Backlog.Llm
