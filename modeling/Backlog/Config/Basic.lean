import Backlog.Config.Address
import Backlog.Named
import Backlog.Ticket.Wire

/-! # Configuration

What the program can be told at its start, section by section, with the values that hold when a section
or a setting is left out. Only the way callers identify themselves must be given. `check` names the
first setting that cannot work; `sanitize` gives what may be shown of a configuration, which is
everything but its secrets. -/

namespace Backlog

open Json (RecordField Read readString readBool readNat readOption)

/-- How callers identify themselves. -/
inductive AuthMethod where
  | none | signedToken
  deriving Repr, DecidableEq, Inhabited

instance : Named AuthMethod where
  noun := "authentication method"
  values := [.none, .signedToken]
  name
    | .none => "none"
    | .signedToken => "signed_token"

/-- How log lines are written. -/
inductive LogFormat where
  | pretty | json
  deriving Repr, DecidableEq, Inhabited

instance : Named LogFormat where
  noun := "log format"
  values := [.pretty, .json]
  name
    | .pretty => "pretty"
    | .json => "json"

/-- How features are found. -/
inductive ExtractorMode where
  | none | heuristic | llm
  deriving Repr, DecidableEq, Inhabited

instance : Named ExtractorMode where
  noun := "extractor"
  values := [.none, .heuristic, .llm]
  name
    | .none => "none"
    | .heuristic => "heuristic"
    | .llm => "llm"

/-- A service that runs language models. -/
inductive Provider where
  | anthropic | ollama
  deriving Repr, DecidableEq, Inhabited

instance : Named Provider where
  noun := "provider"
  values := [.anthropic, .ollama]
  name
    | .anthropic => "anthropic"
    | .ollama => "ollama"

structure AuthConfig where
  method : AuthMethod
  secret : Option String := Option.none
  deriving Repr, DecidableEq, Inhabited

structure ServerConfig where
  host : Address := .v4 [0, 0, 0, 0]
  port : Nat := 8080
  deriving Repr, DecidableEq, Inhabited

structure SyncConfig where
  heartbeatInterval : Nat := 30000
  heartbeatTimeout : Nat := 60000
  snapshotInterval : Nat := 60000
  commandBuffer : Nat := 1024
  deriving Repr, DecidableEq, Inhabited

structure LlmConfig where
  provider : Provider
  model : String
  apiKey : Option String := Option.none
  apiBase : Option String := Option.none
  timeoutSeconds : Nat := 30
  maxTokens : Nat := 4096
  deriving Repr, DecidableEq, Inhabited

structure GenerationConfig where
  extractor : ExtractorMode := .heuristic
  enrich : Bool := false
  llm : Option LlmConfig := Option.none
  deriving Repr, DecidableEq, Inhabited

structure Config where
  auth : AuthConfig
  server : ServerConfig := {}
  databasePath : String := "ticketwright.db"
  logFormat : LogFormat := .pretty
  sync : SyncConfig := {}
  generation : GenerationConfig := {}
  deriving Repr, DecidableEq, Inhabited

/-! ### As a document -/

/-- Reads an address. -/
def Address.read : Read Address
  | .string s => match Address.ofText? s with
    | some a => .ok a
    | none => .error .mismatch
  | v => .error v.wrongKind

/-- Writes an address. -/
def Address.write (a : Address) : Json := .string a.toText

/-- The settings of the `auth` section. -/
def AuthConfig.fields : List (RecordField AuthConfig) := [
  .of "method" .required Named.read Named.write (·.method) fun x v => { x with method := v },
  .sparse "secret" readString .string (·.secret) fun x v => { x with secret := v }]

/-- Reads the `auth` section. -/
def AuthConfig.read : Read AuthConfig := Json.readRecord fields { method := .none }

/-- The settings of the `server` section. -/
def ServerConfig.fields : List (RecordField ServerConfig) := [
  .of "host" .defaulted Address.read Address.write (·.host) fun x v => { x with host := v },
  .of "port" .defaulted (readNat 65536) Json.ofNat (·.port) fun x v => { x with port := v }]

/-- The settings of the `database` section. -/
def databaseFields : List (RecordField String) := [
  .of "path" .defaulted readString .string id fun _ v => v]

/-- The settings of the `logging` section. -/
def loggingFields : List (RecordField LogFormat) := [
  .of "format" .defaulted Named.read Named.write id fun _ v => v]

/-- The settings of the `sync` section. -/
def SyncConfig.fields : List (RecordField SyncConfig) := [
  .of "heartbeat_interval_ms" .defaulted (readNat word64) Json.ofNat (·.heartbeatInterval)
    fun x v => { x with heartbeatInterval := v },
  .of "heartbeat_timeout_ms" .defaulted (readNat word64) Json.ofNat (·.heartbeatTimeout)
    fun x v => { x with heartbeatTimeout := v },
  .of "snapshot_interval_ms" .defaulted (readNat word64) Json.ofNat (·.snapshotInterval)
    fun x v => { x with snapshotInterval := v },
  .of "command_buffer" .defaulted (readNat word64) Json.ofNat (·.commandBuffer)
    fun x v => { x with commandBuffer := v }]

/-- Reads the `sync` section. -/
def SyncConfig.read : Read SyncConfig := Json.readRecord fields {}

/-- The settings of a language model. -/
def LlmConfig.fields : List (RecordField LlmConfig) := [
  .of "provider" .required Named.read Named.write (·.provider) fun x v => { x with provider := v },
  .string "model" (·.model) fun x v => { x with model := v },
  .sparse "api_key" readString .string (·.apiKey) fun x v => { x with apiKey := v },
  .sparse "api_base" readString .string (·.apiBase) fun x v => { x with apiBase := v },
  .of "timeout_secs" .defaulted (readNat word32) Json.ofNat (·.timeoutSeconds)
    fun x v => { x with timeoutSeconds := v },
  .of "max_tokens" .defaulted (readNat word32) Json.ofNat (·.maxTokens)
    fun x v => { x with maxTokens := v }]

/-- Reads the settings of a language model. -/
def LlmConfig.read : Read LlmConfig :=
  Json.readRecord fields { provider := .anthropic, model := "" }

/-- Writes the settings of a language model. -/
def LlmConfig.write : LlmConfig → Json := Json.ofRecord fields

/-- The settings of the `generation` section. -/
def GenerationConfig.fields : List (RecordField GenerationConfig) := [
  .of "extractor" .defaulted Named.read Named.write (·.extractor)
    fun x v => { x with extractor := v },
  .of "enrich" .defaulted readBool .bool (·.enrich) fun x v => { x with enrich := v },
  .sparse "llm" LlmConfig.read LlmConfig.write (·.llm) fun x v => { x with llm := v }]

/-- Reads the `generation` section. -/
def GenerationConfig.read : Read GenerationConfig := Json.readRecord fields {}

/-- The sections of a configuration. -/
def Config.fields : List (RecordField Config) := [
  .of "auth" .required AuthConfig.read (Json.ofRecord AuthConfig.fields) (·.auth)
    fun x v => { x with auth := v },
  .of "server" .defaulted (Json.readRecord ServerConfig.fields {})
    (Json.ofRecord ServerConfig.fields) (·.server) fun x v => { x with server := v },
  .of "database" .defaulted (Json.readRecord databaseFields "ticketwright.db")
    (Json.ofRecord databaseFields) (·.databasePath) fun x v => { x with databasePath := v },
  .of "logging" .defaulted (Json.readRecord loggingFields .pretty) (Json.ofRecord loggingFields)
    (·.logFormat) fun x v => { x with logFormat := v },
  .of "sync" .defaulted SyncConfig.read (Json.ofRecord SyncConfig.fields) (·.sync)
    fun x v => { x with sync := v },
  .of "generation" .defaulted GenerationConfig.read (Json.ofRecord GenerationConfig.fields)
    (·.generation) fun x v => { x with generation := v }]

/-- Reads a configuration. -/
def Config.read : Read Config := Json.readRecord fields { auth := { method := .none } }

/-- Writes a configuration. -/
def Config.write : Config → Json := Json.ofRecord fields

/-- How often snapshots are taken, in milliseconds; zero means never. -/
def SyncConfig.snapshotEvery? (c : SyncConfig) : Option Nat :=
  if 0 < c.snapshotInterval then some c.snapshotInterval else none

/-- Whether an optional text is there and not empty. -/
def isGiven (s : Option String) : Bool := s.any fun t => !t.isEmpty

/-! ### What can be shown -/

/-- What may be shown of the settings of a language model. -/
def LlmConfig.sanitize (c : LlmConfig) : Json := .object [
  ("provider", Named.write c.provider),
  ("model", .string c.model),
  ("api_key_configured", .bool (isGiven c.apiKey)),
  ("api_base", Json.ofOption .string c.apiBase)]

/-- What may be shown of a configuration. -/
def Config.sanitize (c : Config) : Json := .object [
  ("auth", .object [("method", Named.write c.auth.method),
    ("secret_configured", .bool (isGiven c.auth.secret))]),
  ("server", Json.ofRecord ServerConfig.fields c.server),
  ("database", Json.ofRecord databaseFields c.databasePath),
  ("sync", Json.ofRecord SyncConfig.fields c.sync),
  ("generation", .object ([("extractor", Named.write c.generation.extractor),
    ("enrich", .bool c.generation.enrich)] ++
    match c.generation.llm with
    | some llm => [("llm", llm.sanitize)]
    | none => []))]

/-! ### What can work -/

/-- Why a configuration cannot be used. -/
inductive ConfigError where
  | fileNotFound (path : String)
  | unreadable
  | zeroPort
  | noSecret
  | zeroHeartbeat
  | shortTimeout
  | noLlm
  deriving Repr, DecidableEq

/-- What is wrong with a setting. -/
def ConfigError.detail : ConfigError → String
  | fileNotFound path => path
  | unreadable => ""
  | zeroPort => "server.port cannot be 0"
  | noSecret => "auth.secret must be set when using signed_token auth"
  | zeroHeartbeat => "sync.heartbeat_interval_ms cannot be 0"
  | shortTimeout => "sync.heartbeat_timeout_ms must be greater than sync.heartbeat_interval_ms"
  | noLlm => "generation.llm is required when extractor = \"llm\" or enrich = true"

/-- The message of an error. -/
def ConfigError.message : ConfigError → String
  | fileNotFound path => "Configuration file not found: " ++ path
  | unreadable => "Failed to parse configuration: "
  | e => "Configuration validation failed: " ++ e.detail

/-- Whether a language model is needed. -/
def GenerationConfig.needsLlm (c : GenerationConfig) : Bool := c.extractor == .llm || c.enrich

/-- The first setting that cannot work. -/
def Config.check (c : Config) : Except ConfigError Unit :=
  if c.server.port = 0 then .error .zeroPort
  else if c.auth.method = .signedToken ∧ isGiven c.auth.secret = false then .error .noSecret
  else if c.sync.heartbeatInterval = 0 then .error .zeroHeartbeat
  else if c.sync.heartbeatTimeout ≤ c.sync.heartbeatInterval then .error .shortTimeout
  else if c.generation.needsLlm ∧ c.generation.llm.isNone then .error .noLlm
  else .ok ()

end Backlog
