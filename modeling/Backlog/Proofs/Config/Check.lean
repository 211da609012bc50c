import Backlog.Generation.Plan
import Backlog.Proofs.Auth.Authenticator
import Backlog.Proofs.Except

/-! # Configurations that can be used

A checked configuration always gives an authenticator, and a planner too unless what it needs is a service with
a key and no key is set (`GenerationConfig.Keyless`); the check does not look at the key
(`Config.built_iff_of_check`). -/

namespace Backlog

variable {c : Config} {g : GenerationConfig} {l : LlmConfig} {digest : Token.Digest} {send : Llm.Transport}

theorem isGiven_some {s : String} : isGiven (some s) = true ↔ s ≠ "" := by
  simp [isGiven]

theorem Config.check_eq_ok : c.check = .ok () ↔
    c.server.port ≠ 0 ∧ (c.auth.method = .signedToken → isGiven c.auth.secret = true) ∧
      c.sync.heartbeatInterval ≠ 0 ∧ c.sync.heartbeatInterval < c.sync.heartbeatTimeout ∧
      (c.generation.needsLlm = true → c.generation.llm.isSome = true) := by
  rw [check]
  split_ifs with hport hsecret hinterval htimeout hllm
  · exact ⟨nofun, fun h => absurd hport h.1⟩
  · exact ⟨nofun, fun h => absurd (h.2.1 hsecret.1) (by simp [hsecret.2])⟩
  · exact ⟨nofun, fun h => absurd hinterval h.2.2.1⟩
  · exact ⟨nofun, fun h => absurd htimeout (by omega)⟩
  · exact ⟨nofun, fun h => absurd (h.2.2.2.2 hllm.1) (by simpa using hllm.2)⟩
  · refine ⟨fun _ => ⟨hport, by simpa using hsecret, hinterval, by omega, ?_⟩, fun _ => rfl⟩
    simpa [Option.isSome_iff_ne_none] using hllm

/-! ### What is built -/

theorem Authenticator.exists_ofConfig_eq_ok {a : AuthConfig}
    (h : a.method = .signedToken → isGiven a.secret = true) : ∃ r, ofConfig digest a = .ok r := by
  obtain ⟨method, secret⟩ := a
  cases method with
  | none => exact ⟨_, rfl⟩
  | signedToken =>
    obtain ⟨s, rfl⟩ : ∃ s, secret = some s := by
      cases secret with
      | none => cases h rfl
      | some s => exact ⟨s, rfl⟩
    exact ⟨_, ofConfig_eq_ok.mpr (.inr ⟨rfl, s, isGiven_some.mp (h rfl), rfl, rfl⟩)⟩

/-- A service with a key, of which none is set. -/
def LlmConfig.Keyless (l : LlmConfig) : Prop := l.provider = .anthropic ∧ isGiven l.apiKey = false

/-- **A planner that needs a service with a key**, of which none is set. -/
def GenerationConfig.Keyless (g : GenerationConfig) : Prop := g.needsLlm = true ∧ ∃ l, g.llm = some l ∧ l.Keyless

theorem Llm.Service.ofConfig_of_keyless (h : l.Keyless) :
    ofConfig l = .error (.notConfigured "anthropic requires an api_key") := by
  obtain ⟨provider, model, key⟩ := l
  obtain ⟨rfl, hkey⟩ := h
  cases key with
  | none => rfl
  | some key =>
    have hempty : key.isEmpty = true := by simpa [isGiven] using hkey
    simp only [ofConfig, hempty, if_true]

theorem Llm.Service.exists_ofConfig_eq_ok (h : ¬ l.Keyless) : ∃ s, ofConfig l = .ok s := by
  obtain ⟨provider, model, key⟩ := l
  cases provider with
  | ollama => exact ⟨_, rfl⟩
  | anthropic =>
    cases key with
    | none => exact absurd ⟨rfl, rfl⟩ h
    | some key =>
      have hempty : key.isEmpty = false := by
        by_contra hnot
        exact h ⟨rfl, by simpa [isGiven] using hnot⟩
      exact ⟨.anthropic key model, by simp only [ofConfig, hempty, Bool.false_eq_true, if_false]⟩

theorem Planner.exists_ofConfig_eq_ok (hllm : g.needsLlm = true → g.llm.isSome = true) (h : ¬ g.Keyless) :
    ∃ p, ofConfig send g = .ok p := by
  suffices hclient : ∃ m, client? send g = .ok m by
    obtain ⟨m, hm⟩ := hclient
    exact ⟨_, bind_eq_ok.mpr ⟨m, hm, rfl⟩⟩
  by_cases hneeds : g.needsLlm = true
  · obtain ⟨l, hl⟩ := Option.isSome_iff_exists.mp (hllm hneeds)
    obtain ⟨s, hs⟩ := Llm.Service.exists_ofConfig_eq_ok fun hkeyless => h ⟨hneeds, l, hl, hkeyless⟩
    exact ⟨some (s.client send), by rw [client?, if_pos hneeds, hl]; simp only [hs]; rfl⟩
  · exact ⟨none, by rw [client?, if_neg hneeds]⟩

theorem Planner.ofConfig_of_keyless (h : g.Keyless) :
    ofConfig send g = .error (.notConfigured "anthropic requires an api_key") := by
  obtain ⟨hneeds, l, hl, hkeyless⟩ := h
  rw [ofConfig, client?, if_pos hneeds, hl]
  simp only [Llm.Service.ofConfig_of_keyless hkeyless]
  rfl

/-! ### What is checked -/

/-- **A checked configuration gives an authenticator, and a planner unless a key is missing**: then building the
planner fails, with a message of its own. -/
theorem Config.built_iff_of_check (digest : Token.Digest) (send : Llm.Transport) (h : c.check = .ok ()) :
    (∃ a, Authenticator.ofConfig digest c.auth = .ok a) ∧
    ((∃ p, Planner.ofConfig send c.generation = .ok p) ↔ ¬ c.generation.Keyless) ∧
    (c.generation.Keyless →
      Planner.ofConfig send c.generation = .error (.notConfigured "anthropic requires an api_key")) := by
  obtain ⟨-, hsecret, -, -, hllm⟩ := check_eq_ok.mp h
  refine ⟨Authenticator.exists_ofConfig_eq_ok hsecret, ⟨?_, Planner.exists_ofConfig_eq_ok hllm⟩,
    Planner.ofConfig_of_keyless⟩
  rintro ⟨p, hp⟩ hkeyless
  rw [Planner.ofConfig_of_keyless hkeyless] at hp
  cases hp

/-- Signed tokens, and features found and tickets enriched by a service that has its key. -/
def keyedConfig : Config where
  auth := ⟨.signedToken, some "k"⟩
  generation := ⟨.llm, true, some { provider := .anthropic, model := "m", apiKey := some "sk" }⟩

theorem Config.built_iff_of_check_keyed :
    keyedConfig.check = .ok () ∧ (∃ a, Authenticator.ofConfig Sha256.hex keyedConfig.auth = .ok a) ∧
      ∃ p, Planner.ofConfig (fun _ => .error (.unreachable "")) keyedConfig.generation = .ok p := by
  have hcheck : keyedConfig.check = .ok () := by decide
  obtain ⟨hauth, hplanner, -⟩ := built_iff_of_check Sha256.hex (fun _ => .error (.unreachable "")) hcheck
  exact ⟨hcheck, hauth, hplanner.mpr fun ⟨_, l, hl, _, hkey⟩ => by cases hl; cases hkey⟩

/-- **The check lets a missing key pass**: no planner can be built from this configuration. -/
theorem Config.check_misses_key : ∃ c : Config, c.check = .ok () ∧
    ∀ send, ¬ ∃ p, Planner.ofConfig send c.generation = .ok p := by
  let l : LlmConfig := { provider := .anthropic, model := "m" }
  refine ⟨{ auth := { method := .none }, generation := ⟨.llm, false, some l⟩ }, by decide, fun send ⟨p, hp⟩ => ?_⟩
  rw [Planner.ofConfig_of_keyless ⟨rfl, _, rfl, rfl, rfl⟩] at hp
  cases hp

end Backlog
