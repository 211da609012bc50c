import Backlog.Auth.Authenticator
import Backlog.Proofs.Auth.Token

/-! # What authenticators answer

A header that is made of a token carries this token, trimmed, unless it is blank (`bearer?_bearerHeader`).
An authenticator that a configuration asks for either trusts its callers or checks their tokens
(`ofConfig_eq_ok`). The first turns nobody away. The second does so with the code `auth_failed` or
`token_expired`, or, if the token is blank, with `not_authenticated` (`Configured.code_of_error`). -/

namespace Backlog

open Text

variable {digest : Token.Digest} {secret token : String} {now : ℤ} {a : Authenticator}
  {c : AuthConfig} {e : AuthError}

/-! ### Headers -/

theorem isBlankText_iff (s : String) : isBlankText s = true ↔ trimChars s.toList = [] := by
  rw [isBlankText, List.all_eq_true, trimChars_eq_nil]

/-- **A header that is made of a token carries it**, trimmed, unless the token is blank. -/
theorem bearer?_bearerHeader (token : String) :
    bearer? (bearerHeader token) = if isBlankText token then none else some (trim token) := by
  have hlead : stripLead? "Bearer ".toList (bearerHeader token).toList = some token.toList := by
    rw [bearerHeader, String.toList_append, stripLead?_append]
  rw [bearer?, hlead]
  by_cases hblank : isBlankText token = true
  · have hnil : trimChars token.toList = [] := (isBlankText_iff token).mp hblank
    simp [hblank, hnil]
  · have hrest : trimChars token.toList ≠ [] := (isBlankText_iff token).not.mp hblank
    simp [hblank, hrest, trim]

/-! ### Authenticators -/

theorem Token.code_of_verify (h : Token.verify digest secret token now = .error e) :
    e.code = "auth_failed" ∨ e.code = "token_expired" := by
  unfold Token.verify at h
  split at h
  · cases h; exact Or.inl rfl
  · split_ifs at h
    · cases h; exact Or.inl rfl
    · cases h; exact Or.inl rfl
    · split at h
      · cases h; exact Or.inl rfl
      · split_ifs at h
        cases h
        exact Or.inr rfl

namespace Authenticator

/-- **What a configuration asks for**: an authenticator that trusts its callers, or one with a secret. -/
theorem ofConfig_eq_ok : ofConfig digest c = .ok a ↔ c.method = .none ∧ a = trusting ∨
    c.method = .signedToken ∧ ∃ secret, secret ≠ "" ∧ c.secret = some secret ∧ a = signed digest secret := by
  obtain ⟨method, secret⟩ := c
  cases method with
  | none => simp [ofConfig, eq_comm (a := a)]
  | signedToken =>
    cases secret with
    | none => simp [ofConfig]
    | some secret =>
      by_cases hempty : secret = ""
      · simp [ofConfig, hempty]
      · simp [ofConfig, hempty, eq_comm (a := a)]

theorem method_of_ofConfig (ha : ofConfig digest c = .ok a) : a.method = c.method := by
  rcases ofConfig_eq_ok.mp ha with ⟨hmethod, rfl⟩ | ⟨hmethod, secret, -, -, rfl⟩
  · exact hmethod.symm
  · exact hmethod.symm

theorem authenticate_trusting (now : ℤ) (token : String) :
    trusting.authenticate now (some (bearerHeader token)) =
      .ok { Identity.anonymous with
        user := if isBlankText token then Identity.anonymous.user else trim token } := by
  show Except.ok _ = _
  rw [Option.bind_some, bearer?_bearerHeader]
  split_ifs <;> rfl

theorem authenticate_signed (digest : Token.Digest) (secret : String) (now : ℤ) (token : String) :
    (signed digest secret).authenticate now (some (bearerHeader token)) =
      if isBlankText token then .error .notAuthenticated
      else (Token.verify digest secret (trim token) now).map fun user =>
        ⟨user, Named.name AuthMethod.signedToken⟩ := by
  simp only [signed, Option.bind_some, bearer?_bearerHeader]
  split_ifs <;> rfl

/-- Whoever trusts callers turns nobody away. -/
theorem method_of_error (ha : ofConfig digest c = .ok a)
    (h : a.authenticate now (some (bearerHeader token)) = .error e) : c.method = .signedToken := by
  rcases ofConfig_eq_ok.mp ha with ⟨-, rfl⟩ | ⟨hmethod, -⟩
  · rw [authenticate_trusting] at h
    cases h
  · exact hmethod

/-- **An authenticator that some configuration asks for**, whatever the digest. -/
def Configured (a : Authenticator) : Prop := ∃ digest c, ofConfig digest c = .ok a

/-- **With which codes callers are turned away**: a blank token counts as none. -/
theorem Configured.code_of_error (ha : a.Configured)
    (h : a.authenticate now (some (bearerHeader token)) = .error e) :
    if isBlankText token then e.code = "not_authenticated"
    else e.code = "auth_failed" ∨ e.code = "token_expired" := by
  obtain ⟨digest, c, ha⟩ := ha
  rcases ofConfig_eq_ok.mp ha with ⟨-, rfl⟩ | ⟨-, secret, -, -, rfl⟩
  · rw [authenticate_trusting] at h
    cases h
  · rw [authenticate_signed] at h
    split_ifs at h ⊢
    · cases h
      rfl
    · cases hverify : Token.verify digest secret (trim token) now with
      | ok user => rw [hverify] at h; cases h
      | error e' =>
        rw [hverify] at h
        cases h
        exact Token.code_of_verify hverify

end Authenticator

end Backlog
