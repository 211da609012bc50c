import Backlog.Text.Blank
import Backlog.Text.Split

/-! # Identities and bearer tokens

Who a caller is follows from the bearer token of the `authorization` header. `bearer?` finds the token:
the scheme is written `Bearer` or `bearer`, one blank follows, and the rest without surrounding blanks
must not be empty. -/

namespace Backlog

/-- Why a caller is not let in. -/
inductive AuthError where
  /-- No token was given. -/
  | notAuthenticated
  /-- The token does not consist of user, expiry and signature. -/
  | malformedToken
  /-- The signature is not that of user and expiry. -/
  | invalidSignature
  /-- The expiry is not a whole number. -/
  | malformedExpiry
  /-- The token is no longer valid. -/
  | expired
  /-- Tokens are to be signed but there is no secret to sign them with. -/
  | secretMissing
  deriving Repr, DecidableEq

namespace AuthError

/-- The short name of an error's kind. -/
def code : AuthError → String
  | notAuthenticated => "not_authenticated"
  | malformedToken | invalidSignature | malformedExpiry => "auth_failed"
  | expired => "token_expired"
  | secretMissing => "auth_unavailable"

/-- The message of an error. -/
def message : AuthError → String
  | notAuthenticated => "Authentication required"
  | malformedToken => "Invalid credentials: Malformed token"
  | invalidSignature => "Invalid credentials: Invalid signature"
  | malformedExpiry => "Invalid credentials: Malformed expiry"
  | expired => "Token expired"
  | secretMissing => "Configuration error: secret must be set when using SignedToken auth method"

end AuthError

/-- Who a caller is, and how that was established. -/
structure Identity where
  user : String
  method : String
  deriving Repr, DecidableEq

/-- A caller who did not say who they are. -/
def Identity.anonymous : Identity := ⟨"anonymous", "none"⟩

/-- The token of an `authorization` header. -/
def bearer? (header : String) : Option String :=
  match Text.stripLead? "Bearer ".toList header.toList <|>
      Text.stripLead? "bearer ".toList header.toList with
  | none => none
  | some rest =>
    let token := Text.trimChars rest
    if token.isEmpty then none else some (String.ofList token)

/-- The header that carries a token. -/
def bearerHeader (token : String) : String := "Bearer " ++ token

end Backlog
