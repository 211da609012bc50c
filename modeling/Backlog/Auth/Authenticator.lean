import Backlog.Auth.Token
import Backlog.Config.Basic

/-! # Authenticators

An authenticator decides who a caller is from the `authorization` header and the time. One that trusts its
callers takes the bearer token for the user's name and lets everybody in; one with a secret accepts the
tokens that were signed with it and are still valid. -/

namespace Backlog

/-- A way to decide who a caller is. -/
structure Authenticator where
  /-- How callers are identified. -/
  method : AuthMethod
  /-- Who a caller with an `authorization` header is at a second. -/
  authenticate (now : Int) (header : Option String) : Except AuthError Identity

namespace Authenticator

/-- Lets everybody in, under the name that the token gives. -/
def trusting : Authenticator where
  method := .none
  authenticate _ header :=
    .ok { Identity.anonymous with user := (header.bind bearer?).getD Identity.anonymous.user }

/-- Lets in whoever has a token that was signed with the secret and is still valid. -/
def signed (digest : Token.Digest) (secret : String) : Authenticator where
  method := .signedToken
  authenticate now header :=
    match header.bind bearer? with
    | none => .error .notAuthenticated
    | some t => (Token.verify digest secret t now).map fun user =>
      ⟨user, Named.name AuthMethod.signedToken⟩

/-- The authenticator that a configuration asks for. -/
def ofConfig (digest : Token.Digest) (c : AuthConfig) : Except AuthError Authenticator :=
  match c.method, c.secret with
  | .none, _ => .ok trusting
  | .signedToken, some secret =>
    if secret.isEmpty then .error .secretMissing else .ok (signed digest secret)
  | .signedToken, none => .error .secretMissing

end Authenticator

end Backlog
