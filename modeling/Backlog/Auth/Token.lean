import Backlog.Auth.Basic
import Backlog.Text.Digits

/-! # Signed tokens

A token reads `user.expiry.signature`. The signature is a digest of the secret, user and expiry, and the
secret again; the expiry is in whole seconds since 1970. A user may contain dots, so a token is taken
apart from its end. The digest is a parameter: a token that was issued is accepted until it expires
whatever the digest, and for an injective one nothing else is accepted. -/

namespace Backlog.Token

open Backlog.Text

/-- A function from texts to signatures. -/
abbrev Digest := String → String

/-- The signature of a payload under a secret. -/
def sign (digest : Digest) (secret payload : String) : String :=
  digest (secret ++ ":" ++ payload ++ ":" ++ secret)

/-- What is signed: user and expiry. -/
def payload (user expiry : String) : String := user ++ "." ++ expiry

/-- A token for a user, valid before a second. -/
def issue (digest : Digest) (secret user : String) (expires : Int) : String :=
  let p := payload user (toString expires)
  p ++ "." ++ sign digest secret p

/-- The parts of a token: user, expiry, signature. -/
def parts? (token : String) : Option (String × String × String) := do
  let (rest, signature) ← cutLast '.' token.toList
  let (user, expiry) ← cutLast '.' rest
  some (String.ofList user, String.ofList expiry, String.ofList signature)

/-- The number that decimal digits spell after a sign, if it has 64 bits. -/
def signedNumber? (negative : Bool) (ds : List Char) : Option Int :=
  if ds.isEmpty || !ds.all Char.isDigit then none
  else
    let i : Int := if negative then -(digitsValue ds : Int) else digitsValue ds
    if fitsSigned64 i then some i else none

/-- A whole number of 64 bits in decimal digits, with an optional sign. -/
def wholeNumber? (s : String) : Option Int :=
  match s.toList with
  | '-' :: ds => signedNumber? true ds
  | '+' :: ds => signedNumber? false ds
  | ds => signedNumber? false ds

/-- Whether two sequences of bytes agree. All places are compared and their differences gathered, so that how
long this takes tells nothing about where the first difference is. -/
def sameBytes (a b : List UInt8) : Bool :=
  a.length == b.length && (a.zip b).foldl (fun found p => found ||| (p.1 ^^^ p.2)) 0 == 0

/-- Whether two texts agree byte by byte. -/
def sameText (s t : String) : Bool := sameBytes s.toUTF8.data.toList t.toUTF8.data.toList

/-- The user of a token that is valid at a second. -/
def verify (digest : Digest) (secret token : String) (now : Int) : Except AuthError String :=
  match parts? token with
  | none => .error .malformedToken
  | some (user, expiry, signature) =>
    if user.isEmpty then .error .malformedToken
    else if !sameText signature (sign digest secret (payload user expiry)) then .error .invalidSignature
    else match wholeNumber? expiry with
      | none => .error .malformedExpiry
      | some e => if e ≤ now then .error .expired else .ok user

end Backlog.Token
