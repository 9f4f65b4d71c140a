/-
Bearer tokens. A token is a header, claims and a signature over both. Its compact form writes header
and claims as documents in base-64 between points. Signatures are not computed here: a token says by
which key it is signed, and a compact form alone vouches for nothing.
-/

import UserDirectory.Json.Reader
import UserDirectory.Text.Base64
import UserDirectory.Text.Encoding
import UserDirectory.Text.Split

namespace UserDirectory

/-- How a token is signed. -/
inductive Signature where
  /-- By the key of a name, over exactly this header and these claims. -/
  | byKey (name : String)
  /-- By no key that could vouch for the token. -/
  | void
deriving Repr, DecidableEq

/-- A token as it was taken apart, before anything of it is trusted. -/
structure BearerToken where
  /-- The header. -/
  header : Json
  /-- The claims. -/
  claims : Json
  /-- The signature. -/
  signature : Signature
deriving Repr

/-- The way in which a token is read from its text. -/
abbrev TokenReader : Type := String → Option BearerToken

namespace BearerToken

/-! ### The compact form -/

/-- The document of a part of the compact form. -/
def part? (text : List Char) : Option Json := do
  Json.ofText? (← Text.ofDocument? (← Text.Base64.read? text))

/-- The token of a compact form. What stands before the first point is the header, and what stands
behind the last one the signature. -/
def ofText? (text : String) : Option BearerToken := do
  let (signed, signature) ← Text.splitLast? '.' text.toList
  let (header, claims) ← Text.splitFirst? '.' signed
  let header ← part? header
  let claims ← part? claims
  let _ ← Text.Base64.read? signature
  pure ⟨header, claims, .void⟩

/-! ### What a header must say to be looked at -/

/-- A member of the header. -/
def headerMember (token : BearerToken) (name : String) : Option Json :=
  token.header.member? name

/-- Whether the name of the key, if there is one, is a text. -/
def namesKeyByText (token : BearerToken) : Bool :=
  match token.headerMember "kid" with
  | some document => document.text?.isSome
  | none => true

/-- Whether every extension that must be understood is one that is: claims that are not encoded. -/
def isUnderstood (token : BearerToken) : Bool :=
  match token.headerMember "crit" with
  | none => true
  | some (.arr extensions) =>
    !extensions.isEmpty &&
      extensions.all fun extension =>
        extension.text? == some "b64" && (token.headerMember "b64").isSome
  | some _ => false

/-- Whether the claims are encoded, as they must be unless they are sent apart. -/
def carriesClaims (token : BearerToken) : Bool :=
  match token.headerMember "b64" with
  | some (.bool encoded) => encoded
  | _ => true

/-- Whether a document is an object. -/
def isObject : Json → Bool
  | .obj _ => true
  | _ => false

/-- Whether a token is well-formed, so that its key is worth looking up. -/
def isWellFormed (token : BearerToken) : Bool :=
  isObject token.header && isObject token.claims && token.namesKeyByText && token.isUnderstood
    && token.carriesClaims

/-- The name of the key that a token says it is signed by. -/
def keyName (token : BearerToken) : Option String :=
  (token.headerMember "kid").bind Json.text?

/-- The only way of signing that is accepted. -/
def acceptedAlgorithm : String := "RS256"

/-- Whether the signature of a token is one by the key of a name. -/
def isSignedBy (token : BearerToken) (name : String) : Bool :=
  (token.headerMember "alg").bind Json.text? == some acceptedAlgorithm
    && token.signature = .byKey name

end BearerToken

end UserDirectory
