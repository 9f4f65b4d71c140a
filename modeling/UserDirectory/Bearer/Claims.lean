/-
What the claims of a token say. The times come first, then who issued the token, then the kinds of
two claims, then for whom the token was issued, and last who the caller is; the first complaint in
this order is made. Claims about the caller are not checked for their kinds, so what a token says of
the caller is carried on as it stands.
-/

import UserDirectory.Json.Shown
import UserDirectory.Session

namespace UserDirectory

/-! ### Complaints -/

/-- What is wrong with a token. -/
inductive TokenComplaint where
  /-- It is no token, nobody vouches for it, or a claim is not what it should be. -/
  | invalid
  /-- Its time is over. -/
  | expired
  /-- It comes from somebody else than the expected issuer. -/
  | foreignIssuer (expected : String)
  /-- It was made for none of the expected audiences. -/
  | foreignAudience (expected : List String)
  /-- It does not say who the caller is. -/
  | noIdentity
deriving Repr, DecidableEq

/-- The wording of a complaint. -/
def TokenComplaint.message : TokenComplaint → String
  | .invalid => "Invalid token."
  | .expired => "Token expired."
  | .foreignIssuer expected => "Invalid token issuer. Expected: " ++ expected
  | .foreignAudience expected =>
    "Invalid token audience. Expected one of: " ++ Text.quotedList expected
  | .noIdentity => "Invalid user."

/-- Why there is no caller. -/
inductive TokenFailure where
  /-- The token is rejected. -/
  | rejected (complaint : TokenComplaint)
  /-- The check itself went wrong. -/
  | fault (fault : Fault)
deriving Repr, DecidableEq

/-! ### Who may issue tokens, and for whom -/

/-- The application that tokens are issued for. -/
structure Registration where
  /-- The tenant that issues the tokens. -/
  tenant : String
  /-- The application. -/
  client : String
deriving Repr, DecidableEq

namespace Registration

/-- The place of a tenant. -/
def authority (registration : Registration) : String :=
  "https://login.microsoftonline.com/" ++ registration.tenant

/-- The issuer of the tokens. -/
def issuer (registration : Registration) : String :=
  registration.authority ++ "/v2.0"

/-- Where the keys of the issuer are published. -/
def keysLocation (registration : Registration) : String :=
  registration.authority ++ "/discovery/v2.0/keys"

/-- The audiences of the tokens: the application itself and its interface. -/
def audiences (registration : Registration) : List String :=
  [registration.client, "api://" ++ registration.client]

/-- The registration that the settings name. -/
def ofEnvironment (environment : Environment) : Except Fault Registration :=
  match environment.nonempty? "ENTRA_TENANT_ID", environment.nonempty? "ENTRA_CLIENT_ID" with
  | some tenant, some client => .ok ⟨tenant, client⟩
  | _, _ => .error .tokensNotConfigured

end Registration

namespace Claims

/-! ### Times, issuer and the kinds of claims -/

/-- The whole number that a claim stands for: a number without its fraction, a truth value, or a
text that spells a whole number. -/
def numberOf? : Json → Option Int
  | .str text => Number.wholeNumber? text
  | .float value => value.truncated?
  | document => document.number?

/-- A claim that holds a time, if it is there. -/
def timeOf (claims : Json) (name : String) : Except TokenComplaint (Option Int) :=
  match claims.member? name with
  | none => .ok none
  | some document =>
    match numberOf? document with
    | some time => .ok (some time)
    | none => .error .invalid

/-- Check the times: a token is neither used before it was issued or is to be used, nor when its
time is over. -/
def checkTimes (claims : Json) (now : Int) : Except TokenComplaint Unit := do
  if (← timeOf claims "iat").any (now < ·) then throw .invalid
  if (← timeOf claims "nbf").any (now < ·) then throw .invalid
  if (← timeOf claims "exp").any (· ≤ now) then throw .expired

/-- Check the issuer. -/
def checkIssuer (claims : Json) (issuer : String) : Except TokenComplaint Unit :=
  match claims.member? "iss" with
  | none => .error .invalid
  | some document =>
    if document.text? = some issuer then .ok () else .error (.foreignIssuer issuer)

/-- Check that a claim is a text if it is there. -/
def checkText (claims : Json) (name : String) : Except TokenComplaint Unit :=
  match claims.member? name with
  | none => .ok ()
  | some document => if document.text?.isSome then .ok () else .error .invalid

/-- The checks that do not depend on what the service makes of a token. -/
def check (registration : Registration) (now : Int) (claims : Json) :
    Except TokenComplaint Unit := do
  checkTimes claims now
  checkIssuer claims registration.issuer
  checkText claims "sub"
  checkText claims "jti"

/-! ### The caller -/

/-- The value of a claim; a claim that is missing is null. -/
def claim (claims : Json) (name : String) : Json :=
  (claims.member? name).getD .null

/-- The audiences of a token: one text, or the elements of anything else that is there. -/
def audiences (claims : Json) : Except Fault (List Json) :=
  match claim claims "aud" with
  | .str text => .ok [.str text]
  | document => if document.isPresent then document.elements else .ok []

/-- The identifier of the caller. -/
def identity (claims : Json) : Json :=
  (claim claims "oid").orElse (claim claims "sub")

/-- The email address of the caller, in lower case. -/
def email (claims : Json) : Except Fault Json :=
  let address := (claim claims "email").orElse (claim claims "preferred_username")
  if address.isPresent then
    match address with
    | .str text => .ok (.str (Text.lower text))
    | _ => .error .lacksMember
  else .ok (.str "")

/-- The display name of the caller: the name, or else the parts of one. -/
def displayName (claims : Json) : Json :=
  let part (name : String) : String := ((claims.member? name).getD (.str "")).filledIn
  (claim claims "name").orElse
    (.str (Text.trim (part "given_name" ++ " " ++ part "family_name")))

/-- The caller of a token whose checks it has passed. -/
def caller (registration : Registration) (claims : Json) : Except TokenFailure Caller := do
  let audiences ← (audiences claims).mapError .fault
  let isMeant := audiences.any fun audience =>
    registration.audiences.any fun expected => audience.text? == some expected
  if !isMeant then throw (.rejected (.foreignAudience registration.audiences))
  if !(identity claims).isPresent then throw (.rejected .noIdentity)
  let email ← (email claims).mapError .fault
  pure
    { userId := identity claims
      email := email
      name := displayName claims
      roles := (claims.member? "roles").getD (.arr [])
      picture := claim claims "picture" }

end Claims

end UserDirectory
