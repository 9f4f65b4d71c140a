/-
Who a token speaks for. A token is checked in four steps: it must be well-formed, its key must be
among the published ones, its signature must be by that key, and its claims must hold. Published
keys are downloaded when they are needed for the first time and kept from then on; a download that
brings no usable key, or cannot be read through, is tried again the next time. A token that is not
well-formed causes no download.
-/

import UserDirectory.Bearer.Claims
import UserDirectory.Bearer.KeySet
import UserDirectory.Bearer.Token

namespace UserDirectory

/-- What the issuer of tokens answers to a download of its keys. -/
inductive Publication where
  /-- Keys, by their names. -/
  | keys (names : List String)
  /-- A document that spells keys out. -/
  | document (document : Json)
  /-- Nothing. -/
  | silence
  /-- Something else, after a time in milliseconds. -/
  | late (delay : Nat) (publication : Publication)
deriving Repr

namespace Publication

/-- The names of the keys that can be used, unless what is published cannot be read through. -/
def usableKeys : Publication → Except Fault (List String)
  | .keys names => .ok (names.filter (· ≠ ""))
  | .document written => (KeySet.readThrough written).map fun _ => []
  | .silence => .ok []
  | .late _ publication => publication.usableKeys

/-- How long a download takes. -/
def delay : Publication → Nat
  | .late delay publication => delay + publication.delay
  | .keys _ | .document _ | .silence => 0

end Publication

/-- What is needed to check tokens. -/
structure Validator where
  /-- The application that tokens are issued for. -/
  registration : Registration
  /-- The names of the published keys, once they have been downloaded. -/
  keys : Option (List String)
deriving Repr, DecidableEq

/-- What a check of a token leaves and says. -/
structure Verdict where
  /-- The validator as it is left. -/
  validator : Validator
  /-- From where keys were downloaded. -/
  downloads : List String
  /-- The caller, or why there is none. -/
  outcome : Except TokenFailure Caller

namespace Validator

/-- A validator for the application that the settings name. -/
def ofEnvironment (environment : Environment) : Except Fault Validator :=
  (Registration.ofEnvironment environment).map fun registration => ⟨registration, none⟩

/-- The keys that are known after a look at what is published, if it is needed. -/
def knownKeys (validator : Validator) (publication : Publication) :
    Except Fault (List String) :=
  match validator.keys with
  | some known => .ok known
  | none => publication.usableKeys

/-- The validator after a look at what is published, if it is needed. Only a set of keys that can be
used is remembered. -/
def informed (validator : Validator) (publication : Publication) : Validator :=
  { validator with keys := match validator.knownKeys publication with
      | .ok known => if known.isEmpty then none else some known
      | .error _ => none }

/-- The downloads that a look at the keys takes. -/
def downloads (validator : Validator) : List String :=
  if validator.keys.isSome then [] else [validator.registration.keysLocation]

/-- Whether the key that a token names is known and vouches for it. -/
def isVouchedFor (token : BearerToken) (known : List String) : Bool :=
  match token.keyName with
  | some name => known.contains name && token.isSignedBy name
  | none => false

/-- The caller of a token that a key vouches for. -/
def accept (registration : Registration) (now : Int) (claims : Json) :
    Except TokenFailure Caller := do
  (Claims.check registration now claims).mapError .rejected
  Claims.caller registration claims

/-- Check a token. -/
def validate (validator : Validator) (publication : Publication) (now : Int)
    (token : Option BearerToken) : Verdict :=
  let invalid : Except TokenFailure Caller := .error (.rejected .invalid)
  match token with
  | none => ⟨validator, [], invalid⟩
  | some token =>
    if token.isWellFormed then
      ⟨validator.informed publication, validator.downloads, do
        let known ← (validator.knownKeys publication).mapError .fault
        if isVouchedFor token known then
          accept validator.registration now token.claims
        else invalid⟩
    else ⟨validator, [], invalid⟩

end Validator

end UserDirectory
