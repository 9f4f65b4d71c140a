/-
Sets of keys that their issuer spells out in a document. Signatures are not computed here, so a key
that is spelled out vouches for no token, and none comes out of such a document. It is read through
all the same. An entry that is no key is passed over; one that says that its tokens are not signed,
or names its way of signing by something that is no name, is a fault of the whole set.
-/

import UserDirectory.Json

namespace UserDirectory.KeySet

/-- What an entry says under a name; what is missing is null. -/
def value (name : String) (entry : Json) : Json :=
  (entry.member? name).getD .null

/-- What is said of tokens that are not signed, in place of a way of signing. -/
def unsigned : String := "none"

/-- Read an entry through. Its way of signing matters only if it says of which type it is. -/
def readEntry (entry : Json) : Except Fault Unit :=
  if !(value "kty" entry).isPresent then .ok ()
  else match (value "alg" entry).orElse .null with
    | .arr _ | .obj _ => .error .unsuitable
    | algorithm => if algorithm.text? = some unsigned then .error .unsignedKey else .ok ()

/-- Read a document through, entry by entry. -/
def readThrough (document : Json) : Except Fault Unit :=
  match document.member? "keys" with
  | some (.arr entries) => entries.forM readEntry
  | _ => .ok ()

end UserDirectory.KeySet
