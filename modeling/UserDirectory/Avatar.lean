/-
Avatars. The avatar of a user is the digest of the lower-cased email, by which public avatar
services find the image. A user without an email has none.
-/

import UserDirectory.Digest
import UserDirectory.Record
import UserDirectory.Text.LetterCase

namespace UserDirectory

/-- The avatar of an email address: equal addresses have equal avatars, whatever their case. -/
def avatarOf (email : String) : String :=
  Digest.hexOfText (Text.lower email)

/-- The avatar of a user, who must have an email. -/
def Record.avatar (record : Record) : Except Fault String :=
  match record.email.filter (· ≠ "") with
  | some email => .ok (avatarOf email)
  | none => .error (.noEmail record.login)

end UserDirectory
