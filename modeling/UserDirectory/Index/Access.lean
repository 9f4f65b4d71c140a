/-
How the index is reached. Its hosts, its name and the credentials come from the caller or from the
settings; without hosts there is no access, every search finds nothing and nothing is created.
-/

import UserDirectory.Concurrent.Run
import UserDirectory.Index.Shelf
import UserDirectory.Settings

namespace UserDirectory

/-- A connection to an index. -/
structure IndexClient where
  /-- The hosts. -/
  hosts : List String
  /-- The user name and the password, if both are known. -/
  credentials : Option (String × String)
  /-- Whether certificates are verified. -/
  verifyCertificates : Bool
  /-- Whether the connection is encrypted; the first host decides. -/
  isEncrypted : Bool
deriving Repr, DecidableEq

/-- Access to the index of users, if there is a connection. -/
structure IndexAccess where
  /-- The connection. -/
  client : Option IndexClient
  /-- The name of the index. -/
  name : String
deriving Repr, DecidableEq

/-- What a caller says about the access. -/
structure IndexOptions where
  /-- The hosts; they are taken as they are. -/
  hosts : Option (List String) := none
  /-- The name of the index; an empty one means none. -/
  name : Option String := none
  /-- The user name; an empty one means none. -/
  username : Option String := none
  /-- The password; an empty one means none. -/
  password : Option String := none
  /-- Whether certificates are verified. -/
  verifyCertificates : Bool := true
deriving Repr, DecidableEq

namespace IndexAccess

/-- The name of the index when none is configured. -/
def defaultName : String := "users"

/-- The access that the caller and the settings describe; what the caller says comes first. -/
def configure (environment : Environment) (options : IndexOptions) : IndexAccess :=
  let chosen (option : Option String) (name : String) : Option String :=
    match option.filter (· ≠ "") with
    | some value => some value
    | none => environment.get? name
  let hosts := options.hosts.getD (Text.listed ((environment.get? "OPENSEARCH_HOSTS").getD ""))
  let username := chosen options.username "OPENSEARCH_USERNAME"
  let password := chosen options.password "OPENSEARCH_PASSWORD"
  let credentials := match username.filter (· ≠ ""), password.filter (· ≠ "") with
    | some username, some password => some (username, password)
    | _, _ => none
  let client := hosts.head?.map fun first =>
    ⟨hosts, credentials, options.verifyCertificates, "https".isPrefixOf first⟩
  ⟨client, (chosen options.name "OPENSEARCH_USERS_INDEX").getD defaultName⟩

/-- Whether there is a connection. -/
def isEnabled (access : IndexAccess) : Bool :=
  access.client.isSome

/-- Search one page of logins. -/
def search (access : IndexAccess) (query : IndexQuery) (shelf : IndexShelf) :
    Run IndexShelf Fault IndexPage :=
  if access.isEnabled then .single (IndexShelf.search access.name query) shelf
  else .known (.ok ⟨[], 0⟩)

/-- Make sure that the index exists, and create it if it does not. -/
def ensureIndex (access : IndexAccess) : Call IndexShelf Fault Unit :=
  if access.isEnabled then do
    unless ← IndexShelf.exist access.name do
      IndexShelf.create access.name
  else pure ()

end IndexAccess

end UserDirectory
