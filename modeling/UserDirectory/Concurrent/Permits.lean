/-
A chosen number of permits. Look-ups use the usual number; whoever chooses another one must not
choose a negative one. Without any permit no call ever begins.
-/

import UserDirectory.Concurrent.Run
import UserDirectory.Fault

namespace UserDirectory

/-- Make a call for each item with a chosen number of permits. -/
def Run.withPermits {σ α ι : Type} (permits : Int) (call : ι → Call σ Fault α) (items : List ι)
    (state : σ) : Except Fault (Run σ Fault (List α)) :=
  if permits < 0 then .error .negativePermits
  else .ok (.bounded permits.toNat call items state)

end UserDirectory
