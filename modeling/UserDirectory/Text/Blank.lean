/-
White space and trimming. Two readers of this library disagree about which control characters are
white space, so the rule of trimming is written once, for any class of blanks, and each reader
names its class.
-/

import UserDirectory.Text.Split

namespace UserDirectory.Text

/-! ### Classes of characters are unions of closed ranges -/

/-- Whether a code point lies in one of the ranges, both ends included. -/
def inRanges (ranges : List (Nat × Nat)) (code : Nat) : Bool :=
  ranges.any fun (low, high) => low ≤ code && code ≤ high

/-- The white space of Unicode beyond ASCII, as closed ranges. -/
def wideBlankRanges : List (Nat × Nat) :=
  [(133, 133), (160, 160), (5760, 5760), (8192, 8202), (8232, 8233), (8239, 8239),
   (8287, 8287), (12288, 12288)]

/-- White space around words: the space, the tabs, feeds and returns, the four ASCII separators and
the white space of Unicode. -/
def isBlank (c : Char) : Bool :=
  inRanges ((9, 13) :: (28, 32) :: wideBlankRanges) c.toNat

/-- White space around a number: as `isBlank`, without the four ASCII separators. -/
def isNumberBlank (c : Char) : Bool :=
  inRanges ((9, 13) :: (32, 32) :: wideBlankRanges) c.toNat

/-! ### Trimming removes blanks at both ends only -/

/-- Remove the blanks at both ends. -/
def trimBy (blank : Char → Bool) (text : List Char) : List Char :=
  ((text.dropWhile blank).reverse.dropWhile blank).reverse

/-- Remove the white space at both ends of a text. -/
def trim (text : String) : String :=
  String.ofList (trimBy isBlank text.toList)

/-- The trimmed non-blank pieces of a comma-separated list. -/
def listed (text : String) : List String :=
  ((pieces ',' text.toList).map fun piece => String.ofList (trimBy isBlank piece)).filter (· ≠ "")

end UserDirectory.Text
