/-
Lower case of any text. All characters but two are lowered one by one. The dotted capital I becomes
two characters, so that its dot is kept, and a capital sigma becomes the final small sigma when it
ends a word: a letter stands before it and none after it, case-ignorable characters passed over.
-/

import UserDirectory.Text.Blank
import UserDirectory.Text.LetterCase.Table

namespace UserDirectory.Text

open LetterCase

/-! ### Characters with a single lower-case partner -/

/-- Whether a code point belongs to a run. -/
def LetterCase.Run.holds (run : Run) (code : Nat) : Bool :=
  run.first ≤ code && code ≤ run.last && (code - run.first) % run.step == 0

/-- The lower-case partner of a character, or the character itself. -/
def lowerChar (c : Char) : Char :=
  if c.toNat < 128 then c.toLower
  else match lowerRuns.find? (·.holds c.toNat) with
    | some run => Char.ofNat (Int.toNat (c.toNat + run.shift))
    | none => c

/-! ### The two characters that look at more than themselves -/

/-- Whether a search for the neighbouring letter passes over the character. -/
def isCaseIgnorable (c : Char) : Bool :=
  inRanges ignorableRanges c.toNat

/-- Whether the first character that is not passed over has a case. -/
def meetsLetter (text : List Char) : Bool :=
  match text.dropWhile isCaseIgnorable with
  | c :: _ => inRanges casedRanges c.toNat
  | [] => false

/-- Lower the rest of a text, given the characters before it, nearest first. -/
def lowerFrom (before : List Char) : List Char → List Char
  | [] => []
  | c :: rest =>
    (if c = 'İ' then ['i', '\u0307']
     else if c = 'Σ' then
       [if meetsLetter before && !meetsLetter rest then 'ς' else 'σ']
     else [lowerChar c]) ++ lowerFrom (c :: before) rest

/-- The lower-case form of a text. -/
def lower (text : String) : String :=
  String.ofList (lowerFrom [] text.toList)

end UserDirectory.Text
