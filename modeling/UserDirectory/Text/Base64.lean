/-
Bytes written with sixty-four characters, four characters for three bytes. The last group may leave
out the marks that fill it up, but only all of them. Otherwise each sequence of bytes has one
written form, so the reader accepts neither characters outside of the alphabet nor bits that do not
belong to a byte.
-/

import UserDirectory.Text.Utf8

namespace UserDirectory.Text.Base64

/-- The six bits of a character of the alphabet. -/
def sextet? (c : Char) : Option Nat :=
  if 'A' ≤ c ∧ c ≤ 'Z' then some (c.toNat - 65)
  else if 'a' ≤ c ∧ c ≤ 'z' then some (c.toNat - 71)
  else if '0' ≤ c ∧ c ≤ '9' then some (c.toNat + 4)
  else if c = '-' then some 62
  else if c = '_' then some 63
  else none

/-- The mark that fills up the last group. -/
def mark : Char := '='

/-- The byte of two characters that leave no bit over. -/
def oneByte? (a b : Char) : Option (List UInt8) := do
  let first ← sextet? a
  let second ← sextet? b
  if second % 16 = 0 then some [(4 * first + second / 16).toUInt8] else none

/-- The bytes of three characters that leave no bit over. -/
def twoBytes? (a b c : Char) : Option (List UInt8) := do
  let first ← sextet? a
  let second ← sextet? b
  let third ← sextet? c
  if third % 4 = 0 then
    some [(4 * first + second / 16).toUInt8, (16 * (second % 16) + third / 4).toUInt8]
  else none

/-- The bytes of four characters. -/
def threeBytes? (a b c d : Char) : Option (List UInt8) := do
  let first ← sextet? a
  let second ← sextet? b
  let third ← sextet? c
  let fourth ← sextet? d
  pure [(4 * first + second / 16).toUInt8, (16 * (second % 16) + third / 4).toUInt8,
    (64 * (third % 4) + fourth).toUInt8]

/-- The bytes of whole groups. Marks stand nowhere but at the end of the last one. -/
def readGroups : List Char → Option (List UInt8)
  | [] => some []
  | a :: b :: c :: d :: rest =>
    if rest.isEmpty ∧ c = mark ∧ d = mark then oneByte? a b
    else if rest.isEmpty ∧ d = mark then twoBytes? a b c
    else do pure ((← threeBytes? a b c d) ++ (← readGroups rest))
  | _ => none

/-- Fill a text up with marks to whole groups. -/
def filled (text : List Char) : List Char :=
  text ++ List.replicate ((4 - text.length % 4) % 4) mark

/-- The bytes that a text writes, if it is their written form, with the marks or without. -/
def read? (text : List Char) : Option (List UInt8) :=
  readGroups (if text.contains mark then text else filled text)

end UserDirectory.Text.Base64
