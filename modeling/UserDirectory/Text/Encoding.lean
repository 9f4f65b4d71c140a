/-
The text of a document that arrives as bytes. Characters take one to four bytes, or units of two or
of four bytes in either order. Which it is, a mark at the beginning says; without one it is told
from where the first zero bytes stand, because a document begins with a character of ASCII.
Half of a pair of units on its own is let pass and shown by the replacement character.
-/

import UserDirectory.Text.Utf8

namespace UserDirectory.Text

/-- How the characters of a document are written. -/
inductive Encoding where
  /-- In one to four bytes a character. -/
  | bytes
  /-- In units of two bytes, one or two units a character. -/
  | pairs (bigEndian : Bool)
  /-- In units of four bytes, one unit a character. -/
  | words (bigEndian : Bool)
deriving Repr, DecidableEq

namespace Encoding

/-! ### Telling how a document is written -/

/-- The marks that say how a document is written, a mark that begins with another one before it. -/
def marks : List (List UInt8 × Encoding) :=
  [([0, 0, 0xFE, 0xFF], .words true), ([0xFF, 0xFE, 0, 0], .words false),
   ([0xFE, 0xFF], .pairs true), ([0xFF, 0xFE], .pairs false), ([0xEF, 0xBB, 0xBF], .bytes)]

/-- Tell from zero bytes at the beginning how a document is written. -/
def ofZeros : List UInt8 → Encoding
  | [first, second] =>
    if first = 0 then .pairs true else if second = 0 then .pairs false else .bytes
  | first :: second :: third :: fourth :: _ =>
    if first = 0 then if second = 0 then .words true else .pairs true
    else if second = 0 then if third = 0 ∧ fourth = 0 then .words false else .pairs false
    else .bytes
  | _ => .bytes

/-- Tell how a document is written, and drop the mark that says so. -/
def detect (document : List UInt8) : Encoding × List UInt8 :=
  match marks.find? fun entry => entry.1.isPrefixOf document with
  | some (mark, encoding) => (encoding, document.drop mark.length)
  | none => (ofZeros document, document)

/-! ### Reading -/

/-- The number of a unit. -/
def unit (bigEndian : Bool) (bytes : List UInt8) : Nat :=
  (if bigEndian then bytes else bytes.reverse).foldl (fun value byte => 256 * value + byte.toNat) 0

/-- The numbers of units of two bytes, if no byte is left over. -/
def pairUnits? (bigEndian : Bool) : List UInt8 → Option (List Nat)
  | [] => some []
  | [_] => none
  | a :: b :: rest => (pairUnits? bigEndian rest).map (unit bigEndian [a, b] :: ·)

/-- The numbers of units of four bytes, if no byte is left over. -/
def wordUnits? (bigEndian : Bool) : List UInt8 → Option (List Nat)
  | [] => some []
  | a :: b :: c :: d :: rest =>
    (wordUnits? bigEndian rest).map (unit bigEndian [a, b, c, d] :: ·)
  | _ => none

/-- Whether a unit is the first half of a pair. -/
def isHighHalf (value : Nat) : Bool := 0xD800 ≤ value && value < 0xDC00

/-- Whether a unit is the second half of a pair. -/
def isLowHalf (value : Nat) : Bool := 0xDC00 ≤ value && value < 0xE000

/-- The character of a number, if there are characters of that size. -/
def character? (value : Nat) : Option Char :=
  if isHighHalf value ∨ isLowHalf value then some replacement
  else if value < 0x110000 then some (Char.ofNat value)
  else none

/-- The characters of units of two bytes. -/
def joinPairs : List Nat → List Char
  | [] => []
  | [unit] => [(character? unit).getD replacement]
  | first :: second :: rest =>
    if isHighHalf first ∧ isLowHalf second then
      Char.ofNat (0x10000 + 1024 * (first - 0xD800) + (second - 0xDC00)) :: joinPairs rest
    else (character? first).getD replacement :: joinPairs (second :: rest)

/-- Bytes with the replacement character for each half of a pair that takes three bytes. -/
def withoutHalves : List UInt8 → List UInt8
  | first :: second :: third :: rest =>
    if first = 0xED ∧ 0xA0 ≤ second ∧ second ≤ 0xBF ∧ 0x80 ≤ third ∧ third ≤ 0xBF then
      toUtf8 [replacement] ++ withoutHalves rest
    else first :: withoutHalves (second :: third :: rest)
  | short => short

/-- The text of bytes that are written in a given way, if they are one. -/
def text? : Encoding → List UInt8 → Option (List Char)
  | .bytes, document => ofUtf8? (withoutHalves document)
  | .pairs bigEndian, document => (pairUnits? bigEndian document).map joinPairs
  | .words bigEndian, document => (wordUnits? bigEndian document).bind (·.mapM character?)

end Encoding

/-- The text of a document, if it is one. -/
def ofDocument? (document : List UInt8) : Option (List Char) :=
  let (encoding, document) := Encoding.detect document
  encoding.text? document

end UserDirectory.Text
