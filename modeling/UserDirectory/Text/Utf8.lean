/-
Texts as sequences of bytes, one to four bytes a character. Reading looks at one byte at a time: a
byte either is a character, begins one, goes on with the one begun, or is out of place. What is out
of place is reported where it happens, and reading goes on with the very byte that did not fit, so a
damaged character never hides the one after it.
-/

namespace UserDirectory.Text

/-- The bytes of a text. -/
def toUtf8 (text : List Char) : List UInt8 :=
  text.flatMap String.utf8EncodeChar

/-- A character that has begun. -/
structure Begun where
  /-- The number made of its bits so far. -/
  value : Nat
  /-- The least value of the next byte. -/
  least : UInt8
  /-- The greatest value of the next byte. -/
  greatest : UInt8
  /-- How many bytes follow the next one. -/
  more : Nat
deriving Repr, DecidableEq

namespace Begun

/-- The character that a byte begins, if it begins a longer one. The range of the second byte leaves
out numbers with a shorter form, halves of pairs, and numbers beyond the last character. -/
def ofLead? (byte : UInt8) : Option Begun :=
  if 0xC2 ≤ byte ∧ byte ≤ 0xDF then some ⟨byte.toNat - 0xC0, 0x80, 0xBF, 0⟩
  else if byte = 0xE0 then some ⟨0x0, 0xA0, 0xBF, 1⟩
  else if byte = 0xED then some ⟨0xD, 0x80, 0x9F, 1⟩
  else if 0xE1 ≤ byte ∧ byte ≤ 0xEF then some ⟨byte.toNat - 0xE0, 0x80, 0xBF, 1⟩
  else if byte = 0xF0 then some ⟨0, 0x90, 0xBF, 2⟩
  else if byte = 0xF4 then some ⟨4, 0x80, 0x8F, 2⟩
  else if 0xF1 ≤ byte ∧ byte ≤ 0xF3 then some ⟨byte.toNat - 0xF0, 0x80, 0xBF, 2⟩
  else none

/-- Whether a byte goes on with the character. -/
def takes (begun : Begun) (byte : UInt8) : Bool :=
  begun.least ≤ byte && byte ≤ begun.greatest

/-- The number with the bits of one more byte. -/
def extended (begun : Begun) (byte : UInt8) : Nat :=
  64 * begun.value + byte.toNat % 64

end Begun

/-- What a byte completes outside of a character, and the character it begins. Nothing in place of a
character stands for bytes that make none. -/
def openByte (byte : UInt8) : List (Option Char) × Option Begun :=
  if byte < 0x80 then ([some (Char.ofNat byte.toNat)], none)
  else match Begun.ofLead? byte with
    | some begun => ([], some begun)
    | none => ([none], none)

/-- What a byte completes, and the character it begins or goes on with. -/
def readByte (begun : Option Begun) (byte : UInt8) : List (Option Char) × Option Begun :=
  match begun with
  | none => openByte byte
  | some begun =>
    if begun.takes byte then
      match begun.more with
      | 0 => ([some (Char.ofNat (begun.extended byte))], none)
      | more + 1 => ([], some ⟨begun.extended byte, 0x80, 0xBF, more⟩)
    else
      let (completed, next) := openByte byte
      (none :: completed, next)

/-- Read bytes, going on with a character that has begun. -/
def readUtf8 : Option Begun → List UInt8 → List (Option Char)
  | none, [] => []
  | some _, [] => [none]
  | begun, byte :: rest =>
    let (completed, next) := readByte begun byte
    completed ++ readUtf8 next rest

/-- The text of bytes, if they are one. -/
def ofUtf8? (bytes : List UInt8) : Option (List Char) :=
  (readUtf8 none bytes).mapM id

/-- The character shown in place of bytes that make none. -/
def replacement : Char := '\uFFFD'

/-- The text of bytes, with a mark wherever they make no character. -/
def ofUtf8Lossy (bytes : List UInt8) : List Char :=
  (readUtf8 none bytes).map (·.getD replacement)

end UserDirectory.Text
