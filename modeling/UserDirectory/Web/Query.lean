/-
The query of a request: names and values, joined by equals signs and separated by ampersands. A plus
sign stands for a space, and a percent sign with two hexadecimal digits for a byte; a percent sign
that is not followed by two such digits stands for itself.
-/

import UserDirectory.Text.Digit
import UserDirectory.Text.Split
import UserDirectory.Text.Utf8

namespace UserDirectory.Query

/-- The byte that two hexadecimal digits write. -/
def escapedByte? (high low : Char) : Option UInt8 := do
  pure (16 * (← Text.hexValue? high) + (← Text.hexValue? low)).toUInt8

/-- The bytes of a text with its escapes resolved. -/
def unescape : List Char → List UInt8
  | [] => []
  | '%' :: high :: low :: rest =>
    match escapedByte? high low with
    | some byte => byte :: unescape rest
    | none => Text.toUtf8 ['%'] ++ unescape (high :: low :: rest)
  | c :: rest => Text.toUtf8 [if c = '+' then ' ' else c] ++ unescape rest

/-- A name or a value as it is meant. -/
def plain (text : List Char) : String :=
  String.ofList (Text.ofUtf8Lossy (unescape text))

/-- A name and its value; a name alone has the empty value. -/
def entry (piece : List Char) : String × String :=
  let (name, value) := (Text.splitFirst? '=' piece).getD (piece, [])
  (plain name, plain value)

/-- The names and values of a query, in order. Empty pieces say nothing. -/
def entries (query : String) : List (String × String) :=
  ((Text.pieces '&' query.toList).filter (· ≠ [])).map entry

/-- The value of a name; of repeated ones the last counts. -/
def value? (entries : List (String × String)) (name : String) : Option String :=
  (entries.reverse.find? fun entry => entry.1 = name).map (·.2)

end UserDirectory.Query
