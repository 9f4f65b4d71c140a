/-
Taking a text apart at a separator.
-/

namespace UserDirectory.Text

/-- The pieces between the separators; a text without any separator is one piece. -/
def pieces (separator : Char) : List Char → List (List Char)
  | [] => [[]]
  | c :: rest =>
    if c = separator then [] :: pieces separator rest
    else match pieces separator rest with
      | [] => [[c]]
      | piece :: others => (c :: piece) :: others

/-- What stands before the first separator and behind it. -/
def splitFirst? (separator : Char) (text : List Char) : Option (List Char × List Char) :=
  match text.span (· ≠ separator) with
  | (before, _ :: behind) => some (before, behind)
  | (_, []) => none

/-- What stands before the last separator and behind it. -/
def splitLast? (separator : Char) (text : List Char) : Option (List Char × List Char) :=
  (splitFirst? separator text.reverse).map fun (behind, before) => (before.reverse, behind.reverse)

end UserDirectory.Text
