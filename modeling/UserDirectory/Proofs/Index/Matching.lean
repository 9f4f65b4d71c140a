/-
This file proves that a text query finds exactly the users it should. What a
query means is said as the index documents it: a star in a pattern stands for any
part of a value, a question mark for any one character, and a backslash takes away
the meaning of the character behind it. Characters that stand for themselves are
compared up to a likeness, such as that of a letter in either case.

Escaping turns each character of a text into something that stands for this
character alone, so that an escaped text fits nothing but parts that are like it,
character by character. Between two stars it fits the values that contain such a
part. A likeness leaves stars, question marks and backslashes apart, so a user who
types them finds just them.
-/

import Mathlib.Data.List.Forall2
import Mathlib.Data.List.Infix
import UserDirectory.Index.Query

namespace UserDirectory

/-! ### Patterns -/

/-- A value fits a pattern, where characters that stand for themselves are compared up to a
likeness. -/
inductive Fits (alike : Char → Char → Prop) : (pattern value : List Char) → Prop where
  | nil : Fits alike [] []
  | star {pattern value : List Char} (skipped : List Char) (rest : Fits alike pattern value) :
      Fits alike ('*' :: pattern) (skipped ++ value)
  | question {pattern value : List Char} (d : Char) (rest : Fits alike pattern value) :
      Fits alike ('?' :: pattern) (d :: value)
  | escaped {pattern value : List Char} {c d : Char} (like : alike c d)
      (rest : Fits alike pattern value) : Fits alike ('\\' :: c :: pattern) (d :: value)
  | plain {pattern value : List Char} {c d : Char} (unspecial : ¬ (c = '\\' ∨ c = '*' ∨ c = '?'))
      (like : alike c d) (rest : Fits alike pattern value) : Fits alike (c :: pattern) (d :: value)

section Escaping

variable {alike : Char → Char → Prop}

theorem fits_star_iff {pattern value : List Char} :
    Fits alike ('*' :: pattern) value ↔
      ∃ skipped behind, value = skipped ++ behind ∧ Fits alike pattern behind := by
  constructor
  · intro fits
    cases fits with
    | star skipped rest => exact ⟨skipped, _, rfl, rest⟩
    | plain unspecial _ _ => exact absurd (Or.inr (Or.inl rfl)) unspecial
  · rintro ⟨skipped, behind, rfl, rest⟩
    exact .star skipped rest

theorem fits_lastStar (value : List Char) : Fits alike ['*'] value :=
  fits_star_iff.mpr ⟨value, [], (List.append_nil value).symm, .nil⟩

/-- A character as it is written so that a pattern takes it literally. -/
def escapeChar (c : Char) : List Char :=
  if c = '\\' ∨ c = '*' ∨ c = '?' then ['\\', c] else [c]

/-- Escaping one kind of special characters after the other escapes each character by itself. -/
theorem escapePattern_eq_flatMap (text : List Char) :
    escapePattern text = text.flatMap escapeChar := by
  rw [escapePattern, replaceChar, replaceChar, replaceChar, List.flatMap_assoc, List.flatMap_assoc]
  refine congrArg (List.flatMap · text) (funext fun c => ?_)
  rw [escapeChar]
  by_cases backslash : c = '\\'
  · subst backslash
    rfl
  · by_cases star : c = '*'
    · subst star
      rfl
    · by_cases question : c = '?'
      · subst question
        rfl
      · simp [backslash, star, question]

theorem escapePattern_cons (c : Char) (text : List Char) :
    escapePattern (c :: text) = escapeChar c ++ escapePattern text := by
  rw [escapePattern_eq_flatMap, escapePattern_eq_flatMap, List.flatMap_cons]

/-- An escaped character stands for one character that is like it, whatever it is. -/
theorem fits_escapeChar_iff {c : Char} {pattern value : List Char} :
    Fits alike (escapeChar c ++ pattern) value ↔
      ∃ d behind, value = d :: behind ∧ alike c d ∧ Fits alike pattern behind := by
  rw [escapeChar]
  split
  · rename_i special
    constructor
    · intro fits
      cases fits with
      | escaped like rest => exact ⟨_, _, rfl, like, rest⟩
      | plain unspecial _ _ => exact absurd (Or.inl rfl) unspecial
    · rintro ⟨d, behind, rfl, like, rest⟩
      exact .escaped like rest
  · rename_i unspecial
    constructor
    · intro fits
      cases fits with
      | star _ _ => exact absurd (Or.inr (Or.inl rfl)) unspecial
      | question _ _ => exact absurd (Or.inr (Or.inr rfl)) unspecial
      | escaped _ _ => exact absurd (Or.inl rfl) unspecial
      | plain _ like rest => exact ⟨_, _, rfl, like, rest⟩
    · rintro ⟨d, behind, rfl, like, rest⟩
      exact .plain unspecial like rest

/-- An escaped text stands for a part that is like it, character by character. -/
theorem fits_escapePattern_iff {text pattern value : List Char} :
    Fits alike (escapePattern text ++ pattern) value ↔
      ∃ part behind, value = part ++ behind ∧ List.Forall₂ alike text part ∧
        Fits alike pattern behind := by
  induction text generalizing value with
  | nil =>
    constructor
    · exact fun fits => ⟨[], value, rfl, .nil, fits⟩
    · rintro ⟨part, behind, rfl, like, rest⟩
      cases like
      exact rest
  | cons c text inductionHypothesis =>
    rw [escapePattern_cons, List.append_assoc, fits_escapeChar_iff]
    constructor
    · rintro ⟨d, value, rfl, like, fits⟩
      obtain ⟨part, behind, rfl, others, rest⟩ := inductionHypothesis.mp fits
      exact ⟨d :: part, behind, rfl, .cons like others, rest⟩
    · rintro ⟨part, behind, rfl, like, rest⟩
      cases like with
      | cons like others =>
        exact ⟨_, _, rfl, like, inductionHypothesis.mpr ⟨_, _, rfl, others, rest⟩⟩

/-- A text is contained in a value, up to a likeness of characters. -/
def Contains (alike : Char → Char → Prop) (text value : List Char) : Prop :=
  ∃ part, part <:+: value ∧ List.Forall₂ alike text part

/-- Between two stars an escaped text fits the values that contain it. -/
theorem fits_between_stars_iff {text value : List Char} :
    Fits alike ('*' :: escapePattern text ++ ['*']) value ↔ Contains alike text value := by
  rw [List.cons_append, fits_star_iff]
  constructor
  · rintro ⟨before, _, rfl, fits⟩
    obtain ⟨part, behind, rfl, like, _⟩ := fits_escapePattern_iff.mp fits
    exact ⟨part, ⟨before, behind, List.append_assoc _ _ _⟩, like⟩
  · rintro ⟨part, ⟨before, behind, rfl⟩, like⟩
    exact ⟨before, part ++ behind, List.append_assoc _ _ _,
      fits_escapePattern_iff.mpr ⟨part, behind, rfl, like, fits_lastStar behind⟩⟩

end Escaping

/-! ### Queries -/

/-- A user as the index knows it. -/
structure IndexedUser where
  login : Option String
  name : Option String
  email : Option String

/-- What the index keeps of a user under a field, to be compared as a whole. -/
def IndexedUser.keyword? (user : IndexedUser) : (field : String) → Option String
  | "login" => user.login
  | "name.raw" => user.name
  | "email" => user.email
  | _ => none

/-- Some field of a user that texts are searched for in has a value with a property. -/
def IndexedUser.HasValue (user : IndexedUser) (property : String → Prop) : Prop :=
  ∃ value, (user.login = some value ∨ user.name = some value ∨ user.email = some value) ∧
    property value

/-- How characters are compared under the options of a pattern: as they are, unless the options say
that their case does not matter. -/
def comparison (alike : Char → Char → Prop) (options : Json) : Char → Char → Prop :=
  match options.member? "case_insensitive" with
  | some (.bool true) => alike
  | _ => Eq

/-- A query holds of a user, where `alike` is the likeness of characters whose case does not
matter. -/
inductive QueryHolds (alike : Char → Char → Prop) (user : IndexedUser) : (query : Json) → Prop where
  | term {query : Json} {field text : String}
      (isTerm : query.member? "term" = some (.obj [(field, .str text)]))
      (same : user.keyword? field = some text) : QueryHolds alike user query
  | wildcard {query options : Json} {field pattern value : String}
      (isWildcard : query.member? "wildcard" = some (.obj [(field, options)]))
      (isPattern : options.member? "value" = some (.str pattern))
      (kept : user.keyword? field = some value)
      (fits : Fits (comparison alike options) pattern.toList value.toList) :
      QueryHolds alike user query
  | should {query conditions clause : Json} {clauses : List Json}
      (isBool : query.member? "bool" = some conditions)
      (isShould : conditions.member? "should" = some (.arr clauses))
      (isOne : conditions.member? "minimum_should_match" = some (.int 1))
      (member : clause ∈ clauses) (holds : QueryHolds alike user clause) :
      QueryHolds alike user query

section Queries

variable {alike : Char → Char → Prop} {user : IndexedUser}

theorem holds_term_iff {field text : String} :
    QueryHolds alike user (FieldClause.term field text).toJson ↔
      user.keyword? field = some text := by
  rw [FieldClause.toJson]
  constructor
  · intro holds
    cases holds with
    | term isTerm same =>
      rw [Json.member?_self] at isTerm
      cases isTerm
      exact same
    | wildcard isWildcard _ _ _ =>
      rw [Json.member?_of_ne (by decide)] at isWildcard
      cases isWildcard
    | should isBool _ _ _ _ =>
      rw [Json.member?_of_ne (by decide)] at isBool
      cases isBool
  · exact .term (Json.member?_self _ _ _)

theorem holds_wildcard_iff {field pattern : String} :
    QueryHolds alike user (FieldClause.wildcard field pattern).toJson ↔
      ∃ value, user.keyword? field = some value ∧ Fits alike pattern.toList value.toList := by
  let options : Json := .obj [("value", .str pattern), ("case_insensitive", .bool true)]
  have isPattern : options.member? "value" = some (.str pattern) := Json.member?_self _ _ _
  have anyCase : comparison alike options = alike := by
    rw [comparison, Json.member?_of_ne (by decide), Json.member?_self]
  have isWildcard : (FieldClause.wildcard field pattern).toJson.member? "wildcard" =
      some (.obj [(field, options)]) := Json.member?_self _ _ _
  constructor
  · intro holds
    cases holds with
    | term isTerm _ =>
      rw [FieldClause.toJson, Json.member?_of_ne (by decide)] at isTerm
      cases isTerm
    | wildcard isWildcardToo isPatternToo kept fits =>
      cases isWildcard.symm.trans isWildcardToo
      cases isPattern.symm.trans isPatternToo
      exact ⟨_, kept, anyCase ▸ fits⟩
    | should isBool _ _ _ _ =>
      rw [FieldClause.toJson, Json.member?_of_ne (by decide)] at isBool
      cases isBool
  · rintro ⟨value, kept, fits⟩
    exact .wildcard isWildcard isPattern kept (anyCase.symm ▸ fits)

/-- The query of a text holds if one of its clauses does. -/
theorem holds_textQuery_iff {text : String} :
    QueryHolds alike user (textQuery text) ↔
      ∃ clause ∈ textClauses text, QueryHolds alike user clause.toJson := by
  let clauses := (textClauses text).map FieldClause.toJson
  let conditions : Json := .obj [("should", .arr clauses), ("minimum_should_match", .int 1)]
  have isBool : (textQuery text).member? "bool" = some conditions := Json.member?_self _ _ _
  have isShould : conditions.member? "should" = some (.arr clauses) := Json.member?_self _ _ _
  have isOne : conditions.member? "minimum_should_match" = some (.int 1) := by
    rw [Json.member?_of_ne (by decide), Json.member?_self]
  constructor
  · intro holds
    cases holds with
    | term isTerm _ =>
      rw [textQuery, Json.member?_of_ne (by decide)] at isTerm
      cases isTerm
    | wildcard isWildcard _ _ _ =>
      rw [textQuery, Json.member?_of_ne (by decide)] at isWildcard
      cases isWildcard
    | should isBoolToo isShouldToo _ member holds =>
      cases isBool.symm.trans isBoolToo
      cases isShould.symm.trans isShouldToo
      obtain ⟨clause, inClauses, rfl⟩ := List.mem_map.mp member
      exact ⟨clause, inClauses, holds⟩
  · rintro ⟨clause, inClauses, holds⟩
    exact .should isBool isShould isOne (List.mem_map_of_mem inClauses) holds

/-- Something holds of a field that texts are searched for in. -/
theorem exists_searchField_iff {property : String → Prop} :
    (∃ field ∈ searchFields, ∃ value, user.keyword? field = some value ∧ property value) ↔
      user.HasValue property := by
  simp only [searchFields, List.mem_cons, List.not_mem_nil, or_false,
    exists_eq_left, IndexedUser.keyword?, IndexedUser.HasValue, or_and_right, exists_or]

theorem holds_textQuery_of_short {text : String} (short : text.length ≤ 15) :
    QueryHolds alike user (textQuery text) ↔
      user.HasValue fun value => Contains alike text.toList value.toList := by
  have clauses : textClauses text = searchFields.map fun field =>
      .wildcard field (String.ofList ('*' :: escapePattern text.toList ++ ['*'])) :=
    if_pos short
  rw [holds_textQuery_iff, clauses, ← exists_searchField_iff]
  simp only [List.mem_map, exists_exists_and_eq_and, holds_wildcard_iff, String.toList_ofList,
    fits_between_stars_iff]

theorem holds_textQuery_of_long {text : String} (long : 15 < text.length) :
    QueryHolds alike user (textQuery text) ↔ user.HasValue fun value => value = text := by
  have clauses : textClauses text = searchFields.map fun field => .term field text :=
    if_neg (Nat.not_le.mpr long)
  rw [holds_textQuery_iff, clauses, ← exists_searchField_iff]
  simp only [List.mem_map, exists_exists_and_eq_and, holds_term_iff, exists_eq_right]

end Queries

/-! ### Likeness of characters -/

/-- A likeness that leaves the special characters apart. -/
structure IsLikeness (alike : Char → Char → Prop) : Prop where
  equivalence : Equivalence alike
  special : ∀ c d, c = '\\' ∨ c = '*' ∨ c = '?' → alike c d → d = c

/-- Special characters are only like themselves, others as before. -/
def literally (alike : Char → Char → Prop) (c d : Char) : Prop :=
  if c = '\\' ∨ c = '*' ∨ c = '?' then d = c else alike c d

theorem IsLikeness.literally_eq {alike : Char → Char → Prop} (likeness : IsLikeness alike) :
    literally alike = alike := by
  funext c d
  rw [literally]
  split
  · rename_i special
    refine propext ⟨?_, likeness.special c d special⟩
    rintro rfl
    exact likeness.equivalence.refl d
  · rfl

/-- What the query of a text finds. A text of at most fifteen characters finds the users with a
value that contains it up to the likeness of characters, and what is special in a pattern stands
in it for itself alone. A longer text finds the users with a value that is the text. -/
theorem textQuery_finds {alike : Char → Char → Prop} (likeness : IsLikeness alike) (text : String)
    (user : IndexedUser) :
    (text.length ≤ 15 → (QueryHolds alike user (textQuery text) ↔
        user.HasValue fun value => Contains alike text.toList value.toList)) ∧
    (text.length ≤ 15 → (QueryHolds alike user (textQuery text) ↔
        user.HasValue fun value => Contains (literally alike) text.toList value.toList)) ∧
    (15 < text.length →
      (QueryHolds alike user (textQuery text) ↔ user.HasValue fun value => value = text)) := by
  refine ⟨holds_textQuery_of_short, fun short => ?_, holds_textQuery_of_long⟩
  rw [likeness.literally_eq]
  exact holds_textQuery_of_short short

/-- Letters of the basic alphabet are alike in either case. -/
def sameLetter (c d : Char) : Prop :=
  c.toLower = d.toLower

theorem isLikeness_sameLetter : IsLikeness sameLetter := by
  refine ⟨⟨fun _ => rfl, Eq.symm, Eq.trans⟩, fun c d special like => ?_⟩
  -- No capital letter becomes a special character, so nothing but the character itself is like one.
  have unchanged : c.toLower = c := by
    rcases special with rfl | rfl | rfl <;> rfl
  rw [sameLetter, unchanged] at like
  by_cases capital : 'A'.val ≤ d.val ∧ d.val ≤ 'Z'.val
  · have lowered : d.toLower.val = d.val + ('a'.val - 'A'.val) :=
      congrArg Char.val (dif_pos capital)
    rw [← like] at lowered
    have codes := congrArg UInt32.toNat lowered
    rcases special with rfl | rfl | rfl
    all_goals
      simp [UInt32.le_iff_toNat_le] at codes capital
      omega
  · exact (like.trans (dif_neg capital)).symm

/-- A text with a star, a question mark and a backslash finds a name that contains just these. A
name for which they would only fit as signs of a pattern is not found. -/
theorem sample_finds :
    IsLikeness sameLetter ∧
      QueryHolds sameLetter ⟨some "ada", some "See *?\\ Code", none⟩ (textQuery "*?\\ c") ∧
      ¬ QueryHolds sameLetter ⟨some "ada", some "See all Code", none⟩ (textQuery "*?\\ c") ∧
      QueryHolds sameLetter ⟨some "ada@example.com*", none, none⟩
        (textQuery "ada@example.com*") := by
  refine ⟨isLikeness_sameLetter, ?_, ?_, ?_⟩
  · refine ((textQuery_finds isLikeness_sameLetter _ _).1 (by decide)).mpr ?_
    refine ⟨_, Or.inr (Or.inl rfl), "*?\\ C".toList, ⟨"See ".toList, "ode".toList, rfl⟩, ?_⟩
    repeat' constructor
  · intro holds
    obtain ⟨value, isValue, part, within, like⟩ :=
      ((textQuery_finds isLikeness_sameLetter _ _).2.1 (by decide)).mp holds
    have star : '*' ∈ part := by
      cases like with
      | cons first _ =>
        rw [literally, if_pos (by decide)] at first
        exact first ▸ List.mem_cons_self
    have inValue := within.subset star
    rcases isValue with isLogin | isName | isEmail
    · cases isLogin
      exact absurd inValue (by decide)
    · cases isName
      exact absurd inValue (by decide)
    · cases isEmail
  · exact ((textQuery_finds isLikeness_sameLetter _ _).2.2 (by decide)).mpr ⟨_, Or.inl rfl, rfl⟩

end UserDirectory
