/-
This file proves that a whole number that is read from a parameter can be written
again. No more digits are read than may be written, and so many digits stand for a
number below the bound. It is only by reckoning with the numbers of parameters that
one can get beyond it.
-/

import Mathlib.Algebra.Group.Nat.Defs
import UserDirectory.Number.Reading

namespace UserDirectory.Number

open Text

/-! ### Digits -/

theorem asciiDigit?_lt {c : Char} {digit : Nat} (read : asciiDigit? c = some digit) :
    digit < 10 := by
  unfold asciiDigit? at read
  split at read
  · rename_i bounds
    rw [← Option.some.inj read]
    have below : c.toNat ≤ '9'.toNat := bounds.2
    exact Nat.sub_lt_left_of_lt_add (by exact bounds.1) (Nat.lt_succ_of_le below)
  · cases read

/-- A run of digits writes a number below the power of ten that has as many zeros. -/
theorem ofDigits_lt {digits : List Nat} (each : ∀ digit ∈ digits, digit < 10) :
    ofDigits digits < 10 ^ digits.length := by
  have below (value : Nat) : digits.foldl (fun value digit => 10 * value + digit) value <
      (value + 1) * 10 ^ digits.length := by
    induction digits generalizing value with
    | nil => simp
    | cons digit rest inductionHypothesis =>
      rw [List.forall_mem_cons] at each
      have small := each.1
      refine Nat.lt_of_lt_of_le (inductionHypothesis each.2 _) ?_
      rw [List.length_cons, Nat.pow_succ, Nat.mul_comm (10 ^ rest.length) 10, ← Nat.mul_assoc]
      exact Nat.mul_le_mul_right _ (show 10 * value + digit + 1 ≤ (value + 1) * 10 by omega)
  have fromZero := below 0
  rwa [Nat.zero_add, Nat.one_mul] at fromZero

/-! ### Whole numbers -/

/-- A number below a power of ten with not too many zeros can be written. -/
theorem isWritable_of_lt {number : Int} {digits : Nat} (few : digits ≤ maxIntegerDigits)
    (below : number.natAbs < 10 ^ digits) : isWritable number = true := by
  -- The bound stays a variable: its power of ten is not for anybody to reckon.
  have bounded (limit : Nat) (fits : digits ≤ limit) : number.natAbs < Nat.pow 10 limit :=
    Nat.lt_of_lt_of_le below (Nat.pow_le_pow_right (by decide) fits)
  rw [isWritable, decide_eq_true_eq]
  exact bounded _ few

/-- A number of not too many digits can be written, whatever its sign. -/
theorem isWritable_of_digits (negative : Bool) {digits : List Char}
    (few : digits.length ≤ maxIntegerDigits) :
    isWritable (signed negative (ofDigits (digits.filterMap asciiDigit?))) = true := by
  have magnitude : (signed negative (ofDigits (digits.filterMap asciiDigit?))).natAbs =
      ofDigits (digits.filterMap asciiDigit?) := by
    cases negative with
    | true => exact Int.natAbs_neg _
    | false => rfl
  refine isWritable_of_lt (Nat.le_trans (List.length_filterMap_le asciiDigit? digits) few) ?_
  rw [magnitude]
  refine ofDigits_lt fun digit member => ?_
  obtain ⟨c, _, read⟩ := List.mem_filterMap.mp member
  exact asciiDigit?_lt read

theorem isWritable_of_plainInteger {text : List Char} {number : Int}
    (read : plainInteger text = .ok number) : isWritable number = true := by
  revert read
  fun_cases plainInteger text with
  | case1 | case3 | case4 => exact nofun
  | case2 =>
    intro read
    rw [← Except.ok.inj read]
    exact isWritable_of_digits _ (show ['0'].length ≤ maxIntegerDigits by decide)
  | case5 _ _ _ _ _ _ _ tooMany =>
    rw [if_pos tooMany]
    exact nofun
  | case6 _ _ _ _ _ _ _ few empty =>
    rw [if_neg few, if_pos empty]
    intro read
    rw [← Except.ok.inj read]
    exact isWritable_of_digits _ (Nat.not_lt.mp few)
  | case7 _ _ _ _ _ _ _ few junk =>
    rw [if_neg few, if_neg junk]
    exact nofun

/-- A whole number that is read from a parameter can be written. -/
theorem isWritable_of_parameterInteger {text : String} {number : Int}
    (read : parameterInteger text = .ok number) : isWritable number = true := by
  unfold parameterInteger at read
  split at read
  · unfold roughInteger at read
    split at read
    · rename_i plain found
      obtain ⟨form, _, spelled⟩ := Option.map_eq_some_iff.mp found
      rw [← Except.ok.inj read]
      exact isWritable_of_plainInteger spelled
    · cases read
  · exact isWritable_of_plainInteger read

end UserDirectory.Number
