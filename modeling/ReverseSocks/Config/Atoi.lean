import Mathlib.Data.Nat.Digits
import Mathlib.Tactic.IntervalCases
import ReverseSocks.Basic

/-! # `atoi`

    Both command-line parsers read their numbers with the C runtime's `atoi`. The program is
    built for Windows, whose `atoi` parses as `strtol` does in base 10 and saturates: it skips
    the leading white space of `isspace`, takes one optional sign, reads the digits that follow
    and stops at the first other character, and a value out of the range of `int` comes back as
    `INT_MAX` or `INT_MIN`. A text without digits reads as 0.

    The parsers are only ever given a number in the text Lean prints for it, so the one fact the
    rest of the model needs is the round trip: `atoi` reads back every `int` from its decimal
    text (`atoi_toString`). A decimal text of a value above `INT_MAX` reads as `INT_MAX`
    (`atoi_toString_of_gt`).
-/

namespace ReverseSocks

/-- `INT_MAX` of a 32-bit `int`. -/
def INT_MAX : Int := 2 ^ 31 - 1

/-- `INT_MIN` of a 32-bit `int`. -/
def INT_MIN : Int := -2 ^ 31

/-- A value in the range of a 32-bit `int`. -/
def IsInt (n : Int) : Prop := INT_MIN ≤ n ∧ n ≤ INT_MAX

instance (n : Int) : Decidable (IsInt n) := inferInstanceAs (Decidable (_ ∧ _))

/-- `isspace` in the C locale: blank, tab, newline, vertical tab, form feed, carriage
    return. -/
def isSpace (c : Char) : Bool := c = ' ' || ('\t' ≤ c && c ≤ '\r')

/-- The run of decimal digits at the front of a text, read onto `acc`. -/
def readDigits (acc : Nat) : List Char → Nat
  | [] => acc
  | c :: cs => if c.isDigit then readDigits (acc * 10 + (c.toNat - '0'.toNat)) cs else acc

/-- `atoi` on the characters of a string: white space, a sign, digits, saturated to `int`. -/
def atoiChars : List Char → Int
  | [] => 0
  | c :: cs =>
    if isSpace c then atoiChars cs
    else if c = '-' then max (-(readDigits 0 cs : Int)) INT_MIN
    else if c = '+' then min (readDigits 0 cs : Int) INT_MAX
    else min (readDigits 0 (c :: cs) : Int) INT_MAX

/-- `atoi`. -/
def atoi (s : String) : Int := atoiChars s.toList

example : atoi " \t-42ms" = -42 := by decide
example : atoi "99999999999" = INT_MAX := by decide

/-! ## The result is an `int` -/

theorem atoiChars_mem (cs : List Char) : IsInt (atoiChars cs) := by
  induction cs with
  | nil => decide
  | cons c cs ih =>
    have h₁ : (0 : Int) ≤ readDigits 0 cs := Int.ofNat_nonneg _
    have h₂ : (0 : Int) ≤ readDigits 0 (c :: cs) := Int.ofNat_nonneg _
    simp only [atoiChars]
    split_ifs <;> simp only [IsInt, INT_MIN, INT_MAX] at * <;> omega

theorem atoi_mem (s : String) : IsInt (atoi s) := atoiChars_mem _

/-! ## Reading back a decimal text

    `Nat.toDigits` writes the last digit first onto the digits already written; reading those
    digits onto an accumulator multiplies it by a power of ten and adds the number. -/

theorem readDigits_digitChar (acc d : Nat) (cs : List Char) (h : d < 10) :
    readDigits acc (Nat.digitChar d :: cs) = readDigits (acc * 10 + d) cs := by
  interval_cases d <;> rfl

theorem readDigits_toDigitsCore (fuel n acc : Nat) (cs : List Char) (h : n < fuel) :
    ∃ k, readDigits acc (Nat.toDigitsCore 10 fuel n cs) = readDigits (acc * 10 ^ k + n) cs := by
  induction fuel generalizing n acc cs with
  | zero => omega
  | succ fuel ih =>
    simp only [Nat.toDigitsCore]
    split
    · exact ⟨1, by rw [readDigits_digitChar _ _ _ (by omega)]; congr 1; omega⟩
    · obtain ⟨k, hk⟩ := ih (n / 10) acc _ (by omega)
      refine ⟨k + 1, ?_⟩
      rw [hk, readDigits_digitChar _ _ _ (Nat.mod_lt _ (by omega))]
      congr 1
      rw [pow_succ, ← Nat.mul_assoc]
      omega

theorem readDigits_toDigits (n : Nat) : readDigits 0 (Nat.toDigits 10 n) = n := by
  obtain ⟨k, hk⟩ := readDigits_toDigitsCore (n + 1) n 0 [] (by omega)
  simpa [readDigits] using hk

/-- A decimal text starts with a digit. -/
theorem toDigitsCore_head (fuel n : Nat) (cs : List Char) (h : n < fuel) :
    ∃ d ds, Nat.toDigitsCore 10 fuel n cs = Nat.digitChar d :: ds ∧ d < 10 := by
  induction fuel generalizing n cs with
  | zero => omega
  | succ fuel ih =>
    simp only [Nat.toDigitsCore]
    split
    · exact ⟨_, _, rfl, Nat.mod_lt _ (by omega)⟩
    · exact ih _ _ (by omega)

theorem atoiChars_digitChar (d : Nat) (cs : List Char) (h : d < 10) :
    atoiChars (Nat.digitChar d :: cs) = min (readDigits 0 (Nat.digitChar d :: cs) : Int) INT_MAX := by
  interval_cases d <;> rfl

/-- `atoi` of the decimal text of a natural number, saturated at `INT_MAX`. -/
theorem atoi_toString_nat (n : Nat) : atoi (toString n) = min (n : Int) INT_MAX := by
  obtain ⟨d, ds, hd, h⟩ := toDigitsCore_head (n + 1) n [] (by omega)
  show atoiChars (Nat.toDigits 10 n) = _
  rw [Nat.toDigits, hd, atoiChars_digitChar d ds h, ← hd, ← Nat.toDigits, readDigits_toDigits]

/-- `atoi` reads back every `int` from the text Lean prints for it. -/
theorem atoi_toString (n : Int) (h : IsInt n) : atoi (toString n) = n := by
  obtain ⟨h₁, h₂⟩ := h
  cases n with
  | ofNat m =>
    show atoi (toString m) = _
    rw [atoi_toString_nat, Int.ofNat_eq_coe] at *; omega
  | negSucc m =>
    show atoiChars ('-' :: Nat.toDigits 10 (m + 1)) = _
    have hs : isSpace '-' = false := rfl
    simp only [atoiChars, hs, Bool.false_eq_true, if_false, if_true, readDigits_toDigits]
    rw [Int.negSucc_eq] at *
    omega

/-- A decimal text of a value above `INT_MAX` reads as `INT_MAX`. -/
theorem atoi_toString_of_gt (n : Nat) (h : INT_MAX < n) : atoi (toString n) = INT_MAX := by
  rw [atoi_toString_nat]; omega

end ReverseSocks
