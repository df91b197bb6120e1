/-!
# DoubleEntry.Cli.Numeral

Decimal integers typed on the command line. A numeral is an optional sign and decimal
digits; `+` is always allowed, `-` only for a signed type. The digits are read left to
right, and the first fault found decides the refusal: a character that is not a digit, or
a prefix whose value already leaves the type's range. A lone sign is not a digit, and the
empty text has its own refusal.

A 32-bit count is read as a signed 64-bit integer first and then checked against its
range, so a negative count is refused for its range, not for its sign.
-/

namespace DoubleEntry
namespace Cli

/-- Why a numeral was refused. -/
inductive NumeralError where
  | empty
  | invalidDigit
  | tooLarge
  | tooSmall
  deriving DecidableEq, Repr

/-- The sentence reporting a refused numeral. -/
def NumeralError.message : NumeralError → String
  | .empty => "cannot parse integer from empty string"
  | .invalidDigit => "invalid digit found in string"
  | .tooLarge => "number too large to fit in target type"
  | .tooSmall => "number too small to fit in target type"

/-- Accumulates digits onto `acc`, moving away from zero in the direction `neg` says, and
refuses at the first non-digit or the first value outside `[lo, hi]`. -/
def accumulate (lo hi : Int) (neg : Bool) : Int → List Char → Except NumeralError Int
  | acc, [] => .ok acc
  | acc, c :: cs =>
    if !c.isDigit then .error .invalidDigit
    else
      let d : Int := (c.toNat - '0'.toNat : Nat)
      let next := if neg then acc * 10 - d else acc * 10 + d
      if neg && next < lo then .error .tooSmall
      else if !neg && hi < next then .error .tooLarge
      else accumulate lo hi neg next cs

/-- Reads a numeral of a type whose values are `[lo, hi]`; `signed` says whether a
leading `-` is allowed. -/
def readBounded (lo hi : Int) (signed : Bool) (s : String) : Except NumeralError Int :=
  match s.toList with
  | [] => .error .empty
  | ['+'] | ['-'] => .error .invalidDigit
  | '+' :: ds => accumulate lo hi false 0 ds
  | '-' :: ds => if signed then accumulate lo hi true 0 ds else .error .invalidDigit
  | ds => accumulate lo hi false 0 ds

def readSigned64 (s : String) : Except NumeralError Int :=
  readBounded (-9223372036854775808) 9223372036854775807 true s

def readUnsigned64 (s : String) : Except NumeralError Int :=
  readBounded 0 18446744073709551615 false s

def count32Max : Int := 4294967295

example : readSigned64 "-12" = .ok (-12) ∧ readSigned64 "x" = .error .invalidDigit ∧
    readSigned64 "-" = .error .invalidDigit ∧ readSigned64 "" = .error .empty ∧
    readUnsigned64 "-1" = .error .invalidDigit ∧
    readSigned64 "9223372036854775808" = .error .tooLarge ∧
    readSigned64 "-9223372036854775808" = .ok (-9223372036854775808) := by
  refine ⟨?_, ?_, ?_, ?_, ?_, ?_, ?_⟩ <;> rfl

end Cli
end DoubleEntry
