/-!
# DoubleEntry.Binary64

Positive numbers as 64-bit binary floating point holds them: a number is kept as the
nearest value with 53 significant bits, and a number halfway between two such values goes
to the one whose last bit is zero. One floating-point operation is the exact result,
rounded so; `sum` and `quotient` compute that exactly on fractions of naturals.

Only positive normal values are needed here: there is no sign, zero, subnormal or
overflow to care for.
-/

namespace DoubleEntry
namespace Binary64

/-- A fraction `num / den` of naturals. -/
structure Fraction where
  num : Nat
  den : Nat
  deriving DecidableEq, Repr

namespace Fraction

def lt (x y : Fraction) : Bool := x.num * y.den < y.num * x.den

def same (x y : Fraction) : Bool := x.num * y.den == y.num * x.den

def add (x y : Fraction) : Fraction := ⟨x.num * y.den + y.num * x.den, x.den * y.den⟩

def scale (x : Fraction) (k : Int) : Fraction :=
  if 0 ≤ k then ⟨x.num * Nat.pow 2 k.toNat, x.den⟩ else ⟨x.num, x.den * Nat.pow 2 (-k).toNat⟩

end Fraction

/-- The number of binary digits of `n`; `fuel` bounds the count. -/
def bitsWithin : Nat → Nat → Nat
  | 0, _ => 0
  | fuel + 1, n => if n = 0 then 0 else 1 + bitsWithin fuel (n / 2)

def bits (n : Nat) : Nat := bitsWithin n n

/-- The exponent `e` with `2^e ≤ x < 2^(e+1)`, for a positive fraction `x`: of the two
candidates that the digit counts of numerator and denominator leave, the larger one when
`x` reaches it. -/
def exponent (x : Fraction) : Int :=
  let d : Int := (bits x.num : Int) - bits x.den
  if x.den * Nat.pow 2 (bits x.num) ≤ x.num * Nat.pow 2 (bits x.den) then d else d - 1

/-- The whole number nearest to `n / d`, a half going to the even one. -/
def nearestEven (n d : Nat) : Nat :=
  let q := n / d
  let r := n % d
  if d < 2 * r || (2 * r == d && q % 2 == 1) then q + 1 else q

def precision : Nat := 53

/-- The nearest value with `precision` significant bits: the fraction is scaled into
`[2^52, 2^53)`, rounded to a whole number, and scaled back. -/
def round (x : Fraction) : Fraction :=
  if x.num = 0 || x.den = 0 then x
  else
    let k := exponent x - (precision - 1 : Nat)
    let s := x.scale (-k)
    Fraction.scale ⟨nearestEven s.num s.den, 1⟩ k

def quotient (n d : Nat) : Fraction := round ⟨n, d⟩

def sum (x y : Fraction) : Fraction := round (x.add y)

def divide (x : Fraction) (k : Nat) : Fraction := round ⟨x.num, x.den * k⟩

example : (quotient 1 2).same ⟨1, 2⟩ ∧ (quotient 3 1).same ⟨3, 1⟩ := by decide +kernel

/-- A tenth is not a binary fraction: it is held a little above its value, and seven
tenths a little below. -/
example : (⟨1, 10⟩ : Fraction).lt (quotient 1 10) ∧ (quotient 7 10).lt ⟨7, 10⟩ := by
  decide +kernel

/-- `(1/2 + 3/5 + 1) / 3` rounds to a value above seven tenths: the rounding of `3/5`
and of the sums lands just past it. -/
example :
    (quotient 7 10).lt (divide (sum (sum (quotient 3 6) (quotient 3 5)) (quotient 3 3)) 3) := by
  decide +kernel

end Binary64
end DoubleEntry
