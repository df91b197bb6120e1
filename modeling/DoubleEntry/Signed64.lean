/-!
# DoubleEntry.Signed64

Amounts and ids of the ledger are signed 64-bit integers. They are carried as `Int`, and
every operation that can leave the range is a function of this module that says what
happens there: `add?` and `neg?` refuse (the caller decides whether that is an error or an
abort), `addSat` clamps to the nearest end.

Main statements: `add?_eq_some_iff` (the checked sum is the exact sum exactly when that
sum fits) and `addSat_of_fits` (clamping changes nothing when the exact sum fits).
-/

namespace DoubleEntry
namespace Signed64

def min : Int := -9223372036854775808

def max : Int := 9223372036854775807

def Fits (n : Int) : Prop := min ≤ n ∧ n ≤ max

instance (n : Int) : Decidable (Fits n) := inferInstanceAs (Decidable (_ ∧ _))

def add? (a b : Int) : Option Int :=
  if Fits (a + b) then some (a + b) else none

/-- The exact negation, when it fits; only `min` has none. -/
def neg? (a : Int) : Option Int :=
  if Fits (-a) then some (-a) else none

/-- The exact sum moved to the nearest end of the range when it does not fit. -/
def addSat (a b : Int) : Int :=
  if a + b < min then min else if max < a + b then max else a + b

theorem add?_eq_some_iff {a b c : Int} : add? a b = some c ↔ Fits (a + b) ∧ a + b = c := by
  unfold add?
  by_cases h : Fits (a + b) <;> simp [h]

theorem add?_eq_none_iff {a b : Int} : add? a b = none ↔ ¬ Fits (a + b) := by
  unfold add?
  by_cases h : Fits (a + b) <;> simp [h]

theorem neg?_eq_some_iff {a c : Int} : neg? a = some c ↔ Fits (-a) ∧ -a = c := by
  unfold neg?
  by_cases h : Fits (-a) <;> simp [h]

theorem addSat_of_fits {a b : Int} (h : Fits (a + b)) : addSat a b = a + b := by
  unfold addSat
  unfold Fits at h
  split
  · omega
  · split
    · omega
    · rfl

theorem fits_addSat (a b : Int) : Fits (addSat a b) := by
  unfold addSat Fits min max
  split
  · omega
  · split <;> omega

end Signed64
end DoubleEntry
