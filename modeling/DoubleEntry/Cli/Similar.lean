import DoubleEntry.Binary64

/-!
# DoubleEntry.Cli.Similar

How alike two words are, by the Jaro measure, used to suggest a command or an option when
a typed one is unknown. Two characters match when they are equal and no further apart
than half the longer word's length, less one; each character matches at most once, left
to right. With `m` matches and `t` half the number of matched characters that stand in a
different order, the similarity of words of lengths `a` and `b` is
`(m/a + m/b + (m - t)/m) / 3`, and zero when nothing matches.

The similarity is computed in 64-bit floating point, each division and sum rounded, left
to right, and a word is suggested when it exceeds the floating-point value of `0.7`.
Rounding matters at the edge: `(1/2 + 3/5 + 1) / 3` is exactly `7/10` but comes out just
above it, so such a word is suggested.
-/

namespace DoubleEntry
namespace Cli

def suggests (x : Binary64.Fraction) : Bool := (Binary64.quotient 7 10).lt x

/-- Marks, left to right, the characters of `b` matched by `a`; the flags of `a` come first. -/
def jaroFlags (a b : List Char) : List Bool × List Bool :=
  let window := (Nat.max a.length b.length) / 2 - 1
  let step (acc : List Bool × List Bool × Nat) (c : Char) : List Bool × List Bool × Nat :=
    let (fa, fb, i) := acc
    let lo := i - window
    let hi := Nat.min b.length (i + window + 1)
    let pick := ((List.range hi).filter fun j => lo ≤ j && b[j]? == some c && fb[j]? == some false).head?
    match pick with
    | some j => (fa ++ [true], fb.set j true, i + 1)
    | none => (fa ++ [false], fb, i + 1)
  let (fa, fb, _) := a.foldl step ([], List.replicate b.length false, 0)
  (fa, fb)

/-- The Jaro similarity of two words, in floating point. -/
def jaro (x y : String) : Binary64.Fraction :=
  let a := x.toList
  let b := y.toList
  if a.isEmpty && b.isEmpty then ⟨1, 1⟩
  else if a.isEmpty || b.isEmpty then ⟨0, 1⟩
  else
    let (fa, fb) := jaroFlags a b
    let ma := (a.zip fa).filterMap fun (c, f) => if f then some c else none
    let mb := (b.zip fb).filterMap fun (c, f) => if f then some c else none
    let m := ma.length
    let t := ((ma.zip mb).filter fun (p, q) => p != q).length / 2
    if m = 0 then ⟨0, 1⟩
    else
      Binary64.divide (Binary64.sum (Binary64.sum (Binary64.quotient m a.length)
        (Binary64.quotient m b.length)) (Binary64.quotient (m - t) m)) 3

/-- Inserts into a list kept in increasing score, after any equal scores. -/
def insertByScore (x : Binary64.Fraction × String) :
    List (Binary64.Fraction × String) → List (Binary64.Fraction × String)
  | [] => [x]
  | y :: ys => if x.1.lt y.1 then x :: y :: ys else y :: insertByScore x ys

/-- The candidates similar enough to a typed word, least similar first; among equal
scores the earlier candidate comes first. -/
def similar (typed : String) (candidates : List String) : List String :=
  ((candidates.map fun c => (jaro typed c, c)).filter (suggests ·.1)).foldl
    (fun acc x => insertByScore x acc) [] |>.map (·.2)

example : suggests (jaro "lst" "list") = true ∧ suggests (jaro "bogus" "account") = false := by
  decide +kernel

example : suggests (jaro "chezzz" "check") = true := by decide +kernel

end Cli
end DoubleEntry
