/-!
# DoubleEntry.Text.Alphanumeric

Letters and numbers in the Unicode sense: characters with the `Alphabetic` property or of a
numeric category (decimal digits, letter numbers such as `ⅷ`, and other numbers such as `²`
or `½`). Marks, punctuation, symbols, separators, format and control characters are not.

Outside ASCII the class is given by the blocks where the two kinds meet: the Latin-1
supplement, spacing modifiers and combining marks, general punctuation, superscripts and
subscripts, currency and letterlike symbols, number forms, the symbol and pictograph blocks,
CJK punctuation and strokes, enclosed numbers and letters, the presentation and half-width
forms, variation selectors, tags and the private use areas. A character of any other block
counts as a letter, as almost every character of the script blocks is one.

Main statement: `isAlphanumeric`, with examples at the end of the module.
-/

namespace DoubleEntry
namespace Text

def within (n lo hi : Nat) : Bool := lo ≤ n && n ≤ hi

/-- Whether a code point beyond ASCII is a letter or a number. -/
def alphanumericBeyondAscii (n : Nat) : Bool :=
  if n < 0xC0 then
    n == 0xAA || n == 0xB2 || n == 0xB3 || n == 0xB5 || n == 0xB9 || n == 0xBA ||
      within n 0xBC 0xBE
  else if n == 0xD7 || n == 0xF7 then false
  else if within n 0x2C2 0x2FF then
    within n 0x2C6 0x2D1 || within n 0x2E0 0x2E4 || n == 0x2EC || n == 0x2EE
  else if within n 0x300 0x36F then n == 0x345
  else if n == 0x375 || n == 0x37E || n == 0x384 || n == 0x385 || n == 0x387 || n == 0x3F6 then
    false
  else if within n 0x482 0x489 then false
  else if within n 0x55A 0x55F || n == 0x589 || n == 0x58A || within n 0x58D 0x58F then false
  else if within n 0x600 0x60F || n == 0x61B || within n 0x61D 0x61F || within n 0x66A 0x66D ||
      n == 0x6D4 || n == 0x6DD || n == 0x6DE || n == 0x6E9 || n == 0x6FD || n == 0x6FE then false
  else if within n 0x2000 0x206F then false
  else if within n 0x2070 0x209F then
    !(within n 0x2072 0x2073 || within n 0x207A 0x207E || within n 0x208A 0x208F ||
      within n 0x209D 0x209F)
  else if within n 0x20A0 0x20FF then false
  else if within n 0x2100 0x214F then
    n == 0x2102 || n == 0x2107 || within n 0x210A 0x2113 || n == 0x2115 ||
      within n 0x2119 0x211D || n == 0x2124 || n == 0x2126 || n == 0x2128 ||
      within n 0x212A 0x212D || within n 0x212F 0x2139 || within n 0x213C 0x213F ||
      within n 0x2145 0x2149 || n == 0x214E
  else if within n 0x2150 0x218F then n ≤ 0x2189
  else if within n 0x2190 0x245F then false
  else if within n 0x2460 0x24FF then !within n 0x249C 0x24B5
  else if within n 0x2500 0x2BFF then within n 0x2776 0x2793
  else if within n 0x2CE5 0x2CEA || within n 0x2CF9 0x2CFC || n == 0x2CFE || n == 0x2CFF then
    false
  else if within n 0x2E00 0x2E7F then n == 0x2E2F
  else if within n 0x2E80 0x2FFF then false
  else if within n 0x3000 0x303F then
    within n 0x3005 0x3007 || within n 0x3021 0x3029 || within n 0x3031 0x3035 ||
      within n 0x3038 0x303C
  else if within n 0x3099 0x309C || n == 0x30A0 || n == 0x30FB then false
  else if within n 0x3190 0x319F then within n 0x3192 0x3195
  else if within n 0x31C0 0x31EF then false
  else if within n 0x3200 0x33FF then
    within n 0x3220 0x3229 || within n 0x3248 0x324F || within n 0x3251 0x325F ||
      within n 0x3280 0x3289 || within n 0x32B1 0x32BF
  else if within n 0x4DC0 0x4DFF then false
  else if within n 0xA490 0xA4C6 || n == 0xA4FE || n == 0xA4FF then false
  else if within n 0xA700 0xA716 || n == 0xA720 || n == 0xA721 || n == 0xA789 || n == 0xA78A then
    false
  else if within n 0xD800 0xF8FF then false
  else if n == 0xFB29 || n == 0xFD3E || n == 0xFD3F || within n 0xFDFC 0xFDFF then false
  else if within n 0xFE00 0xFE6F then false
  else if within n 0xFEFF 0xFF0F || within n 0xFF1A 0xFF20 || within n 0xFF3B 0xFF40 ||
      within n 0xFF5B 0xFF65 || within n 0xFFE0 0xFFFF then false
  else if within n 0x1F000 0x1FAFF then
    within n 0x1F100 0x1F10C || within n 0x1F130 0x1F149 || within n 0x1F150 0x1F169 ||
      within n 0x1F170 0x1F189
  else if within n 0x1FB00 0x1FBEF then false
  else if within n 0xE0000 0xE0FFF then false
  else n < 0xF0000

def isAlphanumeric (c : Char) : Bool :=
  if c.toNat < 128 then c.isAlphanum else alphanumericBeyondAscii c.toNat

example : isAlphanumeric 'é' ∧ isAlphanumeric '²' ∧ isAlphanumeric '½' ∧ isAlphanumeric 'ⅷ' ∧
    isAlphanumeric 'ǅ' := by decide
example : !isAlphanumeric '‿' ∧ !isAlphanumeric '℃' ∧ !isAlphanumeric '§' ∧
    !isAlphanumeric '́' ∧ !isAlphanumeric '😀' := by decide

end Text
end DoubleEntry
