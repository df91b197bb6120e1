/-!
# DoubleEntry.Script.Masking

Clock readings in a command's output are masked, so that an answer does not depend on when
the command ran. A date and time as the tables print it, `YYYY-MM-DD HH:MM:SS` in digits,
becomes those letters, which keeps the width of its column. A time in RFC 3339 form, a date
and a time of day joined by `T`, becomes `<TIME>`, and the mask runs on to the next double
quote, which in JSON output closes the time's string, or else to the end of the text.
-/

namespace DoubleEntry
namespace Script

/-- The rest of a text after a prefix of the given shape, where `#` stands for any digit
and every other character for itself. -/
def afterShape : List Char → List Char → Option (List Char)
  | [], cs => some cs
  | _ :: _, [] => none
  | s :: shape, c :: cs =>
    if (if s = '#' then c.isDigit else s = c) then afterShape shape cs else none

def tableShape : List Char := "####-##-## ##:##:##".toList

def stampShape : List Char := "####-##-##T##:##:##".toList

/-- Masks the clock readings of a text; `fuel` bounds the characters walked. -/
def maskWithin : Nat → List Char → List Char
  | 0, cs => cs
  | _ + 1, [] => []
  | fuel + 1, c :: cs =>
    match afterShape tableShape (c :: cs) with
    | some rest => "YYYY-MM-DD HH:MM:SS".toList ++ maskWithin fuel rest
    | none =>
      match afterShape stampShape (c :: cs) with
      | some rest => "<TIME>".toList ++ maskWithin fuel (rest.dropWhile (· ≠ '"'))
      | none => c :: maskWithin fuel cs

def maskClock (s : String) : String := String.ofList (maskWithin s.length s.toList)

example : maskClock "at 2024-01-01 10:20:30." = "at YYYY-MM-DD HH:MM:SS." := by decide
example : maskClock "\"t\": \"2026-11-13T10:00:00.5Z\"\n" = "\"t\": \"<TIME>\"\n" := by decide
example : maskClock "(1999-12-31T23:59:59Z, 0.00 USD)\n" = "(<TIME>" := by decide

end Script
end DoubleEntry
