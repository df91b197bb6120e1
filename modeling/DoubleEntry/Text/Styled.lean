/-!
# DoubleEntry.Text.Styled

Text for a terminal, made of pieces that each play a role: a section heading, a word to be
typed as it stands (a command or an option name), the marker of an error, a word that is
accepted or suggested, or a word that was refused. Where colour is wanted each role has its
style, written as select-graphic-rendition escape codes around the piece: headings bold and
underlined, words to type bold, the error marker bold red, accepted words green and refused
words yellow. Ordinary text, placeholders included, carries no codes.

`render` is the only place a styled text becomes a string. Main statements: `render_false`
(without colour a styled text is its pieces joined) and `render_append` (rendering goes
piece by piece).
-/

namespace DoubleEntry
namespace Text

/-- The role of a piece of styled text. -/
inductive Tone where
  | plain
  | heading
  | literal
  | error
  | valid
  | invalid
  deriving DecidableEq, Repr

namespace Tone

/-- The escape codes that start a tone; ordinary text has none. -/
def opening : Tone → String
  | .plain => ""
  | .heading => "\x1b[1m\x1b[4m"
  | .literal => "\x1b[1m"
  | .error => "\x1b[1m\x1b[31m"
  | .valid => "\x1b[32m"
  | .invalid => "\x1b[33m"

/-- The escape code that ends a tone: a reset after every tone but the ordinary one. -/
def closing : Tone → String
  | .plain => ""
  | _ => "\x1b[0m"

end Tone

/-- A piece of text in one tone. -/
structure Piece where
  tone : Tone
  text : String
  deriving DecidableEq, Repr

abbrev Styled := List Piece

namespace Styled

def ofTone (t : Tone) (s : String) : Styled := [⟨t, s⟩]

def plain (s : String) : Styled := ofTone .plain s

def literal (s : String) : Styled := ofTone .literal s

def quoted (t : Tone) (s : String) : Styled := plain "'" ++ ofTone t s ++ plain "'"

def content (s : Styled) : String := String.join (s.map Piece.text)

/-- The text as it is written out: with `colour`, each piece between the codes of its tone;
without, the pieces joined. -/
def render (colour : Bool) (s : Styled) : String :=
  String.join (s.map fun p => if colour then p.tone.opening ++ p.text ++ p.tone.closing else p.text)

theorem render_false (s : Styled) : s.render false = s.content := by
  simp [render, content]

theorem render_append (colour : Bool) (s t : Styled) :
    (s ++ t).render colour = s.render colour ++ t.render colour := by
  simp [render, String.join_append]

theorem content_plain (s : String) : (plain s).content = s := by
  simp [plain, ofTone, content]

example : (quoted .invalid "x").render true = "'\x1b[33mx\x1b[0m'" := by decide
example : (plain "a" ++ literal "b").render false = "ab" := by decide

end Styled

end Text
end DoubleEntry
