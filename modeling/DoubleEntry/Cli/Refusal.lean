import DoubleEntry.Cli.Usage

/-!
# DoubleEntry.Cli.Refusal

What the command line answers when it does not run a command: the help or the version it
was asked for, or the reason it was not understood. Help and version go to standard output
and end the program successfully; every other refusal goes to standard error with exit
status 2.

A refusal is written as `error: ` and a headline, then tips (a similar name, or how to
pass a value that looks like an option), then a usage line for the mistakes that need one,
and last a pointer to `--help`, which the help command, having no `--help`, leaves out.

The text is styled: the refused word stands out as refused, names that would be accepted
as accepted, and option names as words to type. It is coloured only when colour is forced
(`CLICOLOR_FORCE` set and not empty) and not turned off (`NO_COLOR` set and not empty), as
the output is never taken for a terminal.
-/

namespace DoubleEntry
namespace Cli

open Text (Styled Tone)

/-- A tip shown under an unknown argument. -/
inductive ArgumentTip where
  | similar (option : String)
  | inCommand (command option : String)
  /-- The word could be meant as a value, given after `--`. -/
  | asValue
  /-- The word names a command, but follows `--`. -/
  | afterDoubleDash
  deriving DecidableEq, Repr

/-- Why the command line was not run as a command. -/
inductive Refusal where
  | help (c : Cmd)
  | version
  | helpOfHelp (c : Cmd)
  /-- A word after the help command, which takes no command. -/
  | unknownTopic (c : Cmd) (word : String)
  /-- A command that needs a further command was given nothing at all. -/
  | helpOnMissing (c : Cmd)
  /-- A command that needs a further command was given none. -/
  | missingCommand (c : Cmd)
  | unknownCommand (c : Cmd) (word : String) (similar : List String)
  | unknownArgument (c : Cmd) (word : String) (tip : Option ArgumentTip) (usage : Styled)
  | missingValue (a : ArgSpec)
  | badValue (value : String) (a : ArgSpec) (reason : String)
  | missingArguments (missing : List ArgSpec) (usage : Styled)
  | repeated (a : ArgSpec) (c : Cmd)
  | flagValue (value : String) (a : ArgSpec) (usage : Styled)
  deriving DecidableEq, Repr

namespace Refusal

/-- The name of the kind of refusal, as callers see it. -/
def kindName : Refusal → String
  | .help _ => "DisplayHelp"
  | .version => "DisplayVersion"
  | .helpOfHelp _ => "DisplayHelp"
  | .unknownTopic _ _ => "InvalidSubcommand"
  | .helpOnMissing _ => "DisplayHelpOnMissingArgumentOrSubcommand"
  | .missingCommand _ => "MissingSubcommand"
  | .unknownCommand _ _ _ => "InvalidSubcommand"
  | .unknownArgument _ _ _ _ => "UnknownArgument"
  | .missingValue _ => "InvalidValue"
  | .badValue _ _ _ => "ValueValidation"
  | .missingArguments _ _ => "MissingRequiredArgument"
  | .repeated _ _ => "ArgumentConflict"
  | .flagValue _ _ _ => "TooManyValues"

/-- Whether the text goes to standard output: only asked-for help and version do. -/
def toStdout : Refusal → Bool
  | .help _ | .version | .helpOfHelp _ => true
  | _ => false

def exitCode (r : Refusal) : Nat := if r.toStdout then 0 else 2

def errorHead : Styled := Styled.ofTone .error "error:" ++ Styled.plain " "

def tipHead : Styled := Styled.plain "\n\n  " ++ Styled.ofTone .valid "tip:" ++ Styled.plain " "

def quotedList (t : Tone) (xs : List String) : Styled :=
  (Styled.plain ", ").intercalate (xs.map (Styled.quoted t))

/-- The tip under an unknown argument. -/
def tipText (word : String) : ArgumentTip → Styled
  | .similar o => tipHead ++ Styled.plain "a similar argument exists: " ++ Styled.quoted .valid o
  | .inCommand c o => tipHead ++ Styled.quoted .valid (c ++ " " ++ o) ++ Styled.plain " exists"
  | .asValue =>
    tipHead ++ Styled.plain "to pass " ++ Styled.quoted .invalid word ++
      Styled.plain " as a value, use " ++ Styled.quoted .valid ("-- " ++ word)
  | .afterDoubleDash =>
    tipHead ++ Styled.plain "subcommand " ++ Styled.quoted .valid word ++
      Styled.plain " exists; to use it, remove the " ++ Styled.quoted .invalid "--" ++
      Styled.plain " before it"

def usagePart (u : Styled) : Styled := Styled.plain "\n\n" ++ usageLine u

def tryHelp : Styled :=
  Styled.plain "\n\nFor more information, try " ++ Styled.quoted .literal "--help" ++
    Styled.plain ".\n"

/-- The styled text of a refusal; `env` gives the variables that help shows. -/
def message (env : List (String × String)) : Refusal → Styled
  | .help c => helpText c env
  | .version => Styled.plain (versionLine ++ "\n")
  | .helpOnMissing c => helpText c env
  | .helpOfHelp c => helpCommandText c
  | .unknownTopic c word =>
    errorHead ++ Styled.plain "unrecognized subcommand " ++ Styled.quoted .invalid word ++
      usagePart (helpCommandUsage c) ++ Styled.plain "\n"
  | .missingCommand c =>
    errorHead ++ Styled.quoted .invalid c.path ++
      Styled.plain " requires a subcommand but one was not provided\n  [subcommands: " ++
      (Styled.plain ", ").intercalate ((c.subs.map Cmd.name ++ ["help"]).map (Styled.ofTone .valid)) ++
      Styled.plain "]" ++ usagePart (usage c) ++ tryHelp
  | .unknownCommand c word similar =>
    errorHead ++ Styled.plain "unrecognized subcommand " ++ Styled.quoted .invalid word ++
      (match similar with
       | [] => []
       | [s] => tipHead ++ Styled.plain "a similar subcommand exists: " ++ Styled.quoted .valid s
       | ss => tipHead ++ Styled.plain "some similar subcommands exist: " ++ quotedList .valid ss) ++
      usagePart (usage c) ++ tryHelp
  | .unknownArgument _ word tip u =>
    errorHead ++ Styled.plain "unexpected argument " ++ Styled.quoted .invalid word ++
      Styled.plain " found" ++ ((tip.map (tipText word)).getD []) ++ usagePart u ++ tryHelp
  | .missingValue a =>
    errorHead ++ Styled.plain "a value is required for " ++ Styled.quoted .invalid a.display ++
      Styled.plain " but none was supplied" ++ tryHelp
  | .badValue v a reason =>
    errorHead ++ Styled.plain "invalid value " ++ Styled.quoted .invalid v ++ Styled.plain " for " ++
      Styled.quoted .literal a.display ++ Styled.plain (": " ++ reason) ++ tryHelp
  | .missingArguments missing u =>
    errorHead ++ Styled.plain "the following required arguments were not provided:" ++
      (missing.flatMap fun a => Styled.plain "\n  " ++ Styled.ofTone .valid a.display) ++
      usagePart u ++ tryHelp
  | .repeated a c =>
    errorHead ++ Styled.plain "the argument " ++ Styled.quoted .invalid a.display ++
      Styled.plain " cannot be used multiple times" ++ usagePart (usage c) ++ tryHelp
  | .flagValue v a u =>
    errorHead ++ Styled.plain "unexpected value " ++ Styled.quoted .invalid v ++
      Styled.plain " for " ++ Styled.quoted .literal a.display ++
      Styled.plain " found; no more were expected" ++ usagePart u ++ tryHelp

/-- Whether the text of a refusal is coloured, given the values of `CLICOLOR_FORCE` and
`NO_COLOR`: a variable set to the empty text counts as unset. -/
def colourForced (force noColour : Option String) : Bool :=
  !(force.getD "").isEmpty && (noColour.getD "").isEmpty

def text (env : List (String × String)) (colour : Bool) (r : Refusal) : String :=
  (r.message env).render colour

example : colourForced (some "0") none ∧ !colourForced (some "") none ∧
    !colourForced (some "1") (some "1") ∧ colourForced (some "1") (some "") := by decide

end Refusal

end Cli
end DoubleEntry
