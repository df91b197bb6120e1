import DoubleEntry.Cli.Spec
import DoubleEntry.Text.Styled

/-!
# DoubleEntry.Cli.Usage

Usage lines and help texts of the command line.

A usage line names the command, then `[OPTIONS]` when it has an optional option, then its
required options and its positional arguments, and `<COMMAND>` when a command must follow.
A shorter usage line, shown for some mistakes, names only the required arguments and those
already given; for a flag given a value, a command's own arguments, once one of them is
given, stand as one group.

A help text is the command's description, its usage line, and its sections: the commands
it takes, its positional arguments, and its options, each with its description, the
environment variable it reads (with that variable's value) and its default. Descriptions
stand in one column two spaces after the longest entry of the section; when a description
would not fit beside its entry in a 100-column line, while the entries take more than 40
columns, every description of the section goes on a line of its own, indented by ten.

Both are styled texts: headings, command paths, command names and option names are styled,
placeholders such as `<VALUE>` are not. Widths count the characters a reader sees.
-/

namespace DoubleEntry
namespace Cli

open Text (Styled)

def spaces (n : Nat) : String := String.ofList (List.replicate n ' ')

def width (s : String) : Nat := s.length

namespace ArgSpec

def takesValue (a : ArgSpec) : Bool := a.action == .set

/-- The name an option is typed by: `--long`, else `-s`. -/
def flagName (a : ArgSpec) : String :=
  match a.long, a.short with
  | some l, _ => "--" ++ l
  | none, some c => "-" ++ c.toString
  | none, none => a.key

def valueSuffix (a : ArgSpec) : String :=
  if a.takesValue then " <" ++ a.valueName ++ ">" else ""

/-- The argument as usage lines and messages name it: `--long <VALUE>`, `--flag`, or `<NAME>`. -/
def display (a : ArgSpec) : String :=
  if a.positional then "<" ++ a.valueName ++ ">" else a.flagName ++ a.valueSuffix

/-- The argument as a usage line shows it: an option's name styled, its placeholder not. -/
def shown (a : ArgSpec) : Styled :=
  if a.positional then Styled.plain a.display
  else Styled.literal a.flagName ++ Styled.plain a.valueSuffix

/-- The key that orders options of one place: the one-letter name (lower case first),
else the long name. -/
def sortKey (a : ArgSpec) : String :=
  match a.short, a.long with
  | some c, _ => c.toLower.toString ++ (if c.isLower then "0" else "1")
  | none, some l => l
  | none, none => "\x7b" ++ a.key

/-- The notes after an argument's description: its variable with its value, and its default. -/
def notes (a : ArgSpec) (env : List (String × String)) : String :=
  let envNote := a.env.map fun v =>
    "[env: " ++ v ++ "=" ++ ((env.find? (·.1 == v)).map (·.2)).getD "" ++ "]"
  let defNote := if a.takesValue then a.default.map fun d =>
    "[default: " ++ (if d.any Char.isWhitespace then "\"" ++ d ++ "\"" else d) ++ "]" else none
  " ".intercalate ([envNote, defNote].filterMap id)

def describe (a : ArgSpec) (env : List (String × String)) : String :=
  let n := a.notes env
  if a.help.isEmpty then n else if n.isEmpty then a.help else a.help ++ " " ++ n

end ArgSpec

/-- Options in help order. -/
def helpOrder (xs : List ArgSpec) : List ArgSpec :=
  xs.mergeSort fun a b =>
    let oa := a.order.getD 999
    let ob := b.order.getD 999
    oa < ob || (oa == ob && decide (a.sortKey ≤ b.sortKey))

/-- Whether the usage line shows `[OPTIONS]`: an option other than help and version that
is not required. -/
def needsOptionsTag (c : Cmd) : Bool :=
  c.options.any fun a => (a.action == .set || a.action == .flag) && !a.required

/-- The full usage line of a command. -/
def usage (c : Cmd) : Styled :=
  Styled.literal c.path ++ Styled.plain (if needsOptionsTag c then " [OPTIONS]" else "") ++
    ((c.options.filter (·.required)).flatMap fun a => Styled.plain " " ++ a.shown) ++
    (c.positionals.flatMap fun a => Styled.plain " " ++ a.shown) ++
    Styled.plain (if c.hasSubs then " <COMMAND>" else "")

/-- A command's own arguments as one group, the way usage lines show it: `<a|b|c>`, a
positional argument by its name alone, an option as in `display`. -/
def groupText (c : Cmd) : String :=
  "<" ++ "|".intercalate ((ownArgs c).map fun a => if a.positional then a.valueName else a.display) ++
    ">"

/-- The short usage line: the required arguments and the arguments given (`used`, by key).
When `grouped`, the command's own arguments stand as one group after the options, in place
of themselves. -/
def smartUsage (c : Cmd) (used : List String) (grouped : Bool) : Styled :=
  let inGroup (a : ArgSpec) : Bool := grouped && (ownArgs c).any (·.key == a.key)
  let reqOpts := c.options.filter fun a => a.required && !inGroup a
  let usedOpts := (used.filterMap fun k => c.options.find? (·.key == k)).filter fun a =>
    !a.required && !inGroup a
  let opts := reqOpts ++ usedOpts.eraseDups
  let pos := c.positionals.filter fun a => (a.required || used.contains a.key) && !inGroup a
  Styled.literal c.path ++ (opts.flatMap fun a => Styled.plain " " ++ a.shown) ++
    Styled.plain (if grouped then " " ++ groupText c else "") ++
    (pos.flatMap fun a => Styled.plain " " ++ a.shown) ++
    Styled.plain (if c.hasSubs then " <COMMAND>" else "")

def usageLine (u : Styled) : Styled := Styled.ofTone .heading "Usage:" ++ Styled.plain " " ++ u

def helpSection (title : String) (lines : List Styled) : Styled :=
  Styled.ofTone .heading title ++ Styled.plain "\n" ++ (Styled.plain "\n").intercalate lines

def helpCommandUsage (c : Cmd) : Styled :=
  Styled.literal (c.path ++ " help") ++ Styled.plain " [COMMAND]..."

/-- The help text of that help command: it takes any number of command names. -/
def helpCommandText (c : Cmd) : Styled :=
  Styled.plain (helpCommandAbout ++ "\n\n") ++ usageLine (helpCommandUsage c) ++
    Styled.plain "\n\n" ++
    helpSection "Arguments:" [Styled.plain "  [COMMAND]...  Print help for the subcommand(s)"] ++
    Styled.plain "\n"

/-- What follows each entry of a section: its description, in the section's column or, when
one of them does not fit, each on a line of its own. -/
def entryTails (items : List (String × String)) (positional : Bool) : List String :=
  let longest := items.foldl (fun m (n, _) => Nat.max m (width n)) 0
  let extra := if positional then 0 else 4
  let taken := longest + 4 + extra
  let nextLine := items.any fun (_, d) => 40 * 100 < taken * 100 && taken ≤ 100 && 100 - taken < width d
  items.map fun (n, d) =>
    if nextLine then "\n" ++ spaces 10 ++ d
    else spaces (longest + 2 - width n) ++ d

/-- The label of an option in help: `-s, --long <VALUE>` or `    --long <VALUE>`. -/
def optionLabel (a : ArgSpec) : Styled :=
  (match a.short with
    | some c => Styled.literal ("-" ++ c.toString) ++ Styled.plain (if a.long.isSome then ", " else "")
    | none => Styled.plain "    ") ++
  (match a.long with
    | some l => Styled.literal ("--" ++ l)
    | none => []) ++ Styled.plain a.valueSuffix

/-- The help text of a command. -/
def helpText (c : Cmd) (env : List (String × String)) : Styled :=
  let cmdLines :=
    let items := c.subs.map (fun s => (s.name, s.about)) ++ [("help", helpCommandAbout)]
    let longest := items.foldl (fun m (n, _) => Nat.max m (width n)) 0
    items.map fun (n, d) =>
      Styled.plain "  " ++ Styled.literal n ++ Styled.plain (spaces (longest + 2 - width n) ++ d)
  let posItems := c.positionals.map fun a => (a.display, a.describe env)
  let posLines := (posItems.zip (entryTails posItems true)).map fun ((n, _), t) =>
    Styled.plain ("  " ++ n ++ t)
  let ordered := helpOrder c.options
  let optItems := ordered.map fun a => (a.display, a.describe env)
  let optLines := (ordered.zip (entryTails optItems false)).map fun (a, t) =>
    Styled.plain "  " ++ optionLabel a ++ Styled.plain t
  let sections :=
    (if c.hasSubs then [helpSection "Commands:" cmdLines] else []) ++
    (if posItems.isEmpty then [] else [helpSection "Arguments:" posLines]) ++
    [helpSection "Options:" optLines]
  Styled.plain (c.about ++ "\n\n") ++ usageLine (usage c) ++ Styled.plain "\n\n" ++
    (Styled.plain "\n\n").intercalate sections ++ Styled.plain "\n"

end Cli
end DoubleEntry
