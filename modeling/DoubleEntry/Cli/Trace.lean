import DoubleEntry.Cli.Numeral
import DoubleEntry.Event
import DoubleEntry.Text.Alphanumeric
import DoubleEntry.Text.Blank
import DoubleEntry.Text.Pattern

/-!
# DoubleEntry.Cli.Trace

The diagnostic lines the program writes to standard error, and which events it writes.

The filter is read from the `RUST_LOG` variable: directives separated by commas. A
directive is a severity alone (`trace`, `debug`, `info`, `warn`, `error` or `off`, in any
case of letters, or a digit from `0` for off to `5` for trace), which applies to every
event; or a target (letters, digits, `_`, `:` and `-`) with an optional `=severity`, all
severities when none is given, which applies to the events whose origin's name starts with
the target. A directive may also name a span in brackets; it then applies only inside a
span, and the ledger opens none. Of the directives that apply to an event, the one with the
longest target decides, one without a target last, and of two for the same target the later
one. An event that no directive applies to is not written. When the variable is missing or
a directive does not parse, the filter is `info`, with `bursar=debug` added for `--verbose`.

A line is the time, the severity padded to five columns, the message, and the fields as
`name=value`. In colour, the time is dimmed, the severity coloured, each field name in
italics and its `=` dimmed; `NO_COLOR` set to a non-empty value turns colour off.
-/

namespace DoubleEntry
namespace Cli

/-- One directive of a filter. -/
structure Directive where
  /-- The prefix of the origins it applies to; every origin when absent. -/
  target : Option String
  /-- The highest verbosity it lets through; zero lets nothing through. -/
  verbosity : Nat
  /-- The span it applies inside, when it names one. -/
  span : Option String := none
  /-- Its field filters: the name a field must have, and whether a value is given too. -/
  fields : List (String × Bool) := []
  deriving DecidableEq, Repr

/-- The verbosity a severity stands for: a number from `0` for off to `5` for trace, with
an optional `+` and any leading zeros, or a name in any case of letters. -/
def verbosityOf (s : String) : Option Nat :=
  match readUnsigned64 s with
  | .ok n => if n ≤ 5 then some n.toNat else none
  | .error _ =>
    match s.toLower with
    | "off" => some 0
    | "error" | "" => some 1
    | "warn" => some 2
    | "info" => some 3
    | "debug" => some 4
    | "trace" => some 5
    | _ => none

/-- Whether a text reads as a floating-point number: an optional sign, then digits with an
optional fraction or a fraction alone, and an optional exponent; or `inf`, `infinity` or
`nan` in any case of letters. -/
def readsAsFloat (s : String) : Bool :=
  let cs := match s.toList with
    | '+' :: rest | '-' :: rest => rest
    | other => other
  let word := (String.ofList cs).toLower
  if word == "inf" || word == "infinity" || word == "nan" then true
  else
    let whole := cs.takeWhile Char.isDigit
    let afterWhole := cs.dropWhile Char.isDigit
    let (frac, afterFrac) : List Char × List Char :=
      match afterWhole with
      | '.' :: more => (more.takeWhile Char.isDigit, more.dropWhile Char.isDigit)
      | _ => ([], afterWhole)
    let mantissa := !whole.isEmpty || !frac.isEmpty
    let exponentOk : Bool :=
      match afterFrac with
      | [] => true
      | e :: more =>
        (e == 'e' || e == 'E') &&
          (let ds := match more with
            | '+' :: r | '-' :: r => r
            | r => r
           !ds.isEmpty && ds.all Char.isDigit)
    mantissa && exponentOk

/-- Whether a field filter's value is accepted: a truth value, a number, or a well-formed
pattern. -/
def acceptsValue (v : String) : Bool :=
  v == "true" || v == "false" || (readSigned64 v matches .ok _) ||
    (readUnsigned64 v matches .ok _) || readsAsFloat v || Text.wellFormed v

/-- Reads a field filter: the name before the first `=`, and the value after it up to the
next `=`, if there is one; `none` when the value is not accepted. -/
def readField (text : String) : Option (String × Bool) :=
  let cs := text.toList
  let name := String.ofList (cs.takeWhile (· ≠ '='))
  match cs.dropWhile (· ≠ '=') with
  | [] => some (name, false)
  | _ :: rest =>
    if acceptsValue (String.ofList (rest.takeWhile (· ≠ '='))) then some (name, true) else none

/-- The characters after a number of bytes of their encoding; `none` when the count falls
inside a character or beyond the end. -/
def dropBytes : Nat → List Char → Option (List Char)
  | 0, cs => some cs
  | _ + 1, [] => none
  | n + 1, c :: cs => if c.utf8Size ≤ n + 1 then dropBytes (n + 1 - c.utf8Size) cs else none

/-- The characters within a number of bytes of their encoding; `none` when the count falls
inside a character or beyond the end. -/
def takeBytes : Nat → List Char → Option (List Char)
  | 0, _ => some []
  | _ + 1, [] => none
  | n + 1, c :: cs =>
    if c.utf8Size ≤ n + 1 then (takeBytes (n + 1 - c.utf8Size) cs).map (c :: ·) else none

def sliceBytes (cs : List Char) (a b : Nat) : Option String :=
  ((dropBytes a cs).bind (takeBytes (b - a))).map String.ofList

def sliceFrom (cs : List Char) (a : Nat) : Option String :=
  (dropBytes a cs).map String.ofList

/-- Where the reader of a directive stands; each part that is being read records the byte
offset where it began. -/
inductive ReadState where
  /-- Before the first character. -/
  | start
  /-- In a word that is a severity or a target. -/
  | word (pos : Nat)
  /-- In a span's name, after `[`. -/
  | span (pos : Nat)
  /-- In a field filter, after `{` or `,`. -/
  | field (pos : Nat)
  /-- After the field filters' `}`, where only `]` may follow. -/
  | fields
  /-- After a span part's `]` or a target's end, where only `=` may follow. -/
  | beforeLevel
  /-- In the severity after `=`. -/
  | level (pos : Nat)
  deriving DecidableEq, Repr

def beginsDirective (c : Char) : Bool :=
  c == '-' || c == ':' || c == '_' || Text.isAlphanumeric c

/-- One step of the reader over the character `c` at byte offset `i`. Offsets count in the
directive with its blanks trimmed, while the parts are cut from the directive as written:
after a leading blank, a part is cut that many bytes early. `none` means the directive does
not parse. -/
def readStep (written : List Char) (d : Directive) (st : ReadState) (i : Nat) (c : Char) :
    Option (Directive × ReadState) :=
  match st with
  | .start =>
    if c == '[' then some (d, .span (i + 1))
    else if beginsDirective c then some (d, .word i)
    else none
  | .word p =>
    if c == '=' then (sliceBytes written p i).map fun t => ({ d with target := some t }, .level (i + 1))
    else if c == '[' then
      (sliceBytes written p i).map fun t => ({ d with target := some t }, .span (i + 1))
    else some (d, st)
  | .beforeLevel => if c == '=' then some (d, .level (i + 1)) else none
  | .span p =>
    if c == ']' then (sliceBytes written p i).map fun t => ({ d with span := some t }, .beforeLevel)
    else if c == '{' then
      (sliceBytes written p i).map fun t =>
        ({ d with span := if t.isEmpty then none else some t }, .field (i + 1))
    else some (d, st)
  | .field p =>
    if c == '}' || c == ',' then
      match sliceBytes written p i with
      | some t =>
        if t.isEmpty then none
        else
          (readField t).map fun f =>
            ({ d with fields := d.fields ++ [f] }, if c == '}' then .fields else .field (i + 1))
      | none => none
    else some (d, st)
  | .fields => if c == ']' then some (d, .beforeLevel) else none
  | .level _ => some (d, st)

/-- Ends the reading of a directive: a word alone is a severity when it reads as one and
otherwise a target of every severity, and a severity after `=` may be empty for all of them.
The word and the severity run to the end of the directive as written, trailing blanks
included. -/
def finishDirective (written : List Char) (d : Directive) : ReadState → Option Directive
  | .word p =>
    (sliceFrom written p).map fun t =>
      match verbosityOf t with
      | some v => { d with verbosity := v, target := none }
      | none => { d with verbosity := 5, target := some t }
  | .level p =>
    (sliceFrom written p).bind fun t =>
      if t.isEmpty then some { d with verbosity := 5 }
      else (verbosityOf t).map fun v => { d with verbosity := v }
  | .beforeLevel => some d
  | _ => none

/-- Reads one directive: a severity; or a target, then optionally a span part in brackets
(a span's name, then optionally field filters in braces), then optionally `=` and a
severity; or a span part alone in the same way. -/
def readDirective (s : String) : Option Directive :=
  let written := s.toList
  let read := (Text.trimBlankChars written).foldl (fun acc c =>
    acc.bind fun (d, st, i) => (readStep written d st i c).map fun (d', st') => (d', st', i + c.utf8Size))
    (some (⟨none, 5, none, []⟩, ReadState.start, 0))
  read.bind fun (d, st, _) => finishDirective written d st

/-- Splits text at every comma. -/
def commaParts (s : String) : List String :=
  (s.toList.foldr (fun c (acc : List (List Char)) =>
    if c = ',' then [] :: acc
    else match acc with
      | w :: ws => (c :: w) :: ws
      | [] => [[c]]) [[]]).map String.ofList

def readFilter (s : String) : Option (List Directive) :=
  ((commaParts s).filter (· ≠ "")).mapM readDirective

/-- The filter used when the variable is missing or does not parse. -/
def defaultFilter (verbose : Bool) : List Directive :=
  [⟨none, 3, none, []⟩] ++ (if verbose then [⟨some "bursar", 4, none, []⟩] else [])

/-- The filter for a value of the variable and the `--verbose` flag; a value without any
directive lets errors through. -/
def filterOf (setting : Option String) (verbose : Bool) : List Directive :=
  match setting.bind readFilter with
  | some [] => [⟨none, 1, none, []⟩]
  | some ds => ds
  | none => defaultFilter verbose

def Directive.fieldNames (d : Directive) : List String := d.fields.map (·.1)

/-- Whether one directive is more specific than another: a longer target first, no target
last; then more field names; then the greater target and the greater list of field names,
which only orders directives that are equally specific. Two directives neither more
specific than the other select the same events, and the later one counts. -/
def Directive.moreSpecific (a b : Directive) : Bool :=
  let len (d : Directive) : Option Nat := d.target.map String.length
  let optLt {α : Type} (lt : α → α → Bool) : Option α → Option α → Bool
    | none, some _ => true
    | some x, some y => lt x y
    | _, _ => false
  let listLt : List String → List String → Bool := fun xs ys =>
    decide (xs < ys)
  if len a ≠ len b then optLt (fun x y => decide (x < y)) (len b) (len a)
  else if a.fieldNames.length ≠ b.fieldNames.length then
    b.fieldNames.length < a.fieldNames.length
  else if a.target ≠ b.target then optLt (fun x y => decide (x < y)) b.target a.target
  else listLt b.fieldNames a.fieldNames

/-- Whether a directive applies to an event outside every span: it names no span and no
field's value, its target is a prefix of the event's origin, and the event has every
field it names. Every event has the field `message`. -/
def Directive.applies (d : Directive) (e : Event) : Bool :=
  d.span.isNone && d.fields.all (!·.2) &&
    (match d.target with
     | some t => t.isPrefixOf e.origin.name
     | none => true) &&
    d.fieldNames.all fun n => n == "message" || e.fields.any (·.1 == n)

/-- Whether a filter lets an event through: the most specific directive that applies to
it decides. -/
def allows (filter : List Directive) (e : Event) : Bool :=
  let best := (filter.filter (·.applies e)).foldl (fun acc d =>
    match acc with
    | some b => if b.moreSpecific d then some b else some d
    | none => some d) none
  match best with
  | some d => e.severity.verbosity ≤ d.verbosity
  | none => false

/-- The severity as a line shows it, five columns wide. -/
def severityLabel : Severity → String
  | .error => "ERROR"
  | .warn => " WARN"
  | .info => " INFO"
  | .debug => "DEBUG"

/-- The colour code of a severity. -/
def severityColour : Severity → String
  | .error => "31"
  | .warn => "33"
  | .info => "32"
  | .debug => "34"

def styled (code text : String) : String := "\x1b[" ++ code ++ "m" ++ text ++ "\x1b[0m"

/-- The line of an event written at `time`, in colour or not. -/
def traceLine (colour : Bool) (time : String) (e : Event) : String :=
  let field (nv : String × FieldValue) : String :=
    if colour then " " ++ styled "3" nv.1 ++ styled "2" "=" ++ nv.2.text
    else " " ++ nv.1 ++ "=" ++ nv.2.text
  (if colour then styled "2" time else time) ++ " " ++
    (if colour then styled (severityColour e.severity) (severityLabel e.severity)
     else severityLabel e.severity) ++
    " " ++ e.message ++ String.join (e.fields.map field) ++ "\n"

def traceText (filter : List Directive) (colour : Bool) (time : String) (events : List Event) :
    String :=
  String.join ((events.filter (allows filter)).map (traceLine colour time))

example : filterOf (some "bursar=debug") false = [⟨some "bursar", 4, none, []⟩] := by
  decide +kernel
example : filterOf (some "info=debug") false = [⟨some "info", 4, none, []⟩] := by decide +kernel
example : filterOf (some " info") false = [⟨some " info", 5, none, []⟩] := by decide +kernel
example : filterOf (some "x[\x7ba\x7d\x7bb\x7d]") true = defaultFilter true := by decide +kernel
example : filterOf (some "bursar=loud") true = defaultFilter true := by decide +kernel
example : allows (defaultFilter false) .committed = false ∧
    allows (defaultFilter true) .committed = true := by decide +kernel

end Cli
end DoubleEntry
