/-!
# DoubleEntry.Text.Pattern

Which texts are well-formed regular expressions, in the syntax of the usual backtracking-free
engines: alternation with `|`, groups in parentheses (plain, `(?:...)`, named `(?P<n>...)` or
`(?<n>...)`, and flag groups such as `(?i)` or `(?i:...)`), classes in brackets with ranges,
nested classes and ASCII classes such as `[:alpha:]`, escapes, and the repetition operators
`*`, `+`, `?` and `{n}`, `{n,}`, `{n,m}`.

A pattern is refused when a repetition has nothing to repeat (at the start, after `(` or `|`,
or after a flag group), a group or a class is left open, a `)` closes no group, a counted
repetition is malformed or counts down, a range in a class runs backwards, or an escape is
unknown: a letter other than the class, assertion and control escapes, a digit (back
references are not supported), a character outside ASCII, or a backslash at the end.

Main statement: `wellFormed`, with examples at the end of the module.
-/

namespace DoubleEntry
namespace Text

def isHexDigit (c : Char) : Bool :=
  c.isDigit || ('a' ≤ c && c ≤ 'f') || ('A' ≤ c && c ≤ 'F')

/-- The rest of a pattern after a well-formed escape, the backslash already read; `none`
when the escape is unknown. -/
def afterEscape : List Char → Option (List Char)
  | [] => none
  | c :: rest =>
    if c.toNat < 128 && !c.isAlphanum then some rest
    else if "dDwWsSbBAzntrfva".toList.contains c then some rest
    else if c == 'x' then
      match rest with
      | a :: b :: more => if isHexDigit a && isHexDigit b then some more else none
      | _ => none
    else if c == 'u' then
      if (rest.take 4).length == 4 && (rest.take 4).all isHexDigit then some (rest.drop 4)
      else none
    else if c == 'U' then
      if (rest.take 8).length == 8 && (rest.take 8).all isHexDigit then some (rest.drop 8)
      else none
    else if c == 'p' || c == 'P' then
      match rest with
      | l :: more => if "CLMNPSZ".toList.contains l then some more else none
      | [] => none
    else none

def asciiClasses : List String :=
  ["alnum", "alpha", "ascii", "blank", "cntrl", "digit", "graph", "lower", "print", "punct",
    "space", "upper", "word", "xdigit"]

/-- The rest of a class after an ASCII class `[:name:]` at its front, the `[` already read;
`none` when none stands there. -/
def afterAsciiClass (cs : List Char) : Option (List Char) :=
  match cs with
  | ':' :: more =>
    let body := if more.head? == some '^' then more.drop 1 else more
    let name := body.takeWhile (· ≠ ':')
    match body.dropWhile (· ≠ ':') with
    | ':' :: ']' :: rest => if asciiClasses.contains (String.ofList name) then some rest else none
    | _ => none
  | _ => none

/-- The rest of a pattern after the items of a class and its closing `]`; `prev` is the
literal just read, which may start a range. `fuel` bounds the characters read. -/
def afterClassItems : Nat → Option Char → List Char → Option (List Char)
  | 0, _, _ => none
  | _ + 1, _, [] => none
  | fuel + 1, prev, c :: rest =>
    if c == ']' then some rest
    else if c == '[' then
      match afterAsciiClass rest with
      | some more => afterClassItems fuel none more
      | none =>
        let body := if rest.head? == some '^' then rest.drop 1 else rest
        let inner := match body with
          | ']' :: more => afterClassItems fuel (some ']') more
          | _ => afterClassItems fuel none body
        match inner with
        | some more => afterClassItems fuel none more
        | none => none
    else if c == '\\' then
      match afterEscape rest with
      | some more => afterClassItems fuel none more
      | none => none
    else if c == '-' then
      match prev, rest with
      | some lo, hi :: more =>
        if hi == ']' || hi == '[' || hi == '\\' || hi == '-' then afterClassItems fuel none rest
        else if hi < lo then none
        else afterClassItems fuel none more
      | _, _ => afterClassItems fuel none rest
    else afterClassItems fuel (some c) rest

/-- The rest of a pattern after a class whose `[` was just read: an optional `^`, a `]`
that stands for itself when it comes first, then the items. -/
def afterClassOpen (fuel : Nat) (cs : List Char) : Option (List Char) :=
  let body := if cs.head? == some '^' then cs.drop 1 else cs
  match body with
  | ']' :: more => afterClassItems fuel (some ']') more
  | _ => afterClassItems fuel none body

/-- The rest of a pattern after the flags of a group `(?` and the `)` or `:` that ends them,
with whether they open a group (`:`) or stand alone (`)`). -/
def afterFlags (cs : List Char) : Option (List Char × Bool) :=
  let flags := cs.takeWhile fun c => "imsuxR-".toList.contains c
  match cs.dropWhile fun c => "imsuxR-".toList.contains c with
  | ')' :: rest => if flags.isEmpty then none else some (rest, false)
  | ':' :: rest => some (rest, true)
  | _ => none

/-- The rest of a pattern after a group name and its `>`. -/
def afterGroupName (cs : List Char) : Option (List Char) :=
  let name := cs.takeWhile fun c => c.isAlphanum || c == '_' || c == '.' || c == '[' || c == ']'
  match cs.dropWhile fun c => c.isAlphanum || c == '_' || c == '.' || c == '[' || c == ']' with
  | '>' :: rest =>
    match name with
    | first :: _ => if first.isAlpha || first == '_' then some rest else none
    | [] => none
  | _ => none

/-- The rest of a pattern after a counted repetition, its `{` already read. -/
def afterCount (cs : List Char) : Option (List Char) :=
  let lo := cs.takeWhile Char.isDigit
  let value (ds : List Char) : Nat := ds.foldl (fun n d => 10 * n + (d.toNat - '0'.toNat)) 0
  if lo.isEmpty then none
  else
    match cs.dropWhile Char.isDigit with
    | '}' :: rest => some rest
    | ',' :: more =>
      let hi := more.takeWhile Char.isDigit
      match more.dropWhile Char.isDigit with
      | '}' :: rest => if !hi.isEmpty && value hi < value lo then none else some rest
      | _ => none
    | _ => none

/-- Whether the rest of a pattern is well formed, inside `depth` open groups; `repeatable`
says whether something stands before that a repetition may apply to. `fuel` bounds the
characters read. -/
def wellFormedFrom : Nat → Nat → Bool → List Char → Bool
  | 0, _, _, _ => false
  | _ + 1, depth, _, [] => depth == 0
  | fuel + 1, depth, repeatable, c :: rest =>
    if c == '(' then
      match rest with
      | '?' :: more =>
        match more with
        | 'P' :: '<' :: named | '<' :: named =>
          match afterGroupName named with
          | some after => wellFormedFrom fuel (depth + 1) false after
          | none => false
        | _ =>
          match afterFlags more with
          | some (after, true) => wellFormedFrom fuel (depth + 1) false after
          | some (after, false) => wellFormedFrom fuel depth false after
          | none => false
      | _ => wellFormedFrom fuel (depth + 1) false rest
    else if c == ')' then depth != 0 && wellFormedFrom fuel (depth - 1) true rest
    else if c == '|' then wellFormedFrom fuel depth false rest
    else if c == '*' || c == '+' || c == '?' then repeatable && wellFormedFrom fuel depth true rest
    else if c == '{' then
      repeatable &&
        match afterCount rest with
        | some after => wellFormedFrom fuel depth true after
        | none => false
    else if c == '[' then
      match afterClassOpen (rest.length + 1) rest with
      | some after => wellFormedFrom fuel depth true after
      | none => false
    else if c == '\\' then
      match afterEscape rest with
      | some after => wellFormedFrom fuel depth true after
      | none => false
    else wellFormedFrom fuel depth true rest

def wellFormed (s : String) : Bool :=
  wellFormedFrom (s.length + 1) 0 false s.toList

example : wellFormed "a+b" ∧ wellFormed "" ∧ wellFormed "[a-z]*" ∧ wellFormed "(x|y)?" := by
  decide
example : !wellFormed "(" ∧ !wellFormed "*" ∧ !wellFormed "[z-a]" ∧ !wellFormed "a\\" ∧
    !wellFormed "a\x7b" := by decide

end Text
end DoubleEntry
