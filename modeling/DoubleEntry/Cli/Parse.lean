import DoubleEntry.Cli.Refusal
import DoubleEntry.Cli.Numeral
import DoubleEntry.Cli.Similar
import DoubleEntry.Cli.Invocation

/-!
# DoubleEntry.Cli.Parse

Reading a command line into an `Invocation`, or into the `Refusal` that explains why it
cannot be run.

Words are read left to right, one command level at a time. At a level, `--` makes every
later word positional, and an option still waiting for its value then gets none;
`--name` and `--name=value` are long options; `-abc` is a cluster of one-letter options,
where an option that takes a value takes the rest of the cluster (after an optional `=`).
Any other word is the value an option waits for, even when it names a command; else a
word that names one of the level's commands starts the next level; else it is the next
positional argument.

A value is read as its argument's type only when its argument is complete: when the next
argument starts, or when the level ends. A level ends by reading its values from the
environment and its defaults, and then checking that a command follows where one must,
and that every required argument was given. A deeper level is settled before the level
above it, so its refusals come first.

The global options may be given at every level. Their value is the one from the strongest
source (command line over environment over default), and among equal sources the deepest.
-/

namespace DoubleEntry
namespace Cli

/-- Where an argument's value came from, weakest first. -/
inductive Source where
  | default
  | env
  | line
  deriving DecidableEq, Repr

namespace Source

/-- The strength of a source. -/
def rank : Source → Nat
  | .default => 0
  | .env => 1
  | .line => 2

/-- Whether the value was supplied by the user, on the line or in the environment. -/
def explicit : Source → Bool
  | .default => false
  | _ => true

end Source

/-- A value read for an argument. -/
inductive Value where
  | text (s : String)
  | number (n : Int)
  /-- A flag that is set. -/
  | on
  deriving DecidableEq, Repr

/-- An argument recorded at a level; `value` is `none` when the argument was started but
its value was refused. -/
structure Given where
  key : String
  source : Source
  value : Option Value
  deriving DecidableEq, Repr

/-- An argument whose values are still being collected. -/
structure Pending where
  arg : ArgSpec
  values : List String
  deriving DecidableEq, Repr

/-- The state of one command level while its words are read. -/
structure Level where
  cmd : Cmd
  given : List Given := []
  pending : Option Pending := none
  nextPos : Nat := 0
  trailing : Bool := false
  deriving DecidableEq, Repr

namespace Level

def has (lv : Level) (key : String) : Bool := lv.given.any (·.key == key)

def explicitKeys (lv : Level) : List String :=
  (lv.given.filter (·.source.explicit)).map (·.key)

/-- Whether an option waits for its value. -/
def expecting (lv : Level) : Bool :=
  match lv.pending with
  | some p => p.values.isEmpty
  | none => false

def lookup (lv : Level) (key : String) : Option Given := lv.given.find? (·.key == key)

def text (lv : Level) (key : String) : String :=
  match (lv.lookup key).bind (·.value) with
  | some (.text s) => s
  | _ => ""

def number? (lv : Level) (key : String) : Option Int :=
  match (lv.lookup key).bind (·.value) with
  | some (.number n) => some n
  | _ => none

def count (lv : Level) (key : String) : Nat := ((lv.number? key).getD 0).toNat

def page (lv : Level) : Page := ⟨lv.count "limit", lv.count "offset"⟩

end Level

/-- Reads a value typed for an argument. -/
def readValue (a : ArgSpec) (raw : String) : Except Refusal Value :=
  match a.kind with
  | .text => .ok (.text raw)
  | .signed =>
    match readSigned64 raw with
    | .ok n => .ok (.number n)
    | .error e => .error (.badValue raw a e.message)
  | .count32 =>
    match readSigned64 raw with
    | .ok n =>
      if 0 ≤ n ∧ n ≤ count32Max then .ok (.number n)
      else .error (.badValue raw a (toString n ++ " is not in 0..=4294967295"))
    | .error e => .error (.badValue raw a e.message)
  | .count64 =>
    match readUnsigned64 raw with
    | .ok n => .ok (.number n)
    | .error e => .error (.badValue raw a e.message)

/-- Records a complete argument. An option from the command line needs a value, an
argument is given at most once per level, and the value must read as the argument's type;
the argument is recorded even when its value is refused. -/
def settle (lv : Level) (a : ArgSpec) (values : List String) (src : Source) :
    Level × Option Refusal :=
  if src == .line && a.action == .set && values.isEmpty then (lv, some (.missingValue a))
  else if src == .line && lv.has a.key then
    ({ lv with given := lv.given.filter (·.key != a.key) }, some (.repeated a lv.cmd))
  else
    let value : Except Refusal Value :=
      match values with
      | v :: _ => readValue a v
      | [] => .ok .on
    match value with
    | .ok v => ({ lv with given := lv.given ++ [⟨a.key, src, some v⟩] }, none)
    | .error r => ({ lv with given := lv.given ++ [⟨a.key, src, none⟩] }, some r)

/-- Completes the argument whose values were being collected. -/
def resolve (lv : Level) : Level × Option Refusal :=
  match lv.pending with
  | none => (lv, none)
  | some p => settle { lv with pending := none } p.arg p.values .line

/-- How reading a level ended. -/
inductive Scan where
  | refused (r : Refusal)
  | done (lv : Level)
  /-- A word named a command of the level; the rest belongs to it. -/
  | descend (lv : Level) (sub : Cmd) (rest : List String)

inductive Step where
  | next (lv : Level)
  | stop (s : Scan)

def andThen (x : Level × Option Refusal) (k : Level → Step) : Step :=
  match x with
  | (lv, none) => k lv
  | (_, some r) => .stop (.refused r)

/-- The help asked for by `help` followed by command names. The names lead from command to
command; `help` names the help command itself, which takes no command after it. -/
def helpTarget : Cmd → List String → Refusal
  | c, [] => .help c
  | c, w :: ws =>
    if c.hasSubs && w == "help" then
      match ws with
      | [] => .helpOfHelp c
      | w' :: _ => .unknownTopic c w'
    else
      match c.subs.find? (·.name == w) with
      | some s => helpTarget s ws
      | none => .unknownCommand c w []

/-- Splits `name=value` at the first `=`. -/
def splitAttached (body : String) : String × Option String :=
  let cs := body.toList
  match cs.dropWhile (· ≠ '=') with
  | [] => (body, none)
  | _ :: v => (String.ofList (cs.takeWhile (· ≠ '=')), some (String.ofList v))

/-- The usage line shown with a mistake: the full one when nothing was given yet. -/
def usageFor (c : Cmd) (used : List String) : Text.Styled :=
  if used.isEmpty then usage c else smartUsage c used false

/-- The entry with the least first component, the earliest among equals. -/
def leastFirst (xs : List (Nat × String × String)) : Option (Nat × String × String) :=
  xs.foldl (fun acc x =>
    match acc with
    | none => some x
    | some y => if x.1 < y.1 then some x else some y) none

/-- The tip for an unknown long option, and the option it suggests at this level. A
similar option of the level wins; otherwise a similar option of a command named further
on, the earliest named; otherwise, for a command with positional arguments, how to pass
the word as a value. -/
def suggestOption (c : Cmd) (name : String) (rest : List String) :
    Option ArgumentTip × List String :=
  match (similar name (c.args.filterMap (·.long))).getLast? with
  | some l => (some (.similar ("--" ++ l)), ((c.args.find? (·.long == some l)).map (·.key)).toList)
  | none =>
    let inSubs := c.subs.filterMap fun s =>
      match (similar name (s.args.filterMap (·.long))).getLast?, rest.findIdx? (· == s.name) with
      | some l, some i => some (i, s.name, l)
      | _, _ => none
    match leastFirst inSubs with
    | some (_, s, l) => (some (.inCommand s ("--" ++ l)), [])
    | none => (if c.positionals.isEmpty then none else some .asValue, [])

/-- Reads a long option, `body` being the word without its dashes. -/
def longStep (lv : Level) (body : String) (rest : List String) : Step :=
  let (name, attached) := splitAttached body
  match lv.cmd.options.find? (·.long == some name) with
  | some a =>
    match a.action, attached with
    | .set, some v => andThen (resolve lv) fun lv1 => andThen (settle lv1 a [v] .line) .next
    | .set, none => andThen (resolve lv) fun lv1 => .next { lv1 with pending := some ⟨a, []⟩ }
    | _, some v =>
      let explicit := lv.given.filter (·.source.explicit)
      let kept := explicit.filter fun g => !((lv.cmd.args.find? (·.key == g.key)).any (·.required))
      let grouped := explicit.any fun g => (ownArgs lv.cmd).any (·.key == g.key)
      .stop (.refused (.flagValue v a (smartUsage lv.cmd (kept.map (·.key) ++ [a.key]) grouped)))
    | .flag, none => andThen (resolve lv) fun lv1 => andThen (settle lv1 a [] .line) .next
    | .help, none => andThen (resolve lv) fun _ => .stop (.refused (.help lv.cmd))
    | .version, none => andThen (resolve lv) fun _ => .stop (.refused .version)
  | none =>
    let lv1 := (resolve lv).1
    let (tip, extra) := suggestOption lv1.cmd name rest
    let used := lv1.explicitKeys ++ extra.filter (!lv1.has ·)
    .stop (.refused (.unknownArgument lv1.cmd ("--" ++ name) tip (usageFor lv1.cmd used)))

/-- Reads a cluster of one-letter options. -/
def shortStep (lv : Level) : List Char → Step
  | [] => .next lv
  | ch :: more =>
    match lv.cmd.options.find? (·.short == some ch) with
    | some a =>
      match a.action with
      | .flag => andThen (resolve lv) fun lv1 => andThen (settle lv1 a [] .line) fun lv2 =>
          shortStep lv2 more
      | .help => andThen (resolve lv) fun _ => .stop (.refused (.help lv.cmd))
      | .version => andThen (resolve lv) fun _ => .stop (.refused .version)
      | .set =>
        match more with
        | [] => andThen (resolve lv) fun lv1 => .next { lv1 with pending := some ⟨a, []⟩ }
        | '=' :: v => andThen (resolve lv) fun lv1 =>
            andThen (settle lv1 a [String.ofList v] .line) .next
        | v => andThen (resolve lv) fun lv1 =>
            andThen (settle lv1 a [String.ofList v] .line) .next
    | none =>
      let lv1 := (resolve lv).1
      let tip := if lv1.cmd.positionals.isEmpty then none else some ArgumentTip.asValue
      .stop (.refused (.unknownArgument lv1.cmd ("-" ++ ch.toString) tip (usage lv1.cmd)))

/-- The refusal for a word that no positional argument takes. -/
def unmatched (lv : Level) (word : String) : Refusal :=
  let names := if lv.cmd.hasSubs then lv.cmd.subs.map Cmd.name ++ ["help"] else []
  if lv.trailing && names.contains word then
    .unknownArgument lv.cmd word (some .afterDoubleDash) (usage lv.cmd)
  else
    let candidates := similar word names
    if !candidates.isEmpty || lv.cmd.hasSubs then .unknownCommand lv.cmd word candidates
    else .unknownArgument lv.cmd word none (usage lv.cmd)

/-- Reads a word as the next positional argument. -/
def positionalStep (lv : Level) (word : String) : Step :=
  match lv.cmd.positionals[lv.nextPos]? with
  | some a => andThen (resolve lv) fun lv1 =>
      .next { lv1 with pending := some ⟨a, [word]⟩, nextPos := lv1.nextPos + 1 }
  | none => .stop (.refused (unmatched (resolve lv).1 word))

def Level.giveValue (lv : Level) (word : String) : Level :=
  { lv with pending := lv.pending.map fun p => { p with values := [word] } }

/-- Reads one word; `rest` are the words after it. -/
def step (lv : Level) (word : String) (rest : List String) : Step :=
  if lv.trailing then positionalStep lv word
  else if word == "--" then .next { lv with trailing := true }
  else if word.startsWith "--" then longStep lv (String.ofList (word.toList.drop 2)) rest
  else if word.startsWith "-" && 2 ≤ word.length then shortStep lv (word.toList.drop 1)
  else if lv.expecting then .next (lv.giveValue word)
  else if lv.cmd.hasSubs && word == "help" then .stop (.refused (helpTarget lv.cmd rest))
  else
    match lv.cmd.subs.find? (·.name == word) with
    | some sub => .stop (.descend lv sub rest)
    | none => positionalStep lv word

/-- Reads the words of a level until they end or a command starts. -/
def scan (lv : Level) : List String → Scan
  | [] => .done lv
  | w :: rest =>
    match step lv w rest with
    | .next lv' => scan lv' rest
    | .stop s => s

/-- Records values from the environment for arguments not given on the line. -/
def addEnv (env : List (String × String)) (lv : Level) : List ArgSpec → Level × Option Refusal
  | [] => (lv, none)
  | a :: as =>
    match a.env.bind (fun v => (env.find? (·.1 == v)).map (·.2)) with
    | some raw =>
      if lv.has a.key then addEnv env lv as
      else
        match settle lv a [raw] .env with
        | (lv', none) => addEnv env lv' as
        | r => r
    | none => addEnv env lv as

/-- Records defaults for the options not given. -/
def addDefaults (lv : Level) : List ArgSpec → Level
  | [] => lv
  | a :: as =>
    match a.default with
    | some d =>
      if lv.has a.key || a.action != .set then addDefaults lv as
      else addDefaults (settle lv a [d] .default).1 as
    | none => addDefaults lv as

/-- The checks on a settled level: a command follows where one must (help is shown
instead when nothing at all was given), and every required argument was given. -/
def validate (lv : Level) (descended : Bool) : Option Refusal :=
  if lv.cmd.hasSubs && !descended then
    if lv.explicitKeys.isEmpty then some (.helpOnMissing lv.cmd) else some (.missingCommand lv.cmd)
  else
    let missing := lv.cmd.args.filter fun a => a.required && !(lv.explicitKeys.contains a.key)
    if missing.isEmpty then none
    else
      let shown := missing.filter (!·.positional) ++ missing.filter (·.positional)
      some (.missingArguments shown (usageFor lv.cmd (lv.explicitKeys ++ missing.map (·.key))))

/-- Settles a level whose words are read, above the levels settled below it. -/
def finishLevel (env : List (String × String)) (lv : Level) (below : List Level)
    (descended : Bool) : Except Refusal (List Level) :=
  match resolve lv with
  | (_, some r) => .error r
  | (lv1, none) =>
    match addEnv env lv1 lv1.cmd.args with
    | (_, some r) => .error r
    | (lv2, none) =>
      let lv3 := addDefaults lv2 lv2.cmd.args
      match validate lv3 descended with
      | some r => .error r
      | none => .ok (lv3 :: below)

/-- Reads the levels of a command line, outermost first; `fuel` bounds the depth. -/
def parseLevels (env : List (String × String)) : Nat → Cmd → List String →
    Except Refusal (List Level)
  | fuel, c, words =>
    match scan { cmd := c } words, fuel with
    | .refused r, _ => .error r
    | .done lv, _ => finishLevel env lv [] false
    | .descend lv _ _, 0 => finishLevel env lv [] false
    | .descend lv sub rest, n + 1 =>
      match parseLevels env n sub rest with
      | .error r => .error r
      | .ok below => finishLevel env lv below true

/-- The value of a global option: from the strongest source, and among equals from the
deepest level. -/
def globalValue (levels : List Level) (key : String) : Option Value :=
  let pick (acc : Option Given) (lv : Level) : Option Given :=
    match acc, lv.lookup key with
    | some g, some h => if h.source.rank < g.source.rank then some g else some h
    | none, h => h
    | g, none => g
  (levels.foldl pick none).bind (·.value)

/-- The command named by the innermost level. -/
def commandOf (leaf : Level) : Command :=
  match leaf.cmd with
  | .init => .init
  | .create => .createAccount (leaf.text "currency") (leaf.text "balance")
  | .list => .listAccounts leaf.page
  | .show => .showAccount ((leaf.number? "id").getD 0)
  | .delete => .deleteAccount ((leaf.number? "id").getD 0)
  | .transfer =>
    .transfer (leaf.text "amount") ((leaf.number? "from").getD 0) ((leaf.number? "to").getD 0)
      (leaf.text "currency")
  | .transfers =>
    .listTransfers
      { account := leaf.number? "account", fromAccount := leaf.number? "from",
        toAccount := leaf.number? "to",
        page := (leaf.number? "limit").map fun l => ⟨l.toNat, leaf.count "offset"⟩ }
  | .entries => .listEntries ((leaf.number? "account").getD 0) leaf.page
  | _ => .check

/-- The invocation that settled levels describe. -/
def invocationOf (levels : List Level) : Invocation :=
  let top := levels.headD { cmd := .top }
  let leaf := levels.getLastD top
  { database := top.text "database"
    maxConnections := top.count "max_connections"
    busyTimeoutMs := top.count "busy_timeout_ms"
    principal := match globalValue levels "principal" with
      | some (.text s) => some s
      | _ => none
    json := globalValue levels "json" == some .on
    verbose := globalValue levels "verbose" == some .on
    command := commandOf leaf }

def parseCommandLine (words : List String) (env : List (String × String)) :
    Except Refusal Invocation :=
  (parseLevels env 2 .top words).map invocationOf

end Cli
end DoubleEntry
