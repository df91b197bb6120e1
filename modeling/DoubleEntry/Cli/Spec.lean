/-!
# DoubleEntry.Cli.Spec

The command-line grammar of the ledger, as data. The program takes global options, then
one command; `account` takes one more command of its own. Each command has options (a
long name, sometimes a one-letter name, and a value unless it is a flag) and positional
arguments. Some options read a default from an environment variable, some have a default
value, and a few are required. The principal, `--json` and `--verbose` are global: they
may be given after any command as well. Every command also understands `-h`/`--help`,
and the program alone understands `-V`/`--version`.

Options are listed in help in their display order (the order of declaration among a
command's own options, a global option keeping its place among the program's), ties broken
by the one-letter name, lower case before upper case, and then by the long name; help and
version come last.
-/

namespace DoubleEntry
namespace Cli

/-- What an argument's value must be. -/
inductive ValueKind where
  | text
  | signed
  | count32
  | count64
  deriving DecidableEq, Repr

/-- What an argument does when it is given. -/
inductive Action where
  | set
  | flag
  | help
  | version
  deriving DecidableEq, Repr

/-- One argument of a command. -/
structure ArgSpec where
  /-- The key under which its value is kept. -/
  key : String
  long : Option String := none
  short : Option Char := none
  /-- The placeholder of its value, as in `<FROM>`. -/
  valueName : String := ""
  positional : Bool := false
  action : Action := .set
  kind : ValueKind := .text
  help : String := ""
  env : Option String := none
  default : Option String := none
  required : Bool := false
  global : Bool := false
  /-- The place in help listings; help and version have none and come last. -/
  order : Option Nat := none
  deriving DecidableEq, Repr

/-- The commands of the program; `top` is the program itself. -/
inductive Cmd where
  | top
  | init
  | account
  | create
  | list
  | show
  | delete
  | transfer
  | transfers
  | entries
  | check
  deriving DecidableEq, Repr

namespace Cmd

def name : Cmd → String
  | .top => "bursar"
  | .init => "init"
  | .account => "account"
  | .create => "create"
  | .list => "list"
  | .show => "show"
  | .delete => "delete"
  | .transfer => "transfer"
  | .transfers => "transfers"
  | .entries => "entries"
  | .check => "check"

/-- The one-line description of a command. -/
def about : Cmd → String
  | .top => "An account ledger with atomic, double-entry transfers"
  | .init => "Initialize a new database"
  | .account => "Account management commands"
  | .create => "Open a new account owned by the principal"
  | .list => "List the principal's accounts"
  | .show => "Show account details"
  | .delete => "Delete an account that has no entries"
  | .transfer => "Transfer money between two accounts"
  | .transfers => "List transfers"
  | .entries => "List the entries of an account"
  | .check => "Verify ledger integrity"

def subs : Cmd → List Cmd
  | .top => [.init, .account, .transfer, .transfers, .entries, .check]
  | .account => [.create, .list, .show, .delete]
  | _ => []

def hasSubs (c : Cmd) : Bool := !c.subs.isEmpty

def parent : Cmd → Option Cmd
  | .top => none
  | .create | .list | .show | .delete => some .account
  | _ => some .top

/-- The full name of a command, as usage lines show it. -/
def path (c : Cmd) : String :=
  match c.parent with
  | none => c.name
  | some .account => "bursar account " ++ c.name
  | some _ => "bursar " ++ c.name

end Cmd

def helpCommandAbout : String := "Print this message or the help of the given subcommand(s)"

def versionLine : String := "bursar 0.1.0"

/-- The program's options, in declaration order. -/
def topArgs : List ArgSpec :=
  [{ key := "database", long := some "database", short := some 'd', valueName := "DATABASE",
     help := "Database file path", env := some "BURSAR_DATABASE", default := some "bursar.db",
     order := some 0 },
   { key := "max_connections", long := some "max-connections", valueName := "MAX_CONNECTIONS",
     kind := .count32, help := "Maximum number of pooled database connections",
     env := some "BURSAR_MAX_CONNECTIONS", default := some "5", order := some 1 },
   { key := "busy_timeout_ms", long := some "busy-timeout-ms", valueName := "BUSY_TIMEOUT_MS",
     kind := .count64, help := "How long to wait for the database write lock, in milliseconds",
     env := some "BURSAR_BUSY_TIMEOUT_MS", default := some "5000", order := some 2 },
   { key := "principal", long := some "as", valueName := "PRINCIPAL",
     help := "Principal to act as (account owner)", env := some "BURSAR_PRINCIPAL",
     global := true, order := some 3 },
   { key := "json", long := some "json", action := .flag, help := "Print results as JSON",
     global := true, order := some 4 },
   { key := "verbose", long := some "verbose", short := some 'v', action := .flag,
     help := "Enable verbose output", global := true, order := some 5 }]

def helpArg : ArgSpec :=
  { key := "help", long := some "help", short := some 'h', action := .help, help := "Print help" }

def versionArg : ArgSpec :=
  { key := "version", long := some "version", short := some 'V', action := .version,
    help := "Print version" }

/-- The page options of a listing. -/
def pageArgs (limitHelp : String) (limitDefault : Option String) (firstOrder : Nat) : List ArgSpec :=
  [{ key := "limit", long := some "limit", short := some 'l', valueName := "LIMIT", kind := .count32,
     help := limitHelp, default := limitDefault, order := some firstOrder },
   { key := "offset", long := some "offset", valueName := "OFFSET", kind := .count32,
     default := some "0", order := some (firstOrder + 1) }]

/-- The options and positional arguments a command declares itself. -/
def ownArgs : Cmd → List ArgSpec
  | .top => topArgs
  | .create =>
    [{ key := "currency", long := some "currency", short := some 'c', valueName := "CURRENCY",
       help := "Currency code: USD, EUR or CAD", default := some "USD", order := some 0 },
     { key := "balance", long := some "balance", short := some 'b', valueName := "BALANCE",
       help := "Opening balance (e.g., \"100.00\")", default := some "0", order := some 1 }]
  | .list => pageArgs "" (some "50") 0
  | .show | .delete =>
    [{ key := "id", valueName := "ID", positional := true, kind := .signed, help := "Account id",
       required := true }]
  | .transfer =>
    [{ key := "amount", valueName := "AMOUNT", positional := true,
       help := "Amount to transfer (e.g., \"50.00\" or \"50\")", required := true },
     { key := "from", long := some "from", valueName := "FROM", kind := .signed,
       help := "Source account id (must be owned by the principal)", required := true,
       order := some 0 },
     { key := "to", long := some "to", valueName := "TO", kind := .signed,
       help := "Destination account id", required := true, order := some 1 },
     { key := "currency", long := some "currency", short := some 'c', valueName := "CURRENCY",
       help := "Currency of the transfer: USD, EUR or CAD", default := some "USD",
       order := some 2 }]
  | .transfers =>
    [{ key := "account", long := some "account", valueName := "ACCOUNT", kind := .signed,
       help := "Transfers touching this account, on either side", order := some 0 },
     { key := "from", long := some "from", valueName := "FROM", kind := .signed,
       help := "Transfers out of this account", order := some 1 },
     { key := "to", long := some "to", valueName := "TO", kind := .signed,
       help := "Transfers into this account", order := some 2 }] ++
    pageArgs "Maximum number of transfers to show" none 3
  | .entries =>
    [{ key := "account", valueName := "ACCOUNT", positional := true, kind := .signed,
       help := "Account id", required := true }] ++ pageArgs "" (some "50") 0
  | _ => []

/-- Every argument a command understands, in declaration order: its own, the global
options of the program, then help, and version for the program alone. -/
def Cmd.args : Cmd → List ArgSpec
  | .top => topArgs ++ [helpArg, versionArg]
  | c => ownArgs c ++ topArgs.filter (·.global) ++ [helpArg]

def Cmd.options (c : Cmd) : List ArgSpec := c.args.filter (!·.positional)

def Cmd.positionals (c : Cmd) : List ArgSpec := c.args.filter (·.positional)

end Cli
end DoubleEntry
