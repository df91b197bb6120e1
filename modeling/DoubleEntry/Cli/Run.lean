import DoubleEntry.Cli.Invocation
import DoubleEntry.Cli.Render
import DoubleEntry.Cli.Trace
import DoubleEntry.Directory
import DoubleEntry.Store.Snapshot

/-!
# DoubleEntry.Cli.Run

Running an understood command line on the database files of a working directory.

`init` creates the database file and its tables. Every other command opens an existing
file, runs through the ledger service, and prints its result. Commands on accounts and
entries need a principal; a transfer reads its amount before its currency, and a new
account its currency before its opening balance. `check` prints its report and then fails
when the ledger is not healthy.

A failure is reported with the class of its ledger error, when it is one, and the
messages of its causes joined by `: `.
-/

namespace DoubleEntry
namespace Cli

/-- Why a command failed. -/
inductive CommandError where
  | ledger (e : LedgerError)
  | noPrincipal
  /-- A typed amount was refused; `context` says which amount. -/
  | badAmount (context : String) (e : MoneyError)
  | unhealthy
  deriving DecidableEq, Repr

namespace CommandError

def kind : CommandError → Option ErrorKind
  | .ledger e => some e.kind
  | _ => none

/-- The messages of the failure and its causes, joined by `: `. -/
def message : CommandError → String
  | .ledger e => ": ".intercalate e.chain
  | .noPrincipal => "This command needs a principal: pass --as <OWNER> or set BURSAR_PRINCIPAL"
  | .badAmount c e => c ++ ": " ++ e.message
  | .unhealthy => "Ledger integrity check failed"

end CommandError

/-- How a command ended. -/
inductive Ending where
  | success
  | failure (e : CommandError)
  | aborted (a : Abort)
  deriving DecidableEq, Repr

/-- What a command printed, how it ended, and the diagnostic events it reported. -/
structure Outcome where
  stdout : String
  ending : Ending
  trace : List Event := []
  deriving DecidableEq, Repr

namespace Outcome

/-- The exit status of a command run as a program: 0 on success, 1 on failure, 101 when
it stopped outright. -/
def exitCode (o : Outcome) : Nat :=
  match o.ending with
  | .success => 0
  | .failure _ => 1
  | .aborted _ => 101

/-- What a command run as a program writes to standard error: the failure, labelled with
the class of its ledger error when it is one. -/
def stderr (o : Outcome) : String :=
  match o.ending with
  | .success => ""
  | .failure e =>
    (match e.kind with
     | some k => "Error [" ++ k.name ++ "]: "
     | none => "Error: ") ++ e.message ++ "\n"
  | .aborted a => a.message ++ "\n"

/-- Everything a command run as a program writes to standard error: the lines of the
events the filter lets through, all written at `time`, then the failure. -/
def errorStream (o : Outcome) (filter : List Directive) (colour : Bool) (time : String) : String :=
  traceText filter colour time o.trace ++ o.stderr

end Outcome

def Invocation.config (inv : Invocation) : LedgerConfig :=
  ((LedgerConfig.new inv.database).withMaxConnections inv.maxConnections).withBusyTimeout
    inv.busyTimeoutMs

abbrev CliAct (α : Type) := Act Pool CommandError α

def ledger {α : Type} (x : Act Pool LedgerError α) : CliAct α := Act.mapFail CommandError.ledger x

/-- The principal, which the command needs. -/
def needPrincipal (inv : Invocation) : CliAct String :=
  match inv.principal with
  | some p => pure p
  | none => Act.fail .noPrincipal

/-- A currency code typed by a person. -/
def readCurrency (code : String) : CliAct Currency :=
  match Currency.ofCode? code with
  | some c => pure c
  | none => Act.fail (.ledger (.unsupportedCurrency code))

/-- An amount typed by a person; `context` names it in the error. -/
def readAmount (context : String) (text : String) : CliAct Int :=
  match parseCents text with
  | .ok n => pure n
  | .error e => Act.fail (.badAmount context e)

def showAs (json : Bool) (d : Datum) (human : String) : String :=
  if json then jsonText d else human

/-- The output of a command other than `init` and `check`. -/
def dispatch (inv : Invocation) : Command → CliAct String
  | .createAccount code balance => do
    let p ← needPrincipal inv
    let c ← readCurrency code
    let opening ← readAmount "Invalid balance format. Use '100.00' or '100'" balance
    let a ← ledger (Service.createAccount p c opening)
    pure (showAs inv.json (recordJson a.fields)
      ("Created account " ++ toString a.id ++ " (" ++ a.owner ++ ", " ++ formatCents a.balance ++
        " " ++ a.currency.code ++ ")\n"))
  | .listAccounts page => do
    let p ← needPrincipal inv
    let xs ← ledger (Service.listAccounts p page)
    pure (showAs inv.json (.list (xs.map fun a => recordJson a.fields)) (accountsTable xs))
  | .showAccount id => do
    let p ← needPrincipal inv
    let a ← ledger (Service.getAccount p id)
    pure (showAs inv.json (recordJson a.fields) (accountCard a))
  | .deleteAccount id => do
    let p ← needPrincipal inv
    let a ← ledger (Service.deleteAccount p id)
    pure (showAs inv.json (recordJson a.fields) ("Deleted account " ++ toString a.id ++ "\n"))
  | .transfer text src dst code => do
    let p ← needPrincipal inv
    let amount ← readAmount "Invalid amount format. Use '50.00' or '50'" text
    let c ← readCurrency code
    let t ← ledger (Service.createTransfer p src dst amount c)
    pure (showAs inv.json (recordJson t.fields)
      ("Recorded transfer " ++ toString t.id ++ ": " ++ formatCents t.amount ++ " " ++ c.code ++
        " from account " ++ toString t.fromAccount ++ " to account " ++ toString t.toAccount ++
        "\n"))
  | .listTransfers f => do
    let xs ← ledger (Service.listTransfers f)
    pure (showAs inv.json (.list (xs.map fun t => recordJson t.fields)) (transfersTable xs))
  | .listEntries account page => do
    let p ← needPrincipal inv
    let xs ← ledger (Service.listEntries p account page)
    pure (showAs inv.json (.list (xs.map fun e => recordJson e.fields)) (entriesTable xs))
  | .init | .check => pure ""

/-- The outcome of an action, with the pool it leaves. -/
def conclude (x : CliAct String) (p : Pool) : Outcome × Pool :=
  match x p with
  | .ok out p' => (⟨out, .success, p'.trace⟩, p')
  | .error (.fail e) p' => (⟨"", .failure e, p'.trace⟩, p')
  | .error (.abort a) p' => (⟨"", .aborted a, p'.trace⟩, p')

/-- The integrity check: the report is printed, and an unhealthy ledger then fails. -/
def checkCommand (inv : Invocation) (p : Pool) : Outcome × Pool :=
  match Service.checkIntegrity p with
  | .ok r p' =>
    let out := showAs inv.json (.record r.fields) (reportText r)
    (⟨out, if r.healthy then .success else .failure .unhealthy, p'.trace⟩, p')
  | .error (.fail e) p' => (⟨"", .failure (.ledger e), p'.trace⟩, p')
  | .error (.abort a) p' => (⟨"", .aborted a, p'.trace⟩, p')

/-- Runs an invocation on the files of a working directory; the command's own pool closes
when it ends. -/
def execute (inv : Invocation) (d : Directory) : Outcome × Directory :=
  match inv.command with
  | .init =>
    match d.initLedger inv.config with
    | .ok o =>
      (⟨"Database initialized: " ++ inv.database ++ "\n", .success, []⟩,
        d.afterClose o.log { o.dir with log := o.log })
    | .error f => (⟨"", .failure (.ledger (.database f)), []⟩, d)
  | cmd =>
    match d.connect inv.config with
    | .error f => (⟨"", .failure (.ledger (.database f)), []⟩, d)
    | .ok o =>
      let shared := { o.dir with log := o.log }
      let p := shared.pool o.location true
      let (out, p') := match cmd with
        | .check => checkCommand inv p
        | _ => conclude (dispatch inv cmd) p
      (out, d.afterClose o.log (shared.keep o.location p').1)

end Cli
end DoubleEntry
