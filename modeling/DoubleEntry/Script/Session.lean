import DoubleEntry.Script.Call
import DoubleEntry.Cli.Parse
import DoubleEntry.Cli.Run
import DoubleEntry.Script.Masking

/-!
# DoubleEntry.Script.Session

Scripts on the relational ledger. A session starts in a working directory holding one
initialised file, `ledger.db`, with an open pool on it. Service requests, store calls,
transactions and the integrity check run on the current pool; closing it makes later
calls fail, reconnecting closes it and opens `ledger.db` again, and connecting opens
another database (creating or initialising it when asked) while the old pool is still
open, then closes the old one. A failed connection keeps the session as it was.

The command line runs on `ledger.db` with its own connection, either as a program of its
own (answering its exit status and both output streams, diagnostic lines included) or
parsed and run in the session (answering its output and its failure). Clock readings in
its output are masked.
-/

namespace DoubleEntry
namespace Script

/-- The state of a session: the working directory, where the session's pool keeps its
data, and whether the pool is open. -/
structure Session where
  dir : Directory :=
    { files := [("ledger.db", ⟨.ledger Tables.empty, .writeAhead⟩)],
      log := some ⟨"ledger.db", true, true⟩ }
  location : Location := .file "ledger.db" false
  isOpen : Bool := true
  deriving Repr

namespace Session

def homeFile : String := "ledger.db"

def pool (s : Session) : Pool := s.dir.pool s.location s.isOpen

/-- Runs a step on the current pool, keeping the database it leaves. -/
def onPool (s : Session) (run : Pool → Reply × Pool) : Reply × Session :=
  let (r, p) := run s.pool
  let (d, loc) := s.dir.keep s.location p
  (r, { s with dir := d, location := loc })

/-- The directory once the session's pool has closed: the log of its file goes with the
last connection to it. -/
def closedDir (s : Session) : Directory :=
  match s.dir.log with
  | some l => { s.dir.dropLog l with log := none }
  | none => s.dir

/-- The session after a pool opens; then the old pool closes, which removes its log when
the new pool does not share it. -/
def openedOn (o : Opened) (s : Session) : Session :=
  let dir :=
    match s.dir.log with
    | some l => if (o.log.map Log.file) == some l.file then o.dir else o.dir.dropLog l
    | none => o.dir
  { dir := { dir with log := o.log }, location := o.location, isOpen := true }

end Session

/-- The answer to the integrity check. -/
def checkReply (p : Pool) : Reply × Pool :=
  match Service.checkIntegrity p with
  | .ok r p' => (.done r.toDatum, p')
  | .error (.fail e) p' => (.refused e, p')
  | .error (.abort a) p' => (.aborted a, p')

def commandWords (args : List String) : List String := "--database" :: "ledger.db" :: args

def lookupVar (env : List (String × String)) (name : String) : Option String :=
  (env.find? (·.1 == name)).map (·.2)

/-- The clock of a session, which always reads the same instant; masking hides it. -/
def clockReading : String := "1970-01-01T00:00:00.000000Z"

/-- The answer of the command line run as its own program. Its environment holds only
`RUST_LOG=off` and the variables given; clock readings are masked in both streams. -/
def commandReply (args : List String) (env : List (String × String)) (d : Directory) :
    Reply × Directory :=
  let streams (code : Nat) (out err : String) : Datum :=
    .record [("exit_code", .int code), ("stdout", .str (maskClock out)),
      ("stderr", .str (maskClock err))]
  match Cli.parseCommandLine (commandWords args) env with
  | .error r =>
    let t := r.text env
      (Cli.Refusal.colourForced (lookupVar env "CLICOLOR_FORCE") (lookupVar env "NO_COLOR"))
    (.done (if r.toStdout then streams r.exitCode t "" else streams r.exitCode "" t), d)
  | .ok inv =>
    let (o, d') := Cli.execute inv d
    let filter := Cli.filterOf (some ((lookupVar env "RUST_LOG").getD "off")) inv.verbose
    let colour := ((lookupVar env "NO_COLOR").getD "").isEmpty
    (.done (streams o.exitCode o.stdout (o.errorStream filter colour clockReading)), d')

/-- The answer of the command line parsed and run in the session. -/
def commandInProcessReply (args : List String) (env : List (String × String)) (d : Directory) :
    Reply × Directory :=
  match Cli.parseCommandLine (commandWords args) env with
  | .error r => (.unparsed r.kindName, d)
  | .ok inv =>
    let (o, d') := Cli.execute inv d
    let failure : Datum := match o.ending with
      | .failure e =>
        .record [("ledger_kind", (e.kind.map fun k => Datum.str k.name).getD .null),
          ("message", .str e.message)]
      | _ => .null
    match o.ending with
    | .aborted a => (.aborted a, d')
    | _ => (.done (.record [("stdout", .str (maskClock o.stdout)), ("error", failure)]), d')

/-- Answers one step of a session. -/
def sessionStep (st : Step) (s : Session) : Reply × Session :=
  match st with
  | .call c => s.onPool (settle (callAct c))
  | .checkIntegrity => s.onPool checkReply
  | .tx steps abort => s.onPool (txReply steps abort)
  | .command args env =>
    let (r, d) := commandReply args env s.dir
    (r, { s with dir := d })
  | .commandInProcess args env =>
    let (r, d) := commandInProcessReply args env s.dir
    (r, { s with dir := d })
  | .close => (.done .null, { s with isOpen := false, dir := s.closedDir })
  | .reconnect =>
    let closed := { s with isOpen := false, dir := s.closedDir }
    match closed.dir.connect (LedgerConfig.new Session.homeFile) with
    | .ok o => (.done .null, closed.openedOn o)
    | .error f => (.refused (.database f), closed)
  | .connect path create init =>
    let c := (LedgerConfig.new path).withCreateIfMissing create
    match (if init then s.dir.initLedger c else s.dir.connect c) with
    | .ok o => (.done .null, s.openedOn o)
    | .error f => (.refused (.database f), s)

def runSession (steps : List Step) : List Reply :=
  (steps.foldl (fun (acc, s) st => let (r, s') := sessionStep st s; (acc ++ [r], s'))
    ([], ({} : Session))).1

end Script
end DoubleEntry
