import DoubleEntry.Cli.Parse
import DoubleEntry.Cli.Run
import DoubleEntry.Cli.Trace
import DoubleEntry.Store.LedgerFile

/-!
# DoubleEntry.Main

The command-line program. It reads the environment variables the grammar names, parses
its arguments, loads the database file it names from disk (in the text form of
`DbFile.toText`), runs the command, writes the file back when the command changed it, and
prints what the command printed, after the diagnostic lines that `RUST_LOG` lets through.
Everything else happens in the library.

The runtime this program links has no calendar clock, so a diagnostic line carries the
start of the epoch as its time.
-/

namespace DoubleEntry
namespace Main

/-- The variables of the environment that the command line reads. -/
def readEnv : IO (List (String × String)) :=
  (Cli.topArgs.filterMap (·.env)).filterMapM fun n => do
    match ← IO.getEnv n with
    | some v => pure (some (n, v))
    | none => pure none

def epoch : String := "1970-01-01T00:00:00.000000Z"

def load (path : String) : IO (Option String) := do
  try pure (some (← IO.FS.readFile path)) catch _ => pure none

/-- Runs the program on its arguments and answers its exit status. -/
def run (args : List String) : IO UInt32 := do
  let env ← readEnv
  let out ← IO.getStdout
  let err ← IO.getStderr
  match Cli.parseCommandLine args env with
  | .error r =>
    let colour := Cli.Refusal.colourForced (← IO.getEnv "CLICOLOR_FORCE") (← IO.getEnv "NO_COLOR")
    (if r.toStdout then out else err).putStr (r.text env colour)
    pure r.exitCode.toUInt32
  | .ok inv =>
    let text ← load inv.database
    match text.map DbFile.ofText? with
    | some none =>
      err.putStrLn ("Error: " ++ inv.database ++ " is not a ledger database file")
      pure 1
    | found =>
      let before := found.join
      let dir : Directory :=
        match before with
        | some f => { files := [(inv.database, ⟨f, .writeAhead⟩)] }
        | none => {}
      let (o, dir') := Cli.execute inv dir
      let after := dir'.find? inv.database
      if after != before then
        match after with
        | some f => IO.FS.writeFile inv.database f.toText
        | none => pure ()
      let filter := Cli.filterOf (← IO.getEnv "RUST_LOG") inv.verbose
      let colour := ((← IO.getEnv "NO_COLOR").getD "").isEmpty
      out.putStr o.stdout
      err.putStr (o.errorStream filter colour epoch)
      pure o.exitCode.toUInt32

end Main
end DoubleEntry

def main (args : List String) : IO UInt32 := DoubleEntry.Main.run args
