import DoubleEntry.Abort
import DoubleEntry.Error
import DoubleEntry.Export

/-!
# DoubleEntry.Script.Reply

The answer to one step of a script: a result, a ledger error, a store fault, an abort, a
request that could not be read, or a command line that could not be parsed. Each answer
is written as a record with either a `result` field or an `error` field naming what went
wrong and a `message`; a ledger error also names its `kind`.
-/

namespace DoubleEntry
namespace Script

/-- The answer to a step. -/
inductive Reply where
  | done (d : Datum)
  | refused (e : LedgerError)
  | failed (f : Fault)
  | aborted (a : Abort)
  | malformed (message : String)
  /-- The command line was refused by its parser; `kind` names the refusal. -/
  | unparsed (kind : String)
  deriving Repr

namespace Reply

def isError : Reply → Bool
  | .done _ => false
  | _ => true

/-- The written form of an answer. -/
def toDatum : Reply → Datum
  | .done d => .record [("result", d)]
  | .refused e =>
    .record [("error", .str e.caseName), ("kind", .str e.kind.name), ("message", .str e.message)]
  | .failed f => .record [("error", .str "Database"), ("message", .str f.message)]
  | .aborted a => .record [("error", .str "panic"), ("message", .str a.message)]
  | .malformed m => .record [("error", .str "bad_input"), ("message", .str m)]
  | .unparsed k => .record [("error", .str "clap"), ("message", .str k)]

end Reply
end Script
end DoubleEntry
