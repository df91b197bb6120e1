import DoubleEntry.Script.Call
import DoubleEntry.Store.Memory

/-!
# DoubleEntry.Script.Memory

Scripts on the in-memory ledger. Besides service requests and store calls, a script can
seed accounts as given, arm a failure, and look at the call log, the number of
transactions begun and the rows, without logging anything. Looking at the rows through a
poisoned lock aborts.
-/

namespace DoubleEntry
namespace Script

/-- Answers one step on the in-memory store. -/
def memStep (st : MemStep) (m : MemoryStore) : Reply × MemoryStore :=
  match st with
  | .call c => settle (callAct c) m
  | .seed a => settle (answer .failed ((fun _ => Datum.null) <$> MemoryStore.seed a)) m
  | .failOn op => (.done .null, m.arm op)
  | .calls => (.done (.list (m.calls.map Datum.str)), m)
  | .transactionsStarted => (.done (.int m.started), m)
  | .account id =>
    settle (answer .failed (MemoryStore.readData fun d => optAccount (d.accounts.find? (·.id == id)))) m
  | .entries => settle (answer .failed (MemoryStore.readData fun d => entriesDatum d.entries)) m
  | .transfers => settle (answer .failed (MemoryStore.readData fun d => transfersDatum d.transfers)) m
  | .tx steps abort => txReply steps abort m
  | .inTx c => inTxReply c m

def runMemory (steps : List MemStep) : List Reply :=
  (steps.foldl (fun (acc, m) st => let (r, m') := memStep st m; (acc ++ [r], m')) ([], ({} : MemoryStore))).1

end Script
end DoubleEntry
