import DoubleEntry.Account
import DoubleEntry.Transfer

/-!
# DoubleEntry.Script.Request

A script drives a ledger step by step. These are the requests it can make: service
requests (the ledger's rules), direct store calls (which bypass the rules, and can
tamper with the ledger), transaction bodies made of store calls, the command line, and
the management of database connections. Currencies arrive as codes and are read by the
step that uses them.
-/

namespace DoubleEntry
namespace Script

inductive ServiceRequest where
  | createAccount (owner currency : String) (opening : Int)
  | getAccount (principal : String) (id : Int)
  | listAccounts (owner : String) (page : Page)
  | deleteAccount (principal : String) (id : Int)
  | listEntries (principal : String) (account : Int) (page : Page)
  | getTransfer (id : Int)
  | listTransfers (filter : TransferFilter)
  | createTransfer (principal : String) (src dst amount : Int) (currency : String)
  deriving Repr

inductive StoreRequest where
  | inTransaction
  | createAccount (owner currency : String)
  | getAccount (id : Int)
  | listAccounts (owner : String) (page : Page)
  | deleteAccount (id : Int)
  | addBalance (id delta : Int)
  | createEntry (account amount : Int) (transfer : Option Int)
  | getEntry (id : Int)
  | listEntries (account : Int) (page : Page)
  | countEntries (account : Int)
  | createTransfer (src dst amount : Int)
  | getTransfer (id : Int)
  | listTransfers (filter : TransferFilter)
  deriving Repr

/-- A service request, a store call, or a request that could not be read. -/
inductive Call where
  | service (r : ServiceRequest)
  | store (r : StoreRequest)
  | malformed (message : String)
  deriving Repr

inductive TxStep where
  | store (r : StoreRequest)
  | nested
  | panic
  | malformed (message : String)
  deriving Repr

/-- A step of a script on the relational ledger. -/
inductive Step where
  | call (c : Call)
  | checkIntegrity
  /-- Store calls as one transaction; with `abort` a body that succeeded is undone. -/
  | tx (steps : List TxStep) (abort : Bool)
  /-- The command line, run as its own program in the working directory. -/
  | command (args : List String) (env : List (String × String))
  /-- The command line, parsed and run inside the script. -/
  | commandInProcess (args : List String) (env : List (String × String))
  | close
  | reconnect
  | connect (path : String) (create init : Bool)
  deriving Repr

/-- A step of a script on the in-memory ledger. -/
inductive MemStep where
  | call (c : Call)
  | seed (a : Account)
  | failOn (operation : String)
  | calls
  | transactionsStarted
  | account (id : Int)
  | entries
  | transfers
  | tx (steps : List TxStep) (abort : Bool)
  /-- One call run as a transaction, kept when its answer is not an error. -/
  | inTx (c : Call)
  deriving Repr

end Script
end DoubleEntry
