import DoubleEntry.Page
import DoubleEntry.Transfer

/-!
# DoubleEntry.Cli.Invocation

A command line that was understood: the settings of the program and the one command to
run. Amounts and currency codes stay as typed, because the command itself reads them and
reports a wrong one as its own error, after other checks.
-/

namespace DoubleEntry
namespace Cli

/-- The commands the program runs. -/
inductive Command where
  | init
  | createAccount (currency balance : String)
  | listAccounts (page : Page)
  | showAccount (id : Int)
  | deleteAccount (id : Int)
  | transfer (amount : String) (source destination : Int) (currency : String)
  | listTransfers (filter : TransferFilter)
  | listEntries (account : Int) (page : Page)
  | check
  deriving DecidableEq, Repr

/-- A command line that was understood. -/
structure Invocation where
  database : String
  maxConnections : Nat
  busyTimeoutMs : Nat
  principal : Option String
  json : Bool
  verbose : Bool
  command : Command
  deriving DecidableEq, Repr

end Cli
end DoubleEntry
