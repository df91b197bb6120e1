/-!
# DoubleEntry.Config

How to reach a ledger database: the file, the size of the connection pool, how long to
wait for the write lock, and whether a missing file may be created. A pool always has at
least one connection.
-/

namespace DoubleEntry

/-- Connection settings of a ledger database. -/
structure LedgerConfig where
  databasePath : String
  maxConnections : Nat
  busyTimeoutMs : Nat
  createIfMissing : Bool
  deriving DecidableEq, Repr

namespace LedgerConfig

def defaultDatabase : String := "bursar.db"

/-- Settings for a file, with five connections, a five-second wait, and no creation. -/
def new (path : String) : LedgerConfig := ⟨path, 5, 5000, false⟩

def default : LedgerConfig := new defaultDatabase

/-- Sets the pool size; zero is raised to one. -/
def withMaxConnections (c : LedgerConfig) (n : Nat) : LedgerConfig :=
  { c with maxConnections := max n 1 }

def withBusyTimeout (c : LedgerConfig) (ms : Nat) : LedgerConfig :=
  { c with busyTimeoutMs := ms }

def withCreateIfMissing (c : LedgerConfig) (b : Bool) : LedgerConfig :=
  { c with createIfMissing := b }

theorem maxConnections_pos (c : LedgerConfig) (n : Nat) :
    0 < (c.withMaxConnections n).maxConnections := by
  show 0 < max n 1
  omega

end LedgerConfig
end DoubleEntry
