import DoubleEntry.Store.Basic
import DoubleEntry.Store.Tables

/-!
# DoubleEntry.Store.Pool

The relational store behind the ledger: a database file reached through a pool of
connections. A file is either blank (it has no tables yet) or holds the ledger's tables. A
pool opened for reading only refuses every statement that writes.

Outside a transaction each call takes a connection from the pool, which fails once the
pool is closed; inside one the transaction's own connection is used. A statement on a
blank file fails because its first table does not exist. Each call names, in its
failure, what it was doing.

A transaction begins only on an open pool and outside another transaction. Its writes
are kept when the body answers, and the file is put back as it was when the body fails
or aborts. The pool keeps the diagnostic events reported on it, the end of each
transaction among them, and whether any statement has reached the file.

Main statement: `transact_rolledBack` (a failed body leaves the pool as it was, but for
the events it reported and the file having been reached).
-/

namespace DoubleEntry

/-- A database file. -/
inductive DbFile where
  /-- A file without tables. -/
  | blank
  /-- A file with the ledger's tables. -/
  | ledger (t : Tables)
  deriving DecidableEq, Repr

/-- Creating the tables keeps those that exist. -/
def DbFile.migrate : DbFile → DbFile
  | .blank => .ledger Tables.empty
  | .ledger t => .ledger t

/-- A pool of connections to one database file, which it may only read. -/
structure Pool where
  file : DbFile
  isOpen : Bool := true
  inTx : Bool := false
  readOnly : Bool := false
  /-- The diagnostic events reported so far, oldest first. -/
  trace : List Event := []
  /-- Whether a statement has reached the file, which takes a read of it. -/
  touched : Bool := false
  deriving DecidableEq, Repr

namespace Pool

def note (p : Pool) (e : Event) : Pool := { p with trace := p.trace ++ [e] }

/-- Runs one statement, in a connection of its own or in the transaction's. `context`
says what the call was doing, `table` is the first table the statement names, and
`writes` whether it changes the file, which a pool that may only read refuses. -/
def statement {α : Type} (context table : String) (writes : Bool)
    (run : Tables → Except DbCause (α × Tables)) : Act Pool Fault α := fun p =>
  if !p.inTx && !p.isOpen then .error (.fail (.closedPool "Failed to acquire database connection")) p
  else
    let p := { p with touched := true }
    match p.file with
    | .blank => .error (.fail (.engine context (.noSuchTable table))) p
    | .ledger t =>
      if writes && p.readOnly then .error (.fail (.engine context .readOnly)) p
      else
        match run t with
        | .ok (a, t') => .ok a { p with file := .ledger t' }
        | .error c => .error (.fail (.engine context c)) p

def query {α : Type} (context table : String) (read : Tables → α) : Act Pool Fault α :=
  statement context table false fun t => .ok (read t, t)

/-- Runs a body as one transaction. The events the body reported stay reported when its
writes are undone. -/
def transact {ε α : Type} (body : Act Pool ε α) (p : Pool) : TxEnd ε α × Pool :=
  if p.inTx then (.refused .nested, p.note .nestedRefused)
  else if !p.isOpen then (.refused .closedPool, p)
  else
    match body { p with inTx := true } with
    | .ok a p' => (.committed a, { p' with inTx := false }.note .committed)
    | .error (.fail e) p' =>
      (.rolledBack e, { p with trace := p'.trace, touched := p'.touched }.note .rolledBack)
    | .error (.abort x) p' =>
      (.aborted x, { p with trace := p'.trace, touched := p'.touched }.note .rolledBack)

theorem transact_rolledBack {ε α : Type} {body : Act Pool ε α} {p q : Pool} {e : ε}
    (h : transact body p = (.rolledBack e, q)) :
    q = { p with trace := q.trace, touched := q.touched } := by
  unfold transact at h
  split at h
  · simp at h
  · split at h
    · simp at h
    · split at h
      · simp at h
      · simp only [Prod.mk.injEq] at h
        rw [← h.2]
        rfl
      · simp at h

end Pool

instance : LedgerStore Pool where
  inTransaction p := p.inTx
  createAccount a := Pool.statement "Failed to create account" "accounts" true fun t =>
    .ok (t.insertAccount a)
  getAccount id := Pool.query "Failed to fetch account" "accounts" (·.account? id)
  listAccounts owner page := Pool.query "Failed to list accounts" "accounts" (·.accountsOf owner page)
  deleteAccount id := Pool.statement "Failed to delete account" "accounts" true (·.deleteAccount id)
  addBalance id delta :=
    Pool.statement s!"Failed to add {delta} to balance of account {id}" "accounts" true
      (·.addBalance id delta)
  createEntry account amount transfer := Pool.statement "Failed to create entry" "entries" true
    (·.insertEntry account amount transfer)
  getEntry id := Pool.query "Failed to fetch entry" "entries" (·.lookupEntry id)
  listEntries account page := Pool.query "Failed to list entries" "entries" (·.entriesOf account page)
  countEntries account := Pool.query "Failed to count entries" "entries" (·.countEntries account)
  createTransfer src dst amount := Pool.statement "Failed to create transfer" "transfers" true
    (·.insertTransfer src dst amount)
  getTransfer id := Pool.query "Failed to fetch transfer" "transfers" (·.transfer? id)
  listTransfers f := Pool.query "Failed to list transfers" "transfers" (·.transfersMatching f)
  transact := Pool.transact
  note e p := p.note e

end DoubleEntry
