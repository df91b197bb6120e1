import DoubleEntry.Integrity
import DoubleEntry.Service
import DoubleEntry.Store.Pool

/-!
# DoubleEntry.Store.Snapshot

The integrity check of a relational ledger. Everything it compares is read in one
transaction, so the parts agree with each other: all accounts by id, the sum of each
account's entries, the number of entries, and each transfer with its linked entries. The
report is then built from these (`buildReport`), and a report with issues is reported
as a diagnostic event.

The entry sums are taken by the database engine, which fails the whole read when a
partial sum of one account's entries, in entry order, leaves the 64-bit range.
-/

namespace DoubleEntry

/-- What the integrity check reads. -/
structure Snapshot where
  accounts : List Account
  totals : List (Int × Int)
  entryCount : Nat
  transfers : List (Transfer × List Entry)
  deriving DecidableEq, Repr

/-- Reads a snapshot in its own transaction on an open pool. -/
def Pool.snapshot : Act Pool Fault Snapshot := fun p =>
  if !p.isOpen then .error (.fail (.closedPool "Failed to begin integrity snapshot")) p
  else
    match p.file with
    | .blank => .error (.fail (.engine "Failed to list all accounts" (.noSuchTable "accounts"))) p
    | .ledger t =>
      match t.entryTotals with
      | .error c => .error (.fail (.engine "Failed to sum entries" c)) p
      | .ok totals => .ok ⟨t.accounts, totals, t.entries.length, t.linkedEntries⟩ p

/-- Checks the ledger's integrity. -/
def Service.checkIntegrity : Act Pool LedgerError Report := do
  let s ← Service.store Pool.snapshot
  let r ← Act.ofExcept (buildReport s.accounts s.totals s.transfers s.entryCount)
  if !r.healthy then Service.note (.integrityFailed r.issues.length)
  pure r

end DoubleEntry
