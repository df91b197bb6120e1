import DoubleEntry.Account
import DoubleEntry.Posting

/-!
# DoubleEntry.Integrity

The integrity report of a ledger. It compares each account's stored balance with the sum
of its entries, names entries whose account no longer exists, and checks that every
transfer is carried by exactly its two postings. Issues come in that order: balance
mismatches in account order, unknown accounts by increasing id, then transfer issues in
transfer order. The reported total is the sum of all balances, clamped to the 64-bit range.

Main statement: `healthy_iff` (a report is healthy exactly when it lists no issue).
-/

namespace DoubleEntry

/-- One inconsistency found by the integrity check. -/
inductive Issue where
  | balanceMismatch (account stored fromEntries : Int)
  | transferEntries (transfer : Int) (reason : String)
  | unknownAccount (account : Int)
  deriving DecidableEq, Repr

/-- The sentence that describes an issue. -/
def Issue.describe : Issue → String
  | .balanceMismatch a s f => s!"Account {a}: stored balance {s} but entries sum to {f}"
  | .transferEntries t r => s!"Transfer {t}: {r}"
  | .unknownAccount a => s!"Entries reference unknown account {a}"

/-- The result of an integrity check. -/
structure Report where
  accountCount : Nat
  transferCount : Nat
  entryCount : Nat
  totalBalance : Int
  issues : List Issue
  deriving DecidableEq, Repr

def Report.healthy (r : Report) : Bool := r.issues.isEmpty

theorem Report.healthy_iff (r : Report) : r.healthy = true ↔ r.issues = [] := by
  simp [Report.healthy]

/-- The entry sum of an account in a table of sums, where a later row for one account
replaces an earlier one and an account without a row sums to zero. -/
def sumFor (totals : List (Int × Int)) (account : Int) : Int :=
  match totals.reverse.find? (·.1 == account) with
  | some (_, s) => s
  | none => 0

/-- The balance mismatches, in account order. -/
def mismatches (accounts : List Account) (totals : List (Int × Int)) : List Issue :=
  accounts.filterMap fun a =>
    let s := sumFor totals a.id
    if a.balance ≠ s then some (.balanceMismatch a.id a.balance s) else none

/-- The accounts that have entry sums but no row, each once, by increasing id. -/
def unknownAccounts (accounts : List Account) (totals : List (Int × Int)) : List Int :=
  let ids := (totals.map (·.1)).eraseDups
  (ids.filter fun i => !accounts.any (·.id == i)).mergeSort (· ≤ ·)

/-- The transfer issues, in transfer order; a check that aborts ends the report. -/
def transferIssues : List (Transfer × List Entry) → Except Abort (List Issue)
  | [] => .ok []
  | (t, es) :: rest => do
    let v ← verifyEntries t es
    let more ← transferIssues rest
    match v with
    | some f => pure (.transferEntries t.id f.reason :: more)
    | none => pure more

/-- The sum of the balances, clamped to the 64-bit range at each step. -/
def totalBalance (accounts : List Account) : Int :=
  accounts.foldl (fun acc a => Signed64.addSat acc a.balance) 0

/-- Builds the report from the accounts, the entry sums per account, each transfer with
its linked entries, and the number of entries. -/
def buildReport (accounts : List Account) (totals : List (Int × Int))
    (transfers : List (Transfer × List Entry)) (entryCount : Nat) : Except Abort Report := do
  let tissues ← transferIssues transfers
  pure {
    accountCount := accounts.length
    transferCount := transfers.length
    entryCount := entryCount
    totalBalance := totalBalance accounts
    issues := mismatches accounts totals ++
      (unknownAccounts accounts totals).map Issue.unknownAccount ++ tissues }

end DoubleEntry
