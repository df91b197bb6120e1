import DoubleEntry.Error
import DoubleEntry.Account
import DoubleEntry.Entry
import DoubleEntry.Transfer
import DoubleEntry.Page
import DoubleEntry.Signed64
import DoubleEntry.Store.Listing

/-!
# DoubleEntry.Store.Tables

The ledger's three tables as a relational database keeps them, with their constraints.

* Each table numbers its rows from its own counter: a new row takes one more than the
  largest id the table has ever given, so an id is never given twice, even after the row
  is deleted. A statement that fails gives its id back.
* The counters are unbounded integers. The engine refuses an insert once a table has given
  the largest 64-bit id, `9223372036854775807`; these tables assume no table gets there, and
  give the next id instead.
* `accounts`: the balance must stay a 64-bit integer; an increment that leaves the range
  is refused by the constraint `typeof(balance) = 'integer'`.
* `transfers`: the amount is positive, the two accounts differ, and both exist.
* `entries`: the account exists, and so does the transfer when one is named.
* An account that a transfer names cannot be deleted.

Every statement either succeeds with its whole effect or fails with a `DbCause` and no
effect. Rows are kept in id order.

Main statements: `insertAccount_id` (a new account takes the next id of its counter) and
`addBalance_fits` (a stored balance never leaves the 64-bit range).
-/

namespace DoubleEntry

/-- The tables of a ledger database and the largest id each table has given. -/
structure Tables where
  accounts : List Account := []
  entries : List Entry := []
  transfers : List Transfer := []
  accountSeq : Int := 0
  entrySeq : Int := 0
  transferSeq : Int := 0
  deriving DecidableEq, Repr

namespace Tables

def empty : Tables := {}

def account? (t : Tables) (id : Int) : Option Account :=
  t.accounts.find? (·.id == id)

def lookupEntry (t : Tables) (id : Int) : Option Entry :=
  t.entries.find? (·.id == id)

def transfer? (t : Tables) (id : Int) : Option Transfer :=
  t.transfers.find? (·.id == id)

def insertAccount (t : Tables) (a : NewAccount) : Account × Tables :=
  let row : Account := ⟨t.accountSeq + 1, a.owner, 0, a.currency⟩
  (row, { t with accounts := t.accounts ++ [row], accountSeq := row.id })

def accountsOf (t : Tables) (owner : String) (page : Page) : List Account :=
  page.window (t.accounts.filter (·.owner == owner))

/-- Deletes an account that has no entries. Answers whether a row was deleted; deleting an
account that a transfer names breaks a foreign key. -/
def deleteAccount (t : Tables) (id : Int) : Except DbCause (Bool × Tables) :=
  if (t.account? id).isNone || t.entries.any (·.accountId == id) then .ok (false, t)
  else if t.transfers.any (·.involves id) then .error .foreignKey
  else .ok (true, { t with accounts := t.accounts.filter (·.id != id) })

def balanceConstraint : String := "typeof(balance) = 'integer'"

/-- Adds to an account's balance and answers the new balance, or `none` when there is no
such account. A result outside the 64-bit range is refused. -/
def addBalance (t : Tables) (id delta : Int) : Except DbCause (Option Int × Tables) :=
  match t.account? id with
  | none => .ok (none, t)
  | some a =>
    if Signed64.Fits (a.balance + delta) then
      .ok (some (a.balance + delta),
        { t with accounts := t.accounts.map fun x =>
            if x.id = id then { x with balance := a.balance + delta } else x })
    else .error (.checkFailed balanceConstraint)

/-- Writes an entry with the next entry id; its account, and its transfer when it names
one, must exist. -/
def insertEntry (t : Tables) (account amount : Int) (transfer : Option Int) :
    Except DbCause (Entry × Tables) :=
  if (t.account? account).isNone || (transfer.any fun i => (t.transfer? i).isNone) then
    .error .foreignKey
  else
    let row : Entry := ⟨t.entrySeq + 1, account, amount, transfer⟩
    .ok (row, { t with entries := t.entries ++ [row], entrySeq := row.id })

def entriesOf (t : Tables) (account : Int) (page : Page) : List Entry :=
  page.window (t.entries.filter (·.accountId == account))

def countEntries (t : Tables) (account : Int) : Nat :=
  (t.entries.filter (·.accountId == account)).length

/-- Writes a transfer with the next transfer id. The checks run in the order the table
declares them: positive amount, distinct accounts, then existing accounts. -/
def insertTransfer (t : Tables) (src dst amount : Int) : Except DbCause (Transfer × Tables) :=
  if amount ≤ 0 then .error (.checkFailed "amount > 0")
  else if src = dst then .error (.checkFailed "from_account_id <> to_account_id")
  else if (t.account? src).isNone || (t.account? dst).isNone then .error .foreignKey
  else
    let row : Transfer := ⟨t.transferSeq + 1, src, dst, amount⟩
    .ok (row, { t with transfers := t.transfers ++ [row], transferSeq := row.id })

/-- The transfers a filter lists: the statement it writes, run with the values it binds
(`TransferFilter.listQuery`), which binds every placeholder and so is never refused. -/
def transfersMatching (t : Tables) (f : TransferFilter) : List Transfer :=
  match h : f.listQuery.run f.listBinds t.transfers with
  | .ok rows => rows
  | .error e => absurd h (f.listQuery_run_ne_error t.transfers e)

/-- Sums amounts from zero in order; fails as soon as a partial sum leaves the range. -/
def runningSum : List Int → Int → Except DbCause Int
  | [], acc => .ok acc
  | x :: xs, acc =>
    match Signed64.add? acc x with
    | some s => runningSum xs s
    | none => .error .integerOverflow

def entryAccounts (t : Tables) : List Int :=
  ((t.entries.map (·.accountId)).eraseDups).mergeSort (· ≤ ·)

/-- The sum of each account's entries, for the accounts that have entries, by increasing
account id. Each sum is taken in entry-id order, and a partial sum that leaves the 64-bit
range fails the whole query. -/
def entryTotals (t : Tables) : Except DbCause (List (Int × Int)) :=
  (t.entryAccounts).mapM fun a =>
    (runningSum ((t.entries.filter (·.accountId == a)).map (·.amount)) 0).map (a, ·)

def linkedEntries (t : Tables) : List (Transfer × List Entry) :=
  t.transfers.map fun x => (x, t.entries.filter (·.transferId == some x.id))

theorem insertAccount_id (t : Tables) (a : NewAccount) :
    (t.insertAccount a).1.id = t.accountSeq + 1 := rfl

theorem addBalance_fits {t t' : Tables} {id delta b : Int}
    (h : t.addBalance id delta = .ok (some b, t')) : Signed64.Fits b := by
  unfold addBalance at h
  split at h
  · simp at h
  · split at h
    · simp only [Except.ok.injEq, Prod.mk.injEq, Option.some.injEq] at h
      rw [← h.1]
      assumption
    · simp at h

end Tables
end DoubleEntry
