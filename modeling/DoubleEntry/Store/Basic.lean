import DoubleEntry.Account
import DoubleEntry.Entry
import DoubleEntry.Error
import DoubleEntry.Event
import DoubleEntry.Transfer

/-!
# DoubleEntry.Store.Basic

What the ledger needs from a store. A store is a state `σ` with the twelve calls of the
ledger's tables (open, read, list and delete accounts; add to a balance; write, read, list
and count entries; write, read and list transfers) and a way to run a body of calls as one
transaction.

A call is an `Act`: a function of the state that answers, fails, or aborts, and returns the
state in every case, since even a failed call may leave a trace (a call log). A
transaction either commits the body's writes, or rolls them back and hands back the body's
failure, or aborts after rolling back, or refuses to begin: inside another transaction, or
with the pool closed. A store also takes the ledger's diagnostic events, which it may keep.
-/

namespace DoubleEntry

/-- How a call ends without a value. -/
inductive Halt (ε : Type) where
  | fail (e : ε)
  | abort (a : Abort)
  deriving Repr

/-- A call on a store state `σ` answering `α`, failing with `ε`, or aborting. -/
abbrev Act (σ ε α : Type) := EStateM (Halt ε) σ α

namespace Act

def fail {σ ε α : Type} (e : ε) : Act σ ε α := throw (.fail e)

def abort {σ ε α : Type} (a : Abort) : Act σ ε α := throw (.abort a)

/-- Renames the failures of a call; answers and aborts pass unchanged. -/
def mapFail {σ ε ε' α : Type} (f : ε → ε') (x : Act σ ε α) : Act σ ε' α := fun s =>
  match x s with
  | .ok a s' => .ok a s'
  | .error (.fail e) s' => .error (.fail (f e)) s'
  | .error (.abort a) s' => .error (.abort a) s'

def ofExcept {σ ε α : Type} : Except Abort α → Act σ ε α
  | .ok a => pure a
  | .error a => abort a

end Act

/-- Why a transaction did not begin. -/
inductive Refusal where
  | nested
  | closedPool
  deriving DecidableEq, Repr

def Refusal.toError : Refusal → LedgerError
  | .nested => .nested
  | .closedPool => .beginFailed

/-- How a transaction ended. -/
inductive TxEnd (ε α : Type) where
  /-- The body answered; its writes are kept. -/
  | committed (a : α)
  /-- The body failed; its writes are undone. -/
  | rolledBack (e : ε)
  /-- The transaction did not begin and the body did not run. -/
  | refused (r : Refusal)
  /-- The body, or the undoing of its writes, aborted. -/
  | aborted (a : Abort)

/-- A store of accounts, entries and transfers. -/
class LedgerStore (σ : Type) where
  /-- Whether the store is inside a transaction. -/
  inTransaction : σ → Bool
  createAccount : NewAccount → Act σ Fault Account
  getAccount : Int → Act σ Fault (Option Account)
  listAccounts : String → Page → Act σ Fault (List Account)
  /-- Deletes an account without entries; `false` when there is no such account or it has
  entries. -/
  deleteAccount : Int → Act σ Fault Bool
  /-- Adds to a stored balance and answers the new one, or `none` without such account. -/
  addBalance : Int → Int → Act σ Fault (Option Int)
  createEntry : Int → Int → Option Int → Act σ Fault Entry
  getEntry : Int → Act σ Fault (Option Entry)
  listEntries : Int → Page → Act σ Fault (List Entry)
  countEntries : Int → Act σ Fault Nat
  createTransfer : Int → Int → Int → Act σ Fault Transfer
  getTransfer : Int → Act σ Fault (Option Transfer)
  listTransfers : TransferFilter → Act σ Fault (List Transfer)
  /-- Runs a body as one transaction. -/
  transact : {ε α : Type} → Act σ ε α → σ → TxEnd ε α × σ
  /-- Records a diagnostic event; a store may keep it or let it go. -/
  note : Event → σ → σ

end DoubleEntry
