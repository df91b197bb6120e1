import DoubleEntry.Posting
import DoubleEntry.Store.Basic

/-!
# DoubleEntry.Service

The ledger's rules over any store. Reads check ownership: an account is shown only to its
owner. Opening an account with a balance books an opening entry. A transfer is validated
first (positive amount, two distinct accounts, both in the requested currency, the source
owned by the principal) and then written as one transaction: the transfer row, its debit
and credit entries, and the two balance increments, lower account id first. Overdrafts
are allowed: only the 64-bit range bounds a balance.

Validation reads happen outside any transaction, and no transaction is begun for a
request that fails validation. Along the way the service reports diagnostic events to the
store: an account opened or deleted, a refusal and its reason, and the steps of a
transfer.
-/

namespace DoubleEntry
namespace Service

variable {σ : Type} [LedgerStore σ]

def store {α : Type} (x : Act σ Fault α) : Act σ LedgerError α :=
  Act.mapFail LedgerError.database x

def note (e : Event) : Act σ LedgerError Unit := fun s => .ok () (LedgerStore.note e s)

def refuse {α : Type} (e : Event) (err : LedgerError) : Act σ LedgerError α := do
  note e
  Act.fail err

/-- Runs a body as one transaction; a refused transaction is a ledger error. -/
def atomically {α : Type} (body : Act σ LedgerError α) : Act σ LedgerError α := fun s =>
  match LedgerStore.transact body s with
  | (.committed a, s') => .ok a s'
  | (.rolledBack e, s') => .error (.fail e) s'
  | (.refused r, s') => .error (.fail r.toError) s'
  | (.aborted x, s') => .error (.abort x) s'

def fetchAccount (id : Int) : Act σ LedgerError Account := do
  match ← store (LedgerStore.getAccount id) with
  | some a => pure a
  | none => Act.fail (.accountNotFound id)

/-- The account with this id, shown only to its owner. -/
def getAccount (principal : String) (id : Int) : Act σ LedgerError Account := do
  let a ← fetchAccount id
  if a.ownedBy principal then pure a
  else refuse (.foreignAccount a.id principal) (.unauthorized a.id principal)

def listAccounts (owner : String) (page : Page) : Act σ LedgerError (List Account) :=
  store (LedgerStore.listAccounts owner page)

/-- Opens the account row and books its opening balance. -/
def openAccount (a : NewAccount) (opening : Int) : Act σ LedgerError Account := do
  let row ← store (LedgerStore.createAccount a)
  if 0 < opening then
    let _ ← store (LedgerStore.createEntry row.id opening none)
    match ← store (LedgerStore.addBalance row.id opening) with
    | some b => pure { row with balance := b }
    | none => Act.fail (.accountNotFound row.id)
  else pure row

/-- Opens an account for an owner, in one transaction; a negative opening balance is
refused before any store call. -/
def createAccount (owner : String) (currency : Currency) (opening : Int) :
    Act σ LedgerError Account :=
  if opening < 0 then Act.fail (.invalidAmount opening .negativeOpening)
  else do
    let a ← atomically (openAccount ⟨owner, currency⟩ opening)
    note (.accountOpened a)
    pure a

/-- Deletes an account of the principal that has no entries, and answers it as it was. -/
def deleteAccount (principal : String) (id : Int) : Act σ LedgerError Account := do
  let a ← getAccount principal id
  if ← store (LedgerStore.deleteAccount id) then
    note (.accountDeleted a)
    pure a
  else Act.fail (.accountInUse id)

def listEntries (principal : String) (account : Int) (page : Page) :
    Act σ LedgerError (List Entry) := do
  let _ ← getAccount principal account
  store (LedgerStore.listEntries account page)

def getTransfer (id : Int) : Act σ LedgerError Transfer := do
  match ← store (LedgerStore.getTransfer id) with
  | some t => pure t
  | none => Act.fail (.transferNotFound id)

def listTransfers (f : TransferFilter) : Act σ LedgerError (List Transfer) :=
  store (LedgerStore.listTransfers f)

/-- The account with this id, which must hold the currency. -/
def accountIn (id : Int) (currency : Currency) : Act σ LedgerError Account := do
  let a ← fetchAccount id
  if a.currency = currency then pure a
  else refuse (.currencyMismatch id a.currency currency) (.currencyMismatch id a.currency currency)

def applyPosting (p : Posting) : Act σ LedgerError Unit := do
  match ← store (LedgerStore.addBalance p.accountId p.delta) with
  | some b => note (.balanceUpdated p.accountId b)
  | none => Act.fail (.accountNotFound p.accountId)

/-- The body of a transfer: the row, the debit and credit entries, the two balance
increments lower account id first, and the row read back. -/
def recordTransfer (src dst amount : Int) : Act σ LedgerError Transfer := do
  let t ← store (LedgerStore.createTransfer src dst amount)
  let (debit, credit) ← Act.ofExcept (transferPostings src dst amount)
  let _ ← store (LedgerStore.createEntry debit.accountId debit.delta (some t.id))
  let _ ← store (LedgerStore.createEntry credit.accountId credit.delta (some t.id))
  let (first, second) ← Act.ofExcept (balanceUpdates src dst amount)
  applyPosting first
  applyPosting second
  match ← store (LedgerStore.getTransfer t.id) with
  | some stored => pure stored
  | none => Act.fail (.database (.vanished t.id))

/-- Moves `amount` from `src` to `dst` for the principal, after validation. -/
def createTransfer (principal : String) (src dst amount : Int) (currency : Currency) :
    Act σ LedgerError Transfer :=
  if amount ≤ 0 then refuse (.nonPositiveAmount amount) (.invalidAmount amount .nonPositiveTransfer)
  else if src = dst then refuse (.sameAccount src) (.sameAccount src)
  else do
    let a ← accountIn src currency
    if !a.ownedBy principal then refuse (.notOwner a.id principal) (.unauthorized a.id principal)
    else
      let _ ← accountIn dst currency
      note (.recording src dst amount)
      let t ← atomically (recordTransfer src dst amount)
      note (.transferCompleted t.id src dst amount currency)
      pure t

end Service
end DoubleEntry
