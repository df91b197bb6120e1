import DoubleEntry.Store.Basic

/-!
# DoubleEntry.Store.Memory

An in-memory store, for exercising the ledger's rules without a database. Accounts are
kept by id; entries and transfers in the order they were written. One counter numbers
all three kinds of row.

The store keeps a log of the calls made on it, one line per call such as
`get_account(1)` or `create_entry(1, -3000)`, and a failure can be armed for one kind of
call: the next call of that kind is logged, then fails, and the arm is cleared.

The data sits behind a lock. A balance increment, or a step of the id counter, that leaves
the 64-bit range aborts while the lock is held, which poisons it: from then on every call that reaches the data aborts
too. The log, the armed failure and the count of transactions are outside the lock.

A transaction logs `begin`, copies the data, runs the body, and logs `commit` when the
body answers; otherwise it puts the copy back and logs `rollback`. Putting the copy back
through a poisoned lock aborts instead, and then `rollback` is not logged.

Main statement: `transact_refused_nested` (inside a transaction a new one is refused and
nothing is logged).
-/

namespace DoubleEntry

/-- The rows of the in-memory store. -/
structure MemTables where
  accounts : List Account := []
  entries : List Entry := []
  transfers : List Transfer := []
  lastId : Int := 0
  deriving DecidableEq, Repr

/-- The in-memory store: its rows (none once the lock is poisoned), the call log, the
armed failure, the number of transactions begun, and whether it is inside a transaction. -/
structure MemoryStore where
  data : Option MemTables := some {}
  calls : List String := []
  failOn : Option String := none
  started : Nat := 0
  inTx : Bool := false
  deriving DecidableEq, Repr

namespace MemTables

def upsert (a : Account) : List Account → List Account
  | [] => [a]
  | x :: xs => if x.id = a.id then a :: xs else if a.id < x.id then a :: x :: xs else x :: upsert a xs

end MemTables

namespace MemoryStore

def callName (call : String) : String :=
  String.ofList (call.toList.takeWhile (· ≠ '('))

/-- Logs a call, then fails it if a failure is armed for its name. -/
def record (call : String) : Act MemoryStore Fault Unit := fun m =>
  let m := { m with calls := m.calls ++ [call] }
  if m.failOn = some (callName call) then
    .error (.fail (.injected (callName call))) { m with failOn := none }
  else .ok () m

/-- Uses the rows under the lock; a poisoned lock aborts. -/
def withData {α : Type} (f : MemTables → α × MemTables) : Act MemoryStore Fault α := fun m =>
  match m.data with
  | none => .error (.abort .poisoned) m
  | some d => .ok (f d).1 { m with data := some (f d).2 }

def readData {α : Type} (f : MemTables → α) : Act MemoryStore Fault α :=
  withData fun d => (f d, d)

/-- Takes the next id from the counter and uses the rows with it under the lock. Past the
64-bit range the counter overflows, which aborts with the lock held and so poisons it. -/
def withFreshId {α : Type} (f : Int → MemTables → α × MemTables) : Act MemoryStore Fault α :=
  fun m =>
    match m.data with
    | none => .error (.abort .poisoned) m
    | some d =>
      match Signed64.add? d.lastId 1 with
      | none => .error (.abort .addOverflow) { m with data := none }
      | some id =>
        let (a, d') := f id { d with lastId := id }
        .ok a { m with data := some d' }

def arm (m : MemoryStore) (name : String) : MemoryStore := { m with failOn := some name }

/-- Puts an account in as given, raising the id counter to its id. -/
def seed (a : Account) : Act MemoryStore Fault Unit :=
  withData fun d => ((), { d with accounts := MemTables.upsert a d.accounts, lastId := max d.lastId a.id })

def createAccount (a : NewAccount) : Act MemoryStore Fault Account := do
  record s!"create_account({a.owner})"
  withFreshId fun id d =>
    let row : Account := ⟨id, a.owner, 0, a.currency⟩
    (row, { d with accounts := MemTables.upsert row d.accounts })

def getAccount (id : Int) : Act MemoryStore Fault (Option Account) := do
  record s!"get_account({id})"
  readData fun d => d.accounts.find? (·.id == id)

def listAccounts (owner : String) (page : Page) : Act MemoryStore Fault (List Account) := do
  record s!"list_accounts({owner})"
  readData fun d => page.window (d.accounts.filter (·.owner == owner))

def deleteAccount (id : Int) : Act MemoryStore Fault Bool := do
  record s!"delete_account({id})"
  withData fun d =>
    if d.entries.any (·.accountId == id) then (false, d)
    else if d.accounts.any (·.id == id) then (true, { d with accounts := d.accounts.filter (·.id != id) })
    else (false, d)

def addBalance (id delta : Int) : Act MemoryStore Fault (Option Int) := do
  record s!"add_account_balance({id}, {delta})"
  fun m =>
    match m.data with
    | none => .error (.abort .poisoned) m
    | some d =>
      match d.accounts.find? (·.id == id) with
      | none => .ok none m
      | some a =>
        match Signed64.add? a.balance delta with
        | some b =>
          .ok (some b) { m with data := some { d with accounts := d.accounts.map fun x =>
            if x.id = id then { x with balance := b } else x } }
        | none => .error (.abort .addOverflow) { m with data := none }

def createEntry (account amount : Int) (transfer : Option Int) : Act MemoryStore Fault Entry := do
  record s!"create_entry({account}, {amount})"
  withFreshId fun id d =>
    let row : Entry := ⟨id, account, amount, transfer⟩
    (row, { d with entries := d.entries ++ [row] })

def getEntry (id : Int) : Act MemoryStore Fault (Option Entry) := do
  record s!"get_entry({id})"
  readData fun d => d.entries.find? (·.id == id)

def listEntries (account : Int) (page : Page) : Act MemoryStore Fault (List Entry) := do
  record s!"list_entries({account})"
  readData fun d => page.window (d.entries.filter (·.accountId == account))

def countEntries (account : Int) : Act MemoryStore Fault Nat := do
  record s!"count_entries({account})"
  readData fun d => (d.entries.filter (·.accountId == account)).length

def createTransfer (src dst amount : Int) : Act MemoryStore Fault Transfer := do
  record s!"create_transfer({src}, {dst}, {amount})"
  withFreshId fun id d =>
    let row : Transfer := ⟨id, src, dst, amount⟩
    (row, { d with transfers := d.transfers ++ [row] })

def getTransfer (id : Int) : Act MemoryStore Fault (Option Transfer) := do
  record s!"get_transfer({id})"
  readData fun d => d.transfers.find? (·.id == id)

def listTransfers (f : TransferFilter) : Act MemoryStore Fault (List Transfer) := do
  record "list_transfers()"
  readData fun d => (f.page.getD Page.all).window (d.transfers.filter f.admits)

/-- Puts the copy of the rows back after a body that did not answer, or aborts when the
lock is poisoned. -/
def restore (snapshot : MemTables) (m : MemoryStore) : Option MemoryStore :=
  m.data.map fun _ => { m with data := some snapshot, calls := m.calls ++ ["rollback"], inTx := false }

/-- Runs a body as one transaction; see the module comment. -/
def transact {ε α : Type} (body : Act MemoryStore ε α) (m : MemoryStore) : TxEnd ε α × MemoryStore :=
  if m.inTx then (.refused .nested, m)
  else
    let m := { m with started := m.started + 1, calls := m.calls ++ ["begin"] }
    match m.data with
    | none => (.aborted .poisoned, m)
    | some snapshot =>
      match body { m with inTx := true } with
      | .ok a m' => (.committed a, { m' with calls := m'.calls ++ ["commit"], inTx := false })
      | .error (.fail e) m' =>
        match restore snapshot m' with
        | some r => (.rolledBack e, r)
        | none => (.aborted .poisoned, { m' with inTx := false })
      | .error (.abort x) m' =>
        match restore snapshot m' with
        | some r => (.aborted x, r)
        | none => (.aborted .poisoned, { m' with inTx := false })

theorem transact_refused_nested {ε α : Type} (body : Act MemoryStore ε α) (m : MemoryStore)
    (h : m.inTx = true) : transact body m = (.refused .nested, m) := by
  simp [transact, h]

end MemoryStore

instance : LedgerStore MemoryStore where
  inTransaction m := m.inTx
  createAccount := MemoryStore.createAccount
  getAccount := MemoryStore.getAccount
  listAccounts := MemoryStore.listAccounts
  deleteAccount := MemoryStore.deleteAccount
  addBalance := MemoryStore.addBalance
  createEntry := MemoryStore.createEntry
  getEntry := MemoryStore.getEntry
  listEntries := MemoryStore.listEntries
  countEntries := MemoryStore.countEntries
  createTransfer := MemoryStore.createTransfer
  getTransfer := MemoryStore.getTransfer
  listTransfers := MemoryStore.listTransfers
  transact := MemoryStore.transact
  note _ m := m

end DoubleEntry
