import DoubleEntry.Proofs.Listing

/-!
# DoubleEntry.Proofs.Renaming

Ledgers that differ only in their ids.

A renaming gives each kind of row its own map of ids (`Kind`); it acts on rows, on transfer
filters and on the service's errors. Tables `t` hold the rows of `u` renamed by `τ`
(`Tables.Renamed τ u t`) when each table of `t` is that of `u` with every id mapped, row for
row and in the same order. When the renaming is one to one on each kind, every read of the
service answers on `t`, for renamed arguments, what it answers on `u`, renamed, and so does
every check of a transfer; a deletion keeps the tables renamed, and so do a new account and a
transfer once the ids of their new rows are matched.
-/

namespace DoubleEntry

/-- The three kinds of row, each numbered by a counter of its own in the pool. -/
inductive Kind where
  | account
  | entry
  | transfer
  deriving DecidableEq, Repr

section Renaming

variable (τ : Kind → Int → Int)

def Account.rename (a : Account) : Account := { a with id := τ .account a.id }

def Entry.rename (e : Entry) : Entry :=
  { e with id := τ .entry e.id, accountId := τ .account e.accountId,
           transferId := e.transferId.map (τ .transfer) }

def Transfer.rename (x : Transfer) : Transfer :=
  { x with id := τ .transfer x.id, fromAccount := τ .account x.fromAccount,
           toAccount := τ .account x.toAccount }

def TransferFilter.rename (f : TransferFilter) : TransferFilter :=
  { f with account := f.account.map (τ .account), fromAccount := f.fromAccount.map (τ .account),
           toAccount := f.toAccount.map (τ .account) }

def Fault.rename : Fault → Fault
  | .vanished x => .vanished (τ .transfer x)
  | f => f

/-- The error naming the renamed rows. -/
def LedgerError.rename : LedgerError → LedgerError
  | .accountNotFound id => .accountNotFound (τ .account id)
  | .transferNotFound id => .transferNotFound (τ .transfer id)
  | .sameAccount id => .sameAccount (τ .account id)
  | .currencyMismatch id held requested => .currencyMismatch (τ .account id) held requested
  | .accountInUse id => .accountInUse (τ .account id)
  | .unauthorized id principal => .unauthorized (τ .account id) principal
  | .database f => .database (f.rename τ)
  | e => e

def renameResult {α β : Type} (f : α → β) : Except LedgerError α → Except LedgerError β
  | .ok a => .ok (f a)
  | .error e => .error (e.rename τ)

theorem LedgerError.rename_case (e : LedgerError) :
    (e.rename τ).caseName = e.caseName ∧ (e.rename τ).kind = e.kind := by
  cases e <;> exact ⟨rfl, rfl⟩

end Renaming

section Rows

variable {τ : Kind → Int → Int}

@[simp] theorem Account.rename_balance (a : Account) : (a.rename τ).balance = a.balance := rfl

@[simp] theorem Account.rename_owner (a : Account) : (a.rename τ).owner = a.owner := rfl

@[simp] theorem Account.rename_currency (a : Account) : (a.rename τ).currency = a.currency := rfl

theorem beq_of_injective {f : Int → Int} (hf : Function.Injective f) (x y : Int) :
    (f x == f y) = (x == y) := by
  by_cases h : x = y
  · simp [h]
  · have h' : f x ≠ f y := fun e => h (hf e)
    simp [h, h']

theorem Transfer.involves_rename (hτ : Function.Injective (τ .account)) (x : Transfer) (i : Int) :
    (x.rename τ).involves (τ .account i) = x.involves i := by
  simp only [Transfer.involves, Transfer.rename, beq_of_injective hτ]

theorem TransferFilter.admits_rename (hτ : Function.Injective (τ .account)) (f : TransferFilter)
    (x : Transfer) : (f.rename τ).admits (x.rename τ) = f.admits x := by
  simp only [TransferFilter.admits, TransferFilter.rename, Option.all_map, Transfer.involves_rename hτ]
  simp only [Transfer.rename, beq_of_injective hτ]

end Rows

theorem Page.window_map {α β : Type} (p : Page) (f : α → β) (xs : List α) :
    p.window (xs.map f) = (p.window xs).map f := by
  simp [Page.window, List.map_take, List.map_drop]

namespace Tables

/-- `t` holds the rows of `u`, row for row and in the same order, with every id renamed by
`τ`. -/
structure Renamed (τ : Kind → Int → Int) (u t : Tables) : Prop where
  accounts : t.accounts = u.accounts.map (Account.rename τ)
  entries : t.entries = u.entries.map (Entry.rename τ)
  transfers : t.transfers = u.transfers.map (Transfer.rename τ)

variable {τ : Kind → Int → Int} {u t : Tables}

/-! ## Reads and checks through a renaming -/

theorem Renamed.accountsOf (h : Renamed τ u t) (owner : String) (page : Page) :
    t.accountsOf owner page = (u.accountsOf owner page).map (Account.rename τ) := by
  unfold Tables.accountsOf
  rw [h.accounts, List.filter_map, ← Page.window_map]
  rfl

section Reads

variable (hτ : ∀ k, Function.Injective (τ k)) (h : Renamed τ u t)
include hτ h

theorem Renamed.account? (i : Int) : t.account? (τ .account i) = (u.account? i).map (Account.rename τ) := by
  rw [Tables.account?, h.accounts, List.find?_map]
  congr 2
  funext a
  simp [Account.rename, (hτ .account).eq_iff]

theorem Renamed.transfer? (i : Int) :
    t.transfer? (τ .transfer i) = (u.transfer? i).map (Transfer.rename τ) := by
  rw [Tables.transfer?, h.transfers, List.find?_map]
  congr 2
  funext x
  simp [Transfer.rename, (hτ .transfer).eq_iff]

theorem Renamed.entries_any (i : Int) :
    t.entries.any (·.accountId == τ .account i) = u.entries.any (·.accountId == i) := by
  rw [h.entries, List.any_map]
  congr 1
  funext e
  simp [Entry.rename, (hτ .account).eq_iff]

theorem Renamed.entriesOf (i : Int) (page : Page) :
    t.entriesOf (τ .account i) page = (u.entriesOf i page).map (Entry.rename τ) := by
  unfold Tables.entriesOf
  rw [h.entries, List.filter_map, ← Page.window_map]
  congr 3
  funext e
  simp [Entry.rename, (hτ .account).eq_iff]

theorem Renamed.filter_admits (f : TransferFilter) :
    t.transfers.filter (f.rename τ).admits = (u.transfers.filter f.admits).map (Transfer.rename τ) := by
  rw [h.transfers, List.filter_map]
  congr 2
  funext x
  exact TransferFilter.admits_rename (hτ .account) f x

/-- On renamed tables in id order the listing is the one of the original rows, in their order,
renamed. -/
theorem Renamed.transfersMatching (ht : t.transfers.Pairwise (·.id ≤ ·.id)) (f : TransferFilter) :
    t.transfersMatching (f.rename τ) = (f.onPage (u.transfers.filter f.admits)).map (Transfer.rename τ) := by
  rw [Tables.transfersMatching_of_sorted ht, h.filter_admits hτ f]
  cases hp : f.page <;> simp [TransferFilter.onPage, TransferFilter.rename, hp, Page.window_map]

theorem Renamed.ownedAccount (principal : String) (i : Int) :
    t.ownedAccount principal (τ .account i) =
      renameResult τ (Account.rename τ) (u.ownedAccount principal i) := by
  unfold Tables.ownedAccount
  rw [h.account? hτ]
  cases u.account? i with
  | none => rfl
  | some a =>
    by_cases ho : a.owner = principal <;>
      simp [ho, Account.ownedBy, renameResult, LedgerError.rename, Account.rename]

theorem Renamed.foundTransfer (i : Int) :
    t.foundTransfer (τ .transfer i) = renameResult τ (Transfer.rename τ) (u.foundTransfer i) := by
  unfold Tables.foundTransfer
  rw [h.transfer? hτ]
  cases u.transfer? i <;> rfl

theorem Renamed.deletion (principal : String) (i : Int) :
    t.deletion principal (τ .account i) = renameResult τ (Account.rename τ) (u.deletion principal i) := by
  unfold Tables.deletion
  rw [h.ownedAccount hτ, h.entries_any hτ]
  cases u.ownedAccount principal i with
  | error e => rfl
  | ok a => cases u.entries.any (·.accountId == i) <;> rfl

/-- The checks of a transfer fail on `t` for the renamed accounts exactly as on `u`, with the
error renamed. -/
theorem Renamed.transferRejection (principal : String) (src dst amount : Int) (c : Currency) :
    DoubleEntry.transferRejection t principal (τ .account src) (τ .account dst) amount c =
      (DoubleEntry.transferRejection u principal src dst amount c).map (LedgerError.rename τ) := by
  unfold DoubleEntry.transferRejection
  by_cases h0 : amount ≤ 0
  · simp [h0, LedgerError.rename]
  by_cases hs : src = dst
  · simp [h0, hs, LedgerError.rename]
  have hs' : τ .account src ≠ τ .account dst := fun e => hs ((hτ .account) e)
  simp only [h0, hs, hs', if_false, h.account? hτ]
  cases u.account? src with
  | none => rfl
  | some a =>
    simp only [Option.map_some, Account.rename_currency, Account.rename_owner]
    by_cases hc : a.currency ≠ c
    · simp [hc, LedgerError.rename]
    by_cases ho : a.owner ≠ principal
    · simp [hc, ho, LedgerError.rename]
    simp only [hc, ho, if_false]
    cases u.account? dst with
    | none => rfl
    | some b => by_cases hc' : b.currency ≠ c <;> simp [hc', LedgerError.rename]

theorem Renamed.transferOverflow_eq_none (src dst amount : Int) :
    DoubleEntry.transferOverflow t (τ .account src) (τ .account dst) amount = none ↔
      DoubleEntry.transferOverflow u src dst amount = none := by
  cases ha : u.account? src with
  | none =>
    have ha' : t.account? (τ .account src) = none := by rw [h.account? hτ, ha]; rfl
    simp [DoubleEntry.transferOverflow, ha, ha']
  | some a =>
    have ha' : t.account? (τ .account src) = some (a.rename τ) := by rw [h.account? hτ, ha]; rfl
    cases hb : u.account? dst with
    | none =>
      have hb' : t.account? (τ .account dst) = none := by rw [h.account? hτ, hb]; rfl
      simp [DoubleEntry.transferOverflow, ha, ha', hb, hb']
    | some b =>
      have hb' : t.account? (τ .account dst) = some (b.rename τ) := by rw [h.account? hτ, hb]; rfl
      rw [DoubleEntry.transferOverflow_eq_none ha' hb', DoubleEntry.transferOverflow_eq_none ha hb]
      rfl

theorem Renamed.dropAccount (i : Int) : Renamed τ (u.dropAccount i) (t.dropAccount (τ .account i)) := by
  refine ⟨?_, h.entries, h.transfers⟩
  show t.accounts.filter (·.id != τ .account i) = (u.accounts.filter (·.id != i)).map (Account.rename τ)
  rw [h.accounts, List.filter_map]
  congr 2
  funext a
  simp [Account.rename, bne, beq_of_injective (hτ .account)]

theorem Renamed.afterDeletion (principal : String) (i : Int) :
    Renamed τ (u.afterDeletion principal i) (t.afterDeletion principal (τ .account i)) := by
  unfold Tables.afterDeletion
  rw [h.deletion hτ]
  cases u.deletion principal i with
  | ok a => exact h.dropAccount hτ i
  | error e => exact h

theorem Renamed.credit (id delta : Int) : Renamed τ (u.credit id delta) (t.credit (τ .account id) delta) := by
  refine ⟨?_, h.entries, h.transfers⟩
  show t.accounts.map _ = (u.accounts.map _).map (Account.rename τ)
  rw [h.accounts, List.map_map, List.map_map]
  refine List.map_congr_left fun a _ => ?_
  by_cases ha : a.id = id <;> simp [Account.rename, ha, (hτ .account).eq_iff]

end Reads

/-! ## Writes through a renaming, once the new ids are matched -/

section Writes

variable {d : MemTables}

theorem Renamed.withAccount (h : Renamed τ d.toTables t) (owner : String) (currency : Currency)
    (b : Int) (hA : τ .account (d.lastId + 1) = t.accountSeq + 1)
    (hE : 0 < b → τ .entry (d.lastId + 1 + 1) = t.entrySeq + 1) :
    Renamed τ (d.withAccount owner currency b).toTables (t.withAccount owner currency b) := by
  have hacc : (d.withAccount owner currency b).accounts = d.accounts ++ [⟨d.lastId + 1, owner, b, currency⟩] := by
    unfold MemTables.withAccount
    split <;> rfl
  refine ⟨?_, ?_, ?_⟩
  · simp [MemTables.toTables, hacc, h.accounts, Account.rename, hA]
  · unfold MemTables.withAccount
    split
    · rename_i hpos
      simp [MemTables.toTables, MemTables.pushEntry, MemTables.pushAccount, h.entries, hpos,
        Entry.rename, hA, hE hpos]
    · rename_i hpos
      simp [MemTables.toTables, MemTables.pushAccount, h.entries, hpos]
  · rw [Tables.withAccount_transfers]
    unfold MemTables.withAccount
    split <;> exact h.transfers

theorem Renamed.transferRows (h : Renamed τ d.toTables t) (src dst amount : Int)
    (hT : τ .transfer (d.lastId + 1) = t.transferSeq + 1)
    (hE₁ : τ .entry (d.lastId + 1 + 1) = t.entrySeq + 1)
    (hE₂ : τ .entry (d.lastId + 1 + 1 + 1) = t.entrySeq + 1 + 1) :
    Renamed τ (d.transferRows src dst amount).toTables
      (t.transferRows (τ .account src) (τ .account dst) amount) := by
  refine ⟨h.accounts, ?_, ?_⟩
  · simp [MemTables.toTables, MemTables.transferRows, MemTables.pushEntry, MemTables.pushTransfer,
      Tables.transferRows, Tables.pushEntry, Tables.pushTransfer, h.entries, Entry.rename, hT, hE₁, hE₂]
  · simp [MemTables.toTables, MemTables.transferRows, MemTables.pushEntry, MemTables.pushTransfer,
      Tables.transferRows, Tables.pushEntry, Tables.pushTransfer, h.transfers, Transfer.rename, hT]

theorem Renamed.withTransfer (hτ : ∀ k, Function.Injective (τ k)) (h : Renamed τ d.toTables t)
    (src dst amount : Int) (hT : τ .transfer (d.lastId + 1) = t.transferSeq + 1)
    (hE₁ : τ .entry (d.lastId + 1 + 1) = t.entrySeq + 1)
    (hE₂ : τ .entry (d.lastId + 1 + 1 + 1) = t.entrySeq + 1 + 1) :
    Renamed τ (d.withTransfer src dst amount).toTables
      (t.withTransfer (τ .account src) (τ .account dst) amount) :=
  ((h.transferRows src dst amount hT hE₁ hE₂).credit hτ src (-amount)).credit hτ dst amount

end Writes

end Tables

end DoubleEntry
