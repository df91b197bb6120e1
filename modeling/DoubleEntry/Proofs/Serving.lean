import DoubleEntry.Proofs.Transactions

/-!
# DoubleEntry.Proofs.Serving

The ledger service over any store that answers its reads from tables.

States of a store serve tables under a predicate `S` (`ServesRows S`) when every read answers
from the tables and leaves a state that serves them again, deleting an account that exists
removes it exactly when no entry names it, and reporting an event changes nothing that is
served. Over such a store the requests that read or delete answer what pure functions of the
tables say (`Tables.ownedAccount`, `Tables.foundTransfer`, `Tables.deletion`), and a transfer
is refused, or handed to its transaction, as `transferRejection` says.

The pool serves the tables of its file, as long as every account a transfer names carries an
entry (`Tables.TransfersBooked`): that is what keeps a deletion from breaking a foreign key,
which the pool checks and no check of the service does.
-/

namespace DoubleEntry

/-- The result of a call that answers or fails as `r` says and leaves `s`. -/
def Act.result {σ ε α : Type} (r : Except ε α) (s : σ) : EStateM.Result (Halt ε) σ α :=
  match r with
  | .ok a => .ok a s
  | .error e => .error (.fail e) s

namespace Tables

def foundAccount (u : Tables) (id : Int) : Except LedgerError Account :=
  match u.account? id with
  | some a => .ok a
  | none => .error (.accountNotFound id)

/-- The account with this id, shown only to its owner. -/
def ownedAccount (u : Tables) (principal : String) (id : Int) : Except LedgerError Account :=
  match u.account? id with
  | some a => if a.ownedBy principal then .ok a else .error (.unauthorized a.id principal)
  | none => .error (.accountNotFound id)

theorem ownedAccount_eq_ok {u : Tables} {principal : String} {id : Int} {a : Account}
    (h : u.ownedAccount principal id = .ok a) : u.account? id = some a ∧ a.ownedBy principal := by
  unfold ownedAccount at h
  split at h
  · rename_i b hb
    split at h
    · rename_i hown
      cases h
      exact ⟨hb, hown⟩
    · cases h
  · cases h

def foundTransfer (u : Tables) (id : Int) : Except LedgerError Transfer :=
  match u.transfer? id with
  | some x => .ok x
  | none => .error (.transferNotFound id)

/-- The answer to deleting an account: the principal's account as it was, unless an entry
names it. -/
def deletion (u : Tables) (principal : String) (id : Int) : Except LedgerError Account :=
  (u.ownedAccount principal id).bind fun a =>
    if u.entries.any (·.accountId == id) then .error (.accountInUse id) else .ok a

/-- The tables once a deletion is answered: the account is gone when it was deleted. -/
def afterDeletion (u : Tables) (principal : String) (id : Int) : Tables :=
  match u.deletion principal id with
  | .ok _ => u.dropAccount id
  | .error _ => u

/-- Every account that a transfer names carries an entry. -/
def TransfersBooked (u : Tables) : Prop :=
  ∀ x ∈ u.transfers, ∀ i, x.involves i = true → ∃ e ∈ u.entries, e.accountId = i

theorem TransfersBooked.not_involves {u : Tables} (h : u.TransfersBooked) {id : Int}
    (hfree : u.entries.any (·.accountId == id) = false) : u.transfers.any (·.involves id) = false := by
  rw [List.any_eq_false]
  intro x hx hi
  obtain ⟨e, he, rfl⟩ := h x hx id hi
  rw [List.any_eq_false] at hfree
  exact hfree e he (by simp)

end Tables

/-- States of a store that serve tables under `S`: the reads answer from the tables and the
state goes on serving them; deleting an account that exists succeeds exactly when no entry
names it, and then the state serves the tables without it; an event changes nothing served. -/
structure ServesRows {σ : Type} [LedgerStore σ] (S : σ → Tables → Prop) : Prop where
  getAccount {s : σ} {u : Tables} (id : Int) : S s u →
    ∃ s', LedgerStore.getAccount id s = .ok (u.account? id) s' ∧ S s' u
  getTransfer {s : σ} {u : Tables} (id : Int) : S s u →
    ∃ s', LedgerStore.getTransfer id s = .ok (u.transfer? id) s' ∧ S s' u
  listAccounts {s : σ} {u : Tables} (owner : String) (page : Page) : S s u →
    ∃ s', LedgerStore.listAccounts owner page s = .ok (u.accountsOf owner page) s' ∧ S s' u
  listEntries {s : σ} {u : Tables} (account : Int) (page : Page) : S s u →
    ∃ s', LedgerStore.listEntries account page s = .ok (u.entriesOf account page) s' ∧ S s' u
  deleteAccount {s : σ} {u : Tables} {id : Int} {a : Account} : S s u → u.account? id = some a →
    ∃ s', LedgerStore.deleteAccount id s = .ok (!u.entries.any (·.accountId == id)) s' ∧
      S s' (if u.entries.any (·.accountId == id) then u else u.dropAccount id)
  note {s : σ} {u : Tables} (e : Event) : S s u → S (LedgerStore.note e s) u

namespace Service

theorem store_run {σ α : Type} {x : Act σ Fault α} {s s' : σ} {a : α} (h : x s = .ok a s') :
    store x s = .ok a s' :=
  Act.mapFail_ok h

variable {σ : Type} [LedgerStore σ] {s s' : σ}

theorem refuse_run {α : Type} (e : Event) (err : LedgerError) (s : σ) :
    (refuse e err : Act σ LedgerError α) s = .error (.fail err) (LedgerStore.note e s) :=
  rfl

theorem fetchAccount_of_missing {id : Int} (h : LedgerStore.getAccount id s = .ok none s') :
    fetchAccount id s = .error (.fail (.accountNotFound id)) s' := by
  unfold fetchAccount
  rw [Act.bind_ok (Service.store_run h)]
  rfl

theorem accountIn_of_missing {id : Int} {c : Currency} (h : LedgerStore.getAccount id s = .ok none s') :
    accountIn id c s = .error (.fail (.accountNotFound id)) s' := by
  unfold accountIn
  rw [Act.bind_error (fetchAccount_of_missing h)]

theorem accountIn_of_mismatch {id : Int} {c : Currency} {a : Account}
    (h : LedgerStore.getAccount id s = .ok (some a) s') (hc : a.currency ≠ c) :
    accountIn id c s = .error (.fail (.currencyMismatch id a.currency c))
      (LedgerStore.note (.currencyMismatch id a.currency c) s') := by
  unfold accountIn
  rw [Act.bind_ok (fetchAccount_of_read h), if_neg hc]
  rfl

end Service

namespace ServesRows

variable {σ : Type} [LedgerStore σ] {S : σ → Tables → Prop} (hS : ServesRows S) {s : σ} {u : Tables}
include hS

theorem fetchAccount_run (hs : S s u) (id : Int) :
    ∃ s', S s' u ∧ Service.fetchAccount id s = Act.result (u.foundAccount id) s' := by
  obtain ⟨s', h, hs'⟩ := hS.getAccount id hs
  refine ⟨s', hs', ?_⟩
  unfold Tables.foundAccount
  cases ha : u.account? id with
  | none => rw [ha] at h; exact Service.fetchAccount_of_missing h
  | some a => rw [ha] at h; exact Service.fetchAccount_of_read h

theorem getAccount_run (hs : S s u) (principal : String) (id : Int) :
    ∃ s', S s' u ∧ Service.getAccount principal id s = Act.result (u.ownedAccount principal id) s' := by
  obtain ⟨s₁, h, hs₁⟩ := hS.getAccount id hs
  unfold Service.getAccount Tables.ownedAccount
  cases ha : u.account? id with
  | none =>
    rw [ha] at h
    exact ⟨s₁, hs₁, Act.bind_error (Service.fetchAccount_of_missing h)⟩
  | some a =>
    rw [ha] at h
    rw [Act.bind_ok (Service.fetchAccount_of_read h)]
    by_cases ho : a.ownedBy principal
    · exact ⟨s₁, hs₁, by simp [ho, Act.result]⟩
    · exact ⟨LedgerStore.note (.foreignAccount a.id principal) s₁, hS.note _ hs₁,
        by simp [ho, Act.result, Service.refuse_run]⟩

theorem getTransfer_run (hs : S s u) (id : Int) :
    ∃ s', S s' u ∧ Service.getTransfer id s = Act.result (u.foundTransfer id) s' := by
  obtain ⟨s', h, hs'⟩ := hS.getTransfer id hs
  refine ⟨s', hs', ?_⟩
  unfold Service.getTransfer Tables.foundTransfer
  rw [Act.bind_ok (Service.store_run h)]
  cases u.transfer? id <;> rfl

theorem listAccounts_run (hs : S s u) (owner : String) (page : Page) :
    ∃ s', S s' u ∧ Service.listAccounts owner page s = .ok (u.accountsOf owner page) s' := by
  obtain ⟨s', h, hs'⟩ := hS.listAccounts owner page hs
  exact ⟨s', hs', Act.mapFail_ok h⟩

theorem listEntries_run (hs : S s u) (principal : String) (account : Int) (page : Page) :
    ∃ s', S s' u ∧ Service.listEntries principal account page s =
      Act.result ((u.ownedAccount principal account).map fun _ => u.entriesOf account page) s' := by
  obtain ⟨s₁, hs₁, h⟩ := hS.getAccount_run hs principal account
  unfold Service.listEntries
  cases ho : u.ownedAccount principal account with
  | error e =>
    rw [ho] at h
    exact ⟨s₁, hs₁, Act.bind_error h⟩
  | ok a =>
    rw [ho] at h
    obtain ⟨s₂, h₂, hs₂⟩ := hS.listEntries account page hs₁
    exact ⟨s₂, hs₂, by rw [Act.bind_ok h, Service.store_run h₂]; rfl⟩

theorem deleteAccount_run (hs : S s u) (principal : String) (id : Int) :
    ∃ s', S s' (u.afterDeletion principal id) ∧
      Service.deleteAccount principal id s = Act.result (u.deletion principal id) s' := by
  obtain ⟨s₁, hs₁, h⟩ := hS.getAccount_run hs principal id
  unfold Service.deleteAccount Tables.afterDeletion Tables.deletion
  cases ho : u.ownedAccount principal id with
  | error e =>
    rw [ho] at h
    exact ⟨s₁, hs₁, Act.bind_error h⟩
  | ok a =>
    rw [ho] at h
    rw [Act.bind_ok h]
    obtain ⟨s₂, h₂, hs₂⟩ := hS.deleteAccount hs₁ (Tables.ownedAccount_eq_ok ho).1
    rw [Act.bind_ok (Service.store_run h₂)]
    cases hu : u.entries.any (·.accountId == id)
    · rw [hu] at hs₂
      exact ⟨_, hS.note _ hs₂, rfl⟩
    · rw [hu] at hs₂
      exact ⟨s₂, hs₂, rfl⟩

/-- A transfer that fails a check answers the first failed check, the state still serving
the tables. -/
theorem createTransfer_rejected (hs : S s u) {principal : String} {src dst amount : Int}
    {currency : Currency} {e : LedgerError}
    (h : transferRejection u principal src dst amount currency = some e) :
    ∃ s', S s' u ∧ Service.createTransfer principal src dst amount currency s = .error (.fail e) s' := by
  unfold transferRejection at h
  unfold Service.createTransfer
  by_cases h0 : amount ≤ 0
  · rw [if_pos h0] at h ⊢
    cases h
    exact ⟨_, hS.note _ hs, Service.refuse_run _ _ _⟩
  rw [if_neg h0] at h ⊢
  by_cases hne : src = dst
  · rw [if_pos hne] at h ⊢
    cases h
    exact ⟨_, hS.note _ hs, Service.refuse_run _ _ _⟩
  rw [if_neg hne] at h ⊢
  obtain ⟨s₁, h₁, hs₁⟩ := hS.getAccount src hs
  cases ha : u.account? src with
  | none =>
    rw [ha] at h h₁
    cases h
    exact ⟨s₁, hs₁, Act.bind_error (Service.accountIn_of_missing h₁)⟩
  | some a =>
    rw [ha] at h h₁
    dsimp only at h
    by_cases hc : a.currency = currency
    · rw [if_neg (not_not_intro hc)] at h
      rw [Act.bind_ok (Service.accountIn_of_read h₁ hc)]
      by_cases ho : a.owner = principal
      · rw [if_neg (not_not_intro ho)] at h
        rw [if_neg (by simp [Account.ownedBy, ho])]
        obtain ⟨s₂, h₂, hs₂⟩ := hS.getAccount dst hs₁
        cases hb : u.account? dst with
        | none =>
          rw [hb] at h h₂
          cases h
          exact ⟨s₂, hs₂, Act.bind_error (Service.accountIn_of_missing h₂)⟩
        | some b =>
          rw [hb] at h h₂
          dsimp only at h
          by_cases hc' : b.currency = currency
          · rw [if_neg (not_not_intro hc')] at h
            cases h
          · rw [if_pos hc'] at h
            cases h
            exact ⟨_, hS.note _ hs₂, Act.bind_error (Service.accountIn_of_mismatch h₂ hc')⟩
      · rw [if_pos ho] at h
        cases h
        have hid : a.id = src := (Tables.account?_eq_some ha).2
        rw [if_pos (by simp [Account.ownedBy, ho]), Service.refuse_run, hid]
        exact ⟨_, hS.note _ hs₁, rfl⟩
    · rw [if_pos hc] at h
      cases h
      exact ⟨_, hS.note _ hs₁, Act.bind_error (Service.accountIn_of_mismatch h₁ hc)⟩

/-- A transfer that passes every check runs its transaction on a state that serves the
tables, having reported that it is recording. -/
theorem createTransfer_accepted (hs : S s u) {principal : String} {src dst amount : Int}
    {currency : Currency} (h : transferRejection u principal src dst amount currency = none) :
    ∃ s', S s' u ∧ Service.createTransfer principal src dst amount currency s =
      (Service.atomically (Service.recordTransfer src dst amount) >>= fun x =>
        Service.note (.transferCompleted x.id src dst amount currency) >>= fun _ => pure x) s' := by
  obtain ⟨hpos, hne, a, ha, hc, ho, b, hb, hc'⟩ := transferRejection_eq_none h
  obtain ⟨s₁, h₁, hs₁⟩ := hS.getAccount src hs
  obtain ⟨s₂, h₂, hs₂⟩ := hS.getAccount dst hs₁
  rw [ha] at h₁
  rw [hb] at h₂
  exact ⟨_, hS.note _ hs₂, Service.createTransfer_of_reads hpos hne h₁ hc ho h₂ hc'⟩

end ServesRows

namespace Pool

theorem Serves.touched {p : Pool} {t : Tables} (h : p.Serves t) : ({ p with touched := true } : Pool).Serves t :=
  ⟨h.file, h.isOpen, h.outside, h.writable⟩

/-- A pool serving tables in which every account a transfer names carries an entry serves
them for the service. -/
theorem servesRows : ServesRows fun (p : Pool) (u : Tables) => p.Serves u ∧ u.TransfersBooked where
  getAccount _ h := ⟨_, query_run h.1.file h.1.reaches, h.1.touched, h.2⟩
  getTransfer _ h := ⟨_, query_run h.1.file h.1.reaches, h.1.touched, h.2⟩
  listAccounts _ _ h := ⟨_, query_run h.1.file h.1.reaches, h.1.touched, h.2⟩
  listEntries _ _ h := ⟨_, query_run h.1.file h.1.reaches, h.1.touched, h.2⟩
  deleteAccount {p u id a} h ha := by
    rw [deleteAccount_eq, statement_run h.1.file h.1.reaches fun _ => h.1.writable]
    cases hu : u.entries.any (·.accountId == id)
    · -- a free account is named by no transfer, so no foreign key stands in the way
      have hd : u.deleteAccount id = .ok (true, u.dropAccount id) := by
        simp [Tables.deleteAccount, Tables.dropAccount, ha, hu, h.2.not_involves hu]
      rw [hd]
      exact ⟨_, rfl, ⟨rfl, h.1.isOpen, h.1.outside, h.1.writable⟩, fun x hx i hi => h.2 x hx i hi⟩
    · have hd : u.deleteAccount id = .ok (false, u) := by
        simp [Tables.deleteAccount, hu]
      rw [hd]
      exact ⟨_, rfl, ⟨rfl, h.1.isOpen, h.1.outside, h.1.writable⟩, h.2⟩
  note e h := ⟨h.1.note e, h.2⟩

end Pool

end DoubleEntry
