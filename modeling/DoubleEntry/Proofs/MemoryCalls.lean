import DoubleEntry.Proofs.Serving

/-!
# DoubleEntry.Proofs.MemoryCalls

The in-memory store's calls, answered from its rows.

A store is ready on rows `d` (`MemoryStore.Ready`) when its lock holds them and no failure is
armed, and it serves them (`MemoryStore.Serves`) when it is also outside any transaction. On a
ready store every call logs itself and answers from the rows, and a call that writes takes
the next id of the one counter shared by the three kinds of row. So a store that serves rows
serves the ledger service as the pool does (`MemoryStore.servesRows`), and, while the counter
has room, a new account and a transfer that passes its checks with balances in range commit
exactly their rows (`MemTables.withAccount`, `MemTables.withTransfer`): the rows the pool
writes, under other ids. The body of such a transfer logs its calls in a fixed order, the two
balance increments lower account id first (`MemoryStore.recordTransfer_logs`).
-/

namespace DoubleEntry

namespace Tables

def inMemory (u : Tables) (L : Int) : MemTables := ⟨u.accounts, u.entries, u.transfers, L⟩

end Tables

namespace MemTables

def pushAccount (d : MemTables) (owner : String) (currency : Currency) (balance : Int) : MemTables :=
  { d with accounts := d.accounts ++ [⟨d.lastId + 1, owner, balance, currency⟩], lastId := d.lastId + 1 }

def pushEntry (d : MemTables) (account amount : Int) (transfer : Option Int) : MemTables :=
  { d with entries := d.entries ++ [⟨d.lastId + 1, account, amount, transfer⟩], lastId := d.lastId + 1 }

def pushTransfer (d : MemTables) (src dst amount : Int) : MemTables :=
  { d with transfers := d.transfers ++ [⟨d.lastId + 1, src, dst, amount⟩], lastId := d.lastId + 1 }

def credit (d : MemTables) (id delta : Int) : MemTables :=
  { d with accounts := d.accounts.map fun x =>
      if x.id = id then { x with balance := x.balance + delta } else x }

def dropAccount (d : MemTables) (id : Int) : MemTables :=
  { d with accounts := d.accounts.filter (·.id != id) }

/-- The rows once an account is opened: the account under the next id holding `opening`, and,
when it is positive, the entry that books it under the id after. -/
def withAccount (d : MemTables) (owner : String) (currency : Currency) (opening : Int) : MemTables :=
  if 0 < opening then (d.pushAccount owner currency opening).pushEntry (d.lastId + 1) opening none
  else d.pushAccount owner currency opening

/-- The rows of a transfer before any balance moves: the transfer under the next id, then its
debit and its credit under the two ids after. -/
def transferRows (d : MemTables) (src dst amount : Int) : MemTables :=
  ((d.pushTransfer src dst amount).pushEntry src (-amount) (some (d.lastId + 1))).pushEntry dst amount
    (some (d.lastId + 1))

def withTransfer (d : MemTables) (src dst amount : Int) : MemTables :=
  ((d.transferRows src dst amount).credit src (-amount)).credit dst amount

/-- The ids the counter gave: accounts and transfers by increasing id, no id above the
counter, and the counter not negative. -/
structure Wf (d : MemTables) : Prop where
  accounts : d.accounts.Pairwise (·.id < ·.id)
  accountsBelow : ∀ a ∈ d.accounts, a.id ≤ d.lastId
  entriesBelow : ∀ e ∈ d.entries, e.id ≤ d.lastId
  transfersBelow : ∀ x ∈ d.transfers, x.id ≤ d.lastId
  nonneg : 0 ≤ d.lastId
  transfers : d.transfers.Pairwise (·.id < ·.id)

variable {d : MemTables}

theorem wf_empty : ({} : MemTables).Wf :=
  ⟨.nil, by simp, by simp, by simp, Int.le_refl 0, .nil⟩

theorem le_of_mem_append_next {β : Type} {key : β → Int} {l : List β} {n : Int}
    (hn : ∀ x ∈ l, key x ≤ n) {row : β} (hr : key row = n + 1) : ∀ x ∈ l ++ [row], key x ≤ n + 1 := by
  intro x hx
  rcases List.mem_append.1 hx with hx | hx
  · exact Int.le_add_one (hn x hx)
  · rw [List.mem_singleton.1 hx]
    exact Int.le_of_eq hr

theorem Wf.pushAccount (hw : d.Wf) (owner : String) (currency : Currency) (b : Int) :
    (d.pushAccount owner currency b).Wf :=
  ⟨Tables.pairwise_append_next hw.accounts hw.accountsBelow rfl,
    le_of_mem_append_next hw.accountsBelow rfl, fun e he => Int.le_add_one (hw.entriesBelow e he),
    fun x hx => Int.le_add_one (hw.transfersBelow x hx), Int.le_add_one hw.nonneg, hw.transfers⟩

theorem Wf.pushEntry (hw : d.Wf) (account amount : Int) (transfer : Option Int) :
    (d.pushEntry account amount transfer).Wf :=
  ⟨hw.accounts, fun a ha => Int.le_add_one (hw.accountsBelow a ha),
    le_of_mem_append_next hw.entriesBelow rfl, fun x hx => Int.le_add_one (hw.transfersBelow x hx),
    Int.le_add_one hw.nonneg, hw.transfers⟩

theorem Wf.pushTransfer (hw : d.Wf) (src dst amount : Int) : (d.pushTransfer src dst amount).Wf :=
  ⟨hw.accounts, fun a ha => Int.le_add_one (hw.accountsBelow a ha),
    fun e he => Int.le_add_one (hw.entriesBelow e he), le_of_mem_append_next hw.transfersBelow rfl,
    Int.le_add_one hw.nonneg, Tables.pairwise_append_next hw.transfers hw.transfersBelow rfl⟩

theorem id_credited (x : Account) (id delta : Int) :
    (if x.id = id then { x with balance := x.balance + delta } else x).id = x.id := by
  split <;> rfl

theorem pairwise_credit (hu : d.accounts.Pairwise (·.id < ·.id)) (id delta : Int) :
    (d.credit id delta).accounts.Pairwise (·.id < ·.id) :=
  List.pairwise_map.2 (hu.imp fun {x y} h => by rw [id_credited x, id_credited y]; exact h)

theorem Wf.mapAccounts (hw : d.Wf) (g : Account → Account) (hg : ∀ x, (g x).id = x.id) :
    ({ d with accounts := d.accounts.map g } : MemTables).Wf := by
  refine ⟨List.pairwise_map.2 (hw.accounts.imp fun {x y} hxy => ?_), fun a ha => ?_,
    hw.entriesBelow, hw.transfersBelow, hw.nonneg, hw.transfers⟩
  · rw [hg x, hg y]
    exact hxy
  · obtain ⟨x, hx, rfl⟩ := List.mem_map.1 ha
    rw [hg x]
    exact hw.accountsBelow x hx

theorem Wf.credit (hw : d.Wf) (id delta : Int) : (d.credit id delta).Wf :=
  hw.mapAccounts _ fun x => id_credited x id delta

theorem Wf.dropAccount (hw : d.Wf) (id : Int) : (d.dropAccount id).Wf :=
  ⟨hw.accounts.filter _, fun a ha => hw.accountsBelow a (List.mem_filter.1 ha).1, hw.entriesBelow,
    hw.transfersBelow, hw.nonneg, hw.transfers⟩

theorem Wf.withAccount (hw : d.Wf) (owner : String) (currency : Currency) (opening : Int) :
    (d.withAccount owner currency opening).Wf := by
  unfold MemTables.withAccount
  split
  · exact (hw.pushAccount _ _ _).pushEntry _ _ _
  · exact hw.pushAccount _ _ _

theorem Wf.transferRows (hw : d.Wf) (src dst amount : Int) : (d.transferRows src dst amount).Wf :=
  ((hw.pushTransfer _ _ _).pushEntry _ _ _).pushEntry _ _ _

theorem Wf.withTransfer (hw : d.Wf) (src dst amount : Int) : (d.withTransfer src dst amount).Wf :=
  ((hw.transferRows _ _ _).credit _ _).credit _ _

theorem credit_pushAccount (hb : ∀ a ∈ d.accounts, a.id ≤ d.lastId) (owner : String)
    (currency : Currency) (v delta : Int) :
    (d.pushAccount owner currency v).credit (d.lastId + 1) delta = d.pushAccount owner currency (v + delta) := by
  have hold : d.accounts.map (fun x => if x.id = d.lastId + 1 then { x with balance := x.balance + delta } else x) =
      d.accounts := by
    refine (List.map_congr_left fun x hx => ?_).trans (List.map_id _)
    have := hb x hx
    rw [if_neg (by omega)]
    rfl
  simp [credit, pushAccount, hold]

theorem credit_pushEntry (d : MemTables) (id delta account amount : Int) (transfer : Option Int) :
    (d.pushEntry account amount transfer).credit id delta = (d.credit id delta).pushEntry account amount transfer :=
  rfl

theorem credit_comm (d : MemTables) {i j : Int} (hij : i ≠ j) (δ ε : Int) :
    (d.credit i δ).credit j ε = (d.credit j ε).credit i δ := by
  simp only [credit, List.map_map, MemTables.mk.injEq, and_true]
  refine List.map_congr_left fun x _ => ?_
  by_cases hi : x.id = i <;> by_cases hj : x.id = j <;> simp_all

theorem credit_toTables (d : MemTables) (id delta : Int) :
    (d.credit id delta).toTables = d.toTables.credit id delta := rfl

end MemTables

namespace MemoryStore

/-- A store whose lock holds rows `d`, with no failure armed. -/
structure Ready (m : MemoryStore) (d : MemTables) : Prop where
  data : m.data = some d
  unarmed : m.failOn = none

/-- A ready store outside any transaction. -/
structure Serves (m : MemoryStore) (d : MemTables) : Prop extends Ready m d where
  outside : m.inTx = false

def logged (m : MemoryStore) (call : String) (d : MemTables) : MemoryStore :=
  { m with calls := m.calls ++ [call], data := some d }

def begun (m : MemoryStore) : MemoryStore :=
  { m with started := m.started + 1, calls := m.calls ++ ["begin"], inTx := true }

def committed (m : MemoryStore) : MemoryStore :=
  { m with calls := m.calls ++ ["commit"], inTx := false }

variable {m : MemoryStore} {d : MemTables}

theorem Ready.logged (hm : m.Ready d) (call : String) (d' : MemTables) : (m.logged call d').Ready d' :=
  ⟨rfl, hm.unarmed⟩

theorem Serves.logged (hm : m.Serves d) (call : String) (d' : MemTables) : (m.logged call d').Serves d' :=
  ⟨hm.toReady.logged call d', hm.outside⟩

theorem Serves.begun (hm : m.Serves d) : m.begun.Ready d := ⟨hm.data, hm.unarmed⟩

theorem Ready.committed (hm : m.Ready d) : m.committed.Serves d := ⟨⟨hm.data, hm.unarmed⟩, rfl⟩

/-! ## The calls on a ready store -/

theorem record_ready (hm : m.Ready d) (call : String) :
    record call m = .ok () { m with calls := m.calls ++ [call] } := by
  simp [record, hm.unarmed]

theorem read_ready {α : Type} (hm : m.Ready d) (call : String) (f : MemTables → α) :
    (record call >>= fun _ => readData f) m = .ok (f d) (m.logged call d) := by
  rw [Act.bind_ok (record_ready hm call)]
  simp only [readData, withData, hm.data]
  rfl

theorem getAccount_ready (hm : m.Ready d) (id : Int) :
    (LedgerStore.getAccount id : Act MemoryStore Fault _) m = .ok (d.toTables.account? id) (m.logged s!"get_account({id})" d) :=
  read_ready hm _ _

theorem getTransfer_ready (hm : m.Ready d) (id : Int) :
    (LedgerStore.getTransfer id : Act MemoryStore Fault _) m = .ok (d.toTables.transfer? id) (m.logged s!"get_transfer({id})" d) :=
  read_ready hm _ _

theorem listAccounts_ready (hm : m.Ready d) (owner : String) (page : Page) :
    (LedgerStore.listAccounts owner page : Act MemoryStore Fault _) m =
      .ok (d.toTables.accountsOf owner page) (m.logged s!"list_accounts({owner})" d) :=
  read_ready hm _ _

theorem listEntries_ready (hm : m.Ready d) (account : Int) (page : Page) :
    (LedgerStore.listEntries account page : Act MemoryStore Fault _) m =
      .ok (d.toTables.entriesOf account page) (m.logged s!"list_entries({account})" d) :=
  read_ready hm _ _

/-- A listing of transfers without a page is cut to the largest unsigned 32-bit count. -/
theorem listTransfers_ready (hm : m.Ready d) (f : TransferFilter) :
    (LedgerStore.listTransfers f : Act MemoryStore Fault _) m =
      .ok ((f.page.getD Page.all).window (d.transfers.filter f.admits)) (m.logged "list_transfers()" d) :=
  read_ready hm _ _

theorem deleteAccount_ready (hm : m.Ready d) {id : Int} {a : Account} (ha : d.toTables.account? id = some a) :
    (LedgerStore.deleteAccount id : Act MemoryStore Fault _) m = .ok (!d.entries.any (·.accountId == id))
      (m.logged s!"delete_account({id})" (if d.entries.any (·.accountId == id) then d else d.dropAccount id)) := by
  have hany : d.accounts.any (·.id == id) = true :=
    List.any_eq_true.2 ⟨a, (Tables.account?_eq_some ha).1, by simp [(Tables.account?_eq_some ha).2]⟩
  show MemoryStore.deleteAccount id m = _
  unfold MemoryStore.deleteAccount
  rw [Act.bind_ok (record_ready hm _)]
  simp only [withData, hm.data]
  cases hu : d.entries.any (·.accountId == id)
  · simp only [hany, if_true, Bool.not_false, Bool.false_eq_true, if_false]
    rfl
  · simp only [if_true, Bool.not_true]
    rfl

theorem fresh_ready {α : Type} (hm : m.Ready d) (hfit : Signed64.Fits (d.lastId + 1)) (call : String)
    (f : Int → MemTables → α × MemTables) :
    (record call >>= fun _ => withFreshId f) m =
      .ok (f (d.lastId + 1) { d with lastId := d.lastId + 1 }).1
        (m.logged call (f (d.lastId + 1) { d with lastId := d.lastId + 1 }).2) := by
  rw [Act.bind_ok (record_ready hm call)]
  simp only [withFreshId, hm.data, Signed64.add?, if_pos hfit]
  rfl

theorem upsert_of_lt {a : Account} : ∀ {xs : List Account}, (∀ x ∈ xs, x.id < a.id) →
    MemTables.upsert a xs = xs ++ [a]
  | [], _ => rfl
  | x :: xs, h => by
    have hx := h x (List.mem_cons_self ..)
    rw [MemTables.upsert, if_neg (by omega), if_neg (by omega),
      upsert_of_lt fun y hy => h y (List.mem_cons_of_mem _ hy)]
    rfl

theorem createAccount_ready (hm : m.Ready d) (hb : ∀ a ∈ d.accounts, a.id ≤ d.lastId)
    (hfit : Signed64.Fits (d.lastId + 1)) (n : NewAccount) :
    (LedgerStore.createAccount n : Act MemoryStore Fault _) m = .ok ⟨d.lastId + 1, n.owner, 0, n.currency⟩
      (m.logged s!"create_account({n.owner})" (d.pushAccount n.owner n.currency 0)) := by
  show MemoryStore.createAccount n m = _
  unfold MemoryStore.createAccount
  rw [fresh_ready hm hfit]
  dsimp only
  rw [upsert_of_lt fun x hx => Int.lt_add_one_iff.2 (hb x hx)]
  rfl

theorem createEntry_ready (hm : m.Ready d) (hfit : Signed64.Fits (d.lastId + 1))
    (account amount : Int) (transfer : Option Int) :
    (LedgerStore.createEntry account amount transfer : Act MemoryStore Fault _) m = .ok ⟨d.lastId + 1, account, amount, transfer⟩
      (m.logged s!"create_entry({account}, {amount})" (d.pushEntry account amount transfer)) :=
  fresh_ready hm hfit _ _

theorem createTransfer_ready (hm : m.Ready d) (hfit : Signed64.Fits (d.lastId + 1)) (src dst amount : Int) :
    (LedgerStore.createTransfer src dst amount : Act MemoryStore Fault _) m = .ok ⟨d.lastId + 1, src, dst, amount⟩
      (m.logged s!"create_transfer({src}, {dst}, {amount})" (d.pushTransfer src dst amount)) :=
  fresh_ready hm hfit _ _

/-- An increment that stays in range sets the balance of the account found, which under
increasing ids is a credit. -/
theorem addBalance_ready (hm : m.Ready d) (hu : d.accounts.Pairwise (·.id < ·.id)) {id delta : Int}
    {a : Account} (ha : d.toTables.account? id = some a) (hfit : Signed64.Fits (a.balance + delta)) :
    (LedgerStore.addBalance id delta : Act MemoryStore Fault _) m = .ok (some (a.balance + delta))
      (m.logged s!"add_account_balance({id}, {delta})" (d.credit id delta)) := by
  have hc : (d.toTables.setBalance id (a.balance + delta)).accounts = (d.toTables.credit id delta).accounts :=
    congrArg Tables.accounts (Tables.setBalance_eq_credit hu ha)
  have ha' : d.accounts.find? (·.id == id) = some a := ha
  show MemoryStore.addBalance id delta m = _
  unfold MemoryStore.addBalance
  simp only [bind, EStateM.bind, record_ready hm, hm.data, ha', Signed64.add?, if_pos hfit]
  simp only [Tables.setBalance, Tables.credit, MemTables.toTables] at hc
  simp only [logged, MemTables.credit, hc]

/-! ## The service on a store that serves rows -/

theorem servesRows (L : Int) : ServesRows fun (m : MemoryStore) (u : Tables) => m.Serves (u.inMemory L) where
  getAccount id h := ⟨_, getAccount_ready h.toReady id, h.logged _ _⟩
  getTransfer id h := ⟨_, getTransfer_ready h.toReady id, h.logged _ _⟩
  listAccounts owner page h := ⟨_, listAccounts_ready h.toReady owner page, h.logged _ _⟩
  listEntries account page h := ⟨_, listEntries_ready h.toReady account page, h.logged _ _⟩
  deleteAccount {m u id a} h ha := by
    refine ⟨_, deleteAccount_ready h.toReady ha, ?_⟩
    by_cases hu : u.entries.any (·.accountId == id) = true
    · simp only [Tables.inMemory, hu, if_true]
      exact h.logged _ _
    · simp only [Tables.inMemory, hu]
      exact h.logged _ _
  note _ h := h

theorem transact_answered (hm : m.Serves d) {ε α : Type} {body : Act MemoryStore ε α} {a : α}
    {m' : MemoryStore} (hb : body m.begun = .ok a m') : transact body m = (.committed a, m'.committed) := by
  have hb' : body { m with started := m.started + 1, calls := m.calls ++ ["begin"], inTx := true } =
      .ok a m' := hb
  unfold transact
  rw [if_neg (by simp [hm.outside])]
  dsimp only
  rw [hb', hm.data]
  rfl

theorem atomically_answered (hm : m.Serves d) {α : Type} {body : Act MemoryStore LedgerError α} {a : α}
    {m' : MemoryStore} (hb : body m.begun = .ok a m') :
    (Service.atomically body : Act MemoryStore LedgerError α) m = .ok a m'.committed := by
  unfold Service.atomically
  rw [show LedgerStore.transact body m = transact body m from rfl, transact_answered hm hb]

/-- Opening an account inside a transaction: the row under the next id, and for a positive
balance its entry under the id after and the increment that books it. -/
theorem openAccount_ready (hm : m.Ready d) (hw : d.Wf) (hroom : Signed64.Fits (d.lastId + 2))
    (owner : String) (currency : Currency) {b : Int} (hfit : Signed64.Fits b) (hb : 0 ≤ b) :
    ∃ m', (Service.openAccount ⟨owner, currency⟩ b : Act MemoryStore LedgerError Account) m =
      .ok ⟨d.lastId + 1, owner, b, currency⟩ m' ∧ m'.Ready (d.withAccount owner currency b) := by
  have hfit₁ : Signed64.Fits (d.lastId + 1) ∧ Signed64.Fits (d.lastId + 1 + 1) := by
    have := hw.nonneg
    unfold Signed64.Fits Signed64.min Signed64.max at *
    refine ⟨⟨?_, ?_⟩, ?_, ?_⟩ <;> omega
  unfold Service.openAccount
  rw [Act.bind_ok (Service.store_run (createAccount_ready hm hw.accountsBelow hfit₁.1 ⟨owner, currency⟩))]
  by_cases hpos : 0 < b
  · rw [if_pos hpos]
    have hm₁ := hm.logged s!"create_account({owner})" (d.pushAccount owner currency 0)
    rw [Act.bind_ok (Service.store_run (createEntry_ready hm₁ hfit₁.2 (d.lastId + 1) b none))]
    have ha : ((d.pushAccount owner currency 0).pushEntry (d.lastId + 1) b none).toTables.account?
        (d.lastId + 1) = some ⟨d.lastId + 1, owner, 0, currency⟩ := by
      simp [MemTables.pushEntry, MemTables.pushAccount, MemTables.toTables, Tables.account?,
        List.find?_append, Tables.find?_next hw.accountsBelow]
    have hm₂ := hm₁.logged s!"create_entry({d.lastId + 1}, {b})"
      ((d.pushAccount owner currency 0).pushEntry (d.lastId + 1) b none)
    rw [Act.bind_ok (Service.store_run (addBalance_ready hm₂ ((hw.pushAccount _ _ _).pushEntry _ _ _).accounts
      ha (by simpa using hfit)))]
    refine ⟨_, by simp only [Int.zero_add]; rfl, ?_⟩
    have hrows : d.withAccount owner currency b =
        ((d.pushAccount owner currency 0).pushEntry (d.lastId + 1) b none).credit (d.lastId + 1) b := by
      rw [MemTables.withAccount, if_pos hpos, MemTables.credit_pushEntry,
        MemTables.credit_pushAccount hw.accountsBelow, Int.zero_add]
    rw [hrows]
    exact hm₂.logged _ _
  · -- a zero opening balance books nothing
    obtain rfl : b = 0 := by omega
    rw [if_neg hpos]
    exact ⟨_, rfl, by rw [MemTables.withAccount, if_neg hpos]; exact hm.logged _ _⟩

theorem createAccount_serves (hm : m.Serves d) (hw : d.Wf) (hroom : Signed64.Fits (d.lastId + 2))
    (owner : String) (currency : Currency) {b : Int} (hfit : Signed64.Fits b) (hb : 0 ≤ b) :
    ∃ m', (Service.createAccount owner currency b : Act MemoryStore LedgerError Account) m =
      .ok ⟨d.lastId + 1, owner, b, currency⟩ m' ∧ m'.Serves (d.withAccount owner currency b) := by
  obtain ⟨m₁, e₁, hm₁⟩ := openAccount_ready hm.begun hw hroom owner currency hfit hb
  unfold Service.createAccount
  rw [if_neg (by omega), Act.bind_ok (atomically_answered hm e₁)]
  exact ⟨_, rfl, hm₁.committed⟩

theorem applyPosting_ready (hm : m.Ready d) (hu : d.accounts.Pairwise (·.id < ·.id)) {p : Posting}
    {a : Account} (ha : d.toTables.account? p.accountId = some a)
    (hfit : Signed64.Fits (a.balance + p.delta)) :
    (Service.applyPosting p : Act MemoryStore LedgerError Unit) m =
      .ok () (m.logged s!"add_account_balance({p.accountId}, {p.delta})" (d.credit p.accountId p.delta)) := by
  unfold Service.applyPosting
  rw [Act.bind_ok (Service.store_run (addBalance_ready hm hu ha hfit))]
  rfl

/-- Two balance increments on distinct accounts, each staying in range, log themselves in turn
and move both balances. -/
theorem applyPostings_ready (hm : m.Ready d) (hu : d.accounts.Pairwise (·.id < ·.id))
    {p₁ p₂ : Posting} {a₁ a₂ : Account}
    (hne : p₁.accountId ≠ p₂.accountId) (h₁ : d.toTables.account? p₁.accountId = some a₁)
    (h₂ : d.toTables.account? p₂.accountId = some a₂) (hf₁ : Signed64.Fits (a₁.balance + p₁.delta))
    (hf₂ : Signed64.Fits (a₂.balance + p₂.delta)) {β : Type} (k : Act MemoryStore LedgerError β) :
    (Service.applyPosting p₁ >>= fun _ => Service.applyPosting p₂ >>= fun _ => k) m =
      k ((m.logged s!"add_account_balance({p₁.accountId}, {p₁.delta})" (d.credit p₁.accountId p₁.delta)).logged
        s!"add_account_balance({p₂.accountId}, {p₂.delta})"
        ((d.credit p₁.accountId p₁.delta).credit p₂.accountId p₂.delta)) := by
  have h₂' : (d.credit p₁.accountId p₁.delta).toTables.account? p₂.accountId = some a₂ := by
    rw [MemTables.credit_toTables, Tables.account?_credit, h₂]
    simp [(Tables.account?_eq_some h₂).2, hne.symm]
  have hm₁ := hm.logged s!"add_account_balance({p₁.accountId}, {p₁.delta})" (d.credit p₁.accountId p₁.delta)
  rw [Act.bind_ok (applyPosting_ready hm hu h₁ hf₁),
    Act.bind_ok (applyPosting_ready hm₁ (MemTables.pairwise_credit hu _ _) h₂' hf₂)]

/-- The two balance increments of a transfer as the store logs them: the lower account id
first, each account with its own change. -/
def balanceCalls (src dst amount : Int) : List String :=
  let delta := fun i : Int => if i = src then -amount else amount
  [s!"add_account_balance({(orderedPair src dst).1}, {delta (orderedPair src dst).1})",
    s!"add_account_balance({(orderedPair src dst).2}, {delta (orderedPair src dst).2})"]

/-- The increments in the order a transfer makes them: the debit first exactly when the source
has the lower id. -/
theorem balanceCalls_eq {src dst amount : Int} (hne : src ≠ dst) :
    balanceCalls src dst amount =
      if src ≤ dst then
        [s!"add_account_balance({src}, {-amount})", s!"add_account_balance({dst}, {amount})"]
      else
        [s!"add_account_balance({dst}, {amount})", s!"add_account_balance({src}, {-amount})"] := by
  unfold balanceCalls orderedPair
  by_cases hle : src ≤ dst
  · simp [hle, Ne.symm hne]
  · simp [hle, Ne.symm hne]

/-- The calls the body of a transfer logs: the transfer row, its debit and its credit, the two
increments, and the read of the row `id`. -/
def recordCalls (src dst amount id : Int) : List String :=
  [s!"create_transfer({src}, {dst}, {amount})", s!"create_entry({src}, {-amount})",
    s!"create_entry({dst}, {amount})"] ++ balanceCalls src dst amount ++ [s!"get_transfer({id})"]

/-- The body of a transfer between two distinct existing accounts whose balances stay in
range, while the counter has room for its three rows: it logs its calls, leaves the rows of the
transfer, and answers the transfer that the counter's next id finds among them. -/
theorem recordTransfer_logs (hm : m.Ready d) (hu : d.accounts.Pairwise (·.id < ·.id))
    (hid : Signed64.Fits d.lastId) (hroom : Signed64.Fits (d.lastId + 3))
    {src dst amount : Int} (hne : src ≠ dst) (hneg : Signed64.Fits (-amount)) {a b : Account}
    (ha : d.toTables.account? src = some a) (hb : d.toTables.account? dst = some b)
    (hfa : Signed64.Fits (a.balance + -amount)) (hfb : Signed64.Fits (b.balance + amount)) :
    ∃ x, (d.withTransfer src dst amount).toTables.transfer? (d.lastId + 1) = some x ∧
      (Service.recordTransfer src dst amount : Act MemoryStore LedgerError Transfer) m =
        .ok x { m with
          calls := m.calls ++ recordCalls src dst amount (d.lastId + 1)
          data := some (d.withTransfer src dst amount) } := by
  have hfit : Signed64.Fits (d.lastId + 1) ∧ Signed64.Fits (d.lastId + 1 + 1) ∧
      Signed64.Fits (d.lastId + 1 + 1 + 1) := by
    unfold Signed64.Fits Signed64.min Signed64.max at *
    refine ⟨⟨?_, ?_⟩, ⟨?_, ?_⟩, ?_, ?_⟩ <;> omega
  obtain ⟨x, hx⟩ : ∃ x, (d.withTransfer src dst amount).toTables.transfer? (d.lastId + 1) = some x := by
    refine Option.isSome_iff_exists.1 ?_
    simp [MemTables.withTransfer, MemTables.transferRows, MemTables.credit, MemTables.pushEntry,
      MemTables.pushTransfer, MemTables.toTables, Tables.transfer?, List.find?_append]
  refine ⟨x, hx, ?_⟩
  unfold Service.recordTransfer
  rw [Act.bind_ok (Service.store_run (createTransfer_ready hm hfit.1 src dst amount)),
    transferPostings_of_fits hneg, Act.bind_ok (Act.ofExcept_ok _ _)]
  dsimp only
  have hm₁ := hm.logged s!"create_transfer({src}, {dst}, {amount})" (d.pushTransfer src dst amount)
  rw [Act.bind_ok (Service.store_run (createEntry_ready hm₁ hfit.2.1 src (-amount) (some (d.lastId + 1))))]
  have hm₂ := hm₁.logged s!"create_entry({src}, {-amount})"
    ((d.pushTransfer src dst amount).pushEntry src (-amount) (some (d.lastId + 1)))
  rw [Act.bind_ok (Service.store_run (createEntry_ready hm₂ hfit.2.2 dst amount (some (d.lastId + 1))))]
  have hm₃ := hm₂.logged s!"create_entry({dst}, {amount})"
    (((d.pushTransfer src dst amount).pushEntry src (-amount) (some (d.lastId + 1))).pushEntry dst amount
      (some (d.lastId + 1)))
  rw [balanceUpdates_perm (transferPostings_of_fits hneg), Act.bind_ok (Act.ofExcept_ok _ _),
    recordCalls, balanceCalls_eq hne]
  have ha₃ : (d.transferRows src dst amount).toTables.account? (⟨src, -amount⟩ : Posting).accountId =
      some a := ha
  have hb₃ : (d.transferRows src dst amount).toTables.account? (⟨dst, amount⟩ : Posting).accountId =
      some b := hb
  by_cases hle : src ≤ dst
  · simp only [if_pos hle]
    have hne' : (⟨src, -amount⟩ : Posting).accountId ≠ (⟨dst, amount⟩ : Posting).accountId := hne
    rw [applyPostings_ready hm₃ hu hne' ha₃ hb₃ hfa hfb,
      Act.bind_ok (Service.store_run (getTransfer_ready ((hm₃.logged _ _).logged _ _) _))]
    dsimp only
    rw [← MemTables.transferRows, ← MemTables.withTransfer, hx]
    simp only [MemoryStore.logged, List.append_assoc, List.cons_append, List.nil_append]
    rfl
  · simp only [if_neg hle]
    have hne' : (⟨dst, amount⟩ : Posting).accountId ≠ (⟨src, -amount⟩ : Posting).accountId := Ne.symm hne
    rw [applyPostings_ready hm₃ hu hne' hb₃ ha₃ hfb hfa,
      Act.bind_ok (Service.store_run (getTransfer_ready ((hm₃.logged _ _).logged _ _) _))]
    dsimp only
    rw [← MemTables.transferRows, MemTables.credit_comm _ (Ne.symm hne), ← MemTables.withTransfer, hx]
    simp only [MemoryStore.logged, List.append_assoc, List.cons_append, List.nil_append]
    rfl

theorem transfer?_withTransfer (hw : d.Wf) (src dst amount : Int) :
    (d.withTransfer src dst amount).toTables.transfer? (d.lastId + 1) = some ⟨d.lastId + 1, src, dst, amount⟩ := by
  simp [MemTables.withTransfer, MemTables.transferRows, MemTables.credit, MemTables.pushEntry,
    MemTables.pushTransfer, MemTables.toTables, Tables.transfer?, List.find?_append,
    Tables.find?_next hw.transfersBelow]

/-- The body of a transfer between two distinct existing accounts whose balances stay in
range: the transfer under the next id, its entries under the two after, both increments, and
the row read back. -/
theorem recordTransfer_ready (hm : m.Ready d) (hw : d.Wf) (hroom : Signed64.Fits (d.lastId + 3))
    {src dst amount : Int} (hne : src ≠ dst) (hneg : Signed64.Fits (-amount)) {a b : Account}
    (ha : d.toTables.account? src = some a) (hb : d.toTables.account? dst = some b)
    (hfa : Signed64.Fits (a.balance + -amount)) (hfb : Signed64.Fits (b.balance + amount)) :
    ∃ m', (Service.recordTransfer src dst amount : Act MemoryStore LedgerError Transfer) m =
      .ok ⟨d.lastId + 1, src, dst, amount⟩ m' ∧ m'.Ready (d.withTransfer src dst amount) := by
  have hid : Signed64.Fits d.lastId := by
    have := hw.nonneg
    unfold Signed64.Fits Signed64.min Signed64.max at *
    omega
  obtain ⟨x, hx, e⟩ := recordTransfer_logs hm hw.accounts hid hroom hne hneg ha hb hfa hfb
  rw [transfer?_withTransfer hw, Option.some.injEq] at hx
  subst hx
  exact ⟨_, e, rfl, hm.unarmed⟩

/-- A transfer that passes its checks with both balances staying in range commits its rows
and answers the new transfer. -/
theorem createTransfer_serves (hm : m.Serves d) (hw : d.Wf) (hroom : Signed64.Fits (d.lastId + 3))
    {principal : String} {src dst amount : Int} {currency : Currency} (hamt : Signed64.Fits amount)
    (hr : transferRejection d.toTables principal src dst amount currency = none)
    (ho : transferOverflow d.toTables src dst amount = none) :
    ∃ m', (Service.createTransfer principal src dst amount currency : Act MemoryStore LedgerError Transfer) m =
      .ok ⟨d.lastId + 1, src, dst, amount⟩ m' ∧ m'.Serves (d.withTransfer src dst amount) := by
  obtain ⟨hpos, hne, a, ha, -, -, b, hb, -⟩ := transferRejection_eq_none hr
  obtain ⟨hfa, hfb⟩ := (transferOverflow_eq_none ha hb).1 ho
  obtain ⟨m₁, hm₁, e⟩ := (servesRows d.lastId).createTransfer_accepted hm hr
  have hm₁' : m₁.Serves d := hm₁
  obtain ⟨m₂, e₂, hm₂⟩ := recordTransfer_ready hm₁'.begun hw hroom hne (Signed64.fits_neg hamt hpos)
    ha hb hfa hfb
  rw [e, Act.bind_ok (atomically_answered hm₁' e₂)]
  exact ⟨_, rfl, hm₂.committed⟩

end MemoryStore

end DoubleEntry
