import DoubleEntry.Proofs.Unobserved
import DoubleEntry.Store.Memory

/-!
# DoubleEntry.Proofs.Transactions

The contract of the transaction manager, for every state and every body.

On an open pool outside a transaction the body runs once, inside the transaction. When it
answers, its writes are kept; when it fails, its failure is handed back unchanged, and when
it aborts, the abort goes on; in both cases the pool is given back alike to the one the
transaction began on (`Pool.Unwritten`), so that every later request answers as if the
transaction had never run (`later_requests_unaffected`). A closed pool begins nothing.

Inside a transaction, of the pool or of the in-memory store, no other begins: the body is not
run and nothing is written or logged but the refusal. The service checks a transfer before it
asks for its transaction, so on a store already inside one a transfer that passes its checks
(`transferRejection`) is refused as nested after exactly the reads of its checks, and an
account is refused as nested before any call (`Service.createTransfer_of_reads`,
`Service.createAccount_of_refused`); an enclosing body that hands the refusal on is rolled
back whole.

Main statement: `transactions_keep_their_contract`.
-/

namespace DoubleEntry

/-! ## The service over a store that refuses its transaction -/

namespace Service

variable {σ : Type} [LedgerStore σ] {s s' s₁ s₂ : σ}

theorem atomically_of_refused {α : Type} {body : Act σ LedgerError α} {r : Refusal}
    (h : LedgerStore.transact body s = (.refused r, s')) :
    atomically body s = .error (.fail r.toError) s' := by
  unfold atomically
  rw [h]

theorem fetchAccount_of_read {id : Int} {a : Account}
    (h : LedgerStore.getAccount id s = .ok (some a) s') : fetchAccount id s = .ok a s' := by
  have hs : store (LedgerStore.getAccount id) s = .ok (some a) s' := Act.mapFail_ok h
  unfold fetchAccount
  rw [Act.bind_ok hs]
  rfl

theorem accountIn_of_read {id : Int} {c : Currency} {a : Account}
    (h : LedgerStore.getAccount id s = .ok (some a) s') (hc : a.currency = c) :
    accountIn id c s = .ok a s' := by
  unfold accountIn
  rw [Act.bind_ok (fetchAccount_of_read h), if_pos hc]
  rfl

/-- A transfer whose two reads find what its checks ask for reports that it is recording the
transfer and asks for its transaction, having made only those two reads. -/
theorem createTransfer_of_reads {principal : String} {src dst amount : Int} {currency : Currency}
    {a b : Account} (hpos : 0 < amount) (hne : src ≠ dst)
    (hsrc : LedgerStore.getAccount src s = .ok (some a) s₁) (hc : a.currency = currency)
    (ho : a.owner = principal)
    (hdst : LedgerStore.getAccount dst s₁ = .ok (some b) s₂) (hc' : b.currency = currency) :
    createTransfer principal src dst amount currency s =
      (atomically (recordTransfer src dst amount) >>= fun x =>
        note (.transferCompleted x.id src dst amount currency) >>= fun _ => pure x)
        (LedgerStore.note (.recording src dst amount) s₂) := by
  have hown : ¬ (!a.ownedBy principal) = true := by simp [Account.ownedBy, ho]
  unfold createTransfer
  rw [if_neg (by omega), if_neg hne, Act.bind_ok (accountIn_of_read hsrc hc), if_neg hown,
    Act.bind_ok (accountIn_of_read hdst hc')]
  rfl

/-- A transfer whose reads pass its checks, on a store that refuses its transaction, answers
the refusal from the state the refusal leaves. -/
theorem createTransfer_refused {principal : String} {src dst amount : Int} {currency : Currency}
    {a b : Account} {r : Refusal} {s₃ : σ} (hpos : 0 < amount) (hne : src ≠ dst)
    (hsrc : LedgerStore.getAccount src s = .ok (some a) s₁) (hc : a.currency = currency)
    (ho : a.owner = principal)
    (hdst : LedgerStore.getAccount dst s₁ = .ok (some b) s₂) (hc' : b.currency = currency)
    (hr : LedgerStore.transact (recordTransfer src dst amount)
      (LedgerStore.note (.recording src dst amount) s₂) = (.refused r, s₃)) :
    createTransfer principal src dst amount currency s = .error (.fail r.toError) s₃ := by
  rw [createTransfer_of_reads hpos hne hsrc hc ho hdst hc', Act.bind_error (atomically_of_refused hr)]

/-- An account with an opening balance that is not negative, on a store that refuses its
transaction, answers the refusal: the account is checked before any call. -/
theorem createAccount_of_refused {owner : String} {currency : Currency} {b : Int} {r : Refusal}
    (hb : 0 ≤ b) (h : LedgerStore.transact (openAccount ⟨owner, currency⟩ b) s = (.refused r, s')) :
    createAccount owner currency b s = .error (.fail r.toError) s' := by
  unfold createAccount
  rw [if_neg (by omega), Act.bind_error (atomically_of_refused h)]

end Service

/-! ## Transactions of the pool -/

namespace Pool

variable {ε α : Type} {body : Act Pool ε α} {p : Pool}

/-- Inside a transaction no other begins: the body is not run, and the pool only reports the
refusal. -/
theorem transact_nested (h : p.inTx = true) : transact body p = (.refused .nested, p.note .nestedRefused) := by
  simp [transact, h]

theorem transact_closed (hin : p.inTx = false) (ho : p.isOpen = false) :
    transact body p = (.refused .closedPool, p) := by
  simp [transact, hin, ho]

theorem transact_answered (hin : p.inTx = false) (ho : p.isOpen = true) {a : α} {q : Pool}
    (hb : body { p with inTx := true } = .ok a q) :
    ∃ r, transact body p = (.committed a, r) ∧ Unwritten { q with inTx := false } r := by
  refine ⟨{ q with inTx := false }.note .committed, ?_, ⟨⟨rfl, rfl, rfl⟩, rfl⟩⟩
  unfold transact
  rw [if_neg (by simp [hin]), if_neg (by simp [ho]), hb]

theorem transact_failed (hin : p.inTx = false) (ho : p.isOpen = true) {e : ε} {q : Pool}
    (hb : body { p with inTx := true } = .error (.fail e) q) :
    ∃ r, transact body p = (.rolledBack e, r) ∧ Unwritten p r := by
  refine ⟨{ p with trace := q.trace, touched := q.touched }.note .rolledBack, ?_, ⟨⟨rfl, rfl, rfl⟩, rfl⟩⟩
  unfold transact
  rw [if_neg (by simp [hin]), if_neg (by simp [ho]), hb]

theorem transact_aborted (hin : p.inTx = false) (ho : p.isOpen = true) {x : Abort} {q : Pool}
    (hb : body { p with inTx := true } = .error (.abort x) q) :
    ∃ r, transact body p = (.aborted x, r) ∧ Unwritten p r := by
  refine ⟨{ p with trace := q.trace, touched := q.touched }.note .rolledBack, ?_, ⟨⟨rfl, rfl, rfl⟩, rfl⟩⟩
  unfold transact
  rw [if_neg (by simp [hin]), if_neg (by simp [ho]), hb]

theorem getAccount_run {t : Tables} (hf : p.file = .ledger t) (hr : p.Reaches) (id : Int) :
    (LedgerStore.getAccount id : Act Pool Fault (Option Account)) p =
      .ok (t.account? id) { p with touched := true } :=
  query_run hf hr

end Pool

/-- A pool given back alike to another answers every later run of requests as the other
would. -/
theorem later_requests_unaffected {p r : Pool} (h : Pool.Unwritten p r) (ops : List Op) (op : Op) :
    (op.run (runOps ops r)).1 = (op.run (runOps ops p)).1 :=
  ((op.run_blind (runOps_blind ops h)).1).symm

/-! ## Transactions of the in-memory store -/

/-- The rows of the in-memory store as tables, without their counters: what the checks of a
request read. -/
def MemTables.toTables (d : MemTables) : Tables :=
  { accounts := d.accounts, entries := d.entries, transfers := d.transfers }

namespace MemoryStore

variable {m : MemoryStore} {d : MemTables}

theorem callName_append {name args : String} (h : ∀ c ∈ name.toList, c ≠ '(') :
    callName (name ++ "(" ++ args) = name := by
  unfold callName
  rw [String.toList_append, String.toList_append, List.append_assoc,
    List.takeWhile_append_of_pos (by simpa using h)]
  simp

theorem callName_getAccount (id : Int) : callName s!"get_account({id})" = "get_account" := by
  have hs : s!"get_account({id})" = "get_account" ++ "(" ++ (toString id ++ ")") := by
    simp only [String.append_assoc]
    rfl
  rw [hs, callName_append (by simp)]

/-- Reading an account logs the read and, with no failure armed for reads, answers from the
rows. -/
theorem getAccount_run (hd : m.data = some d) (harm : m.failOn ≠ some "get_account") (id : Int) :
    MemoryStore.getAccount id m =
      .ok (d.toTables.account? id) { m with calls := m.calls ++ [s!"get_account({id})"] } := by
  unfold MemoryStore.getAccount
  have hrec : record s!"get_account({id})" m = .ok () { m with calls := m.calls ++ [s!"get_account({id})"] } := by
    simp only [record, callName_getAccount, if_neg harm]
  rw [Act.bind_ok hrec]
  simp only [readData, withData, hd]
  rfl

/-- A transaction of a body that fails without poisoning the lock puts the rows back as they
were when it began. -/
theorem transact_failed {ε α : Type} {body : Act MemoryStore ε α} {m' : MemoryStore} {e : ε}
    (hin : m.inTx = false) (hd : m.data = some d)
    (hb : body { m with started := m.started + 1, calls := m.calls ++ ["begin"], inTx := true } =
      .error (.fail e) m')
    (hlock : m'.data ≠ none) :
    ∃ r, transact body m = (.rolledBack e, r) ∧ r.data = m.data ∧ r.inTx = false := by
  obtain ⟨d', hd'⟩ := Option.ne_none_iff_exists'.1 hlock
  refine ⟨{ m' with data := some d, calls := m'.calls ++ ["rollback"], inTx := false }, ?_, hd.symm, rfl⟩
  unfold transact
  rw [if_neg (by simp [hin])]
  dsimp only
  rw [hb, hd]
  simp only [restore, hd', Option.map_some]

end MemoryStore

/-! ## The contract -/

open Pool in
/-- The transaction manager's contract. On an open pool outside a transaction, for every
body: an answer commits exactly the body's writes; a failure is handed back unchanged and an
abort goes on, the pool given back alike to the one the transaction began on; a closed pool
begins nothing. A pool given back alike answers every later run of requests as before. Inside
a transaction, of the pool or of the in-memory store, no other begins, whatever the body, and
nothing is written; so there a transfer that passes its checks is refused as nested, an
internal error, after exactly the reads of its checks, and so is an account before any call;
an enclosing body of the in-memory store that fails with the refusal is rolled back whole. -/
theorem transactions_keep_their_contract :
    (∀ {ε α : Type} (body : Act Pool ε α) (p : Pool), p.inTx = false →
      (p.isOpen = true →
        (∀ a q, body { p with inTx := true } = .ok a q →
          ∃ r, transact body p = (.committed a, r) ∧ Unwritten { q with inTx := false } r) ∧
        (∀ e q, body { p with inTx := true } = .error (.fail e) q →
          ∃ r, transact body p = (.rolledBack e, r) ∧ Unwritten p r) ∧
        (∀ x q, body { p with inTx := true } = .error (.abort x) q →
          ∃ r, transact body p = (.aborted x, r) ∧ Unwritten p r)) ∧
      (p.isOpen = false → transact body p = (.refused .closedPool, p))) ∧
    (∀ (p r : Pool), Unwritten p r → ∀ (ops : List Op) (op : Op),
      (op.run (runOps ops r)).1 = (op.run (runOps ops p)).1) ∧
    (∀ {ε α : Type} (body : Act Pool ε α) (p : Pool), p.inTx = true →
      transact body p = (.refused .nested, p.note .nestedRefused)) ∧
    (∀ {ε α : Type} (body : Act MemoryStore ε α) (m : MemoryStore), m.inTx = true →
      MemoryStore.transact body m = (.refused .nested, m)) ∧
    LedgerError.nested.kind = .internal ∧
    (∀ (p : Pool) (t : Tables) (principal : String) (src dst amount : Int) (currency : Currency),
      p.inTx = true → p.file = .ledger t →
      transferRejection t principal src dst amount currency = none →
      (Service.createTransfer principal src dst amount currency : Act Pool LedgerError Transfer) p =
        .error (.fail .nested)
          { p with touched := true, trace := p.trace ++ [.recording src dst amount, .nestedRefused] }) ∧
    (∀ (p : Pool) (owner : String) (currency : Currency) (b : Int), p.inTx = true → 0 ≤ b →
      (Service.createAccount owner currency b : Act Pool LedgerError Account) p =
        .error (.fail .nested) (p.note .nestedRefused)) ∧
    (∀ (m : MemoryStore) (d : MemTables) (principal : String) (src dst amount : Int)
      (currency : Currency), m.inTx = true → m.data = some d → m.failOn ≠ some "get_account" →
      transferRejection d.toTables principal src dst amount currency = none →
      (Service.createTransfer principal src dst amount currency : Act MemoryStore LedgerError Transfer) m =
        .error (.fail .nested) { m with calls := m.calls ++ [s!"get_account({src})", s!"get_account({dst})"] }) ∧
    (∀ (m : MemoryStore) (owner : String) (currency : Currency) (b : Int), m.inTx = true → 0 ≤ b →
      (Service.createAccount owner currency b : Act MemoryStore LedgerError Account) m =
        .error (.fail .nested) m) ∧
    (∀ {ε α : Type} (body : Act MemoryStore ε α) (m m' : MemoryStore) (d : MemTables) (e : ε),
      m.inTx = false → m.data = some d →
      body { m with started := m.started + 1, calls := m.calls ++ ["begin"], inTx := true } =
        .error (.fail e) m' → m'.data ≠ none →
      ∃ r, MemoryStore.transact body m = (.rolledBack e, r) ∧ r.data = m.data ∧ r.inTx = false) := by
  refine ⟨fun body p hin => ⟨fun ho => ⟨fun a q hb => transact_answered hin ho hb,
      fun e q hb => transact_failed hin ho hb, fun x q hb => transact_aborted hin ho hb⟩,
      fun ho => transact_closed hin ho⟩,
    fun p r h ops op => later_requests_unaffected h ops op,
    fun body p h => transact_nested h,
    fun body m h => MemoryStore.transact_refused_nested body m h,
    rfl, ?_, ?_, ?_, ?_,
    fun body m m' d e hin hd hb hlock => MemoryStore.transact_failed hin hd hb hlock⟩
  · -- on the pool the two reads find the accounts the checks passed, and mark the file reached
    intro p t principal src dst amount currency hin hf h
    obtain ⟨hpos, hne, a, ha, hc, ho, b, hb, hc'⟩ := transferRejection_eq_none h
    have hsrc := getAccount_run hf (.inl hin) src
    have hdst := getAccount_run (p := { p with touched := true }) hf (.inl hin) dst
    rw [ha] at hsrc
    rw [hb] at hdst
    rw [Service.createTransfer_refused hpos hne hsrc hc ho hdst hc' (transact_nested hin)]
    simp only [LedgerStore.note, Pool.note, Refusal.toError, List.append_assoc, List.cons_append,
      List.nil_append]
  · intro p owner currency b hin hb
    have hr : LedgerStore.transact (Service.openAccount ⟨owner, currency⟩ b) p =
        (.refused .nested, p.note .nestedRefused) :=
      transact_nested hin
    exact Service.createAccount_of_refused hb hr
  · -- in memory the two reads are logged, and the refusal leaves the store as it is
    intro m d principal src dst amount currency hin hd harm h
    obtain ⟨hpos, hne, a, ha, hc, ho, b, hb, hc'⟩ := transferRejection_eq_none h
    have hsrc := MemoryStore.getAccount_run hd harm src
    have hdst := MemoryStore.getAccount_run (m := { m with calls := m.calls ++ [s!"get_account({src})"] })
      hd harm dst
    rw [ha] at hsrc
    rw [hb] at hdst
    have hr : LedgerStore.transact (Service.recordTransfer src dst amount)
        (LedgerStore.note (.recording src dst amount)
          { m with calls := m.calls ++ [s!"get_account({src})"] ++ [s!"get_account({dst})"] }) =
        (.refused .nested,
          { m with calls := m.calls ++ [s!"get_account({src})"] ++ [s!"get_account({dst})"] }) :=
      MemoryStore.transact_refused_nested _ _ hin
    rw [Service.createTransfer_refused hpos hne hsrc hc ho hdst hc' hr]
    simp only [Refusal.toError, List.append_assoc, List.cons_append, List.nil_append]
  · intro m owner currency b hin hb
    have hr : LedgerStore.transact (Service.openAccount ⟨owner, currency⟩ b) m = (.refused .nested, m) :=
      MemoryStore.transact_refused_nested _ _ hin
    exact Service.createAccount_of_refused hb hr

/-- A transfer asked for inside a transaction of an in-memory store holding two accounts of
one currency is refused as nested, and the transaction leaves the rows as they were. -/
theorem transfer_inside_transaction_rolled_back :
    ∃ r, MemoryStore.transact
        (Service.createTransfer "alice" 1 2 100 .usd : Act MemoryStore LedgerError Transfer)
        { data := some { accounts := [⟨1, "alice", 10000, .usd⟩, ⟨2, "bob", 5000, .usd⟩], lastId := 2 } } =
      (.rolledBack .nested, r) ∧
      r.data = some { accounts := [⟨1, "alice", 10000, .usd⟩, ⟨2, "bob", 5000, .usd⟩], lastId := 2 } ∧
      r.inTx = false := by
  obtain ⟨-, -, -, -, -, -, -, hnested, -, hrollback⟩ := transactions_keep_their_contract
  exact hrollback _ _ _ _ _ rfl rfl
    (hnested _ _ "alice" 1 2 100 .usd rfl rfl (by decide) (by decide)) (by simp)

end DoubleEntry
