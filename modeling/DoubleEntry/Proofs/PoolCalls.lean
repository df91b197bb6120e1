import Mathlib.Order.Defs.Unbundled
import DoubleEntry.Store.Snapshot

/-!
# DoubleEntry.Proofs.PoolCalls

How the ledger's calls run on a relational pool.

A call is a function of the state, so a block of calls is taken apart one bind at a time:
`Act.bind_ok` runs the first call forward, and `Act.bind_eq_ok` and `Act.bind_eq_error` go
back from how a block ended to how its first call ended.

On a pool that reaches its file (it is open, or inside a transaction) and whose file holds
tables `t`, a statement answers what its table function answers on `t`
(`Pool.statement_run`); conversely a statement that answered ran its table function on the
file (`Pool.statement_eq_ok`). A transaction commits only on an open pool outside another
transaction, with the file its body left (`Pool.atomically_eq_ok`); in every other case the
file is given back as it was (`Pool.atomically_error_file`).

`Act.Keeps R x` says that `x` ends in a state related by `R` to the state it began in,
whatever it answers. It is closed under binds, so it is proved of a whole block from its
calls: every call keeps the connection (`Pool.SameConnection`), and reads also keep the
file (`Pool.Unwritten`).
-/

namespace DoubleEntry
namespace Act

variable {σ ε ε' α β : Type}

/-- The state a call ends in, whatever it answers. -/
def after (x : Act σ ε α) (s : σ) : σ :=
  match x s with
  | .ok _ s' => s'
  | .error _ s' => s'

theorem after_of_ok {x : Act σ ε α} {s s' : σ} {a : α} (h : x s = .ok a s') : x.after s = s' := by
  simp [after, h]

theorem after_of_error {x : Act σ ε α} {s s' : σ} {e : Halt ε} (h : x s = .error e s') :
    x.after s = s' := by
  simp [after, h]

theorem bind_ok {x : Act σ ε α} {f : α → Act σ ε β} {s s' : σ} {a : α}
    (h : x s = .ok a s') : (x >>= f) s = f a s' := by
  simp only [bind, EStateM.bind, h]

theorem bind_error {x : Act σ ε α} {f : α → Act σ ε β} {s s' : σ} {e : Halt ε}
    (h : x s = .error e s') : (x >>= f) s = .error e s' := by
  simp only [bind, EStateM.bind, h]

theorem bind_eq_ok {x : Act σ ε α} {f : α → Act σ ε β} {s s'' : σ} {b : β}
    (h : (x >>= f) s = .ok b s'') : ∃ a s', x s = .ok a s' ∧ f a s' = .ok b s'' := by
  cases hx : x s with
  | ok a s' => exact ⟨a, s', rfl, by rwa [bind_ok hx] at h⟩
  | error e s' => rw [bind_error hx] at h; cases h

theorem bind_eq_error {x : Act σ ε α} {f : α → Act σ ε β} {s s'' : σ} {e : Halt ε}
    (h : (x >>= f) s = .error e s'') :
    x s = .error e s'' ∨ ∃ a s', x s = .ok a s' ∧ f a s' = .error e s'' := by
  cases hx : x s with
  | ok a s' => exact .inr ⟨a, s', rfl, by rwa [bind_ok hx] at h⟩
  | error e' s' => rw [bind_error hx] at h; cases h; exact .inl rfl

@[simp] theorem pure_apply (a : α) (s : σ) : (pure a : Act σ ε α) s = .ok a s := rfl

@[simp] theorem fail_apply (e : ε) (s : σ) : (fail e : Act σ ε α) s = .error (.fail e) s := rfl

@[simp] theorem ofExcept_ok (a : α) (s : σ) : (ofExcept (.ok a) : Act σ ε α) s = .ok a s := rfl

@[simp] theorem ofExcept_error (x : Abort) (s : σ) :
    (ofExcept (.error x) : Act σ ε α) s = .error (.abort x) s := rfl

theorem mapFail_ok {f : ε → ε'} {x : Act σ ε α} {s s' : σ} {a : α} (h : x s = .ok a s') :
    mapFail f x s = .ok a s' := by
  simp [mapFail, h]

theorem mapFail_fail {f : ε → ε'} {x : Act σ ε α} {s s' : σ} {e : ε}
    (h : x s = .error (.fail e) s') : mapFail f x s = .error (.fail (f e)) s' := by
  simp [mapFail, h]

theorem mapFail_eq_ok {f : ε → ε'} {x : Act σ ε α} {s s' : σ} {a : α}
    (h : mapFail f x s = .ok a s') : x s = .ok a s' := by
  unfold mapFail at h
  split at h
  · cases h; assumption
  · cases h
  · cases h

theorem after_mapFail (f : ε → ε') (x : Act σ ε α) (s : σ) : (mapFail f x).after s = x.after s := by
  unfold after mapFail
  cases x s with
  | ok a s' => rfl
  | error e s' => cases e <;> rfl

/-! ## What a call keeps -/

/-- A call keeps `R` when it ends in a state related by `R` to the state it began in,
whatever it answers. -/
def Keeps (R : σ → σ → Prop) (x : Act σ ε α) : Prop :=
  ∀ s, R s (x.after s)

section Keeps

variable {R : σ → σ → Prop}

theorem Keeps.pure [IsPreorder σ R] (a : α) : Keeps R (Pure.pure a : Act σ ε α) :=
  fun s => refl_of R s

theorem Keeps.fail [IsPreorder σ R] (e : ε) : Keeps R (Act.fail e : Act σ ε α) :=
  fun s => refl_of R s

theorem Keeps.ofExcept [IsPreorder σ R] (r : Except Abort α) :
    Keeps R (Act.ofExcept r : Act σ ε α) := by
  intro s
  cases r <;> exact refl_of R s

theorem Keeps.mapFail {x : Act σ ε α} (f : ε → ε') (hx : Keeps R x) : Keeps R (Act.mapFail f x) := by
  intro s
  rw [after_mapFail]
  exact hx s

theorem Keeps.bind [IsPreorder σ R] {x : Act σ ε α} {f : α → Act σ ε β} (hx : Keeps R x)
    (hf : ∀ a, Keeps R (f a)) : Keeps R (x >>= f) := by
  intro s
  cases h : x s with
  | ok a s' =>
    have hs : R s s' := after_of_ok h ▸ hx s
    rw [show (x >>= f).after s = (f a).after s' by simp only [after, bind_ok h]]
    exact trans_of R hs (hf a s')
  | error e s' =>
    rw [after_of_error (bind_error h)]
    exact after_of_error h ▸ hx s

theorem Keeps.map [IsPreorder σ R] {x : Act σ ε α} (f : α → β) (hx : Keeps R x) :
    Keeps R (f <$> x) := by
  rw [map_eq_pure_bind]
  exact hx.bind fun a => .pure (f a)

end Keeps

end Act

theorem Service.atomically_after {σ α : Type} [LedgerStore σ] (body : Act σ LedgerError α) (s : σ) :
    (Service.atomically body).after s = (LedgerStore.transact body s).2 := by
  rcases h : LedgerStore.transact body s with ⟨r, q⟩
  cases r <;> simp [Act.after, Service.atomically, h]

namespace Pool

variable {α ε : Type} {ctx tbl : String} {w : Bool} {run : Tables → Except DbCause (α × Tables)}

/-- A pool reaches its file when it is open or inside a transaction. -/
def Reaches (p : Pool) : Prop := p.inTx = true ∨ p.isOpen = true

/-- A pool serving tables `t`: open, writable, outside any transaction, its file holding `t`. -/
structure Serves (p : Pool) (t : Tables) : Prop where
  file : p.file = .ledger t
  isOpen : p.isOpen = true
  outside : p.inTx = false
  writable : p.readOnly = false

theorem Serves.reaches {p : Pool} {t : Tables} (h : p.Serves t) : p.Reaches := .inr h.isOpen

theorem Serves.note {p : Pool} {t : Tables} (h : p.Serves t) (e : Event) : (p.note e).Serves t :=
  ⟨h.file, h.isOpen, h.outside, h.writable⟩

/-- Two pools on the same connection: equally open, equally inside a transaction, equally
writable. The file, the events and whether the file was reached may differ. -/
structure SameConnection (p q : Pool) : Prop where
  isOpen : q.isOpen = p.isOpen
  inTx : q.inTx = p.inTx
  readOnly : q.readOnly = p.readOnly

/-- A call that only reads leaves the pool on its connection and the file as it was. -/
structure Unwritten (p q : Pool) : Prop extends SameConnection p q where
  file : q.file = p.file

instance : IsPreorder Pool SameConnection where
  refl _ := ⟨rfl, rfl, rfl⟩
  trans _ _ _ h₁ h₂ :=
    ⟨h₂.isOpen.trans h₁.isOpen, h₂.inTx.trans h₁.inTx, h₂.readOnly.trans h₁.readOnly⟩

instance : IsPreorder Pool Unwritten where
  refl p := ⟨refl_of SameConnection p, rfl⟩
  trans _ _ _ h₁ h₂ :=
    ⟨trans_of SameConnection h₁.toSameConnection h₂.toSameConnection, h₂.file.trans h₁.file⟩

theorem Serves.of_sameConnection {p q : Pool} {t t' : Tables} (hp : p.Serves t)
    (hc : SameConnection p q) (hf : q.file = .ledger t') : q.Serves t' :=
  ⟨hf, hc.isOpen.trans hp.isOpen, hc.inTx.trans hp.outside, hc.readOnly.trans hp.writable⟩

theorem Serves.of_unwritten {p q : Pool} {t : Tables} (hp : p.Serves t) (h : Unwritten p q) :
    q.Serves t :=
  hp.of_sameConnection h.toSameConnection (h.file.trans hp.file)

/-! ## Statements -/

theorem statement_run {p : Pool} {t : Tables} (hf : p.file = .ledger t) (hr : p.Reaches)
    (hw : w = true → p.readOnly = false) :
    statement ctx tbl w run p =
      match run t with
      | .ok (a, t') => .ok a { p with touched := true, file := .ledger t' }
      | .error c => .error (.fail (.engine ctx c)) { p with touched := true } := by
  have hguard : (!p.inTx && !p.isOpen) = false := by
    rcases hr with h | h <;> simp [h]
  have hro : (w && p.readOnly) = false := by
    cases w <;> simp_all
  rcases hrun : run t with c | ⟨a, t'⟩ <;>
    simp only [statement, hguard, hf, hro, hrun, Bool.false_eq_true, if_false]

theorem statement_eq_ok {p q : Pool} {a : α} (h : statement ctx tbl w run p = .ok a q) :
    ∃ t t', p.file = .ledger t ∧ p.Reaches ∧ (w = true → p.readOnly = false) ∧
      run t = .ok (a, t') ∧ q = { p with touched := true, file := .ledger t' } := by
  unfold statement at h
  split at h
  · cases h
  · rename_i hg
    dsimp only at h
    split at h
    · cases h
    · rename_i t hf
      split at h
      · cases h
      · rename_i hro
        split at h
        · rename_i a' t' hrun
          cases h
          refine ⟨t, t', hf, ?_, fun hw => by simp_all, hrun, rfl⟩
          unfold Reaches
          revert hg
          cases p.inTx <;> cases p.isOpen <;> simp
        · cases h

theorem statement_eq_error {p q : Pool} {e : Halt Fault}
    (h : statement ctx tbl w run p = .error e q) : q = p ∨ q = { p with touched := true } := by
  unfold statement at h
  split at h
  · cases h; exact .inl rfl
  · dsimp only at h
    split at h
    · cases h; exact .inr rfl
    · split at h
      · cases h; exact .inr rfl
      · split at h
        · cases h
        · cases h; exact .inr rfl

theorem statement_keeps : Act.Keeps SameConnection (statement ctx tbl w run) := by
  intro p
  cases h : statement ctx tbl w run p with
  | ok a q =>
    obtain ⟨t, t', -, -, -, -, rfl⟩ := statement_eq_ok h
    rw [Act.after_of_ok h]
    exact ⟨rfl, rfl, rfl⟩
  | error e q =>
    rw [Act.after_of_error h]
    rcases statement_eq_error h with rfl | rfl
    · exact refl_of SameConnection q
    · exact ⟨rfl, rfl, rfl⟩

theorem statement_error_file {p q : Pool} {e : Halt Fault}
    (h : statement ctx tbl w run p = .error e q) : q.file = p.file := by
  rcases statement_eq_error h with rfl | rfl <;> rfl

theorem query_run {read : Tables → α} {p : Pool} {t : Tables} (hf : p.file = .ledger t)
    (hr : p.Reaches) : query ctx tbl read p = .ok (read t) { p with touched := true } := by
  rw [query, statement_run hf hr (by simp)]
  dsimp only
  rw [← hf]

theorem query_eq_ok {read : Tables → α} {p q : Pool} {a : α}
    (h : query ctx tbl read p = .ok a q) :
    ∃ t, p.file = .ledger t ∧ p.Reaches ∧ a = read t ∧ q = { p with touched := true } := by
  obtain ⟨t, t', hf, hr, -, hrun, rfl⟩ := statement_eq_ok h
  cases hrun
  exact ⟨t, hf, hr, rfl, by rw [hf]⟩

theorem query_keeps {read : Tables → α} : Act.Keeps Unwritten (query ctx tbl read) := by
  intro p
  cases h : query ctx tbl read p with
  | ok a q =>
    obtain ⟨t, t', hf, -, -, hrun, rfl⟩ := statement_eq_ok h
    cases hrun
    rw [Act.after_of_ok h]
    exact ⟨⟨rfl, rfl, rfl⟩, hf.symm⟩
  | error e q =>
    rw [Act.after_of_error h]
    rcases statement_eq_error h with rfl | rfl
    · exact refl_of Unwritten q
    · exact ⟨⟨rfl, rfl, rfl⟩, rfl⟩

/-! ## Transactions -/

theorem transact_committed {body : Act Pool ε α} {p q : Pool} {a : α}
    (h : transact body p = (.committed a, q)) :
    p.inTx = false ∧ p.isOpen = true ∧
      ∃ q', body { p with inTx := true } = .ok a q' ∧ q = { q' with inTx := false }.note .committed := by
  unfold transact at h
  split at h
  · cases h
  · split at h
    · cases h
    · rename_i hin hop
      split at h
      · rename_i a' q' hb
        simp only [Prod.mk.injEq, TxEnd.committed.injEq] at h
        obtain ⟨rfl, rfl⟩ := h
        exact ⟨by simpa using hin, by simpa using hop, q', hb, rfl⟩
      all_goals simp at h

theorem transact_file {body : Act Pool ε α} {p q : Pool} {r : TxEnd ε α}
    (h : transact body p = (r, q)) (hr : ∀ a, r ≠ .committed a) : q.file = p.file := by
  unfold transact at h
  split at h
  · cases h; rfl
  · split at h
    · cases h; rfl
    · split at h
      · simp only [Prod.mk.injEq] at h
        exact absurd h.1.symm (hr _)
      all_goals (simp only [Prod.mk.injEq] at h; rw [← h.2]; rfl)

theorem atomically_eq_ok {body : Act Pool LedgerError α} {p q : Pool} {a : α}
    (h : Service.atomically body p = .ok a q) :
    p.inTx = false ∧ p.isOpen = true ∧
      ∃ q', body { p with inTx := true } = .ok a q' ∧ q = { q' with inTx := false }.note .committed := by
  unfold Service.atomically at h
  split at h
  · rename_i a' q' ht
    cases h
    exact transact_committed ht
  all_goals cases h

theorem atomically_error_file {body : Act Pool LedgerError α} {p q : Pool} {e : Halt LedgerError}
    (h : Service.atomically body p = .error e q) : q.file = p.file := by
  unfold Service.atomically at h
  split at h
  · cases h
  all_goals (rename_i ht; cases h; exact transact_file ht (by simp))

theorem atomically_run_ok {body : Act Pool LedgerError α} {p q : Pool} {a : α}
    (hout : p.inTx = false) (hopen : p.isOpen = true) (hb : body { p with inTx := true } = .ok a q) :
    Service.atomically body p = .ok a ({ q with inTx := false }.note .committed) := by
  have ht : transact body p = (.committed a, { q with inTx := false }.note .committed) := by
    unfold transact
    rw [if_neg (by simp [hout]), if_neg (by simp [hopen]), hb]
  unfold Service.atomically
  rw [show LedgerStore.transact body p = transact body p from rfl, ht]

theorem atomically_run_fail {body : Act Pool LedgerError α} {p q : Pool} {e : LedgerError}
    (hout : p.inTx = false) (hopen : p.isOpen = true)
    (hb : body { p with inTx := true } = .error (.fail e) q) :
    Service.atomically body p =
      .error (.fail e) ({ p with trace := q.trace, touched := q.touched }.note .rolledBack) := by
  have ht : transact body p =
      (.rolledBack e, { p with trace := q.trace, touched := q.touched }.note .rolledBack) := by
    unfold transact
    rw [if_neg (by simp [hout]), if_neg (by simp [hopen]), hb]
  unfold Service.atomically
  rw [show LedgerStore.transact body p = transact body p from rfl, ht]

theorem atomically_after {body : Act Pool LedgerError α} (p : Pool) :
    (Service.atomically body).after p = (transact body p).2 :=
  Service.atomically_after body p

/-- A transaction keeps the connection when its body does: the body runs inside the
transaction, which is left when it commits, and a body that does not answer gives the pool
back. -/
theorem atomically_keeps {body : Act Pool LedgerError α} (hb : Act.Keeps SameConnection body) :
    Act.Keeps SameConnection (Service.atomically body) := by
  intro p
  rw [atomically_after]
  unfold transact
  split
  · exact ⟨rfl, rfl, rfl⟩
  · split
    · exact refl_of SameConnection p
    · rename_i hin hop
      have h := hb { p with inTx := true }
      split
      · rename_i a q hq
        rw [Act.after_of_ok hq] at h
        have hout : p.inTx = false := by simpa using hin
        exact ⟨h.isOpen, by rw [hout]; rfl, h.readOnly⟩
      all_goals exact ⟨rfl, rfl, rfl⟩

/-! ## The store's calls on a pool -/

theorem getAccount_eq (id : Int) : (LedgerStore.getAccount id : Act Pool Fault (Option Account)) =
    query "Failed to fetch account" "accounts" (·.account? id) := rfl

theorem getTransfer_eq (id : Int) : (LedgerStore.getTransfer id : Act Pool Fault (Option Transfer)) =
    query "Failed to fetch transfer" "transfers" (·.transfer? id) := rfl

theorem createAccount_eq (n : NewAccount) : (LedgerStore.createAccount n : Act Pool Fault Account) =
    statement "Failed to create account" "accounts" true fun t => .ok (t.insertAccount n) := rfl

theorem createEntry_eq (account amount : Int) (transfer : Option Int) :
    (LedgerStore.createEntry account amount transfer : Act Pool Fault Entry) =
      statement "Failed to create entry" "entries" true (·.insertEntry account amount transfer) := rfl

theorem createTransfer_eq (src dst amount : Int) :
    (LedgerStore.createTransfer src dst amount : Act Pool Fault Transfer) =
      statement "Failed to create transfer" "transfers" true (·.insertTransfer src dst amount) := rfl

theorem addBalance_eq (id delta : Int) : (LedgerStore.addBalance id delta : Act Pool Fault (Option Int)) =
    statement s!"Failed to add {delta} to balance of account {id}" "accounts" true
      (·.addBalance id delta) := rfl

theorem deleteAccount_eq (id : Int) : (LedgerStore.deleteAccount id : Act Pool Fault Bool) =
    statement "Failed to delete account" "accounts" true (·.deleteAccount id) := rfl

theorem note_apply (e : Event) (p : Pool) :
    (Service.note e : Act Pool LedgerError Unit) p = .ok () (p.note e) := rfl

theorem refuse_apply (e : Event) (err : LedgerError) (p : Pool) :
    (Service.refuse e err : Act Pool LedgerError α) p = .error (.fail err) (p.note e) := rfl

theorem note_keeps (e : Event) : Act.Keeps Unwritten (Service.note e : Act Pool LedgerError Unit) :=
  fun _ => ⟨⟨rfl, rfl, rfl⟩, rfl⟩

theorem refuse_keeps (e : Event) (err : LedgerError) :
    Act.Keeps Unwritten (Service.refuse e err : Act Pool LedgerError α) :=
  fun _ => ⟨⟨rfl, rfl, rfl⟩, rfl⟩

theorem keeps_sameConnection {ε : Type} {x : Act Pool ε α} (h : Act.Keeps Unwritten x) :
    Act.Keeps SameConnection x :=
  fun p => (h p).toSameConnection

/-! ## The service's reads -/

theorem store_ok {x : Act Pool Fault α} {p q : Pool} {a : α} (h : x p = .ok a q) :
    Service.store x p = .ok a q :=
  Act.mapFail_ok h

theorem store_fail {x : Act Pool Fault α} {p q : Pool} {f : Fault} (h : x p = .error (.fail f) q) :
    Service.store x p = .error (.fail (.database f)) q :=
  Act.mapFail_fail h

theorem store_eq_ok {x : Act Pool Fault α} {p q : Pool} {a : α} (h : Service.store x p = .ok a q) :
    x p = .ok a q :=
  Act.mapFail_eq_ok h

theorem fetchAccount_run {p : Pool} {t : Tables} (hf : p.file = .ledger t) (hr : p.Reaches)
    (id : Int) :
    (Service.fetchAccount id : Act Pool LedgerError Account) p =
      match t.account? id with
      | some a => .ok a { p with touched := true }
      | none => .error (.fail (.accountNotFound id)) { p with touched := true } := by
  unfold Service.fetchAccount
  rw [getAccount_eq, Act.bind_ok (store_ok (query_run hf hr))]
  cases t.account? id <;> rfl

theorem fetchAccount_eq_ok {p q : Pool} {id : Int} {a : Account}
    (h : (Service.fetchAccount id : Act Pool LedgerError Account) p = .ok a q) :
    ∃ t, p.file = .ledger t ∧ p.Reaches ∧ t.account? id = some a ∧ q = { p with touched := true } := by
  unfold Service.fetchAccount at h
  rw [getAccount_eq] at h
  obtain ⟨r, p', h₁, h₂⟩ := Act.bind_eq_ok h
  obtain ⟨t, hf, hr, rfl, rfl⟩ := query_eq_ok (store_eq_ok h₁)
  cases hr' : t.account? id with
  | some b => rw [hr'] at h₂; cases h₂; exact ⟨t, hf, hr, hr', rfl⟩
  | none => rw [hr'] at h₂; cases h₂

theorem fetchAccount_keeps (id : Int) :
    Act.Keeps Unwritten (Service.fetchAccount id : Act Pool LedgerError Account) := by
  unfold Service.fetchAccount
  refine Act.Keeps.bind (.mapFail _ query_keeps) fun r => ?_
  cases r
  · exact .fail _
  · exact .pure _

theorem accountIn_run {p : Pool} {t : Tables} (hf : p.file = .ledger t) (hr : p.Reaches)
    (id : Int) (c : Currency) :
    (Service.accountIn id c : Act Pool LedgerError Account) p =
      match t.account? id with
      | some a =>
        if a.currency = c then .ok a { p with touched := true }
        else .error (.fail (.currencyMismatch id a.currency c))
          ({ p with touched := true }.note (.currencyMismatch id a.currency c))
      | none => .error (.fail (.accountNotFound id)) { p with touched := true } := by
  unfold Service.accountIn
  cases ha : t.account? id with
  | none => rw [Act.bind_error (by rw [fetchAccount_run hf hr, ha])]
  | some a =>
    rw [Act.bind_ok (by rw [fetchAccount_run hf hr, ha])]
    dsimp only
    by_cases hc : a.currency = c
    · simp only [hc, if_true]; rfl
    · simp only [hc, if_false]; rfl

theorem accountIn_eq_ok {p q : Pool} {id : Int} {c : Currency} {a : Account}
    (h : (Service.accountIn id c : Act Pool LedgerError Account) p = .ok a q) :
    ∃ t, p.file = .ledger t ∧ p.Reaches ∧ t.account? id = some a ∧ a.currency = c ∧
      q = { p with touched := true } := by
  unfold Service.accountIn at h
  obtain ⟨b, p', h₁, h₂⟩ := Act.bind_eq_ok h
  obtain ⟨t, hf, hr, ha, rfl⟩ := fetchAccount_eq_ok h₁
  split at h₂
  · rename_i hc
    cases h₂
    exact ⟨t, hf, hr, ha, hc, rfl⟩
  · cases h₂

theorem accountIn_keeps (id : Int) (c : Currency) :
    Act.Keeps Unwritten (Service.accountIn id c : Act Pool LedgerError Account) := by
  unfold Service.accountIn
  refine Act.Keeps.bind (fetchAccount_keeps id) fun a => ?_
  split
  · exact .pure _
  · exact refuse_keeps _ _

theorem getAccount_keeps (principal : String) (id : Int) :
    Act.Keeps Unwritten (Service.getAccount principal id : Act Pool LedgerError Account) := by
  unfold Service.getAccount
  refine Act.Keeps.bind (fetchAccount_keeps id) fun a => ?_
  split
  · exact .pure _
  · exact refuse_keeps _ _

end Pool
end DoubleEntry
