import DoubleEntry.Proofs.Transactions

/-!
# DoubleEntry.Proofs.Rollback

What a failed request leaves on the in-memory store.

The store keeps its rows behind a lock, and a transaction whose body does not answer puts back
the copy of the rows it took when it began and logs `rollback`. So, whatever failure is armed, a
request to open an account or to record a transfer that fails leaves the rows, the id counter and
the transaction state as they were, its armed failure kept or spent, and its log, when it began a
transaction, ending with the rollback (`MemoryStore.RolledBack`). The exception is a poisoned
lock: a balance or the id counter stepping past the 64-bit range aborts with the lock held, the
copy cannot be put back, and from then on every call that reaches the rows aborts. A request
poisons a whole lock only by aborting (`failed_requests_roll_back_unless_poisoned`).

The proof follows the calls. Every call of a transaction body grows the log, keeps or spends the
armed failure and leaves the transaction state alone (`MemoryStore.Spends`); the reads a request
makes before its transaction also keep the rows and log no `begin` (`MemoryStore.Reads`). A
request made of such reads, then a transaction of such a body whose answer is kept, fails only
settled (`MemoryStore.Settles`).
-/

namespace DoubleEntry

/-! ## Bodies of transactions, over any store -/

theorem Act.Keeps.of_error {σ ε α : Type} {R : σ → σ → Prop} {x : Act σ ε α} {s s' : σ}
    {e : Halt ε} (hx : Act.Keeps R x) (h : x s = .error e s') : R s s' :=
  Act.after_of_error h ▸ hx s

namespace Service

variable {σ : Type} [LedgerStore σ]

/-- The calls a transaction body of the service makes, each keeping `R`. -/
structure BodyCallsKeep (R : σ → σ → Prop) : Prop where
  createAccount (n : NewAccount) : Act.Keeps R (LedgerStore.createAccount n : Act σ Fault Account)
  createEntry (account amount : Int) (transfer : Option Int) :
    Act.Keeps R (LedgerStore.createEntry account amount transfer : Act σ Fault Entry)
  addBalance (id delta : Int) :
    Act.Keeps R (LedgerStore.addBalance id delta : Act σ Fault (Option Int))
  createTransfer (src dst amount : Int) :
    Act.Keeps R (LedgerStore.createTransfer src dst amount : Act σ Fault Transfer)
  getTransfer (id : Int) : Act.Keeps R (LedgerStore.getTransfer id : Act σ Fault (Option Transfer))
  note (e : Event) (s : σ) : R s (LedgerStore.note e s)

namespace BodyCallsKeep

variable {R : σ → σ → Prop} [IsPreorder σ R] (h : BodyCallsKeep R)
include h

omit [IsPreorder σ R] in
theorem note_keeps (e : Event) : Act.Keeps R (Service.note e : Act σ LedgerError Unit) :=
  h.note e

theorem openAccount_keeps (n : NewAccount) (b : Int) :
    Act.Keeps R (openAccount n b : Act σ LedgerError Account) := by
  unfold openAccount
  refine Act.Keeps.bind (.mapFail _ (h.createAccount n)) fun row => ?_
  split
  · refine Act.Keeps.bind (.mapFail _ (h.createEntry _ _ _)) fun _ => ?_
    refine Act.Keeps.bind (.mapFail _ (h.addBalance _ _)) fun r => ?_
    cases r
    · exact .fail _
    · exact .pure _
  · exact .pure _

theorem applyPosting_keeps (p : Posting) : Act.Keeps R (applyPosting p : Act σ LedgerError Unit) := by
  unfold applyPosting
  refine Act.Keeps.bind (.mapFail _ (h.addBalance _ _)) fun r => ?_
  cases r
  · exact .fail _
  · exact h.note_keeps _

theorem recordTransfer_keeps (src dst amount : Int) :
    Act.Keeps R (recordTransfer src dst amount : Act σ LedgerError Transfer) := by
  unfold recordTransfer
  refine Act.Keeps.bind (.mapFail _ (h.createTransfer _ _ _)) fun x => ?_
  refine Act.Keeps.bind (.ofExcept _) fun ⟨d, c⟩ => ?_
  refine Act.Keeps.bind (.mapFail _ (h.createEntry _ _ _)) fun _ => ?_
  refine Act.Keeps.bind (.mapFail _ (h.createEntry _ _ _)) fun _ => ?_
  refine Act.Keeps.bind (.ofExcept _) fun ⟨p₁, p₂⟩ => ?_
  refine Act.Keeps.bind (h.applyPosting_keeps p₁) fun _ => ?_
  refine Act.Keeps.bind (h.applyPosting_keeps p₂) fun _ => ?_
  refine Act.Keeps.bind (.mapFail _ (h.getTransfer _)) fun r => ?_
  cases r
  · exact .fail _
  · exact .pure _

end BodyCallsKeep

end Service

namespace MemoryStore

/-! ## What the calls of the in-memory store keep -/

/-- `m'` is `m` with calls added to its log and its armed failure kept or spent, in the same
transaction state: what a call of a transaction body does besides writing rows. -/
structure Spends (m m' : MemoryStore) : Prop where
  calls : m.calls <+: m'.calls
  failOn : m'.failOn = m.failOn ∨ m'.failOn = none
  started : m'.started = m.started
  inTx : m'.inTx = m.inTx

/-- `m'` is `m` with calls other than `begin` added to its log and its armed failure kept or
spent, its rows and transaction state as they were: what a read does. -/
structure Reads (m m' : MemoryStore) : Prop where
  data : m'.data = m.data
  inTx : m'.inTx = m.inTx
  failOn : m'.failOn = m.failOn ∨ m'.failOn = none
  calls : ∃ new, m'.calls = m.calls ++ new ∧ "begin" ∉ new

theorem failOn_trans {a b c : Option String} (h₁ : b = a ∨ b = none) (h₂ : c = b ∨ c = none) :
    c = a ∨ c = none := by
  rcases h₂ with rfl | rfl
  · exact h₁
  · exact .inr rfl

instance : IsPreorder MemoryStore Spends where
  refl _ := ⟨List.prefix_refl _, .inl rfl, rfl, rfl⟩
  trans _ _ _ h₁ h₂ := ⟨h₁.calls.trans h₂.calls, failOn_trans h₁.failOn h₂.failOn,
    h₂.started.trans h₁.started, h₂.inTx.trans h₁.inTx⟩

instance : IsPreorder MemoryStore Reads where
  refl _ := ⟨rfl, rfl, .inl rfl, [], by simp, List.not_mem_nil⟩
  trans _ _ _ h₁ h₂ := by
    obtain ⟨n₁, e₁, b₁⟩ := h₁.calls
    obtain ⟨n₂, e₂, b₂⟩ := h₂.calls
    refine ⟨h₂.data.trans h₁.data, h₂.inTx.trans h₁.inTx, failOn_trans h₁.failOn h₂.failOn,
      n₁ ++ n₂, by rw [e₂, e₁, List.append_assoc], ?_⟩
    rw [List.mem_append]
    exact fun h => h.elim b₁ b₂

variable {m m' : MemoryStore}

theorem spends_data (m : MemoryStore) (d : Option MemTables) : Spends m { m with data := d } :=
  ⟨List.prefix_refl _, .inl rfl, rfl, rfl⟩

theorem record_eq (call : String) (m : MemoryStore) :
    record call m = if m.failOn = some (callName call)
      then .error (.fail (.injected (callName call))) { m with calls := m.calls ++ [call], failOn := none }
      else .ok () { m with calls := m.calls ++ [call] } := rfl

/-- Logging a call, whether the armed failure fires or not, adds the call to the log and keeps
or spends the armed failure; the rest of the store is as it was. -/
theorem record_after (call : String) (m : MemoryStore) :
    ∃ f, (f = m.failOn ∨ f = none) ∧
      (record call).after m = { m with calls := m.calls ++ [call], failOn := f } := by
  by_cases hc : m.failOn = some (callName call)
  · exact ⟨none, .inr rfl, Act.after_of_error ((record_eq call m).trans (if_pos hc))⟩
  · exact ⟨m.failOn, .inl rfl, Act.after_of_ok ((record_eq call m).trans (if_neg hc))⟩

theorem record_spends (call : String) : Act.Keeps Spends (record call) := by
  intro m
  obtain ⟨f, hf, hafter⟩ := record_after call m
  rw [hafter]
  exact ⟨⟨[call], rfl⟩, hf, rfl, rfl⟩

theorem record_reads {call : String} (h : call ≠ "begin") : Act.Keeps Reads (record call) := by
  intro m
  obtain ⟨f, hf, hafter⟩ := record_after call m
  rw [hafter]
  exact ⟨rfl, rfl, hf, [call], rfl, by simpa using Ne.symm h⟩

theorem withData_spends {α : Type} (f : MemTables → α × MemTables) :
    Act.Keeps Spends (withData f) := by
  intro m
  cases hd : m.data with
  | none =>
    simp only [Act.after, withData, hd]
    exact refl_of Spends m
  | some d =>
    simp only [Act.after, withData, hd]
    exact spends_data m _

theorem readData_reads {α : Type} (f : MemTables → α) : Act.Keeps Reads (readData f) := by
  intro m
  cases hd : m.data with
  | none =>
    simp only [Act.after, readData, withData, hd]
    exact refl_of Reads m
  | some d =>
    simp only [Act.after, readData, withData, hd]
    exact ⟨hd.symm, rfl, .inl rfl, [], by simp, List.not_mem_nil⟩

theorem withFreshId_spends {α : Type} (f : Int → MemTables → α × MemTables) :
    Act.Keeps Spends (withFreshId f) := by
  intro m
  cases hd : m.data with
  | none =>
    simp only [Act.after, withFreshId, hd]
    exact refl_of Spends m
  | some d =>
    cases hid : Signed64.add? d.lastId 1 with
    | none =>
      simp only [Act.after, withFreshId, hd, hid]
      exact spends_data m _
    | some id =>
      simp only [Act.after, withFreshId, hd, hid]
      exact spends_data m _

theorem addBalance_spends (id delta : Int) :
    Act.Keeps Spends (LedgerStore.addBalance id delta : Act MemoryStore Fault (Option Int)) := by
  refine Act.Keeps.bind (record_spends _) fun _ m => ?_
  cases hd : m.data with
  | none =>
    simp only [Act.after, hd]
    exact refl_of Spends m
  | some d =>
    cases ha : d.accounts.find? (·.id == id) with
    | none =>
      simp only [Act.after, hd, ha]
      exact refl_of Spends m
    | some a =>
      cases hb : Signed64.add? a.balance delta with
      | none =>
        simp only [Act.after, hd, ha, hb]
        exact spends_data m _
      | some b =>
        simp only [Act.after, hd, ha, hb]
        exact spends_data m _

/-- Every call a transaction body of the service makes on the in-memory store spends nothing
but the log and the armed failure. -/
theorem bodyCallsKeep : Service.BodyCallsKeep Spends where
  createAccount _ := Act.Keeps.bind (record_spends _) fun _ => withFreshId_spends _
  createEntry _ _ _ := Act.Keeps.bind (record_spends _) fun _ => withFreshId_spends _
  addBalance := addBalance_spends
  createTransfer _ _ _ := Act.Keeps.bind (record_spends _) fun _ => withFreshId_spends _
  getTransfer _ := Act.Keeps.bind (record_spends _) fun _ => withData_spends _
  note _ m := refl_of Spends m

theorem getAccount_call_ne_begin (id : Int) : s!"get_account({id})" ≠ "begin" := by
  intro h
  have hname := callName_getAccount id
  rw [h] at hname
  exact absurd hname (by decide)

theorem getAccount_reads (id : Int) :
    Act.Keeps Reads (LedgerStore.getAccount id : Act MemoryStore Fault (Option Account)) :=
  Act.Keeps.bind (record_reads (getAccount_call_ne_begin id)) fun _ => readData_reads _

theorem note_reads (e : Event) : Act.Keeps Reads (Service.note e : Act MemoryStore LedgerError Unit) :=
  fun m => refl_of Reads m

theorem refuse_reads {α : Type} (e : Event) (err : LedgerError) :
    Act.Keeps Reads (Service.refuse e err : Act MemoryStore LedgerError α) :=
  Act.Keeps.bind (note_reads e) fun _ => .fail _

theorem fetchAccount_reads (id : Int) :
    Act.Keeps Reads (Service.fetchAccount id : Act MemoryStore LedgerError Account) := by
  unfold Service.fetchAccount
  refine Act.Keeps.bind (.mapFail _ (getAccount_reads id)) fun r => ?_
  cases r
  · exact .fail _
  · exact .pure _

theorem accountIn_reads (id : Int) (c : Currency) :
    Act.Keeps Reads (Service.accountIn id c : Act MemoryStore LedgerError Account) := by
  unfold Service.accountIn
  refine Act.Keeps.bind (fetchAccount_reads id) fun a => ?_
  split
  · exact .pure _
  · exact refuse_reads _ _

/-! ## Failed requests -/

/-- What a request that failed left: the rows, the id counter and the transaction state as they
were, the armed failure kept or spent, and the log grown by calls that, when they include
`begin`, end with `rollback`. -/
structure RolledBack (m m' : MemoryStore) : Prop where
  data : m'.data = m.data
  inTx : m'.inTx = m.inTx
  failOn : m'.failOn = m.failOn ∨ m'.failOn = none
  calls : ∃ new, m'.calls = m.calls ++ new ∧ ("begin" ∈ new → new.getLast? = some "rollback")

/-- How a request that failed with `e` left the store: rolled back while its lock is whole, and
with a lock it found whole poisoned only when it aborted. -/
def Settled {ε : Type} (m : MemoryStore) (e : Halt ε) (m' : MemoryStore) : Prop :=
  (m'.data ≠ none → RolledBack m m') ∧ (m.data ≠ none → m'.data = none → ∃ x, e = .abort x)

/-- A call that, whenever it fails, leaves the store settled. -/
def Settles {ε α : Type} (x : Act MemoryStore ε α) : Prop :=
  ∀ m e m', x m = .error e m' → Settled m e m'

variable {ε α β : Type} {m₁ : MemoryStore}

theorem Reads.rolledBack (h : Reads m m') : RolledBack m m' := by
  obtain ⟨new, hc, hb⟩ := h.calls
  exact ⟨h.data, h.inTx, h.failOn, new, hc, fun hin => absurd hin hb⟩

theorem RolledBack.settled (h : RolledBack m m') (e : Halt ε) : Settled m e m' :=
  ⟨fun _ => h, fun hd hd' => absurd (h.data ▸ hd') hd⟩

/-- Reads, then a rollback, leave the store rolled back: a `begin` among the calls was logged by
the rollback's part, which ends the log. -/
theorem RolledBack.of_reads (h₁ : Reads m m₁) (h₂ : RolledBack m₁ m') : RolledBack m m' := by
  obtain ⟨n₁, e₁, b₁⟩ := h₁.calls
  obtain ⟨n₂, e₂, b₂⟩ := h₂.calls
  refine ⟨h₂.data.trans h₁.data, h₂.inTx.trans h₁.inTx, failOn_trans h₁.failOn h₂.failOn,
    n₁ ++ n₂, by rw [e₂, e₁, List.append_assoc], fun hin => ?_⟩
  have hlast := b₂ ((List.mem_append.1 hin).resolve_left b₁)
  rw [List.getLast?_append, hlast]
  rfl

theorem Settled.of_reads {e : Halt ε} (h₁ : Reads m m₁) (h₂ : Settled m₁ e m') : Settled m e m' :=
  ⟨fun hd => (h₂.1 hd).of_reads h₁, fun hd hd' => h₂.2 (h₁.data ▸ hd) hd'⟩

theorem settles_of_keeps {x : Act MemoryStore ε α} (hx : Act.Keeps Reads x) : Settles x :=
  fun _ e _ h => (hx.of_error h).rolledBack.settled e

theorem Settles.bind {x : Act MemoryStore ε α} {f : α → Act MemoryStore ε β}
    (hx : Act.Keeps Reads x) (hf : ∀ a, Settles (f a)) : Settles (x >>= f) := by
  intro m e m' h
  cases hxm : x m with
  | ok a m₁ =>
    rw [Act.bind_ok hxm] at h
    exact (hf a m₁ e m' h).of_reads (Act.after_of_ok hxm ▸ hx m)
  | error e' m₁ =>
    rw [Act.bind_error hxm] at h
    obtain ⟨rfl, rfl⟩ := EStateM.Result.error.inj h
    exact settles_of_keeps hx m e' m₁ hxm

theorem Settles.bind_answered {x : Act MemoryStore ε α} {f : α → Act MemoryStore ε β}
    (hx : Settles x) (hf : ∀ a s, ∃ b s', f a s = .ok b s') : Settles (x >>= f) := by
  intro m e m' h
  cases hxm : x m with
  | ok a m₁ =>
    obtain ⟨b, s', hb⟩ := hf a m₁
    rw [Act.bind_ok hxm, hb] at h
    cases h
  | error e' m₁ =>
    rw [Act.bind_error hxm] at h
    obtain ⟨rfl, rfl⟩ := EStateM.Result.error.inj h
    exact hx m e' m₁ hxm

theorem restore_eq_none {d : MemTables} (h : restore d m = none) : m.data = none := by
  simpa [restore] using h

/-- Putting back the rows `d` of a store `m` that was outside a transaction, after calls since
`begin` that spent nothing but the log and the armed failure, rolls the store back. -/
theorem restore_rolledBack {d : MemTables} {m₀ r : MemoryStore} (hd : m.data = some d)
    (hin : m.inTx = false) (hcalls : m₀.calls = m.calls ++ ["begin"]) (hf : m₀.failOn = m.failOn)
    (hs : Spends m₀ m') (hr : restore d m' = some r) : RolledBack m r := by
  cases hd' : m'.data with
  | none => simp [restore, hd'] at hr
  | some d' =>
    simp only [restore, hd', Option.map_some, Option.some.injEq] at hr
    subst hr
    obtain ⟨mid, hmid⟩ := hs.calls
    refine ⟨hd.symm, hin.symm, hf ▸ hs.failOn, ["begin"] ++ mid ++ ["rollback"], ?_,
      fun _ => List.getLast?_concat⟩
    rw [← hmid, hcalls]
    simp

/-- A transaction of a body that spends nothing but the log and the armed failure, when it
does not commit, leaves the store rolled back, unless it aborted with the lock poisoned. -/
theorem transact_rolledBack {body : Act MemoryStore ε α} (hb : Act.Keeps Spends body)
    (m : MemoryStore) :
    match transact body m with
    | (.committed _, _) => True
    | (.aborted _, m') => m'.data ≠ none → RolledBack m m'
    | (_, m') => RolledBack m m' := by
  unfold transact
  by_cases hin : m.inTx = true
  · rw [if_pos hin]
    exact ⟨rfl, rfl, .inl rfl, [], by simp, by simp⟩
  rw [if_neg hin]
  dsimp only
  generalize hm₀ : { m with started := m.started + 1, calls := m.calls ++ ["begin"], inTx := true } = m₀
  have hcalls : m₀.calls = m.calls ++ ["begin"] := hm₀ ▸ rfl
  have hf : m₀.failOn = m.failOn := hm₀ ▸ rfl
  have hout : m.inTx = false := by simpa using hin
  cases hd : m.data with
  | none => exact fun h => (h rfl).elim
  | some d =>
    dsimp only
    cases hres : body m₀ with
    | ok a m' => trivial
    | error e m' =>
      have hs := hb.of_error hres
      -- a whole lock takes the rows back; a poisoned one cannot, and the transaction aborts
      cases e with
      | fail e =>
        dsimp only
        cases hr : restore d m' with
        | some r => exact restore_rolledBack hd hout hcalls hf hs hr
        | none => exact fun hdata => (hdata (restore_eq_none hr)).elim
      | abort x =>
        dsimp only
        cases hr : restore d m' with
        | some r => exact fun _ => restore_rolledBack hd hout hcalls hf hs hr
        | none => exact fun hdata => (hdata (restore_eq_none hr)).elim

theorem atomically_settles {body : Act MemoryStore LedgerError α} (hb : Act.Keeps Spends body) :
    Settles (Service.atomically body) := by
  intro m e m' h
  have ht := transact_rolledBack hb m
  unfold Service.atomically at h
  rw [show (LedgerStore.transact body m : TxEnd LedgerError α × MemoryStore) = transact body m
    from rfl] at h
  rcases htx : transact body m with ⟨_ | e' | r | x, m''⟩ <;> rw [htx] at h ht <;>
    dsimp only at h ht <;> cases h
  · exact ht.settled _
  · exact ht.settled _
  · exact ⟨ht, fun _ _ => ⟨x, rfl⟩⟩

/-! ## The two requests that write -/

theorem createAccount_settles (owner : String) (currency : Currency) (b : Int) :
    Settles (Service.createAccount owner currency b : Act MemoryStore LedgerError Account) := by
  unfold Service.createAccount
  split
  · exact settles_of_keeps (.fail _)
  · exact (atomically_settles (bodyCallsKeep.openAccount_keeps _ _)).bind_answered
      fun a s => ⟨a, s, rfl⟩

theorem createTransfer_settles (principal : String) (src dst amount : Int) (currency : Currency) :
    Settles (Service.createTransfer principal src dst amount currency :
      Act MemoryStore LedgerError Transfer) := by
  unfold Service.createTransfer
  split
  · exact settles_of_keeps (refuse_reads _ _)
  split
  · exact settles_of_keeps (refuse_reads _ _)
  refine Settles.bind (accountIn_reads _ _) fun a => ?_
  split
  · exact settles_of_keeps (refuse_reads _ _)
  refine Settles.bind (accountIn_reads _ _) fun _ => ?_
  refine Settles.bind (note_reads _) fun _ => ?_
  exact (atomically_settles (bodyCallsKeep.recordTransfer_keeps _ _ _)).bind_answered
    fun x s => ⟨x, s, rfl⟩

end MemoryStore

open MemoryStore in
/-- On the in-memory store, from every state and with any failure armed, a request of the
service to open an account or to record a transfer that does not answer (it fails or aborts)
leaves the store settled: while its lock is whole, with the rows, the id counter and the
transaction state as they were, the armed failure kept or spent, and the log, when the request
began a transaction, ending with `rollback`; and a lock it found whole ends poisoned only when
the request aborted. -/
theorem failed_requests_roll_back_unless_poisoned (m : MemoryStore) :
    (∀ (owner : String) (currency : Currency) (b : Int) (e : Halt LedgerError) (m' : MemoryStore),
      (Service.createAccount owner currency b : Act MemoryStore LedgerError Account) m = .error e m' →
        Settled m e m') ∧
    (∀ (principal : String) (src dst amount : Int) (currency : Currency) (e : Halt LedgerError)
      (m' : MemoryStore),
      (Service.createTransfer principal src dst amount currency :
        Act MemoryStore LedgerError Transfer) m = .error e m' → Settled m e m') :=
  ⟨fun owner currency b => createAccount_settles owner currency b m,
    fun principal src dst amount currency => createTransfer_settles principal src dst amount currency m⟩

end DoubleEntry
