import DoubleEntry.Proofs.Runs

/-!
# DoubleEntry.Proofs.Unobserved

What a request never looks at: the diagnostic events reported on the pool, and whether a
statement has reached the file. Two pools that agree on the file and on the connection
(`Pool.Unwritten`) answer every request alike and are left alike by it, so a pool given back
with only its events changed is, for every later request, the pool it was.

`Act.Blind R x` says that `x`, started in states `R` relates, ends the same way (the same
answer, failure or abort) in states `R` relates. It is closed under the ways a call is built
(`pure`, `bind`, `mapFail`), so it is proved of each statement and of the transaction once,
and of every request of the service, the store and the integrity check from them
(`Op.run_blind`). A whole run follows by induction (`runOps_blind`).
-/

namespace DoubleEntry

namespace Act

variable {σ ε ε' α β : Type} {R : σ → σ → Prop}

/-- Two ends of a call alike under `R`: the same answer, or the same failure or abort, in
states `R` relates. -/
inductive EndsAlike (R : σ → σ → Prop) : EStateM.Result (Halt ε) σ α → EStateM.Result (Halt ε) σ α → Prop
  | ok (a : α) {s s' : σ} (h : R s s') : EndsAlike R (.ok a s) (.ok a s')
  | error (e : Halt ε) {s s' : σ} (h : R s s') : EndsAlike R (.error e s) (.error e s')

/-- A call that cannot tell apart the states `R` relates: from related states it ends alike. -/
def Blind (R : σ → σ → Prop) (x : Act σ ε α) : Prop :=
  ∀ s s', R s s' → EndsAlike R (x s) (x s')

theorem Blind.ends {x : Act σ ε α} (hx : Blind R x) {s s' : σ} (h : R s s') :
    (∃ a s₁ s₂, x s = .ok a s₁ ∧ x s' = .ok a s₂ ∧ R s₁ s₂) ∨
      ∃ e s₁ s₂, x s = .error e s₁ ∧ x s' = .error e s₂ ∧ R s₁ s₂ := by
  have hends := hx s s' h
  generalize x s = r at hends
  generalize x s' = r' at hends
  cases hends with
  | ok a hr => exact .inl ⟨a, _, _, rfl, rfl, hr⟩
  | error e hr => exact .inr ⟨e, _, _, rfl, rfl, hr⟩

theorem Blind.pure (a : α) : Blind R (Pure.pure a : Act σ ε α) :=
  fun _ _ h => .ok a h

theorem Blind.fail (e : ε) : Blind R (Act.fail e : Act σ ε α) :=
  fun _ _ h => .error (.fail e) h

theorem Blind.ofExcept (r : Except Abort α) : Blind R (Act.ofExcept r : Act σ ε α) := by
  intro s s' h
  cases r with
  | error x => exact .error (.abort x) h
  | ok a => exact .ok a h

theorem Blind.bind {x : Act σ ε α} {f : α → Act σ ε β} (hx : Blind R x) (hf : ∀ a, Blind R (f a)) :
    Blind R (x >>= f) := by
  intro s s' h
  rcases hx.ends h with ⟨a, s₁, s₂, h₁, h₂, hr⟩ | ⟨e, s₁, s₂, h₁, h₂, hr⟩
  · rw [bind_ok h₁, bind_ok h₂]
    exact hf a s₁ s₂ hr
  · rw [bind_error h₁, bind_error h₂]
    exact .error e hr

theorem Blind.map {x : Act σ ε α} (f : α → β) (hx : Blind R x) : Blind R (f <$> x) := by
  rw [map_eq_pure_bind]
  exact hx.bind fun a => .pure (f a)

theorem Blind.mapFail {x : Act σ ε α} (f : ε → ε') (hx : Blind R x) : Blind R (Act.mapFail f x) := by
  intro s s' h
  rcases hx.ends h with ⟨a, s₁, s₂, h₁, h₂, hr⟩ | ⟨e, s₁, s₂, h₁, h₂, hr⟩
  · simp only [Act.mapFail, h₁, h₂]
    exact .ok a hr
  · cases e with
    | fail e => simp only [Act.mapFail, h₁, h₂]; exact .error _ hr
    | abort x => simp only [Act.mapFail, h₁, h₂]; exact .error _ hr

end Act

namespace Pool

open Act

variable {α ε : Type} {ctx tbl : String} {w : Bool} {run : Tables → Except DbCause (α × Tables)}

/-- Alike pools differ only in the events reported and in whether the file was reached. -/
theorem unwritten_iff {p q : Pool} : Unwritten p q ↔ ∃ tr b, q = { p with trace := tr, touched := b } := by
  constructor
  · rintro ⟨⟨ho, hi, hro⟩, hf⟩
    refine ⟨q.trace, q.touched, ?_⟩
    cases p
    cases q
    dsimp only at ho hi hro hf
    subst ho hi hro hf
    rfl
  · rintro ⟨tr, b, rfl⟩
    exact ⟨⟨rfl, rfl, rfl⟩, rfl⟩

/-! ## The pool's own calls -/

/-- A statement reads only the file and the connection, which alike pools share: both take
the same branch of every test it makes, and leave alike pools. -/
theorem statement_blind : Blind Unwritten (statement ctx tbl w run) := by
  intro p q h
  obtain ⟨tr, b, rfl⟩ := unwritten_iff.1 h
  unfold statement
  dsimp only
  split
  · exact .error _ h
  · split
    · exact .error _ ⟨⟨rfl, rfl, rfl⟩, rfl⟩
    · split
      · exact .error _ ⟨⟨rfl, rfl, rfl⟩, rfl⟩
      · split
        · exact .ok _ ⟨⟨rfl, rfl, rfl⟩, rfl⟩
        · exact .error _ ⟨⟨rfl, rfl, rfl⟩, rfl⟩

theorem query_blind {read : Tables → α} : Blind Unwritten (query ctx tbl read) :=
  statement_blind

theorem snapshot_blind : Blind Unwritten Pool.snapshot := by
  intro p q h
  obtain ⟨tr, b, rfl⟩ := unwritten_iff.1 h
  unfold Pool.snapshot
  dsimp only
  split
  · exact .error _ h
  · split
    · exact .error _ h
    · split
      · exact .error _ h
      · exact .ok _ h

/-- A transaction ends alike on two alike pools when its body does: it reads only whether
the pool is inside a transaction and open, runs the body on alike pools, and gives back
either what the body left or the pool it began on. -/
theorem transact_blind {body : Act Pool ε α} (hb : Blind Unwritten body) {p q : Pool}
    (h : Unwritten p q) :
    (transact body p).1 = (transact body q).1 ∧ Unwritten (transact body p).2 (transact body q).2 := by
  obtain ⟨tr, b, rfl⟩ := unwritten_iff.1 h
  have hin : Unwritten { p with inTx := true } { p with trace := tr, touched := b, inTx := true } :=
    ⟨⟨rfl, rfl, rfl⟩, rfl⟩
  unfold transact
  dsimp only
  split
  · exact ⟨rfl, ⟨rfl, rfl, rfl⟩, rfl⟩
  · split
    · exact ⟨rfl, h⟩
    · rcases hb.ends hin with ⟨a, p₁, q₁, h₁, h₂, hr⟩ | ⟨e, p₁, q₁, h₁, h₂, hr⟩
      · simp only [h₁, h₂, true_and]
        exact ⟨⟨hr.isOpen, rfl, hr.readOnly⟩, hr.file⟩
      · simp only [h₁, h₂]
        cases e with
        | fail e => exact ⟨rfl, ⟨rfl, rfl, rfl⟩, rfl⟩
        | abort x => exact ⟨rfl, ⟨rfl, rfl, rfl⟩, rfl⟩

/-! ## The service's requests -/

theorem store_blind {x : Act Pool Fault α} (hx : Blind Unwritten x) :
    Blind Unwritten (Service.store x : Act Pool LedgerError α) :=
  hx.mapFail _

theorem note_blind (e : Event) : Blind Unwritten (Service.note e : Act Pool LedgerError Unit) :=
  fun _ _ h => .ok () ⟨⟨h.isOpen, h.inTx, h.readOnly⟩, h.file⟩

theorem refuse_blind (e : Event) (err : LedgerError) :
    Blind Unwritten (Service.refuse e err : Act Pool LedgerError α) :=
  (note_blind e).bind fun _ => .fail err

theorem atomically_blind {body : Act Pool LedgerError α} (hb : Blind Unwritten body) :
    Blind Unwritten (Service.atomically body) := by
  intro p q h
  obtain ⟨hr, hs⟩ := transact_blind hb h
  unfold Service.atomically
  rw [show LedgerStore.transact body p = transact body p from rfl,
    show LedgerStore.transact body q = transact body q from rfl]
  rcases hp : transact body p with ⟨r, p'⟩
  rcases hq : transact body q with ⟨r', q'⟩
  rw [hp, hq] at hr hs
  dsimp only at hr hs
  subst hr
  cases r <;> first | exact .ok _ hs | exact .error _ hs

theorem fetchAccount_blind (id : Int) :
    Blind Unwritten (Service.fetchAccount id : Act Pool LedgerError Account) := by
  refine (store_blind query_blind).bind fun r => ?_
  cases r with
  | some a => exact .pure a
  | none => exact .fail _

theorem getAccount_blind (principal : String) (id : Int) :
    Blind Unwritten (Service.getAccount principal id : Act Pool LedgerError Account) := by
  refine (fetchAccount_blind id).bind fun a => ?_
  split
  · exact .pure a
  · exact refuse_blind _ _

theorem accountIn_blind (id : Int) (c : Currency) :
    Blind Unwritten (Service.accountIn id c : Act Pool LedgerError Account) := by
  refine (fetchAccount_blind id).bind fun a => ?_
  split
  · exact .pure a
  · exact refuse_blind _ _

theorem createAccount_blind (owner : String) (currency : Currency) (b : Int) :
    Blind Unwritten (Service.createAccount owner currency b : Act Pool LedgerError Account) := by
  unfold Service.createAccount
  split
  · exact .fail _
  · refine (atomically_blind ?_).bind fun a => (note_blind _).bind fun _ => .pure a
    refine (store_blind statement_blind).bind fun row => ?_
    split
    · refine (store_blind statement_blind).bind fun _ => (store_blind statement_blind).bind fun r => ?_
      cases r with
      | some b => exact .pure _
      | none => exact .fail _
    · exact .pure row

theorem deleteAccount_blind (principal : String) (id : Int) :
    Blind Unwritten (Service.deleteAccount principal id : Act Pool LedgerError Account) := by
  refine (getAccount_blind principal id).bind fun a => (store_blind statement_blind).bind fun b => ?_
  split
  · exact (note_blind _).bind fun _ => .pure a
  · exact .fail _

theorem applyPosting_blind (p : Posting) :
    Blind Unwritten (Service.applyPosting p : Act Pool LedgerError Unit) := by
  refine (store_blind statement_blind).bind fun r => ?_
  cases r with
  | some b => exact note_blind _
  | none => exact .fail _

theorem recordTransfer_blind (src dst amount : Int) :
    Blind Unwritten (Service.recordTransfer src dst amount : Act Pool LedgerError Transfer) := by
  refine (store_blind statement_blind).bind fun x => (Blind.ofExcept _).bind fun ps => ?_
  refine (store_blind statement_blind).bind fun _ => (store_blind statement_blind).bind fun _ => ?_
  refine (Blind.ofExcept _).bind fun us => (applyPosting_blind _).bind fun _ =>
    (applyPosting_blind _).bind fun _ => (store_blind query_blind).bind fun r => ?_
  cases r with
  | some y => exact .pure y
  | none => exact .fail _

theorem createTransfer_blind (principal : String) (src dst amount : Int) (currency : Currency) :
    Blind Unwritten
      (Service.createTransfer principal src dst amount currency : Act Pool LedgerError Transfer) := by
  unfold Service.createTransfer
  split
  · exact refuse_blind _ _
  · split
    · exact refuse_blind _ _
    · refine (accountIn_blind src currency).bind fun a => ?_
      split
      · exact refuse_blind _ _
      · refine (accountIn_blind dst currency).bind fun _ => (note_blind _).bind fun _ => ?_
        exact (atomically_blind (recordTransfer_blind src dst amount)).bind fun x =>
          (note_blind _).bind fun _ => .pure x

theorem checkIntegrity_blind : Blind Unwritten Service.checkIntegrity := by
  refine (store_blind snapshot_blind).bind fun s => (Blind.ofExcept _).bind fun r => ?_
  split
  · exact (note_blind _).bind fun _ => .pure r
  · exact .pure r

/-! ## Requests as a script makes them -/

theorem answer_blind {ε : Type} {onFail : ε → Script.Reply} {x : Act Pool ε Datum}
    (hx : Blind Unwritten x) : Blind Unwritten (Script.answer onFail x) := by
  intro p q h
  rcases hx.ends h with ⟨d, p₁, q₁, h₁, h₂, hr⟩ | ⟨e, p₁, q₁, h₁, h₂, hr⟩
  · simp only [Script.answer, h₁, h₂]
    exact .ok _ hr
  · cases e with
    | fail e => simp only [Script.answer, h₁, h₂]; exact .error _ hr
    | abort x => simp only [Script.answer, h₁, h₂]; exact .error _ hr

theorem withCurrency_blind {code : String} {k : Currency → Act Pool Script.Reply Script.Reply}
    (hk : ∀ c, Blind Unwritten (k c)) : Blind Unwritten (Script.withCurrency code k) := by
  unfold Script.withCurrency
  split
  · exact hk _
  · exact .fail _

theorem serviceAct_blind (r : Script.ServiceRequest) :
    Blind Unwritten (Script.serviceAct r : Act Pool Script.Reply Script.Reply) := by
  cases r with
  | createAccount owner code opening =>
    exact withCurrency_blind fun c => answer_blind ((createAccount_blind owner c opening).map _)
  | getAccount principal id => exact answer_blind ((getAccount_blind principal id).map _)
  | listAccounts owner page => exact answer_blind ((store_blind query_blind).map _)
  | deleteAccount principal id => exact answer_blind ((deleteAccount_blind principal id).map _)
  | listEntries principal account page =>
    exact answer_blind (((getAccount_blind principal account).bind fun _ =>
      store_blind query_blind).map _)
  | getTransfer id =>
    refine answer_blind (((store_blind query_blind).bind fun r => ?_).map _)
    cases r with
    | some x => exact .pure x
    | none => exact .fail _
  | listTransfers f => exact answer_blind ((store_blind query_blind).map _)
  | createTransfer principal src dst amount code =>
    exact withCurrency_blind fun c =>
      answer_blind ((createTransfer_blind principal src dst amount c).map _)

theorem storeAct_blind (r : Script.StoreRequest) :
    Blind Unwritten (Script.storeAct r : Act Pool Script.Reply Script.Reply) := by
  cases r with
  | inTransaction =>
    intro p q h
    obtain ⟨tr, b, rfl⟩ := unwritten_iff.1 h
    exact .ok _ h
  | createAccount owner code => exact withCurrency_blind fun c => answer_blind (statement_blind.map _)
  | getAccount id => exact answer_blind (query_blind.map _)
  | listAccounts owner page => exact answer_blind (query_blind.map _)
  | deleteAccount id => exact answer_blind (statement_blind.map _)
  | addBalance id delta => exact answer_blind (statement_blind.map _)
  | createEntry account amount transfer => exact answer_blind (statement_blind.map _)
  | getEntry id => exact answer_blind (query_blind.map _)
  | listEntries account page => exact answer_blind (query_blind.map _)
  | countEntries account => exact answer_blind ((query_blind.bind fun _ => .pure _).map _)
  | createTransfer src dst amount => exact answer_blind (statement_blind.map _)
  | getTransfer id => exact answer_blind (query_blind.map _)
  | listTransfers f => exact answer_blind (query_blind.map _)

theorem callAct_blind (c : Script.Call) :
    Blind Unwritten (Script.callAct c : Act Pool Script.Reply Script.Reply) := by
  cases c with
  | service r => exact serviceAct_blind r
  | store r => exact storeAct_blind r
  | malformed m => exact .fail _

theorem settle_blind {x : Act Pool Script.Reply Script.Reply} (hx : Blind Unwritten x) {p q : Pool}
    (h : Unwritten p q) :
    (Script.settle x p).1 = (Script.settle x q).1 ∧ Unwritten (Script.settle x p).2 (Script.settle x q).2 := by
  rcases hx.ends h with ⟨r, p₁, q₁, h₁, h₂, hr⟩ | ⟨e, p₁, q₁, h₁, h₂, hr⟩
  · simp only [Script.settle, h₁, h₂, true_and]
    exact hr
  · cases e <;> simp only [Script.settle, h₁, h₂, true_and] <;> exact hr

theorem checkReply_blind {p q : Pool} (h : Unwritten p q) :
    (Script.checkReply p).1 = (Script.checkReply q).1 ∧
      Unwritten (Script.checkReply p).2 (Script.checkReply q).2 := by
  rcases checkIntegrity_blind.ends h with ⟨r, p₁, q₁, h₁, h₂, hr⟩ | ⟨e, p₁, q₁, h₁, h₂, hr⟩
  · simp only [Script.checkReply, h₁, h₂, true_and]
    exact hr
  · cases e <;> simp only [Script.checkReply, h₁, h₂, true_and] <;> exact hr

end Pool

open Pool in
/-- Every request answers alike on alike pools and leaves them alike. -/
theorem Op.run_blind (op : Op) {p q : Pool} (h : Unwritten p q) :
    (op.run p).1 = (op.run q).1 ∧ Unwritten (op.run p).2 (op.run q).2 := by
  cases op with
  | call c => exact settle_blind (callAct_blind c) h
  | check => exact checkReply_blind h

/-- Runs from alike pools stay alike, request after request. -/
theorem runOps_blind (ops : List Op) {p q : Pool} (h : Pool.Unwritten p q) :
    Pool.Unwritten (runOps ops p) (runOps ops q) := by
  induction ops generalizing p q with
  | nil => exact h
  | cons op ops ih => exact ih (op.run_blind h).2

end DoubleEntry
