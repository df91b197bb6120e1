import DoubleEntry.Proofs.Conservation

/-!
# DoubleEntry.Proofs.Authority

Who can move money, and where it can go.

`Op.Effect op reply t t'` says once what a request of the service, answered with `reply`, can
have done to the tables: nothing; opened an account, answered; recorded a transfer whose
source the principal owns and whose two accounts hold the requested currency, answered; or
dropped an account of the principal that no entry names, answered. Every request on a pool
serving tables under their keys does one of these (`Op.run_effect`).

Every state the service reaches keeps the ledger invariant and pairs each transfer with two
accounts of one currency (`Tables.Guard`). From there a step of the service lowers a balance
only by a transfer its owner asked for, removes an account only when its owner deletes it
empty, never changes an owner or a currency, and keeps every transfer between two accounts of
the currency it was asked in (`Op.Guarded`, `service_steps_guard_accounts`).
-/

namespace DoubleEntry

/-! ## The accounts after each step -/

namespace Tables

variable {t : Tables}

theorem Wf.account?_withAccount (hw : t.Wf) (owner : String) (currency : Currency) (b i : Int) :
    (t.withAccount owner currency b).account? i =
      if i = t.accountSeq + 1 then some ⟨t.accountSeq + 1, owner, b, currency⟩ else t.account? i := by
  unfold account?
  rw [withAccount_accounts, List.find?_append]
  split
  · rename_i hi
    subst hi
    simp [find?_next hw.accountSeq]
  · rename_i hi
    cases t.accounts.find? (·.id == i) <;> simp [Ne.symm hi]

theorem account?_withTransfer (t : Tables) (src dst amount i : Int) :
    (t.withTransfer src dst amount).account? i =
      (t.account? i).map fun a => { a with balance := a.balance + (postedTo src dst amount i).sum } := by
  have hrows : (t.transferRows src dst amount).account? i = t.account? i := rfl
  rw [withTransfer, account?_credit, account?_credit, hrows, Option.map_map]
  cases ha : t.account? i with
  | none => rfl
  | some a =>
    have hid := (account?_eq_some ha).2
    subst hid
    by_cases hs : src = a.id <;> by_cases hd : dst = a.id <;>
      simp [hs, hd, postedTo, Eq.comm]

theorem account?_dropAccount (t : Tables) (id i : Int) :
    (t.dropAccount id).account? i = if i = id then none else t.account? i := by
  unfold account? dropAccount
  rw [List.find?_filter]
  split
  · rename_i hi
    subst hi
    rw [List.find?_eq_none]
    simp
  · rename_i hi
    congr 1
    funext a
    by_cases ha : a.id = i <;> simp [ha, hi]

end Tables

/-! ## What each request of the service can do -/

namespace Pool

variable {p q : Pool} {t : Tables}

theorem getAccount_eq_ok {principal : String} {id : Int} {a : Account}
    (h : (Service.getAccount principal id : Act Pool LedgerError Account) p = .ok a q) :
    ∃ t, p.file = .ledger t ∧ p.Reaches ∧ t.account? id = some a ∧ a.owner = principal ∧
      q = { p with touched := true } := by
  unfold Service.getAccount at h
  obtain ⟨b, p', h₁, h₂⟩ := Act.bind_eq_ok h
  obtain ⟨t, hf, hr, hb, rfl⟩ := fetchAccount_eq_ok h₁
  split at h₂
  · rename_i ho
    cases h₂
    exact ⟨t, hf, hr, hb, by simpa [Account.ownedBy] using ho, rfl⟩
  · cases h₂

/-- Deleting an account of the principal that no entry names drops it and answers it; every
other request leaves the tables as they were. -/
theorem deleteAccount_effect (hp : p.Serves t) (principal : String) (id : Int) :
    match (Service.deleteAccount principal id : Act Pool LedgerError Account) p with
    | .ok a q => t.account? id = some a ∧ a.owner = principal ∧
        (∀ e ∈ t.entries, e.accountId ≠ id) ∧ q.Serves (t.dropAccount id)
    | .error _ q => q.Serves t := by
  unfold Service.deleteAccount
  cases hg : (Service.getAccount principal id : Act Pool LedgerError Account) p with
  | error e p₁ =>
    rw [Act.bind_error hg]
    have hk := getAccount_keeps principal id p
    rw [Act.after_of_error hg] at hk
    exact hp.of_unwritten hk
  | ok a p₁ =>
    rw [Act.bind_ok hg]
    obtain ⟨t₀, hf, hr, ha, ho, rfl⟩ := getAccount_eq_ok hg
    cases hp.file.symm.trans hf
    have hrun : statement "Failed to delete account" "accounts" true (·.deleteAccount id)
        { p with touched := true } = _ := statement_run hf hr fun _ => hp.writable
    rw [deleteAccount_eq]
    cases hd : t.deleteAccount id with
    | error c =>
      rw [hd] at hrun
      dsimp only at hrun
      rw [Act.bind_error (store_fail hrun)]
      exact ⟨hp.file, hp.isOpen, hp.outside, hp.writable⟩
    | ok r =>
      obtain ⟨b, t'⟩ := r
      rw [hd] at hrun
      dsimp only at hrun
      rw [Act.bind_ok (store_ok hrun)]
      rcases Tables.deleteAccount_eq_ok hd with ⟨rfl, rfl⟩ | ⟨rfl, rfl, hfree⟩
      · exact ⟨rfl, hp.isOpen, hp.outside, hp.writable⟩
      · exact ⟨ha, ho, hfree, rfl, hp.isOpen, hp.outside, hp.writable⟩

theorem createAccount_nonneg {owner : String} {currency : Currency} {b : Int} {a : Account}
    (e : (Service.createAccount owner currency b : Act Pool LedgerError Account) p = .ok a q) :
    0 ≤ b := by
  by_contra hneg
  unfold Service.createAccount at e
  rw [if_pos (by omega), Act.fail_apply] at e
  cases e

theorem createTransfer_checked (hp : p.Serves t) {principal : String} {src dst amount : Int}
    {currency : Currency} {x : Transfer}
    (e : (Service.createTransfer principal src dst amount currency :
      Act Pool LedgerError Transfer) p = .ok x q) :
    transferRejection t principal src dst amount currency = none := by
  cases hr : transferRejection t principal src dst amount currency with
  | none => rfl
  | some err =>
    obtain ⟨evs, b, h, -⟩ := createTransfer_rejected hp hr
    rw [h] at e
    cases e

end Pool

namespace Script

variable {σ : Type}

theorem settle_answer_map {ε α : Type} (onFail : ε → Reply) (f : α → Datum) (x : Act σ ε α)
    (s : σ) : settle (answer onFail (f <$> x)) s =
      match x s with
      | .ok a s' => (.done (f a), s')
      | .error (.fail e) s' => (onFail e, s')
      | .error (.abort y) s' => (.aborted y, s') := by
  unfold settle answer
  cases h : x s with
  | ok a s' => simp [h, Functor.map, EStateM.map]
  | error e s' => cases e <;> simp [h, Functor.map, EStateM.map]

theorem withCurrency_of_some {code : String} {c : Currency} (hc : Currency.ofCode? code = some c)
    (k : Currency → Act σ Reply Reply) : withCurrency code k = k c := by
  simp [withCurrency, hc]

/-- An unknown currency code is refused before anything else happens. -/
theorem settle_withCurrency_of_none {code : String} (hc : Currency.ofCode? code = none)
    (k : Currency → Act σ Reply Reply) (s : σ) :
    settle (withCurrency code k) s = (.refused (.unsupportedCurrency code), s) := by
  simp [withCurrency, hc, settle]

end Script

/-! ## One step of the service -/

namespace Op

/-- What a request of the service, answered with `reply`, did to the tables. -/
inductive Effect : Op → Script.Reply → Tables → Tables → Prop
  /-- The tables are as they were. -/
  | unchanged {op : Op} {reply : Script.Reply} {t : Tables} : Effect op reply t t
  /-- An account was opened with a balance that is not negative. -/
  | opened {owner code : String} {b : Int} {c : Currency} {d : Datum} {t : Tables}
      (hc : Currency.ofCode? code = some c) (hb : 0 ≤ b) (hfit : Signed64.Fits b) :
      Effect (.call (.service (.createAccount owner code b))) (.done d) t (t.withAccount owner c b)
  /-- A transfer was recorded from an account of the principal, between two accounts of the
  requested currency. -/
  | moved {principal code : String} {src dst amount : Int} {c : Currency} {d : Datum}
      {t : Tables} {a b : Account} (hc : Currency.ofCode? code = some c)
      (ha : t.account? src = some a) (howner : a.owner = principal) (hca : a.currency = c)
      (hb : t.account? dst = some b) (hcb : b.currency = c) (hA : t.Admits src dst amount) :
      Effect (.call (.service (.createTransfer principal src dst amount code))) (.done d) t
        (t.withTransfer src dst amount)
  /-- An account of the principal that no entry names was dropped. -/
  | deleted {principal : String} {id : Int} {d : Datum} {t : Tables} {a : Account}
      (ha : t.account? id = some a) (howner : a.owner = principal)
      (hfree : ∀ e ∈ t.entries, e.accountId ≠ id) :
      Effect (.call (.service (.deleteAccount principal id))) (.done d) t (t.dropAccount id)

variable {op : Op} {reply : Script.Reply} {t t' : Tables}

theorem Effect.serviceStep (he : Effect op reply t t') : Tables.ServiceStep t t' := by
  cases he with
  | unchanged => exact .keep
  | opened _ hb hfit => exact .openAccount _ _ hb hfit
  | moved _ _ _ _ _ _ hA => exact .transfer hA
  | deleted _ _ hfree => exact .delete hfree

theorem Effect.wf (he : Effect op reply t t') (hw : t.Wf) : t'.Wf := by
  cases he with
  | unchanged => exact hw
  | opened => exact hw.withAccount _ _ _
  | moved => exact hw.withTransfer _ _ _
  | deleted => exact hw.dropAccount _

open Pool in
theorem effect_of_unwritten (r : Script.ServiceRequest)
    (hk : Act.Keeps Unwritten (Script.serviceAct r : Act Pool Script.Reply Script.Reply))
    {p : Pool} (hp : p.Serves t) :
    ∃ t', ((call (.service r)).run p).2.Serves t' ∧ Effect (call (.service r)) ((call (.service r)).run p).1 t t' := by
  refine ⟨t, ?_, .unchanged⟩
  rw [run, settle_snd]
  exact hp.of_unwritten (hk p)

open Pool in
/-- Every request of the service, on a pool serving tables under their keys, has one of the
effects `Effect` lists, and leaves the pool serving the tables it names. -/
theorem run_effect (hs : op.Sized) (hsvc : op.OfService) {p : Pool} (hp : p.Serves t) (hw : t.Wf) :
    ∃ t', (op.run p).2.Serves t' ∧ Effect op (op.run p).1 t t' := by
  cases op with
  | check =>
    refine ⟨t, ?_, .unchanged⟩
    rw [run, checkReply_snd]
    exact hp.of_unwritten (checkIntegrity_keeps p)
  | call c =>
    cases c with
    | store r => cases hsvc
    | malformed m => cases hsvc
    | service r =>
      cases r with
      | getAccount principal id =>
        exact effect_of_unwritten (.getAccount principal id) (Keeps.answer (.map _ (getAccount_keeps principal id))) hp
      | listAccounts owner page =>
        exact effect_of_unwritten (.listAccounts owner page) (Keeps.answer (.map _ (.mapFail _ query_keeps))) hp
      | listEntries principal account page =>
        exact effect_of_unwritten (.listEntries principal account page) (Keeps.answer (.map _
          (Act.Keeps.bind (getAccount_keeps principal account) fun _ => .mapFail _ query_keeps))) hp
      | getTransfer id =>
        refine effect_of_unwritten (.getTransfer id)
          (Keeps.answer (.map _ (Act.Keeps.bind (.mapFail _ query_keeps) fun r => ?_))) hp
        cases r
        · exact .fail _
        · exact .pure _
      | listTransfers f =>
        exact effect_of_unwritten (.listTransfers f) (Keeps.answer (.map _ (.mapFail _ query_keeps))) hp
      | createAccount owner code b =>
        simp only [run, Script.callAct, Script.serviceAct]
        cases hc : Currency.ofCode? code with
        | none => exact ⟨t, by rw [Script.settle_withCurrency_of_none hc]; exact hp, .unchanged⟩
        | some c =>
          rw [Script.withCurrency_of_some hc, Script.settle_answer_map]
          have h := createAccount_effect hp hw owner c hs
          cases e : (Service.createAccount owner c b : Act Pool LedgerError Account) p with
          | ok a q =>
            rw [e] at h
            exact ⟨_, h.2, .opened hc (createAccount_nonneg e) hs⟩
          | error err q =>
            rw [e] at h
            obtain ⟨-, -, rfl⟩ := h
            cases err <;> exact ⟨t, hp, .unchanged⟩
      | createTransfer principal src dst amount code =>
        simp only [run, Script.callAct, Script.serviceAct]
        cases hc : Currency.ofCode? code with
        | none => exact ⟨t, by rw [Script.settle_withCurrency_of_none hc]; exact hp, .unchanged⟩
        | some c =>
          rw [Script.withCurrency_of_some hc, Script.settle_answer_map]
          have h := createTransfer_effect hp hw principal src dst amount c hs
          cases e : (Service.createTransfer principal src dst amount c :
              Act Pool LedgerError Transfer) p with
          | ok x q =>
            rw [e] at h
            obtain ⟨-, -, a, ha, hca, howner, b, hb, hcb⟩ :=
              transferRejection_eq_none (createTransfer_checked hp e)
            exact ⟨_, h.2, .moved hc ha howner hca hb hcb (createTransfer_admits hp hs e)⟩
          | error err q =>
            rw [e] at h
            cases err <;> exact ⟨t, h, .unchanged⟩
      | deleteAccount principal id =>
        simp only [run, Script.callAct, Script.serviceAct]
        rw [Script.settle_answer_map]
        have h := deleteAccount_effect hp principal id
        cases e : (Service.deleteAccount principal id : Act Pool LedgerError Account) p with
        | ok a q =>
          rw [e] at h
          obtain ⟨ha, howner, hfree, hq⟩ := h
          exact ⟨_, hq, .deleted ha howner hfree⟩
        | error err q =>
          rw [e] at h
          cases err <;> exact ⟨t, h, .unchanged⟩

/-- What a step of the service may do to the accounts and transfers, answered with `reply`. -/
structure Guarded (op : Op) (reply : Script.Reply) (t t' : Tables) : Prop where
  /-- A balance falls only by a transfer out of that account that its owner asked for, and
  that was answered. -/
  debit : ∀ i a a', t.account? i = some a → t'.account? i = some a' → a'.balance < a.balance →
    ∃ dst amount code d, op = .call (.service (.createTransfer a.owner i dst amount code)) ∧
      reply = .done d
  /-- An account disappears only when its owner deletes it, answered, and then it had no
  entries and a zero balance. -/
  removal : ∀ i a, t.account? i = some a → t'.account? i = none →
    (∃ d, op = .call (.service (.deleteAccount a.owner i)) ∧ reply = .done d) ∧
      (∀ e ∈ t.entries, e.accountId ≠ i) ∧ a.balance = 0
  /-- No account changes owner or currency. -/
  fixed : ∀ i a a', t.account? i = some a → t'.account? i = some a' →
    a'.owner = a.owner ∧ a'.currency = a.currency
  /-- Every transfer joins two accounts that have rows and hold one currency; a transfer the
  step wrote was asked for in that currency, and answered. -/
  paired : ∀ x ∈ t'.transfers, ∃ a b, t'.account? x.fromAccount = some a ∧
    t'.account? x.toAccount = some b ∧ a.currency = b.currency ∧
    (x ∉ t.transfers → ∃ principal code d,
      op = .call (.service (.createTransfer principal x.fromAccount x.toAccount x.amount code)) ∧
      reply = .done d ∧ Currency.ofCode? code = some a.currency)

end Op

namespace Tables

variable {t t' : Tables} {op : Op} {reply : Script.Reply}

/-- Every transfer joins two accounts that have rows and hold one currency. -/
def CurrencyPaired (t : Tables) : Prop :=
  ∀ x ∈ t.transfers, ∃ a b, t.account? x.fromAccount = some a ∧
    t.account? x.toAccount = some b ∧ a.currency = b.currency

/-- What every state the service reaches keeps: the ledger invariant, and transfers between
accounts of one currency. -/
structure Guard (t : Tables) : Prop where
  ledger : t.Ledger
  paired : t.CurrencyPaired

theorem guard_empty : empty.Guard := ⟨ledger_empty, by simp [CurrencyPaired, empty]⟩

theorem Wf.account?_withAccount_of_le (hw : t.Wf) (owner : String) (currency : Currency) (b : Int)
    {i : Int} (hi : i ≤ t.accountSeq) :
    (t.withAccount owner currency b).account? i = t.account? i := by
  rw [hw.account?_withAccount, if_neg (by omega)]

theorem Wf.le_of_account? (hw : t.Wf) {i : Int} {a : Account} (ha : t.account? i = some a) :
    i ≤ t.accountSeq := by
  obtain ⟨hmem, rfl⟩ := account?_eq_some ha
  exact hw.accountSeq a hmem

theorem Ledger.balance_eq_zero (h : t.Ledger) {i : Int} {a : Account} (ha : t.account? i = some a)
    (hfree : ∀ e ∈ t.entries, e.accountId ≠ i) : a.balance = 0 := by
  obtain ⟨hmem, rfl⟩ := account?_eq_some ha
  rw [h.balance a hmem, amountsOf, List.filter_eq_nil_iff.2 fun e he => by simpa using hfree e he]
  rfl

theorem Guard.effect (hg : t.Guard) (he : Op.Effect op reply t t') : t'.Guard where
  ledger := hg.ledger.serviceStep he.serviceStep
  paired := by
    have hw := hg.ledger.wf
    cases he with
    | unchanged => exact hg.paired
    | opened =>
      intro x hx
      rw [withAccount_transfers] at hx
      have hle := hg.ledger.transfer_accounts_le hx
      rw [hw.account?_withAccount_of_le _ _ _ hle.1, hw.account?_withAccount_of_le _ _ _ hle.2]
      exact hg.paired x hx
    | moved _ ha _ hca hb hcb =>
      intro x hx
      rw [withTransfer_transfers, List.mem_append, List.mem_singleton] at hx
      rcases hx with hx | rfl
      · obtain ⟨a', b', ha', hb', hcur⟩ := hg.paired x hx
        simp only [account?_withTransfer, ha', hb', Option.map_some]
        exact ⟨_, _, rfl, rfl, hcur⟩
      · simp only [account?_withTransfer, ha, hb, Option.map_some]
        exact ⟨_, _, rfl, rfl, hca.trans hcb.symm⟩
    | deleted _ _ hfree =>
      intro x hx
      obtain ⟨⟨e, he, hs⟩, ⟨e', he', hd⟩⟩ := hg.ledger.transfer_entries hx
      rw [account?_dropAccount, if_neg (hs ▸ hfree e he), account?_dropAccount,
        if_neg (hd ▸ hfree e' he')]
      exact hg.paired x hx

theorem Guard.of_steps (hg : t.Guard) (hr : Relation.ReflTransGen
    (fun t t' => ∃ op reply, Op.Effect op reply t t') t t') : t'.Guard := by
  induction hr with
  | refl => exact hg
  | tail _ step ih =>
    obtain ⟨op, reply, he⟩ := step
    exact ih.effect he

/-! ## The guarantees of one step -/

theorem Guard.guarded_unchanged (hg : t.Guard) : Op.Guarded op reply t t where
  debit _ _ _ ha ha' hlt := by
    cases ha.symm.trans ha'
    omega
  removal _ _ ha ha' := by simp [ha] at ha'
  fixed _ _ _ ha ha' := by
    cases ha.symm.trans ha'
    exact ⟨rfl, rfl⟩
  paired x hx := by
    obtain ⟨a, b, ha, hb, hcur⟩ := hg.paired x hx
    exact ⟨a, b, ha, hb, hcur, fun hn => absurd hx hn⟩

theorem Guard.guarded_opened (hg : t.Guard) {owner code : String} {b : Int} {c : Currency}
    {d : Datum} (he : Op.Effect (.call (.service (.createAccount owner code b))) (.done d) t
      (t.withAccount owner c b)) :
    Op.Guarded (.call (.service (.createAccount owner code b))) (.done d) t (t.withAccount owner c b) := by
  have hw := hg.ledger.wf
  have hsame : ∀ {i a}, t.account? i = some a → (t.withAccount owner c b).account? i = some a :=
    fun ha => (hw.account?_withAccount_of_le _ _ _ (hw.le_of_account? ha)).trans ha
  refine ⟨fun _ _ _ ha ha' hlt => ?_, fun _ _ ha ha' => ?_, fun _ _ _ ha ha' => ?_, fun x hx => ?_⟩
  · cases (hsame ha).symm.trans ha'
    omega
  · simp [hsame ha] at ha'
  · cases (hsame ha).symm.trans ha'
    exact ⟨rfl, rfl⟩
  · obtain ⟨a, b', ha, hb, hcur⟩ := (hg.effect he).paired x hx
    refine ⟨a, b', ha, hb, hcur, fun hn => absurd ?_ hn⟩
    simpa using hx

theorem Guard.guarded_moved (hg : t.Guard) {principal code : String} {src dst amount : Int}
    {c : Currency} {d : Datum} {a₀ : Account} (hc : Currency.ofCode? code = some c)
    (ha₀ : t.account? src = some a₀) (howner : a₀.owner = principal) (hca : a₀.currency = c)
    (hA : t.Admits src dst amount)
    (he : Op.Effect (.call (.service (.createTransfer principal src dst amount code))) (.done d) t
      (t.withTransfer src dst amount)) :
    Op.Guarded (.call (.service (.createTransfer principal src dst amount code))) (.done d) t
      (t.withTransfer src dst amount) := by
  refine ⟨fun i a a' ha ha' hlt => ?_, fun i a ha ha' => ?_, fun i a a' ha ha' => ?_, fun x hx => ?_⟩
  · rw [account?_withTransfer, ha, Option.map_some, Option.some.injEq] at ha'
    subst ha'
    have hsrc : src = i := by
      have hpos := hA.pos
      by_contra hs
      by_cases hd : dst = i <;> simp [postedTo, hs, hd] at hlt <;> omega
    subst hsrc
    cases ha₀.symm.trans ha
    exact ⟨dst, amount, code, d, by rw [howner], rfl⟩
  · simp [account?_withTransfer, ha] at ha'
  · rw [account?_withTransfer, ha, Option.map_some, Option.some.injEq] at ha'
    subst ha'
    exact ⟨rfl, rfl⟩
  · obtain ⟨a, b, ha, hb, hcur⟩ := (hg.effect he).paired x hx
    refine ⟨a, b, ha, hb, hcur, fun hn => ?_⟩
    rw [withTransfer_transfers, List.mem_append, List.mem_singleton] at hx
    rcases hx with hx | rfl
    · exact absurd hx hn
    · rw [account?_withTransfer, ha₀, Option.map_some, Option.some.injEq] at ha
      subst ha
      exact ⟨principal, code, d, rfl, rfl, hca ▸ hc⟩

theorem Guard.guarded_deleted (hg : t.Guard) {principal : String} {id : Int} {d : Datum}
    {a₀ : Account} (ha₀ : t.account? id = some a₀) (howner : a₀.owner = principal)
    (hfree : ∀ e ∈ t.entries, e.accountId ≠ id)
    (he : Op.Effect (.call (.service (.deleteAccount principal id))) (.done d) t (t.dropAccount id)) :
    Op.Guarded (.call (.service (.deleteAccount principal id))) (.done d) t (t.dropAccount id) := by
  refine ⟨fun i a a' ha ha' hlt => ?_, fun i a ha ha' => ?_, fun i a a' ha ha' => ?_, fun x hx => ?_⟩
  · rw [account?_dropAccount] at ha'
    split at ha'
    · cases ha'
    · cases ha.symm.trans ha'
      omega
  · rw [account?_dropAccount] at ha'
    split at ha'
    · rename_i hi
      subst hi
      cases ha₀.symm.trans ha
      exact ⟨⟨d, by rw [howner], rfl⟩, hfree, hg.ledger.balance_eq_zero ha₀ hfree⟩
    · simp [ha] at ha'
  · rw [account?_dropAccount] at ha'
    split at ha'
    · cases ha'
    · cases ha.symm.trans ha'
      exact ⟨rfl, rfl⟩
  · obtain ⟨a, b, ha, hb, hcur⟩ := (hg.effect he).paired x hx
    exact ⟨a, b, ha, hb, hcur, fun hn => absurd hx hn⟩

theorem Guard.guarded (hg : t.Guard) (he : Op.Effect op reply t t') : Op.Guarded op reply t t' := by
  cases he with
  | unchanged => exact hg.guarded_unchanged
  | opened hc hb hfit => exact hg.guarded_opened (.opened hc hb hfit)
  | moved hc ha howner hca hb hcb hA => exact hg.guarded_moved hc ha howner hca hA (.moved hc ha howner hca hb hcb hA)
  | deleted ha howner hfree => exact hg.guarded_deleted ha howner hfree (.deleted ha howner hfree)

end Tables

/-- From every state a run of service requests reaches from the empty schema, one more request
of the service, by any principal with any arguments, lowers a balance only by a transfer out
of that account asked for by its owner; removes an account only when its owner deletes it,
empty and at zero; changes no owner and no currency; and leaves every transfer between two
existing accounts of one currency, a new one in the currency its request named. -/
theorem service_steps_guard_accounts (ops : List Op) (op : Op)
    (hops : ∀ o ∈ ops, o.OfService ∧ o.Sized) (hop : op.OfService ∧ op.Sized) :
    ∃ t t', (runOps ops { file := .ledger .empty }).Serves t ∧
      (op.run (runOps ops { file := .ledger .empty })).2.Serves t' ∧
      Op.Guarded op (op.run (runOps ops { file := .ledger .empty })).1 t t' := by
  have hstep : ∀ o : Op, o.OfService → o.Sized → ∀ p : Pool,
      Pool.Evolves (fun t t' => ∃ op reply, Op.Effect op reply t t') p (o.run p).2 := by
    intro o hsvc hs p t hp hw
    obtain ⟨t', hq, he⟩ := Op.run_effect hs hsvc hp hw
    exact ⟨t', hq, he.wf hw, .single ⟨o, _, he⟩⟩
  obtain ⟨t, hserves, hw, hsteps⟩ := runOps_from_empty fun o ho => hstep o (hops o ho).1 (hops o ho).2
  have hg := Tables.guard_empty.of_steps hsteps
  obtain ⟨t', hq, he⟩ := Op.run_effect hop.2 hop.1 hserves hw
  exact ⟨t, t', hserves, hq, hg.guarded he⟩

theorem service_steps_guard_accounts_transfer :
    ∃ t t', (runOps [.call (.service (.createAccount "alice" "USD" 10)),
        .call (.service (.createAccount "bob" "USD" 0))] { file := .ledger .empty }).Serves t ∧
      ((Op.call (.service (.createTransfer "alice" 1 2 5 "USD"))).run
        (runOps [.call (.service (.createAccount "alice" "USD" 10)),
          .call (.service (.createAccount "bob" "USD" 0))] { file := .ledger .empty })).2.Serves t' ∧
      Op.Guarded (.call (.service (.createTransfer "alice" 1 2 5 "USD")))
        ((Op.call (.service (.createTransfer "alice" 1 2 5 "USD"))).run
          (runOps [.call (.service (.createAccount "alice" "USD" 10)),
            .call (.service (.createAccount "bob" "USD" 0))] { file := .ledger .empty })).1 t t' := by
  refine service_steps_guard_accounts _ _ (fun (o : Op) ho => ?_) ⟨trivial, by simp only [Op.Sized]; decide⟩
  simp only [List.mem_cons, List.not_mem_nil, or_false] at ho
  rcases ho with rfl | rfl <;> refine ⟨trivial, ?_⟩ <;> simp only [Op.Sized] <;> decide

end DoubleEntry
