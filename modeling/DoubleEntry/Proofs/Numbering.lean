import DoubleEntry.Proofs.Authority
import DoubleEntry.Proofs.Refinement

/-!
# DoubleEntry.Proofs.Numbering

How the ledger's database numbers the rows that a run of the service writes.

Each table numbers its rows from a counter of its own, a statement moves the counter only when
it succeeds, and a request that fails rolls its statements back with their ids.
`Request.Writes r o t t'` says once what a request `r` that ended with outcome `o` did to the
tables `t`, leaving `t'`: nothing, answering only accounts already numbered; opened the account
with the next account id and answered it; recorded the transfer with the next transfer id and
answered it; or dropped an account it answers. Every request of the service on a pool serving
tables does one of these (`Request.writes_of_serves`), and the integrity check writes nothing, so
a run of the service's operations writes a chain of them (`Request.WritesAll`), and what a run
numbers follows by induction on the chain.

Main statement (`ids_dense_never_reused`): over a run of the service from a new database, the
transfers it records are answered with the ids `1, 2, 3, …` in order and are all the transfers
the tables hold; the entries hold the ids `1, …, m`, where `m` is twice the number of transfers
plus the number of accounts opened with a positive balance; and each account the run opens has
an id above every account id answered before it, so the id of a deleted account is never given
again.
-/

namespace DoubleEntry

def Pool.newLedger : Pool := { file := .ledger .empty }

namespace Request

def opened : Request → Except (Halt LedgerError) Answer → Option Account
  | createAccount .., .ok (.account a) => some a
  | _, _ => none

def recorded : Request → Except (Halt LedgerError) Answer → Option Transfer
  | createTransfer .., .ok (.transfer x) => some x
  | _, _ => none

/-- The ids of the accounts an outcome answers. -/
def accountIds : Except (Halt LedgerError) Answer → List Int
  | .ok (.account a) => [a.id]
  | .ok (.accounts rows) => rows.map (·.id)
  | _ => []

def finish {σ : Type} [LedgerStore σ] : List Request → σ → σ
  | [], s => s
  | r :: rs, s => finish rs (r.act.after s)

def recordedIn (l : List (Request × Except (Halt LedgerError) Answer)) : List Transfer :=
  l.filterMap fun x => x.1.recorded x.2

def openedIn (l : List (Request × Except (Halt LedgerError) Answer)) : List Account :=
  l.filterMap fun x => x.1.opened x.2

/-- The amounts that the service's interface types as 64-bit integers: an opening balance, and
the amount of a transfer. -/
def Sized : Request → Prop
  | createAccount _ _ opening => Signed64.Fits opening
  | createTransfer _ _ _ amount _ => Signed64.Fits amount
  | _ => True

instance decSized : (r : Request) → Decidable r.Sized
  | createAccount _ _ opening => inferInstanceAs (Decidable (Signed64.Fits opening))
  | createTransfer _ _ _ amount _ => inferInstanceAs (Decidable (Signed64.Fits amount))
  | getAccount .. | listAccounts .. | deleteAccount .. | listEntries .. | getTransfer ..
  | listTransfers .. => isTrue trivial

theorem filterMap_cons_toList {α : Type} (made : Request → Except (Halt LedgerError) Answer → Option α)
    (r : Request) (o : Except (Halt LedgerError) Answer)
    (l : List (Request × Except (Halt LedgerError) Answer)) :
    ((r, o) :: l).filterMap (fun x => made x.1 x.2) =
      (made r o).toList ++ l.filterMap fun x => made x.1 x.2 := by
  cases h : made r o <;> simp [h]

theorem recordedIn_cons (r : Request) (o : Except (Halt LedgerError) Answer)
    (l : List (Request × Except (Halt LedgerError) Answer)) :
    recordedIn ((r, o) :: l) = (r.recorded o).toList ++ recordedIn l :=
  filterMap_cons_toList recorded r o l

theorem openedIn_cons (r : Request) (o : Except (Halt LedgerError) Answer)
    (l : List (Request × Except (Halt LedgerError) Answer)) :
    openedIn ((r, o) :: l) = (r.opened o).toList ++ openedIn l :=
  filterMap_cons_toList opened r o l

/-! ## What one request writes -/

/-- What a request that ended with outcome `o` wrote to the tables `t`, leaving `t'`. -/
inductive Writes : Request → Except (Halt LedgerError) Answer → Tables → Tables → Prop
  /-- Nothing: the request opened and recorded nothing, and answered only accounts numbered
  so far. -/
  | nothing {r : Request} {o : Except (Halt LedgerError) Answer} {t : Tables}
      (hopened : r.opened o = none) (hrecorded : r.recorded o = none)
      (hids : ∀ i ∈ accountIds o, i ≤ t.accountSeq) : Writes r o t t
  /-- The account with the next account id, answered. -/
  | account {owner : String} {currency : Currency} {b : Int} {t : Tables} :
      Writes (createAccount owner currency b) (.ok (.account ⟨t.accountSeq + 1, owner, b, currency⟩))
        t (t.withAccount owner currency b)
  /-- The transfer with the next transfer id, answered. -/
  | transfer {principal : String} {src dst amount : Int} {currency : Currency} {t : Tables} :
      Writes (createTransfer principal src dst amount currency)
        (.ok (.transfer ⟨t.transferSeq + 1, src, dst, amount⟩)) t (t.withTransfer src dst amount)
  /-- An account numbered so far, dropped and answered. -/
  | deletion {principal : String} {id : Int} {a : Account} {t : Tables} (hid : a.id ≤ t.accountSeq) :
      Writes (deleteAccount principal id) (.ok (.account a)) t (t.dropAccount id)

/-- A run, as its requests with their outcomes, that writes the tables from `t` to `t'`. -/
inductive WritesAll : List (Request × Except (Halt LedgerError) Answer) → Tables → Tables → Prop
  | nil {t : Tables} : WritesAll [] t t
  | cons {r : Request} {o : Except (Halt LedgerError) Answer} {t t₁ t' : Tables}
      {l : List (Request × Except (Halt LedgerError) Answer)} :
      Writes r o t t₁ → WritesAll l t₁ t' → WritesAll ((r, o) :: l) t t'

end Request

/-- An operation of the ledger service on its pool: a request, or the integrity check. -/
inductive ServiceOp where
  | request (r : Request)
  | check
  deriving Repr

namespace ServiceOp

def after : ServiceOp → Pool → Pool
  | request r, p => r.act.after p
  | check, p => Service.checkIntegrity.after p

def finish : List ServiceOp → Pool → Pool
  | [], p => p
  | op :: ops, p => finish ops (op.after p)

/-- The requests of a run, each with its outcome. A check is left out: it opens and records
nothing, and answers a report rather than rows. -/
def steps : List ServiceOp → Pool → List (Request × Except (Halt LedgerError) Answer)
  | [], _ => []
  | request r :: ops, p => (r, r.act.outcome p) :: steps ops (r.act.after p)
  | check :: ops, p => steps ops (Service.checkIntegrity.after p)

def Sized : ServiceOp → Prop
  | request r => r.Sized
  | check => True

instance decSized : (op : ServiceOp) → Decidable op.Sized
  | request r => inferInstanceAs (Decidable r.Sized)
  | check => isTrue trivial

end ServiceOp

namespace Tables

@[simp] theorem withAccount_entrySeq (t : Tables) (owner : String) (currency : Currency)
    (opening : Int) :
    (t.withAccount owner currency opening).entrySeq = t.entrySeq + if 0 < opening then 1 else 0 := by
  unfold withAccount
  split <;> simp [pushEntry, pushAccount]

@[simp] theorem withTransfer_entrySeq (t : Tables) (src dst amount : Int) :
    (t.withTransfer src dst amount).entrySeq = t.entrySeq + 2 := by
  simp only [withTransfer, transferRows, credit, pushEntry, pushTransfer]
  omega

end Tables

theorem Numbered.lt_of_mem : ∀ {n : Int} {xs : List Int}, Numbered id n xs → ∀ x ∈ xs, n < x
  | _, [], _, _, hx => absurd hx List.not_mem_nil
  | n, y :: ys, ⟨hy, hys⟩, x, hx => by
    rcases List.mem_cons.1 hx with rfl | hx
    · simp only [id] at hy
      omega
    · have := Numbered.lt_of_mem hys x hx
      omega

namespace Request

section Writes

variable {r : Request} {o : Except (Halt LedgerError) Answer} {t t' : Tables}

theorem Writes.error (r : Request) (e : Halt LedgerError) (t : Tables) : Writes r (.error e) t t :=
  .nothing (by cases r <;> rfl) (by cases r <;> rfl) (by simp [accountIds])

theorem Writes.wf (h : Writes r o t t') (hw : t.Wf) : t'.Wf := by
  cases h with
  | nothing => exact hw
  | account => exact hw.withAccount _ _ _
  | transfer => exact hw.withTransfer _ _ _
  | deletion => exact hw.dropAccount _

theorem Writes.transfers (h : Writes r o t t') : t'.transfers = t.transfers ++ (r.recorded o).toList := by
  cases h with
  | nothing _ hrecorded => simp [hrecorded]
  | account => simp [recorded]
  | transfer => simp [recorded, Tables.withTransfer_transfers]
  | deletion => simp [recorded, Tables.dropAccount]

theorem Writes.transfer_ids (h : Writes r o t t') :
    Numbered id t.transferSeq ((r.recorded o).toList.map (·.id)) ∧
      t'.transferSeq = t.transferSeq + (r.recorded o).toList.length := by
  cases h with
  | nothing _ hrecorded => simp [hrecorded, Numbered]
  | account => simp [recorded, Numbered]
  | transfer => simp [recorded, Numbered]
  | deletion => simp [recorded, Numbered, Tables.dropAccount]

theorem Writes.account_ids (h : Writes r o t t') :
    Numbered id t.accountSeq ((r.opened o).toList.map (·.id)) ∧
      t'.accountSeq = t.accountSeq + (r.opened o).toList.length := by
  cases h with
  | nothing hopened => simp [hopened, Numbered]
  | account => simp [opened, Numbered]
  | transfer => simp [opened, Numbered]
  | deletion => simp [opened, Numbered, Tables.dropAccount]

/-- The entries a request writes take the next entry ids: two for a transfer it records, one
for an account it opens with a positive balance. -/
theorem Writes.entries (h : Writes r o t t') :
    ∃ E : List Entry, t'.entries = t.entries ++ E ∧ Numbered id t.entrySeq (E.map (·.id)) ∧
      t'.entrySeq = t.entrySeq + E.length ∧
      E.length = 2 * (r.recorded o).toList.length + (r.opened o).toList.countP (0 < ·.balance) := by
  cases h with
  | nothing hopened hrecorded => exact ⟨[], by simp, trivial, by simp, by simp [hopened, hrecorded]⟩
  | @account owner currency b t =>
    refine ⟨if 0 < b then [⟨t.entrySeq + 1, t.accountSeq + 1, b, none⟩] else [], by simp, ?_, ?_, ?_⟩
    all_goals by_cases hb : 0 < b <;> simp [hb, Numbered, opened, recorded]
  | @transfer principal src dst amount currency t =>
    refine ⟨[⟨t.entrySeq + 1, src, -amount, some (t.transferSeq + 1)⟩,
      ⟨t.entrySeq + 2, dst, amount, some (t.transferSeq + 1)⟩], by simp, ⟨rfl, ?_, trivial⟩, by simp,
      by simp [recorded, opened]⟩
    show t.entrySeq + 2 = t.entrySeq + 1 + 1
    omega
  | deletion => exact ⟨[], by simp [Tables.dropAccount], trivial, by simp [Tables.dropAccount], by simp [opened, recorded]⟩

theorem Writes.accountIds_le (h : Writes r o t t') : ∀ i ∈ accountIds o, i ≤ t'.accountSeq := by
  cases h with
  | nothing _ _ hids => exact hids
  | account => simp [accountIds]
  | transfer => simp [accountIds]
  | deletion hid => simpa [accountIds, Tables.dropAccount] using hid

end Writes

/-! ## What a run writes -/

section WritesAll

variable {l : List (Request × Except (Halt LedgerError) Answer)} {t t' : Tables}

theorem WritesAll.wf (h : WritesAll l t t') (hw : t.Wf) : t'.Wf := by
  induction h with
  | nil => exact hw
  | cons hr _ ih => exact ih (hr.wf hw)

theorem WritesAll.transfers (h : WritesAll l t t') : t'.transfers = t.transfers ++ recordedIn l := by
  induction h with
  | nil => simp [recordedIn]
  | cons hr _ ih => rw [ih, hr.transfers, recordedIn_cons, List.append_assoc]

/-- The rows of one kind that a run answers made are numbered on from the kind's counter, in
order, when each request makes its own under the next ids of that counter. -/
theorem WritesAll.numbered {α : Type} (made : Request → Except (Halt LedgerError) Answer → Option α)
    (key : α → Int) (seq : Tables → Int)
    (hstep : ∀ {r o t t'}, Writes r o t t' →
      Numbered id (seq t) ((made r o).toList.map key) ∧ seq t' = seq t + (made r o).toList.length)
    (h : WritesAll l t t') :
    Numbered id (seq t) ((l.filterMap fun x => made x.1 x.2).map key) ∧
      seq t' = seq t + (l.filterMap fun x => made x.1 x.2).length := by
  induction h with
  | nil => simp [Numbered]
  | cons hr _ ih =>
    obtain ⟨hnum, hseq⟩ := hstep hr
    rw [hseq] at ih
    rw [filterMap_cons_toList, List.map_append, numbered_append, List.length_map, ih.2,
      List.length_append]
    exact ⟨⟨hnum, ih.1⟩, by push_cast; omega⟩

theorem WritesAll.transfer_ids (h : WritesAll l t t') :
    Numbered id t.transferSeq ((recordedIn l).map (·.id)) ∧
      t'.transferSeq = t.transferSeq + (recordedIn l).length :=
  h.numbered recorded (·.id) (·.transferSeq) Writes.transfer_ids

theorem WritesAll.account_ids (h : WritesAll l t t') :
    Numbered id t.accountSeq ((openedIn l).map (·.id)) ∧
      t'.accountSeq = t.accountSeq + (openedIn l).length :=
  h.numbered opened (·.id) (·.accountSeq) Writes.account_ids

/-- The entries a run writes are numbered on from the counter, two for each transfer it records
and one for each account it opens with a positive balance. -/
theorem WritesAll.entries (h : WritesAll l t t') :
    ∃ E : List Entry, t'.entries = t.entries ++ E ∧ Numbered id t.entrySeq (E.map (·.id)) ∧
      t'.entrySeq = t.entrySeq + E.length ∧
      E.length = 2 * (recordedIn l).length + (openedIn l).countP (0 < ·.balance) := by
  induction h with
  | nil => exact ⟨[], by simp, trivial, by simp, by simp [recordedIn, openedIn]⟩
  | cons hr _ ih =>
    obtain ⟨E₁, h₁, hnum₁, hseq₁, hlen₁⟩ := hr.entries
    obtain ⟨E₂, h₂, hnum₂, hseq₂, hlen₂⟩ := ih
    rw [hseq₁] at hnum₂ hseq₂
    refine ⟨E₁ ++ E₂, by rw [h₂, h₁, List.append_assoc], ?_, ?_, ?_⟩
    · rw [List.map_append, numbered_append, List.length_map]
      exact ⟨hnum₁, hnum₂⟩
    · rw [hseq₂, List.length_append]
      push_cast
      omega
    · rw [List.length_append, hlen₁, hlen₂, recordedIn_cons, openedIn_cons, List.length_append,
        List.countP_append]
      omega

/-- Each account a run opens has an id above every account id answered before it. -/
theorem WritesAll.fresh (h : WritesAll l t t') :
    l.Pairwise fun x y => ∀ a ∈ y.1.opened y.2, ∀ i ∈ accountIds x.2, i < a.id := by
  induction h with
  | nil => exact .nil
  | @cons r o t t₁ t' l hr hl ih =>
    refine List.Pairwise.cons (fun y hy a ha i hi => ?_) ih
    -- the answer is numbered by the time the request is done, and the accounts the rest of
    -- the run opens are numbered after that
    have hle := hr.accountIds_le i hi
    have hmem : a.id ∈ (openedIn l).map (·.id) :=
      List.mem_map.2 ⟨a, List.mem_filterMap.2 ⟨y, hy, ha⟩, rfl⟩
    have hgt := Numbered.lt_of_mem hl.account_ids.1 a.id hmem
    omega

end WritesAll

/-! ## Requests on the pool -/

section Pool

open Pool

variable {σ ε α β : Type} {r : Request} {p : Pool} {t : Tables}

theorem map_outcome_ok {x : Act σ ε α} {f : α → β} {s s' : σ} {a : α} (h : x s = .ok a s') :
    (f <$> x).outcome s = .ok (f a) ∧ (f <$> x).after s = s' := by
  simp [Act.outcome, Act.after, Act.map_ok h]

theorem map_outcome_error {x : Act σ ε α} {f : α → β} {s s' : σ} {e : Halt ε}
    (h : x s = .error e s') : (f <$> x).outcome s = .error e ∧ (f <$> x).after s = s' := by
  simp [Act.outcome, Act.after, Act.map_error h]

theorem exists_writes_map {x : Act Pool LedgerError α} {f : α → Answer} (hr : r.act = f <$> x)
    (hok : ∀ a q, x p = .ok a q → ∃ t', q.Serves t' ∧ Writes r (.ok (f a)) t t')
    (herr : ∀ e q, x p = .error e q → ∃ t', q.Serves t' ∧ Writes r (.error e) t t') :
    ∃ t', (r.act.after p).Serves t' ∧ Writes r (r.act.outcome p) t t' := by
  rw [hr]
  cases e : x p with
  | ok a q =>
    rw [(map_outcome_ok e).1, (map_outcome_ok e).2]
    exact hok a q e
  | error err q =>
    rw [(map_outcome_error e).1, (map_outcome_error e).2]
    exact herr err q e

theorem writes_of_keeps {x : Act Pool LedgerError α} {f : α → Answer} (hr : r.act = f <$> x)
    (hk : Act.Keeps Unwritten x) (hp : p.Serves t) (hopened : ∀ o, r.opened o = none)
    (hrecorded : ∀ o, r.recorded o = none)
    (hids : ∀ a q, x p = .ok a q → ∀ i ∈ accountIds (.ok (f a)), i ≤ t.accountSeq) :
    ∃ t', (r.act.after p).Serves t' ∧ Writes r (r.act.outcome p) t t' := by
  have hq : (x.after p).Serves t := hp.of_unwritten (hk p)
  refine exists_writes_map hr (fun a q e => ?_) (fun err q e => ?_)
  · exact ⟨t, Act.after_of_ok e ▸ hq, .nothing (hopened _) (hrecorded _) (hids a q e)⟩
  · exact ⟨t, Act.after_of_error e ▸ hq, .error r err t⟩

theorem Wf.id_le_of_account? (hw : t.Wf) {i : Int} {a : Account} (ha : t.account? i = some a) :
    a.id ≤ t.accountSeq :=
  hw.accountSeq a (Tables.account?_eq_some ha).1

/-- Every request of the service with 64-bit amounts, on a pool serving tables under their keys,
writes one of the things `Writes` lists, and leaves the pool serving the tables it names. -/
theorem writes_of_serves (hs : r.Sized) (hp : p.Serves t) (hw : t.Wf) :
    ∃ t', (r.act.after p).Serves t' ∧ Writes r (r.act.outcome p) t t' := by
  cases r with
  | createAccount owner currency b =>
    have h := createAccount_effect hp hw owner currency hs
    refine exists_writes_map rfl (fun a q e => ?_) (fun err q e => ?_) <;> rw [e] at h
    · obtain ⟨rfl, hq⟩ := h
      exact ⟨_, hq, .account⟩
    · obtain ⟨-, -, rfl⟩ := h
      exact ⟨t, hp, .error _ err t⟩
  | createTransfer principal src dst amount currency =>
    have h := createTransfer_effect hp hw principal src dst amount currency hs
    refine exists_writes_map rfl (fun x q e => ?_) (fun err q e => ?_) <;> rw [e] at h
    · obtain ⟨rfl, hq⟩ := h
      exact ⟨_, hq, .transfer⟩
    · exact ⟨t, h, .error _ err t⟩
  | deleteAccount principal id =>
    have h := deleteAccount_effect hp principal id
    refine exists_writes_map rfl (fun a q e => ?_) (fun err q e => ?_) <;> rw [e] at h
    · obtain ⟨ha, -, -, hq⟩ := h
      exact ⟨_, hq, .deletion (Wf.id_le_of_account? hw ha)⟩
    · exact ⟨t, h, .error _ err t⟩
  | getAccount principal id =>
    refine writes_of_keeps rfl (getAccount_keeps principal id) hp (fun _ => rfl) (fun _ => rfl)
      fun a q e => ?_
    obtain ⟨t₀, hf, -, ha, -, -⟩ := getAccount_eq_ok e
    cases hp.file.symm.trans hf
    simpa [accountIds] using Wf.id_le_of_account? hw ha
  | listAccounts owner page =>
    refine writes_of_keeps rfl (.mapFail _ query_keeps) hp (fun _ => rfl) (fun _ => rfl)
      fun rows q e => ?_
    obtain ⟨t₀, hf, -, rfl, -⟩ := query_eq_ok (store_eq_ok e)
    cases hp.file.symm.trans hf
    simp only [accountIds, List.mem_map, Tables.accountsOf, Page.window]
    rintro i ⟨a, ha, rfl⟩
    exact hw.accountSeq a (List.mem_filter.1 (List.mem_of_mem_drop (List.mem_of_mem_take ha))).1
  | listEntries principal account page =>
    exact writes_of_keeps rfl
      (Act.Keeps.bind (getAccount_keeps principal account) fun _ => .mapFail _ query_keeps) hp
      (fun _ => rfl) (fun _ => rfl) fun _ _ _ => by simp [accountIds]
  | getTransfer id =>
    refine writes_of_keeps rfl (Act.Keeps.bind (.mapFail _ query_keeps) fun x => ?_) hp
      (fun _ => rfl) (fun _ => rfl) fun _ _ _ => by simp [accountIds]
    cases x
    · exact .fail _
    · exact .pure _
  | listTransfers f =>
    exact writes_of_keeps rfl (.mapFail _ query_keeps) hp (fun _ => rfl) (fun _ => rfl)
      fun _ _ _ => by simp [accountIds]

end Pool

end Request

theorem Pool.Serves.checkIntegrity {p : Pool} {t : Tables} (hp : p.Serves t) :
    (Service.checkIntegrity.after p).Serves t :=
  hp.of_unwritten (Pool.checkIntegrity_keeps p)

/-- A run of the service with 64-bit amounts, from a pool serving tables under their keys,
writes a chain of `Writes` and leaves the pool serving where the chain ends. -/
theorem ServiceOp.writesAll_of_serves : ∀ (ops : List ServiceOp) {p : Pool} {t : Tables},
    (∀ op ∈ ops, op.Sized) → p.Serves t → t.Wf →
    ∃ t', (ServiceOp.finish ops p).Serves t' ∧ Request.WritesAll (ServiceOp.steps ops p) t t'
  | [], _, t, _, hp, _ => ⟨t, hp, .nil⟩
  | .request r :: ops, _, _, hs, hp, hw => by
    obtain ⟨t₁, hp₁, hr⟩ := Request.writes_of_serves (hs _ List.mem_cons_self : r.Sized) hp hw
    obtain ⟨t', hp', hl⟩ := ServiceOp.writesAll_of_serves ops
      (fun op h => hs op (List.mem_cons_of_mem _ h)) hp₁ (hr.wf hw)
    exact ⟨t', hp', .cons hr hl⟩
  | .check :: ops, _, _, hs, hp, hw =>
    ServiceOp.writesAll_of_serves ops (fun op h => hs op (List.mem_cons_of_mem _ h)) hp.checkIntegrity hw

/-- Over a run of the service with 64-bit amounts from a new database, integrity checks included,
the transfers the run records are answered with the ids `1, 2, 3, …` in order, a failed transfer
taking none, and are the transfers the tables hold; the entries the tables hold have the ids
`1, …, m`, in order, where `m` is twice the number of transfers plus the number of accounts
opened with a positive balance; the accounts the run opens are answered with the ids `1, 2, 3, …`
in order; and each of them has an id above every account id answered before it, so the id of a
deleted account is never given again. -/
theorem ids_dense_never_reused (ops : List ServiceOp) (hs : ∀ op ∈ ops, op.Sized) :
    ∃ t, (ServiceOp.finish ops Pool.newLedger).Serves t ∧
      Numbered id 0 ((Request.recordedIn (ServiceOp.steps ops Pool.newLedger)).map (·.id)) ∧
      t.transfers = Request.recordedIn (ServiceOp.steps ops Pool.newLedger) ∧
      Numbered id 0 (t.entries.map (·.id)) ∧
      t.entries.length = 2 * t.transfers.length +
        (Request.openedIn (ServiceOp.steps ops Pool.newLedger)).countP (0 < ·.balance) ∧
      Numbered id 0 ((Request.openedIn (ServiceOp.steps ops Pool.newLedger)).map (·.id)) ∧
      (ServiceOp.steps ops Pool.newLedger).Pairwise fun x y =>
        ∀ a ∈ y.1.opened y.2, ∀ i ∈ Request.accountIds x.2, i < a.id := by
  obtain ⟨t, hp, hrun⟩ := ServiceOp.writesAll_of_serves ops hs
    (⟨rfl, rfl, rfl, rfl⟩ : Pool.newLedger.Serves Tables.empty) Tables.wf_empty
  obtain ⟨E, hE, hnum, -, hlen⟩ := hrun.entries
  have htr : t.transfers = Request.recordedIn (ServiceOp.steps ops Pool.newLedger) := by
    simpa [Tables.empty] using hrun.transfers
  simp only [Tables.empty, List.nil_append] at hE
  refine ⟨t, hp, hrun.transfer_ids.1, htr, hE ▸ hnum, ?_, hrun.account_ids.1, hrun.fresh⟩
  rw [hE, hlen, htr]

/-- Three accounts opened, one of them with a balance; a transfer between the first two; the
integrity check; a transfer refused, its principal not owning the source; the third account
deleted; the check again; and a fourth account opened. -/
def reopeningRun : List ServiceOp :=
  [.request (.createAccount "alice" .usd 100), .request (.createAccount "bob" .usd 0),
    .request (.createAccount "carol" .usd 0), .request (.createTransfer "alice" 1 2 30 .usd), .check,
    .request (.createTransfer "bob" 1 2 5 .usd), .request (.deleteAccount "carol" 3), .check,
    .request (.createAccount "bob" .usd 7)]

theorem ids_dense_never_reused_reopening :
    (∀ op ∈ reopeningRun, op.Sized) ∧
      ∃ t, (ServiceOp.finish reopeningRun Pool.newLedger).Serves t ∧
        Numbered id 0 ((Request.recordedIn (ServiceOp.steps reopeningRun Pool.newLedger)).map (·.id)) ∧
        t.transfers = Request.recordedIn (ServiceOp.steps reopeningRun Pool.newLedger) ∧
        Numbered id 0 (t.entries.map (·.id)) ∧
        t.entries.length = 2 * t.transfers.length +
          (Request.openedIn (ServiceOp.steps reopeningRun Pool.newLedger)).countP (0 < ·.balance) ∧
        Numbered id 0 ((Request.openedIn (ServiceOp.steps reopeningRun Pool.newLedger)).map (·.id)) ∧
        (ServiceOp.steps reopeningRun Pool.newLedger).Pairwise fun x y =>
          ∀ a ∈ y.1.opened y.2, ∀ i ∈ Request.accountIds x.2, i < a.id :=
  ⟨by decide, ids_dense_never_reused reopeningRun (by decide)⟩

end DoubleEntry
