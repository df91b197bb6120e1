import DoubleEntry.Proofs.PoolCalls
import DoubleEntry.Proofs.Tables

/-!
# DoubleEntry.Proofs.Transfer

What a transfer does on a pool serving the ledger's tables.

`transferRejection` lists the checks the service makes before it begins a transaction, in
its order: a positive amount, two distinct accounts, the source found, in the currency and
owned by the principal, then the destination found and in the currency. `transferOverflow`
is the one refusal left once they pass: the store refuses a balance that leaves the 64-bit
range, and the balances are moved lower account id first. Whether the source's balance
covers the amount is never asked.

The body of the transaction is run forward in `recordTransfer_run`: it writes the transfer
row and its two entries, moves the two balances, and reads the row back; under the primary
keys of `Tables.Wf` the tables it leaves are `Tables.withTransfer`.
-/

namespace DoubleEntry

/-! ## The effect of a transfer -/

namespace Tables

variable {t : Tables}

/-- The tables once a transfer of `amount` from `src` to `dst` is written, before any
balance moves: the transfer row with the next transfer id, then its debit on `src` and its
credit on `dst` with the next two entry ids. -/
def transferRows (t : Tables) (src dst amount : Int) : Tables :=
  ((t.pushTransfer src dst amount).pushEntry src (-amount) (some (t.transferSeq + 1))).pushEntry
    dst amount (some (t.transferSeq + 1))

/-- The tables once a transfer is recorded: its rows written, the balance of `src` moved by
`-amount` and that of `dst` by `amount`, every other row as it was. -/
def withTransfer (t : Tables) (src dst amount : Int) : Tables :=
  ((t.transferRows src dst amount).credit src (-amount)).credit dst amount

@[simp] theorem withTransfer_accounts (t : Tables) (src dst amount : Int) :
    (t.withTransfer src dst amount).accounts =
      (t.accounts.map fun x => if x.id = src then { x with balance := x.balance + -amount } else x).map
        fun x => if x.id = dst then { x with balance := x.balance + amount } else x := rfl

@[simp] theorem withTransfer_entries (t : Tables) (src dst amount : Int) :
    (t.withTransfer src dst amount).entries = t.entries ++
      [⟨t.entrySeq + 1, src, -amount, some (t.transferSeq + 1)⟩,
        ⟨t.entrySeq + 2, dst, amount, some (t.transferSeq + 1)⟩] := by
  simp only [withTransfer, transferRows, credit, pushEntry, pushTransfer, List.append_assoc,
    List.singleton_append, Int.add_assoc]
  rfl

@[simp] theorem withTransfer_transfers (t : Tables) (src dst amount : Int) :
    (t.withTransfer src dst amount).transfers =
      t.transfers ++ [⟨t.transferSeq + 1, src, dst, amount⟩] := rfl

@[simp] theorem withTransfer_accountSeq (t : Tables) (src dst amount : Int) :
    (t.withTransfer src dst amount).accountSeq = t.accountSeq := rfl

@[simp] theorem withTransfer_transferSeq (t : Tables) (src dst amount : Int) :
    (t.withTransfer src dst amount).transferSeq = t.transferSeq + 1 := rfl

theorem credit_comm (t : Tables) {i j : Int} (hij : i ≠ j) (d e : Int) :
    (t.credit i d).credit j e = (t.credit j e).credit i d := by
  simp only [credit, List.map_map, Tables.mk.injEq, and_true]
  refine List.map_congr_left fun x _ => ?_
  by_cases hi : x.id = i <;> by_cases hj : x.id = j <;> simp_all

theorem Wf.transferRows (hw : t.Wf) (src dst amount : Int) :
    (t.transferRows src dst amount).Wf :=
  ((hw.pushTransfer _ _ _).pushEntry _ _ _).pushEntry _ _ _

theorem Wf.withTransfer (hw : t.Wf) (src dst amount : Int) :
    (t.withTransfer src dst amount).Wf :=
  ((hw.transferRows src dst amount).credit _ _).credit _ _

/-- Under the keys, two balance writes on distinct accounts, each its account's balance plus
a delta, are the two credits. -/
theorem setBalance_setBalance_eq_credit (hw : t.Wf) {i j : Int} (hij : i ≠ j) {a b : Account}
    (ha : t.account? i = some a) (hb : t.account? j = some b) (d e : Int) :
    (t.setBalance i (a.balance + d)).setBalance j (b.balance + e) = (t.credit i d).credit j e := by
  rw [setBalance_eq_credit hw.accounts ha]
  refine setBalance_eq_credit (hw.credit i d).accounts ?_
  rw [account?_credit, hb]
  simp [(account?_eq_some hb).2, hij.symm]

end Tables

/-! ## The store's calls inside the body -/

/-- The store's refusal of an increment of `delta` to the balance `balance` of account `id`
when the new balance leaves the 64-bit range. -/
def balanceOverflow (id balance delta : Int) : Option LedgerError :=
  if Signed64.Fits (balance + delta) then none
  else some (.database (.engine s!"Failed to add {delta} to balance of account {id}"
    (.checkFailed Tables.balanceConstraint)))

namespace Pool

/-- A pool on which statements run against tables `t`: it reaches its file, may write it,
and the file holds `t`. -/
structure Writable (q : Pool) (t : Tables) : Prop where
  file : q.file = .ledger t
  reaches : q.Reaches
  writable : q.readOnly = false

variable {q : Pool} {t : Tables}

theorem Writable.statement {α : Type} (hq : q.Writable t) (ctx tbl : String) (w : Bool)
    (run : Tables → Except DbCause (α × Tables)) {a : α} {t' : Tables} (hrun : run t = .ok (a, t')) :
    ∃ q', statement ctx tbl w run q = .ok a q' ∧ q'.Writable t' := by
  refine ⟨{ q with touched := true, file := .ledger t' }, ?_, rfl, hq.reaches, hq.writable⟩
  rw [statement_run hq.file hq.reaches (fun _ => hq.writable), hrun]

theorem createTransfer_step (hq : q.Writable t) {src dst amount : Int} (hpos : 0 < amount)
    (hne : src ≠ dst) (hs : t.account? src ≠ none) (hd : t.account? dst ≠ none) :
    ∃ q', (Service.store (LedgerStore.createTransfer src dst amount) : Act Pool LedgerError Transfer) q =
      .ok ⟨t.transferSeq + 1, src, dst, amount⟩ q' ∧ q'.Writable (t.pushTransfer src dst amount) := by
  obtain ⟨q', h, hq'⟩ := hq.statement "Failed to create transfer" "transfers" true
    (·.insertTransfer src dst amount) (Tables.insertTransfer_run hpos hne hs hd)
  exact ⟨q', store_ok h, hq'⟩

theorem createEntry_step (hq : q.Writable t) (account amount : Int) (transfer : Option Int)
    (ha : t.account? account ≠ none) (hx : ∀ i, transfer = some i → t.transfer? i ≠ none) :
    ∃ q', (Service.store (LedgerStore.createEntry account amount transfer) : Act Pool LedgerError Entry) q =
      .ok ⟨t.entrySeq + 1, account, amount, transfer⟩ q' ∧
      q'.Writable (t.pushEntry account amount transfer) := by
  obtain ⟨q', h, hq'⟩ := hq.statement "Failed to create entry" "entries" true
    (·.insertEntry account amount transfer) (Tables.insertEntry_run ha hx)
  exact ⟨q', store_ok h, hq'⟩

theorem getTransfer_step (hq : q.Writable t) (id : Int) :
    ∃ q', (Service.store (LedgerStore.getTransfer id) : Act Pool LedgerError (Option Transfer)) q =
      .ok (t.transfer? id) q' ∧ q'.Writable t := by
  obtain ⟨q', h, hq'⟩ := hq.statement "Failed to fetch transfer" "transfers" false
    (fun t => .ok (t.transfer? id, t)) rfl
  exact ⟨q', store_ok h, hq'⟩

/-- A balance increment inside the service: refused when it leaves the range, and otherwise
written and reported. -/
theorem applyPosting_step (hq : q.Writable t) {p : Posting} {a : Account}
    (ha : t.account? p.accountId = some a) :
    match balanceOverflow p.accountId a.balance p.delta with
    | some e => ∃ q', (Service.applyPosting p : Act Pool LedgerError Unit) q = .error (.fail e) q'
    | none => ∃ q', (Service.applyPosting p : Act Pool LedgerError Unit) q = .ok () q' ∧
        q'.Writable (t.setBalance p.accountId (a.balance + p.delta)) := by
  unfold Service.applyPosting balanceOverflow
  rw [addBalance_eq]
  by_cases hfit : Signed64.Fits (a.balance + p.delta)
  · rw [if_pos hfit]
    have hrun : t.addBalance p.accountId p.delta =
        .ok (some (a.balance + p.delta), t.setBalance p.accountId (a.balance + p.delta)) := by
      rw [Tables.addBalance_run ha, if_pos hfit]
    obtain ⟨q', h, hq'⟩ := hq.statement s!"Failed to add {p.delta} to balance of account {p.accountId}"
      "accounts" true (·.addBalance p.accountId p.delta) hrun
    rw [Act.bind_ok (store_ok h)]
    exact ⟨q'.note (.balanceUpdated p.accountId (a.balance + p.delta)), rfl, hq'.file, hq'.reaches,
      hq'.writable⟩
  · rw [if_neg hfit]
    refine ⟨{ q with touched := true }, Act.bind_error (store_fail ?_)⟩
    rw [statement_run hq.file hq.reaches (fun _ => hq.writable), Tables.addBalance_run ha, if_neg hfit]

end Pool

/-- The store's refusal of the first balance, lower account id first, that a transfer of
`amount` from `src` to `dst` moves out of the 64-bit range; `none` when both stay in it. -/
def transferOverflow (t : Tables) (src dst amount : Int) : Option LedgerError :=
  match t.account? src, t.account? dst with
  | some a, some b =>
    if src ≤ dst then (balanceOverflow src a.balance (-amount)).or (balanceOverflow dst b.balance amount)
    else (balanceOverflow dst b.balance amount).or (balanceOverflow src a.balance (-amount))
  | _, _ => none

theorem balanceOverflow_eq_none {id balance delta : Int} :
    balanceOverflow id balance delta = none ↔ Signed64.Fits (balance + delta) := by
  unfold balanceOverflow
  split <;> simp_all

/-- The transfers the ledger records: a positive 64-bit amount between two distinct
accounts, each of whose balance stays in the 64-bit range once moved. -/
structure Tables.Admits (t : Tables) (src dst amount : Int) : Prop where
  pos : 0 < amount
  ne : src ≠ dst
  fits : Signed64.Fits amount
  debit : ∃ a, t.account? src = some a ∧ Signed64.Fits (a.balance + -amount)
  credit : ∃ b, t.account? dst = some b ∧ Signed64.Fits (b.balance + amount)

theorem transferOverflow_eq_none {t : Tables} {src dst amount : Int} {a b : Account}
    (ha : t.account? src = some a) (hb : t.account? dst = some b) :
    transferOverflow t src dst amount = none ↔
      Signed64.Fits (a.balance + -amount) ∧ Signed64.Fits (b.balance + amount) := by
  unfold transferOverflow
  rw [ha, hb]
  dsimp only
  split <;> simp [balanceOverflow_eq_none, and_comm]

theorem transferPostings_of_fits {src dst amount : Int} (h : Signed64.Fits (-amount)) :
    transferPostings src dst amount = .ok (⟨src, -amount⟩, ⟨dst, amount⟩) := by
  simp [transferPostings, Signed64.neg?, h]

theorem transferPostings_of_not_fits {src dst amount : Int} (h : ¬ Signed64.Fits (-amount)) :
    transferPostings src dst amount = .error .negateOverflow := by
  simp [transferPostings, Signed64.neg?, h]

namespace Pool

variable {r : Pool} {T : Tables} {src dst amount : Int}

/-- The two balance increments of a transfer, run in the order given: the first that leaves
the 64-bit range fails the call, and otherwise the rest of the body runs on both new balances. -/
theorem applyPostings_step {q : Pool} {t : Tables} (hq : q.Writable t) (p₁ p₂ : Posting)
    {a₁ a₂ : Account} (hne : p₁.accountId ≠ p₂.accountId) (h₁ : t.account? p₁.accountId = some a₁)
    (h₂ : t.account? p₂.accountId = some a₂) :
    match (balanceOverflow p₁.accountId a₁.balance p₁.delta).or
        (balanceOverflow p₂.accountId a₂.balance p₂.delta) with
    | some e => ∃ q', ∀ {β : Type} (k : Act Pool LedgerError β),
        (Service.applyPosting p₁ >>= fun _ => Service.applyPosting p₂ >>= fun _ => k) q =
          .error (.fail e) q'
    | none => ∃ q', (∀ {β : Type} (k : Act Pool LedgerError β),
        (Service.applyPosting p₁ >>= fun _ => Service.applyPosting p₂ >>= fun _ => k) q = k q') ∧
        q'.Writable ((t.setBalance p₁.accountId (a₁.balance + p₁.delta)).setBalance
          p₂.accountId (a₂.balance + p₂.delta)) := by
  have s₁ := applyPosting_step hq h₁
  cases hb₁ : balanceOverflow p₁.accountId a₁.balance p₁.delta with
  | some e =>
    rw [hb₁] at s₁
    obtain ⟨q₁, e₁⟩ := s₁
    exact ⟨q₁, fun _ => Act.bind_error e₁⟩
  | none =>
    rw [hb₁] at s₁
    obtain ⟨q₁, e₁, hq₁⟩ := s₁
    have s₂ := applyPosting_step hq₁ (by rw [Tables.account?_setBalance_of_ne _ hne.symm, h₂])
    simp only [Option.none_or]
    cases hb₂ : balanceOverflow p₂.accountId a₂.balance p₂.delta with
    | some e =>
      rw [hb₂] at s₂
      obtain ⟨q₂, e₂⟩ := s₂
      exact ⟨q₂, fun _ => by rw [Act.bind_ok e₁, Act.bind_error e₂]⟩
    | none =>
      rw [hb₂] at s₂
      obtain ⟨q₂, e₂, hq₂⟩ := s₂
      exact ⟨q₂, fun _ => by rw [Act.bind_ok e₁, Act.bind_ok e₂], hq₂⟩

/-- The end of a transfer's body, once its rows are written: the two increments in the order
given, then the row read back and handed to `k`, which returns it. -/
theorem readBack_run (hq : r.Writable (T.transferRows src dst amount)) (p₁ p₂ : Posting)
    {a₁ a₂ : Account} (hne : p₁.accountId ≠ p₂.accountId) (h₁ : T.account? p₁.accountId = some a₁)
    (h₂ : T.account? p₂.accountId = some a₂)
    (hT : ((T.transferRows src dst amount).credit p₁.accountId p₁.delta).credit p₂.accountId
      p₂.delta = T.withTransfer src dst amount)
    (k : Option Transfer → Act Pool LedgerError Transfer) (hk : ∀ x q, k (some x) q = .ok x q) :
    match (balanceOverflow p₁.accountId a₁.balance p₁.delta).or
        (balanceOverflow p₂.accountId a₂.balance p₂.delta) with
    | some e => ∃ r', (Service.applyPosting p₁ >>= fun _ => Service.applyPosting p₂ >>= fun _ =>
        Service.store (LedgerStore.getTransfer (T.transferSeq + 1)) >>= k) r = .error (.fail e) r'
    | none => ∃ x r', (Service.applyPosting p₁ >>= fun _ => Service.applyPosting p₂ >>= fun _ =>
        Service.store (LedgerStore.getTransfer (T.transferSeq + 1)) >>= k) r = .ok x r' ∧
        (T.Wf → x = ⟨T.transferSeq + 1, src, dst, amount⟩ ∧
          r'.Writable (T.withTransfer src dst amount)) := by
  have h₁' : (T.transferRows src dst amount).account? p₁.accountId = some a₁ := h₁
  have h₂' : (T.transferRows src dst amount).account? p₂.accountId = some a₂ := h₂
  have s := applyPostings_step hq p₁ p₂ hne h₁' h₂'
  split
  · rename_i e hO
    rw [hO] at s
    obtain ⟨r', e'⟩ := s
    exact ⟨r', e' _⟩
  · rename_i hO
    rw [hO] at s
    obtain ⟨r₁, e₁, hr₁⟩ := s
    obtain ⟨r₂, e₂, hr₂⟩ := getTransfer_step hr₁ (T.transferSeq + 1)
    rw [e₁, Act.bind_ok e₂]
    simp only [Tables.transfer?_setBalance, Tables.transferRows, Tables.transfer?_pushEntry]
    cases hx : (T.pushTransfer src dst amount).transfer? (T.transferSeq + 1) with
    | none => exact absurd hx (Tables.transfer?_pushTransfer_ne_none T src dst amount)
    | some x =>
      refine ⟨x, r₂, hk x r₂, fun hw => ⟨?_, ?_⟩⟩
      · exact Option.some.inj (hx.symm.trans (hw.transfer?_pushTransfer src dst amount))
      · rwa [Tables.setBalance_setBalance_eq_credit (hw.transferRows src dst amount) hne h₁' h₂',
          hT] at hr₂

/-- The body of a transfer between two distinct existing accounts, run forward: it fails at
the first balance that leaves the range, and otherwise returns the row it read back; under
the keys that row is the new one and the tables are `Tables.withTransfer`. -/
theorem recordTransfer_run (hq : r.Writable T) (hpos : 0 < amount)
    (hne : src ≠ dst) {a b : Account} (ha : T.account? src = some a) (hb : T.account? dst = some b)
    (hneg : Signed64.Fits (-amount)) :
    match transferOverflow T src dst amount with
    | some e => ∃ r', (Service.recordTransfer src dst amount : Act Pool LedgerError Transfer) r =
        .error (.fail e) r'
    | none => ∃ x r', (Service.recordTransfer src dst amount : Act Pool LedgerError Transfer) r =
        .ok x r' ∧ (T.Wf → x = ⟨T.transferSeq + 1, src, dst, amount⟩ ∧
          r'.Writable (T.withTransfer src dst amount)) := by
  unfold Service.recordTransfer
  obtain ⟨r₁, e₁, hr₁⟩ := createTransfer_step hq hpos hne (by simp [ha]) (by simp [hb])
  rw [Act.bind_ok e₁, transferPostings_of_fits hneg, Act.bind_ok (Act.ofExcept_ok _ _)]
  dsimp only
  obtain ⟨r₂, e₂, hr₂⟩ := createEntry_step hr₁ src (-amount) (some (T.transferSeq + 1))
    (by simp [ha]) (by rintro i ⟨⟩; exact Tables.transfer?_pushTransfer_ne_none T src dst amount)
  obtain ⟨r₃, e₃, hr₃⟩ := createEntry_step hr₂ dst amount (some (T.transferSeq + 1))
    (by simp [hb]) (by rintro i ⟨⟩; simpa using Tables.transfer?_pushTransfer_ne_none T src dst amount)
  rw [Act.bind_ok e₂, Act.bind_ok e₃, balanceUpdates_perm (transferPostings_of_fits hneg),
    Act.bind_ok (Act.ofExcept_ok _ _)]
  unfold transferOverflow
  rw [ha, hb]
  dsimp only
  by_cases hle : src ≤ dst
  · simp only [if_pos hle]
    exact readBack_run hr₃ ⟨src, -amount⟩ ⟨dst, amount⟩ hne ha hb rfl _ fun _ _ => rfl
  · simp only [if_neg hle]
    exact readBack_run hr₃ ⟨dst, amount⟩ ⟨src, -amount⟩ hne.symm hb ha
      (Tables.credit_comm _ hne.symm _ _) _ fun _ _ => rfl

theorem applyPosting_keeps (p : Posting) :
    Act.Keeps SameConnection (Service.applyPosting p : Act Pool LedgerError Unit) := by
  unfold Service.applyPosting
  refine Act.Keeps.bind (.mapFail _ statement_keeps) fun r => ?_
  cases r
  · exact .fail _
  · exact keeps_sameConnection (note_keeps _)

theorem recordTransfer_keeps (src dst amount : Int) :
    Act.Keeps SameConnection (Service.recordTransfer src dst amount : Act Pool LedgerError Transfer) := by
  unfold Service.recordTransfer
  refine Act.Keeps.bind (.mapFail _ statement_keeps) fun x => ?_
  refine Act.Keeps.bind (.ofExcept _) fun ⟨d, c⟩ => ?_
  refine Act.Keeps.bind (.mapFail _ statement_keeps) fun _ => ?_
  refine Act.Keeps.bind (.mapFail _ statement_keeps) fun _ => ?_
  refine Act.Keeps.bind (.ofExcept _) fun ⟨p₁, p₂⟩ => ?_
  refine Act.Keeps.bind (applyPosting_keeps p₁) fun _ => ?_
  refine Act.Keeps.bind (applyPosting_keeps p₂) fun _ => ?_
  refine Act.Keeps.bind (.mapFail _ (keeps_sameConnection query_keeps)) fun r => ?_
  cases r
  · exact .fail _
  · exact .pure _

end Pool

/-! ## The checks before the transaction -/

/-- Why a transfer request is refused before any transaction begins: the first check that
fails, in the order the service makes them; `none` when every check passes. -/
def transferRejection (t : Tables) (principal : String) (src dst amount : Int)
    (currency : Currency) : Option LedgerError :=
  if amount ≤ 0 then some (.invalidAmount amount .nonPositiveTransfer)
  else if src = dst then some (.sameAccount src)
  else match t.account? src with
    | none => some (.accountNotFound src)
    | some a =>
      if a.currency ≠ currency then some (.currencyMismatch src a.currency currency)
      else if a.owner ≠ principal then some (.unauthorized src principal)
      else match t.account? dst with
        | none => some (.accountNotFound dst)
        | some b =>
          if b.currency ≠ currency then some (.currencyMismatch dst b.currency currency) else none

/-- A request that passes every check: a positive amount between two distinct accounts, the
source in the currency and owned by the principal, the destination in the currency. -/
theorem transferRejection_eq_none {t : Tables} {principal : String} {src dst amount : Int}
    {currency : Currency} (h : transferRejection t principal src dst amount currency = none) :
    0 < amount ∧ src ≠ dst ∧ ∃ a, t.account? src = some a ∧ a.currency = currency ∧
      a.owner = principal ∧ ∃ b, t.account? dst = some b ∧ b.currency = currency := by
  unfold transferRejection at h
  have h0 : ¬ amount ≤ 0 := fun h0 => by simp [h0] at h
  have hs : src ≠ dst := fun hs => by simp [h0, hs] at h
  rw [if_neg h0, if_neg hs] at h
  refine ⟨by omega, hs, ?_⟩
  split at h
  next => cases h
  next a ha =>
    split at h
    next => cases h
    next hc =>
      split at h
      next => cases h
      next ho =>
        split at h
        next => cases h
        next b hb =>
          split at h
          next => cases h
          next hc' => exact ⟨a, ha, not_not.1 hc, not_not.1 ho, b, hb, not_not.1 hc'⟩

theorem Signed64.fits_neg {n : Int} (h : Signed64.Fits n) (hpos : 0 < n) : Signed64.Fits (-n) := by
  unfold Signed64.Fits Signed64.min Signed64.max at *
  omega

namespace Pool

variable {p : Pool} {t : Tables} {principal : String} {currency : Currency}

/-- A refused request answers with the first failed check, having only reported it: the
file and the connection are as they were, and no transaction was begun. -/
theorem createTransfer_rejected (hp : p.Serves t) {e : LedgerError}
    (h : transferRejection t principal src dst amount currency = some e) :
    ∃ evs b, (Service.createTransfer principal src dst amount currency :
        Act Pool LedgerError Transfer) p =
        .error (.fail e) { p with trace := p.trace ++ evs, touched := b } ∧
      ∀ ev ∈ evs, ev.origin ≠ .transactions := by
  unfold Service.createTransfer
  unfold transferRejection at h
  by_cases h0 : amount ≤ 0
  · rw [if_pos h0] at h
    cases h
    exact ⟨[.nonPositiveAmount amount], p.touched, by rw [if_pos h0, refuse_apply]; rfl,
      by simp [Event.origin]⟩
  rw [if_neg h0] at h ⊢
  by_cases hs : src = dst
  · rw [if_pos hs] at h
    cases h
    exact ⟨[.sameAccount src], p.touched, by rw [if_pos hs, refuse_apply]; rfl,
      by simp [Event.origin]⟩
  rw [if_neg hs] at h ⊢
  have hsrc := accountIn_run hp.file hp.reaches src currency
  cases ha : t.account? src with
  | none =>
    rw [ha] at h hsrc
    cases h
    exact ⟨[], true, Act.bind_error (by rw [hsrc]; simp), by simp⟩
  | some a =>
    rw [ha] at h hsrc
    dsimp only at h hsrc
    by_cases hc : a.currency = currency
    · rw [if_neg (not_not_intro hc)] at h
      rw [if_pos hc] at hsrc
      rw [Act.bind_ok hsrc]
      have hid : a.id = src := (Tables.account?_eq_some ha).2
      by_cases ho : a.owner = principal
      · rw [if_neg (not_not_intro ho)] at h
        have hown : ¬ (!a.ownedBy principal) = true := by simp [Account.ownedBy, ho]
        rw [if_neg hown]
        have hdst := accountIn_run (p := { p with touched := true }) hp.file hp.reaches dst currency
        cases hb : t.account? dst with
        | none =>
          rw [hb] at h hdst
          cases h
          exact ⟨[], true, Act.bind_error (by rw [hdst]; simp), by simp⟩
        | some b =>
          rw [hb] at h hdst
          dsimp only at h hdst
          by_cases hc' : b.currency = currency
          · rw [if_neg (not_not_intro hc')] at h
            cases h
          · rw [if_pos hc'] at h
            rw [if_neg hc'] at hdst
            cases h
            exact ⟨[.currencyMismatch dst b.currency currency], true, Act.bind_error hdst,
              by simp [Event.origin]⟩
      · rw [if_pos ho] at h
        cases h
        have hown : (!a.ownedBy principal) = true := by simp [Account.ownedBy, ho]
        rw [if_pos hown, refuse_apply, hid]
        exact ⟨[.notOwner src principal], true, rfl, by simp [Event.origin]⟩
    · rw [if_pos hc] at h
      rw [if_neg hc] at hsrc
      cases h
      exact ⟨[.currencyMismatch src a.currency currency], true, Act.bind_error hsrc,
        by simp [Event.origin]⟩

/-- A request that passes every check reports that it is recording the transfer and runs its
body as one transaction; the pool has only been read. -/
theorem createTransfer_accepted (hp : p.Serves t)
    (h : transferRejection t principal src dst amount currency = none) :
    0 < amount ∧ src ≠ dst ∧ (∃ a b, t.account? src = some a ∧ t.account? dst = some b) ∧
      (Service.createTransfer principal src dst amount currency : Act Pool LedgerError Transfer) p =
        (Service.atomically (Service.recordTransfer src dst amount) >>= fun x =>
          Service.note (.transferCompleted x.id src dst amount currency) >>= fun _ => pure x)
          ({ p with touched := true }.note (.recording src dst amount)) := by
  obtain ⟨hpos, hs, a, ha, hc, ho, b, hb, hc'⟩ := transferRejection_eq_none h
  have h0 : ¬ amount ≤ 0 := by omega
  refine ⟨hpos, hs, ⟨a, b, ha, hb⟩, ?_⟩
  unfold Service.createTransfer
  have hsrc : (Service.accountIn src currency : Act Pool LedgerError Account) p =
      .ok a { p with touched := true } := by
    rw [accountIn_run hp.file hp.reaches, ha]
    dsimp only
    rw [if_pos hc]
  have hdst : (Service.accountIn dst currency : Act Pool LedgerError Account)
      { p with touched := true } = .ok b { p with touched := true } := by
    rw [accountIn_run (p := { p with touched := true }) hp.file hp.reaches, hb]
    dsimp only
    rw [if_pos hc']
  have hown : ¬ (!a.ownedBy principal) = true := by simp [Account.ownedBy, ho]
  rw [if_neg h0, if_neg hs, Act.bind_ok hsrc, if_neg hown, Act.bind_ok hdst,
    Act.bind_ok (note_apply _ _)]

/-- The transaction of a transfer between two distinct existing accounts: refused at the
first balance that leaves the range, the pool serving the tables it served; otherwise
committed, and under the keys the new row is answered and the pool serves
`Tables.withTransfer`. -/
theorem atomically_recordTransfer (hp : p.Serves t) (hpos : 0 < amount) (hne : src ≠ dst)
    {a b : Account} (ha : t.account? src = some a) (hb : t.account? dst = some b)
    (hneg : Signed64.Fits (-amount)) :
    match transferOverflow t src dst amount with
    | some e => ∃ q, (Service.atomically (Service.recordTransfer src dst amount) :
        Act Pool LedgerError Transfer) p = .error (.fail e) q ∧ q.Serves t
    | none => ∃ x q, (Service.atomically (Service.recordTransfer src dst amount) :
        Act Pool LedgerError Transfer) p = .ok x q ∧
        (t.Wf → x = ⟨t.transferSeq + 1, src, dst, amount⟩ ∧ q.Serves (t.withTransfer src dst amount)) := by
  have hw : ({ p with inTx := true } : Pool).Writable t := ⟨hp.file, .inl rfl, hp.writable⟩
  have s := recordTransfer_run hw hpos hne ha hb hneg
  split
  · rename_i e hO
    rw [hO] at s
    obtain ⟨r, hr⟩ := s
    exact ⟨_, atomically_run_fail hp.outside hp.isOpen hr, hp.file, hp.isOpen, hp.outside, hp.writable⟩
  · rename_i hO
    rw [hO] at s
    obtain ⟨x, r, hr, hx⟩ := s
    refine ⟨x, _, atomically_run_ok hp.outside hp.isOpen hr, fun hwf => ?_⟩
    obtain ⟨rfl, hr'⟩ := hx hwf
    have hc : SameConnection { p with inTx := true } r :=
      Act.after_of_ok hr ▸ recordTransfer_keeps src dst amount _
    exact ⟨rfl, hr'.file, hc.isOpen.trans hp.isOpen, rfl, hr'.writable⟩

/-- The outcome of a transfer request on a pool serving the ledger, for every state of the
tables and every request with a 64-bit amount: the first failed check of
`transferRejection`, answered before any transaction begins; otherwise the store's refusal
of the first balance, lower account id first, that leaves the 64-bit range; otherwise the
transfer. Whether the source's balance covers the amount is never asked. -/
theorem createTransfer_outcome (hp : p.Serves t) (principal : String) (src dst amount : Int)
    (hamt : Signed64.Fits amount) (currency : Currency) :
    match transferRejection t principal src dst amount currency with
    | some e => ∃ evs b, (Service.createTransfer principal src dst amount currency :
        Act Pool LedgerError Transfer) p =
        .error (.fail e) { p with trace := p.trace ++ evs, touched := b } ∧
        ∀ ev ∈ evs, ev.origin ≠ .transactions
    | none =>
      match transferOverflow t src dst amount with
      | some e => ∃ q, (Service.createTransfer principal src dst amount currency :
          Act Pool LedgerError Transfer) p = .error (.fail e) q
      | none => ∃ x q, (Service.createTransfer principal src dst amount currency :
          Act Pool LedgerError Transfer) p = .ok x q := by
  split
  · rename_i e h
    exact createTransfer_rejected hp h
  · rename_i h
    obtain ⟨hpos, hne, ⟨a, b, ha, hb⟩, hrun⟩ := createTransfer_accepted hp h
    have hq : ({ p with touched := true }.note (.recording src dst amount)).Serves t :=
      ⟨hp.file, hp.isOpen, hp.outside, hp.writable⟩
    have s := atomically_recordTransfer hq hpos hne ha hb (Signed64.fits_neg hamt hpos)
    rw [hrun]
    split
    · rename_i e hO
      rw [hO] at s
      obtain ⟨q, hq', -⟩ := s
      exact ⟨q, Act.bind_error hq'⟩
    · rename_i hO
      rw [hO] at s
      obtain ⟨x, q, hq', -⟩ := s
      exact ⟨x, _, by rw [Act.bind_ok hq']; rfl⟩

theorem createTransfer_outcome_opened :
    ({ file := .ledger { accounts := [⟨1, "alice", 10, .usd⟩, ⟨2, "bob", 0, .usd⟩], accountSeq := 2 } } :
      Pool).Serves { accounts := [⟨1, "alice", 10, .usd⟩, ⟨2, "bob", 0, .usd⟩], accountSeq := 2 } ∧
    Signed64.Fits 25 ∧
    ∃ x q, (Service.createTransfer "alice" 1 2 25 .usd : Act Pool LedgerError Transfer)
      { file := .ledger { accounts := [⟨1, "alice", 10, .usd⟩, ⟨2, "bob", 0, .usd⟩], accountSeq := 2 } } =
      .ok x q := by
  refine (fun hp => ⟨hp, by decide, ?_⟩) ⟨rfl, rfl, rfl, rfl⟩
  have h := createTransfer_outcome hp "alice" 1 2 25 (by decide) .usd
  have h₁ : transferRejection
      { accounts := [⟨1, "alice", 10, .usd⟩, ⟨2, "bob", 0, .usd⟩], accountSeq := 2 }
      "alice" 1 2 25 .usd = none := by decide
  have h₂ : transferOverflow
      { accounts := [⟨1, "alice", 10, .usd⟩, ⟨2, "bob", 0, .usd⟩], accountSeq := 2 }
      1 2 25 = none := by decide
  rw [h₁] at h
  dsimp only at h
  rw [h₂] at h
  exact h

theorem createTransfer_admits (hp : p.Serves t) (hamt : Signed64.Fits amount) {x : Transfer} {q : Pool}
    (h : (Service.createTransfer principal src dst amount currency :
      Act Pool LedgerError Transfer) p = .ok x q) : t.Admits src dst amount := by
  cases hr : transferRejection t principal src dst amount currency with
  | some e =>
    obtain ⟨evs, b, h', -⟩ := createTransfer_rejected hp hr
    rw [h'] at h
    cases h
  | none =>
    obtain ⟨hpos, hne, ⟨a, b, ha, hb⟩, hrun⟩ := createTransfer_accepted hp hr
    have hq : ({ p with touched := true }.note (.recording src dst amount)).Serves t :=
      ⟨hp.file, hp.isOpen, hp.outside, hp.writable⟩
    have s := atomically_recordTransfer hq hpos hne ha hb (Signed64.fits_neg hamt hpos)
    rw [hrun] at h
    split at s
    · obtain ⟨q', e, -⟩ := s
      rw [Act.bind_error e] at h
      cases h
    · rename_i hO
      obtain ⟨hs, hd⟩ := (transferOverflow_eq_none ha hb).1 hO
      exact ⟨hpos, hne, hamt, ⟨a, ha, hs⟩, ⟨b, hb, hd⟩⟩

end Pool

end DoubleEntry
