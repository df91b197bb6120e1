import DoubleEntry.Proofs.Transfer

/-!
# DoubleEntry.Proofs.Atomicity

The two requests that write: each takes effect whole or not at all, and when it takes effect
its effect is exactly the rows it describes.

A transfer that fails, whether refused by a check or by a balance leaving the 64-bit range
after its row and both entries were written, leaves the tables as they were, counters
included; one that succeeds leaves `Tables.withTransfer` and answers the row it wrote
(`createTransfer_effect`). An account is refused only for a negative opening balance, with
the pool untouched; otherwise the tables become `Tables.withAccount`, with the opening entry
exactly when the balance is positive (`createAccount_effect`). `writes_all_or_nothing`
states both on every state the primary keys allow.
-/

namespace DoubleEntry

namespace Tables

/-- The tables once an account is opened for `owner` in `currency` with `opening`: the new
row under the next account id holding `opening`, and, when it is positive, the entry that
books it, linked to no transfer. -/
def withAccount (t : Tables) (owner : String) (currency : Currency) (opening : Int) : Tables :=
  if 0 < opening then
    (t.pushAccount owner currency opening).pushEntry (t.accountSeq + 1) opening none
  else t.pushAccount owner currency opening

@[simp] theorem withAccount_accounts (t : Tables) (owner : String) (currency : Currency)
    (opening : Int) :
    (t.withAccount owner currency opening).accounts =
      t.accounts ++ [⟨t.accountSeq + 1, owner, opening, currency⟩] := by
  unfold withAccount
  split <;> rfl

@[simp] theorem withAccount_entries (t : Tables) (owner : String) (currency : Currency)
    (opening : Int) :
    (t.withAccount owner currency opening).entries =
      t.entries ++ if 0 < opening then [⟨t.entrySeq + 1, t.accountSeq + 1, opening, none⟩] else [] := by
  unfold withAccount
  split <;> simp [pushEntry, pushAccount]

@[simp] theorem withAccount_transfers (t : Tables) (owner : String) (currency : Currency)
    (opening : Int) : (t.withAccount owner currency opening).transfers = t.transfers := by
  unfold withAccount
  split <;> rfl

@[simp] theorem withAccount_accountSeq (t : Tables) (owner : String) (currency : Currency)
    (opening : Int) : (t.withAccount owner currency opening).accountSeq = t.accountSeq + 1 := by
  unfold withAccount
  split <;> rfl

@[simp] theorem withAccount_transferSeq (t : Tables) (owner : String) (currency : Currency)
    (opening : Int) : (t.withAccount owner currency opening).transferSeq = t.transferSeq := by
  unfold withAccount
  split <;> rfl

theorem Wf.withAccount {t : Tables} (hw : t.Wf) (owner : String) (currency : Currency)
    (opening : Int) : (t.withAccount owner currency opening).Wf := by
  unfold Tables.withAccount
  split
  · exact (hw.pushAccount _ _ _).pushEntry _ _ _
  · exact hw.pushAccount _ _ _

end Tables

namespace Pool

variable {p q : Pool} {t : Tables}

/-- Opening an account inside a transaction: the row, then for a positive opening balance
its entry and the increment that books it. -/
theorem openAccount_run (hq : q.Writable t) (hw : t.Wf) (owner : String) (currency : Currency)
    {b : Int} (hfit : Signed64.Fits b) (hb : 0 ≤ b) :
    ∃ q', (Service.openAccount ⟨owner, currency⟩ b : Act Pool LedgerError Account) q =
      .ok ⟨t.accountSeq + 1, owner, b, currency⟩ q' ∧ q'.Writable (t.withAccount owner currency b) := by
  unfold Service.openAccount
  obtain ⟨q₁, e₁, hq₁⟩ := hq.statement "Failed to create account" "accounts" true
    (fun t => .ok (t.insertAccount ⟨owner, currency⟩)) rfl
  have hq₁' : q₁.Writable (t.pushAccount owner currency 0) := hq₁
  rw [createAccount_eq, Act.bind_ok (store_ok e₁)]
  by_cases hpos : 0 < b
  · rw [if_pos hpos]
    have ha := hw.account?_pushAccount owner currency 0
    obtain ⟨q₂, e₂, hq₂⟩ := createEntry_step hq₁' (t.accountSeq + 1) b none (by simp [ha])
      (by simp)
    rw [Act.bind_ok e₂]
    have hrun : ((t.pushAccount owner currency 0).pushEntry (t.accountSeq + 1) b none).addBalance
        (t.accountSeq + 1) b = .ok (some (0 + b),
          ((t.pushAccount owner currency 0).pushEntry (t.accountSeq + 1) b none).setBalance
            (t.accountSeq + 1) (0 + b)) := by
      rw [Tables.addBalance_run (by rw [Tables.account?_pushEntry, ha]), if_pos (by simpa using hfit)]
    obtain ⟨q₃, e₃, hq₃⟩ := hq₂.statement _ "accounts" true (·.addBalance (t.accountSeq + 1) b) hrun
    rw [addBalance_eq, Act.bind_ok (store_ok e₃)]
    refine ⟨q₃, by simp, ?_⟩
    rw [Tables.withAccount, if_pos hpos]
    rwa [Tables.setBalance_pushEntry, hw.setBalance_pushAccount, Int.zero_add] at hq₃
  · -- a zero opening balance books nothing
    obtain rfl : b = 0 := by omega
    rw [if_neg hpos]
    exact ⟨q₁, rfl, by rwa [Tables.withAccount, if_neg hpos]⟩

theorem openAccount_keeps (n : NewAccount) (b : Int) :
    Act.Keeps SameConnection (Service.openAccount n b : Act Pool LedgerError Account) := by
  unfold Service.openAccount
  refine Act.Keeps.bind (.mapFail _ statement_keeps) fun row => ?_
  split
  · refine Act.Keeps.bind (.mapFail _ statement_keeps) fun _ => ?_
    refine Act.Keeps.bind (.mapFail _ statement_keeps) fun r => ?_
    cases r
    · exact .fail _
    · exact .pure _
  · exact .pure _

/-- Opening an account on a pool serving tables under their keys: refused, with the pool
untouched, exactly for a negative opening balance; otherwise the new row is answered as
stored and the pool serves `Tables.withAccount`. -/
theorem createAccount_effect (hp : p.Serves t) (hw : t.Wf) (owner : String) (currency : Currency)
    {b : Int} (hfit : Signed64.Fits b) :
    match (Service.createAccount owner currency b : Act Pool LedgerError Account) p with
    | .ok a q => a = ⟨t.accountSeq + 1, owner, b, currency⟩ ∧ q.Serves (t.withAccount owner currency b)
    | .error e q => b < 0 ∧ e = .fail (.invalidAmount b .negativeOpening) ∧ q = p := by
  unfold Service.createAccount
  by_cases hneg : b < 0
  · simp only [if_pos hneg, Act.fail_apply, and_true]
    exact hneg
  · rw [if_neg hneg]
    have hw' : ({ p with inTx := true } : Pool).Writable t := ⟨hp.file, .inl rfl, hp.writable⟩
    obtain ⟨q, e, hq⟩ := openAccount_run hw' hw owner currency hfit (by omega)
    have hc : SameConnection { p with inTx := true } q :=
      Act.after_of_ok e ▸ openAccount_keeps _ _ _
    rw [Act.bind_ok (atomically_run_ok hp.outside hp.isOpen e), Act.bind_ok (note_apply _ _)]
    simp only [Act.pure_apply, true_and]
    exact ⟨hq.file, hc.isOpen.trans hp.isOpen, rfl, hq.writable⟩

/-- A transfer request with a 64-bit amount on a pool serving tables under their keys: when
it fails the pool serves the same tables; when it succeeds it answers the new row and the
pool serves `Tables.withTransfer`. -/
theorem createTransfer_effect (hp : p.Serves t) (hw : t.Wf) (principal : String)
    (src dst amount : Int) (currency : Currency) (hamt : Signed64.Fits amount) :
    match (Service.createTransfer principal src dst amount currency :
      Act Pool LedgerError Transfer) p with
    | .ok x q => x = ⟨t.transferSeq + 1, src, dst, amount⟩ ∧ q.Serves (t.withTransfer src dst amount)
    | .error _ q => q.Serves t := by
  cases hr : transferRejection t principal src dst amount currency with
  | some e =>
    obtain ⟨evs, b, h, -⟩ := createTransfer_rejected hp hr
    rw [h]
    exact ⟨hp.file, hp.isOpen, hp.outside, hp.writable⟩
  | none =>
    obtain ⟨hpos, hne, ⟨a, b, ha, hb⟩, hrun⟩ := createTransfer_accepted hp hr
    have hq : ({ p with touched := true }.note (.recording src dst amount)).Serves t :=
      ⟨hp.file, hp.isOpen, hp.outside, hp.writable⟩
    have s := atomically_recordTransfer hq hpos hne ha hb (Signed64.fits_neg hamt hpos)
    rw [hrun]
    split at s
    · obtain ⟨q, e, hs⟩ := s
      rw [Act.bind_error e]
      exact hs
    · obtain ⟨x, q, e, hx⟩ := s
      obtain ⟨rfl, hs⟩ := hx hw
      rw [Act.bind_ok e, Act.bind_ok (note_apply _ _)]
      simp only [Act.pure_apply, true_and]
      exact hs.note _

/-- Both writing requests are all or nothing, on every state the primary keys allow and for
every request with 64-bit amounts. A transfer that fails leaves every row and counter as it
was, wherever it failed; one that succeeds adds exactly its row, its two entries and the two
balance moves, and answers the row it stored. An account is refused only for a negative
opening balance, leaving the pool as it was; otherwise exactly its row is added, holding the
opening balance, with an opening entry exactly when that balance is positive. -/
theorem writes_all_or_nothing (hp : p.Serves t) (hw : t.Wf) :
    (∀ (principal : String) (src dst amount : Int) (currency : Currency), Signed64.Fits amount →
      match (Service.createTransfer principal src dst amount currency :
        Act Pool LedgerError Transfer) p with
      | .ok x q => x = ⟨t.transferSeq + 1, src, dst, amount⟩ ∧
          q.Serves (t.withTransfer src dst amount)
      | .error _ q => q.Serves t) ∧
    (∀ (owner : String) (currency : Currency) (opening : Int), Signed64.Fits opening →
      match (Service.createAccount owner currency opening : Act Pool LedgerError Account) p with
      | .ok a q => a = ⟨t.accountSeq + 1, owner, opening, currency⟩ ∧
          q.Serves (t.withAccount owner currency opening)
      | .error e q => opening < 0 ∧ e = .fail (.invalidAmount opening .negativeOpening) ∧ q = p) :=
  ⟨fun principal src dst amount currency hamt =>
      createTransfer_effect hp hw principal src dst amount currency hamt,
    fun owner currency _ hfit => createAccount_effect hp hw owner currency hfit⟩

/-- Tables holding Alice's account, opened with 100, and Bob's, opened with nothing. -/
def twoAccountTables : Tables :=
  { accounts := [⟨1, "alice", 100, .usd⟩, ⟨2, "bob", 0, .usd⟩]
    entries := [⟨1, 1, 100, none⟩]
    accountSeq := 2, entrySeq := 1 }

theorem writes_all_or_nothing_two_accounts :
    ({ file := .ledger twoAccountTables } : Pool).Serves twoAccountTables ∧ twoAccountTables.Wf ∧
    (∃ q, (Service.createTransfer "alice" 1 2 30 .usd : Act Pool LedgerError Transfer)
        { file := .ledger twoAccountTables } = .ok ⟨1, 1, 2, 30⟩ q ∧
      q.Serves (twoAccountTables.withTransfer 1 2 30)) ∧
    ∃ q, (Service.createAccount "carol" .usd 5 : Act Pool LedgerError Account)
        { file := .ledger twoAccountTables } = .ok ⟨3, "carol", 5, .usd⟩ q ∧
      q.Serves (twoAccountTables.withAccount "carol" .usd 5) := by
  have hp : ({ file := .ledger twoAccountTables } : Pool).Serves twoAccountTables := ⟨rfl, rfl, rfl, rfl⟩
  have hw : twoAccountTables.Wf := ⟨by decide, by decide, by decide, by decide, by decide, by decide⟩
  obtain ⟨htransfer, haccount⟩ := writes_all_or_nothing hp hw
  refine ⟨hp, hw, ?transfer, ?account⟩
  case transfer =>
    have h := htransfer "alice" 1 2 30 .usd (by decide)
    have hok : (match (Service.createTransfer "alice" 1 2 30 .usd : Act Pool LedgerError Transfer)
        { file := .ledger twoAccountTables } with
        | .ok .. => true
        | .error .. => false) = true := by decide
    split at h
    · rename_i x q e
      exact ⟨q, by rw [e, h.1]; rfl, h.2⟩
    · rename_i e
      rw [e] at hok
      cases hok
  case account =>
    have h := haccount "carol" .usd 5 (by decide)
    split at h
    · rename_i a q e
      exact ⟨q, by rw [e, h.1]; rfl, h.2⟩
    · exact absurd h.1 (by decide)

end Pool

end DoubleEntry
