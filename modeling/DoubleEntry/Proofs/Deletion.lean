import DoubleEntry.Proofs.Authority
import DoubleEntry.Proofs.Serving

/-!
# DoubleEntry.Proofs.Deletion

Deleting an account, on every state the ledger service can reach.

The service reads the account, checks its owner, and then asks the store for one statement that
deletes the row only when no entry names it; a refused statement is taken to mean that the
account has entries. The store also keeps a foreign key from transfers to accounts, which the
service never checks. It cannot fire on a reachable state: every transfer there is carried by
its debit and its credit, so every account a transfer names carries an entry
(`Tables.Ledger.transfersBooked`). The pool then serves the tables for the service
(`Pool.servesRows`), and a deletion answers `Tables.deletion`: not found, then not the
principal's, then in use, and otherwise the row as it was, which is the only row removed
(`Tables.Wf.dropAccount_eq_erase`) and, having no entries, held a zero balance.

Main statement: `delete_account_exact`.
-/

namespace DoubleEntry

namespace Tables

variable {t : Tables}

/-- On ledger tables every account a transfer names carries an entry: the transfer's own
debit or credit. -/
theorem Ledger.transfersBooked (h : t.Ledger) : t.TransfersBooked := by
  intro x hx i hi
  obtain ⟨hsrc, hdst⟩ := h.transfer_entries hx
  simp only [Transfer.involves, Bool.or_eq_true, beq_iff_eq] at hi
  rcases hi with rfl | rfl
  · exact hsrc
  · exact hdst

theorem Wf.dropAccount_eq_erase (hw : t.Wf) {id : Int} {a : Account} (ha : t.account? id = some a) :
    t.dropAccount id = { t with accounts := t.accounts.erase a } := by
  obtain ⟨hmem, rfl⟩ := account?_eq_some ha
  have hnodup : t.accounts.Nodup := hw.accounts.imp fun {x y} hxy heq => by
    rw [heq] at hxy
    exact Int.lt_irrefl _ hxy
  have hsame : ∀ x ∈ t.accounts, (x.id != a.id) = (x != a) := by
    intro x hx
    by_cases hxa : x = a
    · simp [hxa]
    · have hid : x.id ≠ a.id := fun hid => hxa (eq_of_key_eq hw.accounts hx hmem hid)
      rw [bne_iff_ne.2 hid, bne_iff_ne.2 hxa]
  rw [Tables.dropAccount, hnodup.erase_eq_filter, List.filter_congr hsame]

theorem deletion_eq_ok {principal : String} {id : Int} {a : Account}
    (h : t.deletion principal id = .ok a) :
    t.account? id = some a ∧ a.ownedBy principal ∧ ∀ e ∈ t.entries, e.accountId ≠ id := by
  unfold deletion at h
  cases ho : t.ownedAccount principal id with
  | error e =>
    rw [ho] at h
    cases h
  | ok b =>
    rw [ho] at h
    cases hu : t.entries.any (·.accountId == id)
    · simp only [Except.bind, hu, Bool.false_eq_true, if_false, Except.ok.injEq] at h
      subst h
      exact ⟨(ownedAccount_eq_ok ho).1, (ownedAccount_eq_ok ho).2, by simpa using hu⟩
    · simp [Except.bind, hu] at h

end Tables

/-- Deleting an account on a state the ledger service reaches from the empty schema: the
request answers `Tables.deletion`, that is `AccountNotFound` when there is no such account,
`Unauthorized` when it is not the principal's, `AccountInUse` when an entry names it, and
otherwise the account as it was stored. It never answers a database error nor aborts. A refusal
leaves the tables as they were; a deletion removes exactly that account's row, and the account
held a zero balance. -/
theorem delete_account_exact (ops : List Op) (hops : ∀ op ∈ ops, op.OfService ∧ op.Sized)
    (principal : String) (id : Int) :
    ∃ t q, (runOps ops { file := .ledger .empty }).Serves t ∧ t.Ledger ∧
      (Service.deleteAccount principal id : Act Pool LedgerError Account)
          (runOps ops { file := .ledger .empty }) = Act.result (t.deletion principal id) q ∧
      (∀ e, t.deletion principal id = .error e → q.Serves t) ∧
      (∀ a, t.deletion principal id = .ok a →
        a.balance = 0 ∧ q.Serves { t with accounts := t.accounts.erase a }) := by
  obtain ⟨t, hserves, -, hsteps⟩ := runOps_from_empty fun op hop =>
    Op.run_evolves_service (hops op hop).2 (hops op hop).1
  have hl := Tables.ledger_empty.of_steps hsteps
  obtain ⟨q, hq, hrun⟩ := Pool.servesRows.deleteAccount_run ⟨hserves, hl.transfersBooked⟩ principal id
  refine ⟨t, q, hserves, hl, hrun, fun e he => ?_, fun a ha => ?_⟩
  · rw [Tables.afterDeletion, he] at hq
    exact hq.1
  · rw [Tables.afterDeletion, ha] at hq
    obtain ⟨hacc, -, hfree⟩ := Tables.deletion_eq_ok ha
    refine ⟨hl.balance_eq_zero hacc hfree, ?_⟩
    rw [← hl.wf.dropAccount_eq_erase hacc]
    exact hq.1

theorem delete_account_exact_opened :
    (∀ op ∈ [Op.call (.service (.createAccount "alice" "USD" 0))], op.OfService ∧ op.Sized) ∧
    ∃ t q, (runOps [.call (.service (.createAccount "alice" "USD" 0))]
        { file := .ledger .empty }).Serves t ∧ t.Ledger ∧
      (Service.deleteAccount "alice" 1 : Act Pool LedgerError Account)
          (runOps [.call (.service (.createAccount "alice" "USD" 0))] { file := .ledger .empty }) =
        Act.result (t.deletion "alice" 1) q ∧
      (∀ e, t.deletion "alice" 1 = .error e → q.Serves t) ∧
      (∀ a, t.deletion "alice" 1 = .ok a →
        a.balance = 0 ∧ q.Serves { t with accounts := t.accounts.erase a }) := by
  have hops : ∀ op ∈ [Op.call (.service (.createAccount "alice" "USD" 0))], op.OfService ∧ op.Sized := by
    intro op hop
    rw [List.mem_singleton] at hop
    subst hop
    exact ⟨trivial, by simp only [Op.Sized]; decide⟩
  exact ⟨hops, delete_account_exact _ hops "alice" 1⟩

end DoubleEntry
