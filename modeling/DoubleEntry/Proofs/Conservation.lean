import Mathlib.Algebra.BigOperators.Group.Multiset.Basic
import DoubleEntry.Proofs.Ledger

/-!
# DoubleEntry.Proofs.Conservation

Balances can be rebuilt from the history, and money is only ever moved.

Each account's balance is its opening balance, the amount of its one entry linked to no
transfer, plus what every transfer moved into it (`Tables.History`). This holds of the empty
tables and each service step keeps it, so it holds after every run of service requests. A
transfer takes from one account what it gives to another, both of which have rows, so over
all accounts the transfers move nothing (`Ledger.sum_netTransfers`): the sum of all balances is
the sum of the opening balances (`History.sum_balances`), and a transfer leaves it as it was.

Main statement: `balances_follow_history`.
-/

namespace DoubleEntry

namespace Transfer

/-- The change a transfer makes to an account's balance, as an exact integer: `deltaFor`
without the abort of a 64-bit negation. The source is asked first. -/
def change (x : Transfer) (i : Int) : Int :=
  if x.fromAccount = i then -x.amount else if x.toAccount = i then x.amount else 0

theorem deltaFor_eq_ok {x : Transfer} (h : Signed64.Fits (-x.amount)) (i : Int) :
    x.deltaFor i = .ok (x.change i) := by
  unfold deltaFor change
  by_cases hs : x.fromAccount = i
  · simp [hs, Signed64.neg?, h]
  · by_cases hd : x.toAccount = i <;> simp [hs, hd]

/-- Between two distinct accounts a transfer adds its amount to one and takes it from the
other. -/
theorem change_eq_sub {x : Transfer} (hne : x.fromAccount ≠ x.toAccount) (i : Int) :
    x.change i = (if i = x.toAccount then x.amount else 0) -
      (if i = x.fromAccount then x.amount else 0) := by
  unfold change
  by_cases hs : x.fromAccount = i <;> by_cases hd : x.toAccount = i <;> simp_all <;> omega

end Transfer

namespace Tables

/-- An account's opening balance: the amount of its entry linked to no transfer, zero when
it has none. -/
def openingBalance (t : Tables) (i : Int) : Int :=
  ((t.entries.find? fun e => e.accountId == i && e.transferId == none).map (·.amount)).getD 0

def netTransfers (t : Tables) (i : Int) : Int :=
  (t.transfers.map (·.change i)).sum

/-- Every balance is the account's opening balance plus what the transfers moved into it. -/
def History (t : Tables) : Prop :=
  ∀ a ∈ t.accounts, a.balance = t.openingBalance a.id + t.netTransfers a.id

theorem history_empty : empty.History := by
  simp [History, empty]

/-- Summed over rows with increasing ids, an amount put on the row of one existing id is
that amount. -/
theorem sum_ite_id {l : List Account} (hl : l.Pairwise (·.id < ·.id)) {i : Int}
    (hi : ∃ a ∈ l, a.id = i) (v : Int) : (l.map fun a => if a.id = i then v else 0).sum = v := by
  obtain ⟨a, ha, rfl⟩ := hi
  have hcount : (l.map (·.id)).count a.id = 1 :=
    List.count_eq_one_of_mem (List.pairwise_map.2 (hl.imp Int.ne_of_lt)) (List.mem_map_of_mem ha)
  have h := List.sum_map_ite_eq (l.map (·.id)) (fun _ => v) (fun _ => (0 : Int)) a.id
  simpa [hcount, Function.comp_def] using h

/-- Over all accounts a transfer moves nothing: what it takes from its source it gives to
its destination, and each has exactly one row. -/
theorem sum_change_eq_zero {l : List Account} (hl : l.Pairwise (·.id < ·.id)) {x : Transfer}
    (hne : x.fromAccount ≠ x.toAccount) (hs : ∃ a ∈ l, a.id = x.fromAccount)
    (hd : ∃ a ∈ l, a.id = x.toAccount) : (l.map fun a => x.change a.id).sum = 0 := by
  have hsub := Multiset.sum_map_sub (m := (l : Multiset Account))
    (f := fun a => if a.id = x.toAccount then x.amount else 0)
    (g := fun a => if a.id = x.fromAccount then x.amount else 0)
  simp only [Multiset.map_coe, Multiset.sum_coe] at hsub
  rw [List.map_congr_left fun a _ => Transfer.change_eq_sub hne a.id, hsub, sum_ite_id hl hd,
    sum_ite_id hl hs, sub_self]

/-! ## The accounts of a transfer -/

section Ledger

variable {t : Tables}

theorem Ledger.transfer_entries (h : t.Ledger) {x : Transfer} (hx : x ∈ t.transfers) :
    (∃ e ∈ t.entries, e.accountId = x.fromAccount) ∧ ∃ e ∈ t.entries, e.accountId = x.toAccount := by
  have hp := (h.transfer x hx).2.2
  have hrow : ∀ p ∈ x.postings, ∃ e ∈ t.entries, e.accountId = p.1 := by
    intro p hp'
    rw [← hp] at hp'
    obtain ⟨e, he, rfl⟩ := List.mem_map.1 hp'
    exact ⟨e, (List.mem_filter.1 he).1, rfl⟩
  exact ⟨hrow (x.fromAccount, -x.amount) (by simp [Transfer.postings]),
    hrow (x.toAccount, x.amount) (by simp [Transfer.postings])⟩

theorem Ledger.transfer_accounts (h : t.Ledger) {x : Transfer} (hx : x ∈ t.transfers) :
    (∃ a ∈ t.accounts, a.id = x.fromAccount) ∧ ∃ a ∈ t.accounts, a.id = x.toAccount := by
  obtain ⟨⟨e, he, hs⟩, ⟨e', he', hd⟩⟩ := h.transfer_entries hx
  exact ⟨hs ▸ h.account e he, hd ▸ h.account e' he'⟩

theorem Ledger.transfer_accounts_le (h : t.Ledger) {x : Transfer} (hx : x ∈ t.transfers) :
    x.fromAccount ≤ t.accountSeq ∧ x.toAccount ≤ t.accountSeq := by
  obtain ⟨⟨a, ha, hai⟩, ⟨b, hb, hbi⟩⟩ := h.transfer_accounts hx
  exact ⟨hai ▸ h.wf.accountSeq a ha, hbi ▸ h.wf.accountSeq b hb⟩

/-- Summed over all accounts, the transfers move nothing. -/
theorem Ledger.sum_netTransfers (h : t.Ledger) :
    (t.accounts.map fun a => t.netTransfers a.id).sum = 0 := by
  unfold netTransfers
  -- exchange the two sums: first over the accounts, for each transfer
  have hswap := Multiset.sum_map_sum_map (t.accounts : Multiset Account)
    (t.transfers : Multiset Transfer) (f := fun a x => x.change a.id)
  simp only [Multiset.map_coe, Multiset.sum_coe] at hswap
  rw [hswap]
  refine List.sum_eq_zero fun d hd => ?_
  obtain ⟨x, hx, rfl⟩ := List.mem_map.1 hd
  obtain ⟨hs, hdst⟩ := h.transfer_accounts hx
  exact sum_change_eq_zero h.wf.accounts (h.transfer x hx).2.1 hs hdst

end Ledger

/-! ## The history under each step -/

/-- The entries a transfer writes are linked to it, so no opening balance moves. -/
@[simp] theorem openingBalance_withTransfer (t : Tables) (src dst amount i : Int) :
    (t.withTransfer src dst amount).openingBalance i = t.openingBalance i := by
  simp [openingBalance, List.find?_append]

@[simp] theorem netTransfers_withTransfer (t : Tables) (src dst amount i : Int) :
    (t.withTransfer src dst amount).netTransfers i =
      t.netTransfers i + (Transfer.change ⟨t.transferSeq + 1, src, dst, amount⟩ i) := by
  simp [netTransfers]

@[simp] theorem netTransfers_withAccount (t : Tables) (owner : String) (currency : Currency)
    (b i : Int) : (t.withAccount owner currency b).netTransfers i = t.netTransfers i := by
  simp [netTransfers]

@[simp] theorem openingBalance_dropAccount (t : Tables) (id i : Int) :
    (t.dropAccount id).openingBalance i = t.openingBalance i := rfl

@[simp] theorem netTransfers_dropAccount (t : Tables) (id i : Int) :
    (t.dropAccount id).netTransfers i = t.netTransfers i := rfl

theorem sum_postedTo {src dst : Int} (hne : src ≠ dst) (n amount i : Int) :
    (postedTo src dst amount i).sum = Transfer.change ⟨n, src, dst, amount⟩ i := by
  unfold postedTo Transfer.change
  by_cases hs : src = i <;> by_cases hd : dst = i <;> simp_all

theorem openingBalance_withAccount_of_ne (t : Tables) (owner : String) (currency : Currency)
    (b : Int) {i : Int} (hi : i ≠ t.accountSeq + 1) :
    (t.withAccount owner currency b).openingBalance i = t.openingBalance i := by
  unfold openingBalance
  rw [withAccount_entries, List.find?_append]
  split <;> simp [Ne.symm hi]

section Ledger

variable {t : Tables}

/-- A new account opened with `b` has `b` as its opening balance: no older entry names it, and
its opening entry is booked exactly when `b` is positive. -/
theorem Ledger.openingBalance_withAccount_next (h : t.Ledger) (owner : String)
    (currency : Currency) {b : Int} (hb : 0 ≤ b) :
    (t.withAccount owner currency b).openingBalance (t.accountSeq + 1) = b := by
  have hold : t.entries.find? (fun e => e.accountId == t.accountSeq + 1 && e.transferId == none) =
      none := by
    rw [List.find?_eq_none]
    intro e he
    have := h.entry_account_le he
    simp only [Bool.and_eq_true, beq_iff_eq, not_and]
    omega
  unfold openingBalance
  rw [withAccount_entries, List.find?_append, hold, Option.none_or]
  split
  · simp
  · simp only [List.find?_nil, Option.map_none, Option.getD_none]
    omega

theorem Ledger.netTransfers_next (h : t.Ledger) : t.netTransfers (t.accountSeq + 1) = 0 := by
  refine List.sum_eq_zero fun d hd => ?_
  obtain ⟨x, hx, rfl⟩ := List.mem_map.1 hd
  have hle := h.transfer_accounts_le hx
  simp only [Transfer.change]
  split_ifs <;> omega

theorem History.withTransfer (hh : t.History) {src dst amount : Int} (hA : t.Admits src dst amount) :
    (t.withTransfer src dst amount).History := by
  intro a ha
  obtain ⟨a₀, ha₀, hid, hbal⟩ := mem_withTransfer_accounts ha
  rw [hbal, hid, hh a₀ ha₀, sum_postedTo hA.ne (t.transferSeq + 1), openingBalance_withTransfer,
    netTransfers_withTransfer, Int.add_assoc]

theorem History.withAccount (h : t.Ledger) (hh : t.History) (owner : String) (currency : Currency)
    {b : Int} (hb : 0 ≤ b) : (t.withAccount owner currency b).History := by
  intro a ha
  rw [withAccount_accounts, List.mem_append, List.mem_singleton] at ha
  rcases ha with ha | rfl
  · have hle := h.wf.accountSeq a ha
    rw [openingBalance_withAccount_of_ne _ _ _ _ (by omega), netTransfers_withAccount]
    exact hh a ha
  · rw [h.openingBalance_withAccount_next owner currency hb, netTransfers_withAccount,
      h.netTransfers_next, Int.add_zero]

theorem History.dropAccount (hh : t.History) (id : Int) : (t.dropAccount id).History :=
  fun a ha => hh a (List.mem_filter.1 ha).1

theorem History.serviceStep (h : t.Ledger) (hh : t.History) {t' : Tables} (hs : ServiceStep t t') :
    t'.History := by
  cases hs with
  | keep => exact hh
  | openAccount owner currency hb _ => exact hh.withAccount h owner currency hb
  | transfer hA => exact hh.withTransfer hA
  | delete _ => exact hh.dropAccount _

theorem History.of_steps (h : t.Ledger) (hh : t.History) {t' : Tables}
    (hr : Relation.ReflTransGen ServiceStep t t') : t'.History := by
  induction hr with
  | refl => exact hh
  | tail hr' step ih => exact ih.serviceStep (h.of_steps hr') step

/-! ## Totals -/

/-- The sum of all balances is the sum of the opening balances. -/
theorem History.sum_balances (h : t.Ledger) (hh : t.History) :
    (t.accounts.map (·.balance)).sum = (t.accounts.map fun a => t.openingBalance a.id).sum := by
  calc (t.accounts.map (·.balance)).sum
      = (t.accounts.map fun a => t.openingBalance a.id + t.netTransfers a.id).sum :=
        congrArg List.sum (List.map_congr_left hh)
    _ = (t.accounts.map fun a => t.openingBalance a.id).sum +
          (t.accounts.map fun a => t.netTransfers a.id).sum := List.sum_map_add
    _ = (t.accounts.map fun a => t.openingBalance a.id).sum := by
        rw [h.sum_netTransfers, Int.add_zero]

theorem openingBalances_withTransfer (t : Tables) (src dst amount : Int) :
    ((t.withTransfer src dst amount).accounts.map fun a =>
      (t.withTransfer src dst amount).openingBalance a.id) =
      t.accounts.map fun a => t.openingBalance a.id := by
  have hids := congrArg (List.map t.openingBalance) (withTransfer_ids t src dst amount)
  simpa only [openingBalance_withTransfer, List.map_map, Function.comp_def] using hids

/-- A transfer the tables admit leaves the sum of all balances as it was. -/
theorem Ledger.sum_balances_withTransfer (h : t.Ledger) (hh : t.History) {src dst amount : Int}
    (hA : t.Admits src dst amount) :
    ((t.withTransfer src dst amount).accounts.map (·.balance)).sum = (t.accounts.map (·.balance)).sum := by
  rw [(hh.withTransfer hA).sum_balances (h.withTransfer hA), openingBalances_withTransfer,
    hh.sum_balances h]

end Ledger

end Tables

/-- Balances are their history, and money is conserved. After every run of service requests
from the empty schema, each account's balance is its opening balance plus the change
`Transfer.deltaFor` gives for it, summed over all transfers (none of which aborts); so the
sum of all balances is the sum of the opening balances, and a transfer request that succeeds
next leaves that sum as it was. -/
theorem balances_follow_history (ops : List Op) (hops : ∀ op ∈ ops, op.OfService ∧ op.Sized) :
    ∃ t, (runOps ops { file := .ledger .empty }).Serves t ∧
      (∀ a ∈ t.accounts, ∃ ds, t.transfers.mapM (·.deltaFor a.id) = .ok ds ∧
        a.balance = t.openingBalance a.id + ds.sum) ∧
      (t.accounts.map (·.balance)).sum = (t.accounts.map fun a => t.openingBalance a.id).sum ∧
      ∀ (principal : String) (src dst amount : Int) (currency : Currency) (x : Transfer) (q : Pool),
        Signed64.Fits amount →
        (Service.createTransfer principal src dst amount currency : Act Pool LedgerError Transfer)
          (runOps ops { file := .ledger .empty }) = .ok x q →
        ∃ t', q.Serves t' ∧ (t'.accounts.map (·.balance)).sum = (t.accounts.map (·.balance)).sum := by
  obtain ⟨t, hserves, -, hsteps⟩ := runOps_from_empty fun op hop =>
    Op.run_evolves_service (hops op hop).2 (hops op hop).1
  have hl := Tables.ledger_empty.of_steps hsteps
  have hh := Tables.history_empty.of_steps Tables.ledger_empty hsteps
  refine ⟨t, hserves, fun a ha => ?_, hh.sum_balances hl, ?_⟩
  · refine ⟨_, mapM_except_ok fun x hx => Transfer.deltaFor_eq_ok ?_ a.id, hh a ha⟩
    exact Signed64.fits_neg (hl.amounts x hx) (hl.transfer x hx).1
  · intro principal src dst amount currency x q hfit e
    have hA := Pool.createTransfer_admits hserves hfit e
    have hq := Pool.createTransfer_effect hserves hl.wf principal src dst amount currency hfit
    rw [e] at hq
    exact ⟨_, hq.2, hl.sum_balances_withTransfer hh hA⟩

theorem balances_follow_history_opened :
    ∃ t, (runOps [.call (.service (.createAccount "alice" "USD" 10)),
        .call (.service (.createAccount "bob" "USD" 0)),
        .call (.service (.createTransfer "alice" 1 2 5 "USD"))]
        { file := .ledger .empty }).Serves t ∧
      (∀ a ∈ t.accounts, ∃ ds, t.transfers.mapM (·.deltaFor a.id) = .ok ds ∧
        a.balance = t.openingBalance a.id + ds.sum) ∧
      (t.accounts.map (·.balance)).sum = (t.accounts.map fun a => t.openingBalance a.id).sum ∧
      ∀ (principal : String) (src dst amount : Int) (currency : Currency) (x : Transfer) (q : Pool),
        Signed64.Fits amount →
        (Service.createTransfer principal src dst amount currency : Act Pool LedgerError Transfer)
          (runOps [.call (.service (.createAccount "alice" "USD" 10)),
            .call (.service (.createAccount "bob" "USD" 0)),
            .call (.service (.createTransfer "alice" 1 2 5 "USD"))]
            { file := .ledger .empty }) = .ok x q →
        ∃ t', q.Serves t' ∧ (t'.accounts.map (·.balance)).sum = (t.accounts.map (·.balance)).sum := by
  refine balances_follow_history _ fun op hop => ?_
  simp only [List.mem_cons, List.not_mem_nil, or_false] at hop
  rcases hop with rfl | rfl | rfl <;> refine ⟨trivial, ?_⟩ <;> simp only [Op.Sized] <;> decide

end DoubleEntry
