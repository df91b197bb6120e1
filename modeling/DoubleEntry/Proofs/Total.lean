import DoubleEntry.Proofs.Conservation

/-!
# DoubleEntry.Proofs.Total

The total balance that the integrity report gives.

The report adds the balances from zero in account order, clamping each partial sum to the
64-bit range. That is the exact sum as long as no partial sum leaves the range
(`totalBalance_of_prefixes_fit`). It is not the exact sum whenever it fits: clamping is not
associative, so a partial sum past the range loses what a later negative balance would bring
back. Balances of `max`, `1` and `-1` sum to `max`, but the report gives `max - 1`
(`total_balance_clamps_partial_sum`). A ledger reaches such balances without any fault, since
transfers may overdraw an account.

On every state the service reaches, the sum of the balances is the sum of the opening
balances. So when no partial sum leaves the range, the integrity check reports that sum.

Main statement: `total_balance_exact_unless_clamped`.
-/

namespace DoubleEntry

/-- A left fold of the clamped addition is the exact sum while no partial sum, from the start
value, leaves the range. -/
theorem foldl_addSat_of_fits (bs : List Int) (acc : Int)
    (h : ∀ n, Signed64.Fits (acc + (bs.take n).sum)) :
    bs.foldl Signed64.addSat acc = acc + bs.sum := by
  induction bs generalizing acc with
  | nil => simp
  | cons b bs ih =>
    have hb : Signed64.Fits (acc + b) := by simpa using h 1
    have hrest : ∀ n, Signed64.Fits (acc + b + (bs.take n).sum) := fun n => by
      simpa [Int.add_assoc] using h (n + 1)
    rw [List.foldl_cons, Signed64.addSat_of_fits hb, ih (acc + b) hrest, List.sum_cons,
      Int.add_assoc]

theorem totalBalance_eq_foldl (accounts : List Account) :
    totalBalance accounts = (accounts.map (·.balance)).foldl Signed64.addSat 0 := by
  rw [totalBalance, List.foldl_map]

/-- The reported total is the exact sum of the balances when every partial sum, in account
order, is a 64-bit integer. -/
theorem totalBalance_of_prefixes_fit (accounts : List Account)
    (h : ∀ k, Signed64.Fits ((accounts.take k).map (·.balance)).sum) :
    totalBalance accounts = (accounts.map (·.balance)).sum := by
  rw [totalBalance_eq_foldl, foldl_addSat_of_fits _ 0 fun n => by simpa [List.map_take] using h n,
    Int.zero_add]

theorem buildReport_totalBalance {accounts : List Account} {totals : List (Int × Int)}
    {transfers : List (Transfer × List Entry)} {n : Nat} {r : Report}
    (h : buildReport accounts totals transfers n = .ok r) : r.totalBalance = totalBalance accounts := by
  unfold buildReport at h
  cases hti : transferIssues transfers with
  | error a =>
    rw [hti] at h
    cases h
  | ok tissues =>
    rw [hti] at h
    cases h
    rfl

/-- The total balance the integrity report gives, for a list of accounts whose partial sums of
balances, in account order, are all 64-bit integers: every report built over them gives the
exact sum of their balances; and when they are the accounts of a state the ledger service
reaches from the empty schema, the integrity check answers, and its total is the sum of the
opening balances. -/
theorem total_balance_exact_unless_clamped (accounts : List Account)
    (hfit : ∀ k, Signed64.Fits ((accounts.take k).map (·.balance)).sum) :
    (∀ totals transfers n r, buildReport accounts totals transfers n = .ok r →
      r.totalBalance = (accounts.map (·.balance)).sum) ∧
    ∀ ops : List Op, (∀ op ∈ ops, op.OfService ∧ op.Sized) →
      ∀ t, (runOps ops { file := .ledger .empty }).Serves t → t.accounts = accounts →
        ∃ r q, Service.checkIntegrity (runOps ops { file := .ledger .empty }) = .ok r q ∧
          r.totalBalance = (t.accounts.map fun a => t.openingBalance a.id).sum := by
  refine ⟨fun totals transfers n r hr => ?_, fun ops hops t hserves hacc => ?_⟩
  · rw [buildReport_totalBalance hr, totalBalance_of_prefixes_fit accounts hfit]
  · obtain ⟨t', hserves', -, hsteps⟩ := runOps_from_empty fun op hop =>
      Op.run_evolves_service (hops op hop).2 (hops op hop).1
    obtain rfl : t = t' := DbFile.ledger.inj (hserves.file.symm.trans hserves'.file)
    have hl := Tables.ledger_empty.of_steps hsteps
    have hh := Tables.history_empty.of_steps Tables.ledger_empty hsteps
    obtain ⟨q, hq⟩ := hl.checkIntegrity_clean hserves
    refine ⟨_, q, hq, ?_⟩
    subst hacc
    calc totalBalance t.accounts
        = (t.accounts.map (·.balance)).sum := totalBalance_of_prefixes_fit t.accounts hfit
      _ = (t.accounts.map fun a => t.openingBalance a.id).sum := hh.sum_balances hl

/-- Three accounts whose partial sums of balances are 70, 50 and the largest 64-bit integer: one
of them overdrawn, and every partial sum in range. -/
def fittingAccounts : List Account :=
  [⟨1, "alice", 70, .usd⟩, ⟨2, "bob", -20, .usd⟩, ⟨3, "carol", Signed64.max - 50, .usd⟩]

theorem total_balance_exact_unless_clamped_fitting :
    (∀ k, Signed64.Fits ((fittingAccounts.take k).map (·.balance)).sum) ∧
    ((∀ totals transfers n r, buildReport fittingAccounts totals transfers n = .ok r →
      r.totalBalance = (fittingAccounts.map (·.balance)).sum) ∧
    ∀ ops : List Op, (∀ op ∈ ops, op.OfService ∧ op.Sized) →
      ∀ t, (runOps ops { file := .ledger .empty }).Serves t → t.accounts = fittingAccounts →
        ∃ r q, Service.checkIntegrity (runOps ops { file := .ledger .empty }) = .ok r q ∧
          r.totalBalance = (t.accounts.map fun a => t.openingBalance a.id).sum) := by
  have hfit : ∀ k, Signed64.Fits ((fittingAccounts.take k).map (·.balance)).sum := by
    intro k
    rcases k with _ | _ | _ | k <;> simp [fittingAccounts] <;> decide
  exact ⟨hfit, total_balance_exact_unless_clamped _ hfit⟩

/-- Balances of `max`, `1` and `-1`, in that order, sum to `max`, which fits; the report
clamps the partial sum `max + 1` and gives `max - 1`. -/
theorem total_balance_clamps_partial_sum :
    (([⟨1, "a", Signed64.max, .usd⟩, ⟨2, "b", 1, .usd⟩, ⟨3, "c", -1, .usd⟩] : List Account).map
        (·.balance)).sum = Signed64.max ∧
      (buildReport [⟨1, "a", Signed64.max, .usd⟩, ⟨2, "b", 1, .usd⟩, ⟨3, "c", -1, .usd⟩]
        [(1, Signed64.max), (2, 1), (3, -1)] [] 3).map (·.totalBalance) = .ok (Signed64.max - 1) := by
  decide

end DoubleEntry
