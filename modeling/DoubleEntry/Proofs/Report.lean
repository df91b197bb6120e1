import Mathlib.Algebra.Group.Nat.Defs
import Mathlib.Algebra.Ring.Int.Defs
import Mathlib.Data.List.Permutation
import Mathlib.Data.List.Forall2
import DoubleEntry.Proofs.Runs

/-!
# DoubleEntry.Proofs.Report

What the integrity check reports on a pool serving tables `t`.

The engine's sums are exact when no partial sum leaves the 64-bit range
(`runningSum_of_fits`); then the table of sums gives every account the sum of its entries,
zero for an account without any (`sumFor_entryTotals`), and no account is unknown when every
entry names an account (`unknownAccounts_eq_nil`). The entries linked to a transfer pass
`verifyEntries` exactly when, as pairs of account and amount, they are a permutation of its
two postings (`verifyEntries_spec`), so the transfer issues are one per transfer that is not
carried, in the order of the transfers (`transferIssues_linked`). `checkIntegrity_run`
assembles the report.
-/

namespace DoubleEntry

namespace Tables

def amountsOf (t : Tables) (account : Int) : List Int :=
  (t.entries.filter (·.accountId == account)).map (·.amount)

def postingsOf (t : Tables) (transfer : Int) : List (Int × Int) :=
  (t.entries.filter (·.transferId == some transfer)).map fun e => (e.accountId, e.amount)

end Tables

/-- The two postings of a transfer as pairs of account and amount: the debit, then the
credit. -/
def Transfer.postings (x : Transfer) : List (Int × Int) :=
  [(x.fromAccount, -x.amount), (x.toAccount, x.amount)]

/-- A transfer is carried by the tables when the entries linked to it are, up to order,
exactly its two postings. -/
def Tables.Carries (t : Tables) (x : Transfer) : Prop :=
  (t.postingsOf x.id).Perm x.postings

instance (t : Tables) (x : Transfer) : Decidable (t.Carries x) :=
  inferInstanceAs (Decidable (List.Perm _ _))

/-! ## The sums of the entries -/

/-- The engine's sum is exact when every partial sum, in order, stays in the range. -/
theorem runningSum_of_fits {xs : List Int} {acc : Int}
    (h : ∀ n, Signed64.Fits (acc + (xs.take n).sum)) :
    Tables.runningSum xs acc = .ok (acc + xs.sum) := by
  induction xs generalizing acc with
  | nil => simp [Tables.runningSum]
  | cons x xs ih =>
    have hx : Signed64.Fits (acc + x) := by simpa using h 1
    have hrest : ∀ n, Signed64.Fits (acc + x + (xs.take n).sum) := fun n => by
      simpa [Int.add_assoc] using h (n + 1)
    rw [Tables.runningSum, Signed64.add?, if_pos hx]
    dsimp only
    rw [ih hrest, List.sum_cons, Int.add_assoc]

theorem mapM_except_ok {α β ε : Type} {f : α → Except ε β} {g : α → β} :
    ∀ {l : List α}, (∀ a ∈ l, f a = .ok (g a)) → l.mapM f = .ok (l.map g)
  | [], _ => rfl
  | a :: l, h => by
    simp only [List.mapM_cons, h a List.mem_cons_self,
      mapM_except_ok fun b hb => h b (List.mem_cons_of_mem a hb), List.map_cons]
    rfl

namespace Tables

variable {t : Tables}

theorem entryTotals_eq (hsum : ∀ i, runningSum (t.amountsOf i) 0 = .ok (t.amountsOf i).sum) :
    t.entryTotals = .ok (t.entryAccounts.map fun i => (i, (t.amountsOf i).sum)) := by
  unfold entryTotals
  refine mapM_except_ok fun i _ => ?_
  rw [show (t.entries.filter (·.accountId == i)).map (·.amount) = t.amountsOf i from rfl, hsum i]
  rfl

theorem mem_entryAccounts {i : Int} : i ∈ t.entryAccounts ↔ ∃ e ∈ t.entries, e.accountId = i := by
  simp [entryAccounts, List.mem_mergeSort, List.mem_eraseDups]

theorem amountsOf_eq_nil {i : Int} (h : i ∉ t.entryAccounts) : t.amountsOf i = [] := by
  rw [mem_entryAccounts] at h
  simp only [amountsOf, List.map_eq_nil_iff, List.filter_eq_nil_iff, beq_iff_eq]
  exact fun e he hi => h ⟨e, he, hi⟩

end Tables

/-- In a table of sums listing each key once with its value, the sum for a key is its value,
and zero for a key it does not list. -/
theorem sumFor_map (l : List Int) (g : Int → Int) (i : Int) :
    sumFor (l.map fun a => (a, g a)) i = if i ∈ l then g i else 0 := by
  unfold sumFor
  rw [← List.map_reverse, List.find?_map]
  cases h : l.reverse.find? ((·.1 == i) ∘ fun a => (a, g a)) with
  | none =>
    have hi : i ∉ l := fun hi => by
      rw [List.find?_eq_none] at h
      simpa using h i (List.mem_reverse.2 hi)
    simp [hi]
  | some j =>
    have hj : j = i := by simpa using List.find?_some h
    have hi : i ∈ l := hj ▸ List.mem_reverse.1 (List.mem_of_find?_eq_some h)
    simp [hi, hj]

theorem sumFor_entryTotals (t : Tables) (i : Int) :
    sumFor (t.entryAccounts.map fun i => (i, (t.amountsOf i).sum)) i = (t.amountsOf i).sum := by
  rw [sumFor_map]
  split
  · rfl
  · rename_i hi
    rw [Tables.amountsOf_eq_nil hi, List.sum_nil]

/-- No account is unknown when every entry names an account. -/
theorem unknownAccounts_eq_nil {t : Tables}
    (h : ∀ e ∈ t.entries, ∃ a ∈ t.accounts, a.id = e.accountId) (g : Int → Int) : unknownAccounts t.accounts (t.entryAccounts.map fun i => (i, g i)) = [] := by
  unfold unknownAccounts
  suffices hf : ((t.entryAccounts.map fun i => (i, g i)).map (·.1)).eraseDups.filter
      (fun i => !t.accounts.any (·.id == i)) = [] by
    dsimp only
    rw [hf, List.mergeSort_nil]
  rw [List.filter_eq_nil_iff]
  intro i hi
  rw [List.mem_eraseDups, List.map_map] at hi
  obtain ⟨e, he, rfl⟩ := Tables.mem_entryAccounts.1 (by simpa using hi)
  obtain ⟨a, ha, hid⟩ := h e he
  have hany : t.accounts.any (·.id == e.accountId) = true :=
    List.any_eq_true.2 ⟨a, ha, by simp [hid]⟩
  simp [hany]

theorem mismatches_entryTotals (t : Tables) :
    mismatches t.accounts (t.entryAccounts.map fun i => (i, (t.amountsOf i).sum)) =
      t.accounts.filterMap fun a =>
        if a.balance ≠ (t.amountsOf a.id).sum then
          some (.balanceMismatch a.id a.balance (t.amountsOf a.id).sum)
        else none := by
  unfold mismatches
  simp only [sumFor_entryTotals]

/-! ## The entries of a transfer -/

/-- Two values are a permutation of two distinct ones exactly when each of these is among
them. -/
theorem perm_pair_iff {α : Type} {p₁ p₂ d c : α} (hdc : d ≠ c) :
    [p₁, p₂].Perm [d, c] ↔ (p₁ = d ∨ p₂ = d) ∧ (p₁ = c ∨ p₂ = c) := by
  rw [List.perm_pair]
  constructor
  · rintro (h | h) <;> simp only [List.cons.injEq, and_true] at h <;> obtain ⟨rfl, rfl⟩ := h <;>
      simp
  · rintro ⟨rfl | rfl, h⟩
    · rcases h with rfl | rfl
      · exact absurd rfl hdc
      · exact .inl rfl
    · rcases h with rfl | rfl
      · exact .inr rfl
      · exact absurd rfl hdc

theorem carries_pair (e₁ e₂ : Entry) (q : Posting) :
    carries [e₁, e₂] q = true ↔
      (e₁.accountId, e₁.amount) = (q.accountId, q.delta) ∨
        (e₂.accountId, e₂.amount) = (q.accountId, q.delta) := by
  simp [carries, Prod.ext_iff]

theorem not_perm_postings {l : List (Int × Int)} (hl : l.length ≠ 2) (x : Transfer) :
    ¬ l.Perm x.postings :=
  fun h => hl (by simpa [Transfer.postings] using h.length_eq)

theorem verifyEntries_count {x : Transfer} {es : List Entry} (hl : es.length ≠ 2) :
    verifyEntries x es = .ok (some (.count es.length)) := by
  unfold verifyEntries
  split
  · simp at hl
  · rfl

/-- On a transfer with a positive 64-bit amount, whose linked entries, when there are two,
add up without overflow, `verifyEntries` answers, and finds nothing exactly when the entries
carry the transfer. -/
theorem verifyEntries_spec {x : Transfer} {es : List Entry} (hpos : 0 < x.amount)
    (hfit : Signed64.Fits x.amount)
    (hpair : ∀ e₁ e₂, es = [e₁, e₂] → Signed64.Fits (e₁.amount + e₂.amount)) :
    ∃ v, verifyEntries x es = .ok v ∧
      (v = none ↔ (es.map fun e => (e.accountId, e.amount)).Perm x.postings) := by
  have hdc : ((x.fromAccount, -x.amount) : Int × Int) ≠ (x.toAccount, x.amount) := by
    simp only [ne_eq, Prod.mk.injEq, not_and]
    intro _
    omega
  by_cases hl : es.length = 2
  swap
  · refine ⟨_, verifyEntries_count hl, ?_⟩
    simp only [reduceCtorEq, false_iff]
    exact not_perm_postings (by simpa using hl) x
  obtain ⟨e₁, e₂, rfl⟩ := List.length_eq_two.1 hl
  have hs := hpair e₁ e₂ rfl
  unfold verifyEntries
  dsimp only
  rw [show Signed64.add? e₁.amount e₂.amount = some (e₁.amount + e₂.amount) from if_pos hs]
  dsimp only
  by_cases h0 : e₁.amount + e₂.amount = 0
  · rw [if_neg (not_not_intro h0), transferPostings_of_fits (Signed64.fits_neg hfit hpos)]
    refine ⟨_, rfl, ?_⟩
    rw [List.map_cons, List.map_cons, List.map_nil, Transfer.postings, perm_pair_iff hdc]
    dsimp only [Except.map]
    have hD := carries_pair e₁ e₂ ⟨x.fromAccount, -x.amount⟩
    have hC := carries_pair e₁ e₂ ⟨x.toAccount, x.amount⟩
    dsimp only at hD hC
    split_ifs with h₁ h₂
    · simp only [false_iff, not_and]
      exact fun h => absurd (hD.2 h) (by simpa using h₁)
    · simp only [false_iff, not_and]
      exact fun _ h => absurd (hC.2 h) (by simpa using h₂)
    · simp only [Bool.not_eq_true', Bool.not_eq_false] at h₁ h₂
      simp only [true_iff]
      exact ⟨hD.1 (by simpa using h₁), hC.1 (by simpa using h₂)⟩
  · rw [if_pos h0]
    refine ⟨_, rfl, ?_⟩
    simp only [reduceCtorEq, false_iff]
    intro hp
    rw [Transfer.postings, List.perm_pair] at hp
    rcases hp with h | h <;>
      simp only [List.map_cons, List.map_nil, List.cons.injEq, Prod.mk.injEq, and_true] at h <;>
      omega

/-- The transfer issues of transfers read with their linked entries: one for each transfer
the entries do not carry, in the order of the transfers, naming it. -/
theorem transferIssues_linked (t : Tables) :
    ∀ {xs : List Transfer}, (∀ x ∈ xs, 0 < x.amount ∧ Signed64.Fits x.amount) →
      (∀ x ∈ xs, ∀ e₁ e₂, t.entries.filter (·.transferId == some x.id) = [e₁, e₂] →
        Signed64.Fits (e₁.amount + e₂.amount)) →
      ∃ tissues, transferIssues (xs.map fun x => (x, t.entries.filter (·.transferId == some x.id))) =
          .ok tissues ∧
        List.Forall₂ (fun x i => ∃ reason, i = .transferEntries x.id reason)
          (xs.filter fun x => !decide (t.Carries x)) tissues
  | [], _, _ => ⟨[], rfl, .nil⟩
  | x :: xs, hx, hpair => by
    obtain ⟨v, hv, hvc⟩ := verifyEntries_spec (x := x) (hx x List.mem_cons_self).1
      (hx x List.mem_cons_self).2 (hpair x List.mem_cons_self)
    obtain ⟨more, hmore, hforall⟩ := transferIssues_linked t
      (fun y hy => hx y (List.mem_cons_of_mem x hy))
      (fun y hy => hpair y (List.mem_cons_of_mem x hy))
    have hcarries : t.Carries x ↔ v = none := hvc.symm
    simp only [List.map_cons, transferIssues, hv, hmore]
    cases v with
    | some f =>
      have hnot : ¬ t.Carries x := by simp [hcarries]
      refine ⟨_, rfl, ?_⟩
      rw [List.filter_cons_of_pos (by simpa using hnot)]
      exact .cons ⟨_, rfl⟩ hforall
    | none =>
      refine ⟨_, rfl, ?_⟩
      rw [List.filter_cons_of_neg (by simpa using hcarries.2 rfl)]
      exact hforall

/-! ## The report -/

/-- The integrity check on a pool serving tables `t`, once the sums of the entries and the
transfer issues are known: the report counts the rows, and lists the balance mismatches, the
unknown accounts and the transfer issues, in that order. -/
theorem checkIntegrity_run {p : Pool} {t : Tables} (hp : p.Serves t) {totals : List (Int × Int)}
    {tissues : List Issue} (ht : t.entryTotals = .ok totals)
    (hti : transferIssues t.linkedEntries = .ok tissues) :
    ∃ q, Service.checkIntegrity p = .ok
      { accountCount := t.accounts.length, transferCount := t.transfers.length,
        entryCount := t.entries.length, totalBalance := totalBalance t.accounts,
        issues := mismatches t.accounts totals ++
          (unknownAccounts t.accounts totals).map Issue.unknownAccount ++ tissues } q := by
  have hs : Pool.snapshot p = .ok ⟨t.accounts, totals, t.entries.length, t.linkedEntries⟩ p := by
    unfold Pool.snapshot
    rw [if_neg (by simp [hp.isOpen]), hp.file]
    dsimp only
    rw [ht]
  have hb : buildReport t.accounts totals t.linkedEntries t.entries.length = .ok
      { accountCount := t.accounts.length, transferCount := t.transfers.length,
        entryCount := t.entries.length, totalBalance := totalBalance t.accounts,
        issues := mismatches t.accounts totals ++
          (unknownAccounts t.accounts totals).map Issue.unknownAccount ++ tissues } := by
    unfold buildReport
    rw [hti]
    simp [Tables.linkedEntries]
  unfold Service.checkIntegrity
  rw [Act.bind_ok (Pool.store_ok hs)]
  dsimp only
  rw [hb, Act.bind_ok (Act.ofExcept_ok _ _)]
  dsimp only
  split
  · exact ⟨_, Act.bind_ok (Pool.note_apply _ _)⟩
  · exact ⟨_, rfl⟩

end DoubleEntry
