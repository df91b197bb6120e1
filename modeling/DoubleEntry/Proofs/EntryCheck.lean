import DoubleEntry.Proofs.Report

/-!
# DoubleEntry.Proofs.EntryCheck

What the check of a transfer's entries decides, for every transfer and every list of entries.

`verifyEntries` never compares lists up to order: it matches two entries, adds their two
amounts, and looks for the debit and then the credit with `any`. `entryVerdict` makes the same
checks, in the same order, on the list as a whole: its length, the sum of its amounts, and
whether each posting is among its pairs of account and amount. The two agree whenever the debit
can be negated (`verifyEntries_eq_entryVerdict`).

Between two distinct accounts the debit and the credit are distinct pairs, so two entries that
hold both are exactly the two, and the sum check, which always passes then, never decides
acceptance: the check passes exactly when the entries are, up to order, the transfer's two
postings (`entryVerdict_eq_none_iff`). It aborts exactly when there are two entries whose
amounts add up past the 64-bit range (`entryVerdict_aborts_iff`).

Main statement: `entry_check_decides_postings`.
-/

namespace DoubleEntry

/-- The checks of a transfer's entries said of the list, each with the fault it reports: two
entries, amounts that sum to zero (a sum past the 64-bit range aborts), then the debit and the
credit among the pairs of account and amount. -/
def entryVerdict (x : Transfer) (es : List Entry) : Except Abort (Option EntryFault) :=
  let pairs := es.map fun e => (e.accountId, e.amount)
  let sum := (es.map (·.amount)).sum
  if es.length ≠ 2 then .ok (some (.count es.length))
  else if ¬ Signed64.Fits sum then .error .addOverflow
  else if sum ≠ 0 then .ok (some (.unbalanced sum))
  else if (x.fromAccount, -x.amount) ∉ pairs then .ok (some (.missing (-x.amount) x.fromAccount))
  else if (x.toAccount, x.amount) ∉ pairs then .ok (some (.missing x.amount x.toAccount))
  else .ok none

theorem carries_iff_mem (es : List Entry) (p : Posting) :
    carries es p = true ↔ (p.accountId, p.delta) ∈ es.map fun e => (e.accountId, e.amount) := by
  simp [carries, Prod.ext_iff]

theorem carries_eq_decide (es : List Entry) (p : Posting) :
    carries es p = decide ((p.accountId, p.delta) ∈ es.map fun e => (e.accountId, e.amount)) := by
  rw [Bool.eq_iff_iff, carries_iff_mem, decide_eq_true_iff]

section

variable {x : Transfer}

theorem verifyEntries_eq_entryVerdict (hneg : Signed64.Fits (-x.amount)) (es : List Entry) :
    verifyEntries x es = entryVerdict x es := by
  by_cases hl : es.length = 2
  swap
  · rw [verifyEntries_count hl]
    simp [entryVerdict, hl]
  obtain ⟨e₁, e₂, rfl⟩ := List.length_eq_two.1 hl
  have hsum : ([e₁, e₂].map (·.amount)).sum = e₁.amount + e₂.amount := by simp
  unfold verifyEntries entryVerdict
  simp only [hsum, hl, ne_eq, not_true_eq_false, if_false]
  by_cases hs : Signed64.Fits (e₁.amount + e₂.amount)
  swap
  · rw [show Signed64.add? e₁.amount e₂.amount = none from if_neg hs]
    simp [hs]
  rw [show Signed64.add? e₁.amount e₂.amount = some (e₁.amount + e₂.amount) from if_pos hs,
    transferPostings_of_fits hneg]
  simp only [Except.map, carries_eq_decide, hs, not_true_eq_false, ↓reduceIte]
  by_cases h0 : e₁.amount + e₂.amount = 0
  swap
  · simp only [h0, not_false_eq_true, ↓reduceIte]
  simp only [h0, not_true_eq_false, ↓reduceIte]
  by_cases hd : (x.fromAccount, -x.amount) ∈ [e₁, e₂].map fun e => (e.accountId, e.amount) <;>
    by_cases hc : (x.toAccount, x.amount) ∈ [e₁, e₂].map fun e => (e.accountId, e.amount) <;>
    simp only [hd, hc, decide_true, decide_false, Bool.not_true, Bool.not_false, Bool.false_eq_true,
      not_true_eq_false, not_false_eq_true, ↓reduceIte]

/-- The verdict finds nothing exactly when there are two entries, their amounts sum to zero,
and the debit and the credit are among their pairs. -/
theorem entryVerdict_eq_none_iff_checks (es : List Entry) :
    entryVerdict x es = .ok none ↔ es.length = 2 ∧ (es.map (·.amount)).sum = 0 ∧
      (x.fromAccount, -x.amount) ∈ es.map (fun e => (e.accountId, e.amount)) ∧
      (x.toAccount, x.amount) ∈ es.map (fun e => (e.accountId, e.amount)) := by
  unfold entryVerdict
  dsimp only
  by_cases hl : es.length = 2
  swap
  · simp [hl]
  by_cases h0 : (es.map (·.amount)).sum = 0
  swap
  · by_cases hs : Signed64.Fits (es.map (·.amount)).sum <;> simp [hl, h0, hs]
  have hs : Signed64.Fits (es.map (·.amount)).sum := by rw [h0]; decide
  simp only [hl, h0, ne_eq, not_true_eq_false, if_false, true_and]
  split_ifs <;> simp_all

theorem entryVerdict_eq_none_iff (hne : x.fromAccount ≠ x.toAccount) (es : List Entry) :
    entryVerdict x es = .ok none ↔ (es.map fun e => (e.accountId, e.amount)).Perm x.postings := by
  have hdc : ((x.fromAccount, -x.amount) : Int × Int) ≠ (x.toAccount, x.amount) := by
    simp [hne]
  rw [entryVerdict_eq_none_iff_checks]
  by_cases hl : es.length = 2
  swap
  · simp only [hl, false_and, false_iff]
    exact not_perm_postings (by simpa using hl) x
  obtain ⟨e₁, e₂, rfl⟩ := List.length_eq_two.1 hl
  simp only [List.map_cons, List.map_nil, Transfer.postings]
  rw [perm_pair_iff hdc]
  simp only [List.mem_cons, List.not_mem_nil, or_false, eq_comm (b := ((x.fromAccount, -x.amount) : Int × Int)),
    eq_comm (b := ((x.toAccount, x.amount) : Int × Int))]
  constructor
  · rintro ⟨-, -, hd, hc⟩
    exact ⟨hd, hc⟩
  · -- the debit and the credit sit on different entries, so the amounts cancel
    rintro ⟨hd, hc⟩
    refine ⟨rfl, ?_, hd, hc⟩
    rcases hd with hd | hd <;> rcases hc with hc | hc
    · exact absurd (hd.trans hc.symm) hdc
    · simp only [Prod.mk.injEq] at hd hc
      simp [← hd.2, ← hc.2]
    · simp only [Prod.mk.injEq] at hd hc
      simp [← hd.2, ← hc.2]
    · exact absurd (hd.trans hc.symm) hdc

/-- The verdict aborts exactly on two entries whose amounts add up past the 64-bit range. -/
theorem entryVerdict_aborts_iff (es : List Entry) :
    (∃ a, entryVerdict x es = .error a) ↔
      ∃ e₁ e₂, es = [e₁, e₂] ∧ ¬ Signed64.Fits (e₁.amount + e₂.amount) := by
  by_cases hl : es.length = 2
  swap
  · have hno : ¬ ∃ e₁ e₂, es = [e₁, e₂] := by
      rintro ⟨e₁, e₂, rfl⟩
      exact hl rfl
    simp only [entryVerdict, hl, ne_eq, not_false_eq_true, if_true, reduceCtorEq, exists_false,
      false_iff]
    exact fun ⟨e₁, e₂, h, _⟩ => hno ⟨e₁, e₂, h⟩
  obtain ⟨e₁, e₂, rfl⟩ := List.length_eq_two.1 hl
  have hsum : ([e₁, e₂].map (·.amount)).sum = e₁.amount + e₂.amount := by simp
  unfold entryVerdict
  simp only [hsum, hl]
  split_ifs <;> simp_all

end

/-- The check of a transfer's entries, for a transfer between two distinct accounts whose
amount is a 64-bit integer other than the least, and for every list of entries: it makes its
checks in order, reporting the first that fails (the count of entries, then the sum of their
amounts, then the debit before the credit); it finds nothing exactly when the entries, as
pairs of account and amount, are the transfer's debit and credit in some order; and it aborts
exactly when there are two entries whose amounts add up past the 64-bit range. -/
theorem entry_check_decides_postings {x : Transfer} (hne : x.fromAccount ≠ x.toAccount)
    (hfit : Signed64.Fits x.amount) (hmin : x.amount ≠ Signed64.min) (es : List Entry) :
    verifyEntries x es = entryVerdict x es ∧
      (verifyEntries x es = .ok none ↔ (es.map fun e => (e.accountId, e.amount)).Perm x.postings) ∧
      ((∃ a, verifyEntries x es = .error a) ↔
        ∃ e₁ e₂, es = [e₁, e₂] ∧ ¬ Signed64.Fits (e₁.amount + e₂.amount)) := by
  -- only the least amount has no negation
  have hneg : Signed64.Fits (-x.amount) := by
    unfold Signed64.Fits Signed64.min Signed64.max at *
    omega
  rw [verifyEntries_eq_entryVerdict hneg]
  exact ⟨rfl, entryVerdict_eq_none_iff hne es, entryVerdict_aborts_iff es⟩

theorem entry_check_decides_postings_paid :
    (1 : Int) ≠ 2 ∧ Signed64.Fits 500 ∧ (500 : Int) ≠ Signed64.min ∧
      (verifyEntries ⟨1, 1, 2, 500⟩ [⟨1, 1, -500, some 1⟩, ⟨2, 2, 500, some 1⟩] =
          entryVerdict ⟨1, 1, 2, 500⟩ [⟨1, 1, -500, some 1⟩, ⟨2, 2, 500, some 1⟩] ∧
        (verifyEntries ⟨1, 1, 2, 500⟩ [⟨1, 1, -500, some 1⟩, ⟨2, 2, 500, some 1⟩] = .ok none ↔
          ([⟨1, 1, -500, some 1⟩, ⟨2, 2, 500, some 1⟩].map fun (e : Entry) => (e.accountId, e.amount)).Perm
            (⟨1, 1, 2, 500⟩ : Transfer).postings) ∧
        ((∃ a, verifyEntries ⟨1, 1, 2, 500⟩ [⟨1, 1, -500, some 1⟩, ⟨2, 2, 500, some 1⟩] = .error a) ↔
          ∃ e₁ e₂ : Entry, [⟨1, 1, -500, some 1⟩, ⟨2, 2, 500, some 1⟩] = [e₁, e₂] ∧
            ¬ Signed64.Fits (e₁.amount + e₂.amount))) :=
  ⟨by decide, by decide, by decide,
    entry_check_decides_postings (x := ⟨1, 1, 2, 500⟩) (by decide) (by decide) (by decide) _⟩

end DoubleEntry
