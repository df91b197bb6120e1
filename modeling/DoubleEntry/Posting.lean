import DoubleEntry.Entry
import DoubleEntry.Transfer

/-!
# DoubleEntry.Posting

The double-entry rule. A transfer of `amount` from `src` to `dst` is carried by two
postings: `-amount` on `src` (the debit) and `+amount` on `dst` (the credit). Balances are
updated lower account id first, so that any two transfers over one pair of accounts touch
them in the same order. `verifyEntries` decides whether the stored entries of a transfer
are exactly its two postings, and says which check failed first when they are not.

Main statements: `balanceUpdates_perm` (the updates are the postings, reordered) and
`orderedPair_fst_le` (the pair comes lower first).
-/

namespace DoubleEntry

/-- A signed change of one account's balance. -/
structure Posting where
  accountId : Int
  delta : Int
  deriving DecidableEq, Repr

def orderedPair (a b : Int) : Int × Int :=
  if a ≤ b then (a, b) else (b, a)

/-- The debit and the credit of a transfer; a debit of the least 64-bit amount aborts. -/
def transferPostings (src dst amount : Int) : Except Abort (Posting × Posting) :=
  match Signed64.neg? amount with
  | some d => .ok (⟨src, d⟩, ⟨dst, amount⟩)
  | none => .error .negateOverflow

/-- The postings of a transfer in the order balances are updated: the lower account id
first, and the debit first when both sides name one account. -/
def balanceUpdates (src dst amount : Int) : Except Abort (Posting × Posting) :=
  (transferPostings src dst amount).map fun (debit, credit) =>
    if (orderedPair src dst).1 = src then (debit, credit) else (credit, debit)

/-- Why the entries of a transfer are not its two postings. -/
inductive EntryFault where
  | count (n : Nat)
  | unbalanced (sum : Int)
  | missing (delta account : Int)
  deriving DecidableEq, Repr

/-- The sentence that explains an entry fault. -/
def EntryFault.reason : EntryFault → String
  | .count n => s!"has {n} entries, expected 2"
  | .unbalanced s => s!"entries sum to {s}, expected 0"
  | .missing d a => s!"missing entry of {d} on account {a}"

def carries (es : List Entry) (p : Posting) : Bool :=
  es.any fun e => e.accountId == p.accountId && e.amount == p.delta

/-- Checks, in order, that a transfer has two entries, that their amounts cancel, and that
the debit and then the credit are among them. `none` means the entries are right. Adding
two amounts that leave the 64-bit range aborts, and so does the debit of the least amount. -/
def verifyEntries (t : Transfer) (es : List Entry) : Except Abort (Option EntryFault) :=
  match es with
  | [e₁, e₂] =>
    match Signed64.add? e₁.amount e₂.amount with
    | none => .error .addOverflow
    | some s =>
      if s ≠ 0 then .ok (some (.unbalanced s))
      else
        (transferPostings t.fromAccount t.toAccount t.amount).map fun (debit, credit) =>
          if !carries es debit then some (.missing debit.delta debit.accountId)
          else if !carries es credit then some (.missing credit.delta credit.accountId)
          else none
  | _ => .ok (some (.count es.length))

theorem orderedPair_fst_le (a b : Int) : (orderedPair a b).1 ≤ (orderedPair a b).2 := by
  unfold orderedPair
  split <;> simp <;> omega

theorem balanceUpdates_perm {src dst amount : Int} {d c : Posting}
    (h : transferPostings src dst amount = .ok (d, c)) :
    balanceUpdates src dst amount = .ok (if src ≤ dst then (d, c) else (c, d)) := by
  unfold balanceUpdates orderedPair
  rw [h]
  by_cases hle : src ≤ dst
  · simp [hle, Except.map]
  · have : dst ≠ src := by omega
    simp [hle, this, Except.map]

end DoubleEntry
