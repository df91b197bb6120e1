import DoubleEntry.Proofs.MemoryCalls
import Mathlib.Algebra.Group.Nat.Defs
import Mathlib.Data.List.TakeDrop

/-!
# DoubleEntry.Proofs.Listing

Listing transfers by filter, in both stores.

The pool lists transfers with a statement written in one pass over the filter and bound in a
second. The values reach the placeholders they are meant for because both passes read the
filter's fields in the same order and bind, for each field, as many values as its condition has
placeholders (`Condition.allHold_field`). So under the values bound the conditions are true of a
transfer exactly when the filter admits it (`TransferFilter.allHold_listBinds`), and the page's
limit and offset are the two values after theirs. The statement then answers the transfers the
filter admits, sorted by id, cut to the page when there is one (`TransferFilter.listQuery_run`).

The in-memory store filters its rows in the order it holds them and cuts a listing without a
page at the largest unsigned 32-bit count. On rows in id order, as both stores keep them, it
answers what the pool answers exactly when the filter has a page or fewer than 2^32 transfers
match.

Main statements: `TransferFilter.listQuery_run`, `MemoryStore.listTransfers_agree`.
-/

namespace DoubleEntry

namespace Condition

variable {row : Transfer}

theorem holds_append (c : Condition) {vs : List Int} (ws : List Int) (h : c.arity ≤ vs.length) :
    c.holds row (vs ++ ws) = c.holds row vs := by
  induction c generalizing vs with
  | eq col =>
    cases vs with
    | nil => simp [arity] at h
    | cons v vs => rfl
  | or p q ihp ihq =>
    have hp : p.arity ≤ vs.length := by
      simp only [arity] at h
      omega
    have hq : q.arity ≤ (vs.drop p.arity).length := by
      simp only [arity] at h
      simp only [List.length_drop]
      omega
    rw [holds, holds, ihp hp, List.drop_append_of_le_length hp, ihq hq]

/-- Conditions written one after another take the values bound one after another: once the
first conditions have one value for each of their placeholders, the values after go to the
conditions after. -/
theorem allHold_append {cs : List Condition} (ds : List Condition) {vs : List Int} (ws : List Int)
    (h : totalArity cs = vs.length) :
    allHold row (cs ++ ds) (vs ++ ws) = (allHold row cs vs && allHold row ds ws) := by
  induction cs generalizing vs with
  | nil =>
    rw [List.eq_nil_of_length_eq_zero h.symm]
    simp [allHold]
  | cons c cs ih =>
    have hc : c.arity ≤ vs.length := by
      simp only [totalArity] at h
      omega
    have hcs : totalArity cs = (vs.drop c.arity).length := by
      simp only [totalArity] at h
      simp only [List.length_drop]
      omega
    rw [List.cons_append, allHold, allHold, holds_append c ws hc, List.drop_append_of_le_length hc,
      ih hcs, Bool.and_assoc]

/-- A condition appended only when a field is given, with its values bound only then: the
conditions hold exactly when the field is absent or the condition is true of its values, and
the conditions after hold of the values after. -/
theorem allHold_field (o : Option Int) (c : Condition) (vals : Int → List Int)
    (hlen : ∀ v, c.arity = (vals v).length) (ds : List Condition) (ws : List Int) :
    allHold row ((if o.isSome then [c] else []) ++ ds) (o.elim [] vals ++ ws) =
      ((o.all fun v => c.holds row (vals v)) && allHold row ds ws) := by
  cases o with
  | none => simp
  | some v =>
    have hsplit : allHold row ([c] ++ ds) (vals v ++ ws) =
        (allHold row [c] (vals v) && allHold row ds ws) :=
      allHold_append ds ws (by simp [totalArity, hlen v])
    simpa [allHold] using hsplit

theorem holds_either (v : Int) :
    (or (eq .fromAccountId) (eq .toAccountId)).holds row [v, v] = row.involves v := by
  simp [holds, arity, TransferColumn.read, Transfer.involves, Bool.beq_comm]

theorem holds_eq (col : TransferColumn) (v : Int) : (eq col).holds row [v] = (col.read row == v) := by
  simp [holds, Bool.beq_comm]

end Condition

/-- The number of placeholders in a listing: those of its conditions, then `LIMIT` and
`OFFSET` when it is paged. -/
def TransferQuery.placeholders (q : TransferQuery) : Nat :=
  Condition.totalArity q.conditions + if q.paged then 2 else 0

namespace TransferFilter

def onPage {α : Type} (f : TransferFilter) (hits : List α) : List α :=
  f.page.elim hits (·.window hits)

theorem listBinds_length (f : TransferFilter) : f.listBinds.length = f.listQuery.placeholders := by
  obtain ⟨account, src, dst, page⟩ := f
  cases account <;> cases src <;> cases dst <;> cases page <;> rfl

/-- Under the values a listing binds, its conditions are true of a transfer exactly when the
filter admits it: the second pass puts each field's values where the first put its
placeholders. -/
theorem allHold_listBinds (f : TransferFilter) (row : Transfer) :
    Condition.allHold row f.listConditions f.listBinds = f.admits row := by
  obtain ⟨account, src, dst, page⟩ := f
  have hlast := @Condition.allHold_field row dst (.eq .toAccountId) (fun v => [v])
    (fun _ => rfl) [] (page.elim [] fun p => [(p.limit : Int), (p.offset : Int)])
  rw [List.append_nil] at hlast
  simp only [listConditions, listBinds, List.append_assoc]
  rw [Condition.allHold_field account _ (fun v => [v, v]) (fun _ => rfl),
    Condition.allHold_field src _ (fun v => [v]) (fun _ => rfl), hlast]
  simp only [Condition.holds_either, Condition.holds_eq, TransferColumn.read, admits,
    Condition.allHold, Bool.and_true, Bool.and_assoc]

theorem limitOffset_page {α : Type} (p : Page) (xs : List α) :
    limitOffset p.limit p.offset xs = p.window xs := by
  have hlimit : ¬ (p.limit : Int) < 0 := by omega
  simp [limitOffset, Page.window, hlimit]

/-- The listing a filter writes, run with the values it binds on any rows: the rows the filter
admits, sorted by id, cut to the filter's page. -/
theorem listQuery_run (f : TransferFilter) (rows : List Transfer) :
    f.listQuery.run f.listBinds rows =
      .ok (f.onPage ((rows.filter f.admits).mergeSort (·.id ≤ ·.id))) := by
  have hwhere : rows.filter (Condition.allHold · f.listConditions f.listBinds) =
      rows.filter f.admits :=
    List.filter_congr fun row _ => allHold_listBinds f row
  cases hp : f.page with
  | none => simp [TransferQuery.run, listQuery, hp, hwhere, onPage]
  | some p =>
    simp [TransferQuery.run, listQuery, hp, hwhere, listBinds_drop hp, limitOffset_page, onPage]

end TransferFilter

namespace Tables

theorem transfersMatching_eq (t : Tables) (f : TransferFilter) :
    t.transfersMatching f = f.onPage ((t.transfers.filter f.admits).mergeSort (·.id ≤ ·.id)) := by
  unfold transfersMatching
  split
  · rename_i rows h
    rw [f.listQuery_run] at h
    exact (Except.ok.inj h).symm
  · rename_i e h
    exact absurd h (f.listQuery_run_ne_error _ e)

theorem transfersMatching_of_sorted {t : Tables} (h : t.transfers.Pairwise (·.id ≤ ·.id))
    (f : TransferFilter) : t.transfersMatching f = f.onPage (t.transfers.filter f.admits) := by
  rw [transfersMatching_eq, List.mergeSort_of_pairwise]
  exact (h.filter _).imp fun hab => decide_eq_true hab

end Tables

theorem pairwise_mergeSort_id (xs : List Transfer) :
    (xs.mergeSort (·.id ≤ ·.id)).Pairwise (·.id ≤ ·.id) := by
  have hsorted := @List.pairwise_mergeSort Transfer (fun a b => decide (a.id ≤ b.id))
    (fun a b c hab hbc => by simp only [decide_eq_true_eq] at *; omega)
    (fun a b => by simp only [Bool.or_eq_true, decide_eq_true_eq]; omega) xs
  exact hsorted.imp of_decide_eq_true

/-- Cutting a listing at the largest unsigned 32-bit count keeps it whole exactly when it has
fewer than 2^32 rows. -/
theorem window_all_eq_iff {α : Type} (xs : List α) : Page.all.window xs = xs ↔ xs.length < 2 ^ 32 := by
  simp only [Page.window, Page.all, List.drop_zero, List.take_eq_self_iff]
  omega

/-- The in-memory store's cut, with the largest page when the filter has none, agrees with the
pool's exactly when the filter has a page or the hits are fewer than 2^32. -/
theorem TransferFilter.window_getD_eq_onPage_iff {α : Type} (f : TransferFilter) (hits : List α) :
    (f.page.getD Page.all).window hits = f.onPage hits ↔ f.page.isSome ∨ hits.length < 2 ^ 32 := by
  cases hp : f.page with
  | none => simp [TransferFilter.onPage, hp, window_all_eq_iff]
  | some p => simp [TransferFilter.onPage, hp]

/-- The in-memory store, ready on rows whose transfers are in id order, lists what the pool lists
on the same rows exactly when the filter has a page or fewer than 2^32 transfers match. -/
theorem MemoryStore.listTransfers_agree {m : MemoryStore} {d : MemTables} (hm : m.Ready d)
    (hsorted : d.transfers.Pairwise (·.id ≤ ·.id)) (f : TransferFilter) :
    ∃ r, (LedgerStore.listTransfers f : Act MemoryStore Fault _) m =
        .ok r (m.logged "list_transfers()" d) ∧
      (r = d.toTables.transfersMatching f ↔
        f.page.isSome ∨ (d.transfers.filter f.admits).length < 2 ^ 32) := by
  refine ⟨_, MemoryStore.listTransfers_ready hm f, ?_⟩
  rw [Tables.transfersMatching_of_sorted hsorted f]
  exact f.window_getD_eq_onPage_iff _

end DoubleEntry
