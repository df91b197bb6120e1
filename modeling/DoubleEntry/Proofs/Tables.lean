import Mathlib.Data.List.Nodup
import DoubleEntry.Store.Tables

/-!
# DoubleEntry.Proofs.Tables

The table statements one at a time. A statement whose checks pass is run forward by its
`_run` lemma; an answer is read back into the checks that passed and the rows written by its
`_eq_ok` lemma.

The rows a statement writes are named operations on the tables (`pushAccount`, `pushEntry`,
`pushTransfer`, `setBalance`, `credit`, `dropAccount`), so that later proofs speak of the
effect of a whole request in these terms.

`Tables.Wf` is what the engine keeps of the primary keys: in each table the ids increase
along the rows, and none is above the largest id the table has given. Every statement keeps
it (`Wf.insertAccount`, `Wf.insertEntry`, `Wf.insertTransfer`, `Wf.addBalance`,
`Wf.deleteAccount`), so every state reached from the empty tables has it. Under it an id
names one row, and an increment of a balance moves the balance of exactly that row
(`addBalance_eq_credit`).
-/

namespace DoubleEntry
namespace Tables

/-- The primary keys of the three tables as the engine keeps them: ids increase along the
rows, and none is above the largest id its table has given. -/
structure Wf (t : Tables) : Prop where
  accounts : t.accounts.Pairwise (·.id < ·.id)
  entries : t.entries.Pairwise (·.id < ·.id)
  transfers : t.transfers.Pairwise (·.id < ·.id)
  accountSeq : ∀ a ∈ t.accounts, a.id ≤ t.accountSeq
  entrySeq : ∀ e ∈ t.entries, e.id ≤ t.entrySeq
  transferSeq : ∀ x ∈ t.transfers, x.id ≤ t.transferSeq

theorem wf_empty : empty.Wf :=
  ⟨.nil, .nil, .nil, by simp [empty], by simp [empty], by simp [empty]⟩

/-! ## Rows named by a key -/

section Keys

variable {β : Type} {key : β → Int}

theorem eq_of_key_eq {l : List β} (hl : l.Pairwise (key · < key ·)) {x y : β} (hx : x ∈ l)
    (hy : y ∈ l) (h : key x = key y) : x = y := by
  induction l with
  | nil => cases hx
  | cons z l ih =>
    rw [List.pairwise_cons] at hl
    rcases List.mem_cons.1 hx with rfl | hxl
    · rcases List.mem_cons.1 hy with rfl | hyl
      · rfl
      · have := hl.1 y hyl; omega
    · rcases List.mem_cons.1 hy with rfl | hyl
      · have := hl.1 x hxl; omega
      · exact ih hl.2 hxl hyl

theorem pairwise_append_next {l : List β} (hl : l.Pairwise (key · < key ·)) {n : Int}
    (hn : ∀ x ∈ l, key x ≤ n) {row : β} (hr : key row = n + 1) :
    (l ++ [row]).Pairwise (key · < key ·) := by
  refine List.pairwise_append.2 ⟨hl, List.pairwise_singleton _ _, ?_⟩
  intro x hx y hy
  rw [List.mem_singleton.1 hy, hr]
  have := hn x hx
  omega

theorem find?_next {l : List β} {n : Int} (hn : ∀ x ∈ l, key x ≤ n) :
    l.find? (key · == n + 1) = none := by
  rw [List.find?_eq_none]
  intro x hx
  have := hn x hx
  simp only [beq_iff_eq]
  omega

end Keys

theorem account?_eq_some {t : Tables} {i : Int} {a : Account} (h : t.account? i = some a) :
    a ∈ t.accounts ∧ a.id = i :=
  ⟨List.mem_of_find?_eq_some h, by simpa using List.find?_some h⟩

theorem Wf.account?_of_mem {t : Tables} (hw : t.Wf) {a : Account} (ha : a ∈ t.accounts) :
    t.account? a.id = some a := by
  cases h : t.account? a.id with
  | none =>
    rw [account?, List.find?_eq_none] at h
    exact absurd (h a ha) (by simp)
  | some b =>
    obtain ⟨hb, hid⟩ := account?_eq_some h
    rw [eq_of_key_eq hw.accounts hb ha hid]

theorem transfer?_eq_some {t : Tables} {i : Int} {x : Transfer} (h : t.transfer? i = some x) :
    x ∈ t.transfers ∧ x.id = i :=
  ⟨List.mem_of_find?_eq_some h, by simpa using List.find?_some h⟩

/-! ## Statements -/

variable {t t' : Tables}

def pushAccount (t : Tables) (owner : String) (currency : Currency) (balance : Int) : Tables :=
  { t with accounts := t.accounts ++ [⟨t.accountSeq + 1, owner, balance, currency⟩]
           accountSeq := t.accountSeq + 1 }

theorem insertAccount_eq (t : Tables) (n : NewAccount) :
    t.insertAccount n = (⟨t.accountSeq + 1, n.owner, 0, n.currency⟩,
      t.pushAccount n.owner n.currency 0) := rfl

theorem Wf.account?_pushAccount (hw : t.Wf) (owner : String) (currency : Currency) (b : Int) :
    (t.pushAccount owner currency b).account? (t.accountSeq + 1) =
      some ⟨t.accountSeq + 1, owner, b, currency⟩ := by
  simp [pushAccount, account?, List.find?_append, find?_next hw.accountSeq]

def pushTransfer (t : Tables) (src dst amount : Int) : Tables :=
  { t with transfers := t.transfers ++ [⟨t.transferSeq + 1, src, dst, amount⟩]
           transferSeq := t.transferSeq + 1 }

def pushEntry (t : Tables) (account amount : Int) (transfer : Option Int) : Tables :=
  { t with entries := t.entries ++ [⟨t.entrySeq + 1, account, amount, transfer⟩]
           entrySeq := t.entrySeq + 1 }

@[simp] theorem account?_pushTransfer (t : Tables) (src dst amount i : Int) :
    (t.pushTransfer src dst amount).account? i = t.account? i := rfl

@[simp] theorem account?_pushEntry (t : Tables) (account amount : Int) (transfer : Option Int)
    (i : Int) : (t.pushEntry account amount transfer).account? i = t.account? i := rfl

@[simp] theorem transfer?_pushEntry (t : Tables) (account amount : Int) (transfer : Option Int)
    (i : Int) : (t.pushEntry account amount transfer).transfer? i = t.transfer? i := rfl

theorem transfer?_pushTransfer_ne_none (t : Tables) (src dst amount : Int) :
    (t.pushTransfer src dst amount).transfer? (t.transferSeq + 1) ≠ none := by
  simp [pushTransfer, transfer?, List.find?_append]

theorem Wf.transfer?_pushTransfer (hw : t.Wf) (src dst amount : Int) :
    (t.pushTransfer src dst amount).transfer? (t.transferSeq + 1) =
      some ⟨t.transferSeq + 1, src, dst, amount⟩ := by
  simp [pushTransfer, transfer?, List.find?_append, find?_next hw.transferSeq]

theorem insertTransfer_run {src dst amount : Int} (hpos : 0 < amount) (hne : src ≠ dst)
    (hs : t.account? src ≠ none) (hd : t.account? dst ≠ none) :
    t.insertTransfer src dst amount =
      .ok (⟨t.transferSeq + 1, src, dst, amount⟩, t.pushTransfer src dst amount) := by
  have hamt : ¬ amount ≤ 0 := by omega
  simp [insertTransfer, pushTransfer, hamt, hne, Option.isNone_iff_eq_none, hs, hd]

theorem insertTransfer_eq_ok {src dst amount : Int} {x : Transfer}
    (h : t.insertTransfer src dst amount = .ok (x, t')) :
    0 < amount ∧ src ≠ dst ∧ t.account? src ≠ none ∧ t.account? dst ≠ none ∧
      x = ⟨t.transferSeq + 1, src, dst, amount⟩ ∧ t' = t.pushTransfer src dst amount := by
  unfold insertTransfer at h
  split at h
  · cases h
  · split at h
    · cases h
    · split at h
      · cases h
      · rename_i hamt hne hex
        simp only [Except.ok.injEq, Prod.mk.injEq] at h
        obtain ⟨rfl, rfl⟩ := h
        simp only [Bool.or_eq_true, Option.isNone_iff_eq_none, not_or] at hex
        exact ⟨by omega, hne, hex.1, hex.2, rfl, rfl⟩

theorem insertEntry_run {account amount : Int} {transfer : Option Int}
    (ha : t.account? account ≠ none) (hx : ∀ i, transfer = some i → t.transfer? i ≠ none) :
    t.insertEntry account amount transfer =
      .ok (⟨t.entrySeq + 1, account, amount, transfer⟩, t.pushEntry account amount transfer) := by
  have hx' : (transfer.any fun i => (t.transfer? i).isNone) = false := by
    cases transfer with
    | none => rfl
    | some i =>
      cases h : t.transfer? i with
      | none => exact absurd h (hx i rfl)
      | some _ => simp [h]
  simp [insertEntry, pushEntry, Option.isNone_iff_eq_none, ha, hx']

theorem insertEntry_eq_ok {account amount : Int} {transfer : Option Int} {e : Entry}
    (h : t.insertEntry account amount transfer = .ok (e, t')) :
    t.account? account ≠ none ∧ e = ⟨t.entrySeq + 1, account, amount, transfer⟩ ∧
      t' = t.pushEntry account amount transfer := by
  unfold insertEntry at h
  split at h
  · cases h
  · rename_i hex
    simp only [Except.ok.injEq, Prod.mk.injEq] at h
    obtain ⟨rfl, rfl⟩ := h
    simp only [Bool.or_eq_true, Option.isNone_iff_eq_none, not_or] at hex
    exact ⟨hex.1, rfl, rfl⟩

def setBalance (t : Tables) (id v : Int) : Tables :=
  { t with accounts := t.accounts.map fun x => if x.id = id then { x with balance := v } else x }

def credit (t : Tables) (id delta : Int) : Tables :=
  { t with accounts := t.accounts.map fun x =>
      if x.id = id then { x with balance := x.balance + delta } else x }

@[simp] theorem transfer?_setBalance (t : Tables) (id v i : Int) :
    (t.setBalance id v).transfer? i = t.transfer? i := rfl

theorem setBalance_pushEntry (t : Tables) (account amount : Int) (transfer : Option Int)
    (id v : Int) :
    (t.pushEntry account amount transfer).setBalance id v =
      (t.setBalance id v).pushEntry account amount transfer := rfl

/-- Under the keys, setting the balance of the newest account sets the balance it was
opened with. -/
theorem Wf.setBalance_pushAccount (hw : t.Wf) (owner : String) (currency : Currency) (b v : Int) :
    (t.pushAccount owner currency b).setBalance (t.accountSeq + 1) v =
      t.pushAccount owner currency v := by
  simp only [setBalance, pushAccount, List.map_append, List.map_cons, List.map_nil, if_true,
    Tables.mk.injEq, and_true]
  congr 1
  refine (List.map_congr_left fun x hx => ?_).trans (List.map_id _)
  have := hw.accountSeq x hx
  rw [if_neg (by omega), id]

theorem addBalance_run {id delta : Int} {a : Account} (ha : t.account? id = some a) :
    t.addBalance id delta =
      if Signed64.Fits (a.balance + delta) then
        .ok (some (a.balance + delta), t.setBalance id (a.balance + delta))
      else .error (.checkFailed balanceConstraint) := by
  simp only [addBalance, setBalance, ha]

theorem addBalance_eq_ok {id delta : Int} {r : Option Int}
    (h : t.addBalance id delta = .ok (r, t')) :
    (t.account? id = none ∧ r = none ∧ t' = t) ∨
      ∃ a, t.account? id = some a ∧ Signed64.Fits (a.balance + delta) ∧ r = some (a.balance + delta) ∧
        t' = t.setBalance id (a.balance + delta) := by
  unfold addBalance at h
  split at h
  · rename_i hn
    cases h
    exact .inl ⟨hn, rfl, rfl⟩
  · rename_i a ha
    split at h
    · rename_i hfit
      cases h
      exact .inr ⟨a, ha, hfit, rfl, rfl⟩
    · cases h

/-- Under increasing ids, setting the balance of the account found by an id to its balance
plus `delta` is a `credit`. -/
theorem setBalance_eq_credit (hu : t.accounts.Pairwise (·.id < ·.id)) {id delta : Int} {a : Account}
    (ha : t.account? id = some a) : t.setBalance id (a.balance + delta) = t.credit id delta := by
  obtain ⟨hmem, hid⟩ := account?_eq_some ha
  simp only [setBalance, credit, Tables.mk.injEq, and_true]
  refine List.map_congr_left fun x hx => ?_
  split
  · rename_i hx'
    rw [eq_of_key_eq hu hx hmem (hx'.trans hid.symm)]
  · rfl

theorem addBalance_eq_credit (hu : t.accounts.Pairwise (·.id < ·.id)) {id delta b : Int}
    (h : t.addBalance id delta = .ok (some b, t')) :
    ∃ a, t.account? id = some a ∧ Signed64.Fits (a.balance + delta) ∧ b = a.balance + delta ∧
      t' = t.credit id delta := by
  rcases addBalance_eq_ok h with ⟨-, h', -⟩ | ⟨a, ha, hfit, hb, rfl⟩
  · cases h'
  · exact ⟨a, ha, hfit, Option.some.inj hb, setBalance_eq_credit hu ha⟩

theorem account?_setBalance_of_ne (t : Tables) {id v i : Int} (hi : i ≠ id) :
    (t.setBalance id v).account? i = t.account? i := by
  simp only [setBalance, account?, List.find?_map]
  have hp : ((fun x : Account => x.id == i) ∘ fun x =>
      if x.id = id then { x with balance := v } else x) = (·.id == i) := by
    funext x
    simp only [Function.comp_apply]
    split <;> rfl
  rw [hp]
  cases hf : t.accounts.find? (·.id == i) with
  | none => rfl
  | some y =>
    have hy : y.id = i := by simpa using List.find?_some hf
    simp [hy, hi]

theorem account?_credit (t : Tables) (id delta i : Int) :
    (t.credit id delta).account? i =
      (t.account? i).map fun x => if x.id = id then { x with balance := x.balance + delta } else x := by
  simp only [credit, account?, List.find?_map]
  congr 2
  funext x
  simp only [Function.comp_apply]
  split <;> rfl

def dropAccount (t : Tables) (id : Int) : Tables :=
  { t with accounts := t.accounts.filter (·.id != id) }

theorem deleteAccount_eq_ok {id : Int} {b : Bool} (h : t.deleteAccount id = .ok (b, t')) :
    (b = false ∧ t' = t) ∨
      (b = true ∧ t' = t.dropAccount id ∧ ∀ e ∈ t.entries, e.accountId ≠ id) := by
  unfold deleteAccount at h
  split at h
  · cases h
    exact .inl ⟨rfl, rfl⟩
  · rename_i hn
    split at h
    · cases h
    · cases h
      simp only [Bool.or_eq_true, not_or, List.any_eq_true, not_exists, not_and] at hn
      refine .inr ⟨rfl, rfl, fun e he => ?_⟩
      simpa using hn.2 e he

/-! ## Keys under every statement -/

theorem Wf.pushAccount (hw : t.Wf) (owner : String) (currency : Currency) (b : Int) :
    (t.pushAccount owner currency b).Wf := by
  refine ⟨pairwise_append_next hw.accounts hw.accountSeq rfl, hw.entries, hw.transfers, ?_,
    hw.entrySeq, hw.transferSeq⟩
  intro a ha
  rcases List.mem_append.1 ha with ha | ha
  · have := hw.accountSeq a ha
    dsimp only [Tables.pushAccount]
    omega
  · rw [List.mem_singleton.1 ha]
    exact Int.le_refl _

theorem Wf.insertAccount (hw : t.Wf) (n : NewAccount) : (t.insertAccount n).2.Wf :=
  hw.pushAccount n.owner n.currency 0

theorem Wf.pushEntry (hw : t.Wf) (account amount : Int) (transfer : Option Int) :
    (t.pushEntry account amount transfer).Wf := by
  refine ⟨hw.accounts, pairwise_append_next hw.entries hw.entrySeq rfl, hw.transfers,
    hw.accountSeq, ?_, hw.transferSeq⟩
  intro e he
  rcases List.mem_append.1 he with he | he
  · have := hw.entrySeq e he
    dsimp only [Tables.pushEntry]
    omega
  · rw [List.mem_singleton.1 he]
    exact Int.le_refl _

theorem Wf.pushTransfer (hw : t.Wf) (src dst amount : Int) :
    (t.pushTransfer src dst amount).Wf := by
  refine ⟨hw.accounts, hw.entries, pairwise_append_next hw.transfers hw.transferSeq rfl,
    hw.accountSeq, hw.entrySeq, ?_⟩
  intro x hx
  rcases List.mem_append.1 hx with hx | hx
  · have := hw.transferSeq x hx
    dsimp only [Tables.pushTransfer]
    omega
  · rw [List.mem_singleton.1 hx]
    exact Int.le_refl _

theorem Wf.mapAccounts (hw : t.Wf) {f : Account → Account} (hf : ∀ x, (f x).id = x.id) :
    ({ t with accounts := t.accounts.map f } : Tables).Wf := by
  refine ⟨?_, hw.entries, hw.transfers, ?_, hw.entrySeq, hw.transferSeq⟩
  · exact List.pairwise_map.2 (hw.accounts.imp fun {x y} h => by rw [hf x, hf y]; exact h)
  · intro x hx
    obtain ⟨y, hy, rfl⟩ := List.mem_map.1 hx
    rw [hf y]
    exact hw.accountSeq y hy

theorem Wf.setBalance (hw : t.Wf) (id v : Int) : (t.setBalance id v).Wf :=
  hw.mapAccounts fun x => by split <;> rfl

theorem Wf.credit (hw : t.Wf) (id delta : Int) : (t.credit id delta).Wf :=
  hw.mapAccounts fun x => by split <;> rfl

theorem Wf.insertEntry (hw : t.Wf) {account amount : Int} {transfer : Option Int} {e : Entry}
    (h : t.insertEntry account amount transfer = .ok (e, t')) : t'.Wf := by
  obtain ⟨-, -, rfl⟩ := insertEntry_eq_ok h
  exact hw.pushEntry account amount transfer

theorem Wf.insertTransfer (hw : t.Wf) {src dst amount : Int} {x : Transfer}
    (h : t.insertTransfer src dst amount = .ok (x, t')) : t'.Wf := by
  obtain ⟨-, -, -, -, -, rfl⟩ := insertTransfer_eq_ok h
  exact hw.pushTransfer src dst amount

theorem Wf.addBalance (hw : t.Wf) {id delta : Int} {r : Option Int}
    (h : t.addBalance id delta = .ok (r, t')) : t'.Wf := by
  rcases addBalance_eq_ok h with ⟨-, -, rfl⟩ | ⟨a, -, -, -, rfl⟩
  · exact hw
  · exact hw.setBalance id _

theorem Wf.dropAccount (hw : t.Wf) (id : Int) : (t.dropAccount id).Wf :=
  ⟨hw.accounts.filter _, hw.entries, hw.transfers,
    fun a ha => hw.accountSeq a (List.mem_filter.1 ha).1, hw.entrySeq, hw.transferSeq⟩

theorem Wf.deleteAccount (hw : t.Wf) {id : Int} {b : Bool}
    (h : t.deleteAccount id = .ok (b, t')) : t'.Wf := by
  rcases deleteAccount_eq_ok h with ⟨-, rfl⟩ | ⟨-, rfl, -⟩
  · exact hw
  · exact hw.dropAccount id

end Tables
end DoubleEntry
