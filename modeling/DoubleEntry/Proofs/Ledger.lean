import DoubleEntry.Proofs.Schema

/-!
# DoubleEntry.Proofs.Ledger

The ledger invariant, kept by every request of the service.

`Tables.Ledger` is the invariant: each balance is the sum of its account's entries, every
entry names an account, every transfer is carried by exactly its two postings, an entry
linked to no transfer is its account's one positive opening entry, and every partial sum of
an account's entries is a 64-bit integer. It holds of the empty tables and is kept by each
service step (`Ledger.withAccount`, `Ledger.withTransfer`, `Ledger.dropAccount`), so it holds
after every run of service requests from the empty schema (`service_runs_keep_ledger`), where
the integrity check counts the rows and finds nothing (`Ledger.checkIntegrity_clean`).
-/

namespace DoubleEntry

namespace Tables

/-- The ledger invariant. -/
structure Ledger (t : Tables) : Prop where
  /-- Each account's balance is the exact sum of its entries. -/
  balance : ∀ a ∈ t.accounts, a.balance = (t.amountsOf a.id).sum
  account : t.EntriesNamed
  /-- Every transfer moves a positive amount between two accounts and is carried by exactly
  its two postings, the debit first. -/
  transfer : ∀ x ∈ t.transfers,
    0 < x.amount ∧ x.fromAccount ≠ x.toAccount ∧ t.postingsOf x.id = x.postings
  /-- An entry linked to no transfer is positive, the first entry of its account, and the
  only one of its account linked to no transfer. -/
  opening : ∀ e ∈ t.entries, e.transferId = none → 0 < e.amount ∧
    (t.entries.filter (·.accountId == e.accountId)).head? = some e ∧
    ∀ e' ∈ t.entries, e'.accountId = e.accountId → e'.transferId = none → e' = e
  /-- Every partial sum of an account's entries, in entry order, is a 64-bit integer. -/
  prefixes : ∀ a ∈ t.accounts, ∀ n, Signed64.Fits ((t.amountsOf a.id).take n).sum
  wf : t.Wf
  amounts : ∀ x ∈ t.transfers, Signed64.Fits x.amount
  linked : ∀ e ∈ t.entries, ∀ i, e.transferId = some i → ∃ x ∈ t.transfers, x.id = i

theorem ledger_empty : empty.Ledger where
  balance := by simp [empty]
  account := by simp [EntriesNamed, empty]
  transfer := by simp [empty]
  opening := by simp [empty]
  prefixes := by simp [empty]
  wf := wf_empty
  amounts := by simp [empty]
  linked := by simp [empty]

/-! ## What the effects do to sums and links -/

def postedTo (src dst amount i : Int) : List Int :=
  (if src = i then [-amount] else []) ++ if dst = i then [amount] else []

theorem postedTo_length {src dst : Int} (hne : src ≠ dst) (amount i : Int) :
    (postedTo src dst amount i).length ≤ 1 := by
  unfold postedTo
  split_ifs <;> simp_all

theorem amountsOf_withTransfer (t : Tables) (src dst amount i : Int) :
    (t.withTransfer src dst amount).amountsOf i = t.amountsOf i ++ postedTo src dst amount i := by
  unfold amountsOf postedTo
  rw [withTransfer_entries, List.filter_append, List.map_append]
  congr 1
  by_cases hs : src = i <;> by_cases hd : dst = i <;> simp [hs, hd]

/-- An account row after a transfer is an old row whose balance took the transfer's
postings to it. -/
theorem mem_withTransfer_accounts {t : Tables} {src dst amount : Int} {a : Account}
    (ha : a ∈ (t.withTransfer src dst amount).accounts) : ∃ a₀ ∈ t.accounts,
      a.id = a₀.id ∧ a.balance = a₀.balance + (postedTo src dst amount a₀.id).sum := by
  simp only [withTransfer_accounts, List.mem_map] at ha
  obtain ⟨a₁, ⟨a₀, ha₀, rfl⟩, rfl⟩ := ha
  refine ⟨a₀, ha₀, ?_⟩
  by_cases hs : src = a₀.id <;> by_cases hd : dst = a₀.id <;>
    simp only [hs, hd, ne_eq, not_false_eq_true, Ne.symm, ↓reduceIte, Int.add_assoc, postedTo,
      List.cons_append, List.nil_append, List.append_nil, List.sum_cons, List.sum_nil,
      Int.add_zero, and_self]

theorem mem_entries_of_withTransfer {t : Tables} {src dst amount : Int} {e : Entry}
    (he : e ∈ (t.withTransfer src dst amount).entries) (hn : e.transferId = none) :
    e ∈ t.entries := by
  rw [withTransfer_entries, List.mem_append] at he
  rcases he with he | he
  · exact he
  · simp only [List.mem_cons, List.not_mem_nil, or_false] at he
    rcases he with rfl | rfl <;> simp at hn

theorem postingsOf_withTransfer (t : Tables) (src dst amount i : Int) :
    (t.withTransfer src dst amount).postingsOf i = t.postingsOf i ++
      if t.transferSeq + 1 = i then [(src, -amount), (dst, amount)] else [] := by
  unfold postingsOf
  rw [withTransfer_entries, List.filter_append, List.map_append]
  congr 1
  by_cases h : t.transferSeq + 1 = i <;> simp [h]

theorem amountsOf_withAccount (t : Tables) (owner : String) (currency : Currency) (b i : Int) :
    (t.withAccount owner currency b).amountsOf i =
      t.amountsOf i ++ if 0 < b ∧ t.accountSeq + 1 = i then [b] else [] := by
  unfold amountsOf
  rw [withAccount_entries, List.filter_append, List.map_append]
  congr 1
  by_cases hb : 0 < b <;> by_cases hi : t.accountSeq + 1 = i <;> simp [hb, hi]

theorem postingsOf_withAccount (t : Tables) (owner : String) (currency : Currency) (b i : Int) :
    (t.withAccount owner currency b).postingsOf i = t.postingsOf i := by
  unfold postingsOf
  rw [withAccount_entries, List.filter_append, List.map_append]
  split <;> simp

theorem fits_take_append {l : List Int} (h : ∀ n, Signed64.Fits (l.take n).sum) {d : List Int}
    (hd : d.length ≤ 1) (hsum : Signed64.Fits (l ++ d).sum) (n : Nat) :
    Signed64.Fits ((l ++ d).take n).sum := by
  rw [List.take_append]
  by_cases hn : n ≤ l.length
  · rw [Nat.sub_eq_zero_of_le hn, List.take_zero, List.append_nil]
    exact h n
  · rw [List.take_of_length_le (by omega)]
    rcases d with _ | ⟨x, _ | ⟨y, d⟩⟩
    · simpa using hsum
    · rw [List.take_of_length_le (by simp; omega)]
      exact hsum
    · simp at hd

section Invariant

variable {t : Tables}

theorem Ledger.entry_account_le (h : t.Ledger) {e : Entry} (he : e ∈ t.entries) :
    e.accountId ≤ t.accountSeq := by
  obtain ⟨a, ha, hid⟩ := h.account e he
  exact hid ▸ h.wf.accountSeq a ha

theorem Ledger.linked_le (h : t.Ledger) {e : Entry} (he : e ∈ t.entries) {i : Int}
    (hi : e.transferId = some i) : i ≤ t.transferSeq := by
  obtain ⟨x, hx, rfl⟩ := h.linked e he i hi
  exact h.wf.transferSeq x hx

theorem Ledger.filter_next (h : t.Ledger) :
    t.entries.filter (·.accountId == t.accountSeq + 1) = [] := by
  simp only [List.filter_eq_nil_iff, beq_iff_eq]
  intro e he hid
  have := h.entry_account_le he
  omega

theorem Ledger.postingsOf_next (h : t.Ledger) : t.postingsOf (t.transferSeq + 1) = [] := by
  simp only [postingsOf, List.map_eq_nil_iff, List.filter_eq_nil_iff, beq_iff_eq]
  intro e he hid
  have := h.linked_le he hid
  omega

theorem head?_filter_append {l r : List Entry} {e : Entry} (p : Entry → Bool)
    (h : (l.filter p).head? = some e) : ((l ++ r).filter p).head? = some e := by
  rw [List.filter_append, List.head?_append, h]
  rfl

theorem Ledger.balance_fits (h : t.Ledger) {a : Account} (ha : a ∈ t.accounts) :
    Signed64.Fits a.balance := by
  have hfit := h.prefixes a ha (t.amountsOf a.id).length
  rwa [List.take_length, ← h.balance a ha] at hfit

/-- An admitted transfer leaves every balance in range: the moved balances fit by
admission, the others do not move. -/
theorem Ledger.fits_withTransfer (h : t.Ledger) {src dst amount : Int}
    (hA : t.Admits src dst amount) {a : Account} (ha : a ∈ t.accounts) :
    Signed64.Fits (a.balance + (postedTo src dst amount a.id).sum) := by
  have hself := h.wf.account?_of_mem ha
  by_cases hs : src = a.id
  · have hd : dst ≠ a.id := fun hd => hA.ne (hs.trans hd.symm)
    obtain ⟨a', ha', hfit⟩ := hA.debit
    rw [hs, hself, Option.some.injEq] at ha'
    subst ha'
    simpa [postedTo, hs, hd] using hfit
  · by_cases hd : dst = a.id
    · obtain ⟨b', hb', hfit⟩ := hA.credit
      rw [hd, hself, Option.some.injEq] at hb'
      subst hb'
      simpa [postedTo, hs, hd] using hfit
    · simpa [postedTo, hs, hd] using h.balance_fits ha

theorem Ledger.withTransfer (h : t.Ledger) {src dst amount : Int}
    (hA : t.Admits src dst amount) : (t.withTransfer src dst amount).Ledger where
  balance a ha := by
    obtain ⟨a₀, ha₀, hid, hbal⟩ := mem_withTransfer_accounts ha
    rw [hbal, hid, amountsOf_withTransfer, List.sum_append, h.balance a₀ ha₀]
  account := by
    obtain ⟨a, ha, -⟩ := hA.debit
    obtain ⟨b, hb, -⟩ := hA.credit
    exact h.account.withTransfer ⟨a, account?_eq_some ha⟩ ⟨b, account?_eq_some hb⟩ amount
  transfer x hx := by
    rw [withTransfer_transfers, List.mem_append, List.mem_singleton] at hx
    rcases hx with hx | rfl
    · obtain ⟨hpos, hne, hpost⟩ := h.transfer x hx
      have hle := h.wf.transferSeq x hx
      refine ⟨hpos, hne, ?_⟩
      rw [postingsOf_withTransfer, if_neg (by omega), List.append_nil, hpost]
    · refine ⟨hA.pos, hA.ne, ?_⟩
      rw [postingsOf_withTransfer, if_pos rfl, h.postingsOf_next]
      rfl
  opening e he hn := by
    obtain ⟨hpos, hhead, hone⟩ := h.opening e (mem_entries_of_withTransfer he hn) hn
    refine ⟨hpos, ?_, fun e' he' hid hn' => hone e' (mem_entries_of_withTransfer he' hn') hid hn'⟩
    rw [withTransfer_entries]
    exact head?_filter_append _ hhead
  prefixes a ha n := by
    obtain ⟨a₀, ha₀, hid, -⟩ := mem_withTransfer_accounts ha
    rw [hid, amountsOf_withTransfer]
    refine fits_take_append (h.prefixes a₀ ha₀) (postedTo_length hA.ne amount a₀.id) ?_ n
    rw [List.sum_append, ← h.balance a₀ ha₀]
    exact h.fits_withTransfer hA ha₀
  wf := h.wf.withTransfer src dst amount
  amounts x hx := by
    rw [withTransfer_transfers, List.mem_append, List.mem_singleton] at hx
    rcases hx with hx | rfl
    · exact h.amounts x hx
    · exact hA.fits
  linked e he i hi := by
    rw [withTransfer_entries, List.mem_append] at he
    rcases he with he | he
    · obtain ⟨x, hx, hid⟩ := h.linked e he i hi
      exact ⟨x, List.mem_append_left _ hx, hid⟩
    · simp only [List.mem_cons, List.not_mem_nil, or_false] at he
      refine ⟨⟨t.transferSeq + 1, src, dst, amount⟩, by simp, ?_⟩
      rcases he with rfl | rfl <;> simpa using hi

section OpenAccount

variable {owner : String} {currency : Currency} {b : Int}

theorem Ledger.amountsOf_withAccount_of_mem (h : t.Ledger) {a : Account} (ha : a ∈ t.accounts) :
    (t.withAccount owner currency b).amountsOf a.id = t.amountsOf a.id := by
  have hle := h.wf.accountSeq a ha
  rw [amountsOf_withAccount, if_neg (by omega), List.append_nil]

theorem Ledger.amountsOf_withAccount_next (h : t.Ledger) :
    (t.withAccount owner currency b).amountsOf (t.accountSeq + 1) = if 0 < b then [b] else [] := by
  rw [amountsOf_withAccount, amountsOf, h.filter_next]
  simp

theorem Ledger.withAccount (h : t.Ledger) (hb : 0 ≤ b) (hfit : Signed64.Fits b) :
    (t.withAccount owner currency b).Ledger where
  balance a ha := by
    rw [withAccount_accounts, List.mem_append, List.mem_singleton] at ha
    rcases ha with ha | rfl
    · rw [h.amountsOf_withAccount_of_mem ha]
      exact h.balance a ha
    · rw [h.amountsOf_withAccount_next]
      split <;> simp
      omega
  account := h.account.withAccount owner currency b
  transfer x hx := by
    rw [withAccount_transfers] at hx
    rw [postingsOf_withAccount]
    exact h.transfer x hx
  opening e he hn := by
    rcases mem_withAccount_entries.1 he with he | ⟨hpos, rfl⟩
    · obtain ⟨hpos, hhead, hone⟩ := h.opening e he hn
      refine ⟨hpos, by rw [withAccount_entries]; exact head?_filter_append _ hhead, ?_⟩
      intro e' he' hid hn'
      rcases mem_withAccount_entries.1 he' with he' | ⟨-, rfl⟩
      · exact hone e' he' hid hn'
      · have hle := h.entry_account_le he
        dsimp only at hid
        omega
    · refine ⟨hpos, ?_, ?_⟩
      · simp [withAccount_entries, List.filter_append, h.filter_next, hpos]
      · intro e' he' hid hn'
        rcases mem_withAccount_entries.1 he' with he' | ⟨-, rfl⟩
        · have hle := h.entry_account_le he'
          dsimp only at hid
          omega
        · rfl
  prefixes a ha n := by
    rw [withAccount_accounts, List.mem_append, List.mem_singleton] at ha
    rcases ha with ha | rfl
    · rw [h.amountsOf_withAccount_of_mem ha]
      exact h.prefixes a ha n
    · rw [h.amountsOf_withAccount_next]
      have hzero : Signed64.Fits 0 := by decide
      split
      · cases n <;> simpa
      · simpa using hzero
  wf := h.wf.withAccount owner currency b
  amounts x hx := by
    rw [withAccount_transfers] at hx
    exact h.amounts x hx
  linked e he i hi := by
    rw [withAccount_transfers]
    rcases mem_withAccount_entries.1 he with he | ⟨-, rfl⟩
    · exact h.linked e he i hi
    · simp at hi

end OpenAccount

theorem Ledger.dropAccount (h : t.Ledger) {id : Int} (hfree : ∀ e ∈ t.entries, e.accountId ≠ id) :
    (t.dropAccount id).Ledger where
  balance a ha := h.balance a (List.mem_filter.1 ha).1
  account := h.account.dropAccount hfree
  transfer := h.transfer
  opening := h.opening
  prefixes a ha := h.prefixes a (List.mem_filter.1 ha).1
  wf := h.wf.dropAccount id
  amounts := h.amounts
  linked := h.linked

/-- What one service request can do keeps the invariant. -/
theorem Ledger.serviceStep (h : t.Ledger) {t' : Tables} (hs : ServiceStep t t') : t'.Ledger := by
  cases hs with
  | keep => exact h
  | openAccount _ _ hb hfit => exact h.withAccount hb hfit
  | transfer hA => exact h.withTransfer hA
  | delete hfree => exact h.dropAccount hfree

theorem Ledger.of_steps (h : t.Ledger) {t' : Tables} (hr : Relation.ReflTransGen ServiceStep t t') :
    t'.Ledger := by
  induction hr with
  | refl => exact h
  | tail _ step ih => exact ih.serviceStep step

/-! ## The integrity check on ledger tables -/

/-- Every partial sum of the amounts of any id is in range: an id that no account has names
no entry. -/
theorem Ledger.prefixes_fit (h : t.Ledger) (i : Int) (n : Nat) :
    Signed64.Fits ((t.amountsOf i).take n).sum := by
  by_cases hi : ∃ a ∈ t.accounts, a.id = i
  · obtain ⟨a, ha, rfl⟩ := hi
    exact h.prefixes a ha n
  · have hnil : t.amountsOf i = [] := by
      refine amountsOf_eq_nil fun hmem => hi ?_
      obtain ⟨e, he, rfl⟩ := mem_entryAccounts.1 hmem
      exact h.account e he
    rw [hnil, List.take_nil, List.sum_nil]
    decide

theorem Ledger.schema (h : t.Ledger) : t.Schema :=
  ⟨h.wf, h.account, fun x hx => ⟨(h.transfer x hx).1, h.amounts x hx, (h.transfer x hx).2.1⟩⟩

theorem Ledger.sums_exact (h : t.Ledger) (i : Int) :
    runningSum (t.amountsOf i) 0 = .ok (t.amountsOf i).sum := by
  rw [runningSum_of_fits (by simpa using h.prefixes_fit i), Int.zero_add]

theorem Ledger.carries (h : t.Ledger) {x : Transfer} (hx : x ∈ t.transfers) : t.Carries x := by
  rw [Carries, (h.transfer x hx).2.2]

theorem Ledger.pair_fits (h : t.Ledger) {x : Transfer} (hx : x ∈ t.transfers) {e₁ e₂ : Entry}
    (hf : t.entries.filter (·.transferId == some x.id) = [e₁, e₂]) :
    Signed64.Fits (e₁.amount + e₂.amount) := by
  have hp := (h.transfer x hx).2.2
  simp only [postingsOf, hf, List.map_cons, List.map_nil, Transfer.postings, List.cons.injEq,
    Prod.mk.injEq, and_true] at hp
  obtain ⟨⟨-, h₁⟩, -, h₂⟩ := hp
  rw [h₁, h₂, Int.add_left_neg]
  decide

/-- On tables that keep the invariant the integrity check counts the rows and reports no
issue. -/
theorem Ledger.checkIntegrity_clean {p : Pool} (hp : p.Serves t) (h : t.Ledger) :
    ∃ q, Service.checkIntegrity p = .ok
      { accountCount := t.accounts.length, transferCount := t.transfers.length,
        entryCount := t.entries.length, totalBalance := totalBalance t.accounts, issues := [] } q := by
  obtain ⟨tissues, q, hq, hall⟩ :=
    h.schema.checkIntegrity_report hp h.sums_exact fun x hx _ _ => h.pair_fits hx
  rw [(issues_eq_nil_iff hall).2 ⟨h.balance, fun x hx => h.carries hx⟩] at hq
  exact ⟨q, hq⟩

end Invariant

end Tables

/-- Every run of service requests from the empty schema leaves tables that keep the ledger
invariant, on which the integrity check reports no issue. Every prefix of a run is a run, so
this holds after every request. -/
theorem service_runs_keep_ledger (ops : List Op) (hops : ∀ op ∈ ops, op.OfService ∧ op.Sized) :
    ∃ t, (runOps ops { file := .ledger .empty }).Serves t ∧ t.Ledger ∧
      ∃ q, Service.checkIntegrity (runOps ops { file := .ledger .empty }) = .ok
        { accountCount := t.accounts.length, transferCount := t.transfers.length,
          entryCount := t.entries.length, totalBalance := totalBalance t.accounts,
          issues := [] } q := by
  obtain ⟨t, hserves, -, hsteps⟩ := runOps_from_empty fun op hop =>
    Op.run_evolves_service (hops op hop).2 (hops op hop).1
  have hl := Tables.ledger_empty.of_steps hsteps
  exact ⟨t, hserves, hl, hl.checkIntegrity_clean hserves⟩

theorem service_runs_keep_ledger_opened :
    ∃ t, (runOps [.call (.service (.createAccount "alice" "USD" 10)),
        .call (.service (.createAccount "bob" "USD" 0)),
        .call (.service (.createTransfer "alice" 1 2 5 "USD")), .check]
        { file := .ledger .empty }).Serves t ∧ t.Ledger ∧
      ∃ q, Service.checkIntegrity (runOps [.call (.service (.createAccount "alice" "USD" 10)),
        .call (.service (.createAccount "bob" "USD" 0)),
        .call (.service (.createTransfer "alice" 1 2 5 "USD")), .check]
        { file := .ledger .empty }) = .ok
        { accountCount := t.accounts.length, transferCount := t.transfers.length,
          entryCount := t.entries.length, totalBalance := totalBalance t.accounts,
          issues := [] } q := by
  refine service_runs_keep_ledger _ fun op hop => ?_
  simp only [List.mem_cons, List.not_mem_nil, or_false] at hop
  rcases hop with rfl | rfl | rfl | rfl <;> refine ⟨trivial, ?_⟩ <;> simp only [Op.Sized] <;> decide

end DoubleEntry
