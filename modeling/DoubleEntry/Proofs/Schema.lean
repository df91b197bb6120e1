import Mathlib.Logic.Relation
import DoubleEntry.Proofs.Report

/-!
# DoubleEntry.Proofs.Schema

What the integrity check reports on every state the schema admits.

Direct calls on the store write rows the service never would: an entry of any amount, a
balance set to any value, a transfer with no entries. What the schema's constraints keep is
`Tables.Schema`: the keys and counters, the account of every entry, and each transfer's
positive 64-bit amount between two distinct accounts. Every call keeps it (`Schema.step`),
so it holds after every run. On such tables, when each account's sum is exact and no
transfer's two linked entries overflow when added, the report counts the rows and lists the
accounts whose balance is not the sum of their entries, then the transfers their entries do
not carry (`Schema.checkIntegrity_report`); it is healthy exactly when every balance is its
entries' sum and every transfer is carried (`issues_eq_nil_iff`).
-/

namespace DoubleEntry

namespace Tables

/-! ## The foreign key of the entries -/

/-- Every entry names an account: the foreign key of the entries. -/
def EntriesNamed (t : Tables) : Prop :=
  ∀ e ∈ t.entries, ∃ a ∈ t.accounts, a.id = e.accountId

theorem withTransfer_ids (t : Tables) (src dst amount : Int) :
    (t.withTransfer src dst amount).accounts.map (·.id) = t.accounts.map (·.id) := by
  simp only [withTransfer_accounts, List.map_map]
  refine List.map_congr_left fun x _ => ?_
  simp only [Function.comp_apply]
  split_ifs <;> rfl

theorem exists_withTransfer_account {t : Tables} {src dst amount i : Int}
    (h : ∃ a ∈ t.accounts, a.id = i) :
    ∃ a ∈ (t.withTransfer src dst amount).accounts, a.id = i := by
  have hi := List.mem_map.2 h
  rw [← withTransfer_ids t src dst amount] at hi
  exact List.mem_map.1 hi

theorem mem_withAccount_entries {t : Tables} {owner : String} {currency : Currency} {b : Int}
    {e : Entry} : e ∈ (t.withAccount owner currency b).entries ↔
      e ∈ t.entries ∨ 0 < b ∧ e = ⟨t.entrySeq + 1, t.accountSeq + 1, b, none⟩ := by
  rw [withAccount_entries, List.mem_append]
  split <;> simp_all

theorem EntriesNamed.withTransfer {t : Tables} (h : t.EntriesNamed) {src dst : Int}
    (hs : ∃ a ∈ t.accounts, a.id = src) (hd : ∃ a ∈ t.accounts, a.id = dst) (amount : Int) :
    (t.withTransfer src dst amount).EntriesNamed := by
  intro e he
  rw [withTransfer_entries, List.mem_append] at he
  rcases he with he | he
  · exact exists_withTransfer_account (h e he)
  · simp only [List.mem_cons, List.not_mem_nil, or_false] at he
    rcases he with rfl | rfl
    · exact exists_withTransfer_account hs
    · exact exists_withTransfer_account hd

theorem EntriesNamed.withAccount {t : Tables} (h : t.EntriesNamed) (owner : String)
    (currency : Currency) (b : Int) : (t.withAccount owner currency b).EntriesNamed := by
  intro e he
  rcases mem_withAccount_entries.1 he with he | ⟨-, rfl⟩
  · obtain ⟨a, ha, hid⟩ := h e he
    exact ⟨a, by simp [ha], hid⟩
  · exact ⟨⟨t.accountSeq + 1, owner, b, currency⟩, by simp, rfl⟩

theorem EntriesNamed.dropAccount {t : Tables} (h : t.EntriesNamed) {id : Int}
    (hfree : ∀ e ∈ t.entries, e.accountId ≠ id) : (t.dropAccount id).EntriesNamed := by
  intro e he
  obtain ⟨a, ha, hid⟩ := h e he
  refine ⟨a, List.mem_filter.2 ⟨ha, ?_⟩, hid⟩
  simpa [hid] using hfree e he

/-! ## What the schema keeps -/

/-- What the schema keeps on every state: the keys and counters, the foreign key of the
entries, and the checks on the transfers. -/
structure Schema (t : Tables) : Prop where
  wf : t.Wf
  account : t.EntriesNamed
  transfer : ∀ x ∈ t.transfers,
    0 < x.amount ∧ Signed64.Fits x.amount ∧ x.fromAccount ≠ x.toAccount

theorem schema_empty : empty.Schema :=
  ⟨wf_empty, by simp [EntriesNamed, empty], by simp [empty]⟩

section Step

variable {t : Tables}

theorem EntriesNamed.of_ids {t' : Tables} (h : t.EntriesNamed) (hent : t'.entries = t.entries)
    (hids : ∀ a ∈ t.accounts, ∃ a' ∈ t'.accounts, a'.id = a.id) : t'.EntriesNamed := by
  intro e he
  rw [hent] at he
  obtain ⟨a, ha, hid⟩ := h e he
  obtain ⟨a', ha', hid'⟩ := hids a ha
  exact ⟨a', ha', hid'.trans hid⟩

theorem setBalance_ids (t : Tables) (id v : Int) :
    ∀ a ∈ t.accounts, ∃ a' ∈ (t.setBalance id v).accounts, a'.id = a.id := by
  intro a ha
  refine ⟨if a.id = id then { a with balance := v } else a, List.mem_map_of_mem ha, ?_⟩
  split <;> rfl

theorem Schema.serviceStep (h : t.Schema) {t' : Tables} (hs : ServiceStep t t') : t'.Schema := by
  cases hs with
  | keep => exact h
  | openAccount owner currency _ _ =>
    refine ⟨h.wf.withAccount owner currency _, h.account.withAccount owner currency _, ?_⟩
    rw [withAccount_transfers]
    exact h.transfer
  | transfer hA =>
    obtain ⟨a, ha, -⟩ := hA.debit
    obtain ⟨b, hb, -⟩ := hA.credit
    refine ⟨h.wf.withTransfer _ _ _,
      h.account.withTransfer ⟨a, account?_eq_some ha⟩ ⟨b, account?_eq_some hb⟩ _, ?_⟩
    intro x hx
    rw [withTransfer_transfers, List.mem_append, List.mem_singleton] at hx
    rcases hx with hx | rfl
    · exact h.transfer x hx
    · exact ⟨hA.pos, hA.fits, hA.ne⟩
  | delete hfree => exact ⟨h.wf.dropAccount _, h.account.dropAccount hfree, h.transfer⟩

/-- Every call keeps what the schema keeps, direct writes on the store included. -/
theorem Schema.step (h : t.Schema) {t' : Tables} (hs : Step t t') : t'.Schema := by
  cases hs with
  | service hs => exact h.serviceStep hs
  | insertAccount owner currency =>
    exact ⟨h.wf.pushAccount owner currency 0,
      h.account.of_ids rfl fun a ha => ⟨a, List.mem_append_left _ ha, rfl⟩, h.transfer⟩
  | setBalance _ _ =>
    exact ⟨h.wf.setBalance _ _, h.account.of_ids rfl (setBalance_ids t _ _), h.transfer⟩
  | insertEntry amount transfer ha =>
    refine ⟨h.wf.pushEntry _ amount transfer, ?_, h.transfer⟩
    intro e he
    simp only [pushEntry, List.mem_append, List.mem_singleton] at he
    rcases he with he | rfl
    · exact h.account e he
    · obtain ⟨a, ha⟩ := Option.ne_none_iff_exists'.1 ha
      exact ⟨a, account?_eq_some ha⟩
  | insertTransfer hpos hne hamt _ _ =>
    refine ⟨h.wf.pushTransfer _ _ _, h.account.of_ids rfl fun a ha => ⟨a, ha, rfl⟩, ?_⟩
    intro x hx
    simp only [pushTransfer, List.mem_append, List.mem_singleton] at hx
    rcases hx with hx | rfl
    · exact h.transfer x hx
    · exact ⟨hpos, hamt, hne⟩

theorem Schema.of_steps (h : t.Schema) {t' : Tables} (hr : Relation.ReflTransGen Step t t') :
    t'.Schema := by
  induction hr with
  | refl => exact h
  | tail _ step ih => exact ih.step step

end Step

/-! ## The report -/

section Report

variable {t : Tables}

/-- The integrity check on tables the schema admits, when each account's sum is exact and no
transfer's two linked entries overflow when added: the balance mismatches, in the order of
the accounts, then one issue for each transfer its entries do not carry. -/
theorem Schema.checkIntegrity_report {p : Pool} (hp : p.Serves t) (h : t.Schema)
    (hsum : ∀ i, runningSum (t.amountsOf i) 0 = .ok (t.amountsOf i).sum)
    (hpair : ∀ x ∈ t.transfers, ∀ e₁ e₂, t.entries.filter (·.transferId == some x.id) = [e₁, e₂] →
      Signed64.Fits (e₁.amount + e₂.amount)) :
    ∃ tissues q, Service.checkIntegrity p = .ok
      { accountCount := t.accounts.length, transferCount := t.transfers.length,
        entryCount := t.entries.length, totalBalance := totalBalance t.accounts,
        issues := t.accounts.filterMap (fun a => if a.balance ≠ (t.amountsOf a.id).sum then
            some (Issue.balanceMismatch a.id a.balance (t.amountsOf a.id).sum) else none) ++
          tissues } q ∧
      List.Forall₂ (fun x i => ∃ reason, i = Issue.transferEntries x.id reason)
        (t.transfers.filter fun x => !decide (t.Carries x)) tissues := by
  obtain ⟨tissues, hti, hall⟩ := transferIssues_linked t
    (fun x hx => ⟨(h.transfer x hx).1, (h.transfer x hx).2.1⟩) hpair
  obtain ⟨q, hq⟩ := checkIntegrity_run hp (entryTotals_eq hsum) hti
  rw [mismatches_entryTotals, unknownAccounts_eq_nil h.account] at hq
  simp only [List.map_nil, List.append_nil] at hq
  exact ⟨tissues, q, hq, hall⟩

/-- The issues are none exactly when every balance is its entries' sum and every transfer is
carried. -/
theorem issues_eq_nil_iff {tissues : List Issue}
    (hall : List.Forall₂ (fun x i => ∃ reason, i = Issue.transferEntries x.id reason)
      (t.transfers.filter fun x => !decide (t.Carries x)) tissues) :
    t.accounts.filterMap (fun a => if a.balance ≠ (t.amountsOf a.id).sum then
        some (Issue.balanceMismatch a.id a.balance (t.amountsOf a.id).sum) else none) ++
      tissues = [] ↔
      (∀ a ∈ t.accounts, a.balance = (t.amountsOf a.id).sum) ∧ ∀ x ∈ t.transfers, t.Carries x := by
  have htis : tissues = [] ↔ t.transfers.filter (fun x => !decide (t.Carries x)) = [] := by
    rw [← List.length_eq_zero_iff, ← List.length_eq_zero_iff, hall.length_eq]
  rw [List.append_eq_nil_iff, htis, List.filterMap_eq_nil_iff, List.filter_eq_nil_iff]
  simp

end Report

end Tables

/-- On every state reachable by service requests and direct store calls from the empty
schema, when each account's sum is exact and no transfer's two linked entries overflow when
added, the integrity check counts the rows and reports exactly the accounts whose balance is
not the sum of their entries, in id order, then the transfers their entries do not carry, in
id order; the report is healthy exactly when every balance is its entries' sum and every
transfer moves a positive amount between two accounts and is carried by its entries. -/
theorem integrity_report_exact (ops : List Op) (hops : ∀ op ∈ ops, op.Sized) {t : Tables}
    (ht : (runOps ops { file := .ledger .empty }).file = .ledger t)
    (hsum : ∀ i, Tables.runningSum (t.amountsOf i) 0 = .ok (t.amountsOf i).sum)
    (hpair : ∀ x ∈ t.transfers, ∀ e₁ e₂, t.entries.filter (·.transferId == some x.id) = [e₁, e₂] →
      Signed64.Fits (e₁.amount + e₂.amount)) :
    t.accounts.Pairwise (·.id < ·.id) ∧ t.transfers.Pairwise (·.id < ·.id) ∧
      ∃ r q, Service.checkIntegrity (runOps ops { file := .ledger .empty }) = .ok r q ∧
        r.accountCount = t.accounts.length ∧ r.transferCount = t.transfers.length ∧
        r.entryCount = t.entries.length ∧
        (∃ tissues, r.issues = t.accounts.filterMap (fun a =>
            if a.balance ≠ (t.amountsOf a.id).sum then
              some (Issue.balanceMismatch a.id a.balance (t.amountsOf a.id).sum) else none) ++
            tissues ∧
          List.Forall₂ (fun x i => ∃ reason, i = Issue.transferEntries x.id reason)
            (t.transfers.filter fun x => !decide (t.Carries x)) tissues) ∧
        (r.healthy = true ↔ (∀ a ∈ t.accounts, a.balance = (t.amountsOf a.id).sum) ∧
          ∀ x ∈ t.transfers, 0 < x.amount ∧ x.fromAccount ≠ x.toAccount ∧ t.Carries x) := by
  obtain ⟨t', hserves, -, hsteps⟩ := runOps_from_empty fun op hop => Op.run_evolves (hops op hop)
  obtain rfl : t' = t := DbFile.ledger.inj (hserves.file.symm.trans ht)
  have hs := Tables.schema_empty.of_steps hsteps
  obtain ⟨tissues, q, hq, hall⟩ := hs.checkIntegrity_report hserves hsum hpair
  refine ⟨hs.wf.accounts, hs.wf.transfers, _, q, hq, rfl, rfl, rfl, ⟨tissues, rfl, hall⟩, ?_⟩
  rw [Report.healthy_iff, Tables.issues_eq_nil_iff hall]
  constructor
  · rintro ⟨hbal, hcar⟩
    exact ⟨hbal, fun x hx => ⟨(hs.transfer x hx).1, (hs.transfer x hx).2.2, hcar x hx⟩⟩
  · rintro ⟨hbal, hx⟩
    exact ⟨hbal, fun x h => (hx x h).2.2⟩

/-- A balance raised behind the ledger's back is reported. -/
theorem integrity_report_exact_tampered :
    ∃ r q, Service.checkIntegrity (runOps [.call (.service (.createAccount "alice" "USD" 10)),
        .call (.store (.addBalance 1 5))] { file := .ledger .empty }) = .ok r q ∧
      r.healthy = false := by
  obtain ⟨-, -, r, q, hq, -, -, -, -, hhealthy⟩ := integrity_report_exact
    [.call (.service (.createAccount "alice" "USD" 10)), .call (.store (.addBalance 1 5))]
    (fun op hop => by
      simp only [List.mem_cons, List.not_mem_nil, or_false] at hop
      rcases hop with rfl | rfl
      · exact (by decide : Signed64.Fits 10)
      · trivial)
    (t := ⟨[⟨1, "alice", 15, .usd⟩], [⟨1, 1, 10, none⟩], [], 1, 1, 0⟩)
    (by decide)
    (fun i => by
      by_cases hi : (1 : Int) = i
      · subst hi
        decide
      · simp [Tables.amountsOf, hi, Tables.runningSum])
    (by simp)
  refine ⟨r, q, hq, ?_⟩
  cases hr : r.healthy
  · rfl
  · have hbal := (hhealthy.1 hr).1 ⟨1, "alice", 15, .usd⟩ List.mem_cons_self
    exact absurd hbal (by decide)

end DoubleEntry
