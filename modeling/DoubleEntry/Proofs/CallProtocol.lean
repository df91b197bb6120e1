import DoubleEntry.Proofs.MemoryCalls
import DoubleEntry.Proofs.Rollback

/-!
# DoubleEntry.Proofs.CallProtocol

The calls a transfer request makes on the in-memory store, for every state of the store and
every request, as the store's call log records them.

The service checks the request on its face first and makes no call for it. It then reads the
source and the destination, each read logged, and stops at the first check that fails
(`createTransfer_refused_logs`). A request that passes begins a transaction, which logs `begin`
and counts one more transaction begun. The body writes the transfer row and its two entries,
moves the two balances lower account id first, and reads the row back. When the shared id
counter has room for the three rows and neither balance leaves the 64-bit range, the
transaction logs `commit` (`createTransfer_committed_logs`). `transferCalls` lays the whole log
out case by case. With less room the counter overflows inside the body, which poisons the
store's lock, and the log stops there (`transfer_log_stops_when_ids_run_out`). The count of transactions grows by one exactly when the checks pass, whatever the
transaction then does (`createTransfer_started`): every call of the body leaves the count alone
(`MemoryStore.Spends`).

Main statement: `transfer_call_protocol`.
-/

namespace DoubleEntry

/-- The calls a transfer request logs on the in-memory store holding the rows `u`, where `id`
is the id the counter gives next: none for a request refused on its face; the read of the
source when the source is missing, in another currency or not the principal's; both reads when
the destination is missing or in another currency; and otherwise both reads, then the
transaction, `begin`, the transfer row, its debit and its credit, the two balance increments,
the row read back by its id, and `commit`. -/
def transferCalls (u : Tables) (principal : String) (src dst amount : Int) (currency : Currency)
    (id : Int) : List String :=
  if amount ≤ 0 ∨ src = dst then []
  else if (u.account? src).any (fun a => a.currency == currency && a.owner == principal) = false then
    [s!"get_account({src})"]
  else if (u.account? dst).any (fun b => b.currency == currency) = false then
    [s!"get_account({src})", s!"get_account({dst})"]
  else
    [s!"get_account({src})", s!"get_account({dst})", "begin"] ++ MemoryStore.recordCalls src dst amount id ++ ["commit"]

theorem orderedPair_comm (a b : Int) : orderedPair a b = orderedPair b a := by
  unfold orderedPair
  by_cases hab : a ≤ b <;> by_cases hba : b ≤ a
  · obtain rfl : a = b := by omega
    rfl
  · simp [hab, hba]
  · simp [hab, hba]
  · omega

theorem transferCalls_of_passed {u : Tables} {principal : String} {src dst amount : Int}
    {currency : Currency} (h : transferRejection u principal src dst amount currency = none) (id : Int) :
    transferCalls u principal src dst amount currency id =
      [s!"get_account({src})", s!"get_account({dst})", "begin"] ++ MemoryStore.recordCalls src dst amount id ++
        ["commit"] := by
  obtain ⟨hpos, hne, a, ha, hc, ho, b, hb, hc'⟩ := transferRejection_eq_none h
  have hface : ¬ (amount ≤ 0 ∨ src = dst) := by omega
  simp [transferCalls, hface, ha, hb, hc, ho, hc']

namespace MemoryStore

variable {m : MemoryStore} {d : MemTables}

/-- The in-memory store keeps no diagnostic events. -/
@[simp] theorem note_eq (e : Event) (m : MemoryStore) : LedgerStore.note e m = m := rfl

theorem Ready.logged_eq (hm : m.Ready d) (call : String) :
    m.logged call d = { m with calls := m.calls ++ [call] } := by
  unfold MemoryStore.logged
  rw [← hm.data]

/-! ## The reads of the checks -/

/-- Reading an account for the checks logs the read, and answers the account when it holds the
currency. -/
theorem accountIn_ready (hm : m.Ready d) (id : Int) (c : Currency) :
    (Service.accountIn id c : Act MemoryStore LedgerError Account) m =
      match d.toTables.account? id with
      | some a =>
        if a.currency = c then .ok a (m.logged s!"get_account({id})" d)
        else .error (.fail (.currencyMismatch id a.currency c)) (m.logged s!"get_account({id})" d)
      | none => .error (.fail (.accountNotFound id)) (m.logged s!"get_account({id})" d) := by
  have hread := getAccount_ready hm id
  cases ha : d.toTables.account? id with
  | none =>
    rw [ha] at hread
    exact Service.accountIn_of_missing hread
  | some a =>
    rw [ha] at hread
    dsimp only
    by_cases hc : a.currency = c
    · rw [if_pos hc]
      exact Service.accountIn_of_read hread hc
    · rw [if_neg hc]
      exact Service.accountIn_of_mismatch hread hc

/-- A request refused by a check answers that refusal, having logged only the reads the checks
made, and begins no transaction. -/
theorem createTransfer_refused_logs (hm : m.Ready d) {principal : String} {src dst amount : Int}
    {currency : Currency} {e : LedgerError}
    (h : transferRejection d.toTables principal src dst amount currency = some e) (id : Int) :
    (Service.createTransfer principal src dst amount currency : Act MemoryStore LedgerError Transfer) m =
      .error (.fail e) { m with calls := m.calls ++ transferCalls d.toTables principal src dst amount currency id } := by
  unfold transferRejection at h
  unfold Service.createTransfer transferCalls
  by_cases h0 : amount ≤ 0
  · rw [if_pos h0] at h
    cases h
    rw [if_pos h0, if_pos (Or.inl h0), Service.refuse_run]
    simp [LedgerStore.note]
  by_cases hs : src = dst
  · rw [if_neg h0, if_pos hs] at h
    cases h
    rw [if_neg h0, if_pos hs, if_pos (Or.inr hs), Service.refuse_run]
    simp [LedgerStore.note]
  rw [if_neg h0, if_neg hs] at h
  rw [if_neg h0, if_neg hs, if_neg (not_or.2 ⟨h0, hs⟩)]
  have hsrc := accountIn_ready hm src currency
  cases ha : d.toTables.account? src with
  | none =>
    rw [ha] at h hsrc
    cases h
    rw [Act.bind_error hsrc, hm.logged_eq]
    simp
  | some a =>
    rw [ha] at h hsrc
    dsimp only at h hsrc
    by_cases hc : a.currency = currency
    · rw [if_neg (not_not_intro hc)] at h
      rw [if_pos hc] at hsrc
      rw [Act.bind_ok hsrc]
      by_cases ho : a.owner = principal
      · rw [if_neg (not_not_intro ho)] at h
        rw [if_neg (by simp [Account.ownedBy, ho])]
        have hm₁ := hm.logged s!"get_account({src})" d
        have hdst := accountIn_ready hm₁ dst currency
        cases hb : d.toTables.account? dst with
        | none =>
          rw [hb] at h hdst
          cases h
          rw [Act.bind_error hdst, hm₁.logged_eq, hm.logged_eq]
          simp [hc, ho]
        | some b =>
          rw [hb] at h hdst
          dsimp only at h hdst
          by_cases hc' : b.currency = currency
          · rw [if_neg (not_not_intro hc')] at h
            cases h
          · rw [if_pos hc'] at h
            rw [if_neg hc'] at hdst
            cases h
            rw [Act.bind_error hdst, hm₁.logged_eq, hm.logged_eq]
            simp [hc, ho, hc']
      · rw [if_pos ho] at h
        cases h
        have hid : a.id = src := (Tables.account?_eq_some ha).2
        rw [if_pos (by simp [Account.ownedBy, ho]), Service.refuse_run, hid, hm.logged_eq]
        simp [LedgerStore.note, hc, ho]
    · rw [if_pos hc] at h
      rw [if_neg hc] at hsrc
      cases h
      rw [Act.bind_error hsrc, hm.logged_eq]
      simp [hc]

/-- A request that passes every check has logged its two reads and hands its body to a
transaction. -/
theorem createTransfer_passed (hm : m.Ready d) {principal : String} {src dst amount : Int}
    {currency : Currency} (h : transferRejection d.toTables principal src dst amount currency = none) :
    (Service.createTransfer principal src dst amount currency : Act MemoryStore LedgerError Transfer) m =
      (Service.atomically (Service.recordTransfer src dst amount) >>= fun x =>
        Service.note (.transferCompleted x.id src dst amount currency) >>= fun _ => pure x)
        { m with calls := m.calls ++ [s!"get_account({src})", s!"get_account({dst})"] } := by
  obtain ⟨hpos, hne, a, ha, hc, ho, b, hb, hc'⟩ := transferRejection_eq_none h
  have hsrc := getAccount_ready hm src
  have hdst := getAccount_ready (hm.logged s!"get_account({src})" d) dst
  rw [ha] at hsrc
  rw [hb] at hdst
  rw [Service.createTransfer_of_reads hpos hne hsrc hc ho hdst hc', note_eq,
    (hm.logged _ d).logged_eq, hm.logged_eq]
  simp only [List.append_assoc, List.cons_append, List.nil_append]

/-! ## The transaction -/

/-- A transaction begun outside another counts one more transaction, whatever its body does,
when the body's calls leave the count alone. -/
theorem transact_started {ε α : Type} {body : Act MemoryStore ε α} (hb : Act.Keeps Spends body)
    (hin : m.inTx = false) : (transact body m).2.started = m.started + 1 := by
  unfold transact
  rw [if_neg (by simp [hin])]
  dsimp only
  generalize hm₀ : { m with started := m.started + 1, calls := m.calls ++ ["begin"], inTx := true } = m₀
  have hstart : m₀.started = m.started + 1 := hm₀ ▸ rfl
  have hs := hb m₀
  cases hd : m.data with
  | none => rfl
  | some s =>
    dsimp only
    cases hres : body m₀ with
    | ok a m' =>
      rw [Act.after_of_ok hres] at hs
      exact hs.started.trans hstart
    | error e m' =>
      rw [Act.after_of_error hres] at hs
      have hrestore : ∀ r, restore s m' = some r → r.started = m'.started := by
        intro r hr
        simp only [restore, Option.map_eq_some_iff] at hr
        obtain ⟨-, -, rfl⟩ := hr
        rfl
      cases e with
      | fail e =>
        dsimp only
        cases hr : restore s m' with
        | none => exact hs.started.trans hstart
        | some r => exact ((hrestore r hr).trans hs.started).trans hstart
      | abort x =>
        dsimp only
        cases hr : restore s m' with
        | none => exact hs.started.trans hstart
        | some r => exact ((hrestore r hr).trans hs.started).trans hstart

theorem atomically_started {α : Type} {body : Act MemoryStore LedgerError α}
    (hb : Act.Keeps Spends body) (hin : m.inTx = false) :
    ((Service.atomically body).after m).started = m.started + 1 := by
  have h := transact_started hb hin
  unfold Service.atomically Act.after
  dsimp only
  rw [show (LedgerStore.transact body m : TxEnd LedgerError α × MemoryStore) = transact body m from rfl]
  rcases htx : transact body m with ⟨_ | _ | _ | _, m'⟩ <;> rw [htx] at h <;> exact h

/-- What a request does after its transaction answers leaves the store as the transaction left
it: the store keeps no events. -/
theorem after_completed {α : Type} (x : Act MemoryStore LedgerError α) (k : α → Event) (m : MemoryStore) :
    (x >>= fun a => Service.note (k a) >>= fun _ => pure a).after m = x.after m := by
  cases hx : x m with
  | ok a m' =>
    have hk : (x >>= fun a => Service.note (k a) >>= fun _ => pure a) m = .ok a m' := by
      rw [Act.bind_ok hx]
      rfl
    rw [Act.after_of_ok hk, Act.after_of_ok hx]
  | error e m' =>
    rw [Act.after_of_error hx, Act.after_of_error (Act.bind_error hx)]

/-- Once its checks pass, a request leaves the store as its transaction does, begun on the
store that logged the two reads. -/
theorem createTransfer_after_passed (hm : m.Ready d) {principal : String} {src dst amount : Int}
    {currency : Currency} (h : transferRejection d.toTables principal src dst amount currency = none) :
    (Service.createTransfer principal src dst amount currency : Act MemoryStore LedgerError Transfer).after m =
      (Service.atomically (Service.recordTransfer src dst amount)).after
        { m with calls := m.calls ++ [s!"get_account({src})", s!"get_account({dst})"] } := by
  unfold Act.after
  rw [createTransfer_passed hm h]
  exact after_completed _ _ _

/-- A request that passes every check counts one more transaction, whatever the transaction
then does. -/
theorem createTransfer_started (hm : m.Serves d) {principal : String} {src dst amount : Int}
    {currency : Currency} (h : transferRejection d.toTables principal src dst amount currency = none) :
    ((Service.createTransfer principal src dst amount currency : Act MemoryStore LedgerError Transfer).after m).started =
      m.started + 1 := by
  rw [createTransfer_after_passed hm.toReady h]
  exact atomically_started (bodyCallsKeep.recordTransfer_keeps src dst amount) hm.outside

/-- A request that passes every check, on rows whose counter has room for three more ids and
whose two balances stay in range, logs its two reads and the whole committed transaction. -/
theorem createTransfer_committed_logs (hm : m.Serves d) (hu : d.accounts.Pairwise (·.id < ·.id))
    (hid : Signed64.Fits d.lastId) (hroom : Signed64.Fits (d.lastId + 3)) {principal : String}
    {src dst amount : Int} {currency : Currency} (hamt : Signed64.Fits amount)
    (hr : transferRejection d.toTables principal src dst amount currency = none)
    (ho : transferOverflow d.toTables src dst amount = none) :
    ((Service.createTransfer principal src dst amount currency : Act MemoryStore LedgerError Transfer).after m).calls =
      m.calls ++ transferCalls d.toTables principal src dst amount currency (d.lastId + 1) := by
  obtain ⟨hpos, hne, a, ha, -, -, b, hb, -⟩ := transferRejection_eq_none hr
  obtain ⟨hfa, hfb⟩ := (transferOverflow_eq_none ha hb).1 ho
  have hm₁ : ({ m with calls := m.calls ++ [s!"get_account({src})", s!"get_account({dst})"] } :
      MemoryStore).Serves d := ⟨⟨hm.data, hm.unarmed⟩, hm.outside⟩
  obtain ⟨x, -, e⟩ := recordTransfer_logs hm₁.begun hu hid hroom hne (Signed64.fits_neg hamt hpos)
    ha hb hfa hfb
  rw [createTransfer_after_passed hm.toReady hr, Act.after_of_ok (atomically_answered hm₁ e),
    transferCalls_of_passed hr]
  simp [MemoryStore.committed, MemoryStore.begun]

end MemoryStore

/-- The calls a transfer request makes on the in-memory store, for every store that holds rows
with accounts in increasing id order and a 64-bit id counter, outside a transaction and with no
failure armed, and for every request with a 64-bit amount. The count of transactions begun grows
by one exactly when the request passes its checks. A refused request logs the reads its checks
made, as `transferCalls` lays out; so does a request that passes, when the counter has room for
its three rows and neither balance leaves the 64-bit range, down to `commit`. The increments
touch the two accounts in one order whichever way the money moves. -/
theorem transfer_call_protocol (m : MemoryStore) (d : MemTables) (hm : m.Serves d)
    (hkeys : d.accounts.Pairwise (·.id < ·.id)) (hid : Signed64.Fits d.lastId) (principal : String)
    (src dst amount : Int) (currency : Currency) (hamt : Signed64.Fits amount) :
    ((Service.createTransfer principal src dst amount currency : Act MemoryStore LedgerError Transfer).after m).started =
        m.started + (if transferRejection d.toTables principal src dst amount currency = none then 1 else 0) ∧
      (transferRejection d.toTables principal src dst amount currency ≠ none ∨
          (Signed64.Fits (d.lastId + 3) ∧ transferOverflow d.toTables src dst amount = none) →
        ((Service.createTransfer principal src dst amount currency : Act MemoryStore LedgerError Transfer).after m).calls =
          m.calls ++ transferCalls d.toTables principal src dst amount currency (d.lastId + 1)) ∧
      orderedPair dst src = orderedPair src dst := by
  cases hr : transferRejection d.toTables principal src dst amount currency with
  | some e =>
    have hafter := Act.after_of_error (MemoryStore.createTransfer_refused_logs hm.toReady hr (d.lastId + 1))
    refine ⟨?_, fun _ => ?_, orderedPair_comm dst src⟩
    · rw [hafter]
      rfl
    · rw [hafter]
  | none =>
    refine ⟨MemoryStore.createTransfer_started hm hr, fun h => ?_, orderedPair_comm dst src⟩
    obtain ⟨hroom, ho⟩ := h.resolve_left (not_not_intro rfl)
    exact MemoryStore.createTransfer_committed_logs hm hkeys hid hroom hamt hr ho

theorem transfer_call_protocol_paid :
    ({ data := some ⟨[⟨1, "alice", 10000, .usd⟩, ⟨2, "bob", 5000, .usd⟩], [], [], 2⟩ } : MemoryStore).Serves
        ⟨[⟨1, "alice", 10000, .usd⟩, ⟨2, "bob", 5000, .usd⟩], [], [], 2⟩ ∧
      ([⟨1, "alice", 10000, .usd⟩, ⟨2, "bob", 5000, .usd⟩] : List Account).Pairwise (·.id < ·.id) ∧
      Signed64.Fits 2 ∧ Signed64.Fits 3000 ∧
      ((Service.createTransfer "alice" 1 2 3000 .usd : Act MemoryStore LedgerError Transfer).after
          { data := some ⟨[⟨1, "alice", 10000, .usd⟩, ⟨2, "bob", 5000, .usd⟩], [], [], 2⟩ }).started =
        0 + (if transferRejection (⟨[⟨1, "alice", 10000, .usd⟩, ⟨2, "bob", 5000, .usd⟩], [], [], 2⟩ : MemTables).toTables
          "alice" 1 2 3000 .usd = none then 1 else 0) ∧
      (transferRejection (⟨[⟨1, "alice", 10000, .usd⟩, ⟨2, "bob", 5000, .usd⟩], [], [], 2⟩ : MemTables).toTables
            "alice" 1 2 3000 .usd ≠ none ∨
          (Signed64.Fits (2 + 3) ∧ transferOverflow (⟨[⟨1, "alice", 10000, .usd⟩, ⟨2, "bob", 5000, .usd⟩], [], [], 2⟩ :
            MemTables).toTables 1 2 3000 = none) →
        ((Service.createTransfer "alice" 1 2 3000 .usd : Act MemoryStore LedgerError Transfer).after
            { data := some ⟨[⟨1, "alice", 10000, .usd⟩, ⟨2, "bob", 5000, .usd⟩], [], [], 2⟩ }).calls =
          [] ++ transferCalls (⟨[⟨1, "alice", 10000, .usd⟩, ⟨2, "bob", 5000, .usd⟩], [], [], 2⟩ : MemTables).toTables
            "alice" 1 2 3000 .usd (2 + 1)) ∧
      orderedPair 2 1 = orderedPair 1 2 :=
  ⟨⟨⟨rfl, rfl⟩, rfl⟩, by decide, by decide, by decide,
    transfer_call_protocol _ _ ⟨⟨rfl, rfl⟩, rfl⟩ (by decide) (by decide) "alice" 1 2 3000 .usd (by decide)⟩

/-- With the counter one short of the largest 64-bit id, a transfer that passes its checks, with
both balances in range, gets its row but not its debit's entry: the counter overflows there, the
store's lock is poisoned, and the log stops at that entry, with one transaction begun. -/
theorem transfer_log_stops_when_ids_run_out :
    transferRejection (⟨[⟨1, "a", 10, .usd⟩, ⟨Signed64.max - 1, "b", 0, .usd⟩], [], [], Signed64.max - 1⟩ :
        MemTables).toTables "a" 1 (Signed64.max - 1) 1 .usd = none ∧
      transferOverflow (⟨[⟨1, "a", 10, .usd⟩, ⟨Signed64.max - 1, "b", 0, .usd⟩], [], [], Signed64.max - 1⟩ :
        MemTables).toTables 1 (Signed64.max - 1) 1 = none ∧
      ((Service.createTransfer "a" 1 (Signed64.max - 1) 1 .usd : Act MemoryStore LedgerError Transfer).after
          { data := some ⟨[⟨1, "a", 10, .usd⟩, ⟨Signed64.max - 1, "b", 0, .usd⟩], [], [], Signed64.max - 1⟩ }).calls =
        ["get_account(1)", "get_account(9223372036854775806)", "begin",
          "create_transfer(1, 9223372036854775806, 1)", "create_entry(1, -1)"] ∧
      ((Service.createTransfer "a" 1 (Signed64.max - 1) 1 .usd : Act MemoryStore LedgerError Transfer).after
          { data := some ⟨[⟨1, "a", 10, .usd⟩, ⟨Signed64.max - 1, "b", 0, .usd⟩], [], [], Signed64.max - 1⟩ }).started =
        1 := by
  decide

end DoubleEntry
