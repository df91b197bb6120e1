import DoubleEntry.Proofs.Numbering
import DoubleEntry.Proofs.Listing

/-!
# DoubleEntry.Proofs.MemoryOrder

What every request of the service keeps on any store, and the in-memory store's rows.

A relation between store states is kept by every request of the service as soon as each store
call keeps it, a transaction keeps it when its body does, and reporting an event keeps it
(`LedgerStore.KeptBy`, `Request.act_keeps`). On the in-memory store the rows, while the lock
holds them, stay well formed (`MemTables.Wf`): every write takes the next id of the counter,
so accounts and transfers stay in increasing id order, and a rolled back transaction puts back
rows that were well formed (`MemoryStore.keptBy`). So every run of requests from an empty store
leaves its transfers in id order, and its listing of transfers then agrees with the pool's
exactly when the filter has a page or fewer than 2^32 transfers match.

Main statement: `transfer_listing_exact`.
-/

namespace DoubleEntry

/-- What a relation between states needs of a store for every request of the service to keep
it. -/
structure LedgerStore.KeptBy (σ : Type) [LedgerStore σ] (R : σ → σ → Prop) : Prop where
  createAccount : ∀ a, Act.Keeps R (LedgerStore.createAccount a : Act σ Fault Account)
  getAccount : ∀ id, Act.Keeps R (LedgerStore.getAccount id : Act σ Fault (Option Account))
  listAccounts : ∀ owner page, Act.Keeps R (LedgerStore.listAccounts owner page : Act σ Fault _)
  deleteAccount : ∀ id, Act.Keeps R (LedgerStore.deleteAccount id : Act σ Fault Bool)
  addBalance : ∀ id delta, Act.Keeps R (LedgerStore.addBalance id delta : Act σ Fault (Option Int))
  createEntry : ∀ account amount transfer,
    Act.Keeps R (LedgerStore.createEntry account amount transfer : Act σ Fault Entry)
  listEntries : ∀ account page, Act.Keeps R (LedgerStore.listEntries account page : Act σ Fault _)
  createTransfer : ∀ src dst amount,
    Act.Keeps R (LedgerStore.createTransfer src dst amount : Act σ Fault Transfer)
  getTransfer : ∀ id, Act.Keeps R (LedgerStore.getTransfer id : Act σ Fault (Option Transfer))
  listTransfers : ∀ f, Act.Keeps R (LedgerStore.listTransfers f : Act σ Fault (List Transfer))
  transact : ∀ {ε α : Type} (body : Act σ ε α), Act.Keeps R body →
    ∀ s, R s (LedgerStore.transact body s).2
  note : ∀ e s, R s (LedgerStore.note e s)

namespace Service

variable {σ : Type} [LedgerStore σ] {R : σ → σ → Prop} [IsPreorder σ R]
  (h : LedgerStore.KeptBy σ R)
include h

omit [IsPreorder σ R] in
theorem note_keeps (e : Event) : Act.Keeps R (note e : Act σ LedgerError Unit) :=
  fun s => h.note e s

theorem refuse_keeps {α : Type} (e : Event) (err : LedgerError) :
    Act.Keeps R (refuse e err : Act σ LedgerError α) :=
  Act.Keeps.bind (note_keeps h e) fun _ => .fail _

omit [IsPreorder σ R] in
theorem atomically_keeps {α : Type} {body : Act σ LedgerError α} (hb : Act.Keeps R body) :
    Act.Keeps R (atomically body) := fun s => by
  rw [atomically_after]
  exact h.transact body hb s

theorem fetchAccount_keeps (id : Int) : Act.Keeps R (fetchAccount id : Act σ LedgerError Account) := by
  refine Act.Keeps.bind (.mapFail _ (h.getAccount id)) fun o => ?_
  cases o
  · exact .fail _
  · exact .pure _

theorem getAccount_keeps (principal : String) (id : Int) :
    Act.Keeps R (getAccount principal id : Act σ LedgerError Account) := by
  refine Act.Keeps.bind (fetchAccount_keeps h id) fun a => ?_
  split
  · exact .pure _
  · exact refuse_keeps h _ _

theorem openAccount_keeps (a : NewAccount) (opening : Int) :
    Act.Keeps R (openAccount a opening : Act σ LedgerError Account) := by
  refine Act.Keeps.bind (.mapFail _ (h.createAccount a)) fun row => ?_
  split
  · refine Act.Keeps.bind (.mapFail _ (h.createEntry _ _ _)) fun _ =>
      Act.Keeps.bind (.mapFail _ (h.addBalance _ _)) fun b => ?_
    cases b
    · exact .fail _
    · exact .pure _
  · exact .pure _

theorem createAccount_keeps (owner : String) (currency : Currency) (opening : Int) :
    Act.Keeps R (createAccount owner currency opening : Act σ LedgerError Account) := by
  unfold createAccount
  split
  · exact .fail _
  · exact Act.Keeps.bind (atomically_keeps h (openAccount_keeps h _ _)) fun _ =>
      Act.Keeps.bind (note_keeps h _) fun _ => .pure _

theorem deleteAccount_keeps (principal : String) (id : Int) :
    Act.Keeps R (deleteAccount principal id : Act σ LedgerError Account) := by
  refine Act.Keeps.bind (getAccount_keeps h principal id) fun a =>
    Act.Keeps.bind (.mapFail _ (h.deleteAccount id)) fun b => ?_
  cases b
  · exact .fail _
  · exact Act.Keeps.bind (note_keeps h _) fun _ => .pure _

theorem accountIn_keeps (id : Int) (currency : Currency) :
    Act.Keeps R (accountIn id currency : Act σ LedgerError Account) := by
  refine Act.Keeps.bind (fetchAccount_keeps h id) fun a => ?_
  split
  · exact .pure _
  · exact refuse_keeps h _ _

theorem applyPosting_keeps (p : Posting) : Act.Keeps R (applyPosting p : Act σ LedgerError Unit) := by
  refine Act.Keeps.bind (.mapFail _ (h.addBalance _ _)) fun b => ?_
  cases b
  · exact .fail _
  · exact note_keeps h _

theorem recordTransfer_keeps (src dst amount : Int) :
    Act.Keeps R (recordTransfer src dst amount : Act σ LedgerError Transfer) := by
  refine Act.Keeps.bind (.mapFail _ (h.createTransfer src dst amount)) fun x =>
    Act.Keeps.bind (.ofExcept _) fun ⟨debit, credit⟩ =>
    Act.Keeps.bind (.mapFail _ (h.createEntry _ _ _)) fun _ =>
    Act.Keeps.bind (.mapFail _ (h.createEntry _ _ _)) fun _ =>
    Act.Keeps.bind (.ofExcept _) fun ⟨first, second⟩ =>
    Act.Keeps.bind (applyPosting_keeps h first) fun _ =>
    Act.Keeps.bind (applyPosting_keeps h second) fun _ =>
    Act.Keeps.bind (.mapFail _ (h.getTransfer x.id)) fun stored => ?_
  cases stored
  · exact .fail _
  · exact .pure _

theorem createTransfer_keeps (principal : String) (src dst amount : Int) (currency : Currency) :
    Act.Keeps R (createTransfer principal src dst amount currency : Act σ LedgerError Transfer) := by
  unfold createTransfer
  split
  · exact refuse_keeps h _ _
  split
  · exact refuse_keeps h _ _
  refine Act.Keeps.bind (accountIn_keeps h src currency) fun a => ?_
  split
  · exact refuse_keeps h _ _
  exact Act.Keeps.bind (accountIn_keeps h dst currency) fun _ =>
    Act.Keeps.bind (note_keeps h _) fun _ =>
    Act.Keeps.bind (atomically_keeps h (recordTransfer_keeps h src dst amount)) fun _ =>
    Act.Keeps.bind (note_keeps h _) fun _ => .pure _

end Service

namespace Request

variable {σ : Type} [LedgerStore σ] {R : σ → σ → Prop} [IsPreorder σ R]
  (h : LedgerStore.KeptBy σ R)
include h

theorem act_keeps (r : Request) : Act.Keeps R (r.act : Act σ LedgerError Answer) := by
  cases r with
  | createAccount owner currency opening =>
    exact .map _ (Service.createAccount_keeps h owner currency opening)
  | getAccount principal id => exact .map _ (Service.getAccount_keeps h principal id)
  | listAccounts owner page => exact .map _ (.mapFail _ (h.listAccounts owner page))
  | deleteAccount principal id => exact .map _ (Service.deleteAccount_keeps h principal id)
  | listEntries principal account page =>
    exact .map _ (Act.Keeps.bind (Service.getAccount_keeps h principal account) fun _ =>
      .mapFail _ (h.listEntries account page))
  | getTransfer id =>
    refine .map _ (Act.Keeps.bind (.mapFail _ (h.getTransfer id)) fun x => ?_)
    cases x
    · exact .fail _
    · exact .pure _
  | listTransfers f => exact .map _ (.mapFail _ (h.listTransfers f))
  | createTransfer principal src dst amount currency =>
    exact .map _ (Service.createTransfer_keeps h principal src dst amount currency)

theorem finish_keeps : ∀ (rs : List Request) (s : σ), R s (finish rs s)
  | [], s => refl_of R s
  | r :: rs, s => trans_of R (act_keeps h r s) (finish_keeps rs _)

end Request

namespace MemoryStore

/-- The rows, while the lock holds them, are well formed. -/
def RowsWf (m : MemoryStore) : Prop := ∀ d, m.data = some d → d.Wf

def StaysWf (m m' : MemoryStore) : Prop := m.RowsWf → m'.RowsWf

instance : IsPreorder MemoryStore StaysWf where
  refl _ h := h
  trans _ _ _ h₁ h₂ h := h₂ (h₁ h)

theorem staysWf_of_data {m m' : MemoryStore} (h : m'.data = m.data) : StaysWf m m' :=
  fun hm d hd => hm d (h ▸ hd)

theorem staysWf_of_poisoned {m m' : MemoryStore} (h : m'.data = none) : StaysWf m m' := by
  intro _ d hd
  rw [h] at hd
  cases hd

theorem staysWf_of_rows {m m' : MemoryStore} {d d' : MemTables} (hd : m.data = some d)
    (hd' : m'.data = some d') (hw : d.Wf → d'.Wf) : StaysWf m m' := by
  intro hm e he
  rw [hd', Option.some.injEq] at he
  exact he ▸ hw (hm d hd)

theorem rowsWf_empty : ({} : MemoryStore).RowsWf := by
  intro d hd
  cases hd
  exact MemTables.wf_empty

theorem record_keeps (call : String) : Act.Keeps StaysWf (record call) := by
  intro m
  apply staysWf_of_data
  by_cases h : m.failOn = some (callName call) <;> simp [Act.after, record, h]

theorem withData_keeps {α : Type} {f : MemTables → α × MemTables} (hf : ∀ d, d.Wf → (f d).2.Wf) :
    Act.Keeps StaysWf (withData f) := by
  intro m
  cases hd : m.data with
  | none => exact staysWf_of_data (by simp only [Act.after, withData, hd])
  | some d => exact staysWf_of_rows hd (by simp only [Act.after, withData, hd]) (hf d)

theorem readData_keeps {α : Type} (f : MemTables → α) : Act.Keeps StaysWf (readData f) :=
  withData_keeps fun _ hw => hw

theorem read_keeps {α : Type} (call : String) (f : MemTables → α) :
    Act.Keeps StaysWf (record call >>= fun _ => readData f) :=
  Act.Keeps.bind (record_keeps call) fun _ => readData_keeps f

theorem withFreshId_keeps {α : Type} {f : Int → MemTables → α × MemTables}
    (hf : ∀ d : MemTables, d.Wf → (f (d.lastId + 1) { d with lastId := d.lastId + 1 }).2.Wf) :
    Act.Keeps StaysWf (withFreshId f) := by
  intro m
  cases hd : m.data with
  | none => exact staysWf_of_data (by simp only [Act.after, withFreshId, hd])
  | some d =>
    by_cases hfit : Signed64.Fits (d.lastId + 1)
    · exact staysWf_of_rows hd
        (by simp only [Act.after, withFreshId, hd, Signed64.add?, if_pos hfit]) (hf d)
    · exact staysWf_of_poisoned (by simp only [Act.after, withFreshId, hd, Signed64.add?, if_neg hfit])

theorem createAccount_keeps (n : NewAccount) : Act.Keeps StaysWf (createAccount n) := by
  refine Act.Keeps.bind (record_keeps _) fun _ => withFreshId_keeps fun d hw => ?_
  dsimp only
  rw [upsert_of_lt fun x hx => Int.lt_add_one_iff.2 (hw.accountsBelow x hx)]
  exact hw.pushAccount n.owner n.currency 0

theorem addBalance_keeps (id delta : Int) : Act.Keeps StaysWf (addBalance id delta) := by
  refine Act.Keeps.bind (record_keeps _) fun _ m => ?_
  cases hd : m.data with
  | none => exact staysWf_of_data (by simp only [Act.after, hd])
  | some d =>
    cases ha : d.accounts.find? (·.id == id) with
    | none => exact staysWf_of_data (by simp only [Act.after, hd, ha])
    | some a =>
      cases hb : Signed64.add? a.balance delta with
      | none => exact staysWf_of_poisoned (by simp only [Act.after, hd, ha, hb])
      | some b =>
        exact staysWf_of_rows hd (by simp only [Act.after, hd, ha, hb]) fun hw =>
          hw.mapAccounts (fun x => if x.id = id then { x with balance := b } else x) fun x => by
            split <;> rfl

theorem deleteAccount_keeps (id : Int) : Act.Keeps StaysWf (deleteAccount id) := by
  refine Act.Keeps.bind (record_keeps _) fun _ => withData_keeps fun d hw => ?_
  split
  · exact hw
  · split
    · exact hw.dropAccount id
    · exact hw

theorem restore_data {snapshot : MemTables} {m r : MemoryStore} (h : restore snapshot m = some r) :
    r.data = some snapshot := by
  obtain ⟨_, _, rfl⟩ := Option.map_eq_some_iff.1 h
  rfl

/-- A transaction keeps the rows well formed when its body does: it commits the body's rows, or
puts back those it began with. -/
theorem transact_keeps {ε α : Type} {body : Act MemoryStore ε α} (hb : Act.Keeps StaysWf body)
    (m : MemoryStore) : StaysWf m (transact body m).2 := by
  unfold transact
  split
  · exact refl_of StaysWf m
  dsimp only
  split
  · exact staysWf_of_data rfl
  rename_i snapshot hd
  have hbody := trans_of StaysWf (staysWf_of_data rfl)
    (hb { m with started := m.started + 1, calls := m.calls ++ ["begin"], inTx := true })
  split
  all_goals
    rename_i m' hm'
    first
      | rw [Act.after_of_ok hm'] at hbody
      | rw [Act.after_of_error hm'] at hbody
  · exact trans_of StaysWf hbody (staysWf_of_data rfl)
  all_goals
    split
    · rename_i r hr
      exact staysWf_of_rows hd (restore_data hr) id
    · exact trans_of StaysWf hbody (staysWf_of_data rfl)

theorem keptBy : LedgerStore.KeptBy MemoryStore StaysWf where
  createAccount := createAccount_keeps
  getAccount _ := read_keeps _ _
  listAccounts _ _ := read_keeps _ _
  deleteAccount := deleteAccount_keeps
  addBalance := addBalance_keeps
  createEntry account amount transfer :=
    Act.Keeps.bind (record_keeps _) fun _ => withFreshId_keeps fun _ hw =>
      hw.pushEntry account amount transfer
  listEntries _ _ := read_keeps _ _
  createTransfer src dst amount :=
    Act.Keeps.bind (record_keeps _) fun _ => withFreshId_keeps fun _ hw =>
      hw.pushTransfer src dst amount
  getTransfer _ := read_keeps _ _
  listTransfers _ := read_keeps _ _
  transact _ hb m := transact_keeps hb m
  note _ _ := id

/-- Every run of requests from an empty store leaves its rows well formed. -/
theorem rowsWf_finish (rs : List Request) : (Request.finish rs ({} : MemoryStore)).RowsWf :=
  Request.finish_keeps keptBy rs {} rowsWf_empty

/-- Every run of requests from an empty store leaves its transfers in increasing id order. -/
theorem transfers_sorted_finish (rs : List Request) {d : MemTables}
    (hd : (Request.finish rs ({} : MemoryStore)).data = some d) :
    d.transfers.Pairwise (·.id < ·.id) :=
  (rowsWf_finish rs d hd).transfers

end MemoryStore

/-- Listing transfers by filter. The pool's statement binds one value for each placeholder it
writes, and under those values its conditions are true of a transfer exactly when the filter
admits it: the account it names, if any, is on either side, and the source and destination it
names, if any, are the transfer's. Run on any transfers table it answers exactly the transfers
admitted, sorted by id, keeping only positions `offset` up to `offset + limit` when the filter
has a page. The in-memory store, ready on rows whose transfers are in id order, answers the
same list exactly when the filter has a page or fewer than 2^32 transfers match; every run of
requests from an empty store leaves its transfers in that order. -/
theorem transfer_listing_exact (f : TransferFilter) :
    f.listBinds.length = f.listQuery.placeholders ∧
    (∀ row, Condition.allHold row f.listConditions f.listBinds = f.admits row) ∧
    (∀ t : Tables, ∃ hits : List Transfer,
      hits.Pairwise (·.id ≤ ·.id) ∧ hits.Perm (t.transfers.filter f.admits) ∧
      f.listQuery.run f.listBinds t.transfers = .ok (t.transfersMatching f) ∧
      (f.page = none → t.transfersMatching f = hits) ∧
      ∀ p, f.page = some p → t.transfersMatching f = (hits.drop p.offset).take p.limit) ∧
    (∀ (m : MemoryStore) (d : MemTables), m.Ready d → d.transfers.Pairwise (·.id ≤ ·.id) →
      ∃ r, (LedgerStore.listTransfers f : Act MemoryStore Fault _) m =
          .ok r (m.logged "list_transfers()" d) ∧
        (r = d.toTables.transfersMatching f ↔
          f.page.isSome ∨ (d.transfers.filter f.admits).length < 2 ^ 32)) ∧
    ∀ (rs : List Request) (d : MemTables), (Request.finish rs ({} : MemoryStore)).Ready d →
      ∃ r, (LedgerStore.listTransfers f : Act MemoryStore Fault _) (Request.finish rs {}) =
          .ok r ((Request.finish rs ({} : MemoryStore)).logged "list_transfers()" d) ∧
        (r = d.toTables.transfersMatching f ↔
          f.page.isSome ∨ (d.transfers.filter f.admits).length < 2 ^ 32) := by
  refine ⟨f.listBinds_length, f.allHold_listBinds, ?sql,
    fun m d hm hsorted => MemoryStore.listTransfers_agree hm hsorted f, ?run⟩
  case sql =>
    intro t
    refine ⟨(t.transfers.filter f.admits).mergeSort (·.id ≤ ·.id), pairwise_mergeSort_id _,
      List.mergeSort_perm _ _, ?_, ?_, ?_⟩
    · rw [f.listQuery_run, t.transfersMatching_eq]
    · intro hp
      simp [t.transfersMatching_eq, TransferFilter.onPage, hp]
    · intro p hp
      simp [t.transfersMatching_eq, TransferFilter.onPage, hp, Page.window]
  case run =>
    intro rs d hr
    have hsorted := MemoryStore.transfers_sorted_finish rs hr.data
    exact MemoryStore.listTransfers_agree hr (hsorted.imp Int.le_of_lt) f

/-- Three transfers in id order: 100 from account 1 to 2, 200 from 2 to 3, 300 from 3 to 1. -/
def sampleListingRows : MemTables :=
  { transfers := [⟨1, 1, 2, 100⟩, ⟨2, 2, 3, 200⟩, ⟨3, 3, 1, 300⟩], lastId := 3 }

def sampleListingFilter : TransferFilter := { account := some 2, page := some ⟨1, 1⟩ }

/-- Alice opens an account with 100, Bob one with nothing, and Alice sends Bob 30. -/
def sampleTransferRun : List Request :=
  [.createAccount "alice" .usd 100, .createAccount "bob" .usd 0, .createTransfer "alice" 1 3 30 .usd]

/-- The rows that run leaves: the opening entry takes id 2, the transfer 4 and its entries 5
and 6. -/
def sampleTransferRows : MemTables :=
  { accounts := [⟨1, "alice", 70, .usd⟩, ⟨3, "bob", 30, .usd⟩]
    entries := [⟨2, 1, 100, none⟩, ⟨5, 1, -30, some 4⟩, ⟨6, 3, 30, some 4⟩]
    transfers := [⟨4, 1, 3, 30⟩]
    lastId := 6 }

def sampleSourceFilter : TransferFilter := { fromAccount := some 1 }

theorem transfer_listing_exact_paged :
    ({ data := some sampleListingRows } : MemoryStore).Ready sampleListingRows ∧
      sampleListingRows.transfers.Pairwise (·.id ≤ ·.id) ∧
      (∃ r, (LedgerStore.listTransfers sampleListingFilter : Act MemoryStore Fault _)
          { data := some sampleListingRows } =
          .ok r (({ data := some sampleListingRows } : MemoryStore).logged "list_transfers()"
            sampleListingRows) ∧
        (r = sampleListingRows.toTables.transfersMatching sampleListingFilter ↔
          sampleListingFilter.page.isSome ∨
            (sampleListingRows.transfers.filter sampleListingFilter.admits).length < 2 ^ 32)) ∧
      (Request.finish sampleTransferRun ({} : MemoryStore)).Ready sampleTransferRows ∧
      ∃ r, (LedgerStore.listTransfers sampleSourceFilter : Act MemoryStore Fault _)
          (Request.finish sampleTransferRun {}) =
          .ok r ((Request.finish sampleTransferRun ({} : MemoryStore)).logged "list_transfers()"
            sampleTransferRows) ∧
        (r = sampleTransferRows.toTables.transfersMatching sampleSourceFilter ↔
          sampleSourceFilter.page.isSome ∨
            (sampleTransferRows.transfers.filter sampleSourceFilter.admits).length < 2 ^ 32) := by
  have hready : ({ data := some sampleListingRows } : MemoryStore).Ready sampleListingRows := ⟨rfl, rfl⟩
  have hsorted : sampleListingRows.transfers.Pairwise (·.id ≤ ·.id) := by decide
  have hrun : (Request.finish sampleTransferRun ({} : MemoryStore)).Ready sampleTransferRows :=
    ⟨by decide, rfl⟩
  exact ⟨hready, hsorted,
    (transfer_listing_exact sampleListingFilter).2.2.2.1 _ sampleListingRows hready hsorted, hrun,
    (transfer_listing_exact sampleSourceFilter).2.2.2.2 sampleTransferRun sampleTransferRows hrun⟩

end DoubleEntry
