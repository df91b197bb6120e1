import DoubleEntry.Proofs.Renaming

/-!
# DoubleEntry.Proofs.Refinement

The in-memory store behaves as the pool under the ledger service, up to ids.

A run of the service's operations (`Request`, every one but the integrity check) is made on an
empty in-memory store and on a pool over an empty ledger. The in-memory store numbers all rows
from one counter, the pool each table from its own, so the second run is made with the ids
renamed by some `τ`, one to one on each kind, that sends the ids the in-memory run gives to new
rows of a kind, in order, to `1, 2, 3, …` (`Numbered`): the ids the pool gives them. Then each
operation ends the same way on both (answer, failure or abort), with the same error case and
kind, and with rows and lists equal up to `τ`, in the same order (`memory_store_refines_pool`).
The run keeps to the bounds under which the stores agree (`Request.Within`): 64-bit amounts
and opening balances, as the service's arguments are, balances that stay in range, no more
transfers matching an unpaged listing than a page shows, and room on the shared counter.

The proof is a simulation. `Mirror τ d t` relates in-memory rows `d` to pool tables `t` that
hold them renamed; from mirrored states a request answers alike and leaves mirrored states
(`Mirror.step`, one lemma per operation), and a run follows by induction on the requests
(`Mirror.run`).
-/

namespace DoubleEntry

/-- An operation of the ledger service with its arguments: each one but the integrity check. -/
inductive Request where
  | createAccount (owner : String) (currency : Currency) (opening : Int)
  | getAccount (principal : String) (id : Int)
  | listAccounts (owner : String) (page : Page)
  | deleteAccount (principal : String) (id : Int)
  | listEntries (principal : String) (account : Int) (page : Page)
  | getTransfer (id : Int)
  | listTransfers (filter : TransferFilter)
  | createTransfer (principal : String) (src dst amount : Int) (currency : Currency)
  deriving Repr

/-- What an operation of the service answers. -/
inductive Answer where
  | account (a : Account)
  | accounts (rows : List Account)
  | entries (rows : List Entry)
  | transfer (x : Transfer)
  | transfers (rows : List Transfer)
  deriving DecidableEq, Repr

namespace Act

variable {σ ε α β : Type}

/-- How a call ends, without the state it leaves: its answer, its failure or its abort. -/
def outcome (x : Act σ ε α) (s : σ) : Except (Halt ε) α :=
  match x s with
  | .ok a _ => .ok a
  | .error e _ => .error e

theorem map_ok {x : Act σ ε α} {f : α → β} {s s' : σ} {a : α} (h : x s = .ok a s') :
    (f <$> x) s = .ok (f a) s' := by
  simp [h, Functor.map, EStateM.map]

theorem map_error {x : Act σ ε α} {f : α → β} {s s' : σ} {e : Halt ε} (h : x s = .error e s') :
    (f <$> x) s = .error e s' := by
  simp [h, Functor.map, EStateM.map]

end Act

namespace Request

/-- The service operation a request calls, its answer wrapped. -/
def act {σ : Type} [LedgerStore σ] : Request → Act σ LedgerError Answer
  | createAccount owner currency opening => Answer.account <$> Service.createAccount owner currency opening
  | getAccount principal id => Answer.account <$> Service.getAccount principal id
  | listAccounts owner page => Answer.accounts <$> Service.listAccounts owner page
  | deleteAccount principal id => Answer.account <$> Service.deleteAccount principal id
  | listEntries principal account page => Answer.entries <$> Service.listEntries principal account page
  | getTransfer id => Answer.transfer <$> Service.getTransfer id
  | listTransfers f => Answer.transfers <$> Service.listTransfers f
  | createTransfer principal src dst amount currency =>
    Answer.transfer <$> Service.createTransfer principal src dst amount currency

def outcomes {σ : Type} [LedgerStore σ] : List Request → σ → List (Except (Halt LedgerError) Answer)
  | [], _ => []
  | r :: rs, s => r.act.outcome s :: outcomes rs (r.act.after s)

end Request

/-! ## Renaming requests and answers -/

section Renaming

variable (τ : Kind → Int → Int)

/-- The request with the ids it names renamed. -/
def Request.rename : Request → Request
  | .createAccount owner currency opening => .createAccount owner currency opening
  | .getAccount principal id => .getAccount principal (τ .account id)
  | .listAccounts owner page => .listAccounts owner page
  | .deleteAccount principal id => .deleteAccount principal (τ .account id)
  | .listEntries principal account page => .listEntries principal (τ .account account) page
  | .getTransfer id => .getTransfer (τ .transfer id)
  | .listTransfers f => .listTransfers (f.rename τ)
  | .createTransfer principal src dst amount currency =>
    .createTransfer principal (τ .account src) (τ .account dst) amount currency

/-- The answer with the ids of its rows renamed. -/
def Answer.rename : Answer → Answer
  | .account a => .account (a.rename τ)
  | .accounts rows => .accounts (rows.map (Account.rename τ))
  | .entries rows => .entries (rows.map (Entry.rename τ))
  | .transfer x => .transfer (x.rename τ)
  | .transfers rows => .transfers (rows.map (Transfer.rename τ))

def Halt.rename : Halt LedgerError → Halt LedgerError
  | .fail e => .fail (e.rename τ)
  | .abort x => .abort x

def renameOutcome : Except (Halt LedgerError) Answer → Except (Halt LedgerError) Answer
  | .ok a => .ok (a.rename τ)
  | .error e => .error (e.rename τ)

end Renaming

/-! ## The ids a run gives -/

/-- `f` sends the ids `xs`, in order, to `n + 1, n + 2, …`: the ids a counter at `n` gives. -/
def Numbered (f : Int → Int) : Int → List Int → Prop
  | _, [] => True
  | n, x :: xs => f x = n + 1 ∧ Numbered f (n + 1) xs

instance Numbered.decidable (f : Int → Int) : (n : Int) → (xs : List Int) → Decidable (Numbered f n xs)
  | _, [] => isTrue trivial
  | n, x :: xs =>
    have := Numbered.decidable f (n + 1) xs
    inferInstanceAs (Decidable (f x = n + 1 ∧ Numbered f (n + 1) xs))

theorem numbered_append {f : Int → Int} : ∀ {n : Int} {xs ys : List Int},
    Numbered f n (xs ++ ys) ↔ Numbered f n xs ∧ Numbered f (n + xs.length) ys
  | n, [], ys => by simp [Numbered]
  | n, x :: xs, ys => by
    have e : n + 1 + (xs.length : Int) = n + ((x :: xs).length : Int) := by
      rw [List.length_cons]
      omega
    rw [List.cons_append, Numbered, Numbered, numbered_append, e, and_assoc]

/-- The counter of one kind's table. -/
def Tables.seq (t : Tables) : Kind → Int
  | .account => t.accountSeq
  | .entry => t.entrySeq
  | .transfer => t.transferSeq

namespace MemTables

/-- The ids of the rows of one kind. -/
def ids (d : MemTables) : Kind → List Int
  | .account => d.accounts.map (·.id)
  | .entry => d.entries.map (·.id)
  | .transfer => d.transfers.map (·.id)

/-- The ids of one kind above `L`: those the counter gave since it stood at `L`. -/
def idsAbove (d : MemTables) (L : Int) (k : Kind) : List Int :=
  (d.ids k).filter fun i => decide (L < i)

variable {d : MemTables}

theorem Wf.ids_le (hw : d.Wf) : ∀ k, ∀ i ∈ d.ids k, i ≤ d.lastId
  | .account, i, hi => by
    obtain ⟨a, ha, rfl⟩ := List.mem_map.1 hi
    exact hw.accountsBelow a ha
  | .entry, i, hi => by
    obtain ⟨e, he, rfl⟩ := List.mem_map.1 hi
    exact hw.entriesBelow e he
  | .transfer, i, hi => by
    obtain ⟨x, hx, rfl⟩ := List.mem_map.1 hi
    exact hw.transfersBelow x hx

theorem idsAbove_append {L : Int} {k : Kind} {xs ys : List Int} (hd : d.ids k = xs ++ ys)
    (hx : ∀ i ∈ xs, i ≤ L) (hy : ∀ i ∈ ys, L < i) : d.idsAbove L k = ys := by
  unfold idsAbove
  rw [hd, List.filter_append, List.filter_eq_nil_iff.2 fun i hi => by simpa using hx i hi,
    List.filter_eq_self.2 fun i hi => by simpa using hy i hi, List.nil_append]

theorem idsAbove_eq_nil {L : Int} {k : Kind} (h : ∀ i ∈ d.ids k, i ≤ L) : d.idsAbove L k = [] :=
  List.filter_eq_nil_iff.2 fun i hi => by simpa using h i hi

theorem credit_ids (d : MemTables) (id delta : Int) : ∀ k, (d.credit id delta).ids k = d.ids k
  | .account => by
    simp only [ids, credit, List.map_map]
    congr 1
    funext x
    dsimp only [Function.comp]
    split <;> rfl
  | .entry => rfl
  | .transfer => rfl

/-- The ids of each kind the rows of a new account take from the counter at `L`. -/
def accountIds (L opening : Int) : Kind → List Int
  | .account => [L + 1]
  | .entry => if 0 < opening then [L + 1 + 1] else []
  | .transfer => []

/-- The ids of each kind the rows of a transfer take from the counter at `L`. -/
def transferIds (L : Int) : Kind → List Int
  | .account => []
  | .entry => [L + 1 + 1, L + 1 + 1 + 1]
  | .transfer => [L + 1]

theorem ids_withAccount (d : MemTables) (owner : String) (currency : Currency) (b : Int) :
    ∀ k, (d.withAccount owner currency b).ids k = d.ids k ++ accountIds d.lastId b k := by
  intro k
  unfold withAccount
  by_cases hb : 0 < b
  · rw [if_pos hb]
    cases k <;> simp [ids, accountIds, hb, pushEntry, pushAccount]
  · rw [if_neg hb]
    cases k <;> simp [ids, accountIds, hb, pushAccount]

theorem ids_withTransfer (d : MemTables) (src dst amount : Int) :
    ∀ k, (d.withTransfer src dst amount).ids k = d.ids k ++ transferIds d.lastId k := by
  intro k
  unfold withTransfer
  rw [credit_ids, credit_ids]
  cases k <;> simp [ids, transferIds, transferRows, pushEntry, pushTransfer]

theorem Wf.idsAbove_withAccount (hw : d.Wf) (owner : String) (currency : Currency) (b : Int)
    (k : Kind) : (d.withAccount owner currency b).idsAbove d.lastId k = accountIds d.lastId b k :=
  idsAbove_append (ids_withAccount d owner currency b k) (hw.ids_le k) fun i hi => by
    cases k <;> simp [accountIds] at hi <;> omega

theorem Wf.idsAbove_withTransfer (hw : d.Wf) (src dst amount : Int) (k : Kind) :
    (d.withTransfer src dst amount).idsAbove d.lastId k = transferIds d.lastId k :=
  idsAbove_append (ids_withTransfer d src dst amount k) (hw.ids_le k) fun i hi => by
    cases k <;> simp [transferIds] at hi <;> omega

theorem lastId_withAccount_le (d : MemTables) (owner : String) (currency : Currency) (b : Int) :
    (d.withAccount owner currency b).lastId ≤ d.lastId + 3 := by
  unfold withAccount
  split
  · show d.lastId + 1 + 1 ≤ d.lastId + 3
    omega
  · show d.lastId + 1 ≤ d.lastId + 3
    omega

theorem Wf.afterDeletion (hw : d.Wf) (principal : String) (id : Int) :
    ((d.toTables.afterDeletion principal id).inMemory d.lastId).Wf := by
  unfold Tables.afterDeletion
  split
  · exact hw.dropAccount id
  · exact hw

/-- An unpaged listing that matches no more transfers than a page shows lists them as a paged
one does. -/
theorem onPage_eq (d : MemTables) (f : TransferFilter)
    (h : f.page = none → (d.transfers.filter f.admits).length ≤ Page.all.limit) :
    f.onPage (d.toTables.transfers.filter f.admits) =
      (f.page.getD Page.all).window (d.transfers.filter f.admits) := by
  refine ((f.window_getD_eq_onPage_iff _).2 ?_).symm
  cases hp : f.page with
  | some q => exact .inl rfl
  | none =>
    have hle : (d.toTables.transfers.filter f.admits).length ≤ Page.all.limit := h hp
    simp only [Page.all] at hle
    exact .inr (by omega)

end MemTables

namespace Tables

theorem seq_withAccount (t : Tables) (owner : String) (currency : Currency) (b L : Int) (k : Kind) :
    (t.withAccount owner currency b).seq k = t.seq k + (MemTables.accountIds L b k).length := by
  unfold withAccount
  by_cases hb : 0 < b
  · rw [if_pos hb]
    cases k <;> simp [seq, MemTables.accountIds, hb, pushEntry, pushAccount]
  · rw [if_neg hb]
    cases k <;> simp [seq, MemTables.accountIds, hb, pushAccount]

theorem seq_withTransfer (t : Tables) (src dst amount L : Int) (k : Kind) :
    (t.withTransfer src dst amount).seq k = t.seq k + (MemTables.transferIds L k).length := by
  cases k <;> simp [seq, MemTables.transferIds, withTransfer, transferRows, credit, pushEntry,
    pushTransfer, Int.add_assoc]

theorem Wf.afterDeletion {t : Tables} (hw : t.Wf) (principal : String) (id : Int) :
    (t.afterDeletion principal id).Wf := by
  unfold Tables.afterDeletion
  split
  · exact hw.dropAccount id
  · exact hw

theorem seq_afterDeletion (t : Tables) (principal : String) (id : Int) (k : Kind) :
    (t.afterDeletion principal id).seq k = t.seq k := by
  unfold afterDeletion
  split <;> cases k <;> rfl

theorem TransfersBooked.withAccount {t : Tables} (h : t.TransfersBooked) (owner : String)
    (currency : Currency) (b : Int) : (t.withAccount owner currency b).TransfersBooked := by
  intro x hx i hi
  rw [withAccount_transfers] at hx
  obtain ⟨e, he, hei⟩ := h x hx i hi
  exact ⟨e, by rw [withAccount_entries]; exact List.mem_append_left _ he, hei⟩

theorem TransfersBooked.withTransfer {t : Tables} (h : t.TransfersBooked) (src dst amount : Int) :
    (t.withTransfer src dst amount).TransfersBooked := by
  intro x hx i hi
  rw [withTransfer_entries]
  rw [withTransfer_transfers, List.mem_append, List.mem_singleton] at hx
  rcases hx with hx | rfl
  · obtain ⟨e, he, hei⟩ := h x hx i hi
    exact ⟨e, List.mem_append_left _ he, hei⟩
  · have hi' : src = i ∨ dst = i := by simpa [Transfer.involves] using hi
    rcases hi' with rfl | rfl
    · exact ⟨_, List.mem_append_right _ (List.mem_cons_self ..), rfl⟩
    · exact ⟨_, List.mem_append_right _ (List.mem_cons_of_mem _ (List.mem_singleton_self _)), rfl⟩

theorem Renamed.inMemory {τ : Kind → Int → Int} {u t : Tables} (h : Renamed τ u t) (L : Int) :
    Renamed τ (u.inMemory L).toTables t :=
  ⟨h.accounts, h.entries, h.transfers⟩

end Tables

namespace Request

/-- The ids of kind `k` a request gives to new rows of the in-memory store: those its rows
hold afterwards above the counter before. -/
def newIds (r : Request) (m : MemoryStore) (k : Kind) : List Int :=
  match m.data, (r.act.after m : MemoryStore).data with
  | some d, some d' => d'.idsAbove d.lastId k
  | _, _ => []

/-- The ids of kind `k` a run of requests gives to new rows of the in-memory store, in order. -/
def createdIds : List Request → MemoryStore → Kind → List Int
  | [], _, _ => []
  | r :: rs, m, k => r.newIds m k ++ createdIds rs (r.act.after m) k

/-- The bounds under which the stores agree, for a request on the in-memory rows `d`: an
opening balance and an amount of 64 bits; balances that stay in range when a transfer passes
its checks; and, for a listing of transfers without a page, no more matches than a page shows. -/
def Within (d : MemTables) : Request → Prop
  | createAccount _ _ opening => Signed64.Fits opening
  | createTransfer principal src dst amount currency => Signed64.Fits amount ∧
    (transferRejection d.toTables principal src dst amount currency = none →
      transferOverflow d.toTables src dst amount = none)
  | listTransfers f => f.page = none → (d.transfers.filter f.admits).length ≤ Page.all.limit
  | _ => True

def WithinAt (r : Request) : Option MemTables → Prop
  | some d => r.Within d
  | none => True

def AllWithin : List Request → MemoryStore → Prop
  | [], _ => True
  | r :: rs, m => r.WithinAt m.data ∧ AllWithin rs (r.act.after m)

instance decWithin (d : MemTables) : (r : Request) → Decidable (r.Within d)
  | createAccount _ _ opening => inferInstanceAs (Decidable (Signed64.Fits opening))
  | createTransfer principal src dst amount currency =>
    inferInstanceAs (Decidable (Signed64.Fits amount ∧
      (transferRejection d.toTables principal src dst amount currency = none →
        transferOverflow d.toTables src dst amount = none)))
  | listTransfers f =>
    inferInstanceAs (Decidable (f.page = none → (d.transfers.filter f.admits).length ≤ Page.all.limit))
  | getAccount .. | listAccounts .. | deleteAccount .. | listEntries .. | getTransfer .. =>
    isTrue trivial

instance decWithinAt (r : Request) : (o : Option MemTables) → Decidable (r.WithinAt o)
  | some d => inferInstanceAs (Decidable (r.Within d))
  | none => isTrue trivial

instance decAllWithin : (rs : List Request) → (m : MemoryStore) → Decidable (AllWithin rs m)
  | [], _ => isTrue trivial
  | r :: rs, m =>
    have := decAllWithin rs (r.act.after m)
    inferInstanceAs (Decidable (r.WithinAt m.data ∧ AllWithin rs (r.act.after m)))

theorem newIds_eq {r : Request} {m : MemoryStore} {d d' : MemTables} (hd : m.data = some d)
    (hd' : (r.act.after m : MemoryStore).data = some d') (k : Kind) :
    r.newIds m k = d'.idsAbove d.lastId k := by
  unfold newIds
  rw [hd, hd']

theorem newIds_of_ok {r : Request} {m m' : MemoryStore} {a : Answer} {d d' : MemTables}
    (hd : m.data = some d) (h : r.act m = .ok a m') (hd' : m'.data = some d') (k : Kind) :
    r.newIds m k = d'.idsAbove d.lastId k :=
  newIds_eq hd (by rw [Act.after_of_ok h]; exact hd') k

end Request

/-! ## Mirrored states -/

/-- In-memory rows `d` and pool tables `t` that hold one ledger up to `τ`: the ids of each are
as its counters gave them, every account a transfer of `t` names carries an entry, and `t`
holds the rows of `d` renamed. -/
structure Mirror (τ : Kind → Int → Int) (d : MemTables) (t : Tables) : Prop where
  memory : d.Wf
  pool : t.Wf
  booked : t.TransfersBooked
  rows : Tables.Renamed τ d.toTables t

/-- The stores after a request made on rows `d` and tables `t`: they serve mirrored rows and
tables, the counter has moved by at most three, and each table's counter by the number of
ids of its kind that the request gave. -/
def Follows (τ : Kind → Int → Int) (d : MemTables) (t : Tables) (m : MemoryStore) (p : Pool) : Prop :=
  ∃ d' t', m.Serves d' ∧ p.Serves t' ∧ Mirror τ d' t' ∧ d'.lastId ≤ d.lastId + 3 ∧
    ∀ k, t'.seq k = t.seq k + (d'.idsAbove d.lastId k).length

/-- A result of the in-memory store and one of the pool that end alike up to `τ`, in states
that `R` relates. -/
inductive Alike (τ : Kind → Int → Int) (R : MemoryStore → Pool → Prop) :
    EStateM.Result (Halt LedgerError) MemoryStore Answer →
      EStateM.Result (Halt LedgerError) Pool Answer → Prop
  | ok {m : MemoryStore} {p : Pool} (a : Answer) : R m p → Alike τ R (.ok a m) (.ok (a.rename τ) p)
  | error {m : MemoryStore} {p : Pool} (e : Halt LedgerError) : R m p →
      Alike τ R (.error e m) (.error (e.rename τ) p)

section Alike

variable {τ : Kind → Int → Int} {R : MemoryStore → Pool → Prop} {m m' : MemoryStore} {p p' : Pool}
  {α β : Type} {x : Act MemoryStore LedgerError α} {y : Act Pool LedgerError β} {f : α → Answer}
  {f' : β → Answer}

theorem Alike.map_ok {a : α} {b : β} (hx : x m = .ok a m') (hy : y p = .ok b p')
    (hb : f' b = (f a).rename τ) (h : R m' p') : Alike τ R ((f <$> x) m) ((f' <$> y) p) := by
  rw [Act.map_ok hx, Act.map_ok hy, hb]
  exact .ok _ h

theorem Alike.map_error {e : Halt LedgerError} (hx : x m = .error e m')
    (hy : y p = .error (e.rename τ) p') (h : R m' p') : Alike τ R ((f <$> x) m) ((f' <$> y) p) := by
  rw [Act.map_error hx, Act.map_error hy]
  exact .error e h

theorem Alike.map_result {g : α → β} {o : Except LedgerError α} (hx : x m = Act.result o m')
    (hy : y p = Act.result (renameResult τ g o) p') (h : R m' p') (hf : ∀ a, f' (g a) = (f a).rename τ) :
    Alike τ R ((f <$> x) m) ((f' <$> y) p) := by
  cases o with
  | ok a => exact .map_ok hx hy (hf a) h
  | error e => exact .map_error hx hy h

theorem Alike.run {x : Act MemoryStore LedgerError Answer} {y : Act Pool LedgerError Answer}
    (h : Alike τ R (x m) (y p)) :
    y.outcome p = renameOutcome τ (x.outcome m) ∧ R (x.after m) (y.after p) := by
  unfold Act.outcome Act.after
  generalize x m = a at h ⊢
  generalize y p = b at h ⊢
  cases h with
  | ok a hR => exact ⟨rfl, hR⟩
  | error e hR => exact ⟨rfl, hR⟩

end Alike

/-! ## One request on mirrored states -/

section Step

variable {τ : Kind → Int → Int} (hτ : ∀ k, Function.Injective (τ k)) {d : MemTables} {t : Tables}
  {m : MemoryStore} {p : Pool} (hM : Mirror τ d t) (hm : m.Serves d) (hp : p.Serves t)

theorem Follows.of_unnumbered {d' : MemTables} {t' : Tables} {m' : MemoryStore} {p' : Pool}
    (hm' : m'.Serves d') (hp' : p'.Serves t') (hM' : Mirror τ d' t') (hL : d'.lastId = d.lastId)
    (hseq : ∀ k, t'.seq k = t.seq k) : Follows τ d t m' p' :=
  ⟨d', t', hm', hp', hM', by omega, fun k => by
    rw [hseq k, MemTables.idsAbove_eq_nil fun i hi => hL ▸ hM'.memory.ids_le k i hi]
    simp⟩

include hM in
theorem Follows.keep {m' : MemoryStore} {p' : Pool} (hm' : m'.Serves d) (hp' : p'.Serves t) :
    Follows τ d t m' p' :=
  .of_unnumbered hm' hp' hM rfl fun _ => rfl

include hτ hM hm hp

theorem Mirror.getAccount_alike (principal : String) (id : Int) :
    Alike τ (Follows τ d t) ((Request.getAccount principal id).act m)
      (((Request.getAccount principal id).rename τ).act p) := by
  obtain ⟨m', hm', em⟩ := (MemoryStore.servesRows d.lastId).getAccount_run (u := d.toTables) hm principal id
  obtain ⟨p', hp', ep⟩ := Pool.servesRows.getAccount_run ⟨hp, hM.booked⟩ principal (τ .account id)
  rw [hM.rows.ownedAccount hτ] at ep
  exact .map_result em ep (Follows.keep hM hm' hp'.1) fun _ => rfl

omit hτ in
theorem Mirror.listAccounts_alike (owner : String) (page : Page) :
    Alike τ (Follows τ d t) ((Request.listAccounts owner page).act m)
      (((Request.listAccounts owner page).rename τ).act p) := by
  obtain ⟨m', hm', em⟩ := (MemoryStore.servesRows d.lastId).listAccounts_run (u := d.toTables) hm owner page
  obtain ⟨p', hp', ep⟩ := Pool.servesRows.listAccounts_run ⟨hp, hM.booked⟩ owner page
  rw [hM.rows.accountsOf] at ep
  exact .map_ok em ep rfl (Follows.keep hM hm' hp'.1)

theorem Mirror.deleteAccount_alike (principal : String) (id : Int) :
    Alike τ (Follows τ d t) ((Request.deleteAccount principal id).act m)
      (((Request.deleteAccount principal id).rename τ).act p) := by
  obtain ⟨m', hm', em⟩ := (MemoryStore.servesRows d.lastId).deleteAccount_run (u := d.toTables) hm principal id
  obtain ⟨p', hp', ep⟩ := Pool.servesRows.deleteAccount_run ⟨hp, hM.booked⟩ principal (τ .account id)
  rw [hM.rows.deletion hτ] at ep
  have hM' : Mirror τ ((d.toTables.afterDeletion principal id).inMemory d.lastId)
      (t.afterDeletion principal (τ .account id)) :=
    ⟨hM.memory.afterDeletion principal id, hM.pool.afterDeletion principal (τ .account id), hp'.2,
      (hM.rows.afterDeletion hτ principal id).inMemory d.lastId⟩
  exact .map_result em ep
    (.of_unnumbered hm' hp'.1 hM' rfl fun k => Tables.seq_afterDeletion t principal _ k) fun _ => rfl

theorem Mirror.listEntries_alike (principal : String) (account : Int) (page : Page) :
    Alike τ (Follows τ d t) ((Request.listEntries principal account page).act m)
      (((Request.listEntries principal account page).rename τ).act p) := by
  obtain ⟨m', hm', em⟩ :=
    (MemoryStore.servesRows d.lastId).listEntries_run (u := d.toTables) hm principal account page
  obtain ⟨p', hp', ep⟩ := Pool.servesRows.listEntries_run ⟨hp, hM.booked⟩ principal (τ .account account) page
  rw [hM.rows.ownedAccount hτ, hM.rows.entriesOf hτ] at ep
  cases ho : d.toTables.ownedAccount principal account with
  | ok a =>
    rw [ho] at em ep
    exact .map_ok em ep rfl (Follows.keep hM hm' hp'.1)
  | error e =>
    rw [ho] at em ep
    exact .map_error em ep (Follows.keep hM hm' hp'.1)

theorem Mirror.getTransfer_alike (id : Int) :
    Alike τ (Follows τ d t) ((Request.getTransfer id).act m) (((Request.getTransfer id).rename τ).act p) := by
  obtain ⟨m', hm', em⟩ := (MemoryStore.servesRows d.lastId).getTransfer_run (u := d.toTables) hm id
  obtain ⟨p', hp', ep⟩ := Pool.servesRows.getTransfer_run ⟨hp, hM.booked⟩ (τ .transfer id)
  rw [hM.rows.foundTransfer hτ] at ep
  exact .map_result em ep (Follows.keep hM hm' hp'.1) fun _ => rfl

theorem Mirror.listTransfers_alike (f : TransferFilter)
    (hw : (Request.listTransfers f).Within d) :
    Alike τ (Follows τ d t) ((Request.listTransfers f).act m)
      (((Request.listTransfers f).rename τ).act p) := by
  have em := Service.store_run (MemoryStore.listTransfers_ready hm.toReady f)
  have ep : (LedgerStore.listTransfers (f.rename τ) : Act Pool Fault _) p =
      .ok (t.transfersMatching (f.rename τ)) { p with touched := true } :=
    Pool.query_run hp.file hp.reaches
  -- the in-memory store cuts an unpaged listing at a page, the pool does not
  refine .map_ok em (Service.store_run ep) ?_ (Follows.keep hM (hm.logged _ d) hp.touched)
  rw [hM.rows.transfersMatching hτ (hM.pool.transfers.imp Int.le_of_lt), MemTables.onPage_eq d f hw]
  rfl

omit hτ in
theorem Mirror.createAccount_alike (owner : String) (currency : Currency) (b : Int)
    (hw : (Request.createAccount owner currency b).Within d) (hroom : Signed64.Fits (d.lastId + 2))
    (hnum : ∀ k, Numbered (τ k) (t.seq k) ((Request.createAccount owner currency b).newIds m k)) :
    Alike τ (Follows τ d t) ((Request.createAccount owner currency b).act m)
      (((Request.createAccount owner currency b).rename τ).act p) := by
  have hfit : Signed64.Fits b := hw
  by_cases hneg : b < 0
  · -- a negative opening balance is refused before any store call, by both
    have e : ∀ {σ : Type} [LedgerStore σ] (s : σ), (Service.createAccount owner currency b :
        Act σ LedgerError Account) s = .error (.fail (.invalidAmount b .negativeOpening)) s := by
      intro σ _ s
      simp [Service.createAccount, hneg]
    exact .map_error (e m) (e p) (Follows.keep hM hm hp)
  obtain ⟨m', em, hm'⟩ := MemoryStore.createAccount_serves hm hM.memory hroom owner currency hfit (by omega)
  have heff := Pool.createAccount_effect hp hM.pool owner currency hfit
  cases ep : (Service.createAccount owner currency b : Act Pool LedgerError Account) p with
  | error e q =>
    rw [ep] at heff
    exact absurd heff.1 hneg
  | ok a q =>
    rw [ep] at heff
    obtain ⟨rfl, hq⟩ := heff
    have hnew := Request.newIds_of_ok (r := .createAccount owner currency b) hm.data (Act.map_ok em)
      hm'.data
    simp only [hnew, hM.memory.idsAbove_withAccount] at hnum
    have hA : τ .account (d.lastId + 1) = t.accountSeq + 1 := (hnum .account).1
    have hE : 0 < b → τ .entry (d.lastId + 1 + 1) = t.entrySeq + 1 := fun hpos => by
      have h := hnum .entry
      simp only [MemTables.accountIds, if_pos hpos] at h
      exact h.1
    refine .map_ok em ep (by simp [Answer.rename, Account.rename, hA])
      ⟨_, _, hm', hq, ⟨hM.memory.withAccount owner currency b, hM.pool.withAccount owner currency b,
        hM.booked.withAccount owner currency b, hM.rows.withAccount owner currency b hA hE⟩,
        d.lastId_withAccount_le owner currency b, fun k => ?_⟩
    rw [hM.memory.idsAbove_withAccount, Tables.seq_withAccount t owner currency b d.lastId]

theorem Mirror.createTransfer_alike (principal : String) (src dst amount : Int) (currency : Currency)
    (hw : (Request.createTransfer principal src dst amount currency).Within d)
    (hroom : Signed64.Fits (d.lastId + 3))
    (hnum : ∀ k, Numbered (τ k) (t.seq k)
      ((Request.createTransfer principal src dst amount currency).newIds m k)) :
    Alike τ (Follows τ d t) ((Request.createTransfer principal src dst amount currency).act m)
      (((Request.createTransfer principal src dst amount currency).rename τ).act p) := by
  obtain ⟨hamt, hover⟩ := hw
  have hrej := hM.rows.transferRejection hτ principal src dst amount currency
  cases hr : transferRejection d.toTables principal src dst amount currency with
  | some e =>
    rw [hr] at hrej
    obtain ⟨m', hm', em⟩ := (MemoryStore.servesRows d.lastId).createTransfer_rejected (u := d.toTables) hm hr
    obtain ⟨p', hp', ep⟩ := Pool.servesRows.createTransfer_rejected ⟨hp, hM.booked⟩ hrej
    exact .map_error em ep (Follows.keep hM hm' hp'.1)
  | none =>
    rw [hr] at hrej
    have ho := hover hr
    have ho' := (hM.rows.transferOverflow_eq_none hτ src dst amount).2 ho
    obtain ⟨m', em, hm'⟩ := MemoryStore.createTransfer_serves hm hM.memory hroom hamt hr ho
    have hout := Pool.createTransfer_outcome hp principal (τ .account src) (τ .account dst) amount hamt
      currency
    simp only [hrej, Option.map_none, ho'] at hout
    obtain ⟨x, q, ep⟩ := hout
    have heff := Pool.createTransfer_effect hp hM.pool principal (τ .account src) (τ .account dst)
      amount currency hamt
    rw [ep] at heff
    obtain ⟨rfl, hq⟩ := heff
    have hnew := Request.newIds_of_ok (r := .createTransfer principal src dst amount currency) hm.data
      (Act.map_ok em) hm'.data
    simp only [hnew, hM.memory.idsAbove_withTransfer] at hnum
    have hT : τ .transfer (d.lastId + 1) = t.transferSeq + 1 := (hnum .transfer).1
    have hE₁ : τ .entry (d.lastId + 1 + 1) = t.entrySeq + 1 := (hnum .entry).1
    have hE₂ : τ .entry (d.lastId + 1 + 1 + 1) = t.entrySeq + 1 + 1 := (hnum .entry).2.1
    refine .map_ok em ep (by simp [Answer.rename, Transfer.rename, hT])
      ⟨_, _, hm', hq, ⟨hM.memory.withTransfer src dst amount, hM.pool.withTransfer _ _ amount,
        hM.booked.withTransfer _ _ amount, hM.rows.withTransfer hτ src dst amount hT hE₁ hE₂⟩,
        by simp [MemTables.withTransfer, MemTables.credit, MemTables.transferRows, MemTables.pushEntry,
          MemTables.pushTransfer]; omega, fun k => ?_⟩
    rw [hM.memory.idsAbove_withTransfer, Tables.seq_withTransfer _ _ _ amount d.lastId]

/-- From mirrored states, a request within the bounds, whose new ids `τ` numbers as the
pool's counters do, answers alike on both stores and leaves them following. -/
theorem Mirror.step (r : Request) (hw : r.Within d) (hroom : d.lastId + 3 ≤ Signed64.max)
    (hnum : ∀ k, Numbered (τ k) (t.seq k) (r.newIds m k)) :
    Alike τ (Follows τ d t) (r.act m) ((r.rename τ).act p) := by
  have hfit : ∀ n : Int, 0 ≤ n → n ≤ 3 → Signed64.Fits (d.lastId + n) := fun n h0 h3 => by
    have := hM.memory.nonneg
    unfold Signed64.Fits Signed64.min
    omega
  cases r with
  | createAccount owner currency b =>
    exact hM.createAccount_alike hm hp owner currency b hw (hfit 2 (by omega) (by omega)) hnum
  | getAccount principal id => exact hM.getAccount_alike hτ hm hp principal id
  | listAccounts owner page => exact hM.listAccounts_alike hm hp owner page
  | deleteAccount principal id => exact hM.deleteAccount_alike hτ hm hp principal id
  | listEntries principal account page => exact hM.listEntries_alike hτ hm hp principal account page
  | getTransfer id => exact hM.getTransfer_alike hτ hm hp id
  | listTransfers f => exact hM.listTransfers_alike hτ hm hp f hw
  | createTransfer principal src dst amount currency =>
    exact hM.createTransfer_alike hτ hm hp principal src dst amount currency hw
      (hfit 3 (by omega) (by omega)) hnum

end Step

/-! ## Runs -/

/-- From mirrored states, a run of requests within the bounds, with room on the counter, whose
new ids `τ` numbers as the pool's counters do, has the same outcomes on both stores up to
`τ`. The induction is on the run; `Follows` carries the mirror from one request to the next. -/
theorem Mirror.run {τ : Kind → Int → Int} (hτ : ∀ k, Function.Injective (τ k)) :
    ∀ (rs : List Request) {d : MemTables} {t : Tables} {m : MemoryStore} {p : Pool},
      Mirror τ d t → m.Serves d → p.Serves t → d.lastId + 3 * (rs.length : Int) ≤ Signed64.max →
      Request.AllWithin rs m → (∀ k, Numbered (τ k) (t.seq k) (Request.createdIds rs m k)) →
      Request.outcomes (rs.map (Request.rename τ)) p = (Request.outcomes rs m).map (renameOutcome τ)
  | [], _, _, _, _, _, _, _, _, _, _ => rfl
  | r :: rs, d, t, m, p, hM, hm, hp, hroom, ⟨hw, hws⟩, hnum => by
    rw [List.length_cons] at hroom
    have hnum₁ : ∀ k, Numbered (τ k) (t.seq k) (r.newIds m k) := fun k => (numbered_append.1 (hnum k)).1
    have hw₁ : r.Within d := by
      rw [hm.data] at hw
      exact hw
    obtain ⟨ho, d', t', hm', hp', hM', hL, hseq⟩ := Alike.run (hM.step hτ hm hp r hw₁ (by omega) hnum₁)
    have hrest := Mirror.run hτ rs hM' hm' hp' (by omega) hws fun k => by
      have h := (numbered_append.1 (hnum k)).2
      rwa [hseq k, ← Request.newIds_eq hm.data hm'.data k]
    simp only [List.map_cons, Request.outcomes]
    rw [ho, hrest]

/-- The in-memory store refines the pool under the service. Run from an empty store and from a
pool over an empty ledger, with the ids renamed by `τ` (one to one on each kind, numbering the
ids the in-memory run gives to new rows as the pool's counters do), every request of a run
within the bounds has the same outcome on both stores up to `τ`; and renaming keeps an error's
case and kind. -/
theorem memory_store_refines_pool (τ : Kind → Int → Int) (hτ : ∀ k, Function.Injective (τ k))
    (rs : List Request) (hnum : ∀ k, Numbered (τ k) 0 (Request.createdIds rs {} k))
    (hin : Request.AllWithin rs {}) (hroom : 3 * (rs.length : Int) ≤ Signed64.max) :
    Request.outcomes (rs.map (Request.rename τ)) ({ file := .ledger .empty } : Pool) =
        (Request.outcomes rs ({} : MemoryStore)).map (renameOutcome τ) ∧
      ∀ e : LedgerError, (e.rename τ).caseName = e.caseName ∧ (e.rename τ).kind = e.kind := by
  have hM : Mirror τ {} Tables.empty :=
    ⟨MemTables.wf_empty, Tables.wf_empty, by simp [Tables.TransfersBooked, Tables.empty], ⟨rfl, rfl, rfl⟩⟩
  have hnum₀ : ∀ k, Numbered (τ k) (Tables.empty.seq k) (Request.createdIds rs {} k) := by
    intro k
    cases k <;> exact hnum _
  refine ⟨Mirror.run hτ rs hM ⟨⟨rfl, rfl⟩, rfl⟩ ⟨rfl, rfl, rfl, rfl⟩ (by simpa using hroom) hin hnum₀,
    LedgerError.rename_case τ⟩

/-- The renaming between the stores' ids for `sampleRun`: accounts keep their ids, and the
in-memory store numbers the entries three ids, and the transfer two, above the pool. -/
def sampleRenaming : Kind → Int → Int
  | .account, i => i
  | .entry, i => i - 3
  | .transfer, i => i - 2

/-- Two accounts opened, a transfer between them, and reads of its rows. -/
def sampleRun : List Request :=
  [.createAccount "alice" .usd 0, .createAccount "bob" .usd 0, .createTransfer "alice" 1 2 40 .usd,
    .listEntries "bob" 2 ⟨10, 0⟩, .getTransfer 3]

theorem sample_run_refines :
    (∀ k, Function.Injective (sampleRenaming k)) ∧
      (∀ k, Numbered (sampleRenaming k) 0 (Request.createdIds sampleRun {} k)) ∧
      Request.AllWithin sampleRun {} ∧ 3 * (sampleRun.length : Int) ≤ Signed64.max ∧
      Request.outcomes (sampleRun.map (Request.rename sampleRenaming)) ({ file := .ledger .empty } : Pool) =
        (Request.outcomes sampleRun ({} : MemoryStore)).map (renameOutcome sampleRenaming) := by
  have hτ : ∀ k, Function.Injective (sampleRenaming k) := by
    intro k x y h
    cases k <;> simp only [sampleRenaming] at h <;> omega
  have hnum : ∀ k, Numbered (sampleRenaming k) 0 (Request.createdIds sampleRun {} k) := by
    intro k
    cases k <;> decide
  have hin : Request.AllWithin sampleRun {} := by decide
  have hroom : 3 * (sampleRun.length : Int) ≤ Signed64.max := by decide
  exact ⟨hτ, hnum, hin, hroom, (memory_store_refines_pool sampleRenaming hτ sampleRun hnum hin hroom).1⟩

end DoubleEntry
