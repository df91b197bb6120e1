import Mathlib.Logic.Relation
import DoubleEntry.Proofs.Atomicity
import DoubleEntry.Script.Session

/-!
# DoubleEntry.Proofs.Runs

Runs of requests on the ledger's pool, and the tables they can reach.

`Tables.ServiceStep` says once everything a request of the ledger service can do to the
tables: nothing, open an account, record a transfer the tables admit, or drop an account
without entries. `Tables.Step` adds what the store's own calls can do when a caller makes
them directly. `Pool.Evolves S p q` says that whatever tables `p` serves under their keys,
`q` serves tables that `S`-steps reach from them; it is a preorder, so it is proved of a
whole request from its calls (`serviceAct_evolves`, `storeAct_evolves`), and of a whole run
from its requests (`runOps_evolves`). Every invariant of the ledger is then a case split
over one step.
-/

namespace DoubleEntry

namespace Tables

/-- What one request of the ledger service can do to the tables. -/
inductive ServiceStep (t : Tables) : Tables → Prop where
  | keep : ServiceStep t t
  | openAccount (owner : String) (currency : Currency) {b : Int} (hb : 0 ≤ b)
      (hfit : Signed64.Fits b) : ServiceStep t (t.withAccount owner currency b)
  | transfer {src dst amount : Int} (h : t.Admits src dst amount) :
      ServiceStep t (t.withTransfer src dst amount)
  | delete {id : Int} (hfree : ∀ e ∈ t.entries, e.accountId ≠ id) :
      ServiceStep t (t.dropAccount id)

/-- What one call can do to the tables: a request of the service, or one of the store's own
writes made directly, which only the schema's checks guard. -/
inductive Step (t : Tables) : Tables → Prop where
  | service {t' : Tables} (h : ServiceStep t t') : Step t t'
  | insertAccount (owner : String) (currency : Currency) : Step t (t.pushAccount owner currency 0)
  | setBalance {id v : Int} {a : Account} (ha : t.account? id = some a) (hfit : Signed64.Fits v) :
      Step t (t.setBalance id v)
  | insertEntry {account : Int} (amount : Int) (transfer : Option Int)
      (ha : t.account? account ≠ none) : Step t (t.pushEntry account amount transfer)
  | insertTransfer {src dst amount : Int} (hpos : 0 < amount) (hne : src ≠ dst)
      (hamt : Signed64.Fits amount) (hs : t.account? src ≠ none) (hd : t.account? dst ≠ none) :
      Step t (t.pushTransfer src dst amount)

end Tables

namespace Pool

variable {S S' : Tables → Tables → Prop} {p q : Pool}

/-- Whatever tables `p` serves under their keys, `q` serves tables under their keys that
`S`-steps reach from them. -/
def Evolves (S : Tables → Tables → Prop) (p q : Pool) : Prop :=
  ∀ t, p.Serves t → t.Wf → ∃ t', q.Serves t' ∧ t'.Wf ∧ Relation.ReflTransGen S t t'

instance : IsPreorder Pool (Evolves S) where
  refl _ t hp hw := ⟨t, hp, hw, .refl⟩
  trans _ _ _ h₁ h₂ t hp hw := by
    obtain ⟨t', hq, hw', h⟩ := h₁ t hp hw
    obtain ⟨t'', hr, hw'', h'⟩ := h₂ t' hq hw'
    exact ⟨t'', hr, hw'', h.trans h'⟩

theorem Evolves.mono (hS : ∀ {t t'}, S t t' → S' t t') (h : Evolves S p q) : Evolves S' p q := by
  intro t hp hw
  obtain ⟨t', hq, hw', h⟩ := h t hp hw
  exact ⟨t', hq, hw', Relation.ReflTransGen.mono (fun _ _ => hS) t t' h⟩

theorem Unwritten.evolves (h : Unwritten p q) : Evolves S p q :=
  fun t hp hw => ⟨t, hp.of_unwritten h, hw, .refl⟩

theorem keeps_evolves {ε α : Type} {x : Act Pool ε α} (h : Act.Keeps Unwritten x) :
    Act.Keeps (Evolves S) x :=
  fun p => (h p).evolves

theorem statement_evolves {α : Type} {ctx tbl : String} {w : Bool}
    {run : Tables → Except DbCause (α × Tables)}
    (h : ∀ t t' a, t.Wf → run t = .ok (a, t') → t'.Wf ∧ S t t') :
    Act.Keeps (Evolves S) (statement ctx tbl w run) := by
  intro p t hp hw
  cases e : statement ctx tbl w run p with
  | ok a q =>
    rw [Act.after_of_ok e]
    obtain ⟨t₀, t', hf, -, -, hrun, rfl⟩ := statement_eq_ok e
    cases hf.symm.trans hp.file
    obtain ⟨hw', hs⟩ := h t t' a hw hrun
    exact ⟨t', ⟨rfl, hp.isOpen, hp.outside, hp.writable⟩, hw', .single hs⟩
  | error e' q =>
    rw [Act.after_of_error e]
    rcases statement_eq_error e with rfl | rfl
    · exact ⟨t, hp, hw, .refl⟩
    · exact ⟨t, ⟨hp.file, hp.isOpen, hp.outside, hp.writable⟩, hw, .refl⟩

/-! ## The service's requests -/

theorem createAccount_evolves (owner : String) (currency : Currency) {b : Int}
    (hfit : Signed64.Fits b) :
    Act.Keeps (Evolves Tables.ServiceStep)
      (Service.createAccount owner currency b : Act Pool LedgerError Account) := by
  intro p t hp hw
  have h := createAccount_effect hp hw owner currency hfit
  cases e : (Service.createAccount owner currency b : Act Pool LedgerError Account) p with
  | ok a q =>
    rw [e] at h
    rw [Act.after_of_ok e]
    have hb : 0 ≤ b := by
      by_contra hneg
      unfold Service.createAccount at e
      rw [if_pos (by omega), Act.fail_apply] at e
      cases e
    exact ⟨_, h.2, hw.withAccount owner currency b, .single (.openAccount owner currency hb hfit)⟩
  | error err q =>
    rw [e] at h
    obtain ⟨-, -, rfl⟩ := h
    rw [Act.after_of_error e]
    exact ⟨t, hp, hw, .refl⟩

theorem createTransfer_evolves (principal : String) (src dst amount : Int) (currency : Currency)
    (hamt : Signed64.Fits amount) :
    Act.Keeps (Evolves Tables.ServiceStep)
      (Service.createTransfer principal src dst amount currency : Act Pool LedgerError Transfer) := by
  intro p t hp hw
  have h := createTransfer_effect hp hw principal src dst amount currency hamt
  cases e : (Service.createTransfer principal src dst amount currency :
      Act Pool LedgerError Transfer) p with
  | ok x q =>
    rw [e] at h
    rw [Act.after_of_ok e]
    exact ⟨_, h.2, hw.withTransfer src dst amount, .single (.transfer (createTransfer_admits hp hamt e))⟩
  | error err q =>
    rw [e] at h
    rw [Act.after_of_error e]
    exact ⟨t, h, hw, .refl⟩

theorem deleteAccount_evolves {id : Int} :
    Act.Keeps (Evolves Tables.ServiceStep) (LedgerStore.deleteAccount id : Act Pool Fault Bool) := by
  refine statement_evolves fun t t' b hw h => ?_
  rcases Tables.deleteAccount_eq_ok h with ⟨-, rfl⟩ | ⟨-, rfl, hfree⟩
  · exact ⟨hw, .keep⟩
  · exact ⟨hw.dropAccount id, .delete hfree⟩

theorem serviceDeleteAccount_evolves (principal : String) (id : Int) :
    Act.Keeps (Evolves Tables.ServiceStep)
      (Service.deleteAccount principal id : Act Pool LedgerError Account) := by
  unfold Service.deleteAccount
  refine Act.Keeps.bind (keeps_evolves (getAccount_keeps principal id)) fun a => ?_
  refine Act.Keeps.bind (.mapFail _ deleteAccount_evolves) fun b => ?_
  split
  · exact Act.Keeps.bind (keeps_evolves (note_keeps _)) fun _ => .pure _
  · exact .fail _

theorem checkIntegrity_keeps : Act.Keeps Unwritten Service.checkIntegrity := by
  unfold Service.checkIntegrity
  have hs : Act.Keeps Unwritten Pool.snapshot := by
    intro p
    have : (∃ s, Pool.snapshot p = .ok s p) ∨ ∃ e, Pool.snapshot p = .error e p := by
      unfold Pool.snapshot
      split
      · exact .inr ⟨_, rfl⟩
      · split
        · exact .inr ⟨_, rfl⟩
        · split
          · exact .inr ⟨_, rfl⟩
          · exact .inl ⟨_, rfl⟩
    rcases this with ⟨s, e⟩ | ⟨e', e⟩
    · rw [Act.after_of_ok e]
      exact refl_of Unwritten p
    · rw [Act.after_of_error e]
      exact refl_of Unwritten p
  refine Act.Keeps.bind (.mapFail _ hs) fun s => ?_
  refine Act.Keeps.bind (.ofExcept _) fun r => ?_
  dsimp only
  split
  · exact Act.Keeps.bind (note_keeps _) fun _ => .pure _
  · exact .pure _

/-! ## Requests as a script makes them -/

theorem keeps_evolves_mono {ε α : Type} {x : Act Pool ε α} (hS : ∀ {t t'}, S t t' → S' t t')
    (h : Act.Keeps (Evolves S) x) : Act.Keeps (Evolves S') x :=
  fun p => (h p).mono hS

theorem answer_after {ε : Type} (onFail : ε → Script.Reply) (x : Act Pool ε Datum) (p : Pool) :
    (Script.answer onFail x).after p = x.after p := by
  unfold Script.answer Act.after
  dsimp only
  cases x p with
  | ok d p' => rfl
  | error e p' => cases e <;> rfl

theorem Keeps.answer {R : Pool → Pool → Prop} {ε : Type} {onFail : ε → Script.Reply}
    {x : Act Pool ε Datum} (h : Act.Keeps R x) : Act.Keeps R (Script.answer onFail x) := by
  intro p
  rw [answer_after]
  exact h p

theorem Keeps.withCurrency {R : Pool → Pool → Prop} [IsPreorder Pool R] {code : String}
    {k : Currency → Act Pool Script.Reply Script.Reply} (h : ∀ c, Act.Keeps R (k c)) :
    Act.Keeps R (Script.withCurrency code k) := by
  unfold Script.withCurrency
  split
  · exact h _
  · exact .fail _

theorem settle_snd (x : Act Pool Script.Reply Script.Reply) (p : Pool) :
    (Script.settle x p).2 = x.after p := by
  unfold Script.settle Act.after
  cases x p with
  | ok r p' => rfl
  | error e p' => cases e <;> rfl

theorem checkReply_snd (p : Pool) : (Script.checkReply p).2 = Service.checkIntegrity.after p := by
  unfold Script.checkReply Act.after
  cases Service.checkIntegrity p with
  | ok r p' => rfl
  | error e p' => cases e <;> rfl

end Pool

/-- A request made of the ledger's pool: a call, that is a service request, a direct store
call or one that could not be read, or the integrity check. -/
inductive Op where
  | call (c : Script.Call)
  | check

namespace Op

def run : Op → Pool → Script.Reply × Pool
  | call c => Script.settle (Script.callAct c)
  | check => Script.checkReply

/-- The amounts of a request that the ledger's interface types as 64-bit integers and the
rules rely on: an opening balance, and the amount of a transfer. -/
def Sized : Op → Prop
  | call (.service (.createAccount _ _ opening)) => Signed64.Fits opening
  | call (.service (.createTransfer _ _ _ amount _)) => Signed64.Fits amount
  | call (.store (.createTransfer _ _ amount)) => Signed64.Fits amount
  | _ => True

/-- A request of the ledger service: a service request, or the integrity check. -/
def OfService : Op → Prop
  | call (.service _) => True
  | check => True
  | _ => False

end Op

def runOps (ops : List Op) (p : Pool) : Pool :=
  ops.foldl (fun p op => (op.run p).2) p

namespace Pool

variable {S : Tables → Tables → Prop}

theorem serviceAct_evolves {r : Script.ServiceRequest} (hs : (Op.call (.service r)).Sized) :
    Act.Keeps (Evolves Tables.ServiceStep)
      (Script.serviceAct r : Act Pool Script.Reply Script.Reply) := by
  cases r with
  | createAccount owner code opening =>
    exact Keeps.withCurrency fun c => Keeps.answer (.map _ (createAccount_evolves owner c hs))
  | getAccount principal id =>
    exact Keeps.answer (.map _ (keeps_evolves (getAccount_keeps principal id)))
  | listAccounts owner page => exact Keeps.answer (.map _ (keeps_evolves (.mapFail _ query_keeps)))
  | deleteAccount principal id =>
    exact Keeps.answer (.map _ (serviceDeleteAccount_evolves principal id))
  | listEntries principal account page =>
    exact Keeps.answer (.map _ (keeps_evolves
      (Act.Keeps.bind (getAccount_keeps principal account) fun _ => .mapFail _ query_keeps)))
  | getTransfer id =>
    refine Keeps.answer (.map _ (keeps_evolves (Act.Keeps.bind (.mapFail _ query_keeps) fun r => ?_)))
    cases r
    · exact .fail _
    · exact .pure _
  | listTransfers f => exact Keeps.answer (.map _ (keeps_evolves (.mapFail _ query_keeps)))
  | createTransfer principal src dst amount code =>
    exact Keeps.withCurrency fun c =>
      Keeps.answer (.map _ (createTransfer_evolves principal src dst amount c hs))

theorem storeAct_evolves {r : Script.StoreRequest} (hs : (Op.call (.store r)).Sized) :
    Act.Keeps (Evolves Tables.Step) (Script.storeAct r : Act Pool Script.Reply Script.Reply) := by
  cases r with
  | inTransaction => exact fun p => refl_of (Evolves Tables.Step) p
  | createAccount owner code =>
    refine Keeps.withCurrency fun c => Keeps.answer (.map _ (statement_evolves ?_))
    intro t t' a hw h
    cases h
    exact ⟨hw.insertAccount _, .insertAccount owner c⟩
  | getAccount id => exact Keeps.answer (.map _ (keeps_evolves query_keeps))
  | listAccounts owner page => exact Keeps.answer (.map _ (keeps_evolves query_keeps))
  | deleteAccount id =>
    exact Keeps.answer (.map _ (keeps_evolves_mono Tables.Step.service deleteAccount_evolves))
  | addBalance id delta =>
    refine Keeps.answer (.map _ (statement_evolves fun t t' r hw h => ?_))
    rcases Tables.addBalance_eq_ok h with ⟨-, -, rfl⟩ | ⟨a, ha, hfit, -, rfl⟩
    · exact ⟨hw, .service .keep⟩
    · exact ⟨hw.setBalance id _, .setBalance ha hfit⟩
  | createEntry account amount transfer =>
    refine Keeps.answer (.map _ (statement_evolves fun t t' e hw h => ?_))
    obtain ⟨ha, -, rfl⟩ := Tables.insertEntry_eq_ok h
    exact ⟨hw.pushEntry account amount transfer, .insertEntry amount transfer ha⟩
  | getEntry id => exact Keeps.answer (.map _ (keeps_evolves query_keeps))
  | listEntries account page => exact Keeps.answer (.map _ (keeps_evolves query_keeps))
  | countEntries account =>
    exact Keeps.answer (.map _ (Act.Keeps.bind (keeps_evolves query_keeps) fun _ => .pure _))
  | createTransfer src dst amount =>
    refine Keeps.answer (.map _ (statement_evolves fun t t' x hw h => ?_))
    obtain ⟨hpos, hne, hsrc, hdst, -, rfl⟩ := Tables.insertTransfer_eq_ok h
    exact ⟨hw.pushTransfer src dst amount, .insertTransfer hpos hne hs hsrc hdst⟩
  | getTransfer id => exact Keeps.answer (.map _ (keeps_evolves query_keeps))
  | listTransfers f => exact Keeps.answer (.map _ (keeps_evolves query_keeps))

end Pool

namespace Op

open Pool

theorem run_evolves_service {op : Op} (hs : op.Sized) (hsvc : op.OfService) (p : Pool) :
    Evolves Tables.ServiceStep p (op.run p).2 := by
  cases op with
  | call c =>
    cases c with
    | service r =>
      rw [run, settle_snd]
      exact serviceAct_evolves hs p
    | store r => cases hsvc
    | malformed m => cases hsvc
  | check =>
    rw [run, checkReply_snd]
    exact (checkIntegrity_keeps p).evolves

theorem run_evolves {op : Op} (hs : op.Sized) (p : Pool) : Evolves Tables.Step p (op.run p).2 := by
  cases op with
  | call c =>
    rw [run, settle_snd]
    cases c with
    | service r => exact keeps_evolves_mono Tables.Step.service (serviceAct_evolves hs) p
    | store r => exact storeAct_evolves hs p
    | malformed m => exact refl_of (Evolves Tables.Step) p
  | check =>
    rw [run, checkReply_snd]
    exact (checkIntegrity_keeps p).evolves

end Op

/-- A run whose every request moves the tables by `S`-steps moves them by `S`-steps. -/
theorem runOps_evolves {S : Tables → Tables → Prop} {ops : List Op}
    (h : ∀ op ∈ ops, ∀ p, Pool.Evolves S p (op.run p).2) (p : Pool) :
    Pool.Evolves S p (runOps ops p) := by
  induction ops generalizing p with
  | nil => exact refl_of (Pool.Evolves S) p
  | cons op ops ih =>
    exact trans_of (Pool.Evolves S) (h op List.mem_cons_self p)
      (ih (fun op' hop => h op' (List.mem_cons_of_mem op hop)) _)

/-- A run from the empty schema leaves the pool serving tables that `S`-steps reach from the
empty tables. -/
theorem runOps_from_empty {S : Tables → Tables → Prop} {ops : List Op}
    (h : ∀ op ∈ ops, ∀ p, Pool.Evolves S p (op.run p).2) :
    ∃ t, (runOps ops { file := .ledger .empty }).Serves t ∧ t.Wf ∧
      Relation.ReflTransGen S .empty t :=
  runOps_evolves h _ .empty ⟨rfl, rfl, rfl, rfl⟩ Tables.wf_empty

end DoubleEntry
