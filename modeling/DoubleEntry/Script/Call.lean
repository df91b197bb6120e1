import DoubleEntry.Script.Request
import DoubleEntry.Script.Reply
import DoubleEntry.Service

/-!
# DoubleEntry.Script.Call

Service requests, store calls and transaction bodies of a script, over any store. Each is
an `Act` whose answer is a successful reply and whose failure is an error reply, so that a
transaction can tell the two apart; an abort stays an abort.

A transaction body runs its steps in order and stops at the first error reply, which makes
the body fail; with `abort` set, a body whose steps all succeeded fails as well. A step
that asks for a transaction inside the body is answered by the store's refusal.
-/

namespace DoubleEntry
namespace Script

variable {σ : Type} [LedgerStore σ]

/-- Answers become `done` replies and failures become replies through `onFail`. -/
def answer {ε : Type} (onFail : ε → Reply) (x : Act σ ε Datum) : Act σ Reply Reply := fun s =>
  match x s with
  | .ok d s' => .ok (.done d) s'
  | .error (.fail e) s' => .error (.fail (onFail e)) s'
  | .error (.abort a) s' => .error (.abort a) s'

def accountDatum (a : Account) : Datum := .record a.fields

def optAccount : Option Account → Datum
  | some a => accountDatum a
  | none => .null

def optEntry : Option Entry → Datum
  | some e => .record e.fields
  | none => .null

def optTransfer : Option Transfer → Datum
  | some t => .record t.fields
  | none => .null

def accountsDatum (xs : List Account) : Datum := .list (xs.map accountDatum)

def entriesDatum (xs : List Entry) : Datum := .list (xs.map fun e => .record e.fields)

def transfersDatum (xs : List Transfer) : Datum := .list (xs.map fun t => .record t.fields)

/-- Refuses an unknown currency code before anything else happens. -/
def withCurrency (code : String) (k : Currency → Act σ Reply Reply) : Act σ Reply Reply :=
  match Currency.ofCode? code with
  | some c => k c
  | none => Act.fail (.refused (.unsupportedCurrency code))

def serviceAct : ServiceRequest → Act σ Reply Reply
  | .createAccount owner code opening => withCurrency code fun c =>
    answer .refused (accountDatum <$> Service.createAccount owner c opening)
  | .getAccount principal id => answer .refused (accountDatum <$> Service.getAccount principal id)
  | .listAccounts owner page => answer .refused (accountsDatum <$> Service.listAccounts owner page)
  | .deleteAccount principal id =>
    answer .refused (accountDatum <$> Service.deleteAccount principal id)
  | .listEntries principal account page =>
    answer .refused (entriesDatum <$> Service.listEntries principal account page)
  | .getTransfer id => answer .refused ((fun t => Datum.record t.fields) <$> Service.getTransfer id)
  | .listTransfers f => answer .refused (transfersDatum <$> Service.listTransfers f)
  | .createTransfer principal src dst amount code => withCurrency code fun c =>
    answer .refused ((fun t => Datum.record t.fields) <$> Service.createTransfer principal src dst amount c)

def storeAct : StoreRequest → Act σ Reply Reply
  | .inTransaction => fun s => .ok (.done (.bool (LedgerStore.inTransaction s))) s
  | .createAccount owner code => withCurrency code fun c =>
    answer .failed (accountDatum <$> LedgerStore.createAccount ⟨owner, c⟩)
  | .getAccount id => answer .failed (optAccount <$> LedgerStore.getAccount id)
  | .listAccounts owner page => answer .failed (accountsDatum <$> LedgerStore.listAccounts owner page)
  | .deleteAccount id => answer .failed (Datum.bool <$> LedgerStore.deleteAccount id)
  | .addBalance id delta => answer .failed (Datum.ofOption <$> LedgerStore.addBalance id delta)
  | .createEntry account amount transfer =>
    answer .failed ((fun e => Datum.record e.fields) <$> LedgerStore.createEntry account amount transfer)
  | .getEntry id => answer .failed (optEntry <$> LedgerStore.getEntry id)
  | .listEntries account page => answer .failed (entriesDatum <$> LedgerStore.listEntries account page)
  | .countEntries account => answer .failed ((fun n => Datum.int n) <$> LedgerStore.countEntries account)
  | .createTransfer src dst amount =>
    answer .failed ((fun t => Datum.record t.fields) <$> LedgerStore.createTransfer src dst amount)
  | .getTransfer id => answer .failed (optTransfer <$> LedgerStore.getTransfer id)
  | .listTransfers f => answer .failed (transfersDatum <$> LedgerStore.listTransfers f)

def callAct : Call → Act σ Reply Reply
  | .service r => serviceAct r
  | .store r => storeAct r
  | .malformed m => Act.fail (.malformed m)

/-- The reply to an act: its answer, its failure, or its abort. -/
def settle (x : Act σ Reply Reply) (s : σ) : Reply × σ :=
  match x s with
  | .ok r s' => (r, s')
  | .error (.fail r) s' => (r, s')
  | .error (.abort a) s' => (.aborted a, s')

def txStepAct : TxStep → Act σ Reply Reply
  | .store r => storeAct r
  | .nested => fun s =>
    match LedgerStore.transact (pure () : Act σ Unit Unit) s with
    | (.refused r, s') => .error (.fail (.refused r.toError)) s'
    | (.committed _, s') => .ok (.done .null) s'
    | (.rolledBack _, s') => .ok (.done .null) s'
    | (.aborted a, s') => .error (.abort a) s'
  | .panic => Act.abort .insideTransaction
  | .malformed m => Act.fail (.malformed m)

/-- A transaction body: the replies so far, failing at the first error reply. -/
def txBody (abort : Bool) : List TxStep → List Reply → Act σ (List Reply) (List Reply)
  | [], acc => fun s => if abort then .error (.fail acc) s else .ok acc s
  | st :: rest, acc => fun s =>
    match txStepAct st s with
    | .ok r s' => txBody abort rest (acc ++ [r]) s'
    | .error (.fail r) s' => .error (.fail (acc ++ [r])) s'
    | .error (.abort a) s' => .error (.abort a) s'

def txOutcome (committed : Bool) (steps : List Reply) : Datum :=
  .record [("committed", .bool committed), ("steps", .list (steps.map Reply.toDatum))]

/-- Runs store calls as one transaction. -/
def txReply (steps : List TxStep) (abort : Bool) (s : σ) : Reply × σ :=
  match LedgerStore.transact (txBody abort steps []) s with
  | (.committed rs, s') => (.done (txOutcome true rs), s')
  | (.rolledBack rs, s') => (.done (txOutcome false rs), s')
  | (.refused r, s') => (.refused r.toError, s')
  | (.aborted a, s') => (.aborted a, s')

/-- Runs one call as a transaction, kept when its reply is not an error. -/
def inTxReply (c : Call) (s : σ) : Reply × σ :=
  let outcome (committed : Bool) (r : Reply) : Datum :=
    .record [("committed", .bool committed), ("step", r.toDatum)]
  match LedgerStore.transact (callAct c) s with
  | (.committed r, s') => (.done (outcome true r), s')
  | (.rolledBack r, s') => (.done (outcome false r), s')
  | (.refused r, s') => (.refused r.toError, s')
  | (.aborted a, s') => (.aborted a, s')

end Script
end DoubleEntry
