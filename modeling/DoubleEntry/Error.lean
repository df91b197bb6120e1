import DoubleEntry.Currency

/-!
# DoubleEntry.Error

What goes wrong, as causes rather than texts. A `Fault` is an internal failure below the
ledger's rules: the database engine refused a statement, the connection pool was closed,
a connection's worker stopped, a store call was made to fail on purpose, or a row vanished. A `LedgerError` is what the
ledger service answers: a broken rule of the ledger, or a fault wrapped as a database error.

Faults are reported as a chain of messages, outermost first, the way a context is stacked
on a cause; the full report joins the chain with `": "`. The engine repeats its own text
once as the cause of its error, so an engine fault reads
`context: error returned from database: (code: C) text: (code: C) text`.
-/

namespace DoubleEntry

/-- Why the database engine refused a statement. -/
inductive DbCause where
  /-- A `CHECK` constraint failed; the constraint is named by its expression. -/
  | checkFailed (constraint : String)
  /-- A row names a parent that does not exist, or a parent still has children. -/
  | foreignKey
  | noSuchTable (table : String)
  | integerOverflow
  /-- A value the statement needs as an integer, such as a `LIMIT`, is not one. -/
  | datatypeMismatch
  | cannotOpen
  | readOnly
  | notADatabase
  | unknownMode (mode : String)
  | modeNotAllowed (mode : String)
  | unknownCache (mode : String)
  | unknownLayer (name : String)
  deriving DecidableEq, Repr

namespace DbCause

/-- The engine's result code. -/
def code : DbCause → Nat
  | .checkFailed _ => 275
  | .foreignKey => 787
  | .noSuchTable _ => 1
  | .integerOverflow => 1
  | .datatypeMismatch => 20
  | .cannotOpen => 14
  | .readOnly => 8
  | .notADatabase => 26
  | .unknownMode _ => 1
  | .modeNotAllowed _ => 3
  | .unknownCache _ => 1
  | .unknownLayer _ => 1

/-- The engine's own text, without the code. -/
def text : DbCause → String
  | .checkFailed c => "CHECK constraint failed: " ++ c
  | .foreignKey => "FOREIGN KEY constraint failed"
  | .noSuchTable t => "no such table: " ++ t
  | .integerOverflow => "integer overflow"
  | .datatypeMismatch => "datatype mismatch"
  | .cannotOpen => "unable to open database file"
  | .readOnly => "attempt to write a readonly database"
  | .notADatabase => "file is not a database"
  | .unknownMode m => "no such access mode: " ++ m
  | .modeNotAllowed m => "access mode not allowed: " ++ m
  | .unknownCache m => "no such cache mode: " ++ m
  | .unknownLayer n => "no such vfs: " ++ n

def withCode (c : DbCause) : String := s!"(code: {c.code}) {c.text}"

end DbCause

def closedPoolText : String := "attempted to acquire a connection on a closed pool"

/-- An internal failure below the ledger's rules. -/
inductive Fault where
  /-- The engine refused a statement; `context` says what was being done. -/
  | engine (context : String) (cause : DbCause)
  | closedPool (context : String)
  /-- The worker thread of a new connection stopped while setting it up. -/
  | workerCrashed (context : String)
  /-- A database name that the engine cannot be given, such as one holding a zero byte. -/
  | badName (context reason : String)
  | injected (operation : String)
  | vanished (transfer : Int)
  deriving DecidableEq, Repr

namespace Fault

/-- The messages of a fault, outermost first. -/
def chain : Fault → List String
  | .engine ctx c => [ctx, "error returned from database: " ++ c.withCode, c.withCode]
  | .closedPool ctx => [ctx, closedPoolText]
  | .workerCrashed ctx => [ctx, "attempted to communicate with a crashed background worker"]
  | .badName ctx r => [ctx, "error communicating with database: " ++ r, r]
  | .injected op => ["injected failure in " ++ op]
  | .vanished t => [s!"transfer {t} missing after insert"]

def message (f : Fault) : String := ": ".intercalate f.chain

end Fault

/-- The class of a ledger error, as a caller would react to it. -/
inductive ErrorKind where
  | notFound
  | invalidArgument
  | unauthorized
  | internal
  deriving DecidableEq, Repr

def ErrorKind.name : ErrorKind → String
  | .notFound => "NOT_FOUND"
  | .invalidArgument => "INVALID_ARGUMENT"
  | .unauthorized => "UNAUTHORIZED"
  | .internal => "INTERNAL"

/-- Which amount rule was broken. -/
inductive AmountRule where
  | negativeOpening
  | nonPositiveTransfer
  deriving DecidableEq, Repr

def AmountRule.reason : AmountRule → String
  | .negativeOpening => "opening balance cannot be negative"
  | .nonPositiveTransfer => "transfer amount must be positive"

/-- What the ledger service answers instead of a result. -/
inductive LedgerError where
  | accountNotFound (id : Int)
  | transferNotFound (id : Int)
  | invalidAmount (amount : Int) (rule : AmountRule)
  | sameAccount (id : Int)
  | currencyMismatch (id : Int) (held requested : Currency)
  | unsupportedCurrency (code : String)
  | accountInUse (id : Int)
  | unauthorized (id : Int) (principal : String)
  | nested
  | beginFailed
  | database (f : Fault)
  deriving DecidableEq, Repr

namespace LedgerError

def kind : LedgerError → ErrorKind
  | .accountNotFound _ | .transferNotFound _ => .notFound
  | .invalidAmount _ _ | .sameAccount _ | .currencyMismatch _ _ _ | .unsupportedCurrency _
  | .accountInUse _ => .invalidArgument
  | .unauthorized _ _ => .unauthorized
  | .nested | .beginFailed | .database _ => .internal

/-- The sentence that reports an error. -/
def message : LedgerError → String
  | .accountNotFound id => s!"Account not found: {id}"
  | .transferNotFound id => s!"Transfer not found: {id}"
  | .invalidAmount a r => s!"Invalid amount {a}: " ++ r.reason
  | .sameAccount id => s!"Cannot transfer from account {id} to itself"
  | .currencyMismatch id h r => s!"Account {id} currency mismatch: " ++ h.code ++ " vs " ++ r.code
  | .unsupportedCurrency c => "unsupported currency: " ++ c
  | .accountInUse id => s!"Account {id} has entries and cannot be deleted"
  | .unauthorized id p => s!"Account {id} does not belong to " ++ p
  | .nested => "nested transactions are not supported"
  | .beginFailed => "failed to begin transaction: " ++ closedPoolText
  | .database f => "Database error: " ++ f.message

/-- The messages of an error and of the causes beneath it, outermost first. -/
def chain (e : LedgerError) : List String :=
  match e with
  | .beginFailed => [e.message, closedPoolText]
  | .database f => e.message :: f.chain
  | _ => [e.message]

/-- The name of the error's case, as reported to callers. -/
def caseName : LedgerError → String
  | .accountNotFound _ => "AccountNotFound"
  | .transferNotFound _ => "TransferNotFound"
  | .invalidAmount _ _ => "InvalidAmount"
  | .sameAccount _ => "SameAccount"
  | .currencyMismatch _ _ _ => "CurrencyMismatch"
  | .unsupportedCurrency _ => "UnsupportedCurrency"
  | .accountInUse _ => "AccountInUse"
  | .unauthorized _ _ => "Unauthorized"
  | .nested => "TransactionNested"
  | .beginFailed => "TransactionBegin"
  | .database _ => "Database"

end LedgerError
end DoubleEntry
