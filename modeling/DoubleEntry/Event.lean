import DoubleEntry.Account
import DoubleEntry.Text.Printable
import DoubleEntry.Transfer

/-!
# DoubleEntry.Event

The diagnostic events the ledger reports while it works: an account opened or deleted, a
request refused and why, the steps of a transfer, the end of a transaction, and a failed
integrity check. Each event has a severity, the part of the ledger that reports it, a
message, and named fields in a fixed order.

A field's value is a number, a text shown as it is, or a text shown quoted: between double
quotes, with a backslash before a quote or a backslash, the escapes `\t`, `\r`, `\n` and
`\0`, and every other character that extends the one before it or is not printable as
`\u{hex}` (see `Text.escapedInQuotes`).
-/

namespace DoubleEntry

/-- How severe an event is. -/
inductive Severity where
  | error
  | warn
  | info
  | debug
  deriving DecidableEq, Repr

/-- The verbosity a filter needs to let an event of this severity through: one for errors,
up to four for debugging detail. -/
def Severity.verbosity : Severity → Nat
  | .error => 1
  | .warn => 2
  | .info => 3
  | .debug => 4

/-- The part of the ledger that reports an event. -/
inductive Origin where
  | accounts
  | transfers
  | transactions
  deriving DecidableEq, Repr

/-- The name an origin reports under, which filters select by prefix. -/
def Origin.name : Origin → String
  | .accounts => "bursar::application::service"
  | .transfers => "bursar::application::transfer"
  | .transactions => "bursar::storage::transaction"

/-- The value of an event's field. -/
inductive FieldValue where
  | number (n : Int)
  | plain (s : String)
  | quoted (s : String)
  deriving DecidableEq, Repr

/-- A character of a quoted text, escaped where needed. -/
def quoteChar (c : Char) : String :=
  if c = '"' then "\\\""
  else if c = '\\' then "\\\\"
  else if c = '\t' then "\\t"
  else if c = '\r' then "\\r"
  else if c = '\n' then "\\n"
  else if c.toNat = 0 then "\\0"
  else if Text.escapedInQuotes c then
    "\\u" ++ "\x7b" ++ String.ofList (Nat.toDigits 16 c.toNat) ++ "\x7d"
  else c.toString

/-- The text of a field value. -/
def FieldValue.text : FieldValue → String
  | .number n => toString n
  | .plain s => s
  | .quoted s => "\"" ++ String.join (s.toList.map quoteChar) ++ "\""

/-- What the ledger reports. -/
inductive Event where
  | accountOpened (a : Account)
  | accountDeleted (a : Account)
  | foreignAccount (id : Int) (principal : String)
  | integrityFailed (issues : Nat)
  | nonPositiveAmount (amount : Int)
  | sameAccount (id : Int)
  | notOwner (id : Int) (principal : String)
  | currencyMismatch (id : Int) (held requested : Currency)
  | recording (src dst amount : Int)
  | balanceUpdated (id balance : Int)
  | transferCompleted (id src dst amount : Int) (currency : Currency)
  | committed
  | rolledBack
  | nestedRefused
  deriving DecidableEq, Repr

namespace Event

def severity : Event → Severity
  | .accountOpened _ | .accountDeleted _ | .transferCompleted _ _ _ _ _ => .info
  | .foreignAccount _ _ | .integrityFailed _ | .nonPositiveAmount _ | .sameAccount _
  | .notOwner _ _ | .currencyMismatch _ _ _ | .nestedRefused => .warn
  | .recording _ _ _ | .balanceUpdated _ _ | .committed | .rolledBack => .debug

def origin : Event → Origin
  | .accountOpened _ | .accountDeleted _ | .foreignAccount _ _ | .integrityFailed _ => .accounts
  | .nonPositiveAmount _ | .sameAccount _ | .notOwner _ _ | .currencyMismatch _ _ _
  | .recording _ _ _ | .balanceUpdated _ _ | .transferCompleted _ _ _ _ _ => .transfers
  | .committed | .rolledBack | .nestedRefused => .transactions

def message : Event → String
  | .accountOpened _ => "account created"
  | .accountDeleted _ => "account deleted"
  | .foreignAccount _ _ => "account does not belong to principal"
  | .integrityFailed _ => "ledger integrity check failed"
  | .nonPositiveAmount _ => "rejected transfer with non-positive amount"
  | .sameAccount _ => "rejected transfer to the same account"
  | .notOwner _ _ => "rejected transfer from an account the principal does not own"
  | .currencyMismatch _ _ _ => "rejected transfer with mismatched currency"
  | .recording _ _ _ => "recording transfer"
  | .balanceUpdated _ _ => "balance updated"
  | .transferCompleted _ _ _ _ _ => "transfer completed"
  | .committed => "transaction committed"
  | .rolledBack => "transaction rolled back"
  | .nestedRefused => "rejected nested transaction"

def fields : Event → List (String × FieldValue)
  | .accountOpened a =>
    [("account_id", .number a.id), ("owner", .plain a.owner), ("currency", .plain a.currency.code),
     ("balance", .number a.balance)]
  | .accountDeleted a => [("account_id", .number a.id), ("owner", .plain a.owner)]
  | .foreignAccount id p => [("account_id", .number id), ("principal", .quoted p)]
  | .integrityFailed n => [("issues", .number n)]
  | .nonPositiveAmount amount => [("amount", .number amount)]
  | .sameAccount id => [("account_id", .number id)]
  | .notOwner id p => [("account_id", .number id), ("principal", .plain p)]
  | .currencyMismatch id held requested =>
    [("account_id", .number id), ("account_currency", .plain held.code),
     ("requested", .plain requested.code)]
  | .recording src dst amount =>
    [("from_account_id", .number src), ("to_account_id", .number dst), ("amount", .number amount)]
  | .balanceUpdated id b => [("account_id", .number id), ("balance", .number b)]
  | .transferCompleted id src dst amount c =>
    [("transfer_id", .number id), ("from_account_id", .number src),
     ("to_account_id", .number dst), ("amount", .number amount), ("currency", .plain c.code)]
  | .committed | .rolledBack | .nestedRefused => []

end Event
end DoubleEntry
