import DoubleEntry.Currency

/-!
# DoubleEntry.Account

An account belongs to one owner, holds one currency and carries a stored balance in cents.
The balance is a cache of the sum of the account's entries, moved only by increments.
-/

namespace DoubleEntry

/-- A stored account. -/
structure Account where
  id : Int
  owner : String
  balance : Int
  currency : Currency
  deriving DecidableEq, Repr

/-- What is needed to open an account; the store chooses its id and starts it at zero. -/
structure NewAccount where
  owner : String
  currency : Currency
  deriving DecidableEq, Repr

def Account.ownedBy (a : Account) (principal : String) : Bool :=
  a.owner == principal

end DoubleEntry
