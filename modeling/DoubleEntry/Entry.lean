/-!
# DoubleEntry.Entry

An entry is one signed change of one account's balance. Entries written by a transfer
name it; an opening entry names none.
-/

namespace DoubleEntry

/-- A stored entry. -/
structure Entry where
  id : Int
  accountId : Int
  amount : Int
  transferId : Option Int
  deriving DecidableEq, Repr

def Entry.isDebit (e : Entry) : Bool := decide (e.amount < 0)

end DoubleEntry
