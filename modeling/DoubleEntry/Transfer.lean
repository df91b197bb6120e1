import DoubleEntry.Abort
import DoubleEntry.Page
import DoubleEntry.Signed64

/-!
# DoubleEntry.Transfer

A transfer moves an amount from one account to another. It is recorded once, with the
two entries that carry it. A filter selects transfers by the accounts they touch.
-/

namespace DoubleEntry

/-- A stored transfer. -/
structure Transfer where
  id : Int
  fromAccount : Int
  toAccount : Int
  amount : Int
  deriving DecidableEq, Repr

namespace Transfer

def involves (t : Transfer) (account : Int) : Bool :=
  t.fromAccount == account || t.toAccount == account

/-- The change a transfer makes to an account's balance. The source is asked first, so
a transfer between one account and itself counts as a debit; the debit of the least
64-bit amount cannot be negated and aborts. -/
def deltaFor (t : Transfer) (account : Int) : Except Abort Int :=
  if t.fromAccount = account then
    match Signed64.neg? t.amount with
    | some d => .ok d
    | none => .error .negateOverflow
  else if t.toAccount = account then .ok t.amount
  else .ok 0

end Transfer

/-- Which transfers a listing shows: each given condition must hold, and a page, when
given, cuts the result. -/
structure TransferFilter where
  account : Option Int := none
  fromAccount : Option Int := none
  toAccount : Option Int := none
  page : Option Page := none
  deriving DecidableEq, Repr

namespace TransferFilter

def forAccount (account : Int) : TransferFilter := { account := some account }

def admits (f : TransferFilter) (t : Transfer) : Bool :=
  (f.account.all t.involves) && (f.fromAccount.all (t.fromAccount == ·)) &&
    (f.toAccount.all (t.toAccount == ·))

end TransferFilter
end DoubleEntry
