/-!
# DoubleEntry.Currency

The currencies an account can hold. A currency is named by its three-letter code, and a
code is recognised only when it is written exactly, in capitals.

Main statement: `ofCode?_code` (reading the code of a currency gives that currency back).
-/

namespace DoubleEntry

/-- The currencies the ledger keeps accounts in. -/
inductive Currency where
  | usd
  | eur
  | cad
  deriving DecidableEq, Repr

namespace Currency

def code : Currency → String
  | .usd => "USD"
  | .eur => "EUR"
  | .cad => "CAD"

/-- The currency with this exact code, if there is one. -/
def ofCode? (s : String) : Option Currency :=
  if s = "USD" then some .usd
  else if s = "EUR" then some .eur
  else if s = "CAD" then some .cad
  else none

theorem ofCode?_code (c : Currency) : ofCode? c.code = some c := by
  cases c <;> decide

end Currency
end DoubleEntry
