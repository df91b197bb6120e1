/-!
# DoubleEntry.Abort

A step can stop outright instead of answering: arithmetic left the signed 64-bit range
where the program checks it, a transaction body raised a panic on purpose, or the
in-memory store was left with a poisoned lock by an earlier abort. An abort is not an
error of the ledger; it ends the step, and the answer names its cause.
-/

namespace DoubleEntry

/-- Why a step stopped outright. -/
inductive Abort where
  | negateOverflow
  | addOverflow
  /-- A panic raised on purpose inside a transaction body. -/
  | insideTransaction
  /-- The in-memory store's lock, poisoned by an earlier abort. -/
  | poisoned
  deriving DecidableEq, Repr

/-- The text that reports an abort. -/
def Abort.message : Abort → String
  | .negateOverflow => "attempt to negate with overflow"
  | .addOverflow => "attempt to add with overflow"
  | .insideTransaction => "panic inside transaction"
  | .poisoned => "called `Result::unwrap()` on an `Err` value: PoisonError \x7b .. \x7d"

end DoubleEntry
