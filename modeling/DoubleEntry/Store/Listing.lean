import DoubleEntry.Error
import DoubleEntry.Transfer

/-!
# DoubleEntry.Store.Listing

The statement that lists transfers, as the store writes it. The filter is read twice. A first
pass appends to `SELECT id, from_account_id, to_account_id, amount, created_at FROM transfers
WHERE 1=1` one condition for each account the filter gives, each after ` AND ` and with a `?`
placeholder for each value it compares, then ` ORDER BY id`, then ` LIMIT ? OFFSET ?` when the
filter has a page. A second pass binds the values, one for each placeholder, in the order it
reads the filter.

The engine numbers the placeholders in the order they stand in the text and gives the n-th bound
value to the n-th; a placeholder past the values bound reads as NULL. A comparison with NULL is
never true, so it keeps no row, and a `LIMIT` or `OFFSET` that is NULL is refused as a datatype
mismatch. A negative `LIMIT` sets no bound and a negative `OFFSET` skips nothing.

Main statement: `TransferFilter.listQuery_run_ne_error` (a listing binds its page, so the engine
never refuses it).
-/

namespace DoubleEntry

/-- A column of the transfers table that a listing compares. -/
inductive TransferColumn where
  | fromAccountId
  | toAccountId
  deriving DecidableEq, Repr

def TransferColumn.read : TransferColumn → Transfer → Int
  | .fromAccountId, x => x.fromAccount
  | .toAccountId, x => x.toAccount

/-- A condition of a listing, its values left as placeholders. -/
inductive Condition where
  /-- `column = ?` -/
  | eq (c : TransferColumn)
  /-- `(p OR q)`; the placeholders of `p` come first. -/
  | or (p q : Condition)
  deriving DecidableEq, Repr

namespace Condition

def arity : Condition → Nat
  | .eq _ => 1
  | .or p q => p.arity + q.arity

def totalArity : List Condition → Nat
  | [] => 0
  | c :: cs => c.arity + totalArity cs

/-- Whether a condition is true of a row when its placeholders take the values `vs`, from the
first on. A placeholder past the end of `vs` is NULL and equals nothing. -/
def holds (row : Transfer) : Condition → List Int → Bool
  | .eq c, vs => vs.head? == some (c.read row)
  | .or p q, vs => p.holds row vs || q.holds row (vs.drop p.arity)

/-- Whether `1=1 AND c₁ AND c₂ …` is true of a row: each condition's placeholders come after
those of the conditions before it. -/
def allHold (row : Transfer) : List Condition → List Int → Bool
  | [], _ => true
  | c :: cs, vs => c.holds row vs && allHold row cs (vs.drop c.arity)

end Condition

def limitOffset {α : Type} (limit offset : Int) (rows : List α) : List α :=
  let rest := rows.drop offset.toNat
  if limit < 0 then rest else rest.take limit.toNat

/-- A listing of transfers: the conditions appended after `WHERE 1=1`, and whether
` LIMIT ? OFFSET ?` follows ` ORDER BY id`. -/
structure TransferQuery where
  conditions : List Condition
  paged : Bool
  deriving DecidableEq, Repr

/-- Runs a listing on the rows of the transfers table with `binds` bound to its placeholders in
order: the rows every condition is true of, sorted by id, and, when the listing is paged, the
part its `LIMIT` and `OFFSET` select, which take the two values after those of the conditions. -/
def TransferQuery.run (q : TransferQuery) (binds : List Int) (rows : List Transfer) :
    Except DbCause (List Transfer) :=
  let hits := (rows.filter (Condition.allHold · q.conditions binds)).mergeSort (·.id ≤ ·.id)
  if q.paged then
    match binds.drop (Condition.totalArity q.conditions) with
    | limit :: offset :: _ => .ok (limitOffset limit offset hits)
    | _ => .error .datatypeMismatch
  else .ok hits

namespace TransferFilter

/-- The conditions a listing appends, in the order it reads the filter: either side, then the
source, then the destination. -/
def listConditions (f : TransferFilter) : List Condition :=
  (if f.account.isSome then [.or (.eq .fromAccountId) (.eq .toAccountId)] else []) ++
    (if f.fromAccount.isSome then [.eq .fromAccountId] else []) ++
    (if f.toAccount.isSome then [.eq .toAccountId] else [])

def listQuery (f : TransferFilter) : TransferQuery := ⟨f.listConditions, f.page.isSome⟩

/-- The values a listing binds, in a second reading of the filter: the account twice, the
source, the destination, then the page's limit and offset. -/
def listBinds (f : TransferFilter) : List Int :=
  f.account.elim [] (fun id => [id, id]) ++ f.fromAccount.elim [] (fun id => [id]) ++
    f.toAccount.elim [] (fun id => [id]) ++
    f.page.elim [] (fun p => [(p.limit : Int), (p.offset : Int)])

/-- A paged listing binds its limit and offset right after the values of its conditions. -/
theorem listBinds_drop {f : TransferFilter} {p : Page} (hp : f.page = some p) :
    f.listBinds.drop (Condition.totalArity f.listConditions) = [(p.limit : Int), (p.offset : Int)] := by
  obtain ⟨account, src, dst, page⟩ := f
  subst hp
  cases account <;> cases src <;> cases dst <;> rfl

theorem listQuery_run_ne_error (f : TransferFilter) (rows : List Transfer) (e : DbCause) :
    f.listQuery.run f.listBinds rows ≠ .error e := by
  cases hp : f.page with
  | none => simp [listQuery, TransferQuery.run, hp]
  | some p => simp [listQuery, TransferQuery.run, hp, listBinds_drop hp]

end TransferFilter
end DoubleEntry
