/-!
# DoubleEntry.Page

A page of a listing: at most `limit` items after skipping `offset` of them. Both are
unsigned 32-bit counts. Listings without an explicit page use `Page.default`.
-/

namespace DoubleEntry

/-- A window on a listing. -/
structure Page where
  limit : Nat
  offset : Nat
  deriving DecidableEq, Repr

namespace Page

def default : Page := ⟨50, 0⟩

/-- The largest unsigned 32-bit count; a listing with this limit is not cut short in practice. -/
def all : Page := ⟨4294967295, 0⟩

def window (p : Page) (xs : List α) : List α :=
  (xs.drop p.offset).take p.limit

theorem window_length_le (p : Page) (xs : List α) : (p.window xs).length ≤ p.limit :=
  List.length_take_le _ _

end Page
end DoubleEntry
