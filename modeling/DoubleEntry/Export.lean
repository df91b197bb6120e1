import DoubleEntry.Datum
import DoubleEntry.Integrity
import DoubleEntry.Config
import DoubleEntry.Page

/-!
# DoubleEntry.Export

The ledger's records as structured data, with field names in lower snake case and fields
in the order the records declare them. Integrity issues carry their kind as the first field.
-/

namespace DoubleEntry

def Account.fields (a : Account) : List (String × Datum) :=
  [("id", .int a.id), ("owner", .str a.owner), ("balance", .int a.balance),
    ("currency", .str a.currency.code)]

/-- The fields of an entry; an entry without a transfer has a null one. -/
def Entry.fields (e : Entry) : List (String × Datum) :=
  [("id", .int e.id), ("account_id", .int e.accountId), ("amount", .int e.amount),
    ("transfer_id", Datum.ofOption e.transferId)]

def Transfer.fields (t : Transfer) : List (String × Datum) :=
  [("id", .int t.id), ("from_account_id", .int t.fromAccount), ("to_account_id", .int t.toAccount),
    ("amount", .int t.amount)]

def Issue.toDatum : Issue → Datum
  | .balanceMismatch a s f =>
    .record [("kind", .str "balance_mismatch"), ("account_id", .int a), ("stored", .int s),
      ("from_entries", .int f)]
  | .transferEntries t r =>
    .record [("kind", .str "transfer_entries"), ("transfer_id", .int t), ("reason", .str r)]
  | .unknownAccount a => .record [("kind", .str "unknown_account"), ("account_id", .int a)]

def Report.fields (r : Report) : List (String × Datum) :=
  [("account_count", .int r.accountCount), ("transfer_count", .int r.transferCount),
    ("entry_count", .int r.entryCount), ("total_balance", .int r.totalBalance),
    ("issues", .list (r.issues.map Issue.toDatum))]

def Report.toDatum (r : Report) : Datum :=
  .record (r.fields ++ [("healthy", .bool r.healthy),
    ("issue_texts", .list (r.issues.map fun i => .str i.describe))])

def LedgerConfig.fields (c : LedgerConfig) : List (String × Datum) :=
  [("database_path", .str c.databasePath), ("max_connections", .int c.maxConnections),
    ("busy_timeout_ms", .int c.busyTimeoutMs), ("create_if_missing", .bool c.createIfMissing)]

def Page.toDatum (p : Page) : Datum := .record [("limit", .int p.limit), ("offset", .int p.offset)]

def Posting.toDatum (p : Posting) : Datum :=
  .record [("account_id", .int p.accountId), ("delta", .int p.delta)]

end DoubleEntry
