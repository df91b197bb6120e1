import DoubleEntry.Export
import DoubleEntry.Money
import DoubleEntry.Cli.Usage

/-!
# DoubleEntry.Cli.Render

What the command line prints: tables and cards for people, or the records as indented
structured text with `--json`.

Records keep no creation time, so where the program shows one it shows a placeholder of
the same width: `YYYY-MM-DD HH:MM:SS` in tables and cards, `<TIME>` in structured text.

Tables right-align numbers and left-align words in fixed columns, measured in
characters; a value wider than its column widens the row. The currency column is written
without padding.
-/

namespace DoubleEntry
namespace Cli

def padLeft (w : Nat) (s : String) : String := spaces (w - s.length) ++ s

def padRight (w : Nat) (s : String) : String := s ++ spaces (w - s.length)

def timePlaceholder : String := "YYYY-MM-DD HH:MM:SS"

def linesText (ls : List String) : String := String.join (ls.map (· ++ "\n"))

def recordJson (fields : List (String × Datum)) : Datum :=
  .record (fields ++ [("created_at", .str "<TIME>")])

def jsonText (d : Datum) : String := d.pretty 0 ++ "\n"

def accountsTable (xs : List Account) : String :=
  if xs.isEmpty then "No accounts found.\n"
  else linesText <|
    (padLeft 6 "ID" ++ " " ++ padRight 8 "CURRENCY" ++ " " ++ padLeft 14 "BALANCE" ++ " OWNER") ::
    String.ofList (List.replicate 44 '-') ::
    xs.map fun a =>
      padLeft 6 (toString a.id) ++ " " ++ a.currency.code ++ " " ++
        padLeft 14 (formatCents a.balance) ++ " " ++ a.owner

def transfersTable (xs : List Transfer) : String :=
  if xs.isEmpty then "No transfers found.\n"
  else linesText <|
    (padLeft 6 "ID" ++ " " ++ padRight 20 "DATE" ++ " " ++ padLeft 6 "FROM" ++ " " ++
      padLeft 6 "TO" ++ " " ++ padLeft 14 "AMOUNT") ::
    String.ofList (List.replicate 56 '-') ::
    xs.map fun t =>
      padLeft 6 (toString t.id) ++ " " ++ padRight 20 timePlaceholder ++ " " ++
        padLeft 6 (toString t.fromAccount) ++ " " ++ padLeft 6 (toString t.toAccount) ++ " " ++
        padLeft 14 (formatCents t.amount)

/-- The table of entries; an entry without a transfer is an opening entry. -/
def entriesTable (xs : List Entry) : String :=
  if xs.isEmpty then "No entries found.\n"
  else linesText <|
    (padLeft 6 "ID" ++ " " ++ padRight 20 "DATE" ++ " " ++ padRight 6 "SIDE" ++ " " ++
      padLeft 14 "AMOUNT" ++ " TRANSFER") ::
    String.ofList (List.replicate 60 '-') ::
    xs.map fun e =>
      padLeft 6 (toString e.id) ++ " " ++ padRight 20 timePlaceholder ++ " " ++
        padRight 6 (if e.isDebit then "debit" else "credit") ++ " " ++
        padLeft 14 (formatCents e.amount) ++ " " ++
        ((e.transferId.map toString).getD "opening")

def accountCard (a : Account) : String :=
  linesText
    ["Account: " ++ toString a.id,
     "  Owner:    " ++ a.owner,
     "  Currency: " ++ a.currency.code,
     "  Balance:  " ++ formatCents a.balance,
     "  Created:  " ++ timePlaceholder]

/-- The integrity report for people. -/
def reportText (r : Report) : String :=
  linesText
    (["Checking ledger integrity...", "",
      "Accounts:  " ++ toString r.accountCount,
      "Transfers: " ++ toString r.transferCount,
      "Entries:   " ++ toString r.entryCount,
      "Total:     " ++ formatCents r.totalBalance, ""] ++
     (if r.healthy then ["Ledger is consistent."]
      else "Issues found:" :: r.issues.map fun i => "  - " ++ i.describe))

end Cli
end DoubleEntry
