import DoubleEntry.Store.Pool

/-!
# DoubleEntry.Store.LedgerFile

The text form in which the command-line program keeps a database file on disk. A file
without tables is empty. A ledger file starts with the line `ledger`, then the line `seq`
with the last id handed out for accounts, entries and transfers, then one line per row,
in table order:

    account ID BALANCE CURRENCY OWNER
    entry ID ACCOUNT AMOUNT TRANSFER
    transfer ID FROM TO AMOUNT

An owner is written as its code points in decimal joined by `.`, or `-` when it is
empty, so that any text fits in one word; an entry without a transfer has `-` there.
Reading accepts exactly these lines (blank lines aside) and refuses anything else.
-/

namespace DoubleEntry
namespace LedgerFile

def ownerWord (s : String) : String :=
  if s.isEmpty then "-" else ".".intercalate (s.toList.map fun c => toString c.toNat)

def ownerOfWord? (w : String) : Option String :=
  if w = "-" then some ""
  else ((w.splitOn ".").mapM fun (d : String) => d.toNat?.map Char.ofNat).map String.ofList

def transferWord : Option Int → String
  | some id => toString id
  | none => "-"

def transferOfWord? (w : String) : Option (Option Int) :=
  if w = "-" then some none else w.toInt?.map some

/-- The lines of a ledger file. -/
def lines (t : Tables) : List String :=
  "ledger" ::
    ("seq " ++ toString t.accountSeq ++ " " ++ toString t.entrySeq ++ " " ++
      toString t.transferSeq) ::
    (t.accounts.map fun a =>
      "account " ++ toString a.id ++ " " ++ toString a.balance ++ " " ++ a.currency.code ++ " " ++
        ownerWord a.owner) ++
    (t.entries.map fun e =>
      "entry " ++ toString e.id ++ " " ++ toString e.accountId ++ " " ++ toString e.amount ++ " " ++
        transferWord e.transferId) ++
    (t.transfers.map fun x =>
      "transfer " ++ toString x.id ++ " " ++ toString x.fromAccount ++ " " ++ toString x.toAccount ++
        " " ++ toString x.amount)

/-- Adds the row or counters of one line. -/
def readLine (t : Tables) (line : String) : Option Tables :=
  match line.splitOn " " with
  | ["seq", a, e, x] => do
    let a ← a.toInt?
    let e ← e.toInt?
    let x ← x.toInt?
    pure { t with accountSeq := a, entrySeq := e, transferSeq := x }
  | ["account", id, balance, code, owner] => do
    let row : Account := ⟨← id.toInt?, ← ownerOfWord? owner, ← balance.toInt?, ← Currency.ofCode? code⟩
    pure { t with accounts := t.accounts ++ [row] }
  | ["entry", id, account, amount, transfer] => do
    let row : Entry := ⟨← id.toInt?, ← account.toInt?, ← amount.toInt?, ← transferOfWord? transfer⟩
    pure { t with entries := t.entries ++ [row] }
  | ["transfer", id, src, dst, amount] => do
    let row : Transfer := ⟨← id.toInt?, ← src.toInt?, ← dst.toInt?, ← amount.toInt?⟩
    pure { t with transfers := t.transfers ++ [row] }
  | _ => none

end LedgerFile

def DbFile.toText : DbFile → String
  | .blank => ""
  | .ledger t => String.join ((LedgerFile.lines t).map (· ++ "\n"))

/-- Reads the text form of a database file. -/
def DbFile.ofText? (s : String) : Option DbFile :=
  match (s.splitOn "\n").filter (· ≠ "") with
  | [] => some .blank
  | "ledger" :: rest => (rest.foldlM LedgerFile.readLine Tables.empty).map DbFile.ledger
  | _ => none

end DoubleEntry
