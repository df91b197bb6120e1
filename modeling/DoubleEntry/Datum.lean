/-!
# DoubleEntry.Datum

Structured data as the ledger hands it out: null, booleans, integers, texts, lists, and
records whose fields keep the order they were written in. `Datum.pretty` writes a datum
as indented JSON text: two spaces per level, one item per line, `": "` after a field
name, and empty lists and records written closed, `[]` and `{}`.

Texts are quoted with `"` and `\` escaped, the control characters with short escapes
written so (`\b \f \n \r \t`), and the other control characters as `\u00XX` with
lower-case hex digits; every other character is written as it is.
-/

namespace DoubleEntry

/-- A structured value. -/
inductive Datum where
  | null
  | bool (b : Bool)
  | int (n : Int)
  | str (s : String)
  | list (xs : List Datum)
  | record (fields : List (String × Datum))
  deriving Repr

namespace Datum

def hexDigit (n : Nat) : Char :=
  if n < 10 then Char.ofNat (48 + n) else Char.ofNat (87 + n)

/-- The written form of one character inside a quoted text. -/
def escapeChar (c : Char) : List Char :=
  if c = '"' then ['\\', '"']
  else if c = '\\' then ['\\', '\\']
  else if c = '\n' then ['\\', 'n']
  else if c = '\r' then ['\\', 'r']
  else if c = '\t' then ['\\', 't']
  else if c.toNat = 8 then ['\\', 'b']
  else if c.toNat = 12 then ['\\', 'f']
  else if c.toNat < 32 then ['\\', 'u', '0', '0', hexDigit (c.toNat / 16), hexDigit (c.toNat % 16)]
  else [c]

def quote (s : String) : String :=
  "\"" ++ String.ofList (s.toList.flatMap escapeChar) ++ "\""

def indent (n : Nat) : String := String.ofList (List.replicate n ' ')

mutual
/-- The indented text of a datum whose first line starts at column `col`. -/
def pretty (col : Nat) : Datum → String
  | .null => "null"
  | .bool b => if b then "true" else "false"
  | .int n => toString n
  | .str s => quote s
  | .list [] => "[]"
  | .list (x :: xs) => "[\n" ++ prettyItems (col + 2) (x :: xs) ++ "\n" ++ indent col ++ "]"
  | .record [] => "\x7b\x7d"
  | .record (f :: fs) =>
    "\x7b\n" ++ prettyFields (col + 2) (f :: fs) ++ "\n" ++ indent col ++ "\x7d"

def prettyItems (col : Nat) : List Datum → String
  | [] => ""
  | [x] => indent col ++ pretty col x
  | x :: y :: rest => indent col ++ pretty col x ++ ",\n" ++ prettyItems col (y :: rest)

def prettyFields (col : Nat) : List (String × Datum) → String
  | [] => ""
  | [(k, v)] => indent col ++ quote k ++ ": " ++ pretty col v
  | (k, v) :: f :: rest =>
    indent col ++ quote k ++ ": " ++ pretty col v ++ ",\n" ++ prettyFields col (f :: rest)
end

def ofOption : Option Int → Datum
  | some n => .int n
  | none => .null

end Datum
end DoubleEntry
