import DoubleEntry.Config
import DoubleEntry.Store.Pool

/-!
# DoubleEntry.Directory

The database files of one working directory, by name, and what a database name opens.

A name is read the way the engine reads it. The empty name and `:memory:` open a private
database that lives as long as its pool. Any other name is a path: its `.` segments are
dropped and each `..` takes back the segment before it, empty segments included. A path
that ends at a directory, or that passes through a directory the working directory does
not have, cannot be opened.

A name that starts with `file:`, in any case of letters, is a URI. Its path runs to `?` and
its query to `#`; `%XX` escapes are decoded in the path and in each parameter's name and
value, and an escape of the zero byte drops the rest of the part it stands in. A parameter
without a name is skipped. The parameters are read in order: `mode` sets the access to `ro`
(reading only), `rw`, `rwc` (creating a missing file) or `memory` (a private database), and
a mode that asks for more than the access so far allows is refused; `cache` must be
`shared` or `private`; `vfs` names the file system layer, which must be one the engine
has, checked after all the others. `immutable` opens the file for reading only, and
`nolock`, like the layers that take no locks, leaves the connection unable to share a
write-ahead log.

Connecting opens the database: an existing file opens as it is, and a missing one is
created blank only when that is allowed, or else it cannot be opened. Then the wait for
the write lock is set, which must fit a signed 32-bit count of milliseconds: a longer one
crashes the connection's worker. Last, the connection turns on write-ahead logging, which
fails on a file that is not a database, and on a ledger's file, which is kept in that log,
when the connection cannot share the log. While a pool holds a file open, its log and its
index (the file's name with `-wal` and `-shm` appended) exist beside it, and they are such
files.

Initialising connects with creation allowed and then creates the ledger's tables,
keeping any that exist.
-/

namespace DoubleEntry

/-- Where an open pool keeps its data. -/
inductive Location where
  /-- A file of the directory, opened for reading only or not. -/
  | file (name : String) (readOnly : Bool)
  /-- A private database of the pool, which goes when the pool closes. -/
  | scratch (content : DbFile) (readOnly : Bool)
  deriving DecidableEq, Repr

/-- How a connection uses a write-ahead log. -/
inductive LogAccess where
  /-- It takes part in the log, and puts the file into log mode. -/
  | shares
  /-- It takes no locks, so it cannot take part in a log and cannot open a file in log
  mode. -/
  | lockless
  /-- It reads the file alone, as if nothing else could change it, and never writes. -/
  | ignores
  deriving DecidableEq, Repr

/-- What a database name leads to. -/
inductive Target where
  /-- A file; `create` says whether a missing one may be made. -/
  | file (name : String) (readOnly create : Bool) (access : LogAccess)
  /-- A private database. -/
  | scratch (readOnly : Bool)
  /-- A directory, or a path through a directory that does not exist. -/
  | unopenable
  deriving DecidableEq, Repr

namespace Target

def hexValue (c : Char) : Option Nat :=
  if '0' ≤ c && c ≤ '9' then some (c.toNat - '0'.toNat)
  else if 'a' ≤ c && c ≤ 'f' then some (c.toNat - 'a'.toNat + 10)
  else if 'A' ≤ c && c ≤ 'F' then some (c.toNat - 'A'.toNat + 10)
  else none

/-- Bytes as text; a byte that is not part of UTF-8 stands for the replacement
character. -/
def textOf (bs : List UInt8) : String :=
  match String.fromUTF8? ⟨bs.toArray⟩ with
  | some s => s
  | none => String.ofList (bs.map fun b => if b < 128 then Char.ofNat b.toNat else '\uFFFD')

/-- Bytes as a file's name: their text when they are UTF-8, and otherwise each byte as a
character of its own in the last private use plane, so that different bytes give
different names. -/
def nameOf (bs : List UInt8) : String :=
  match String.fromUTF8? ⟨bs.toArray⟩ with
  | some s => s
  | none => String.ofList (bs.map fun b => Char.ofNat (0x10FF00 + b.toNat))

/-- The part of a URI being read. -/
inductive UriPart where
  | path
  | name
  | value
  deriving DecidableEq, Repr

/-- Where reading resumes after an escaped zero byte: at the end of the path, at the end
of a parameter's name, or at the end of its value. -/
def UriPart.resumesAt : UriPart → Char → Bool
  | .path, c => c == '?'
  | .name, c => c == '=' || c == '&'
  | .value, c => c == '&'

/-- A URI read so far: its decoded path, its parameters in order, and the parameter being
read. -/
structure UriReading where
  part : UriPart := .path
  path : List UInt8 := []
  params : List (List UInt8 × List UInt8) := []
  name : List UInt8 := []
  value : List UInt8 := []
  deriving DecidableEq, Repr

namespace UriReading

def push (r : UriReading) (bs : List UInt8) : UriReading :=
  match r.part with
  | .path => { r with path := r.path ++ bs }
  | .name => { r with name := r.name ++ bs }
  | .value => { r with value := r.value ++ bs }

def nextParam (r : UriReading) : UriReading :=
  { r with part := .name, params := r.params ++ [(r.name, r.value)], name := [], value := [] }

/-- The parameters, the one being read at the end included when it has a name. -/
def finish (r : UriReading) : List (List UInt8 × List UInt8) :=
  match r.part with
  | .path => r.params
  | .name => if r.name.isEmpty then r.params else r.params ++ [(r.name, [])]
  | .value => r.params ++ [(r.name, r.value)]

end UriReading

/-- Reads the rest of a URI after `file:`, up to `#`; `fuel` bounds the characters read. -/
def readUri : Nat → UriReading → List Char → UriReading
  | 0, r, _ => r
  | _ + 1, r, [] => r
  | fuel + 1, r, c :: rest =>
    if c == '#' then r
    else
      let escape : Option (Nat × List Char) :=
        match c, rest with
        | '%', h :: l :: more =>
          match hexValue h, hexValue l with
          | some a, some b => some (a * 16 + b, more)
          | _, _ => none
        | _, _ => none
      match escape with
      | some (0, more) =>
        readUri fuel r (more.dropWhile fun x => x != '#' && !r.part.resumesAt x)
      | some (n, more) => readUri fuel (r.push [UInt8.ofNat n]) more
      | none =>
        match r.part with
        | .path =>
          if c == '?' then readUri fuel { r with part := .name } rest
          else readUri fuel (r.push c.toString.toUTF8.toList) rest
        | .name =>
          if c == '&' || c == '=' then
            if r.name.isEmpty then
              if c == '&' then readUri fuel r rest
              else
                let skipped := rest.dropWhile fun x => x != '&' && x != '#'
                readUri fuel r (match skipped with
                  | '&' :: more => more
                  | other => other)
            else if c == '&' then readUri fuel r.nextParam rest
            else readUri fuel { r with part := .value } rest
          else readUri fuel (r.push c.toString.toUTF8.toList) rest
        | .value =>
          if c == '&' then readUri fuel r.nextParam rest
          else readUri fuel (r.push c.toString.toUTF8.toList) rest

def readOnlyFlag : Nat := 1
def readWriteFlag : Nat := 2
def createFlag : Nat := 4
def memoryFlag : Nat := 0x80
def accessFlags : Nat := readOnlyFlag ||| readWriteFlag ||| createFlag ||| memoryFlag

/-- The flags of an access mode's name. -/
def accessMode : String → Option Nat
  | "ro" => some readOnlyFlag
  | "rw" => some readWriteFlag
  | "rwc" => some (readWriteFlag ||| createFlag)
  | "memory" => some memoryFlag
  | _ => none

def layers : List String := ["unix", "unix-none", "unix-dotfile", "unix-excl", "memdb"]

/-- The layers that take no locks, and so cannot share a write-ahead log. -/
def lockless : List String := ["unix-none", "unix-dotfile"]

/-- Reads the parameters in order from the open flags: the flags and the layer they leave,
or the first refusal. -/
def applyParams : List (List UInt8 × List UInt8) → Nat → Option String →
    Except DbCause (Nat × Option String)
  | [], flags, layer => .ok (flags, layer)
  | (n, v) :: more, flags, layer =>
    let value := textOf v
    match textOf n with
    | "vfs" => applyParams more flags (some value)
    | "cache" =>
      if value == "shared" || value == "private" then applyParams more flags layer
      else .error (.unknownCache value)
    | "mode" =>
      match accessMode value with
      | none => .error (.unknownMode value)
      | some m =>
        if flags &&& accessFlags < m &&& (accessFlags - memoryFlag) then .error (.modeNotAllowed value)
        else applyParams more (flags - (flags &&& accessFlags) + m) layer
    | _ => applyParams more flags layer

/-- The truth a parameter's value stands for: a number (from its leading digits, or in
hexadecimal after `0x`) other than zero modulo 256, or `on`, `yes` or `true` in any case
of letters; `off`, `no`, `false` and anything else are false. -/
def truthOf (v : String) : Bool :=
  match v.toList with
  | c :: _ =>
    if c.isDigit then
      let cs := v.toList
      let n : Option Nat :=
        match cs with
        | '0' :: x :: hs =>
          if (x == 'x' || x == 'X') && (hs.head?.bind hexValue).isSome then
            let ds := (hs.dropWhile (· == '0')).takeWhile fun h => (hexValue h).isSome
            let u := ds.take 8 |>.foldl (fun a h => 16 * a + (hexValue h).getD 0) 0
            if ds.length > 8 || u ≥ Nat.pow 2 31 then none else some u
          else none
        | _ => none
      match n with
      | some u => u % 256 != 0
      | none =>
        let ds := (cs.dropWhile (· == '0')).takeWhile Char.isDigit
        let u := ds.take 11 |>.foldl (fun a d => 10 * a + (d.toNat - '0'.toNat)) 0
        if ds.length > 10 || u ≥ Nat.pow 2 31 then false else u % 256 != 0
    else
      let l := v.toLower
      l == "on" || l == "yes" || l == "true"
  | [] => false

def parameter (params : List (List UInt8 × List UInt8)) (key : String) : Option String :=
  (params.find? fun p => textOf p.1 == key).map fun p => textOf p.2

/-- Splits characters at every slash. -/
def segmentsOf (cs : List Char) : List (List Char) :=
  cs.foldr (fun c (acc : List (List Char)) =>
    if c = '/' then [] :: acc
    else match acc with
      | w :: ws => (c :: w) :: ws
      | [] => [[c]]) [[]]

/-- The segments of a path once `.` and `..` are resolved, and whether it is absolute; a
`..` at the root of an absolute path stays there. -/
def resolve (path : String) : Bool × List String :=
  let absolute := path.toList.head? == some '/'
  let segments := ((segmentsOf path.toList).map String.ofList).filter fun s => s != "" && s != "."
  let stack := segments.foldl (fun (acc : List String) s =>
    if s == ".." then
      match acc with
      | top :: below => if top == ".." then s :: acc else below
      | [] => if absolute then [] else [s]
    else s :: acc) []
  (absolute, stack.reverse)

/-- What a path leads to. A path inside the working directory names its file when it has
one segment; more segments pass through a directory it does not have. A path outside it
names a file there, or a directory when it ends above the working directory. -/
def ofPath (path : String) (readOnly create : Bool) (access : LogAccess) : Target :=
  if path == "" || path == ":memory:" then .scratch readOnly
  else
    match resolve path with
    | (true, []) => .unopenable
    | (true, segments) => .file ("/" ++ "/".intercalate segments) readOnly create access
    | (false, [name]) =>
      if name == ".." then .unopenable else .file name readOnly create access
    | (false, segments) =>
      if segments.head? == some ".." && !segments.all (· == "..") then
        .file ("/".intercalate segments) readOnly create access
      else .unopenable

/-- Whether a name is a URI: it starts with `file:`, in small letters. -/
def isUri (name : String) : Bool := name.startsWith "file:"

/-- What a database name leads to, with the creation the settings allow. -/
def ofName (name : String) (create : Bool) : Except DbCause Target :=
  let base := if create then readWriteFlag ||| createFlag else readWriteFlag
  if isUri name then
    let body := name.toList.drop 5
    let r := readUri body.length {} body
    let params := r.finish
    match applyParams params base none with
    | .error e => .error e
    | .ok (flags, layer) =>
      match layer with
      | some l =>
        if !layers.contains l then .error (.unknownLayer l)
        else if l == "memdb" then .ok (.scratch (flags &&& readOnlyFlag != 0))
        else
          .ok (ofUri r.path flags (lockless.contains l) params)
      | none => .ok (ofUri r.path flags false params)
  else .ok (ofPath name false create .shares)
where
  /-- What a URI's path leads to with the flags its parameters leave. -/
  ofUri (path : List UInt8) (flags : Nat) (locksNothing : Bool)
      (params : List (List UInt8 × List UInt8)) : Target :=
    let immutable := ((parameter params "immutable").map truthOf).getD false
    let nolock := ((parameter params "nolock").map truthOf).getD false
    if flags &&& memoryFlag != 0 then .scratch (flags &&& readOnlyFlag != 0)
    else
      ofPath (nameOf path) (flags &&& readOnlyFlag != 0 || immutable) (flags &&& createFlag != 0)
        (if immutable then .ignores else if nolock || locksNothing then .lockless else .shares)

example : (ofName "file:ledger.db?mode=ro&mode=rw" false matches .error (.modeNotAllowed "rw")) :=
  by decide +kernel
example : (ofName "file:sub%2F..%2Fledger.db" false).toOption =
    some (.file "ledger.db" false false .shares) := by decide +kernel
example : (ofName "file:x.db?vfs=none" true matches .error (.unknownLayer "none")) := by
  decide +kernel

end Target

/-- How a database file keeps its changes, as its header says. -/
inductive Journal where
  /-- The file is empty: it has no page and so no header. -/
  | empty
  /-- Changes are written in place, with a rollback journal beside the file. -/
  | rollback
  /-- Changes are written to a log first. -/
  | writeAhead
  deriving DecidableEq, Repr

/-- A file of the directory: its tables and how it keeps its changes. -/
structure Stored where
  content : DbFile
  journal : Journal
  deriving DecidableEq, Repr

/-- The write-ahead log of a file held open: whether the log and its index exist yet,
which they do from the first read in log mode, and whether a transaction has been
written to the log since it appeared. -/
structure Log where
  file : String
  present : Bool
  written : Bool
  deriving DecidableEq, Repr

/-- The log files beside a database file: its log and its index. -/
inductive Companion where
  /-- The log, and whether a transaction has been written to it. -/
  | log (written : Bool)
  /-- The index of the log. -/
  | index
  deriving DecidableEq, Repr

/-- Named database files, and the log of the file the session's pool holds open, when
it keeps one. -/
structure Directory where
  files : List (String × Stored) := []
  log : Option Log := none
  deriving DecidableEq, Repr

/-- A pool just opened: where it keeps its data, the directory with the files the opening
made or changed, and the log the pool takes part in. -/
structure Opened where
  location : Location
  dir : Directory
  log : Option Log
  deriving DecidableEq, Repr

namespace Directory

def stored? (d : Directory) (name : String) : Option Stored :=
  (d.files.find? (·.1 == name)).map (·.2)

def find? (d : Directory) (name : String) : Option DbFile :=
  (d.stored? name).map (·.content)

/-- Stores a file under a name, replacing the one there. -/
def putStored (d : Directory) (name : String) (f : Stored) : Directory :=
  if d.files.any (·.1 == name) then
    { d with files := d.files.map fun (n, g) => if n == name then (n, f) else (n, g) }
  else { d with files := d.files ++ [(name, f)] }

/-- Stores tables under a name, keeping how the file there keeps its changes; a new file
is in log mode, as the pools that write it keep it. -/
def put (d : Directory) (name : String) (f : DbFile) : Directory :=
  d.putStored name { content := f, journal := ((d.stored? name).map (·.journal)).getD .writeAhead }

/-- What a name is among the log files of the held file, when they exist. -/
def companion? (d : Directory) (name : String) : Option Companion :=
  match d.log with
  | some l =>
    if !l.present then none
    else if name == l.file ++ "-wal" then some (.log l.written)
    else if name == l.file ++ "-shm" then some .index
    else none
  | none => none

/-- The directory once a log is gone with the last connection to its file: the log is
written back and its files are removed. -/
def dropLog (d : Directory) (l : Log) : Directory :=
  { d with files := d.files.filter fun (n, _) => n != l.file ++ "-wal" && n != l.file ++ "-shm" }

/-- The longest wait for the write lock, in milliseconds, that a connection accepts. -/
def longestWait : Nat := 2147483647

/-- What an opened file is before the connection sets its journal mode. -/
inductive Found where
  /-- A database file, as stored (a missing one just made, empty). -/
  | stored (f : Stored)
  /-- A file of the held file's log that is not a database. -/
  | notDatabase
  deriving DecidableEq, Repr

/-- Opens a database by name with the settings. A name holding a zero byte is refused
first. Then the file is opened, the wait for the write lock is set, and the journal mode
is set to the log: a connection that shares the log puts a file in another mode into log
mode, which writes the file's first page, and opens the log at once only when the file
was in log mode already; a lockless one cannot open a file in log mode. -/
def connect (d : Directory) (c : LedgerConfig) : Except Fault Opened :=
  let context := "Failed to connect to database " ++ c.databasePath
  let waitOk := c.busyTimeoutMs ≤ longestWait
  if c.databasePath.contains (Char.ofNat 0) then
    .error (.badName context "filename passed to SQLite must not contain nul bytes")
  else
    match Target.ofName c.databasePath c.createIfMissing with
    | .error cause => .error (.engine context cause)
    | .ok .unopenable => .error (.engine context .cannotOpen)
    | .ok (.scratch ro) =>
      if !waitOk then .error (.workerCrashed context)
      else .ok ⟨.scratch .blank ro, d, none⟩
    | .ok (.file name ro create access) =>
      let found : Option (Found × Directory) :=
        match d.companion? name with
        | some (.log false) => some (.stored ⟨.blank, .empty⟩, d)
        | some _ => some (.notDatabase, d)
        | none =>
          match d.stored? name with
          | some f => some (.stored f, d)
          | none =>
            if create then some (.stored ⟨.blank, .empty⟩, d.putStored name ⟨.blank, .empty⟩)
            else none
      match found with
      | none => .error (.engine context .cannotOpen)
      | some (f, d') =>
        if !waitOk then .error (.workerCrashed context)
        else
          match f with
          | .notDatabase => .error (.engine context .notADatabase)
          | .stored s =>
            let loc := Location.file name ro
            match access with
            | .ignores => .ok ⟨loc, d', none⟩
            | .lockless =>
              if s.journal == Journal.writeAhead then .error (.engine context .cannotOpen)
              else .ok ⟨loc, d', none⟩
            | .shares =>
              let wasLogged := s.journal == Journal.writeAhead
              if !wasLogged && ro then .error (.engine context .readOnly)
              else
                let d'' := if wasLogged then d' else d'.putStored name { s with journal := .writeAhead }
                let log : Log :=
                  match d.log with
                  | some l =>
                    if l.file == name then { l with present := l.present || wasLogged }
                    else ⟨name, wasLogged, false⟩
                  | none => ⟨name, wasLogged, false⟩
                .ok ⟨loc, d'', some log⟩

/-- The pool on a location: the file's current content, or the pool's own database. -/
def pool (d : Directory) (loc : Location) (isOpen : Bool) : Pool :=
  match loc with
  | .file name ro => { file := (d.find? name).getD .blank, isOpen := isOpen, readOnly := ro }
  | .scratch f ro => { file := f, isOpen := isOpen, readOnly := ro }

/-- Keeps what a pool leaves: a changed file goes back into the directory, where a new one
is in the pool's journal mode, and the log of the file, when the directory tracks it,
exists once a statement has read the file and holds a transaction once one changed it. A
private database stays with its location. -/
def keep (d : Directory) (loc : Location) (p : Pool) : Directory × Location :=
  match loc with
  | .file name ro =>
    let before := d.find? name
    let changed := before != some p.file
    let tracked := (d.log.map Log.file) == some name
    let d' :=
      if !changed then d
      else
        match d.stored? name with
        | some s => d.putStored name { s with content := p.file }
        | none => d.putStored name ⟨p.file, if tracked then .writeAhead else .rollback⟩
    let log := d.log.map fun l =>
      if l.file == name then
        { l with present := l.present || p.touched, written := l.written || changed }
      else l
    ({ d' with log := log }, .file name ro)
  | .scratch _ ro => (d, .scratch p.file ro)

/-- The directory once a pool opened beside the session's has closed: the log it took part
in stays when the session's pool shares it, and otherwise goes with it. -/
def afterClose (before : Directory) (mine : Option Log) (after : Directory) : Directory :=
  match mine with
  | some l =>
    if (before.log.map Log.file) == some l.file then after
    else { after.dropLog l with log := before.log }
  | none => { after with log := before.log }

/-- Connects with creation allowed, then creates the ledger's tables; a database opened
for reading only cannot take them. Tables made in a file without a header give it one in
the connection's journal mode. -/
def initLedger (d : Directory) (c : LedgerConfig) : Except Fault Opened :=
  match d.connect (c.withCreateIfMissing true) with
  | .ok o =>
    let p := o.dir.pool o.location true
    match p.file with
    | .blank =>
      if p.readOnly then .error (.engine "Failed to run migration 001" .readOnly)
      else
        let dir := { o.dir with log := o.log }
        let dir :=
          match o.location with
          | .file name _ =>
            match dir.stored? name with
            | some s =>
              if s.journal == Journal.empty then dir.putStored name { s with journal := .rollback } else dir
            | none => dir
          | .scratch _ _ => dir
        let (d', loc') := dir.keep o.location { p with file := p.file.migrate, touched := true }
        .ok ⟨loc', { d' with log := d.log }, d'.log⟩
    | .ledger _ => .ok o
  | .error e => .error e

end Directory
end DoubleEntry
