import DocAudit.Toml.Value

/-!
# Tables while a text is read

A table of a TOML text may be given in several places: by its own header, by the headers of tables
inside it, and by dotted keys.  While the text is read, each table remembers whether it was given on
its own (`implicit` says no) and whether dotted keys gave it, because a table must not be given
twice and dotted keys must not add to a table that has a header.
-/

namespace DocAudit.Toml

mutual

/-- What a key of a table stands for while the text is read.  Of an array of tables, the latest
table comes first. -/
inductive Draft where
  | value (value : Value)
  | table (table : DraftTable)
  | tables (tables : List DraftTable)

/-- A table while the text is read. -/
inductive DraftTable where
  | mk (implicit dotted : Bool) (entries : List (String × Draft))

end

namespace DraftTable

/-- Whether only headers of inner tables or dotted keys gave the table so far. -/
def implicit : DraftTable → Bool
  | .mk implicit _ _ => implicit

/-- Whether dotted keys gave the table. -/
def dotted : DraftTable → Bool
  | .mk _ dotted _ => dotted

/-- The entries so far. -/
def entries : DraftTable → List (String × Draft)
  | .mk _ _ entries => entries

/-- A table with a header of its own and without entries. -/
def empty : DraftTable := .mk false false []

/-- What a key stands for. -/
def get? (table : DraftTable) (key : String) : Option Draft :=
  table.entries.lookup key

/-- The entries with one of them set. -/
def setIn (key : String) (draft : Draft) : List (String × Draft) → List (String × Draft)
  | [] => [(key, draft)]
  | (known, old) :: rest =>
    if known = key then (key, draft) :: rest else (known, old) :: setIn key draft rest

/-- Sets what a key stands for. -/
def set (table : DraftTable) (key : String) (draft : Draft) : DraftTable :=
  .mk table.implicit table.dotted (setIn key draft table.entries)

/-- Changes the table at the end of a path, where tables on the way that are not there yet are given
implicitly.  With `dotted` the path is a dotted key, which must not lead through a table that has a
header or braces of its own. -/
def change (dotted : Bool) (f : DraftTable → Option DraftTable) :
    List String → DraftTable → Option DraftTable
  | [], table => f table
  | key :: path, table =>
    match table.get? key with
    | none => (change dotted f path (.mk true dotted [])).map fun new => table.set key (.table new)
    | some (.table inner) =>
      if dotted && !inner.implicit then none
      else (change dotted f path inner).map fun new => table.set key (.table new)
    | some (.tables (latest :: earlier)) =>
      (change dotted f path latest).map fun new => table.set key (.tables (new :: earlier))
    | some (.tables []) | some (.value _) => none

/-- Adds a pair of a dotted key and a value. -/
def addPair? (path : List String) (key : String) (value : Value) (table : DraftTable) :
    Option DraftTable :=
  let add (inner : DraftTable) : Option DraftTable :=
    if inner.dotted == path.isEmpty || (inner.get? key).isSome then none
    else some (inner.set key (.value value))
  table.change true add path

/-- Adds the header of a table. -/
def addHeader? (path : List String) (key : String) (table : DraftTable) : Option DraftTable :=
  let add (outer : DraftTable) : Option DraftTable :=
    match outer.get? key with
    | none => some (outer.set key (.table empty))
    | some (.table inner) =>
      if inner.implicit && !inner.dotted then
        some (outer.set key (.table (.mk false false inner.entries)))
      else none
    | some _ => none
  table.change false add path

/-- Adds the header of one more table of an array of tables. -/
def addArrayHeader? (path : List String) (key : String) (table : DraftTable) :
    Option DraftTable :=
  let add (outer : DraftTable) : Option DraftTable :=
    match outer.get? key with
    | none => some (outer.set key (.tables [empty]))
    | some (.tables tables) => some (outer.set key (.tables (empty :: tables)))
    | some _ => none
  table.change false add path

end DraftTable

/-! ## The finished table -/

mutual

/-- The value that was drafted. -/
def Draft.finished : Draft → Value
  | .value value => value
  | .table table => table.finished
  | .tables tables => .array (DraftTable.finishedAll tables [])

/-- The table that was drafted. -/
def DraftTable.finished : DraftTable → Value
  | .mk _ _ entries => .table (Draft.finishedEntries entries)

/-- The tables of an array in the order of the text, followed by `later`. -/
def DraftTable.finishedAll : List DraftTable → List Value → List Value
  | [], later => later
  | table :: earlier, later => DraftTable.finishedAll earlier (table.finished :: later)

/-- The entries of a table. -/
def Draft.finishedEntries : List (String × Draft) → List (String × Value)
  | [] => []
  | (key, draft) :: rest => (key, draft.finished) :: Draft.finishedEntries rest

end

end DocAudit.Toml
