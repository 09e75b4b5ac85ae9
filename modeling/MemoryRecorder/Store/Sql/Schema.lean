import MemoryRecorder.Store.Sql.Parser.Statement
/-!
# Schemas and stored rows

A database is a schema, the rows of its tables, and a counter that every change of the schema
moves on (the schema cookie), by which a connection that read the schema earlier notices that it
is out of date.

The schema is a list of entries in the order they were created, as the schema table lists them:
tables, indexes, views and triggers. An index made for a UNIQUE or PRIMARY KEY constraint is an
automatic index with no text of its own. The rows of a table are kept under the table's root
page, ascending by row id, so that renaming a table does not move them.

Names of tables, columns and indexes compare without regard to the case of ASCII letters.
-/

namespace MemoryRecorder
namespace Store
namespace Sql

def sameName (a b : String) : Bool :=
  a.toLower == b.toLower

/-- A stored row: its row id and its values in column order. -/
structure Row where
  rowid : Int64
  vals : Array Value
  deriving Inhabited

def collationOf (name : String) : Option Collation :=
  match name.toLower with
  | "binary" => some .binary
  | "nocase" => some .nocase
  | "rtrim" => some .rtrim
  | _ => none

structure Column where
  name : String
  typeName : String
  affinity : Affinity
  notNull : Bool := false
  notNullConflict : Option Conflict := none
  defaultValue : Option Expr := none
  collation : Collation := .binary
  primaryKey : Bool := false
  unique : Bool := false

/-- A foreign key: the child columns, the parent table and its columns (empty for its primary
key), and whether checking waits for the end of the transaction. -/
structure ForeignKey where
  columns : List Nat
  parent : String
  parentColumns : List String
  deferred : Bool
  onDelete : FkAction := .noAction
  onUpdate : FkAction := .noAction
  inline : Bool := false

structure IndexKey where
  column : Nat
  collation : Collation
  desc : Bool

/-- An index. `conflict` is the rule of its UNIQUE or PRIMARY KEY constraint, if it named one;
`sql` is none for an automatic index. -/
structure IndexDef where
  name : String
  table : String
  keys : List IndexKey
  unique : Bool
  conflict : Option Conflict := none
  primary : Bool := false
  filter : Option Expr := none
  sql : Option String := none

/-- A table. `rowidColumn` is the INTEGER PRIMARY KEY column, which holds the row id. -/
structure TableDef where
  name : String
  columns : List Column
  rowidColumn : Option Nat := none
  keyConflict : Option Conflict := none
  autoincrement : Bool := false
  checks : List (String × Expr) := []
  foreignKeys : List ForeignKey := []
  withoutRowid : Bool := false
  root : Nat
  sql : String

structure ViewDef where
  name : String
  columns : Option (List String)
  query : Query
  sql : String

structure TriggerDef where
  name : String
  table : String
  sql : String

inductive Entry where
  | table (t : TableDef)
  | index (i : IndexDef)
  | view (v : ViewDef)
  | trigger (t : TriggerDef)

namespace Entry

def name : Entry → String
  | table t => t.name
  | index i => i.name
  | view v => v.name
  | trigger t => t.name

def kind : Entry → String
  | table _ => "table"
  | index _ => "index"
  | view _ => "view"
  | trigger _ => "trigger"

def tableName : Entry → String
  | table t => t.name
  | index i => i.table
  | view v => v.name
  | trigger t => t.table

def sql? : Entry → Option String
  | table t => some t.sql
  | index i => i.sql
  | view v => some v.sql
  | trigger t => some t.sql

end Entry

abbrev Schema := List Entry

namespace Schema

def table? (s : Schema) (n : String) : Option TableDef :=
  s.findSome? fun
    | .table t => if sameName t.name n then some t else none
    | _ => none

def view? (s : Schema) (n : String) : Option ViewDef :=
  s.findSome? fun
    | .view v => if sameName v.name n then some v else none
    | _ => none

def index? (s : Schema) (n : String) : Option IndexDef :=
  s.findSome? fun
    | .index i => if sameName i.name n then some i else none
    | _ => none

def trigger? (s : Schema) (n : String) : Option TriggerDef :=
  s.findSome? fun
    | .trigger t => if sameName t.name n then some t else none
    | _ => none

def hasRelation (s : Schema) (n : String) : Bool :=
  (s.table? n).isSome || (s.view? n).isSome

/-- The indexes of a table in the order constraint checks visit them: the newest first, except
that those whose rule is REPLACE come after all others. -/
def indexesOf (s : Schema) (table : String) : List IndexDef :=
  let mine := (s.filterMap fun
    | .index i => if sameName i.table table then some i else none
    | _ => none).reverse
  mine.filter (·.conflict != some .replace) ++ mine.filter (·.conflict == some .replace)

/-- The foreign keys that point at a table, with their child tables: the newest child table's
first, each table's in reverse declaration order. -/
def referencing (s : Schema) (parent : String) : List (TableDef × ForeignKey) :=
  (s.filterMap fun
    | .table t => some t
    | _ => none).reverse.flatMap fun t =>
      (t.foreignKeys.reverse.filter fun fk => sameName fk.parent parent).map fun fk => (t, fk)

def without (s : Schema) (gone : Entry → Bool) : Schema :=
  s.filter fun e => !gone e

end Schema

namespace TableDef

def columnIndex? (t : TableDef) (n : String) : Option Nat :=
  t.columns.findIdx? fun c => sameName c.name n

def column? (t : TableDef) (i : Nat) : Option Column :=
  t.columns[i]?

def width (t : TableDef) : Nat :=
  t.columns.length

/-- The foreign keys a check of the table's rows visits, in the engine's order: the last
declared first. -/
def checkedKeys (t : TableDef) : List ForeignKey :=
  t.foreignKeys.reverse

def affinityAt (t : TableDef) (i : Nat) : Affinity :=
  ((t.column? i).map (·.affinity)).getD .blob

def columnName (t : TableDef) (i : Nat) : String :=
  ((t.column? i).map (·.name)).getD "rowid"

end TableDef

/-- A database: its schema, the rows of its tables by root page, the next free root page, and
the schema cookie. -/
structure Database where
  schema : Schema := []
  pages : List (Nat × List Row) := []
  nextRoot : Nat := 2
  cookie : Nat := 0

namespace Database

def rowsAt (db : Database) (root : Nat) : List Row :=
  ((db.pages.find? (·.1 == root)).map (·.2)).getD []

def rowsOf (db : Database) (t : TableDef) : List Row :=
  db.rowsAt t.root

def setRows (db : Database) (root : Nat) (rows : List Row) : Database :=
  { db with pages := (root, rows) :: db.pages.filter (·.1 != root) }

def withSchema (db : Database) (s : Schema) : Database :=
  { db with schema := s, cookie := db.cookie + 1 }

def allocate (db : Database) : Database × Nat :=
  ({ db with nextRoot := db.nextRoot + 1 }, db.nextRoot)

end Database

def insertRow (r : Row) : List Row → List Row
  | [] => [r]
  | x :: xs => if r.rowid < x.rowid then r :: x :: xs else x :: insertRow r xs

/-- Whether an entry has a row in the schema table: all but the primary key index of a table
without row ids, which is the table itself. -/
def Schema.listed (s : Schema) : Entry → Bool
  | .index ix => !(ix.primary && ((s.table? ix.table).map (·.withoutRowid)).getD false)
  | _ => true

def masterRows (s : Schema) : List Row :=
  ((s.filter s.listed).zipIdx 1).map fun (e, i) =>
    let root : Value := match e with
      | .table t => .int (Int64.ofNat t.root)
      | .index _ => .int (Int64.ofNat (i + 100))
      | _ => .int 0
    ⟨Int64.ofNat i, #[.text e.kind, .text e.name, .text e.tableName, root,
      match e.sql? with
      | some q => .text q
      | none => .null]⟩

/-- The database as a rebuild leaves it. Each table is made anew in schema order, with its
automatic indexes after it; the sequence table follows the first AUTOINCREMENT table and is gone
when there is none. The named indexes come next, then the views and triggers. The rows of a table
that neither names its row id nor has an index are numbered afresh from one; every other row
keeps its row id. The cookie moves on. -/
def Database.vacuumed (db : Database) : Database :=
  let isSeq (t : TableDef) : Bool := t.name == "sqlite_sequence"
  let seq := db.schema.findSome? fun
    | .table t => if isSeq t then some t else none
    | _ => none
  let tables := db.schema.filterMap fun
    | .table t => if isSeq t then none else some t
    | _ => none
  let autoOf (t : TableDef) : List Entry := db.schema.filter fun
    | .index ix => ix.sql.isNone && sameName ix.table t.name
    | _ => false
  let (made, _) := tables.foldl (fun (acc, placed) t =>
    let here := [Entry.table t] ++ autoOf t
    match seq with
    | some sq =>
        if t.autoincrement && !placed then (acc ++ here ++ [.table sq], true)
        else (acc ++ here, placed)
    | none => (acc ++ here, placed)) (([] : List Entry), false)
  let named := db.schema.filter fun
    | .index ix => ix.sql.isSome
    | _ => false
  let rest := db.schema.filter fun
    | .view _ | .trigger _ => true
    | _ => false
  let schema := made ++ named ++ rest
  let indexed (t : TableDef) : Bool := schema.any fun
    | .index ix => sameName ix.table t.name
    | _ => false
  let kept := schema.filterMap fun
    | .table t => some t
    | _ => none
  let pages := kept.map fun t =>
    let rows := db.rowsOf t
    if t.rowidColumn.isNone && !t.withoutRowid && !indexed t then
      (t.root, (rows.zipIdx 1).map fun (r, i) => { r with rowid := Int64.ofNat i })
    else (t.root, rows)
  { db with schema := schema, pages := pages, cookie := db.cookie + 1 }

def masterColumns : List String :=
  ["type", "name", "tbl_name", "rootpage", "sql"]

def isMasterName (n : String) : Bool :=
  ["sqlite_master", "sqlite_schema", "main.sqlite_master", "main.sqlite_schema"].any (sameName n)

end Sql
end Store
end MemoryRecorder
