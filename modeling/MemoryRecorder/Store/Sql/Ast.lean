import MemoryRecorder.Store.Value
/-!
# Statements as trees

The trees the statement reader builds and the rest of the engine works on. Expressions keep the
byte offset of the token that an error about them quotes, and a selected expression keeps the
text it was written as, which names its column.

Names are first read as written (`Expr.name`, `Expr.dotted`); resolving a statement against a
schema replaces each by the column it names (`Expr.column`), by a text when a double-quoted name
names no column, or by `true` and `false`.
-/

namespace MemoryRecorder
namespace Store
namespace Sql

inductive UnaryOp where
  | neg
  | pos
  | bitNot
  | not
  deriving DecidableEq, Repr

inductive BinaryOp where
  | add
  | sub
  | mul
  | div
  | rem
  | concat
  | bitAnd
  | bitOr
  | shl
  | shr
  | and
  | or
  deriving DecidableEq, Repr

inductive CmpOp where
  | eq
  | ne
  | lt
  | le
  | gt
  | ge
  | is
  | isNot
  deriving DecidableEq, Repr

inductive PatternOp where
  | like
  | glob
  | regexp
  | matchText
  deriving DecidableEq, Repr

inductive Collation where
  | binary
  | nocase
  | rtrim
  deriving DecidableEq, Repr

/-- What a resolved column reads: the row id of a source's row, or one of its columns. -/
inductive Field where
  | rowid
  | col (index : Nat)
  deriving DecidableEq, Repr

/-- A resolved column: which query level it belongs to (0 for the innermost), which source of
that level's FROM clause, which field, and how it compares. -/
structure ColumnRef where
  depth : Nat
  source : Nat
  field : Field
  affinity : Option Affinity
  collation : Collation
  name : String
  deriving DecidableEq, Repr

inductive JoinKind where
  | inner
  | left
  | right
  | full
  | cross
  deriving DecidableEq, Repr

inductive CompoundOp where
  | unionAll
  | union
  | intersect
  | except
  deriving DecidableEq, Repr

mutual

/-- An expression. -/
inductive Expr where
  | lit (v : Value)
  | integer (text : String) (offset : Nat)
  | real (text : String)
  /-- A statement parameter as written: `?`, `?N`, or a name after `:`, `@` or `$`. -/
  | param (text : String)
  | name (id : String) (quoted : Bool) (offset : Nat)
  | dotted (parts : List String) (offset : Nat)
  | column (ref : ColumnRef)
  | unary (op : UnaryOp) (e : Expr)
  | binary (op : BinaryOp) (a b : Expr)
  | compare (op : CmpOp) (a b : Expr)
  /-- A pattern match, with the operator as written and its offset. -/
  | pattern (op : PatternOp) (negated : Bool) (subject pat : Expr) (escape : Option Expr)
      (word : String) (offset : Nat)
  | isNull (e : Expr) (negated : Bool)
  | between (e lo hi : Expr) (negated : Bool)
  | inList (e : Expr) (items : List Expr) (negated : Bool)
  | inQuery (e : Expr) (q : Query) (negated : Bool)
  | existsQuery (q : Query)
  | scalar (q : Query)
  | caseOf (operand : Option Expr) (arms : List (Expr × Expr)) (otherwise : Option Expr)
  | cast (e : Expr) (typeName : String)
  | collate (e : Expr) (name : String) (offset : Nat)
  /-- A function call: its name as written and offset, `DISTINCT`, its arguments, and whether
  it was written `f(*)`. -/
  | call (fn : String) (offset : Nat) (distinct : Bool) (args : List Expr) (star : Bool)
  | vector (items : List Expr)
  | raise (message : String)

inductive ResultColumn where
  | all (offset : Nat)
  | allOf (table : String) (offset : Nat)
  | expr (e : Expr) (aliasName : Option String) (span : String)

inductive Source where
  | table (schemaName : Option String) (name : String) (aliasName : Option String) (offset : Nat)
  | query (q : Query) (aliasName : Option String)
  | join (left : Source) (kind : JoinKind) (natural : Bool) (right : Source)
      (on : Option Expr) (usingCols : List String)

inductive SortTerm where
  | term (e : Expr) (desc : Bool) (nullsFirst : Option Bool)

inductive Core where
  | select (distinct : Bool) (columns : List ResultColumn) (src : Option Source)
      (filter : Option Expr) (groupBy : List Expr) (having : Option Expr)
  | values (rows : List (List Expr))

inductive Cte where
  | cte (name : String) (columns : Option (List String)) (q : Query)

/-- A query: its common table expressions, a first simple query and those joined to it by set
operations, then ORDER BY, LIMIT and OFFSET. -/
inductive Query where
  | query (ctes : List Cte) (first : Core) (rest : List (CompoundOp × Core))
      (orderBy : List SortTerm) (limit : Option Expr) (offset : Option Expr)

end

deriving instance BEq for Expr, ResultColumn, Source, SortTerm, Core, Cte, Query

instance : Inhabited Expr := ⟨.lit .null⟩

instance : Inhabited Core := ⟨.values []⟩

instance : Inhabited Query := ⟨.query [] default [] [] none none⟩

inductive Conflict where
  | abort
  | fail
  | ignore
  | replace
  | rollback
  deriving DecidableEq, Repr

inductive FkAction where
  | noAction
  | restrict
  | setNull
  | setDefault
  | cascade
  deriving DecidableEq, Repr

/-- A REFERENCES clause: the parent table, its columns (none for its primary key), the actions
on delete and update, and whether checking waits for the end of the transaction. -/
structure References where
  parent : String
  parentColumns : List String
  onDelete : FkAction := .noAction
  onUpdate : FkAction := .noAction
  deferred : Bool := false

structure IndexedColumn where
  e : Expr
  collation : Option String
  desc : Bool

inductive ColumnConstraint where
  | primaryKey (desc : Bool) (conflict : Option Conflict) (autoincrement : Bool)
  | notNull (conflict : Option Conflict)
  | nullable
  | unique (conflict : Option Conflict)
  | check (e : Expr) (text : String)
  | defaultValue (e : Expr) (text : String)
  | collate (name : String)
  | references (r : References)
  | generated (e : Expr) (stored : Bool)

inductive TableConstraint where
  | primaryKey (name : Option String) (cols : List IndexedColumn) (conflict : Option Conflict)
      (autoincrement : Bool)
  | unique (name : Option String) (cols : List IndexedColumn) (conflict : Option Conflict)
  | check (name : Option String) (e : Expr) (text : String)
  | foreignKey (name : Option String) (cols : List String) (r : References)

structure ColumnDef where
  name : String
  typeName : String
  constraints : List (Option String × ColumnConstraint)

inductive TableBody where
  | columns (cols : List ColumnDef) (constraints : List TableConstraint) (withoutRowid : Bool)
      (strict : Bool)
  | asQuery (q : Query)

inductive ObjectKind where
  | table
  | index
  | view
  | trigger
  deriving DecidableEq, Repr

inductive BeginKind where
  | deferred
  | immediate
  | exclusive
  deriving DecidableEq, Repr

inductive AlterAction where
  | renameTable (newName : String)
  | renameColumn (old new : String)
  | addColumn (col : ColumnDef) (text : String)
  | dropColumn (name : String)

structure Assignment where
  columns : List String
  value : Expr

structure Target where
  schemaName : Option String
  name : String
  aliasName : Option String
  offset : Nat

/-- An ON CONFLICT clause of an INSERT: the conflict target, its condition, and what to do:
nothing, or an update with its condition. -/
structure Upsert where
  target : List IndexedColumn
  targetFilter : Option Expr
  update : Option (List Assignment × Option Expr)

inductive Statement where
  | select (q : Query)
  /-- An INSERT: conflict rule, target, columns, the rows (none for DEFAULT VALUES), upserts,
  and RETURNING columns. -/
  | insert (conflict : Option Conflict) (t : Target) (columns : Option (List String))
      (rows : Option Query) (upserts : List Upsert) (returning : List ResultColumn)
  | update (conflict : Option Conflict) (t : Target) (sets : List Assignment) (src : Option Source)
      (filter : Option Expr) (returning : List ResultColumn)
  | delete (t : Target) (filter : Option Expr) (returning : List ResultColumn)
  /-- A CREATE TABLE: temporary, IF NOT EXISTS, schema, name and its offset, body, and the text
  kept in the schema. -/
  | createTable (temp ifNotExists : Bool) (schemaName : Option String) (name : String)
      (nameOffset : Nat) (body : TableBody) (sql : String)
  | createIndex (unique ifNotExists : Bool) (schemaName : Option String) (name : String)
      (nameOffset : Nat) (table : String) (cols : List IndexedColumn) (filter : Option Expr)
      (sql : String)
  | createView (temp ifNotExists : Bool) (schemaName : Option String) (name : String)
      (nameOffset : Nat) (columns : Option (List String)) (q : Query) (sql : String)
  | createTrigger (temp ifNotExists : Bool) (schemaName : Option String) (name : String)
      (table : String) (sql : String)
  | drop (kind : ObjectKind) (ifExists : Bool) (schemaName : Option String) (name : String)
  | alter (schemaName : Option String) (table : String) (tableOffset : Nat) (action : AlterAction)
  | begin (kind : BeginKind)
  | commit
  | rollback (savepoint : Option String)
  | savepoint (name : String)
  | release (name : String)
  | pragma (schemaName : Option String) (name : String) (value : Option String)
  | vacuum
  | analyze
  | reindex
  | explain (s : Statement)
  | withCtes (ctes : List Cte) (s : Statement)
  | attach (e : Expr) (schemaName : Expr)
  | detach (schemaName : Expr)

instance : Inhabited Statement := ⟨.vacuum⟩

/-- A failure of the engine: its message, its extended result code, the byte offset it points at
in the statement being read when it has one, and whether it was a name the schema lacked, which
a connection whose schema is out of date tries again after reading the schema anew. -/
structure SqlError where
  message : String
  code : Nat := 1
  offset : Option Nat := none
  missing : Bool := false
  deriving Repr, Inhabited

namespace SqlError

def plain (message : String) : SqlError :=
  { message := message }

def at_ (message : String) (offset : Nat) : SqlError :=
  { message := message, offset := some offset }

def missingName (message : String) (offset : Option Nat) : SqlError :=
  { message := message, offset := offset, missing := true }

def constraint (message : String) (code : Nat) : SqlError :=
  { message := message, code := code }

end SqlError

end Sql
end Store
end MemoryRecorder
