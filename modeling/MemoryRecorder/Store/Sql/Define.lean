import MemoryRecorder.Store.Sql.Change
/-!
# Defining tables, indexes and views

CREATE, DROP and ALTER change the schema. What they may do is decided against the schema alone,
as preparing them does: a name already taken, a name reserved for the engine (`sqlite_…`), a
column named twice, a second primary key, AUTOINCREMENT on anything but an INTEGER PRIMARY KEY.
A table's column is the row id when it is the single column of the primary key, declared with
the type `INTEGER` exactly and not descending. Each UNIQUE or PRIMARY KEY constraint that is not
the row id makes an automatic index `sqlite_autoindex_T_N`, unless an index on the same columns
with the same collations is there already.

Dropping a table with foreign keys enforced first deletes its rows as a DELETE would, counting
the keys; a parent that no longer exists counts as empty, and one that is a view is passed over.
The drop fails if that leaves the counter other than zero. It then removes the table, its
indexes and triggers, and its row of `sqlite_sequence`.
-/

namespace MemoryRecorder
namespace Store
namespace Sql

/-- A change of the schema, decided against the schema as it stands. -/
inductive SchemaChange where
  | createTable (t : TableDef) (indexes : List IndexDef) (rows : Option Query)
  | createIndex (ix : IndexDef)
  | createView (v : ViewDef)
  | createTrigger (t : TriggerDef)
  | dropTable (t : TableDef)
  | dropEntry (name : String)
  | renameTable (t : TableDef) (newName : String)
  | addColumn (t : TableDef) (c : Column) (fk : Option ForeignKey) (sqlText : String)
  | renameColumn (t : TableDef) (i : Nat) (newName : String)
  | dropColumn (t : TableDef) (i : Nat)
  | nothing

def reservedName (n : String) : Bool :=
  (n.toLower.take 7).toString == "sqlite_"

def reservedError (n : String) : SqlError :=
  .plain ("object name reserved for internal use: " ++ n)

def indexKeyOf (cols : List Column) (ic : IndexedColumn) : Except SqlError IndexKey := do
  let (n, off) ← match ic.e with
    | .name n _ off => pure (n, off)
    | .collate (.name n _ off) _ _ => pure (n, off)
    | .lit (.text n) => pure (n, 0)
    | _ => throw (.plain "expressions prohibited in PRIMARY KEY and UNIQUE constraints")
  match cols.findIdx? (fun c => sameName c.name n) with
  | some i =>
      let coll ← match ic.collation with
        | some c =>
            match collationOf c with
            | some k => pure k
            | none => throw (.plain ("no such collation sequence: " ++ c))
        | none => pure ((cols[i]?.map (·.collation)).getD .binary)
      pure ⟨i, coll, ic.desc⟩
  | none => throw (.missingName ("no such column: " ++ n) (some off))

structure Building where
  columns : List Column := []
  rowidColumn : Option Nat := none
  keyConflict : Option Conflict := none
  autoincrement : Bool := false
  hasKey : Bool := false
  checks : List (String × Expr) := []
  foreignKeys : List ForeignKey := []
  indexes : List IndexDef := []

/-- Adds the automatic index of a UNIQUE or PRIMARY KEY constraint, unless an index on the same
columns with the same collations exists; then a conflict rule given here fills in one not given
there, and two different rules given fail. -/
def Building.addIndex (b : Building) (table : String) (keys : List IndexKey)
    (conflict : Option Conflict) (primary : Bool) : Except SqlError Building :=
  let same (ix : IndexDef) : Bool :=
    ix.keys.length == keys.length &&
      (ix.keys.zip keys).all fun (a, k) => a.column == k.column && a.collation == k.collation
  match b.indexes.find? same with
  | some ix =>
      if ix.conflict.isSome && conflict.isSome && ix.conflict != conflict then
        .error (.plain "conflicting ON CONFLICT clauses specified")
      else
        .ok { b with indexes := b.indexes.map fun x =>
          if x.name == ix.name then
            { x with conflict := x.conflict.orElse fun _ => conflict, primary := x.primary || primary }
          else x }
  | none =>
      let n := b.indexes.length + 1
      let ix : IndexDef :=
        { name := "sqlite_autoindex_" ++ table ++ "_" ++ toString n, table := table, keys := keys,
          unique := true, conflict := conflict, primary := primary }
      .ok { b with indexes := b.indexes ++ [ix] }

def Building.addPrimaryKey (b : Building) (table : String) (keys : List IndexKey)
    (conflict : Option Conflict) (autoinc : Bool) : Except SqlError Building := do
  if b.hasKey then throw (.plain ("table \"" ++ table ++ "\" has more than one primary key"))
  let marked := (b.columns.zipIdx 0).map fun (c, i) =>
    if keys.any (·.column == i) then { c with primaryKey := true } else c
  let b := { b with hasKey := true, columns := marked }
  match keys with
  | [k] =>
      let isInteger := ((b.columns[k.column]?.map (·.typeName.toUpper)) == some "INTEGER")
      if isInteger && !k.desc then
        return { b with rowidColumn := some k.column, keyConflict := conflict, autoincrement := autoinc }
      if autoinc then throw (.plain "AUTOINCREMENT is only allowed on an INTEGER PRIMARY KEY")
      b.addIndex table keys conflict true
  | _ =>
      if autoinc then throw (.plain "AUTOINCREMENT is only allowed on an INTEGER PRIMARY KEY")
      b.addIndex table keys conflict true

def foreignKeyOf (cols : List Nat) (r : References) : ForeignKey :=
  { columns := cols, parent := r.parent, parentColumns := r.parentColumns, deferred := r.deferred,
    onDelete := r.onDelete, onUpdate := r.onUpdate }

def Building.addColumn (b : Building) (table : String) (d : ColumnDef) : Except SqlError Building := do
  if b.columns.any (fun c => sameName c.name d.name) then
    throw (.plain ("duplicate column name: " ++ d.name))
  let i := b.columns.length
  let mut col : Column :=
    { name := d.name, typeName := d.typeName, affinity := Affinity.ofTypeName d.typeName }
  for (_, c) in d.constraints do
    match c with
    | .collate n =>
        match collationOf n with
        | some k => col := { col with collation := k }
        | none => throw (.plain ("no such collation sequence: " ++ n))
    | _ => pure ()
  let mut b := { b with columns := b.columns ++ [col] }
  for (nm, c) in d.constraints do
    match c with
    | .primaryKey desc conflict autoinc =>
        b ← b.addPrimaryKey table [⟨i, col.collation, desc⟩] conflict autoinc
        b := { b with columns := b.columns.map fun x =>
          if x.name == d.name then { x with unique := true } else x }
    | .notNull conflict =>
        b := { b with columns := b.columns.map fun x =>
          if x.name == d.name then { x with notNull := true, notNullConflict := conflict } else x }
    | .unique conflict =>
        b ← b.addIndex table [⟨i, col.collation, false⟩] conflict false
        b := { b with columns := b.columns.map fun x =>
          if x.name == d.name then { x with unique := true } else x }
    | .check e text => b := { b with checks := b.checks ++ [(nm.getD text, e)] }
    | .defaultValue e _ =>
        b := { b with columns := b.columns.map fun x =>
          if x.name == d.name then { x with defaultValue := some e } else x }
    | .references r =>
        b := { b with foreignKeys := b.foreignKeys ++ [{ foreignKeyOf [i] r with inline := true }] }
    | _ => pure ()
  return b

def Building.addConstraint (b : Building) (table : String) (c : TableConstraint) :
    Except SqlError Building := do
  match c with
  | .primaryKey _ cols conflict autoinc =>
      let keys ← cols.mapM (indexKeyOf b.columns)
      b.addPrimaryKey table keys conflict autoinc
  | .unique _ cols conflict =>
      let keys ← cols.mapM (indexKeyOf b.columns)
      b.addIndex table keys conflict false
  | .check nm e text => return { b with checks := b.checks ++ [(nm.getD text, e)] }
  | .foreignKey _ cols r =>
      let idx ← cols.mapM fun n =>
        match b.columns.findIdx? (fun c => sameName c.name n) with
        | some i => pure i
        | none => throw (.plain ("unknown column \"" ++ n ++ "\" in foreign key definition"))
      if !r.parentColumns.isEmpty && r.parentColumns.length != cols.length then
        throw (.plain ("number of columns in foreign key does not match the number of columns in " ++
          "the referenced table"))
      return { b with foreignKeys := b.foreignKeys ++ [foreignKeyOf idx r] }

/-- The checks every name of a new table or view must pass: not reserved, not taken by a
table or view (unless IF NOT EXISTS, which makes the statement do nothing), not taken by an
index. -/
def checkNewName (s : Schema) (ifNotExists : Bool) (schemaName : Option String) (n : String)
    (nameOffset : Nat) : Except SqlError Bool := do
  if !knownSchema schemaName then throw (.plain ("unknown database " ++ schemaName.getD ""))
  if reservedName n then throw (reservedError n)
  match s.table? n, s.view? n with
  | some _, _ =>
      if ifNotExists then return false
      throw (.at_ ("table " ++ n ++ " already exists") nameOffset)
  | none, some _ =>
      if ifNotExists then return false
      throw (.at_ ("view " ++ n ++ " already exists") nameOffset)
  | none, none =>
      if (s.index? n).isSome then throw (.plain ("there is already an index named " ++ n))
      return true

def typeOfAffinity : Option Affinity → String
  | some .text => "TEXT"
  | some .numeric => "NUM"
  | some .integer => "INT"
  | some .real => "REAL"
  | _ => ""

def defineTable (s : Schema) (ifNotExists : Bool) (schemaName : Option String) (n : String)
    (nameOffset : Nat) (body : TableBody) (sql : String) : Except SqlError SchemaChange := do
  if !(← checkNewName s ifNotExists schemaName n nameOffset) then return .nothing
  match body with
  | .columns cols cons withoutRowid _ =>
      let mut b : Building := {}
      for d in cols do
        b ← b.addColumn n d
      for c in cons do
        b ← b.addConstraint n c
      if withoutRowid && !b.hasKey then throw (.plain ("PRIMARY KEY missing on table " ++ n))
      let t : TableDef :=
        { name := n, columns := b.columns, rowidColumn := b.rowidColumn,
          keyConflict := b.keyConflict, autoincrement := b.autoincrement, checks := b.checks,
          foreignKeys := b.foreignKeys, withoutRowid := withoutRowid, root := 0, sql := sql }
      return .createTable t b.indexes none
  | .asQuery q =>
      let (ql, names) ← (compileQuery s [] q).run' {}
      let affs := match ql with
        | .query _ (.select _ rcs _ _ _ _) _ _ _ _ => rcs.map fun
            | .expr e _ _ => Expr.affinity nestFuel e
            | _ => none
        | _ => names.map fun _ => none
      let cols : List Column := (names.zip (affs ++ List.replicate names.length none)).map
        fun (nm, a) =>
          let ty := typeOfAffinity a
          { name := nm, typeName := ty, affinity := Affinity.ofTypeName ty }
      let text := "CREATE TABLE " ++ n ++ "(" ++ ",".intercalate (cols.map fun c =>
        if c.typeName.isEmpty then c.name else c.name ++ " " ++ c.typeName) ++ ")"
      let t : TableDef := { name := n, columns := cols, root := 0, sql := text }
      return .createTable t [] (some ql)

def defineIndex (s : Schema) (unique ifNotExists : Bool) (schemaName : Option String) (n : String)
    (table : String) (cols : List IndexedColumn) (filter : Option Expr) (sql : String) :
    Except SqlError SchemaChange := do
  if !knownSchema schemaName then throw (.plain ("unknown database " ++ schemaName.getD ""))
  let t ← match s.table? table with
    | some t => pure t
    | none =>
        if (s.view? table).isSome then throw (.plain "views may not be indexed")
        else throw (.missingName ("no such table: main." ++ table) none)
  if reservedName t.name then throw (.plain ("table " ++ t.name ++ " may not be indexed"))
  if reservedName n then throw (reservedError n)
  if (s.table? n).isSome || (s.view? n).isSome then
    throw (.plain ("there is already a table named " ++ n))
  if (s.index? n).isSome then
    if ifNotExists then return .nothing
    throw (.plain ("index " ++ n ++ " already exists"))
  let keys ← cols.mapM (indexKeyOf t.columns)
  let ix : IndexDef :=
    { name := n, table := t.name, keys := keys, unique := unique, filter := filter,
      sql := some sql }
  return .createIndex ix

def defineView (s : Schema) (ifNotExists : Bool) (schemaName : Option String) (n : String)
    (nameOffset : Nat) (columns : Option (List String)) (q : Query) (sql : String) :
    Except SqlError SchemaChange := do
  if !(← checkNewName s ifNotExists schemaName n nameOffset) then return .nothing
  return .createView ⟨n, columns, q, sql⟩

def defineDrop (s : Schema) (kind : ObjectKind) (ifExists : Bool) (schemaName : Option String)
    (n : String) : Except SqlError SchemaChange := do
  let shown := match schemaName with
    | some d => d ++ "." ++ n
    | none => n
  if !knownSchema schemaName then
    if ifExists then return .nothing
    throw (.plain ("no such " ++ (match kind with
      | .view => "view"
      | .index => "index"
      | .trigger => "trigger"
      | .table => "table") ++ ": " ++ shown))
  match kind with
  | .table | .view =>
      let found : Option (Bool × String) := match s.table? n, s.view? n with
        | some t, _ => some (false, t.name)
        | none, some v => some (true, v.name)
        | none, none => none
      match found with
      | none =>
          if ifExists then return .nothing
          throw (.missingName ("no such " ++ (if kind == .view then "view" else "table") ++ ": " ++
            shown) none)
      | some (isView, canon) =>
          if reservedName canon && !((canon.toLower.drop 7).toString.startsWith "stat") then
            throw (.plain ("table " ++ canon ++ " may not be dropped"))
          if kind == .view && !isView then
            throw (.plain ("use DROP TABLE to delete table " ++ canon))
          if kind == .table && isView then
            throw (.plain ("use DROP VIEW to delete view " ++ canon))
          match s.table? n with
          | some t => return .dropTable t
          | none => return .dropEntry canon
  | .index =>
      match s.index? n with
      | some ix =>
          if ix.sql.isNone then
            throw (.plain ("index associated with UNIQUE or PRIMARY KEY constraint cannot be " ++
              "dropped"))
          return .dropEntry ix.name
      | none =>
          if ifExists then return .nothing
          throw (.missingName ("no such index: " ++ shown) none)
  | .trigger =>
      match s.trigger? n with
      | some t => return .dropEntry t.name
      | none =>
          if ifExists then return .nothing
          throw (.missingName ("no such trigger: " ++ shown) none)

/-- Checks the views of a schema as a change of a table checks them: the first, in schema order,
whose query no longer resolves fails the change as `error in view V<when>: ...`. -/
def checkViews (s : Schema) (when_ : String) : Except SqlError Unit :=
  s.forM fun e =>
    match e with
    | .view v =>
        match viewCheck s viewDepth v.name v.query with
        | .ok () => pure ()
        | .error err => throw (.plain ("error in view " ++ v.name ++ when_ ++ ": " ++ err.message))
    | _ => pure ()

/-- The schema with a column dropped from a table: the columns after it move down one place in
the table, its foreign keys and its indexes, and indexes on the column go. -/
def Schema.withoutColumn (s : Schema) (t : TableDef) (i : Nat) : Schema :=
  let shift (j : Nat) : Nat := if j > i then j - 1 else j
  let fks := (t.foreignKeys.filter fun k => !k.columns.contains i).map fun k =>
    { k with columns := k.columns.map shift }
  let t' := { t with columns := t.columns.eraseIdx i, foreignKeys := fks }
  let t' := { t' with rowidColumn := t.rowidColumn.map shift }
  let kept := s.without fun e =>
    match e with
    | .index ix => sameName ix.table t.name && ix.keys.any (·.column == i)
    | _ => false
  let shiftKey (k : IndexKey) : IndexKey := { k with column := shift k.column }
  kept.map fun e =>
    match e with
    | .table x => if x.name == t.name then .table t' else e
    | .index ix =>
        if sameName ix.table t.name then .index { ix with keys := ix.keys.map shiftKey } else e
    | e => e

def defineAlter (s : Schema) (fk : Bool) (schemaName : Option String) (table : String)
    (action : AlterAction) : Except SqlError SchemaChange := do
  let t ← match s.table? table with
    | some t => pure t
    | none =>
        match s.view? table with
        | some v =>
            match action with
            | .renameTable _ => pure { name := v.name, columns := [], root := 0, sql := v.sql }
            | .addColumn _ _ => throw (.plain ("Cannot add a column to a view"))
            | .dropColumn _ =>
                if reservedName v.name then throw (.plain ("table " ++ v.name ++ " may not be altered"))
                throw (.plain ("cannot drop column from view \"" ++ v.name ++ "\""))
            | .renameColumn _ _ =>
                if reservedName v.name then throw (.plain ("table " ++ v.name ++ " may not be altered"))
                throw (.plain ("cannot rename columns of view \"" ++ v.name ++ "\""))
        | none => throw (noSuchTable schemaName table)
  let isView := (s.table? table).isNone
  match action with
  | .renameTable newName =>
      if !isView then checkViews s ""
      if (s.table? newName).isSome || (s.view? newName).isSome || (s.index? newName).isSome then
        throw (.plain ("there is already another table or index with this name: " ++ newName))
      if reservedName t.name then throw (.plain ("table " ++ t.name ++ " may not be altered"))
      if reservedName newName then throw (reservedError newName)
      if isView then throw (.plain ("view " ++ t.name ++ " may not be altered"))
      return .renameTable t newName
  | .addColumn d text =>
      if reservedName t.name then throw (.plain ("table " ++ t.name ++ " may not be altered"))
      let b ← ({ columns := t.columns } : Building).addColumn t.name d
      let col := (b.columns.getLast?).getD { name := d.name, typeName := "", affinity := .blob }
      let hasPk := d.constraints.any fun (_, c) => match c with
        | .primaryKey _ _ _ => true
        | _ => false
      let hasUnique := d.constraints.any fun (_, c) => match c with
        | .unique _ => true
        | _ => false
      if hasPk then throw (.plain "Cannot add a PRIMARY KEY column")
      if hasUnique then throw (.plain "Cannot add a UNIQUE column")
      let defaultNull := match col.defaultValue with
        | none => true
        | some (.lit .null) => true
        | _ => false
      let fkOf := b.foreignKeys.head?
      if fk && fkOf.isSome && !defaultNull then
        throw (.plain "Cannot add a REFERENCES column with non-NULL default value")
      if col.notNull && defaultNull then
        throw (.plain "Cannot add a NOT NULL column with default value NULL")
      return .addColumn t { col with primaryKey := false } fkOf text
  | .renameColumn old newName =>
      if reservedName t.name then throw (.plain ("table " ++ t.name ++ " may not be altered"))
      match t.columnIndex? old with
      | some i =>
          checkViews s ""
          if (t.columnIndex? newName).isSome then
            throw (.plain ("duplicate column name: " ++ newName))
          return .renameColumn t i newName
      | none => throw (.plain ("no such column: \"" ++ old ++ "\""))
  | .dropColumn n =>
      if reservedName t.name then throw (.plain ("table " ++ t.name ++ " may not be altered"))
      match t.columnIndex? n with
      | some i =>
          let c := (t.column? i).getD { name := n, typeName := "", affinity := .blob }
          if c.primaryKey then throw (.plain ("cannot drop PRIMARY KEY column: \"" ++ c.name ++ "\""))
          if c.unique then throw (.plain ("cannot drop UNIQUE column: \"" ++ c.name ++ "\""))
          if t.width == 1 then throw (.plain ("cannot drop column \"" ++ c.name ++
            "\": no other columns exist"))
          checkViews s ""
          let s' := s.withoutColumn t i
          let t' := (s'.table? t.name).getD t
          let broken (what : String) (name : String) (m : String) : SqlError :=
            .plain ("error in " ++ what ++ " " ++ name ++ " after drop column: " ++ m)
          let missing := "no such column: " ++ c.name
          if (s.indexesOf t.name).any (fun ix => ix.sql.isNone && !ix.primary &&
              ix.keys.any (·.column == i)) then
            throw (broken "table" t.name missing)
          if t.foreignKeys.any (fun k => !k.inline && k.columns.contains i) then
            throw (broken "table" t.name ("unknown column \"" ++ c.name ++
              "\" in foreign key definition"))
          if t.checks.any (fun (_, e) => (checkExpr s' t' e).isNone) then
            throw (broken "table" t.name missing)
          for e in s do
            match e with
            | .index ix =>
                if ix.sql.isSome && sameName ix.table t.name &&
                    (ix.keys.any (·.column == i) ||
                      (ix.filter.map fun f => (checkExpr s' t' f).isNone).getD false) then
                  throw (broken "index" ix.name missing)
            | _ => pure ()
          checkViews s' " after drop column"
          return .dropColumn t i
      | none => throw (.plain ("no such column: \"" ++ n ++ "\""))

/-- Decides a statement that changes the schema. -/
def defineChange (s : Schema) (fk : Bool) : Statement → Except SqlError SchemaChange
  | .createTable _ ine schemaName n off body sql => defineTable s ine schemaName n off body sql
  | .createIndex unique ine schemaName n _ table cols filter sql =>
      defineIndex s unique ine schemaName n table cols filter sql
  | .createView _ ine schemaName n off cols q sql => defineView s ine schemaName n off cols q sql
  | .createTrigger _ ine schemaName n table sql => do
      if !knownSchema schemaName then throw (.plain ("unknown database " ++ schemaName.getD ""))
      if reservedName n then throw (reservedError n)
      if (s.trigger? n).isSome then
        if ine then return .nothing
        throw (.plain ("trigger " ++ n ++ " already exists"))
      match s.table? table with
      | some t => return .createTrigger ⟨n, t.name, sql⟩
      | none =>
          if (s.view? table).isSome then return .createTrigger ⟨n, table, sql⟩
          throw (.missingName ("no such table: main." ++ table) none)
  | .drop kind ie schemaName n => defineDrop s kind ie schemaName n
  | .alter schemaName table _ action => defineAlter s fk schemaName table action
  | _ => .ok .nothing

/-- The rows of a table deleted before it is dropped, counting its foreign keys: a parent that
is missing counts as empty, one that is a view or lacks the key is passed over. -/
def dropRows (en : Env') (t : TableDef) : ChangeM Unit := do
  if !en.fk then return
  let s := (← get).db.schema
  let refs := s.referencing t.name
  if refs.isEmpty then
    if !(t.foreignKeys.any (·.deferred)) then return
    if (← get).deferred == 0 then return
  let parents := refs.filterMap fun (c, fk) => (locateParentKey s t fk).map fun k => ⟨c, fk, k⟩
  for row in (← currentRows t) do
    for fk in t.checkedKeys do
      let cv := childValues t fk row.rowid row.vals
      if cv.any (· == .null) then continue
      match s.table? fk.parent with
      | none =>
          if (s.view? fk.parent).isNone then countFk fk.deferred (-1)
      | some p =>
          match locateParentKey s p fk with
          | some key =>
              if ← counterZero fk.deferred then continue
              if !parentFound (← get).db p key cv then countFk fk.deferred (-1)
          | none => pure ()
    parentSide t parents row.rowid row.vals 1
    let rows ← currentRows t
    setTableRows t (rows.filter (·.rowid != row.rowid))
  if (← get).immediate != 0 then failWith fkFailure .statement

def setSchema (s : Schema) : ChangeM Unit :=
  modify fun w => { w with db := w.db.withSchema s }

def allocateRoot : ChangeM Nat := do
  let w ← get
  let (db, root) := w.db.allocate
  set { w with db := db }
  return root

def sequenceTable (root : Nat) : TableDef :=
  { name := "sqlite_sequence", root := root, sql := "CREATE TABLE sqlite_sequence(name,seq)",
    columns := [{ name := "name", typeName := "", affinity := .blob },
      { name := "seq", typeName := "", affinity := .blob }] }

/-- Applies a decided change of the schema. -/
def applyChange (en : Env') : SchemaChange → ChangeM Unit
  | .nothing => pure ()
  | .createTable t indexes rows => do
      let root ← allocateRoot
      let t := { t with root := root }
      let s := (← get).db.schema
      let mut entries : List Entry := [.table t] ++ indexes.map Entry.index
      if t.autoincrement && (s.table? "sqlite_sequence").isNone then
        let seqRoot ← allocateRoot
        entries := entries ++ [.table (sequenceTable seqRoot)]
      setSchema (s ++ entries)
      match rows with
      | some q => do
          let cx ← evalCtx en
          let out ← liftEval (runQuery cx nestFuel [] q)
          let mut id : Int64 := 0
          for r in out do
            id := id + 1
            let vals := (t.columns.zip r.toList).map fun (c, v) => v.withAffinity c.affinity
            putRow t ⟨id, vals.toArray⟩
      | none => pure ()
  | .createIndex ix => do
      let s := (← get).db.schema
      match s.table? ix.table with
      | some t =>
          if ix.unique then
            let rows ← currentRows t
            let keyOf (r : Row) := ix.keys.map fun k => rowValue t r.rowid r.vals k.column
            let clash := rows.any fun a => rows.any fun b =>
              a.rowid < b.rowid && !(keyOf a).any (· == .null) &&
                ((ix.keys.zip (keyOf a)).zip (keyOf b)).all fun ((k, x), y) =>
                  compareWith k.collation x y == .eq
            if clash then failWith { message := uniqueMessage t ix, code := 2067 } .statement
          setSchema (s ++ [.index ix])
      | none => pure ()
  | .createView v => do
      let s := (← get).db.schema
      setSchema (s ++ [.view v])
  | .createTrigger tr => do
      let s := (← get).db.schema
      setSchema (s ++ [.trigger tr])
  | .dropTable t => do
      dropRows en t
      let db := (← get).db
      let seqRows := match db.schema.table? "sqlite_sequence" with
        | some sq => some (sq, (db.rowsOf sq).filter fun r => r.vals[0]? != some (.text t.name))
        | none => none
      if let some (sq, rows) := seqRows then setTableRows sq rows
      let s := (← get).db.schema
      setSchema (s.without fun e =>
        match e with
        | .table x => x.name == t.name
        | .index ix => sameName ix.table t.name
        | .trigger tr => sameName tr.table t.name
        | .view _ => false)
      modify fun w => { w with db := { w.db with pages := w.db.pages.filter (·.1 != t.root) } }
  | .dropEntry n => do
      let s := (← get).db.schema
      setSchema (s.without fun e => e.name == n && !(match e with
        | .table _ => true
        | _ => false))
  | .renameTable t newName => do
      let s := (← get).db.schema
      let old := t.name
      let rest := (t.sql.drop ("CREATE TABLE ".length + old.length)).toString
      let s := s.map fun e =>
        match e with
        | .table x =>
            let fks := x.foreignKeys.map fun k =>
              if sameName k.parent old then { k with parent := newName } else k
            let x := { x with foreignKeys := fks }
            if x.name == old then
              .table { x with name := newName, sql := "CREATE TABLE \"" ++ newName ++ "\"" ++ rest }
            else .table x
        | .index ix => if sameName ix.table old then .index { ix with table := newName } else e
        | .trigger tr => if sameName tr.table old then .trigger { tr with table := newName } else e
        | .view v => .view v
      setSchema s
      let db := (← get).db
      match db.schema.table? "sqlite_sequence" with
      | some sq =>
          setTableRows sq ((db.rowsOf sq).map fun r =>
            if r.vals[0]? == some (.text old) then { r with vals := r.vals.set! 0 (.text newName) }
            else r)
      | none => pure ()
  | .addColumn t c fk text => do
      let s := (← get).db.schema
      let i := t.width
      let fks := t.foreignKeys ++ (fk.map fun k => { k with columns := [i] }).toList
      let text' := (t.sql.dropEnd 1).toString ++ ", " ++ text ++ ")"
      let t' := { t with columns := t.columns ++ [c], foreignKeys := fks, sql := text' }
      let cx ← evalCtx en
      let dflt ← match c.defaultValue with
        | some e =>
            match (lowerExpr nestFuel e).run {} with
            | .ok (l, _) => liftEval (evalExpr cx nestFuel [] none l)
            | .error err => failWith err .statement
        | none => pure .null
      let dflt := dflt.withAffinity c.affinity
      let rows ← currentRows t
      setTableRows t (rows.map fun r => { r with vals := r.vals.push dflt })
      setSchema (s.map fun e =>
        match e with
        | .table x => if x.name == t.name then .table t' else e
        | e => e)
  | .renameColumn t i newName => do
      let s := (← get).db.schema
      let old := t.columnName i
      let col := (t.column? i).getD { name := old, typeName := "", affinity := .blob }
      let t' := { t with columns := t.columns.set i { col with name := newName } }
      let renameKey (k : ForeignKey) : ForeignKey :=
        if sameName k.parent t.name then
          let ps := k.parentColumns.map fun p => if sameName p old then newName else p
          { k with parentColumns := ps }
        else k
      setSchema (s.map fun e =>
        match e with
        | .table x =>
            let x := { x with foreignKeys := x.foreignKeys.map renameKey }
            if x.name == t.name then .table { t' with foreignKeys := x.foreignKeys } else .table x
        | e => e)
  | .dropColumn t i => do
      let s := (← get).db.schema
      let rows ← currentRows t
      setTableRows t (rows.map fun r => { r with vals := (r.vals.toList.eraseIdx i).toArray })
      setSchema (s.withoutColumn t i)

end Sql
end Store
end MemoryRecorder
