import MemoryRecorder.Store.Sql.Eval
/-!
# Compiling statements

A statement is compiled against a schema before it runs, and the failures the engine reports
while preparing a statement come from here, in the engine's order:

* the table a statement writes must exist and be a table (`cannot modify v because it is a
  view`, `table sqlite_master may not be modified`); a view a statement reads is checked when it
  is first used, and a failure inside it points at no offset;
* an INSERT's column list must name columns of the table, and it must be given as many values
  as it names columns (or as the table has);
* every name must resolve, and the statement is lowered;
* with foreign keys on, each foreign key the statement may touch must find its parent table and
  a unique key there: a missing parent fails with `no such table: main.P`, a parent that is a
  view or has no such key with `foreign key mismatch`.

An UPDATE checks the foreign keys whose child columns it changes and those whose parent key it
changes; a single-row INSERT does not check the keys that point at its table.
-/

namespace MemoryRecorder
namespace Store
namespace Sql

/-- How a foreign key finds its parent row: by row id, or by equal values in parent columns,
given in the order of the key's columns with their collations and affinities. -/
inductive ParentKey where
  | rowid
  | columns (cols : List (Nat × Collation × Affinity))

def locateParentKey (s : Schema) (parent : TableDef) (fk : ForeignKey) : Option ParentKey :=
  let n := fk.columns.length
  let ipk : Option String := parent.rowidColumn.map parent.columnName
  let viaIndex : Option ParentKey :=
    let candidates := (s.indexesOf parent.name).filter fun ix =>
      ix.unique && ix.filter.isNone && ix.keys.length == n
    match fk.parentColumns with
    | [] =>
        (candidates.find? (·.primary)).map fun ix =>
          .columns (ix.keys.map fun k => (k.column, k.collation, parent.affinityAt k.column))
    | names =>
        candidates.findSome? fun ix =>
          let fits := ix.keys.all fun k =>
            let col := parent.column? k.column
            ((col.map (·.collation)) == some k.collation) &&
              names.any (sameName (parent.columnName k.column))
          if !fits then none
          else
            names.mapM (fun nm =>
              (ix.keys.find? fun k => sameName (parent.columnName k.column) nm).map fun k =>
                (k.column, k.collation, parent.affinityAt k.column)) |>.map ParentKey.columns
  if n == 1 then
    match ipk, fk.parentColumns with
    | some _, [] => some .rowid
    | some k, [c] => if sameName k c then some .rowid else viaIndex
    | _, _ => viaIndex
  else viaIndex

def fkMismatch (child parent : String) : SqlError :=
  .plain ("foreign key mismatch - \"" ++ child ++ "\" referencing \"" ++ parent ++ "\"")

structure ChildKey where
  fk : ForeignKey
  parent : Option (TableDef × ParentKey)

structure ParentRef where
  child : TableDef
  fk : ForeignKey
  key : ParentKey

def locateChildKeys (s : Schema) (t : TableDef) (fks : List ForeignKey) :
    Except SqlError (List ChildKey) :=
  fks.mapM fun fk =>
    match s.table? fk.parent with
    | some p =>
        match locateParentKey s p fk with
        | some k => .ok ⟨fk, some (p, k)⟩
        | none => .error (fkMismatch t.name fk.parent)
    | none =>
        if (s.view? fk.parent).isSome then .error (fkMismatch t.name fk.parent)
        else .error (.missingName ("no such table: main." ++ fk.parent) none)

def locateParentRefs (s : Schema) (t : TableDef) (refs : List (TableDef × ForeignKey)) :
    Except SqlError (List ParentRef) :=
  refs.mapM fun (c, fk) =>
    match locateParentKey s t fk with
    | some k => .ok ⟨c, fk, k⟩
    | none => .error (fkMismatch c.name t.name)

inductive InsertSource where
  | values (rows : List (List Expr))
  | query (q : Query)
  | defaults

/-- A compiled INSERT. `targets` gives, for each supplied value, the column it fills (none for a
row id named by `rowid`); `rowidAt` is the supplied value that gives the row id, the last one
naming it. `multi` says whether the statement may write more than one row. -/
structure InsertPlan where
  table : TableDef
  conflict : Option Conflict
  targets : List (Option Nat)
  rowidAt : Option Nat
  source : InsertSource
  multi : Bool
  children : List ChildKey
  parents : List ParentRef

/-- A compiled UPDATE: the columns set and their values, the row id's new value if set, the
sources of a FROM clause (after the table, which is source 0), and the condition. -/
structure UpdatePlan where
  table : TableDef
  conflict : Option Conflict
  sets : List (Nat × Expr)
  rowidSet : Option Expr
  src : Option Source
  width : Nat
  filter : Option Expr
  children : List ChildKey
  parents : List ParentRef

structure DeletePlan where
  table : TableDef
  filter : Option Expr
  children : List ChildKey
  parents : List ParentRef

/-- A compiled statement: a query with its column names, a change of rows, or a statement that
runs from its text alone (a definition, a transaction statement, a pragma). -/
inductive Plan where
  | query (q : Query) (names : List String)
  | insert (p : InsertPlan)
  | update (p : UpdatePlan)
  | delete (p : DeletePlan)
  | command (s : Statement)

abbrev CompileM := StateT Params (Except SqlError)

def fromExcept {α : Type} (x : Except SqlError α) : CompileM α :=
  match x with
  | .ok a => pure a
  | .error e => throw e

def resolved {α : Type} (m : ResolveM α) : Except SqlError α := do
  let (a, pending) ← m.run none
  match pending with
  | some e => .error e
  | none => .ok a

/-- Checks a view's query as the engine does when a statement first uses the view; a failure
inside a view points at no offset. -/
def viewCheck (s : Schema) : Nat → String → Query → Except SqlError Unit
  | 0, _, _ => .ok ()
  | n + 1, name, q =>
      let r : Except SqlError Unit := do
        let qe ← expandQuery s (viewCheck s n) nestFuel [] [name] q
        let _ ← resolved (resolveQuery s nestFuel [] qe)
        pure ()
      r.mapError fun e => { e with offset := none }

def viewDepth : Nat := 64

def bindCtes (ctes : List Cte) : List CteBinding :=
  (ctes.map fun
    | .cte n cols q => (⟨n, cols, q⟩ : CteBinding)).reverse

def compileQuery (s : Schema) (ctes : List Cte) (q : Query) : CompileM (Query × List String) := do
  let qe ← fromExcept (expandQuery s (viewCheck s viewDepth) nestFuel (bindCtes ctes) [] q)
  let (qr, _) ← fromExcept (resolved (resolveQuery s nestFuel [] qe))
  let ql ← lowerQuery nestFuel qr
  return (ql, qe.columnNames)

def expandIn (s : Schema) (ctes : List Cte) (e : Expr) : Except SqlError Expr :=
  expandExpr s (viewCheck s viewDepth) nestFuel (bindCtes ctes) [] e

def targetTable (s : Schema) (t : Target) : Except SqlError TableDef :=
  if !knownSchema t.schemaName then .error (noSuchTable t.schemaName t.name)
  else if isMasterName t.name then
    .error (.plain ("table " ++ (if sameName t.name "sqlite_schema" then "sqlite_schema"
      else "sqlite_master") ++ " may not be modified"))
  else
    match s.table? t.name with
    | some td => .ok td
    | none =>
        match s.view? t.name with
        | some v => do
            viewCheck s viewDepth v.name v.query
            .error (.plain ("cannot modify " ++ v.name ++ " because it is a view"))
        | none => .error (noSuchTable t.schemaName t.name)

/-- Whether an INSERT may settle a conflict by deleting rows: its rule, or else the rule of a
constraint it checks, is REPLACE. The row id is checked only when the INSERT gives it. -/
def mayReplace (s : Schema) (td : TableDef) (conflict : Option Conflict) (rowidGiven : Bool) :
    Bool :=
  (rowidGiven && conflict.getD (td.keyConflict.getD .abort) == .replace) ||
    (s.indexesOf td.name).any fun ix =>
      ix.unique && conflict.getD (ix.conflict.getD .abort) == .replace

def compileInsert (s : Schema) (fk : Bool) (ctes : List Cte) (conflict : Option Conflict)
    (t : Target) (columns : Option (List String)) (rows : Option Query) : CompileM Plan := do
  let td ← fromExcept (targetTable s t)
  let named : Option (List (Option Nat)) ← match columns with
    | some ns => do
        let ts ← ns.mapM fun n =>
          match td.columnIndex? n with
          | some i => pure (some i)
          | none =>
              if isRowidName n && !td.withoutRowid then pure none
              else throw (.missingName ("table " ++ td.name ++ " has no column named " ++ n) none)
        pure (some ts)
    | none => pure none
  let rowidAt : Option Nat := match named with
    | some ts =>
        ((ts.zipIdx 0).filter fun (c, _) => c.isNone || c == td.rowidColumn).getLast?.map (·.2)
    | none => td.rowidColumn
  let (source, width, multi) ← match rows with
    | none => pure (InsertSource.defaults, 0, false)
    | some (.query [] (.values [row]) [] [] none none) => do
        let row ← fromExcept (row.mapM (expandIn s ctes))
        let row ← fromExcept (resolved (do
          let r ← row.mapM (resolveExpr s nestFuel [{}] false)
          checkpoint
          pure r))
        let row ← row.mapM (lowerExpr nestFuel)
        pure (InsertSource.values [row], row.length, false)
    | some q => do
        let (ql, names) ← compileQuery s ctes q
        pure (InsertSource.query ql, names.length, true)
  match named with
  | none =>
      if width != 0 && width != td.width then
        throw (.plain ("table " ++ td.name ++ " has " ++ toString td.width ++
          " columns but " ++ toString width ++ " values were supplied"))
  | some ts =>
      if width != ts.length && rows.isSome then
        throw (.plain (toString width ++ " values for " ++ toString ts.length ++ " columns"))
  let targets := match named with
    | some ts => ts
    | none => (List.range td.width).map some
  let related := fk && (!td.foreignKeys.isEmpty || !(s.referencing td.name).isEmpty)
  let multi := multi || (related && mayReplace s td conflict rowidAt.isSome)
  let (children, parents) ← if fk then do
      let cs ← fromExcept (locateChildKeys s td td.checkedKeys)
      let ps ← if multi then fromExcept (locateParentRefs s td (s.referencing td.name))
        else pure []
      pure (cs, ps)
    else pure ([], [])
  return .insert ⟨td, conflict, targets, rowidAt, source, multi, children, parents⟩

def childChanged (t : TableDef) (fk : ForeignKey) (changed : List Nat) (rowidChanged : Bool) :
    Bool :=
  sameName fk.parent t.name ||
    fk.columns.any fun c => changed.contains c || (t.rowidColumn == some c && rowidChanged)

def parentChanged (t : TableDef) (fk : ForeignKey) (changed : List Nat) (rowidChanged : Bool) :
    Bool :=
  let touched (i : Nat) := changed.contains i || (t.rowidColumn == some i && rowidChanged)
  ((List.range t.width).filter touched).any fun i =>
    match fk.parentColumns with
    | [] => ((t.column? i).map (·.primaryKey)).getD false
    | names => names.any (sameName (t.columnName i))

def compileUpdate (s : Schema) (fk : Bool) (ctes : List Cte) (conflict : Option Conflict)
    (t : Target) (sets : List Assignment) (src : Option Source) (filter : Option Expr) :
    CompileM Plan := do
  let td ← fromExcept (targetTable s t)
  let binding := bindCtes ctes
  let srcE ← fromExcept
    (src.mapM (expandSource s (viewCheck s viewDepth) nestFuel binding []))
  let pairs := sets.flatMap fun a =>
    match a.columns with
    | [c] => [(c, a.value)]
    | cs => (cs.zipIdx 0).map fun (c, i) =>
        match a.value with
        | .vector items => (c, items.getD i (.lit .null))
        | v => (c, v)
  let pairs ← fromExcept (pairs.mapM fun (c, e) => do
    return (c, ← expandIn s ctes e))
  let filterE ← fromExcept (filter.mapM (expandIn s ctes))
  let (resolvedSets, filterR, srcR, width) ← fromExcept (resolved (do
    let (srcR, scopes) ← match srcE with
      | some x => do
          let (x', sc) ← resolveSource s nestFuel [] x
          pure (some x', sc)
      | none => pure (none, [])
    let level : Level := ⟨scopeOfTable td (t.aliasName.getD td.name) :: scopes, []⟩
    let setsR ← pairs.mapM fun (c, e) => do
      let e' ← resolveExpr s nestFuel [level] false e
      checkpoint
      let target : Option (Option Nat) := match td.columnIndex? c with
        | some i => some (if td.rowidColumn == some i then none else some i)
        | none => if isRowidName c && !td.withoutRowid then some none else none
      match target with
      | some tg => pure (tg, e')
      | none => throw (.missingName ("no such column: " ++ c) none)
    let filterR ← filterE.mapM (resolveExpr s nestFuel [level] false)
    let srcR ← srcR.mapM (resolveOn s nestFuel [level] level.sources 1)
    checkpoint
    pure (setsR, filterR, srcR, level.sources.length)))
  let colSets := resolvedSets.filterMap fun (tg, e) => tg.map (·, e)
  let colSets := (colSets.reverse.foldl (fun acc (c, e) =>
    if acc.any (·.1 == c) then acc else (c, e) :: acc) [])
  let rowidSet := ((resolvedSets.filter (·.1.isNone)).getLast?).map (·.2)
  let colSets ← colSets.mapM fun (c, e) => do return (c, ← lowerExpr nestFuel e)
  let rowidSet ← rowidSet.mapM (lowerExpr nestFuel)
  let filterL ← filterR.mapM (lowerExpr nestFuel)
  let srcL ← srcR.mapM (lowerSource nestFuel)
  let changed := colSets.map (·.1)
  let rowidChanged := rowidSet.isSome
  let (children, parents) ← if fk then do
      let cs ← fromExcept (locateChildKeys s td
        (td.checkedKeys.filter fun k => childChanged td k changed rowidChanged))
      let ps ← fromExcept (locateParentRefs s td
        ((s.referencing td.name).filter fun (_, k) => parentChanged td k changed rowidChanged))
      pure (cs, ps)
    else pure ([], [])
  return .update ⟨td, conflict, colSets, rowidSet, srcL, width, filterL, children, parents⟩

def compileDelete (s : Schema) (fk : Bool) (ctes : List Cte) (t : Target) (filter : Option Expr) :
    CompileM Plan := do
  let td ← fromExcept (targetTable s t)
  let filterE ← fromExcept (filter.mapM (expandIn s ctes))
  let level : Level := ⟨[scopeOfTable td (t.aliasName.getD td.name)], []⟩
  let filterR ← fromExcept (resolved (filterE.mapM (resolveExpr s nestFuel [level] false)))
  let filterL ← filterR.mapM (lowerExpr nestFuel)
  let (children, parents) ← if fk then do
      let cs ← fromExcept (locateChildKeys s td td.checkedKeys)
      let ps ← fromExcept (locateParentRefs s td (s.referencing td.name))
      pure (cs, ps)
    else pure ([], [])
  return .delete ⟨td, filterL, children, parents⟩

/-- Compiles a query or a change of rows; other statements compile to themselves. -/
def compilePlan (s : Schema) (fk : Bool) : List Cte → Statement → CompileM Plan
  | ctes, .select q => do
      let (ql, names) ← compileQuery s ctes q
      return .query ql names
  | ctes, .insert conflict t columns rows _ _ => compileInsert s fk ctes conflict t columns rows
  | ctes, .update conflict t sets src filter _ => compileUpdate s fk ctes conflict t sets src filter
  | ctes, .delete t filter _ => compileDelete s fk ctes t filter
  | ctes, .withCtes more st =>
      match st with
      | .insert conflict t columns rows _ _ =>
          compileInsert s fk (ctes ++ more) conflict t columns rows
      | .update conflict t sets src filter _ =>
          compileUpdate s fk (ctes ++ more) conflict t sets src filter
      | .delete t filter _ => compileDelete s fk (ctes ++ more) t filter
      | st => pure (.command st)
  | _, st => pure (.command st)

def compile (s : Schema) (fk : Bool) (st : Statement) : Except SqlError (Plan × Nat) := do
  let (p, params) ← (compilePlan s fk [] st).run {}
  return (p, params.count)

end Sql
end Store
end MemoryRecorder
