import MemoryRecorder.Store.Sql.Compile
/-!
# Changing rows

INSERT, UPDATE and DELETE change a table row by row, in the engine's order.

For each new row, the constraints are checked first: NOT NULL on the columns written, then the
CHECK constraints that read them, then the row id when it is given or changed, then the UNIQUE
indexes (those whose rule is REPLACE last). The rule in force is the statement's OR clause, else
the constraint's own, else ABORT. ABORT fails the statement and undoes it, FAIL keeps what it did
before, ROLLBACK ends the transaction, IGNORE skips the row and REPLACE deletes the rows in the
way (or puts a NOT NULL column's default in).

Foreign keys are counted, not checked row by row. A row leaving a table whose key found no
parent takes one off the counter (unless it is zero), and a parent row leaving counts each child
left pointing at it; a row entering counts itself when it finds no parent, and a parent row
entering takes off each child it adopts (unless the counter is zero). A statement that ends with
the immediate counter above zero fails with `FOREIGN KEY constraint failed` and is undone. An
INSERT of a single row fails at once when its own key finds no parent.

An AUTOINCREMENT table takes its next row id past both its greatest row id and the greatest it
ever handed out, which `sqlite_sequence` keeps; the statement writes that back when it grew.
-/

namespace MemoryRecorder
namespace Store
namespace Sql

/-- A value as a row id: an integer, or a double or text that stands exactly for one. -/
def mustBeInt (v : Value) : Option Int64 :=
  match v with
  | .null => none
  | _ =>
      match v.withAffinity .numeric with
      | .int k => some k
      | _ => none

/-- What becomes of a failed statement's changes: undone, kept, or rolled back with the whole
transaction. -/
inductive Undo where
  | statement
  | keep
  | transaction
  deriving DecidableEq

structure Failure where
  error : SqlError
  undo : Undo
  db : Database

/-- A change of rows in progress: the database, the immediate and deferred foreign key
counters, the rows changed and the last row id inserted. -/
structure Work where
  db : Database
  immediate : Int := 0
  deferred : Int := 0
  changes : Nat := 0
  lastRowid : Option Int64 := none

abbrev ChangeM := StateT Work (Except Failure)

/-- What a change of rows reads besides the database: bound parameters, the session, and
whether foreign keys are enforced. -/
structure Env' where
  params : List (String × Value) := []
  session : Session := {}
  fk : Bool := true

def failWith {α : Type} (e : SqlError) (u : Undo) : ChangeM α := do
  let w ← get
  throw ⟨e, u, w.db⟩

def liftEval {α : Type} (x : Except SqlError α) : ChangeM α :=
  match x with
  | .ok a => pure a
  | .error e => failWith e .statement

def evalCtx (en : Env') : ChangeM Ctx := do
  let w ← get
  return { db := w.db, params := en.params, session := en.session }

def rowValue (t : TableDef) (rowid : Int64) (vals : Array Value) (i : Nat) : Value :=
  if t.rowidColumn == some i then .int rowid else vals[i]?.getD .null

def currentRows (t : TableDef) : ChangeM (List Row) := do
  return (← get).db.rowsOf t

def setTableRows (t : TableDef) (rows : List Row) : ChangeM Unit :=
  modify fun w => { w with db := w.db.setRows t.root rows }

def countFk (deferred : Bool) (n : Int) : ChangeM Unit :=
  modify fun w =>
    if deferred then { w with deferred := w.deferred + n } else { w with immediate := w.immediate + n }

def counterZero (deferred : Bool) : ChangeM Bool := do
  let w ← get
  return (if deferred then w.deferred else w.immediate) == 0

def fkFailure : SqlError :=
  { message := "FOREIGN KEY constraint failed", code := 787 }

def childValues (t : TableDef) (fk : ForeignKey) (rowid : Int64) (vals : Array Value) :
    List Value :=
  fk.columns.map (rowValue t rowid vals)

def parentFound (db : Database) (p : TableDef) (key : ParentKey) (vals : List Value) : Bool :=
  match key with
  | .rowid =>
      match mustBeInt (vals.headD .null) with
      | some k => (db.rowsOf p).any (·.rowid == k)
      | none => false
  | .columns cols =>
      (db.rowsOf p).any fun r =>
        (cols.zip vals).all fun ((c, coll, aff), v) =>
          let pv := rowValue p r.rowid r.vals c
          pv != .null && compareWith coll pv (v.withAffinity aff) == .eq

def selfMatch (t : TableDef) (key : ParentKey) (rowid : Int64) (vals : Array Value)
    (cv : List Value) : Bool :=
  match key with
  | .rowid => mustBeInt (cv.headD .null) == some rowid
  | .columns cols =>
      (cols.zip cv).all fun ((c, coll, aff), v) =>
        compareWith coll (rowValue t rowid vals c) (v.withAffinity aff) == .eq

/-- Counts a row of a table entering (`incr` one) or leaving (minus one) against the parents
of its foreign keys. With `halt`, a row entering that finds no parent for an immediate key fails
the statement at once. -/
def childSide (t : TableDef) (keys : List ChildKey) (rowid : Int64) (vals : Array Value)
    (incr : Int) (halt : Bool) : ChangeM Unit := do
  for ck in keys do
    let fk := ck.fk
    if incr < 0 && (← counterZero fk.deferred) then continue
    let cv := childValues t fk rowid vals
    if cv.any (· == .null) then continue
    match ck.parent with
    | some (p, key) =>
        let db := (← get).db
        let p := (db.schema.table? p.name).getD p
        let own := incr > 0 && sameName p.name t.name && selfMatch t key rowid vals cv
        if own || parentFound db p key cv then continue
        if incr > 0 && halt && !fk.deferred then failWith fkFailure .statement
        countFk fk.deferred incr
    | none => pure ()

def childrenOf (db : Database) (t : TableDef) (r : ParentRef) (rowid : Int64) (vals : Array Value)
    (skip : Option Int64) : Nat :=
  let child := (db.schema.table? r.child.name).getD r.child
  let pv : List (Value × Option Affinity × Option Collation) := match r.key with
    | .rowid => [(.int rowid, some .integer, none)]
    | .columns cols => cols.map fun (c, coll, aff) => (rowValue t rowid vals c, some aff, some coll)
  let rows := db.rowsOf child
  (rows.filter fun row =>
    (skip.map (· != row.rowid)).getD true &&
      (r.fk.columns.zip pv).all fun (cc, (v, aff, coll)) =>
        let cvv := rowValue child row.rowid row.vals cc
        let caff : Option Affinity :=
          if child.rowidColumn == some cc then some .integer else some (child.affinityAt cc)
        let collation := coll.getD (((child.column? cc).map (·.collation)).getD .binary)
        compareValues .eq (comparisonAffinity aff caff) collation v cvv == .int 1).length

/-- Counts a row of a parent table leaving (`incr` one: each child pointing at it counts) or
entering (minus one: each child it adopts is taken off, unless the counter is zero). -/
def parentSide (t : TableDef) (refs : List ParentRef) (rowid : Int64) (vals : Array Value)
    (incr : Int) : ChangeM Unit := do
  for r in refs do
    if incr < 0 && (← counterZero r.fk.deferred) then continue
    let db := (← get).db
    let skip := if sameName r.child.name t.name && incr > 0 then some rowid else none
    let n := childrenOf db t r rowid vals skip
    countFk r.fk.deferred (incr * (n : Int))

/-- The foreign keys a deleted row of a table is counted against, when enforced; keys whose
parent cannot be found are passed over. -/
def deleteKeys (en : Env') (t : TableDef) : ChangeM (List ChildKey × List ParentRef) := do
  if !en.fk then return ([], [])
  let s := (← get).db.schema
  let children := t.checkedKeys.filterMap fun fk =>
    match s.table? fk.parent with
    | some p => (locateParentKey s p fk).map fun k => ⟨fk, some (p, k)⟩
    | none => none
  let parents := (s.referencing t.name).filterMap fun (c, fk) =>
    (locateParentKey s t fk).map fun k => ⟨c, fk, k⟩
  return (children, parents)

def deleteRow (t : TableDef) (children : List ChildKey) (parents : List ParentRef) (row : Row) :
    ChangeM Unit := do
  childSide t children row.rowid row.vals (-1) false
  parentSide t parents row.rowid row.vals 1
  let rows ← currentRows t
  setTableRows t (rows.filter (·.rowid != row.rowid))

def undoOf : Conflict → Undo
  | .fail => .keep
  | .rollback => .transaction
  | _ => .statement

def uniqueMessage (t : TableDef) (ix : IndexDef) : String :=
  "UNIQUE constraint failed: " ++
    ", ".intercalate (ix.keys.map fun k => t.name ++ "." ++ t.columnName k.column)

def checkExpr (s : Schema) (t : TableDef) (e : Expr) : Option Expr :=
  let level : Level := ⟨[scopeOfTable t t.name], []⟩
  match resolved (resolveExpr s nestFuel [level] false e) with
  | .ok r =>
      match (lowerExpr nestFuel r).run {} with
      | .ok (l, _) => some l
      | .error _ => none
  | .error _ => none

def Expr.fieldsRead : Nat → Expr → List Field
  | 0, _ => []
  | fuel + 1, e =>
      let go := Expr.fieldsRead fuel
      match e with
      | .column r => if r.depth == 0 then [r.field] else []
      | .unary _ a | .isNull a _ | .cast a _ | .collate a _ _ | .inQuery a _ _ => go a
      | .binary _ a b | .compare _ a b => go a ++ go b
      | .pattern _ _ a b esc _ _ => go a ++ go b ++ ((esc.map go).getD [])
      | .between a lo hi _ => go a ++ go lo ++ go hi
      | .inList a items _ => go a ++ items.flatMap go
      | .caseOf op arms other =>
          ((op.map go).getD []) ++ arms.flatMap (fun (c, v) => go c ++ go v) ++
            ((other.map go).getD [])
      | .call _ _ _ args _ => args.flatMap go
      | .vector items => items.flatMap go
      | _ => []

def defaultOf (en : Env') (t : TableDef) (i : Nat) : ChangeM Value := do
  match (t.column? i).bind (·.defaultValue) with
  | some e =>
      match (lowerExpr nestFuel e).run {} with
      | .ok (l, _) =>
          let cx ← evalCtx en
          let v ← liftEval (evalExpr cx nestFuel [] none l)
          return v.withAffinity (t.affinityAt i)
      | .error err => failWith err .statement
  | none => return .null

def notNullFailure (t : TableDef) (c : Column) : SqlError :=
  { message := "NOT NULL constraint failed: " ++ t.name ++ "." ++ c.name, code := 1299 }

/-- Checks a row about to be written against its table's constraints and settles conflicts.
`old` is the row id of the row an UPDATE replaces, `changed` the columns it sets (none for an
INSERT, which writes all) and `rowidGiven` whether the row id was given or set. Gives the
values to write, or none when the row is skipped. -/
def checkRow (en : Env') (t : TableDef) (conflict : Option Conflict) (rowid : Int64)
    (vals : Array Value) (old : Option Int64) (changed : Option (List Nat)) (rowidGiven : Bool) :
    ChangeM (Option (Array Value)) := do
  let writes (i : Nat) : Bool := match changed with
    | some cs => cs.contains i
    | none => true
  -- NOT NULL
  let mut vals := vals
  for (c, i) in t.columns.zipIdx 0 do
    if t.rowidColumn == some i || !c.notNull || !writes i then continue
    if vals[i]?.getD .null != .null then continue
    let rule := conflict.getD (c.notNullConflict.getD .abort)
    let rule := if rule == .replace && c.defaultValue.isNone then .abort else rule
    match rule with
    | .ignore => return none
    | .replace =>
        let d ← defaultOf en t i
        if d == .null then failWith (notNullFailure t c) .statement
        vals := vals.set! i d
    | r => failWith (notNullFailure t c) (undoOf r)
  -- CHECK
  let s := (← get).db.schema
  for (name, e) in t.checks do
    match checkExpr s t e with
    | some ce =>
        let reads := Expr.fieldsRead nestFuel ce
        let relevant := match changed with
          | none => true
          | some cs => reads.any fun f =>
              match f with
              | .col i => cs.contains i
              | .rowid => rowidGiven
        if !relevant then continue
        let cx ← evalCtx en
        let v ← liftEval (evalExpr cx nestFuel [#[some (rowid, vals)]] none ce)
        if v == .null || v.truth? == some true then continue
        let rule := conflict.getD .abort
        match rule with
        | .ignore => return none
        | r =>
            let r := if r == .replace then .abort else r
            failWith { message := "CHECK constraint failed: " ++ name, code := 275 } (undoOf r)
    | none => pure ()
  -- row id
  if rowidGiven && old != some rowid then
    let rows ← currentRows t
    match rows.find? (·.rowid == rowid) with
    | some clash =>
        let rule := conflict.getD (t.keyConflict.getD .abort)
        match rule with
        | .ignore => return none
        | .replace =>
            let (cs, ps) ← deleteKeys en t
            deleteRow t cs ps clash
        | r =>
            let (msg, code) := match t.rowidColumn with
              | some i => (t.name ++ "." ++ t.columnName i, 1555)
              | none => (t.name ++ ".rowid", 2579)
            failWith { message := "UNIQUE constraint failed: " ++ msg, code := code } (undoOf r)
    | none => pure ()
  -- UNIQUE indexes
  let s := (← get).db.schema
  for ix in s.indexesOf t.name do
    if !ix.unique then continue
    let touched := match changed with
      | none => true
      | some cs => rowidGiven || ix.keys.any fun k => cs.contains k.column
    if !touched then continue
    let key := ix.keys.map fun k => rowValue t rowid vals k.column
    if key.any (· == .null) then continue
    let rows ← currentRows t
    let clashes := rows.filter fun r =>
      r.rowid != rowid && some r.rowid != old &&
        (ix.keys.zip key).all fun (k, v) =>
          compareWith k.collation (rowValue t r.rowid r.vals k.column) v == .eq
    match clashes with
    | [] => pure ()
    | clash :: _ =>
        let rule := conflict.getD (ix.conflict.getD .abort)
        match rule with
        | .ignore => return none
        | .replace =>
            let (cs, ps) ← deleteKeys en t
            for c in clashes do
              deleteRow t cs ps c
            let _ := clash
        | r =>
            failWith { message := uniqueMessage t ix, code := if ix.primary then 1555 else 2067 }
              (undoOf r)
  return some vals

def putRow (t : TableDef) (row : Row) : ChangeM Unit := do
  let rows ← currentRows t
  setTableRows t (insertRow row (rows.filter (·.rowid != row.rowid)))

/-- The greatest row id a table has handed out, as `sqlite_sequence` records it: the first row
naming the table, with its row id; zero when there is none. -/
def sequenceOf (db : Database) (name : String) : Int64 × Option Int64 :=
  match db.schema.table? "sqlite_sequence" with
  | some sq =>
      match (db.rowsOf sq).find? (fun r => r.vals[0]? == some (.text name)) with
      | some r => ((r.vals[1]?.getD Value.null).intValue, some r.rowid)
      | none => (0, none)
  | none => (0, none)

def writeSequence (name : String) (seq : Int64) (at_ : Option Int64) : ChangeM Unit := do
  let db := (← get).db
  match db.schema.table? "sqlite_sequence" with
  | some sq =>
      let rows := db.rowsOf sq
      let rowid := at_.getD (match rows.getLast? with
        | some r => r.rowid + 1
        | none => 1)
      setTableRows sq (insertRow ⟨rowid, #[.text name, .int seq]⟩ (rows.filter (·.rowid != rowid)))
  | none => pure ()

def finishStatement : ChangeM Unit := do
  if (← get).immediate > 0 then failWith fkFailure .statement

def mismatch : SqlError :=
  { message := "datatype mismatch", code := 20 }

def runInsert (en : Env') (p : InsertPlan) : ChangeM Unit := do
  let t := p.table
  let cx ← evalCtx en
  let supplied : List (List Value) ← match p.source with
    | .defaults => pure [[]]
    | .values rows => rows.mapM fun row => liftEval (row.mapM (evalExpr cx nestFuel [] none))
    | .query q => do
        let rows ← liftEval (runQuery cx nestFuel [] q)
        pure (rows.map (·.toList))
  let (seq0, seqAt) := sequenceOf (← get).db t.name
  let mut seq := seq0
  for row in supplied do
    let given : Option Value := (p.rowidAt.bind fun j => row[j]?).bind fun v =>
      if v == .null then none else some v
    let rowid ← match given with
      | some v =>
          match mustBeInt v with
          | some k => pure k
          | none => failWith mismatch .statement
      | none => do
          let rows ← currentRows t
          let top : Int64 := (rows.getLast?.map (·.rowid)).getD 0
          if t.autoincrement then
            let base := if seq > top then seq else top
            if base == Int64.maxValue then
              failWith { message := "database or disk is full", code := 13 } .statement
            pure (base + 1)
          else
            if top == Int64.maxValue then
              failWith { message := "database or disk is full", code := 13 } .statement
            pure (top + 1)
    if t.autoincrement && rowid > seq then seq := rowid
    let mut vals : Array Value := #[]
    for i in List.range t.width do
      if t.rowidColumn == some i then
        vals := vals.push Value.null
      else
        let pos := (p.targets.zipIdx 0).find? (fun (c, _) => c == some i)
        let v ← match pos with
          | some (_, j) => pure ((row.getD j .null).withAffinity (t.affinityAt i))
          | none => defaultOf en t i
        vals := vals.push v
    match ← checkRow en t p.conflict rowid vals none none given.isSome with
    | none => pure ()
    | some checked =>
        childSide t p.children rowid checked 1 (!p.multi)
        parentSide t p.parents rowid checked (-1)
        putRow t ⟨rowid, checked⟩
        modify fun w => { w with changes := w.changes + 1, lastRowid := some rowid }
  if t.autoincrement && seq > seq0 then writeSequence t.name seq seqAt
  finishStatement

/-- The rows an UPDATE or DELETE visits, in the order the engine reads them, with the frames of
its FROM clause. -/
def chosenRows (en : Env') (t : TableDef) (src : Option Source) (width : Nat)
    (filter : Option Expr) : ChangeM (List Frame) := do
  let cx ← evalCtx en
  let own := (cx.db.rowsOf t).map fun r => frameWith width 0 (some (r.rowid, r.vals))
  let plan := planFor cx.db (.table none t.name none 0) filter [] none none
  let own := orderFrames plan own
  let frames ← match src with
    | some s => do
        let others ← liftEval (sourceFrames cx nestFuel [] width 1 s)
        pure (own.flatMap fun f => others.map (mergeFrames f))
    | none => pure own
  let kept ← liftEval (frames.filterM fun fr =>
    match filter with
    | some c => do
        let v ← evalExpr cx nestFuel [fr] none c
        pure (v.truth? == some true)
    | none => pure true)
  if src.isNone then return kept
  return kept.foldl (fun acc fr =>
    let id := (fr[0]?.getD none).map (·.1)
    if acc.any (fun f => (f[0]?.getD none).map (·.1) == id) then acc else acc ++ [fr]) []

def runUpdate (en : Env') (p : UpdatePlan) : ChangeM Unit := do
  let t := p.table
  let frames ← chosenRows en t p.src p.width p.filter
  let changed := p.sets.map (·.1)
  for fr in frames do
    let some (id, _) := fr[0]?.getD none | continue
    let rows ← currentRows t
    let some cur := rows.find? (·.rowid == id) | continue
    let frame := fr.set! 0 (some (cur.rowid, cur.vals))
    let cx ← evalCtx en
    let newId ← match p.rowidSet with
      | some e => do
          let v ← liftEval (evalExpr cx nestFuel [frame] none e)
          match mustBeInt v with
          | some k => pure k
          | none => failWith mismatch .statement
      | none => pure id
    let mut vals := cur.vals
    for (c, e) in p.sets do
      let v ← liftEval (evalExpr cx nestFuel [frame] none e)
      vals := vals.set! c (v.withAffinity (t.affinityAt c))
    match ← checkRow en t p.conflict newId vals (some id) (some changed) p.rowidSet.isSome with
    | none => pure ()
    | some checked =>
        childSide t p.children cur.rowid cur.vals (-1) false
        parentSide t p.parents cur.rowid cur.vals 1
        let rows ← currentRows t
        setTableRows t (rows.filter (·.rowid != cur.rowid))
        childSide t p.children newId checked 1 false
        parentSide t p.parents newId checked (-1)
        putRow t ⟨newId, checked⟩
        modify fun w => { w with changes := w.changes + 1 }
  finishStatement

def runDelete (en : Env') (p : DeletePlan) : ChangeM Unit := do
  let t := p.table
  let frames ← chosenRows en t none 1 p.filter
  for fr in frames do
    let some (id, _) := fr[0]?.getD none | continue
    let rows ← currentRows t
    let some cur := rows.find? (·.rowid == id) | continue
    deleteRow t p.children p.parents cur
    modify fun w => { w with changes := w.changes + 1 }
  finishStatement

end Sql
end Store
end MemoryRecorder
