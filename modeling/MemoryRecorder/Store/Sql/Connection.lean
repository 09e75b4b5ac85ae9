import MemoryRecorder.Store.Sql.Define
/-!
# Connections

A connection runs statements against a database that other connections may change between its
statements. It keeps the schema as it last read it, with the cookie it read it at; whether it
enforces foreign keys; its open transaction with the savepoints inside it; the deferred foreign
key counter of that transaction; and the statements it keeps prepared for reuse.

Preparing reads the first statement of a text and compiles it against the schema the connection
holds, which may be out of date: a name that is missing makes the connection read the schema
again and try once more, when the cookie shows that the schema has changed. A failure there
points at an offset of the text.

Running a statement first checks the cookie: when another connection changed the schema, the
schema is read again and the statement compiled anew, and a failure of that compilation is the
failure of the run, with no offset. A statement compiled before the connection changed the
schema itself, or switched foreign keys on or off, is compiled anew in the same way.

Outside a transaction each statement is a transaction of its own: a failure undoes it, and one
that leaves deferred foreign keys broken fails and is undone. Inside one, a failure undoes the
statement alone, unless its conflict rule says to keep what it did or to roll back the whole
transaction.
-/

namespace MemoryRecorder
namespace Store
namespace Sql

/-- A prepared statement: its text, the statement read from it, its plan, how many parameters
it takes, and the generation of the connection's schema it was compiled in. -/
structure Prepared where
  sql : String
  stmt : Statement
  plan : Plan
  params : Nat
  generation : Nat

structure Savepoint where
  name : String
  db : Database
  deferred : Int

structure Txn where
  start : Database
  savepoints : List Savepoint := []
  bySavepoint : Bool := false

/-- A connection: the schema it holds and the cookie it read it at, the generation of that
schema (moved on by every change that makes prepared statements stale), whether foreign keys are
enforced, the open transaction and its deferred counter, the session figures, and the cache of
prepared statements. -/
structure Connection where
  loaded : Option (Schema × Nat) := none
  generation : Nat := 0
  fk : Bool := false
  txn : Option Txn := none
  deferred : Int := 0
  session : Session := {}
  cache : List Prepared := []

/-- A failure a connection reports: one that points into the text being prepared, or any
other. -/
inductive DbError where
  | input (e : SqlError) (sql : String) (offset : Nat)
  | failure (e : SqlError)

namespace DbError

def error : DbError → SqlError
  | input e _ _ => e
  | failure e => e

def message : DbError → String
  | input e sql offset => e.message ++ " in " ++ sql ++ " at offset " ++ toString offset
  | failure e => e.message

def code (e : DbError) : Nat :=
  e.error.code

end DbError

def codeText : Nat → String
  | 0 => "not an error"
  | 1 => "SQL logic error"
  | 2 => "unknown error"
  | 3 => "access permission denied"
  | 4 => "query aborted"
  | 5 => "database is locked"
  | 6 => "database table is locked"
  | 7 => "out of memory"
  | 8 => "attempt to write a readonly database"
  | 9 => "interrupted"
  | 10 => "disk I/O error"
  | 11 => "database disk image is malformed"
  | 12 => "unknown operation"
  | 13 => "database or disk is full"
  | 14 => "unable to open database file"
  | 15 => "locking protocol"
  | 16 => "unknown error"
  | 17 => "database schema has changed"
  | 18 => "string or blob too big"
  | 19 => "constraint failed"
  | 20 => "datatype mismatch"
  | 21 => "bad parameter or other API misuse"
  | 22 => "large file support is disabled"
  | 23 => "authorization denied"
  | 24 => "unknown error"
  | 25 => "column index out of range"
  | 26 => "file is not a database"
  | 27 => "notification message"
  | 28 => "warning message"
  | _ => "unknown error"

def resultText (code : Nat) : String :=
  codeText (code % 256)

/-- Running statements on a connection and the database it is open on. A failure keeps the
state it leaves. -/
abbrev ConnM := ExceptT DbError (StateM (Connection × Database))

def failConn {α : Type} (e : SqlError) : ConnM α :=
  throw (.failure e)

def conn : ConnM Connection := do
  return (← get).1

def database : ConnM Database := do
  return (← get).2

def setConn (c : Connection) : ConnM Unit :=
  modify fun (_, db) => (c, db)

def setDatabase (db : Database) : ConnM Unit :=
  modify fun (c, _) => (c, db)

def reloadSchema : ConnM Unit := do
  let (c, db) ← get
  setConn { c with loaded := some (db.schema, db.cookie), generation := c.generation + 1 }

def ensureSchema : ConnM Unit := do
  if (← conn).loaded.isNone then reloadSchema

def syncSchema : ConnM Unit := do
  let (c, db) ← get
  match c.loaded with
  | some (_, cookie) => if cookie != db.cookie then reloadSchema
  | none => reloadSchema

def heldSchema : ConnM Schema := do
  return (((← conn).loaded.map (·.1)).getD [])

def checkStatement (s : Schema) (fk : Bool) (st : Statement) : Except SqlError (Plan × Nat) := do
  let (plan, n) ← compile s fk st
  match plan with
  | .command c =>
      let _ ← defineChange s fk c
      pure (plan, n)
  | _ => pure (plan, n)

/-- Compiles a statement against the schema held, reading the schema again and trying once more
when a name is missing and the schema has changed. -/
def compileHeld (st : Statement) : ConnM (Except SqlError (Plan × Nat)) := do
  ensureSchema
  let c ← conn
  match checkStatement (← heldSchema) c.fk st with
  | .ok r => return .ok r
  | .error e =>
      let db ← database
      let stale := match c.loaded with
        | some (_, cookie) => cookie != db.cookie
        | none => true
      if e.missing && stale then
        reloadSchema
        return checkStatement (← heldSchema) (← conn).fk st
      else return .error e

def inputError (e : SqlError) (sql : String) : DbError :=
  match e.offset with
  | some o => .input e sql o
  | none => .failure e

/-- Prepares the first statement of a text: the statement and the byte offset where the rest of
the text begins, or none when the text holds no statement. -/
def prepare (sql : String) : ConnM (Option (Prepared × Nat)) := do
  ensureSchema
  match readFirst sql with
  | .error e => throw (inputError e sql)
  | .ok none => return none
  | .ok (some (st, tail)) =>
      match ← compileHeld st with
      | .error e => throw (inputError e sql)
      | .ok (plan, n) =>
          let text := (String.fromUTF8? (sql.toUTF8.extract 0 tail)).getD sql
          return some (⟨text, st, plan, n, (← conn).generation⟩, tail)

def Statement.readsDatabase : Statement → Bool
  | .begin _ | .commit | .rollback _ | .savepoint _ | .release _ | .pragma _ _ _ => false
  | _ => true

def refresh (p : Prepared) : ConnM Prepared := do
  if p.stmt.readsDatabase then syncSchema
  let c ← conn
  if p.generation == c.generation then return p
  match checkStatement (← heldSchema) c.fk p.stmt with
  | .ok (plan, n) => return { p with plan := plan, params := n, generation := c.generation }
  | .error e => failConn e

def switchedOn (v : String) : Bool :=
  match v.toList with
  | c :: _ =>
      if c.isDigit then
        (v.toList.takeWhile Char.isDigit).foldl (fun n d => n * 10 + (d.toNat - '0'.toNat)) 0 != 0
      else ["on", "yes", "true"].any (· == v.toLower)
  | [] => false

/-- Runs a PRAGMA: `foreign_keys` switches enforcement outside a transaction and reports it
when given no value; other pragmas do nothing. -/
def runPragma (name : String) (value : Option String) : ConnM (List (Array Value)) := do
  let c ← conn
  if !sameName name "foreign_keys" then return []
  match value with
  | none => return [#[.int (if c.fk then 1 else 0)]]
  | some v =>
      if c.txn.isSome then return []
      let on := switchedOn v
      if on != c.fk then setConn { c with fk := on, generation := c.generation + 1 }
      return []

def restore (db : Database) : ConnM Unit := do
  setDatabase db
  syncSchema

def deferredFailure : SqlError :=
  fkFailure

def runTransaction : Statement → ConnM Unit
  | .begin _ => do
      let (c, db) ← get
      if c.txn.isSome then failConn (.plain "cannot start a transaction within a transaction")
      setConn { c with txn := some { start := db }, deferred := 0 }
  | .commit => do
      let c ← conn
      if c.txn.isNone then failConn (.plain "cannot commit - no transaction is active")
      if c.deferred > 0 then failConn deferredFailure
      setConn { c with txn := none, deferred := 0 }
  | .rollback none => do
      let c ← conn
      match c.txn with
      | none => failConn (.plain "cannot rollback - no transaction is active")
      | some t =>
          setConn { c with txn := none, deferred := 0 }
          restore t.start
  | .rollback (some n) => do
      let c ← conn
      let sps := (c.txn.map (·.savepoints)).getD []
      let i := sps.findIdx (fun sp => sameName sp.name n)
      match sps.drop i, c.txn with
      | sp :: kept, some t =>
          setConn { c with txn := some { t with savepoints := sp :: kept },
                           deferred := sp.deferred }
          restore sp.db
      | _, _ => failConn (.plain ("no such savepoint: " ++ n))
  | .savepoint n => do
      let (c, db) ← get
      let t := c.txn.getD { start := db, bySavepoint := true }
      let sp : Savepoint := ⟨n, db, c.deferred⟩
      setConn { c with txn := some { t with savepoints := sp :: t.savepoints } }
  | .release n => do
      let c ← conn
      let sps := (c.txn.map (·.savepoints)).getD []
      match sps.findIdx? (fun sp => sameName sp.name n), c.txn with
      | some i, some t =>
          let rest := sps.drop (i + 1)
          if rest.isEmpty && t.bySavepoint then
            if c.deferred > 0 then failConn deferredFailure
            setConn { c with txn := none, deferred := 0 }
          else setConn { c with txn := some { t with savepoints := rest } }
      | _, _ => failConn (.plain ("no such savepoint: " ++ n))
  | _ => pure ()

def runPlan (en : Env') : Plan → ChangeM (List (Array Value))
  | .query q _ => do
      let cx ← evalCtx en
      liftEval (runQuery cx nestFuel [] q)
  | .insert p => do
      runInsert en p
      pure []
  | .update p => do
      runUpdate en p
      pure []
  | .delete p => do
      runDelete en p
      pure []
  | .command st => do
      match defineChange (← get).db.schema en.fk st with
      | .ok ch =>
          applyChange en ch
          pure []
      | .error e => failWith e .statement

def Plan.changesRows : Plan → Bool
  | .insert _ | .update _ | .delete _ => true
  | _ => false

/-- Runs a plan as a statement of the connection, undoing it as its failure says. -/
def runChange (params : List (String × Value)) (plan : Plan) : ConnM (List (Array Value)) := do
  let (c, db) ← get
  let en : Env' := { params := params, session := c.session, fk := c.fk }
  let w0 : Work := { db := db, deferred := c.deferred }
  match (runPlan en plan).run w0 with
  | .ok (rows, w) =>
      if c.txn.isNone && w.deferred > 0 then
        failConn deferredFailure
      let ses := if plan.changesRows then
          { c.session with changes := w.changes, totalChanges := c.session.totalChanges + w.changes,
                           lastRowid := w.lastRowid.getD c.session.lastRowid }
        else c.session
      setConn { c with deferred := if c.txn.isSome then w.deferred else 0, session := ses }
      setDatabase w.db
      if w.db.cookie != db.cookie then reloadSchema
      return rows
  | .error f =>
      match f.undo, c.txn with
      | .keep, _ => restore f.db
      | .transaction, some t =>
          setConn { c with txn := none, deferred := 0 }
          restore t.start
      | _, _ => pure ()
      failConn f.error

def bindPositional (vals : List Value) : List (String × Value) :=
  (vals.zipIdx 1).map fun (v, i) => ("?" ++ toString i, v)

def execPlan (plan : Plan) (params : List Value) : ConnM (List (Array Value)) :=
  match plan with
  | .command (.pragma _ name value) => runPragma name value
  | .command (.begin k) => do runTransaction (.begin k); pure []
  | .command .commit => do runTransaction .commit; pure []
  | .command (.rollback sp) => do runTransaction (.rollback sp); pure []
  | .command (.savepoint n) => do runTransaction (.savepoint n); pure []
  | .command (.release n) => do runTransaction (.release n); pure []
  | .command .vacuum => do
      if (← conn).txn.isSome then
        failConn { message := "cannot VACUUM from within a transaction", code := 1 }
      setDatabase (← get).2.vacuumed
      reloadSchema
      pure []
  | .command .analyze | .command .reindex => pure []
  | .command (.explain _) | .command (.attach _ _) | .command (.detach _) => pure []
  | plan => runChange (bindPositional params) plan

/-- Runs a prepared statement to its end with its parameters, compiling it anew first if it is
stale: the statement as it stands afterwards, and the rows it gave. -/
def step (p : Prepared) (params : List Value) : ConnM (Prepared × List (Array Value)) := do
  let p ← refresh p
  let rows ← execPlan p.plan params
  return (p, rows)

def Prepared.columnNames (p : Prepared) : List String :=
  match p.plan with
  | .query _ names => names
  | _ => []

/-- Makes sure the cache holds a statement of a text, preparing it when it does not; a text
that fails to prepare is not cached. -/
def prepareCached (sql : String) : ConnM Unit := do
  if (← conn).cache.any (·.sql == sql) then return
  match ← prepare sql with
  | some (p, _) =>
      let c ← conn
      setConn { c with cache := { p with sql := sql } :: c.cache }
  | none => pure ()

def putCached (p : Prepared) : ConnM Unit := do
  let c ← conn
  setConn { c with cache := c.cache.map fun q => if q.sql == p.sql then p else q }

/-- Runs the cached statement of a text with parameters: its column names and its rows. The
statement stays cached, compiled anew if it was stale, whether the run succeeds or not; a
statement whose new compilation fails stays stale. -/
def stepCached (sql : String) (params : List Value) : ConnM (List String × List (Array Value)) := do
  match (← conn).cache.find? (·.sql == sql) with
  | none => return ([], [])
  | some p =>
      let p ← refresh p
      putCached p
      let rows ← execPlan p.plan params
      return (p.columnNames, rows)

def runText (sql : String) (params : List Value) : ConnM (List String × List (Array Value)) := do
  match ← prepare sql with
  | none => return ([], [])
  | some (p, _) =>
      let (p', rows) ← step p params
      return (p'.columnNames, rows)

def batchLimit : Nat := 100000

/-- Runs every statement of a text in turn, each prepared when the one before has run; the
first failure stops the batch. -/
def runBatch (sql : String) : ConnM Unit := do
  let mut rest := sql
  for _ in List.range batchLimit do
    if rest.isEmpty then break
    match ← prepare rest with
    | none => break
    | some (p, tail) =>
        let _ ← step p []
        if tail == 0 || tail ≥ rest.utf8ByteSize then break
        rest := (String.fromUTF8? (rest.toUTF8.extract tail rest.utf8ByteSize)).getD ""

def close : ConnM Unit := do
  let c ← conn
  match c.txn with
  | some t =>
      setConn { c with txn := none, deferred := 0 }
      setDatabase t.start
  | none => pure ()

/-- Runs a text of statements on a fresh connection with foreign keys enforced, and closes it:
the database afterwards, and the first failure. -/
def runOnFreshConnection (db : Database) (sql : String) : Database × Except DbError Unit :=
  let m : ConnM Unit := do
    let r ← tryCatch (runBatch sql *> pure none) (fun e => pure (some e))
    close
    match r with
    | some e => throw e
    | none => pure ()
  let (r, (_, db')) := (m.run).run ({ fk := true }, db)
  (db', r)

end Sql
end Store
end MemoryRecorder
