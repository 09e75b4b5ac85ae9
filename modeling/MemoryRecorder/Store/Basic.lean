import MemoryRecorder.Process.Watcher
import MemoryRecorder.System.MemInfo
import MemoryRecorder.Store.Sql.Connection
/-!
# The measurement store

The store is a database of five tables. `process` and `memory_range` are dimension rows keyed by
a content hash and written at most once; `measurement`, `data` and `system_memory` are facts
appended per sample. Every column is declared a signed 64-bit integer but the names and
permissions, so an unsigned value is kept under the same bits and compares as a signed one.

A handle of the store is a connection open on the database, together with a cache of the ranges
of processes it has read. The handle runs the statement texts of the store through its
connection; other connections may change the database between its calls, and the handle notices
that as the engine does.

The store is written against any engine (`Engine`): what it asks of one is to run statement
texts, to keep statements prepared, and to say whether a transaction is open. The engine of this
library (`Sql.Link`, a connection with its database) is one such engine.

The engine's failures keep the engine's words (`SqlFault`): the message, and the result code
whose standard text the report's causes end with. Reading a value back can fail too, when it is
not of the kind the reader takes. A failure of the store as a whole is a `StoreError`.
-/

namespace MemoryRecorder

namespace Store

/-- A failure as the engine or the reading of its values reports it. -/
inductive SqlFault where
  | engine (message : String) (code : Nat)
  | input (message : String) (code : Nat) (sql : String) (offset : Nat)
  | timeOutOfRange (index : Nat) (ms : Int)
  | intOutOfRange (index : Nat) (v : Int)
  | invalidType (index : Nat) (column : String) (kind : String)
  | returnedResults
  deriving DecidableEq, Repr

namespace SqlFault

def ofDb : Sql.DbError → SqlFault
  | .input e sql offset => input e.message e.code sql offset
  | .failure e => engine e.message e.code

def cannotOpen (path : String) : SqlFault :=
  engine ("unable to open database file: " ++ path) 14

def notADatabase : SqlFault :=
  engine "file is not a database" 26

def message : SqlFault → String
  | engine m _ => m
  | input m _ sql offset => m ++ " in " ++ sql ++ " at offset " ++ toString offset
  | timeOutOfRange i ms =>
      "Conversion error from type Integer at index: " ++ toString i ++ ", timestamp " ++
        toString ms ++ " out of range"
  | intOutOfRange i v => "Integer " ++ toString v ++ " out of range at index " ++ toString i
  | invalidType i c k => "Invalid column type " ++ k ++ " at index: " ++ toString i ++ ", name: " ++ c
  | returnedResults => "Execute returned results - did you mean to call query?"

/-- What caused the failure, below its report: the engine's result code and its standard text,
or the reason a value could not be read. -/
def causes : SqlFault → List String
  | engine _ code | input _ code _ _ =>
      ["Error code " ++ toString code ++ ": " ++ Sql.resultText code]
  | timeOutOfRange _ ms => ["timestamp " ++ toString ms ++ " out of range"]
  | _ => []

end SqlFault

end Store

/-- A failure of the store. -/
inductive StoreError where
  | sqlite (f : Store.SqlFault)
  | schema (reason : String)
  | notFound (what : String)
  | overflow (site : OverflowSite)
  deriving DecidableEq, Repr

namespace StoreError

def message : StoreError → String
  | sqlite f => "SQLite error: " ++ f.message
  | schema r => "Schema error: " ++ r
  | notFound w => "Not found: " ++ w
  | overflow site => site.overflow.message

def causes : StoreError → List String
  | sqlite f => f.message :: f.causes
  | _ => []

end StoreError

namespace Store

/-- What the store asks of the database engine under it: to run a batch of statements, to run
the first statement of a text with parameters, to keep the statement of a text prepared and run
it, the row id of the last insert, whether a transaction is open, a connection to a new database,
and a connection opened again on the database of another. -/
class Engine (σ : Type) where
  runBatch : String → σ → σ × Except Sql.DbError Unit
  runText : String → List Value → σ → σ × Except Sql.DbError (List String × List (Array Value))
  prepareCached : String → σ → σ × Except Sql.DbError Unit
  stepCached : String → List Value → σ → σ × Except Sql.DbError (List String × List (Array Value))
  lastRowid : σ → Int64
  inTransaction : σ → Bool
  fresh : σ
  reopen : σ → σ

namespace Sql

abbrev Link := Connection × Database

def Link.run {α : Type} (m : ConnM α) (s : Link) : Link × Except DbError α :=
  let (r, s') := (m.run).run s
  (s', r)

/-- Closing a connection rolls back its open transaction; opening the database again gives a
connection with nothing prepared and foreign keys off. -/
def Link.reopen (s : Link) : Link :=
  (({} : Connection), (Link.run close s).1.2)

end Sql

instance : Engine Sql.Link where
  runBatch sql := Sql.Link.run (Sql.runBatch sql)
  runText sql params := Sql.Link.run (Sql.runText sql params)
  prepareCached sql := Sql.Link.run (Sql.prepareCached sql)
  stepCached sql params := Sql.Link.run (Sql.stepCached sql params)
  lastRowid s := s.1.session.lastRowid
  inTransaction s := s.1.txn.isSome
  fresh := ({}, {})
  reopen := Sql.Link.reopen

structure CachedRanges where
  process : Int64
  ranges : List (Int64 × RangeKey)

/-- A handle of an open store: its connection, and the ranges it has cached per process. -/
structure Handle (σ : Type) where
  conn : σ
  cache : List CachedRanges := []

/-- Working through a handle. A failure keeps the handle as it left it. -/
abbrev StoreOn (σ : Type) := ExceptT StoreError (StateM (Handle σ))

abbrev Storage := Handle Sql.Link

abbrev StoreM := StoreOn Sql.Link

def Handle.db (h : Storage) : Sql.Database :=
  h.conn.2

section

variable {σ : Type} [Engine σ]

def Handle.exec {α : Type} (s : Handle σ) (m : StoreOn σ α) : Handle σ × Except StoreError α :=
  let (r, s') := (m.run).run s
  (s', r)

def onEngine {α : Type} (f : σ → σ × Except Sql.DbError α) : StoreOn σ α := do
  let s ← get
  let (c, r) := f s.conn
  set { s with conn := c }
  match r with
  | .ok a => pure a
  | .error e => throw (.sqlite (.ofDb e))

/-- Prepares a text and runs it for its changes: a statement that gives a row fails. -/
def execute (sql : String) (params : List Value) : StoreOn σ Unit := do
  let (_, rows) ← onEngine (Engine.runText sql params)
  if !rows.isEmpty then throw (.sqlite .returnedResults)

/-- Runs the handle's cached statement of a text for its changes, preparing it first when the
cache lacks it. -/
def executeCached (sql : String) (params : List Value) : StoreOn σ Unit := do
  onEngine (Engine.prepareCached sql)
  let (_, rows) ← onEngine (Engine.stepCached sql params)
  if !rows.isEmpty then throw (.sqlite .returnedResults)

def query (sql : String) (params : List Value) :
    StoreOn σ (List String × List (Array Value)) :=
  onEngine (Engine.runText sql params)

def queryCached (sql : String) (params : List Value) :
    StoreOn σ (List String × List (Array Value)) := do
  onEngine (Engine.prepareCached sql)
  onEngine (Engine.stepCached sql params)

def executeBatch (sql : String) : StoreOn σ Unit :=
  onEngine (Engine.runBatch sql)

def lastInsertRowid : StoreOn σ Int64 := do
  return Engine.lastRowid (← get).conn

end

def word (n : UInt64) : Value :=
  .int n.toInt64

def small (n : Int32) : Value :=
  .int n.toInt64

/-- A column of a row read as a signed 64-bit integer; any other kind of value is a type error
naming the column's place and its name. -/
def readInt (names : List String) (row : Array Value) (i : Nat) : Except StoreError Int64 :=
  match row[i]?.getD .null with
  | .int v => .ok v
  | v => .error (.sqlite (.invalidType i (names.getD i "") v.typeName))

def readWord (names : List String) (row : Array Value) (i : Nat) : Except StoreError UInt64 :=
  (readInt names row i).map Int64.toUInt64

def readI32 (names : List String) (row : Array Value) (i : Nat) : Except StoreError Int32 := do
  let v ← readInt names row i
  if -Int.pow 2 31 ≤ v.toInt ∧ v.toInt < Int.pow 2 31 then .ok (Int32.ofInt v.toInt)
  else .error (.sqlite (.intOutOfRange i v.toInt))

def readTime (names : List String) (row : Array Value) (i : Nat) : Except StoreError Millis := do
  let v ← readInt names row i
  if Millis.inRange v then .ok v else .error (.sqlite (.timeOutOfRange i v.toInt))

def readText (names : List String) (row : Array Value) (i : Nat) : Except StoreError String :=
  match row[i]?.getD .null with
  | .text s => .ok s
  | v => .error (.sqlite (.invalidType i (names.getD i "") v.typeName))

def liftRead {σ α : Type} (x : Except StoreError α) : StoreOn σ α :=
  match x with
  | .ok a => pure a
  | .error e => throw e

end Store

end MemoryRecorder
