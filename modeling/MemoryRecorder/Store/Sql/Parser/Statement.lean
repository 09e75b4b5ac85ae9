import MemoryRecorder.Store.Sql.Parser.Query
/-!
# Reading statements

The statements of the engine's grammar: queries; INSERT (or REPLACE) with VALUES, a query or
DEFAULT VALUES, with ON CONFLICT and RETURNING; UPDATE with SET, FROM, WHERE and RETURNING;
DELETE; CREATE TABLE, INDEX, VIEW and TRIGGER; DROP; ALTER TABLE; the transaction statements
BEGIN, COMMIT (END), ROLLBACK, SAVEPOINT and RELEASE; PRAGMA; and the maintenance statements.

A text is read one statement at a time: `readFirst` skips empty statements, reads one, and says
where the rest of the text begins, just past the semicolon that ends it. A CREATE statement keeps
the text the schema stores for it: `CREATE TABLE`, `CREATE VIEW` or `CREATE [UNIQUE] INDEX`
followed by the statement's text from the object's name to its end.
-/

namespace MemoryRecorder
namespace Store
namespace Sql

def conflictOfToken (t : Token) : Option Conflict :=
  if t.isWord "ROLLBACK" then some .rollback
  else if t.isWord "ABORT" then some .abort
  else if t.isWord "FAIL" then some .fail
  else if t.isWord "IGNORE" then some .ignore
  else if t.isWord "REPLACE" then some .replace
  else none

/-- The column and collation an indexed term names: a term `e COLLATE c` is `e` under `c`. -/
def indexedOf : SortTerm → IndexedColumn
  | .term (.collate e c _) desc _ => ⟨e, some c, desc⟩
  | .term e desc _ => ⟨e, none, desc⟩

def startsTableConstraint (t : Token) : Bool :=
  t.isWord "CONSTRAINT" || t.isWord "PRIMARY" || t.isWord "UNIQUE" || t.isWord "CHECK" ||
    t.isWord "FOREIGN"

/-- A declared type without the words `GENERATED ALWAYS` that a column's type name can take in
when the column is generated. -/
def trimGenerated (ty : String) : String :=
  let cs := ty.toList
  if 16 ≤ cs.length && (String.ofList (cs.drop (cs.length - 6))).toLower == "always" then
    let cs := (cs.take (cs.length - 6)).reverse.dropWhile isTrimSpace |>.reverse
    if 9 ≤ cs.length && (String.ofList (cs.drop (cs.length - 9))).toLower == "generated" then
      String.ofList ((cs.take (cs.length - 9)).reverse.dropWhile isTrimSpace |>.reverse)
    else String.ofList cs
  else ty

section Reader

variable (r : Reading)

def resolveType : Parse Conflict := do
  let t ← peek r
  match conflictOfToken t with
  | some c =>
      let _ ← bump r
      return c
  | none => failAt t

def onConflict : Parse (Option Conflict) := do
  if (← peek r).isWord "ON" then
    let _ ← bump r
    let _ ← expectWord r "CONFLICT"
    return some (← resolveType r)
  else return none

def orConflict : Parse (Option Conflict) := do
  if ← acceptWord r "OR" then return some (← resolveType r) else return none

def ifNotExists : Parse Bool := do
  if ← acceptWord r "IF" then
    let _ ← expectWord r "NOT"
    let _ ← expectWord r "EXISTS"
    return true
  else return false

def ifExists : Parse Bool := do
  if ← acceptWord r "IF" then
    let _ ← expectWord r "EXISTS"
    return true
  else return false

def target : Parse Target := do
  let t ← peek r
  let (schemaName, n, _) ← qualifiedName r
  let aliasName ← if ← acceptWord r "AS" then some <$> name r else pure none
  return ⟨schemaName, n, aliasName, t.start⟩

def indexedOpt : Parse Unit := do
  if ← acceptWord r "INDEXED" then
    let _ ← expectWord r "BY"
    let _ ← name r
  else if (← peek r).isWord "NOT" then
    let _ ← bump r
    let _ ← expectWord r "INDEXED"

def eidList : Nat → Parse (List String)
  | 0 => failHere r
  | fuel + 1 => do
      let n ← name r
      if ← acceptWord r "COLLATE" then
        let _ ← expectToken r Token.isIds
      if !(← acceptWord r "ASC") then
        let _ ← acceptWord r "DESC"
      if ← acceptSymbol r "," then return n :: (← eidList fuel)
      else return [n]

def setList : Nat → Parse (List Assignment)
  | 0 => failHere r
  | fuel + 1 => do
      let cols ← if ← acceptSymbol r "(" then nameListRest r (r.toks.size + 1)
        else do pure [← name r]
      let _ ← expectSymbol r "="
      let e ← expr r fuel
      let a : Assignment := ⟨cols, e⟩
      if ← acceptSymbol r "," then return a :: (← setList fuel)
      else return [a]

def returning (fuel : Nat) : Parse (List ResultColumn) := do
  if ← acceptWord r "RETURNING" then resultColumns r fuel else return []

/-- The ON CONFLICT clauses of an INSERT and its RETURNING columns. -/
def upserts : Nat → Parse (List Upsert × List ResultColumn)
  | 0 => failHere r
  | fuel + 1 => do
      if (← peek r).isWord "ON" then
        let _ ← bump r
        let _ ← expectWord r "CONFLICT"
        let (tgt, tgtFilter) ← if ← acceptSymbol r "(" then do
            let cols ← sortList r fuel
            let _ ← expectSymbol r ")"
            let f ← if ← acceptWord r "WHERE" then some <$> expr r fuel else pure none
            pure (cols.map indexedOf, f)
          else pure ([], none)
        let _ ← expectWord r "DO"
        let action ← if ← acceptWord r "NOTHING" then pure none
          else do
            let _ ← expectWord r "UPDATE"
            let _ ← expectWord r "SET"
            let sets ← setList r fuel
            let f ← if ← acceptWord r "WHERE" then some <$> expr r fuel else pure none
            pure (some (sets, f))
        let u : Upsert := ⟨tgt, tgtFilter, action⟩
        if tgt.isEmpty then return ([u], ← returning r fuel)
        else
          let (more, ret) ← upserts fuel
          return (u :: more, ret)
      else return ([], ← returning r fuel)

def insertStatement (fuel : Nat) : Parse Statement := do
  let conflict ← if ← acceptWord r "REPLACE" then pure (some Conflict.replace)
    else do
      let _ ← expectWord r "INSERT"
      orConflict r
  let _ ← expectWord r "INTO"
  let t ← target r
  let cols ← if (← peek r).isSymbol "(" then some <$> nameList r else pure none
  if ← acceptWord r "DEFAULT" then
    let _ ← expectWord r "VALUES"
    return .insert conflict t cols none [] (← returning r fuel)
  else
    let q ← query r fuel
    let (ups, ret) ← upserts r fuel
    return .insert conflict t cols (some q) ups ret

def updateStatement (fuel : Nat) : Parse Statement := do
  let _ ← expectWord r "UPDATE"
  let conflict ← orConflict r
  let t ← target r
  indexedOpt r
  let _ ← expectWord r "SET"
  let sets ← setList r fuel
  let src ← if ← acceptWord r "FROM" then some <$> fromClause r fuel else pure none
  let filter ← if ← acceptWord r "WHERE" then some <$> expr r fuel else pure none
  return .update conflict t sets src filter (← returning r fuel)

def deleteStatement (fuel : Nat) : Parse Statement := do
  let _ ← expectWord r "DELETE"
  let _ ← expectWord r "FROM"
  let t ← target r
  indexedOpt r
  let filter ← if ← acceptWord r "WHERE" then some <$> expr r fuel else pure none
  return .delete t filter (← returning r fuel)

def referencesClause : Nat → Parse References
  | 0 => failHere r
  | fuel + 1 => do
      let parent ← name r
      let cols ← if (← peek r).isSymbol "(" then do
          let _ ← bump r
          eidList r fuel <* expectSymbol r ")"
        else pure []
      refArgs fuel { parent := parent, parentColumns := cols }
where
  refArgs : Nat → References → Parse References
    | 0, _ => failHere r
    | fuel + 1, ref => do
        if ← acceptWord r "MATCH" then
          let _ ← name r
          refArgs fuel ref
        else if (← peek r).isWord "ON" then
          let _ ← bump r
          let u ← peek r
          let which ← if u.isWord "INSERT" || u.isWord "DELETE" || u.isWord "UPDATE" then bump r
            else failAt u
          let act ← if ← acceptWord r "SET" then
              if ← acceptWord r "NULL" then pure FkAction.setNull
              else do
                let _ ← expectWord r "DEFAULT"
                pure FkAction.setDefault
            else if ← acceptWord r "CASCADE" then pure FkAction.cascade
            else if ← acceptWord r "RESTRICT" then pure FkAction.restrict
            else do
              let _ ← expectWord r "NO"
              let _ ← expectWord r "ACTION"
              pure FkAction.noAction
          if which.isWord "DELETE" then refArgs fuel { ref with onDelete := act }
          else if which.isWord "UPDATE" then refArgs fuel { ref with onUpdate := act }
          else refArgs fuel ref
        else return ref

/-- The rest of a DEFERRABLE clause: whether checks wait for the end of the transaction. -/
def deferRest (negated : Bool) : Parse Bool := do
  if ← acceptWord r "INITIALLY" then
    if ← acceptWord r "DEFERRED" then return !negated
    else
      let _ ← expectWord r "IMMEDIATE"
      return false
  else return false

def deferLast (cs : List (Option String × ColumnConstraint)) (d : Bool) :
    List (Option String × ColumnConstraint) :=
  match cs.reverse with
  | (n, .references ref) :: rest => (rest.reverse) ++ [(n, .references { ref with deferred := d })]
  | _ => cs

/-- The constraints of a column definition. -/
def columnConstraints : Nat → Option String → List (Option String × ColumnConstraint) →
    Parse (List (Option String × ColumnConstraint))
  | 0, _, _ => failHere r
  | fuel + 1, pending, acc => do
      let t ← peek r
      let add (c : ColumnConstraint) : Parse (List (Option String × ColumnConstraint)) :=
        columnConstraints fuel none (acc ++ [(pending, c)])
      if t.isWord "CONSTRAINT" then
        let _ ← bump r
        let n ← name r
        columnConstraints fuel (some n) acc
      else if t.isWord "DEFAULT" then
        let _ ← bump r
        let u ← peek r
        if u.isSymbol "(" then
          let _ ← bump r
          let e ← expr r fuel
          let close ← expectSymbol r ")"
          add (.defaultValue e (r.span u.start close.finish))
        else if u.isSymbol "+" || u.isSymbol "-" then
          let _ ← bump r
          let v ← defaultTerm fuel
          let e := if u.isSymbol "-" then Expr.unary .neg v else v
          add (.defaultValue e (r.span u.start (← previous r).finish))
        else if u.isId && !(timeWords.any u.isWord) then
          let _ ← bump r
          add (.defaultValue (.name u.value false u.start) u.text)
        else
          let v ← defaultTerm fuel
          add (.defaultValue v u.text)
      else if t.isWord "NULL" then
        let _ ← bump r
        let _ ← onConflict r
        add .nullable
      else if t.isWord "NOT" then
        let _ ← bump r
        if ← acceptWord r "NULL" then
          add (.notNull (← onConflict r))
        else
          let _ ← expectWord r "DEFERRABLE"
          let d ← deferRest r true
          columnConstraints fuel none (deferLast acc d)
      else if t.isWord "PRIMARY" then
        let _ ← bump r
        let _ ← expectWord r "KEY"
        let desc ← if ← acceptWord r "DESC" then pure true
          else do
            let _ ← acceptWord r "ASC"
            pure false
        let c ← onConflict r
        let auto ← acceptWord r "AUTOINCREMENT"
        add (.primaryKey desc c auto)
      else if t.isWord "UNIQUE" then
        let _ ← bump r
        add (.unique (← onConflict r))
      else if t.isWord "CHECK" then
        let _ ← bump r
        let open_ ← expectSymbol r "("
        let e ← expr r fuel
        let close ← expectSymbol r ")"
        add (.check e (trimSpaces (r.span open_.finish close.start)))
      else if t.isWord "REFERENCES" then
        let _ ← bump r
        add (.references (← referencesClause r fuel))
      else if t.isWord "DEFERRABLE" then
        let _ ← bump r
        let d ← deferRest r false
        columnConstraints fuel none (deferLast acc d)
      else if t.isWord "COLLATE" then
        let _ ← bump r
        let c ← expectToken r Token.isIds
        add (.collate c.value)
      else if t.isWord "GENERATED" || t.isWord "AS" then
        let _ ← bump r
        if t.isWord "GENERATED" then
          let _ ← expectWord r "ALWAYS"
          let _ ← expectWord r "AS"
        let _ ← expectSymbol r "("
        let e ← expr r fuel
        let _ ← expectSymbol r ")"
        let stored ← if (← peek r).kind == .name then do
            let w ← bump r
            pure (w.text.toUpper == "STORED")
          else pure false
        add (.generated e stored)
      else return acc
where
  defaultTerm (fuel : Nat) : Parse Expr := do
    let t ← peek r
    match t.kind with
    | .integer | .float | .string | .blob | .separated | .keyword "NULL" => primary r fuel
    | .keyword w => if timeWords.contains w then primary r fuel else failAt t
    | _ => failAt t

def columnDef (fuel : Nat) : Parse ColumnDef := do
  let n ← expectToken r Token.isNm
  let ty ← typeName r fuel
  let cs ← columnConstraints r fuel none []
  return ⟨n.value, trimGenerated ty, cs⟩

/-- One table constraint, with the name a CONSTRAINT clause gave it. -/
def tableConstraint : Nat → Option String → Parse TableConstraint
  | 0, _ => failHere r
  | fuel + 1, pending => do
      let t ← peek r
      if t.isWord "CONSTRAINT" then
        let _ ← bump r
        let n ← name r
        tableConstraint fuel (some n)
      else if t.isWord "PRIMARY" then
        let _ ← bump r
        let _ ← expectWord r "KEY"
        let _ ← expectSymbol r "("
        let cols ← sortList r fuel
        let auto ← acceptWord r "AUTOINCREMENT"
        let _ ← expectSymbol r ")"
        return .primaryKey pending (cols.map indexedOf) (← onConflict r) auto
      else if t.isWord "UNIQUE" then
        let _ ← bump r
        let _ ← expectSymbol r "("
        let cols ← sortList r fuel
        let _ ← expectSymbol r ")"
        return .unique pending (cols.map indexedOf) (← onConflict r)
      else if t.isWord "CHECK" then
        let _ ← bump r
        let open_ ← expectSymbol r "("
        let e ← expr r fuel
        let close ← expectSymbol r ")"
        let _ ← onConflict r
        return .check pending e (trimSpaces (r.span open_.finish close.start))
      else if t.isWord "FOREIGN" then
        let _ ← bump r
        let _ ← expectWord r "KEY"
        let _ ← expectSymbol r "("
        let cols ← eidList r fuel
        let _ ← expectSymbol r ")"
        let _ ← expectWord r "REFERENCES"
        let ref ← referencesClause r fuel
        let ref ← if ← acceptWord r "DEFERRABLE" then do
            pure { ref with deferred := ← deferRest r false }
          else if (← peek r).isWord "NOT" && (← peekNext r).isWord "DEFERRABLE" then do
            let _ ← bump r
            let _ ← bump r
            pure { ref with deferred := ← deferRest r true }
          else pure ref
        return .foreignKey pending cols ref
      else failAt t

def tableConstraints : Nat → Parse (List TableConstraint)
  | 0 => failHere r
  | fuel + 1 => do
      let c ← tableConstraint r fuel none
      if ← acceptSymbol r "," then return c :: (← tableConstraints fuel)
      else if startsTableConstraint (← peek r) then return c :: (← tableConstraints fuel)
      else return [c]

def columnDefs : Nat → Parse (List ColumnDef × List TableConstraint)
  | 0 => failHere r
  | fuel + 1 => do
      let c ← columnDef r fuel
      if ← acceptSymbol r "," then
        if startsTableConstraint (← peek r) then return ([c], ← tableConstraints r fuel)
        else
          let (cs, ts) ← columnDefs fuel
          return (c :: cs, ts)
      else return ([c], [])

/-- The options after a table's columns: WITHOUT ROWID and STRICT, separated by commas. -/
def tableOptions : Nat → Parse (Bool × Bool)
  | 0 => failHere r
  | fuel + 1 => do
      let t ← peek r
      let (w, s) ← if t.isWord "WITHOUT" then do
          let _ ← bump r
          let n ← expectToken r Token.isNm
          if n.value.toLower == "rowid" then pure (true, false)
          else throw (.plain ("unknown table option: " ++ n.value))
        else if t.isNm then do
          let _ ← bump r
          if t.value.toLower == "strict" then pure (false, true)
          else throw (.plain ("unknown table option: " ++ t.value))
        else return (false, false)
      if ← acceptSymbol r "," then
        let (w', s') ← tableOptions fuel
        return (w || w', s || s')
      else return (w, s)

/-- A statement in a trigger's body, up to its semicolon. -/
def triggerBody : Nat → Parse Unit
  | 0 => failHere r
  | fuel + 1 => do
      if (← peek r).isWord "END" then
        let _ ← bump r
        return ()
      let t ← peek r
      let _ ← if t.isWord "UPDATE" then updateStatement r fuel
        else if t.isWord "DELETE" then deleteStatement r fuel
        else if t.isWord "INSERT" || t.isWord "REPLACE" then insertStatement r fuel
        else Statement.select <$> query r fuel
      let _ ← expectSymbol r ";"
      triggerBody fuel

/-- A CREATE statement after its word. -/
def createStatement (fuel : Nat) (createTok : Token) : Parse Statement := do
  let temp ← acceptWord r "TEMP" <||> acceptWord r "TEMPORARY"
  let t ← peek r
  if t.isWord "TABLE" then
    let _ ← bump r
    let ine ← ifNotExists r
    let (schemaName, n, nameTok) ← qualifiedName r
    if ← acceptWord r "AS" then
      let q ← query r fuel
      let last ← previous r
      return .createTable temp ine schemaName n nameTok.start (.asQuery q)
        ("CREATE TABLE " ++ r.span nameTok.start last.finish)
    else
      let _ ← expectSymbol r "("
      let (cols, cons) ← columnDefs r fuel
      let _ ← expectSymbol r ")"
      let (withoutRowid, strict) ← if (← peek r).isWord "WITHOUT" || (← peek r).isNm then
          tableOptions r fuel
        else pure (false, false)
      let last ← previous r
      return .createTable temp ine schemaName n nameTok.start
        (.columns cols cons withoutRowid strict) ("CREATE TABLE " ++ r.span nameTok.start last.finish)
  else if t.isWord "VIEW" then
    let _ ← bump r
    let ine ← ifNotExists r
    let (schemaName, n, nameTok) ← qualifiedName r
    let cols ← if (← peek r).isSymbol "(" then do
        let _ ← bump r
        some <$> (eidList r fuel <* expectSymbol r ")")
      else pure none
    let _ ← expectWord r "AS"
    let q ← query r fuel
    let last ← previous r
    return .createView temp ine schemaName n nameTok.start cols q
      ("CREATE VIEW " ++ r.span nameTok.start last.finish)
  else if t.isWord "TRIGGER" then
    let _ ← bump r
    let ine ← ifNotExists r
    let (schemaName, n, nameTok) ← qualifiedName r
    if ← acceptWord r "INSTEAD" then
      let _ ← expectWord r "OF"
    else if !(← acceptWord r "BEFORE") then
      let _ ← acceptWord r "AFTER"
    let ev ← peek r
    if ev.isWord "DELETE" || ev.isWord "INSERT" then
      let _ ← bump r
    else if ev.isWord "UPDATE" then
      let _ ← bump r
      if ← acceptWord r "OF" then
        let _ ← nameListRest r (r.toks.size + 1) <|> pure []
    else failAt ev
    let _ ← expectWord r "ON"
    let (_, table, _) ← qualifiedName r
    if ← acceptWord r "FOR" then
      let _ ← expectWord r "EACH"
      let _ ← expectWord r "ROW"
    if ← acceptWord r "WHEN" then
      let _ ← expr r fuel
    let _ ← expectWord r "BEGIN"
    triggerBody r fuel
    let last ← previous r
    let _ := createTok
    return .createTrigger temp ine schemaName n table
      ("CREATE TRIGGER " ++ r.span nameTok.start last.finish)
  else if !temp && (t.isWord "UNIQUE" || t.isWord "INDEX") then
    let unique ← acceptWord r "UNIQUE"
    let _ ← expectWord r "INDEX"
    let ine ← ifNotExists r
    let (schemaName, n, nameTok) ← qualifiedName r
    let _ ← expectWord r "ON"
    let table ← name r
    let _ ← expectSymbol r "("
    let cols ← sortList r fuel
    let _ ← expectSymbol r ")"
    let filter ← if ← acceptWord r "WHERE" then some <$> expr r fuel else pure none
    let last ← previous r
    return .createIndex unique ine schemaName n nameTok.start table (cols.map indexedOf) filter
      ((if unique then "CREATE UNIQUE INDEX " else "CREATE INDEX ") ++
        r.span nameTok.start last.finish)
  else if !temp && t.isWord "VIRTUAL" then
    let _ ← bump r
    let _ ← expectWord r "TABLE"
    let _ ← ifNotExists r
    let (_, n, _) ← qualifiedName r
    let _ ← expectWord r "USING"
    let m ← expectToken r Token.isNm
    throw (.plain ("no such module: " ++ m.value ++ (if n.isEmpty then "" else "")))
  else failAt t

def dropStatement : Parse Statement := do
  let t ← peek r
  let kind ← if t.isWord "TABLE" then pure ObjectKind.table
    else if t.isWord "VIEW" then pure ObjectKind.view
    else if t.isWord "INDEX" then pure ObjectKind.index
    else if t.isWord "TRIGGER" then pure ObjectKind.trigger
    else failAt t
  let _ ← bump r
  let ie ← ifExists r
  let (schemaName, n, _) ← qualifiedName r
  return .drop kind ie schemaName n

def alterStatement (fuel : Nat) : Parse Statement := do
  let _ ← expectWord r "TABLE"
  let t ← peek r
  let (schemaName, n, _) ← qualifiedName r
  if ← acceptWord r "RENAME" then
    if ← acceptWord r "TO" then
      return .alter schemaName n t.start (.renameTable (← name r))
    else
      let _ ← acceptWord r "COLUMN"
      let old ← name r
      let _ ← expectWord r "TO"
      return .alter schemaName n t.start (.renameColumn old (← name r))
  else if ← acceptWord r "ADD" then
    let _ ← acceptWord r "COLUMN"
    let first ← peek r
    let c ← columnDef r fuel
    let last ← previous r
    return .alter schemaName n t.start (.addColumn c (r.span first.start last.finish))
  else if ← acceptWord r "DROP" then
    let _ ← acceptWord r "COLUMN"
    return .alter schemaName n t.start (.dropColumn (← name r))
  else failHere r

def transactionOpt : Parse Unit := do
  if ← acceptWord r "TRANSACTION" then
    if (← peek r).isNm then
      let _ ← bump r

/-- A PRAGMA's value: a name, a number with its sign, or ON, DELETE or DEFAULT. -/
def pragmaValue : Parse String := do
  let t ← peek r
  if t.isSymbol "-" || t.isSymbol "+" then
    let _ ← bump r
    let n ← expectToken r fun u => u.kind == .integer || u.kind == .float
    return (if t.isSymbol "-" then "-" else "") ++ n.text
  else if t.kind == .integer || t.kind == .float then
    let _ ← bump r
    return t.text
  else if t.isNm || t.isWord "ON" || t.isWord "DELETE" || t.isWord "DEFAULT" then
    let _ ← bump r
    return t.value
  else failAt t

def pragmaStatement : Parse Statement := do
  let (schemaName, n, _) ← qualifiedName r
  if ← acceptSymbol r "=" then
    return .pragma schemaName n (some (← pragmaValue r))
  else if ← acceptSymbol r "(" then
    let v ← pragmaValue r
    let _ ← expectSymbol r ")"
    return .pragma schemaName n (some v)
  else return .pragma schemaName n none

def statement : Nat → Parse Statement
  | 0 => failHere r
  | fuel + 1 => do
      let t ← peek r
      match t.kind with
      | .keyword "EXPLAIN" =>
          let _ ← bump r
          if ← acceptWord r "QUERY" then
            let _ ← expectWord r "PLAN"
          return .explain (← statement fuel)
      | .keyword "SELECT" | .keyword "VALUES" => return .select (← query r fuel)
      | .keyword "WITH" =>
          let _ ← bump r
          let _ ← acceptWord r "RECURSIVE"
          let ctes ← cteList r fuel
          let u ← peek r
          if u.isWord "SELECT" || u.isWord "VALUES" then
            let (first, rest, ob, lim, off) ← compound r fuel
            return .select (.query ctes first rest ob lim off)
          else if u.isWord "INSERT" || u.isWord "REPLACE" then
            return .withCtes ctes (← insertStatement r fuel)
          else if u.isWord "UPDATE" then return .withCtes ctes (← updateStatement r fuel)
          else if u.isWord "DELETE" then return .withCtes ctes (← deleteStatement r fuel)
          else failAt u
      | .keyword "INSERT" | .keyword "REPLACE" => insertStatement r fuel
      | .keyword "UPDATE" => updateStatement r fuel
      | .keyword "DELETE" => deleteStatement r fuel
      | .keyword "CREATE" =>
          let c ← bump r
          createStatement r fuel c
      | .keyword "DROP" =>
          let _ ← bump r
          dropStatement r
      | .keyword "ALTER" =>
          let _ ← bump r
          alterStatement r fuel
      | .keyword "BEGIN" =>
          let _ ← bump r
          let kind ← if ← acceptWord r "DEFERRED" then pure BeginKind.deferred
            else if ← acceptWord r "IMMEDIATE" then pure BeginKind.immediate
            else if ← acceptWord r "EXCLUSIVE" then pure BeginKind.exclusive
            else pure BeginKind.deferred
          transactionOpt r
          return .begin kind
      | .keyword "COMMIT" | .keyword "END" =>
          let _ ← bump r
          transactionOpt r
          return .commit
      | .keyword "ROLLBACK" =>
          let _ ← bump r
          transactionOpt r
          if ← acceptWord r "TO" then
            let _ ← acceptWord r "SAVEPOINT"
            return .rollback (some (← name r))
          else return .rollback none
      | .keyword "SAVEPOINT" =>
          let _ ← bump r
          return .savepoint (← name r)
      | .keyword "RELEASE" =>
          let _ ← bump r
          let _ ← acceptWord r "SAVEPOINT"
          return .release (← name r)
      | .keyword "PRAGMA" =>
          let _ ← bump r
          pragmaStatement r
      | .keyword "VACUUM" =>
          let _ ← bump r
          if (← peek r).isNm then
            let _ ← bump r
          if ← acceptWord r "INTO" then
            let _ ← expr r fuel
          return .vacuum
      | .keyword "ANALYZE" =>
          let _ ← bump r
          if (← peek r).isNm then
            let _ ← qualifiedName r
          return .analyze
      | .keyword "REINDEX" =>
          let _ ← bump r
          if (← peek r).isNm then
            let _ ← qualifiedName r
          return .reindex
      | .keyword "ATTACH" =>
          let _ ← bump r
          let _ ← acceptWord r "DATABASE"
          let file ← expr r fuel
          let _ ← expectWord r "AS"
          let schemaName ← expr r fuel
          if ← acceptWord r "KEY" then
            let _ ← expr r fuel
          return .attach file schemaName
      | .keyword "DETACH" =>
          let _ ← bump r
          let _ ← acceptWord r "DATABASE"
          return .detach (← expr r fuel)
      | _ => failAt t

end Reader

/-- Reads the first statement of a text after any empty ones: the statement, and the byte
offset where the rest of the text begins; none when only spaces, comments and semicolons are
left. -/
def readFirst (text : String) : Except SqlError (Option (Statement × Nat)) :=
  let r := Reading.ofText text
  let fuel := 16 * (r.toks.size + 4)
  let skip : Nat := (r.toks.toList.takeWhile (·.isSymbol ";")).length
  if (r.tokenAt skip).kind == .stop then .ok none
  else
    let reader : Parse (Statement × Nat) := do
      let s ← statement r fuel
      let t ← peek r
      if t.isSymbol ";" then return (s, t.finish)
      else if t.kind == .stop then return (s, r.bytes.size)
      else failAt t
    match reader.run skip with
    | .ok ((s, tail), _) => .ok (some (s, tail))
    | .error e => .error e

end Sql
end Store
end MemoryRecorder
