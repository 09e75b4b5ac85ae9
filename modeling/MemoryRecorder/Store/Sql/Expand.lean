import MemoryRecorder.Store.Sql.Func
/-!
# Binding the sources of a query

The first pass over a query, before any column name is looked up, binds every FROM item to what
it names and writes out every `*`:

* a name is a common table expression of an enclosing WITH clause, a table, a view, or the
  schema table; otherwise the query fails with `no such table`;
* a view and a common table expression become the query they stand for, their columns renamed
  when the definition lists names;
* `*` becomes a reference to each column of each source, and `t.*` to each column of `t`;
  a column a USING clause (or NATURAL) joined to an earlier source is written once.

Within a query the pass visits the set operations from the last to the first, and in each
simple query the FROM items in order, then the subqueries of its expressions; this is the order
in which the engine reports the first table it cannot find.

`columnNames` names the columns of a query as a source shows them: the alias; else the name of
a column reference; else the text of the expression. `true` and `false` become `columnN`, and a
name already taken gets a suffix `:1`, `:2`, ….
-/

namespace MemoryRecorder
namespace Store
namespace Sql

def ResultColumn.plainName : ResultColumn → Nat → String
  | .expr e aliasName span, i =>
      let base := match aliasName with
        | some a => a
        | none =>
            let rec strip : Expr → Option String
              | .collate e _ _ => strip e
              | .name n _ _ => some n
              | .dotted parts _ => parts.getLast?
              | .column ref => some ref.name
              | _ => none
            (strip e).getD span
      if sameName base "true" || sameName base "false" then "column" ++ toString (i + 1)
      else base
  | .all _, i => "column" ++ toString (i + 1)
  | .allOf _ _, i => "column" ++ toString (i + 1)

/-- Tells apart names that are taken: a later copy of a name gets the suffix `:N` with the least
`N` that makes it new. -/
def distinctNames (names : List String) : List String :=
  let rec base (n : String) : String :=
    let cs := n.toList
    let digits := (cs.reverse.takeWhile Char.isDigit).length
    if 0 < digits && digits < cs.length && cs.getD (cs.length - digits - 1) ' ' == ':' then
      String.ofList (cs.take (cs.length - digits - 1))
    else n
  let rec pick (taken : List String) (b : String) : Nat → Nat → String
    | 0, k => b ++ ":" ++ toString k
    | fuel + 1, k =>
        let cand := b ++ ":" ++ toString k
        if taken.any (sameName cand) then pick taken b fuel (k + 1) else cand
  (names.foldl (fun (acc : List String) n =>
    if acc.any (sameName n) then acc ++ [pick acc (base n) (acc.length + 1) 1]
    else acc ++ [n]) [])

def Core.columnNames : Core → List String
  | .values rows =>
      ((List.range ((rows.headD []).length)).map fun i => "column" ++ toString (i + 1))
  | .select _ cols _ _ _ _ =>
      distinctNames ((cols.zipIdx 0).map fun (c, i) => c.plainName i)

def Query.columnNames : Query → List String
  | .query _ first _ _ _ _ => first.columnNames

def Core.width : Core → Nat
  | .values rows => (rows.headD []).length
  | .select _ cols _ _ _ _ => cols.length

def Query.renamed (q : Query) (names : List String) : Query :=
  match q with
  | .query ctes first rest ob lim off =>
      let first' := match first with
        | .select d cols src f g h =>
            .select d ((cols.zipIdx 0).map fun (c, i) =>
              match c, names[i]? with
              | .expr e _ span, some n => .expr e (some n) span
              | c, _ => c) src f g h
        | .values rows =>
            .select false ((names.zipIdx 0).map fun (n, i) =>
              .expr (.dotted ["", "column" ++ toString (i + 1)] 0) (some n) n)
              (some (.query (.query [] (.values rows) [] [] none none) (some ""))) none [] none
      .query ctes first' rest ob lim off

/-- A common table expression in scope: its name, its column names if given, and its query. -/
structure CteBinding where
  name : String
  columns : Option (List String)
  query : Query

/-- The name a FROM item answers to in a qualified name, and its columns. -/
structure Bound where
  name : String
  columns : List String
  joined : List String := []

def Source.bound (s : Schema) : Source → List Bound
  | .table _ n aliasName _ =>
      let cols := if isMasterName n then masterColumns
        else ((s.table? n).map fun t => t.columns.map (·.name)).getD []
      [⟨aliasName.getD n, cols, []⟩]
  | .query q aliasName => [⟨aliasName.getD "", q.columnNames, []⟩]
  | .join l _ _ r _ _ => Source.bound s l ++ Source.bound s r

def joinedColumns (left right : List Bound) (natural : Bool) (usingCols : List String) :
    List String :=
  if natural then
    (right.flatMap (·.columns)).filter fun c => left.any fun b => b.columns.any (sameName c)
  else usingCols

def Source.boundJoined (s : Schema) : Source → List Bound
  | .join l kind natural r _ usingCols =>
      let left := Source.boundJoined s l
      let right := Source.boundJoined s r
      let joined := joinedColumns left right natural usingCols
      if kind == .right || kind == .full then left ++ right
      else left ++ right.map fun b => { b with joined := b.joined ++ joined }
  | src => Source.bound s src

/-- Checks the USING columns of the joins of a FROM clause: each must be a column of the right
side and of some source to its left. -/
def Source.checkJoins (s : Schema) : Source → Except SqlError Unit
  | .join l _ _ r _ usingCols => do
      Source.checkJoins s l
      Source.checkJoins s r
      let left := Source.bound s l
      let right := Source.bound s r
      for c in usingCols do
        if !(right.any fun b => b.columns.any (sameName c)) ||
            !(left.any fun b => b.columns.any (sameName c)) then
          throw (.plain ("cannot join using column " ++ c ++
            " - column not present in both tables"))
  | _ => pure ()

def expandStars (bound : List Bound) (cols : List ResultColumn) :
    Except SqlError (List ResultColumn) := do
  let many := 1 < bound.length
  let columnsOf (b : Bound) (off : Nat) : List ResultColumn :=
    (b.columns.filter fun c => !b.joined.any (sameName c)).map fun c =>
      .expr (if many then .dotted [b.name, c] off else .name c false off) none c
  let mut out : List ResultColumn := []
  for c in cols do
    match c with
    | .all off =>
        if bound.isEmpty then throw (.plain "no tables specified")
        out := out ++ bound.flatMap (columnsOf · off)
    | .allOf t off =>
        let mine := bound.filter fun b => sameName b.name t
        if mine.isEmpty then throw (.plain ("no such table: " ++ t))
        out := out ++ mine.flatMap fun b =>
          (b.columns.map fun col => .expr (.dotted [b.name, col] off) none col)
    | c => out := out ++ [c]
  return out

def noSuchTable (schemaName : Option String) (n : String) : SqlError :=
  .missingName ("no such table: " ++ (match schemaName with
    | some d => d ++ "." ++ n
    | none => n)) none

def knownSchema : Option String → Bool
  | none => true
  | some d => sameName d "main" || sameName d "temp"

mutual

/-- Binds the sources of a query. `ctes` are the common table expressions in scope, innermost
first; `views` the views being bound, to find a view that is defined by itself (a table a view
reads is reported missing from `main`); `check` checks a view's definition, given its name, the
way the engine does when a query first uses the view. -/
def expandQuery (s : Schema) (check : String → Query → Except SqlError Unit) :
    Nat → List CteBinding → List String → Query → Except SqlError Query
  | 0, _, _, _ => .error (.plain "query too deeply nested")
  | fuel + 1, ctes, views, .query withs first rest ob lim off => do
      let scope := (withs.map fun
        | .cte n cols q => (⟨n, cols, q⟩ : CteBinding)).reverse ++ ctes
      let scopeFor (i : Nat) : List CteBinding := scope.drop (withs.length - i)
      let _ := scopeFor
      let lastCore := (rest.getLast?.map (·.2)).getD first
      let lastE ← expandCore s check fuel scope views lastCore
      let obE ← ob.mapM fun
        | .term e d n => do return .term (← expandExpr s check fuel scope views e) d n
      let limE ← lim.mapM (expandExpr s check fuel scope views)
      let offE ← off.mapM (expandExpr s check fuel scope views)
      let middle := (first, (rest.dropLast.map (·.2)))
      let earlier := (middle.1 :: middle.2).take rest.length
      let earlierE ← (earlier.reverse.mapM (expandCore s check fuel scope views)).map List.reverse
      let cores := earlierE ++ [lastE]
      let firstE := cores.headD lastE
      let restE := (rest.map (·.1)).zip (cores.drop 1)
      return .query [] firstE restE obE limE offE

def expandCore (s : Schema) (check : String → Query → Except SqlError Unit) :
    Nat → List CteBinding → List String → Core → Except SqlError Core
  | 0, _, _, _ => .error (.plain "query too deeply nested")
  | fuel + 1, ctes, views, .values rows => do
      return .values (← rows.mapM fun row => row.mapM (expandExpr s check fuel ctes views))
  | fuel + 1, ctes, views, .select distinct cols src filter groupBy having => do
      let srcE ← src.mapM (expandSource s check fuel ctes views)
      if let some sE := srcE then Source.checkJoins s sE
      let bound := (srcE.map (Source.boundJoined s)).getD []
      let colsS ← expandStars bound cols
      let colsE ← colsS.mapM fun
        | .expr e aliasName span => do return .expr (← expandExpr s check fuel ctes views e) aliasName span
        | c => pure c
      let filterE ← filter.mapM (expandExpr s check fuel ctes views)
      let groupE ← groupBy.mapM (expandExpr s check fuel ctes views)
      let havingE ← having.mapM (expandExpr s check fuel ctes views)
      let srcE ← srcE.mapM (expandOn s check fuel ctes views)
      return .select distinct colsE srcE filterE groupE havingE

def expandSource (s : Schema) (check : String → Query → Except SqlError Unit) :
    Nat → List CteBinding → List String → Source → Except SqlError Source
  | 0, _, _, _ => .error (.plain "query too deeply nested")
  | fuel + 1, ctes, views, .table schemaName n aliasName off => do
      let found := if schemaName.isNone then (ctes.zipIdx 0).find? (fun (c, _) => sameName c.name n)
        else none
      match found with
      | some (c, i) =>
          let body ← expandQuery s check fuel (ctes.drop (i + 1)) views c.query
          let body ← match c.columns with
            | some names =>
                let have_ := body.columnNames.length
                if have_ != names.length then
                  throw (.plain ("table " ++ c.name ++ " has " ++ toString have_ ++
                    " values for " ++ toString names.length ++ " columns"))
                pure (body.renamed names)
            | none => pure body
          return .query body (some (aliasName.getD c.name))
      | none =>
          if !knownSchema schemaName then throw (noSuchTable schemaName n)
          if isMasterName n then return .table schemaName n aliasName off
          match s.table? n with
          | some t => return .table schemaName t.name aliasName off
          | none =>
              match s.view? n with
              | some v =>
                  if views.any (sameName v.name) then
                    throw (.plain ("view " ++ v.name ++ " is circularly defined"))
                  check v.name v.query
                  let body ← expandQuery s check fuel [] (v.name :: views) v.query
                  let body ← match v.columns with
                    | some names =>
                        let have_ := body.columnNames.length
                        if have_ != names.length then
                          throw (.plain ("expected " ++ toString names.length ++
                            " columns for '" ++ v.name ++ "' but got " ++ toString have_))
                        pure (body.renamed names)
                    | none => pure body
                  return .query body (some (aliasName.getD v.name))
              | none =>
                  -- a view's own tables belong to the view's database, which the report names
                  if views.isEmpty then throw (noSuchTable schemaName n)
                  else throw (noSuchTable (schemaName.orElse fun _ => some "main") n)
  | fuel + 1, ctes, views, .query q aliasName => do
      return .query (← expandQuery s check fuel ctes views q) aliasName
  | fuel + 1, ctes, views, .join l kind natural r on usingCols => do
      let lE ← expandSource s check fuel ctes views l
      let rE ← expandSource s check fuel ctes views r
      return .join lE kind natural rE on usingCols

def expandOn (s : Schema) (check : String → Query → Except SqlError Unit) :
    Nat → List CteBinding → List String → Source → Except SqlError Source
  | 0, _, _, _ => .error (.plain "query too deeply nested")
  | fuel + 1, ctes, views, .join l kind natural r on usingCols => do
      let lE ← expandOn s check fuel ctes views l
      let rE ← expandOn s check fuel ctes views r
      let onE ← on.mapM (expandExpr s check fuel ctes views)
      return .join lE kind natural rE onE usingCols
  | _ + 1, _, _, src => pure src

def expandExpr (s : Schema) (check : String → Query → Except SqlError Unit) :
    Nat → List CteBinding → List String → Expr → Except SqlError Expr
  | 0, _, _, _ => .error (.plain "query too deeply nested")
  | fuel + 1, ctes, views, e =>
      let go := expandExpr s check fuel ctes views
      let goQ := expandQuery s check fuel ctes views
      match e with
      | .unary op a => do return .unary op (← go a)
      | .binary op a b => do return .binary op (← go a) (← go b)
      | .compare op a b => do return .compare op (← go a) (← go b)
      | .pattern op n a b esc w o => do
          return .pattern op n (← go a) (← go b) (← esc.mapM go) w o
      | .isNull a n => do return .isNull (← go a) n
      | .between a lo hi n => do return .between (← go a) (← go lo) (← go hi) n
      | .inList a items n => do return .inList (← go a) (← items.mapM go) n
      | .inQuery a q n => do return .inQuery (← go a) (← goQ q) n
      | .existsQuery q => do return .existsQuery (← goQ q)
      | .scalar q => do return .scalar (← goQ q)
      | .caseOf op arms other => do
          return .caseOf (← op.mapM go) (← arms.mapM fun (c, v) => do return (← go c, ← go v))
            (← other.mapM go)
      | .cast a t => do return .cast (← go a) t
      | .collate a c o => do return .collate (← go a) c o
      | .call f o d args st => do return .call f o d (← args.mapM go) st
      | .vector items => do return .vector (← items.mapM go)
      | e => pure e

end

end Sql
end Store
end MemoryRecorder
