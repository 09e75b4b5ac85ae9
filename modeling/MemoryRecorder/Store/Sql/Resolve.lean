import MemoryRecorder.Store.Sql.Expand
import MemoryRecorder.Text.Numeral
/-!
# Resolving names

The second pass over a query turns every name into the column it stands for. A query level sees
the sources of its FROM clause, then the levels of the queries it is nested in. Within a level a
bare name is looked up

1. among the columns of the sources, left to right: a column of a later source that a USING
   clause joined to an earlier one is not counted again, and two matches are ambiguous;
2. as the row id (`rowid`, `oid`, `_rowid_`) of the one table that has one;
3. among the aliases of the result columns, in WHERE, GROUP BY, HAVING and ORDER BY.

A name found nowhere is a text when it was written in double quotes, `true` or `false` when it
is one of those words, and otherwise fails with `no such column`. An unknown function fails with
`no such function`, a call with the wrong number of arguments with `wrong number of arguments`,
and an aggregate where none may stand with `misuse of aggregate function`.

Within one expression every name is looked at and the last failure is the one reported, with its
offset; the pass stops after each result column and each clause that failed. A failure inside a
subquery stops the pass at once.
-/

namespace MemoryRecorder
namespace Store
namespace Sql

structure ScopeColumn where
  name : String
  field : Field
  affinity : Option Affinity
  collation : Collation

/-- A source of a FROM clause as names see it: the name it answers to, its columns, whether it
shows a row id and what that is called, and the columns a USING clause joined to an earlier
source. -/
structure SourceScope where
  name : String
  columns : List ScopeColumn
  rowid : Bool := false
  rowidName : String := "rowid"
  joined : List String := []

structure Level where
  sources : List SourceScope := []
  aliases : List (String × Expr) := []

structure OutCol where
  name : String
  affinity : Option Affinity
  collation : Collation

/-- Resolution: failures met within an expression are kept in the state, the last one winning,
until a checkpoint; a failure that stops the pass at once is thrown. -/
abbrev ResolveM := StateT (Option SqlError) (Except SqlError)

def soft (e : SqlError) : ResolveM Unit :=
  set (some e)

def checkpoint : ResolveM Unit := do
  match ← get with
  | some e => throw e
  | none => pure ()

def isRowidName (n : String) : Bool :=
  sameName n "rowid" || sameName n "oid" || sameName n "_rowid_"

def scopeOfTable (t : TableDef) (name : String) : SourceScope :=
  { name := name
    columns := (t.columns.zipIdx 0).map fun (c, i) =>
      ⟨c.name, if t.rowidColumn == some i then .rowid else .col i,
        some (if t.rowidColumn == some i then .integer else c.affinity), c.collation⟩
    rowid := true
    rowidName := match t.rowidColumn with
      | some i => t.columnName i
      | none => "rowid" }

def scopeOfMaster (name : String) : SourceScope :=
  { name := name
    columns := (masterColumns.zipIdx 0).map fun (c, i) =>
      ⟨c, .col i, some (if c == "rootpage" then .integer else .text), .binary⟩
    rowid := true }

def scopeOfQuery (name : String) (names : List String) (cols : List OutCol) : SourceScope :=
  { name := name
    columns := ((names.zip cols).zipIdx 0).map fun ((n, c), i) => ⟨n, .col i, c.affinity, c.collation⟩ }

inductive Found where
  | column (ref : ColumnRef)
  | ambiguous
  | none

/-- Looks for a column in the sources of a level, with an optional table qualifier. -/
def searchSources (sources : List SourceScope) (qual : Option String) (col : String) : Found :=
  let step (acc : Nat × Option ColumnRef × Nat × Option (Nat × SourceScope))
      (si : SourceScope × Nat) : Nat × Option ColumnRef × Nat × Option (Nat × SourceScope) :=
    let (cnt, found, cntTab, rowidSrc) := acc
    let (src, i) := si
    let named := match qual with
      | some q => sameName q src.name
      | none => true
    if !named then acc
    else
      match src.columns.find? (fun c => sameName c.name col) with
      | some c =>
          if 0 < cnt && src.joined.any (sameName col) then acc
          else (cnt + 1, some ⟨0, i, c.field, c.affinity, c.collation, c.name⟩, cntTab, rowidSrc)
      | none =>
          if cnt == 0 && src.rowid then (cnt, found, cntTab + 1, some (i, src)) else acc
  let (cnt, found, cntTab, rowidSrc) := (sources.zipIdx 0).foldl step (0, none, 0, none)
  if cnt == 1 then
    match found with
    | some ref => .column ref
    | none => .none
  else if 1 < cnt then .ambiguous
  else if 1 ≤ cntTab && isRowidName col then
    if 1 < cntTab then .ambiguous
    else
      match rowidSrc with
      | some (i, src) => .column ⟨0, i, .rowid, some .integer, .binary, src.rowidName⟩
      | none => .none
  else .none

/-- Looks a name up through the levels, innermost first; the aliases of the innermost level
count after its sources. -/
def lookupName (levels : List Level) (qual : Option String) (col : String) :
    Option (Except Unit Expr) :=
  let rec go : List Level → Nat → Option (Except Unit Expr)
    | [], _ => none
    | lvl :: rest, d =>
        match searchSources lvl.sources qual col with
        | .column ref => some (.ok (.column { ref with depth := d }))
        | .ambiguous => some (.error ())
        | .none =>
            let aliasName := if d == 0 && qual.isNone then
                lvl.aliases.find? (fun ((a, _) : String × Expr) => sameName a col) else none
            match aliasName with
            | some (_, e) => some (.ok e)
            | none => go rest (d + 1)
  go levels 0

def nestFuel : Nat := 2000

def Expr.hasAggregate : Nat → Expr → Bool
  | 0, _ => false
  | fuel + 1, e =>
      let go := Expr.hasAggregate fuel
      match e with
      | .call f _ _ args _ => functionKind f args.length == .aggregate || args.any go
      | .unary _ a | .isNull a _ | .cast a _ | .collate a _ _ | .inQuery a _ _ => go a
      | .binary _ a b | .compare _ a b => go a || go b
      | .pattern _ _ a b esc _ _ => go a || go b || (esc.map go).getD false
      | .between a lo hi _ => go a || go lo || go hi
      | .inList a items _ => go a || items.any go
      | .caseOf op arms other =>
          (op.map go).getD false || arms.any (fun (c, v) => go c || go v) ||
            (other.map go).getD false
      | .vector items => items.any go
      | _ => false

def Expr.hasCollate : Nat → Expr → Bool
  | 0, _ => false
  | fuel + 1, e =>
      let go := Expr.hasCollate fuel
      match e with
      | .collate _ _ _ => true
      | .call _ _ _ args _ => args.any go
      | .unary _ a | .isNull a _ | .cast a _ | .inQuery a _ _ => go a
      | .binary _ a b | .compare _ a b => go a || go b
      | .pattern _ _ a b esc _ _ => go a || go b || (esc.map go).getD false
      | .between a lo hi _ => go a || go lo || go hi
      | .inList a items _ => go a || items.any go
      | .caseOf op arms other =>
          (op.map go).getD false || arms.any (fun (c, v) => go c || go v) ||
            (other.map go).getD false
      | .vector items => items.any go
      | _ => false

def Query.firstExpr? : Query → Option Expr
  | .query _ (.select _ (.expr e _ _ :: _) _ _ _ _) _ _ _ _ => some e
  | .query _ (.values ((e :: _) :: _)) _ _ _ _ => some e
  | _ => none

/-- The affinity an expression gives a comparison: a column's, a cast's, that of the first
column of a scalar subquery; none for other expressions. -/
def Expr.affinity : Nat → Expr → Option Affinity
  | 0, _ => none
  | fuel + 1, e =>
      match e with
      | .column ref => ref.affinity
      | .cast _ t => some (Affinity.ofCastType t)
      | .collate a _ _ => Expr.affinity fuel a
      | .scalar q => (q.firstExpr?.map (Expr.affinity fuel)).getD none
      | .vector (a :: _) => Expr.affinity fuel a
      | _ => none

/-- The collation an expression carries: a COLLATE's, a column's, or that found by following
the operands that carry a COLLATE. -/
def Expr.collation? : Nat → Expr → Option Collation
  | 0, _ => none
  | fuel + 1, e =>
      let go := Expr.collation? fuel
      match e with
      | .collate _ c _ => some ((collationOf c).getD .binary)
      | .column ref => some ref.collation
      | .cast a _ | .unary .pos a => go a
      | _ =>
          if !(Expr.hasCollate nestFuel e) then none
          else
            let kids : List Expr := match e with
              | .unary _ a | .isNull a _ | .inQuery a _ _ => [a]
              | .binary _ a b | .compare _ a b => [a, b]
              | .pattern _ _ a b esc _ _ => [a, b] ++ esc.toList
              | .between a lo hi _ => [a, lo, hi]
              | .inList a items _ => a :: items
              | .call _ _ _ args _ => args
              | .vector items => items
              | .caseOf op arms other =>
                  op.toList ++ arms.flatMap (fun (c, v) => [c, v]) ++ other.toList
              | _ => []
            (kids.find? (Expr.hasCollate nestFuel)).bind go

/-- The collation of a comparison: an explicit COLLATE on the left, else on the right, else the
left operand's column collation, else the right's, else BINARY. -/
def compareCollation (a b : Expr) : Collation :=
  if Expr.hasCollate nestFuel a then (Expr.collation? nestFuel a).getD .binary
  else if Expr.hasCollate nestFuel b then (Expr.collation? nestFuel b).getD .binary
  else ((Expr.collation? nestFuel a).orElse fun _ => Expr.collation? nestFuel b).getD .binary

def compareAffinity (a b : Expr) : Option Affinity :=
  comparisonAffinity (Expr.affinity nestFuel a) (Expr.affinity nestFuel b)

def Source.count : Source → Nat
  | .join l _ _ r _ _ => Source.count l + Source.count r
  | _ => 1

def ordinal (n : Nat) : String :=
  let suffix :=
    if n % 100 / 10 == 1 then "th"
    else match n % 10 with
      | 1 => "st"
      | 2 => "nd"
      | 3 => "rd"
      | _ => "th"
  toString n ++ suffix

def Expr.smallInteger? : Expr → Option Int
  | .integer t _ =>
      let cs := t.toList
      match cs with
      | '0' :: x :: hex =>
          if x == 'x' || x == 'X' then
            match Text.digitsValue? 16 hex with
            | some v => if v < 2147483648 then some v else none
            | none => none
          else (Text.digitsValue? 10 cs).bind fun v => if v < 2147483648 then some v else none
      | _ => (Text.digitsValue? 10 cs).bind fun v => if v < 2147483648 then some v else none
  | .unary .pos e => e.smallInteger?
  | .unary .neg e => e.smallInteger?.map (- ·)
  | _ => none

def Expr.skipCollate : Expr → Expr
  | .collate e _ _ => e
  | e => e

def Expr.offset? : Expr → Option Nat
  | .integer _ o | .name _ _ o | .dotted _ o | .collate _ _ o | .call _ o _ _ _ => some o
  | .pattern _ _ _ _ _ _ o => some o
  | .unary _ a | .isNull a _ | .cast a _ | .inList a _ _ | .inQuery a _ _ | .between a _ _ _ =>
      a.offset?
  | .binary _ a _ | .compare _ a _ => a.offset?
  | _ => none

/-- The result expression an ORDER BY or GROUP BY term that is a number picks: a number below
one fails at the term, one past the result columns fails with no offset. -/
def pickColumn (cols : List ResultColumn) (clause : String) (i : Nat) (k : Int) (term : Expr) :
    ResolveM Expr :=
  let msg := ordinal i ++ " " ++ clause ++ " BY term out of range - should be between 1 and " ++
    toString cols.length
  if k < 1 then throw { message := msg, offset := term.offset? }
  else
    match cols[k.toNat - 1]? with
    | some (.expr x _ _) => pure x
    | _ => throw (.plain msg)

def outColOf (c : ResultColumn) (i : Nat) : OutCol :=
  match c with
  | .expr e _ _ =>
      ⟨c.plainName i, Expr.affinity nestFuel e, (Expr.collation? nestFuel e).getD .binary⟩
  | _ => ⟨c.plainName i, none, .binary⟩

mutual

/-- Resolves the names of an expression. `agg` says whether an aggregate may stand here. -/
def resolveExpr (s : Schema) : Nat → List Level → Bool → Expr → ResolveM Expr
  | 0, _, _, _ => throw (.plain "expression too deeply nested")
  | fuel + 1, levels, agg, e =>
      let go := resolveExpr s fuel levels agg
      match e with
      | .name n quoted off =>
          match lookupName levels none n with
          | some (.ok r) => pure r
          | some (.error ()) => do
              soft (.missingName ("ambiguous column name: " ++ n) (some off))
              pure (.lit .null)
          | none =>
              if quoted then pure (.lit (.text n))
              else if sameName n "true" then pure (.lit (.int 1))
              else if sameName n "false" then pure (.lit (.int 0))
              else do
                soft (.missingName ("no such column: " ++ n) (some off))
                pure (.lit .null)
      | .dotted parts off =>
          let (qual, col, shown) : Option String × String × String := match parts with
            | [t, c] => (some t, c, t ++ "." ++ c)
            | [d, t, c] => (if knownSchema (some d) then some t else some "", c,
                d ++ "." ++ t ++ "." ++ c)
            | _ => (none, "", "")
          match lookupName levels qual col with
          | some (.ok r) => pure r
          | some (.error ()) => do
              soft (.missingName ("ambiguous column name: " ++ shown) (some off))
              pure (.lit .null)
          | none => do
              soft (.missingName ("no such column: " ++ shown) (some off))
              pure (.lit .null)
      | .call f off distinct args star => do
          let kind := functionKind f args.length
          match kind with
          | .unknown => soft (.at_ ("no such function: " ++ f) off)
          | .wrongArgs => soft (.at_ ("wrong number of arguments to function " ++ f ++ "()") off)
          | .aggregate =>
              if !agg then soft (.at_ ("misuse of aggregate function " ++ f ++ "()") off)
          | .scalar => pure ()
          let argAgg := if kind == .aggregate then false else agg
          let args' ← args.mapM (resolveExpr s fuel levels argAgg)
          return .call f off distinct args' star
      | .pattern op negated subj pat esc word off => do
          if op == .regexp then soft (.at_ ("no such function: " ++ word) off)
          let pat' ← go pat
          let subj' ← go subj
          let esc' ← esc.mapM go
          return .pattern op negated subj' pat' esc' word off
      | .unary op a => do return .unary op (← go a)
      | .binary op a b => do
          let a' ← go a
          return .binary op a' (← go b)
      | .compare op a b => do
          let a' ← go a
          return .compare op a' (← go b)
      | .isNull a n => do return .isNull (← go a) n
      | .between a lo hi n => do
          let a' ← go a
          let lo' ← go lo
          return .between a' lo' (← go hi) n
      | .inList a items n => do
          let a' ← go a
          return .inList a' (← items.mapM go) n
      | .inQuery a q n => do
          let a' ← go a
          let (q', _) ← resolveQuery s fuel levels q
          return .inQuery a' q' n
      | .existsQuery q => do
          let (q', _) ← resolveQuery s fuel levels q
          return .existsQuery q'
      | .scalar q => do
          let (q', _) ← resolveQuery s fuel levels q
          return .scalar q'
      | .caseOf op arms other => do
          let op' ← op.mapM go
          let arms' ← arms.mapM fun (c, v) => do
            let c' ← go c
            return (c', ← go v)
          return .caseOf op' arms' (← other.mapM go)
      | .cast a t => do return .cast (← go a) t
      | .collate a c off => do
          let a' ← go a
          if (collationOf c).isNone then soft (.plain ("no such collation sequence: " ++ c))
          return .collate a' c off
      | .vector items => do return .vector (← items.mapM go)
      | .raise _ => do
          soft (.plain "RAISE() may only be used within a trigger-program")
          return e
      | e => pure e

/-- Resolves a query seen from enclosing levels; gives the query and its result columns. -/
def resolveQuery (s : Schema) : Nat → List Level → Query → ResolveM (Query × List OutCol)
  | 0, _, _ => throw (.plain "query too deeply nested")
  | fuel + 1, outer, .query _ first rest ob lim off => do
      let lim' ← lim.mapM (resolveExpr s fuel [] false)
      let off' ← off.mapM (resolveExpr s fuel [] false)
      checkpoint
      if rest.isEmpty then
        let (core, ob', cols, _) ← resolveCore s fuel outer first ob
        return (.query [] core [] ob' lim' off', cols)
      else
        let cores := first :: rest.map (·.2)
        let resolved ← cores.reverse.mapM fun c => resolveCore s fuel outer c []
        let resolved := resolved.reverse
        let widths := resolved.map fun (_, _, cols, _) => cols.length
        let w0 := widths.headD 0
        for (w, op) in (widths.drop 1).zip (rest.map (·.1)) do
          if w != w0 then
            let opName := match op with
              | .unionAll => "UNION ALL"
              | .union => "UNION"
              | .intersect => "INTERSECT"
              | .except => "EXCEPT"
            throw (.plain ("SELECTs to the left and right of " ++ opName ++
              " do not have the same number of result columns"))
        let firstCols := (resolved.headD (first, [], [], {})).2.2.1
        let cols := (firstCols.zipIdx 0).map fun (c, i) =>
          match c.affinity with
          | some _ => c
          | none =>
              let later := (resolved.drop 1).findSome? fun (_, _, cs, _) => cs[i]?.bind (·.affinity)
              { c with affinity := later }
        for (t, i) in ob.zipIdx 1 do
          let .term e _ _ := t
          match e.skipCollate.smallInteger? with
          | some k =>
              if k < 1 || k > cols.length then
                throw (.at_ (ordinal i ++ " ORDER BY term out of range - should be between 1 and " ++
                  toString cols.length) ((e.skipCollate.offset?).getD 0))
          | none => pure ()
        let ob' ← (ob.zipIdx 1).mapM fun (.term e desc nulls, i) => do
          let inner := e.skipCollate
          let wrap (x : Expr) : Expr := match e with
            | .collate _ c o => .collate x c o
            | _ => x
          let inArm (arm : Core × List SortTerm × List OutCol × Level) : Option Nat :=
            let (core, _, _, lvl) := arm
            match core with
            | .select _ rcs _ _ _ _ =>
                let byAlias := match inner with
                  | .name n _ _ => (rcs.zipIdx 0).findSome? fun ((rc, j) : ResultColumn × Nat) =>
                      match rc with
                      | ResultColumn.expr _ (some a) _ => if sameName a n then some j else none
                      | _ => none
                  | _ => none
                byAlias.orElse fun _ =>
                  match (resolveExpr s fuel [{ lvl with aliases := [] }] true inner).run none with
                  | .ok (x, none) => (rcs.zipIdx 0).findSome? fun ((rc, j) : ResultColumn × Nat) =>
                      match rc with
                      | ResultColumn.expr y _ _ => if x == y then some j else none
                      | _ => none
                  | _ => none
            | .values _ => none
          let pick := match inner.smallInteger? with
            | some k => some (k.toNat - 1)
            | none => resolved.findSome? inArm
          match pick with
          | some j =>
              let c := cols.getD j ⟨"", none, .binary⟩
              return .term (wrap (.column ⟨0, 0, .col j, c.affinity, c.collation, c.name⟩)) desc nulls
          | none =>
              throw (.plain (ordinal i ++
                " ORDER BY term does not match any column in the result set"))
        let cores' := resolved.map (·.1)
        return (.query [] (cores'.headD first) ((rest.map (·.1)).zip (cores'.drop 1)) ob' lim' off',
          cols)

def resolveCore (s : Schema) : Nat → List Level → Core → List SortTerm →
    ResolveM (Core × List SortTerm × List OutCol × Level)
  | 0, _, _, _ => throw (.plain "query too deeply nested")
  | fuel + 1, outer, .values rows, ob => do
      let rows' ← rows.mapM fun row => do
        let r ← row.mapM (resolveExpr s fuel (⟨[], []⟩ :: outer) false)
        checkpoint
        return r
      let cols := ((rows'.headD []).zipIdx 0).map fun (e, i) =>
        (⟨"column" ++ toString (i + 1), Expr.affinity nestFuel e,
          (Expr.collation? nestFuel e).getD .binary⟩ : OutCol)
      let ob' ← ob.mapM fun (.term e desc nulls) => do
        match e.skipCollate.smallInteger? with
        | some k =>
            if k < 1 || k > cols.length then
              throw (.plain ("1st ORDER BY term out of range - should be between 1 and " ++
                toString cols.length))
            let c := cols.getD (k.toNat - 1) ⟨"", none, .binary⟩
            return .term (.column ⟨0, 0, .col (k.toNat - 1), c.affinity, c.collation, c.name⟩)
              desc nulls
        | none => throw (.plain "1st ORDER BY term does not match any column in the result set")
      return (.values rows', ob', cols, {})
  | fuel + 1, outer, .select distinct cols src filter groupBy having, ob => do
      let (src', scopes) ← match src with
        | some sr => do
            let (x, sc) ← resolveSource s fuel outer sr
            pure (some x, sc)
        | none => pure (none, [])
      let level : Level := ⟨scopes, []⟩
      let levels := level :: outer
      let cols' ← cols.mapM fun c => do
        match c with
        | .expr e aliasName span =>
            let e' ← resolveExpr s fuel levels true e
            checkpoint
            return ResultColumn.expr e' aliasName span
        | c => pure c
      let isAgg := !groupBy.isEmpty || cols'.any fun
        | .expr e _ _ => Expr.hasAggregate nestFuel e
        | _ => false
      let aliases := cols'.filterMap fun
        | .expr e (some a) _ => some (a, e)
        | _ => none
      let levelA : Level := ⟨scopes, aliases⟩
      let levelsA := levelA :: outer
      let having' ← match having with
        | some h =>
            if !isAgg then throw (.plain "HAVING clause on a non-aggregate query")
            else do
              let h' ← resolveExpr s fuel levelsA true h
              checkpoint
              pure (some h')
        | none => pure none
      let filter' ← filter.mapM (resolveExpr s fuel levelsA false)
      let src' ← src'.mapM (resolveOn s fuel levelsA scopes 0)
      checkpoint
      let ob' ← (ob.zipIdx 1).mapM fun (.term e desc nulls, i) => do
        let inner := e.skipCollate
        let wrap (x : Expr) : Expr := match e with
          | .collate _ c o => .collate x c o
          | _ => x
        let byAlias := match inner with
          | .name n _ _ => aliases.find? (fun ((a, _) : String × Expr) => sameName a n)
          | _ => none
        match byAlias with
        | some (_, x) => return .term (wrap x) desc nulls
        | none =>
            match inner.smallInteger? with
            | some k => return .term (wrap (← pickColumn cols' "ORDER" i k inner)) desc nulls
            | none =>
                let e' ← resolveExpr s fuel levelsA isAgg e
                checkpoint
                return .term e' desc nulls
      let groupBy' ← (groupBy.zipIdx 1).mapM fun (g, i) => do
        let g' ← match g.skipCollate.smallInteger? with
          | some k => pickColumn cols' "GROUP" i k g.skipCollate
          | none => do
              let g' ← resolveExpr s fuel levelsA false g
              checkpoint
              pure g'
        if Expr.hasAggregate nestFuel g' then
          throw (.plain "aggregate functions are not allowed in the GROUP BY clause")
        return g'
      let outs := (cols'.zipIdx 0).map fun (c, i) => outColOf c i
      return (.select distinct cols' src' filter' groupBy' having', ob', outs, levelA)

def resolveSource (s : Schema) : Nat → List Level → Source → ResolveM (Source × List SourceScope)
  | 0, _, _ => throw (.plain "query too deeply nested")
  | fuel + 1, outer, src =>
      match src with
      | .table schemaName n aliasName off =>
          let name := aliasName.getD n
          if isMasterName n then pure (src, [scopeOfMaster name])
          else
            match s.table? n with
            | some t => pure (.table schemaName t.name aliasName off, [scopeOfTable t name])
            | none => throw (noSuchTable schemaName n)
      | .query q aliasName => do
          let names := q.columnNames
          let (q', cols) ← resolveQuery s fuel outer q
          return (.query q' aliasName, [scopeOfQuery (aliasName.getD "") names cols])
      | .join l kind natural r on usingCols => do
          let (l', ls) ← resolveSource s fuel outer l
          let (r', rs) ← resolveSource s fuel outer r
          let leftCols := ls.flatMap fun sc => sc.columns.map (·.name)
          let common := if natural then
              (rs.flatMap fun sc => sc.columns.map (·.name)).filter fun c =>
                leftCols.any (sameName c)
            else usingCols
          let rs' := if kind == .right || kind == .full then rs
            else rs.map fun sc => { sc with joined := sc.joined ++ common }
          return (.join l' kind natural r' on usingCols, ls ++ rs')

/-- Resolves the ON clauses of a FROM clause, and turns USING and NATURAL into the equalities
they stand for. `start` is the position of the clause's first source. -/
def resolveOn (s : Schema) : Nat → List Level → List SourceScope → Nat → Source → ResolveM Source
  | 0, _, _, _, _ => throw (.plain "query too deeply nested")
  | fuel + 1, levels, scopes, start, src =>
      match src with
      | .join l kind natural r on usingCols => do
          let l' ← resolveOn s fuel levels scopes start l
          let rStart := start + Source.count l
          let r' ← resolveOn s fuel levels scopes rStart r
          let leftScopes := (scopes.zipIdx 0).filter fun (_, i) => start ≤ i && i < rStart
          let rightScopes := (scopes.zipIdx 0).filter fun (_, i) =>
            rStart ≤ i && i < rStart + Source.count r
          let common := if natural then
              (rightScopes.flatMap fun (sc, _) => sc.columns.map (·.name)).filter fun c =>
                leftScopes.any fun (sc, _) => sc.columns.any fun x => sameName x.name c
            else usingCols
          let refTo (side : List (SourceScope × Nat)) (c : String) : Option Expr :=
            side.findSome? fun (sc, i) =>
              (sc.columns.find? fun x => sameName x.name c).map fun x =>
                .column ⟨0, i, x.field, x.affinity, x.collation, x.name⟩
          let eqs := common.filterMap fun c =>
            match refTo leftScopes c, refTo rightScopes c with
            | some a, some b => some (Expr.compare .eq a b)
            | _, _ => none
          let on' ← on.mapM (resolveExpr s fuel levels false)
          let conds := eqs ++ on'.toList
          let cond := match conds with
            | [] => none
            | c :: cs => some (cs.foldl (fun acc x => Expr.binary .and acc x) c)
          return .join l' kind false r' cond []
      | src => pure src

end

end Sql
end Store
end MemoryRecorder
