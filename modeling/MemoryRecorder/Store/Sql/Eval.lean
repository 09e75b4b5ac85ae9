import MemoryRecorder.Store.Sql.Lower
/-!
# Evaluating queries

A query runs over a database in nested loops. Each query level has a frame: the current row of
each source of its FROM clause, or none for the row an outer join pads with nulls. A column
reference reads the frame of its level; the frames of enclosing queries stand after it.

The rows of a FROM clause come in the order the engine reads them: the first table by row id,
unless the WHERE clause fixes a prefix of the columns of an index, or bounds its next column, in
which case that index's order is read (backwards when that also gives the ORDER BY descending);
each later source is read by row id for every row before it. A join keeps the pairs whose ON
clause holds; a LEFT JOIN pads a row that found none. WHERE filters the joined rows.

An aggregate query groups its rows by the GROUP BY values, ascending, and evaluates its result
columns once per group: an aggregate over the group's rows, any other column on the group's last
row. DISTINCT keeps the first of equal rows; ORDER BY sorts stably; LIMIT and OFFSET cut the
result.
-/

namespace MemoryRecorder
namespace Store
namespace Sql

/-- The current row of a source: its row id and values; none for the row an outer join pads with
nulls. -/
abbrev Slot := Option (Int64 × Array Value)

abbrev Frame := Array Slot

abbrev Env := List Frame

/-- What evaluation reads: the database, the values bound to parameters by their numbers, and
the connection's session. -/
structure Ctx where
  db : Database
  params : List (String × Value) := []
  session : Session := {}

def Ctx.param (cx : Ctx) (name : String) : Value :=
  ((cx.params.find? (·.1 == name)).map (·.2)).getD .null

def readRef (env : Env) (ref : ColumnRef) : Value :=
  match env[ref.depth]? with
  | some frame =>
      match frame[ref.source]? with
      | some (some (rowid, vals)) =>
          match ref.field with
          | .rowid => .int rowid
          | .col i => vals[i]?.getD .null
      | _ => .null
  | none => .null

def frameWith (width pos : Nat) (slot : Slot) : Frame :=
  ((List.replicate width (none : Slot)).set pos slot).toArray

def mergeFrames (a b : Frame) : Frame :=
  (a.toList.zipWith (fun x y => y.orElse fun _ => x) b.toList).toArray

def clearSlots (fr : Frame) (lo hi : Nat) : Frame :=
  ((fr.toList.zipIdx 0).map fun (s, i) => if lo ≤ i && i < hi then none else s).toArray

def binaryValue (op : BinaryOp) (x y : Value) : Value :=
  match op with
  | .add => Value.arith .add x y
  | .sub => Value.arith .sub x y
  | .mul => Value.arith .mul x y
  | .div => Value.arith .div x y
  | .rem => Value.arith .rem x y
  | .concat => Value.concat x y
  | .bitAnd => Value.bitwise "&" x y
  | .bitOr => Value.bitwise "|" x y
  | .shl => Value.bitwise "<<" x y
  | .shr => Value.bitwise ">>" x y
  | .and => Value.ofTruth (andTruth x.truth? y.truth?)
  | .or => Value.ofTruth (orTruth x.truth? y.truth?)

def notValue (v : Value) : Value :=
  Value.ofTruth (v.truth?.map (!·))

/-- The value of `x IN ys`: false for no values, null for a null `x`, true when one value equals
`x`, else null when a value is null, else false. -/
def inResult (x : Value) (ys : List Value) (aff : Option Affinity) (coll : Collation)
    (negated : Bool) : Value :=
  let r : Value :=
    if ys.isEmpty then .int 0
    else if x == .null then .null
    else if ys.any (fun y => compareFor aff coll x y == some .eq) then .int 1
    else if ys.any (· == .null) then .null
    else .int 0
  if negated then notValue r else r

/-- A comparison of two row values, item by item: the first pair that is not equal decides, a
null pair makes the result unknown, and rows equal throughout satisfy `=`, `<=` and `>=`. -/
def vectorCompare (op : CmpOp) : List (Value × Value × Option Affinity × Collation) → Value
  | [] => Value.ofTruth (some (op.holds .eq))
  | (x, y, aff, c) :: rest =>
      match op with
      | .is | .isNot =>
          let same := compareValues .is aff c x y == .int 1
          if !same then .int (if op == .is then 0 else 1) else vectorCompare op rest
      | _ =>
          match compareFor aff c x y with
          | none =>
              if op == .eq || op == .ne then
                match vectorCompare op rest with
                | .int 0 => if op == .eq then .int 0 else .null
                | .int 1 => if op == .ne then .int 1 else .null
                | _ => .null
              else .null
          | some .eq => vectorCompare op rest
          | some o => Value.ofTruth (some (op.holds o))

/-- The value of an aggregate over the argument values of a group's rows. `coll` is the
collation of the first argument, by which `min` and `max` compare texts. -/
def aggregateValue (name : String) (star : Bool) (rows : List (List Value)) (coll : Collation) :
    Except String Value :=
  let firsts := rows.map (·.headD .null)
  let present := firsts.filter (· != .null)
  match name with
  | "count" =>
      if star || rows.all (·.isEmpty) then .ok (.int (Int64.ofNat rows.length))
      else .ok (.int (Int64.ofNat present.length))
  | "sum" => (firsts.foldl SumState.step {}).sumResult
  | "total" => .ok (firsts.foldl SumState.step {}).totalResult
  | "avg" => .ok (firsts.foldl SumState.step {}).avgResult
  | "min" =>
      .ok (present.foldl (fun acc v =>
        match acc with
        | .null => v
        | a => if compareWith coll v a == .lt then v else a) .null)
  | "max" =>
      .ok (present.foldl (fun acc v =>
        match acc with
        | .null => v
        | a => if compareWith coll v a == .gt then v else a) .null)
  | "group_concat" | "string_agg" =>
      let pieces := rows.filterMap fun r =>
        match r with
        | v :: rest =>
            if v == .null then none
            else
              let sep := match rest with
                | s :: _ => (s.text?).getD ""
                | [] => if name == "group_concat" then "," else ""
              some (valueText v, sep)
        | [] => none
      match pieces with
      | [] => .ok .null
      | (v, _) :: more => .ok (.text (more.foldl (fun acc (w, sep) => acc ++ sep ++ w) v))
  | _ => .ok .null

/-- Keeps the first of each run of equal argument lists, for an aggregate over distinct values;
a row with a null argument is dropped. -/
def distinctArgs (coll : Collation) (rows : List (List Value)) : List (List Value) :=
  rows.foldl (fun acc r =>
    if r.any (· == .null) then acc
    else if acc.any (fun a => a.length == r.length &&
        (a.zip r).all (fun (x, y) => compareWith coll x y == .eq)) then acc
    else acc ++ [r]) []

def countValue (v : Value) : Except SqlError Int :=
  match v with
  | .int i => .ok i.toInt
  | .real b =>
      let r := Float.ofBits b
      let i := realToInt r
      if Float.ofInt i.toInt == r then .ok i.toInt else .error (.plain "datatype mismatch")
  | .text s =>
      match Value.numericOfText s true with
      | .int i => .ok i.toInt
      | _ => .error (.plain "datatype mismatch")
  | _ => .error (.plain "datatype mismatch")

/-- Rows cut to a window: `offset` rows skipped, then at most `limit` kept (none or a negative
limit keeps all). -/
def window {α : Type} (rows : List α) (limit offset : Option Int) : List α :=
  let skipped := rows.drop (offset.getD 0).toNat
  match limit with
  | some l => if l < 0 then skipped else skipped.take l.toNat
  | none => skipped

structure SortSpec where
  collation : Collation
  desc : Bool
  nullsFirst : Option Bool

def SortSpec.compare (s : SortSpec) (a b : Value) : Ordering :=
  let base := match a, b with
    | .null, .null => Ordering.eq
    | .null, _ => if s.nullsFirst == some false then .gt else if s.desc then .gt else .lt
    | _, .null => if s.nullsFirst == some false then .lt else if s.desc then .lt else .gt
    | _, _ =>
        let o := compareWith s.collation a b
        if s.desc then o.swap else o
  match a, b with
  | .null, _ | _, .null =>
      if s.nullsFirst == some true then
        match a, b with
        | .null, .null => .eq
        | .null, _ => .lt
        | _, _ => .gt
      else base
  | _, _ => base

def compareKeys : List SortSpec → List Value → List Value → Ordering
  | s :: specs, a :: as, b :: bs =>
      match s.compare a b with
      | .eq => compareKeys specs as bs
      | o => o
  | _, _, _ => .eq

def sortByKeys {α : Type} (specs : List SortSpec) (rows : List (α × List Value)) :
    List (α × List Value) :=
  rows.mergeSort fun a b => compareKeys specs a.2 b.2 != .gt

def distinctRows {α : Type} (rows : List (Array Value × α)) : List (Array Value × α) :=
  rows.foldl (fun acc r =>
    if acc.any (fun a => a.1.size == r.1.size &&
        (a.1.toList.zip r.1.toList).all (fun (x, y) => compareWith .binary x y == .eq)) then acc
    else acc ++ [r]) []

/-- Rows sorted by all their columns, with duplicates dropped: how UNION, INTERSECT and EXCEPT
give their results. -/
def sortedDistinct (rows : List (Array Value)) : List (Array Value) :=
  let specs := (List.range ((rows.headD #[]).size)).map fun _ => (⟨.binary, false, none⟩ : SortSpec)
  (distinctRows ((sortByKeys specs (rows.map fun r => (r, r.toList))).map fun (r, _) => (r, ()))).map
    (·.1)

def rowIn (r : Array Value) (rows : List (Array Value)) : Bool :=
  rows.any fun a => a.size == r.size &&
    (a.toList.zip r.toList).all (fun (x, y) => compareWith .binary x y == .eq)

def combineRows (op : CompoundOp) (left right : List (Array Value)) : List (Array Value) :=
  match op with
  | .unionAll => left ++ right
  | .union => sortedDistinct (left ++ right)
  | .intersect => sortedDistinct (left.filter fun r => rowIn r right)
  | .except => sortedDistinct (left.filter fun r => !rowIn r right)

/-! ## Reading order -/

def Expr.conjuncts : Expr → List Expr
  | .binary .and a b => a.conjuncts ++ b.conjuncts
  | e => [e]

/-- Whether an expression may read a source of the innermost level; a subquery is taken to. -/
def Expr.readsHere : Nat → Expr → Bool
  | 0, _ => true
  | fuel + 1, e =>
      let go := Expr.readsHere fuel
      match e with
      | .column r => r.depth == 0
      | .scalar _ | .existsQuery _ | .inQuery _ _ _ => true
      | .unary _ a | .isNull a _ | .cast a _ | .collate a _ _ => go a
      | .binary _ a b | .compare _ a b => go a || go b
      | .pattern _ _ a b esc _ _ => go a || go b || (esc.map go).getD false
      | .between a lo hi _ => go a || go lo || go hi
      | .inList a items _ => go a || items.any go
      | .caseOf op arms other =>
          (op.map go).getD false || arms.any (fun (c, v) => go c || go v) ||
            (other.map go).getD false
      | .call _ _ _ args _ => args.any go
      | .vector items => items.any go
      | _ => false

def firstSourceField? : Expr → Option Field
  | .column r => if r.depth == 0 && r.source == 0 then some r.field else none
  | _ => none

def Expr.fieldsOf (src : Nat) : Nat → Expr → List Field
  | 0, _ => []
  | fuel + 1, e =>
      let go := Expr.fieldsOf src fuel
      match e with
      | .column r => if r.depth == 0 && r.source == src then [r.field] else []
      | .unary _ a | .isNull a _ | .cast a _ | .collate a _ _ | .inQuery a _ _ => go a
      | .binary _ a b | .compare _ a b => go a ++ go b
      | .pattern _ _ a b esc _ _ => go a ++ go b ++ ((esc.map go).getD [])
      | .between a lo hi _ => go a ++ go lo ++ go hi
      | .inList a items _ => go a ++ items.flatMap go
      | .caseOf op arms other =>
          ((op.map go).getD []) ++ arms.flatMap (fun (c, v) => go c ++ go v) ++
            ((other.map go).getD [])
      | .call _ _ _ args _ => args.flatMap go
      | .vector items => items.flatMap go
      | _ => []

/-- The constraint a conjunct puts on a column of the first source: the field, and whether it
fixes the column to one value (else it bounds it). -/
def constraintOf (e : Expr) : Option (Field × Bool) :=
  let usable (op : CmpOp) := op == .eq || op == .is || op == .lt || op == .le || op == .gt ||
    op == .ge
  let fixes (op : CmpOp) := op == .eq || op == .is
  match e with
  | .compare op a b =>
      if !usable op then none
      else
        match firstSourceField? a, firstSourceField? b with
        | some f, _ => if !(Expr.readsHere nestFuel b) then some (f, fixes op) else none
        | none, some f => if !(Expr.readsHere nestFuel a) then some (f, fixes op) else none
        | none, none => none
  | .between a lo hi false =>
      match firstSourceField? a with
      | some f =>
          if !(Expr.readsHere nestFuel lo) && !(Expr.readsHere nestFuel hi) then some (f, false)
          else none
      | none => none
  | .inList a items false =>
      match firstSourceField? a with
      | some f => if items.all (fun x => !(Expr.readsHere nestFuel x)) then some (f, true) else none
      | none => none
  | .isNull a false => (firstSourceField? a).map fun f => (f, true)
  | _ => none

/-- How the first table of a FROM clause is read: by the columns of an index (with their
collations and directions) then the row id, or by row id alone when `keys` is empty; backwards
when `reverse`. -/
structure ScanPlan where
  keys : List IndexKey := []
  reverse : Bool := false

/-- Whether an index's order gives an ORDER BY, and in which direction. `order` lists the
ORDER BY terms as fields of the first source with their directions; terms on columns that the
WHERE clause fixes are skipped. -/
def orderGiven (keys : List IndexKey) (fixed : List Field) (order : List (Field × Bool)) :
    Option Bool :=
  let terms := order.filter fun (f, _) => !fixed.contains f
  let rec walk : List IndexKey → List (Field × Bool) → Option Bool → Option Bool
    | _, [], dir => some (dir.getD false)
    | [], [(.rowid, d)], dir =>
        match dir with
        | some x => if x == d then some x else none
        | none => some d
    | [], _, _ => none
    | k :: ks, (f, d) :: ts, dir =>
        if f == .col k.column then
          let rev := d != k.desc
          match dir with
          | some x => if x == rev then walk ks ts dir else none
          | none => walk ks ts (some rev)
        else if fixed.contains (.col k.column) then walk ks ((f, d) :: ts) dir
        else none
  walk keys terms none

/-- The engine's logarithmic estimate of a number: about ten times its base-2 logarithm. -/
def logEstimate (x : Nat) : Nat :=
  let table : List Nat := [0, 2, 3, 5, 6, 7, 8, 9]
  if x < 2 then 0
  else if x < 8 then
    let steps := 3 - Nat.log2 x
    table.getD ((x * Nat.pow 2 steps) % 8) 0 + 40 - 10 * steps - 10
  else
    let i := Nat.log2 x - 3
    table.getD ((x / Nat.pow 2 i) % 8) 0 + 40 + 10 * i - 10

/-- An estimate of the width of a column's values, with an integer counting one: a text or blob
column counts five, or a quarter of its declared size and one. -/
def Column.widthEstimate (c : Column) : Nat :=
  if c.typeName.isEmpty then 1
  else if c.affinity == .text || c.affinity == .blob then
    let up := c.typeName.toUpper
    let sized := up.contains '(' &&
      ((up.splitOn "CHAR").length > 1 || (up.splitOn "BLOB(").length > 1)
    let digits := ((up.toList.dropWhile (!·.isDigit)).takeWhile Char.isDigit)
    let v := if sized && !digits.isEmpty then
        digits.foldl (fun n d => n * 10 + (d.toNat - '0'.toNat)) 0
      else 16
    min (v / 4 + 1) 255
  else 1

def TableDef.rowWidth (t : TableDef) : Nat :=
  logEstimate (4 * ((t.columns.map Column.widthEstimate).foldl (· + ·) 0 +
    (if t.rowidColumn.isNone then 1 else 0)))

def IndexDef.entryWidth (t : TableDef) (ix : IndexDef) : Nat :=
  logEstimate (4 * ((ix.keys.map fun k =>
    if t.rowidColumn == some k.column then 1
    else ((t.column? k.column).map Column.widthEstimate).getD 1).foldl (· + ·) 0 + 1))

def IndexDef.covers (t : TableDef) (ix : IndexDef) (used : List Field) : Bool :=
  used.all fun f =>
    match f with
    | .rowid => true
    | .col c => t.rowidColumn == some c || ix.keys.any (·.column == c)

def logAdd (a b : Nat) : Nat :=
  let steps : List Nat :=
    [10, 10, 9, 9, 8, 8, 7, 7, 7, 6, 6, 6, 5, 5, 5, 4, 4, 4, 4, 3, 3, 3, 3, 3, 3, 2, 2, 2, 2, 2, 2, 2]
  let (hi, lo) := if a ≥ b then (a, b) else (b, a)
  if hi > lo + 49 then hi
  else if hi > lo + 31 then hi + 1
  else hi + steps.getD (hi - lo) 0

def estimateLog (n : Nat) : Nat :=
  if n ≤ 10 then 0 else logEstimate n - 33

/-- The order a scan is wanted to give: its terms (a field of the first source, or none for a
term that is no column of it) with their directions; whether the terms may come in any order
and direction (GROUP BY and DISTINCT); whether the rows are made distinct; a constant LIMIT;
and the number of result columns. -/
structure Wanted where
  terms : List (Option Field × Bool)
  anyOrder : Bool := false
  distinct : Bool := false
  limit : Option Nat := none
  width : Nat := 1

/-- How many leading terms of a wanted order a scan by index keys and then row id gives, and
whether the scan runs backwards to give them. Once the row id is reached, or the end of keys
that no two rows share (`distinctKeys`), the order is total and every term is given. -/
def Wanted.satisfied (w : Wanted) (keys : List IndexKey) (distinctKeys : Bool) : Nat × Bool :=
  let n := w.terms.length
  let idx := (List.range n).zip w.terms
  -- the terms consumed, in the order the keys consume them, with the direction of the scan
  let rec walk : List IndexKey → List (Nat × Option Field × Bool) → List Nat → Option Bool →
      List Nat × Option Bool × Bool
    | [], pending, done, dir =>
        let total := distinctKeys ||
          (if w.anyOrder then pending.any (·.2.1 == some .rowid)
           else match pending.head? with
             | some (_, some .rowid, d) => dir.isNone || dir == some d
             | _ => false)
        let dir := if dir.isNone && !w.anyOrder then
            (pending.head?.bind fun (_, f, d) => if f == some .rowid then some d else none)
          else dir
        (done, dir, total)
    | k :: ks, pending, done, dir =>
        let hit := if w.anyOrder then pending.find? (·.2.1 == some (.col k.column))
          else pending.head?.filter (·.2.1 == some (.col k.column))
        match hit with
        | some (j, _, d) =>
            let rev := d != k.desc
            if !w.anyOrder && dir.isSome && dir != some rev then (done, dir, false)
            else
              walk ks (pending.filter (·.1 != j)) (done ++ [j])
                (if w.anyOrder then dir else some rev)
        | none => (done, dir, false)
  let (done, dir, total) := walk keys idx [] none
  let count := if total then n
    else ((List.range n).takeWhile fun j => done.contains j).length
  (count, if w.anyOrder then false else dir.getD false)

/-- The cost of sorting `nRow` rows (a logarithmic estimate) for a wanted order of which the
first `sorted` terms are already given. -/
def Wanted.sortCost (w : Wanted) (nRow sorted : Nat) : Nat :=
  let n := w.terms.length
  let nCol := logEstimate ((w.width + 59) / 30)
  let cost : Int := nRow + nCol
  let cost := if sorted > 0 then cost + (logEstimate ((n - sorted) * 100 / n) : Int) - 66
    else cost
  let (cost, rows) := match w.limit with
    | some l =>
        let cost := cost + 10 + (if sorted != 0 then 6 else 0)
        (cost, if logEstimate l < nRow then logEstimate l else nRow)
    | none => (cost, if w.distinct && nRow > 10 then nRow - 10 else nRow)
  (cost + estimateLog rows).toNat

/-- A way to read a table in full: the plan, its cost before sorting, and whether it may stand
for the others of its kind (it helps no wanted order). -/
structure FullScan where
  plan : ScanPlan
  run : Nat
  ordered : Nat
  helpsOrder : Bool

/-- How a table is read when no constraint picks an index, by the engine's estimates: a scan of
the table in row id order, or of an index that holds the columns of a wanted order or every
field the query reads (`used`, when the scan may read an index alone). A scan that reads the
table beside the index pays for the lookups; one that does not give the wanted order pays for
sorting. The cheapest wins, the first found on ties; the table comes first, then the indexes
newest first. `conds` are the conditions on the table, which make fewer rows to sort. -/
def fullScan (t : TableDef) (indexes : List IndexDef) (conds : List Expr) (want : Option Wanted)
    (used : Option (List Field)) : ScanPlan :=
  let want := want.filter (!·.terms.isEmpty)
  let rSize : Nat := 200
  let reduce := conds.foldl (fun (dec, cap) c =>
    let eqCap : Nat := match c with
      | .compare op a b =>
          if op == .eq || op == .is then
            match firstSourceField? a, firstSourceField? b with
            | some _, _ => match b with
                | .lit (.int k) => if -1 ≤ k.toInt && k.toInt ≤ 1 then 10 else 20
                | _ => 20
            | none, some _ => match a with
                | .lit (.int k) => if -1 ≤ k.toInt && k.toInt ≤ 1 then 10 else 20
                | _ => 20
            | none, none => 0
          else 0
      | _ => 0
    (dec + 1, max cap eqCap)) ((0 : Nat), (0 : Nat))
  let nOut := min (rSize - reduce.1) (rSize - reduce.2)
  let tw := t.rowWidth
  let helps (ix : Option IndexDef) : Bool :=
    match want with
    | some w => w.terms.any fun (f, _) =>
        match f, ix with
        | some .rowid, _ => true
        | some (.col c), some i => i.keys.any (·.column == c)
        | some (.col c), none => t.rowidColumn == some c
        | none, _ => false
    | none => false
  let given (keys : List IndexKey) (distinctKeys : Bool) : Nat × Bool :=
    (want.map fun w => w.satisfied keys distinctKeys).getD (0, false)
  let tableScan : FullScan :=
    { plan := { reverse := (given [] false).2 },
      run := rSize + 16,
      ordered := (given [] false).1,
      helpsOrder := helps none }
  let coveringAllowed := used.isSome
  let fields := used.getD []
  let options := indexes.foldl (fun (acc : List FullScan) ix =>
    if ix.filter.isSome then acc
    else
      let covering := coveringAllowed && ix.covers t fields
      let b := helps (some ix)
      let iw := ix.entryWidth t
      if !(b || (covering && iw < tw)) then acc
      else
        let base := rSize + 1 + (15 * iw) / max tw 1
        let lookups := (conds.takeWhile fun c =>
          (Expr.fieldsOf 0 nestFuel c).all fun f =>
            match f with
            | .rowid => true
            | .col k => t.rowidColumn == some k || ix.keys.any (·.column == k)).foldl
          (fun n c =>
            let isEq : Bool := match c with
              | .compare op _ _ => op == .eq || op == .is
              | _ => false
            n - 1 - (bif isEq then 19 else 0)) ((rSize + 16 : Nat) : Int)
        let run := if covering then base else logAdd base lookups.toNat
        let distinctKeys := ix.unique && ix.keys.all fun k =>
          t.rowidColumn == some k.column || ((t.column? k.column).map (·.notNull)).getD false
        let (ordered, rev) := given ix.keys distinctKeys
        let opt : FullScan :=
          { plan := { keys := ix.keys, reverse := rev }, run := run, ordered := ordered,
            helpsOrder := b }
        if b then acc ++ [opt]
        else
          -- scans that help no order compete with each other for one place
          match acc.findIdx? (fun o => !o.helpsOrder) with
          | some k =>
              match acc[k]? with
              | some o => if o.run ≤ run then acc else acc.set k opt
              | none => acc ++ [opt]
          | none => acc ++ [opt]) [tableScan]
  let costOf (o : FullScan) : Nat :=
    match want with
    | some w =>
        if o.ordered ≥ w.terms.length then o.run
        else logAdd o.run (w.sortCost nOut o.ordered) + 3
    | none => o.run
  let best := options.foldl (fun (acc : Option FullScan) o =>
    match acc with
    | none => some o
    | some b => if costOf o < costOf b then some o else some b) none
  match best with
  | some o => o.plan
  | none => {}

/-- Chooses how to read the first table of a FROM clause from the constraints of its WHERE
clause and its ORDER BY. An equality on the row id reads one row; otherwise the index that
fixes the most leading columns wins, then one that bounds its next column, then one whose order
gives the ORDER BY; the newest such index on ties. With no such index, `fullScan` decides, for
the order wanted. -/
def planScan (t : TableDef) (indexes : List IndexDef) (conds : List Expr)
    (cons : List (Field × Bool)) (order : Option (List (Field × Bool))) (want : Option Wanted)
    (used : Option (List Field)) : ScanPlan :=
  let fixed := (cons.filter (·.2)).map (·.1)
  let bounded := (cons.filter (!·.2)).map (·.1)
  let rowidOrder : ScanPlan :=
    match order with
    | some o =>
        match orderGiven [] fixed o with
        | some rev => { reverse := rev }
        | none => {}
    | none => {}
  if fixed.contains .rowid then {}
  else
    let scored := indexes.filterMap fun ix =>
      if ix.filter.isSome then none
      else
        let eq := (ix.keys.takeWhile fun k => fixed.contains (.col k.column)).length
        let range := match ix.keys[eq]? with
          | some k => bounded.contains (.col k.column)
          | none => false
        let given := order.bind fun o => orderGiven ix.keys fixed o
        if eq == 0 && !range then none
        else some ((eq, range.toNat, given.isSome.toNat), ix, given)
    let better (a b : (Nat × Nat × Nat)) : Bool :=
      a.1 > b.1 || (a.1 == b.1 && (a.2.1 > b.2.1 || (a.2.1 == b.2.1 && a.2.2 > b.2.2)))
    let best := scored.foldl (fun acc x =>
      match acc with
      | none => some x
      | some y => if better x.1 y.1 then some x else some y) none
    match best with
    | some (score, ix, given) =>
        if score.1 == 0 && bounded.contains .rowid then rowidOrder
        else { keys := ix.keys, reverse := given.getD false }
    | none => if bounded.contains .rowid then rowidOrder else fullScan t indexes conds want used

def orderFields (ob : List SortTerm) : Option (List (Field × Bool)) :=
  ob.mapM fun (.term e desc _) =>
    match e with
    | .column r => if r.depth == 0 && r.source == 0 then some (r.field, desc) else none
    | _ => none

def compareSlots (plan : ScanPlan) (a b : Slot) : Ordering :=
  match a, b with
  | some (ra, va), some (rb, vb) =>
      let byKeys := plan.keys.foldl (fun acc k =>
        match acc with
        | .eq =>
            let o := compareWith k.collation (va[k.column]?.getD .null) (vb[k.column]?.getD .null)
            if k.desc then o.swap else o
        | o => o) Ordering.eq
      let o := match byKeys with
        | .eq => Ord.compare ra.toInt rb.toInt
        | o => o
      if plan.reverse then o.swap else o
  | _, _ => .eq

/-- Frames in the order a scan plan reads their first source; frames of one row of the first
source keep their order. -/
def orderFrames (plan : ScanPlan) (frames : List Frame) : List Frame :=
  if plan.keys.isEmpty && !plan.reverse then frames
  else frames.mergeSort fun a b => compareSlots plan (a[0]?.getD none) (b[0]?.getD none) != .gt

def Source.first : Source → Source
  | .join l _ _ _ _ _ => l.first
  | s => s

/-- How a simple query reads its first source. `want` is the order a full scan should give,
and `used` the fields of the first source the query reads when the scan may read an index
alone. -/
def planFor (db : Database) (src : Source) (filter : Option Expr) (ob : List SortTerm)
    (want : Option Wanted) (used : Option (List Field)) : ScanPlan :=
  match src.first with
  | .table _ n _ _ =>
      match db.schema.table? n with
      | some t =>
          let conds := (filter.map Expr.conjuncts).getD []
          let conds := conds.filter fun c => !(Expr.fieldsOf 0 nestFuel c).isEmpty
          let cons := conds.filterMap constraintOf
          planScan t (db.schema.indexesOf t.name) conds cons (orderFields ob) want used
      | none => {}
  | _ => {}

/-- Whether DISTINCT cannot meet two equal rows of a query that reads one table: its columns
hold the row id, or every column of a UNIQUE index, each NOT NULL or fixed by an equality with
a constant in the condition. The scan then need not give the rows in any order. -/
def distinctRedundant (db : Database) (src : Source) (filter : Option Expr) (exprs : List Expr) :
    Bool :=
  match src with
  | .table _ n _ _ =>
      match db.schema.table? n with
      | some t =>
          let fields := exprs.filterMap firstSourceField?
          let isRowid (f : Field) : Bool := match f with
            | .rowid => true
            | .col i => t.rowidColumn == some i
          if fields.any isRowid then true
          else
            let constant (e : Expr) : Bool := (Expr.fieldsOf 0 nestFuel e).isEmpty
            let fixed := ((filter.map Expr.conjuncts).getD []).filterMap fun c =>
              match c with
              | .compare .eq a b =>
                  match firstSourceField? a, firstSourceField? b with
                  | some f, none => if constant b then some f else none
                  | none, some f => if constant a then some f else none
                  | _, _ => none
              | _ => none
            (db.schema.indexesOf t.name).any fun ix =>
              ix.unique && ix.filter.isNone && ix.keys.all fun k =>
                fixed.contains (.col k.column) ||
                  (fields.contains (.col k.column) &&
                    ((t.column? k.column).map (·.notNull)).getD false)
      | none => false
  | _ => false

def tableRows (db : Database) (n : String) : List Row :=
  if isMasterName n then masterRows db.schema
  else
    match db.schema.table? n with
    | some t => db.rowsOf t
    | none => []

def functionError (m : String) : SqlError :=
  if m == "string or blob too big" then { message := m, code := 18 } else .plain m

mutual

/-- The value of an expression. `grp` holds the rows of the current group when the innermost
level is an aggregate query; the innermost frame is then the group's last row. -/
def evalExpr (cx : Ctx) : Nat → Env → Option (List Frame) → Expr → Except SqlError Value
  | 0, _, _, _ => .error (.plain "expression too deeply nested")
  | fuel + 1, env, grp, e =>
      let go := evalExpr cx fuel env grp
      match e with
      | .lit v => pure v
      | .param t => pure (cx.param t)
      | .column ref => pure (readRef env ref)
      | .integer t off => integerLiteral t false off
      | .real t => pure (realLiteral t false)
      | .unary op a => do
          let v ← go a
          match op with
          | .neg => pure (Value.arith .sub (.int 0) v)
          | .pos => pure v
          | .bitNot => pure (Value.complement v)
          | .not => pure (notValue v)
      | .binary op a b => do
          let x ← go a
          let y ← go b
          pure (binaryValue op x y)
      | .compare op a b =>
          if a.vectorSize == 1 && b.vectorSize == 1 then do
            let x ← go a
            let y ← go b
            pure (compareValues op (compareAffinity a b) (compareCollation a b) x y)
          else do
            let xs ← evalRow cx fuel env grp a
            let ys ← evalRow cx fuel env grp b
            let parts := match a, b with
              | .vector as, .vector bs => (as.zip bs).map fun (p, q) =>
                  (compareAffinity p q, compareCollation p q)
              | .vector as, _ => as.map fun p => (Expr.affinity nestFuel p, compareCollation p p)
              | _, .vector bs => bs.map fun q => (Expr.affinity nestFuel q, compareCollation q q)
              | _, _ => []
            let quads := (xs.zip ys).zipIdx 0 |>.map fun ((x, y), i) =>
              let (aff, c) := parts.getD i (none, .binary)
              (x, y, aff, c)
            pure (vectorCompare op quads)
      | .pattern op negated subj pat esc word _ => do
          let s ← go subj
          let p ← go pat
          let x ← esc.mapM go
          let fn := match op with
            | .like => "like"
            | .glob => "glob"
            | _ => word.toLower
          match op with
          | .regexp | .matchText =>
              .error (.plain ("unable to use function " ++ word.toUpper ++ " in the requested context"))
          | _ =>
              match callScalar cx.session fn ([p, s] ++ x.toList) with
              | .ok r => pure (if negated then notValue r else r)
              | .error m => .error (functionError m)
      | .isNull a negated => do
          let v ← go a
          pure (Value.ofTruth (some ((v == .null) != negated)))
      | .between a lo hi negated => do
          let x ← go a
          let l ← go lo
          let h ← go hi
          let ge := compareValues .ge (compareAffinity a lo) (compareCollation a lo) x l
          let le := compareValues .le (compareAffinity a hi) (compareCollation a hi) x h
          let r := Value.ofTruth (andTruth ge.truth? le.truth?)
          pure (if negated then notValue r else r)
      | .inList a items negated => do
          let x ← go a
          let ys ← items.mapM go
          pure (inResult x ys (Expr.affinity nestFuel a) ((Expr.collation? nestFuel a).getD .binary)
            negated)
      | .inQuery a q negated => do
          let x ← go a
          let rows ← runQuery cx fuel env q
          let ys := rows.map fun r => r[0]?.getD .null
          let first := q.firstExpr?
          let aff := match first with
            | some f => comparisonAffinity (Expr.affinity nestFuel f) (Expr.affinity nestFuel a)
            | none => Expr.affinity nestFuel a
          let coll := match first with
            | some f => compareCollation a f
            | none => (Expr.collation? nestFuel a).getD .binary
          pure (inResult x ys aff coll negated)
      | .existsQuery q => do
          let rows ← runQuery cx fuel env q
          pure (.int (if rows.isEmpty then 0 else 1))
      | .scalar q => do
          let rows ← runQuery cx fuel env q
          pure ((rows.head?.bind fun r => r[0]?).getD .null)
      | .caseOf op arms other => do
          let subject ← op.mapM go
          let rec pick : List (Expr × Expr) → Except SqlError (Option Expr)
            | [] => pure none
            | (w, v) :: rest => do
                let c ← go w
                let hit : Bool := match subject, op with
                  | some x, some o =>
                      compareValues .eq (compareAffinity o w) (compareCollation o w) x c == .int 1
                  | _, _ => c.truth? == some true
                if hit then pure (some v) else pick rest
          match ← pick arms with
          | some v => go v
          | none =>
              match other with
              | some o => go o
              | none => pure .null
      | .cast a t => do
          let v ← go a
          pure (Value.cast (Affinity.ofCastType t) v)
      | .collate a _ _ => go a
      | .vector items =>
          match items with
          | [a] => go a
          | _ => .error (.plain "row value misused")
      | .call f _ distinct args star =>
          let name := f.toLower
          match functionKind name args.length with
          | .aggregate =>
              match grp with
              | some rows => do
                  let argRows ← rows.mapM fun r =>
                    args.mapM (evalExpr cx fuel (r :: env.drop 1) none)
                  let coll := ((args.head?.bind (Expr.collation? nestFuel)).getD .binary)
                  let argRows := if distinct then distinctArgs coll argRows else argRows
                  match aggregateValue name star argRows coll with
                  | .ok v => pure v
                  | .error m => .error (functionError m)
              | none => pure .null
          | _ =>
              if name == "coalesce" || name == "ifnull" then
                let rec firstSet : List Expr → Except SqlError Value
                  | [] => pure .null
                  | a :: rest => do
                      let v ← go a
                      if v == .null then firstSet rest else pure v
                firstSet args
              else if name == "iif" || name == "if" then
                let rec choose : List Expr → Except SqlError Value
                  | [] => pure .null
                  | [x] => go x
                  | c :: v :: rest => do
                      let t ← go c
                      if t.truth? == some true then go v else choose rest
                choose args
              else do
                let vs ← args.mapM go
                match callScalar cx.session name vs with
                | .ok v => pure v
                | .error m => .error (functionError m)
      | _ => pure .null

def evalRow (cx : Ctx) : Nat → Env → Option (List Frame) → Expr → Except SqlError (List Value)
  | 0, _, _, _ => .error (.plain "expression too deeply nested")
  | fuel + 1, env, grp, e =>
      match e with
      | .vector items => items.mapM (evalExpr cx fuel env grp)
      | .scalar q => do
          let rows ← runQuery cx fuel env q
          match rows.head? with
          | some r => pure r.toList
          | none => pure (List.replicate q.width .null)
      | e => do return [← evalExpr cx fuel env grp e]

def runQuery (cx : Ctx) : Nat → Env → Query → Except SqlError (List (Array Value))
  | 0, _, _ => .error (.plain "query too deeply nested")
  | fuel + 1, env, .query _ first rest ob lim off => do
      let limit ← lim.mapM fun e => do countValue (← evalExpr cx fuel env none e)
      let offset ← off.mapM fun e => do countValue (← evalExpr cx fuel env none e)
      if let some l := limit then
        if l == 0 then return []
      if rest.isEmpty then
        let rows ← runCore cx fuel env first ob
        return window rows limit offset
      else
        let firstRows ← runCore cx fuel env first []
        let combined ← rest.foldlM (fun acc (op, c) => do
          let rows ← runCore cx fuel env c []
          pure (combineRows op acc rows)) firstRows
        if ob.isEmpty then return window combined limit offset
        let specs := ob.map fun (.term e desc nulls) =>
          (⟨(Expr.collation? nestFuel e).getD .binary, desc, nulls⟩ : SortSpec)
        let keyed ← combined.mapM fun r => do
          let ks ← ob.mapM fun (.term e _ _) => evalExpr cx fuel (#[some (0, r)] :: env) none e
          pure (r, ks)
        return window ((sortByKeys specs keyed).map (·.1)) limit offset

def runCore (cx : Ctx) : Nat → Env → Core → List SortTerm → Except SqlError (List (Array Value))
  | 0, _, _, _ => .error (.plain "query too deeply nested")
  | fuel + 1, env, .values rows, ob => do
      let out ← rows.mapM fun row => do
        let vs ← row.mapM (evalExpr cx fuel (#[] :: env) none)
        pure vs.toArray
      if ob.isEmpty then return out
      let specs := ob.map fun (.term e desc nulls) =>
        (⟨(Expr.collation? nestFuel e).getD .binary, desc, nulls⟩ : SortSpec)
      let keyed ← out.mapM fun r => do
        let ks ← ob.mapM fun (.term e _ _) => evalExpr cx fuel (#[some (0, r)] :: env) none e
        pure (r, ks)
      return (sortByKeys specs keyed).map (·.1)
  | fuel + 1, env, .select distinct cols src filter groupBy having, ob => do
      let exprs := cols.filterMap fun
        | .expr e _ _ => some e
        | _ => none
      let aggregate := !groupBy.isEmpty || exprs.any (Expr.hasAggregate nestFuel) ||
        having.isSome
      let frames ← match src with
        | some s => do
            let fs ← sourceFrames cx fuel env (Source.count s) 0 s
            let read := exprs ++ filter.toList ++ groupBy ++ having.toList ++
              ob.map (fun (.term e _ _) => e)
            let used := read.flatMap (Expr.fieldsOf 0 nestFuel)
            let asTerm (e : Expr) (d : Bool) : Option Field × Bool := (firstSourceField? e, d)
            let want : Option Wanted :=
              if aggregate then
                if groupBy.isEmpty then none
                else some { terms := groupBy.map (asTerm · false), anyOrder := true,
                            width := exprs.length }
              else if !ob.isEmpty then
                some { terms := ob.map (fun (.term e d _) => asTerm e d), distinct := distinct,
                       width := exprs.length }
              else if distinct && !distinctRedundant cx.db s filter exprs then
                some { terms := exprs.map (asTerm · false), anyOrder := true, distinct := true,
                       width := exprs.length }
              else none
            pure (orderFrames (planFor cx.db s filter ob want (some used)) fs)
        | none => pure [#[]]
      let frames ← frames.filterM fun fr =>
        match filter with
        | some c => do
            let v ← evalExpr cx fuel (fr :: env) none c
            pure (v.truth? == some true)
        | none => pure true
      let specs := ob.map fun (.term e desc nulls) =>
        (⟨(Expr.collation? nestFuel e).getD .binary, desc, nulls⟩ : SortSpec)
      let keyed ← if aggregate then do
          let groups ← if groupBy.isEmpty then pure [frames]
            else do
              let keyedFrames ← frames.mapM fun fr => do
                let ks ← groupBy.mapM (evalExpr cx fuel (fr :: env) none)
                pure (fr, ks)
              let gspecs := groupBy.map fun g =>
                (⟨(Expr.collation? nestFuel g).getD .binary, false, none⟩ : SortSpec)
              let sorted := sortByKeys gspecs keyedFrames
              let grouped := sorted.foldl (fun (acc : List (List Value × List Frame)) (fr, ks) =>
                match acc with
                | (k, frs) :: more =>
                    if compareKeys gspecs k ks == .eq && k.length == ks.length then
                      (k, frs ++ [fr]) :: more
                    else (ks, [fr]) :: acc
                | [] => [(ks, [fr])]) []
              pure (grouped.reverse.map (·.2))
          let width := (frames.head?.map (·.size)).getD (match src with
            | some s => Source.count s
            | none => 0)
          let outs ← groups.filterMapM fun rows => do
            let bare := rows.getLast?.getD (Array.replicate width none)
            let genv := bare :: env
            let keep ← match having with
              | some h => do
                  let v ← evalExpr cx fuel genv (some rows) h
                  pure (v.truth? == some true)
              | none => pure true
            if !keep then return none
            let out ← exprs.mapM (evalExpr cx fuel genv (some rows))
            let ks ← ob.mapM fun (.term e _ _) => evalExpr cx fuel genv (some rows) e
            return some (out.toArray, ks)
          pure outs
        else
          frames.mapM fun fr => do
            let out ← exprs.mapM (evalExpr cx fuel (fr :: env) none)
            let ks ← ob.mapM fun (.term e _ _) => evalExpr cx fuel (fr :: env) none e
            pure (out.toArray, ks)
      let keyed := if distinct then distinctRows keyed else keyed
      if ob.isEmpty then return keyed.map (·.1)
      return (sortByKeys specs keyed).map (·.1)

/-- The frames of a FROM clause whose first source stands at `start` in a level of `width`
sources. -/
def sourceFrames (cx : Ctx) : Nat → Env → Nat → Nat → Source → Except SqlError (List Frame)
  | 0, _, _, _, _ => .error (.plain "query too deeply nested")
  | fuel + 1, env, width, start, src =>
      match src with
      | .table _ n _ _ =>
          pure ((tableRows cx.db n).map fun r => frameWith width start (some (r.rowid, r.vals)))
      | .query q _ => do
          let rows ← runQuery cx fuel env q
          pure (rows.map fun r => frameWith width start (some (0, r)))
      | .join l kind _ r on _ => do
          let ls ← sourceFrames cx fuel env width start l
          let rStart := start + Source.count l
          let rEnd := rStart + Source.count r
          let rs ← sourceFrames cx fuel env width rStart r
          let holds (fr : Frame) : Except SqlError Bool :=
            match on with
            | some c => do
                let v ← evalExpr cx fuel (fr :: env) none c
                pure (v.truth? == some true)
            | none => pure true
          let pairs ← ls.mapM fun lf => do
            let hits ← rs.filterM fun rf => holds (mergeFrames lf rf)
            pure (lf, hits)
          let joined := pairs.flatMap fun (lf, hits) =>
            if hits.isEmpty && (kind == .left || kind == .full) then [clearSlots lf rStart rEnd]
            else hits.map (mergeFrames lf)
          if kind == .right || kind == .full then
            let unmatched := rs.filter fun rf =>
              !(pairs.any fun (_, hits) => hits.any fun h => h == rf)
            pure (joined ++ unmatched.map fun rf => clearSlots rf start rStart)
          else pure joined

end

end Sql
end Store
end MemoryRecorder
