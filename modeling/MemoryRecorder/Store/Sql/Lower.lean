import MemoryRecorder.Store.Sql.Resolve
/-!
# Lowering a statement for evaluation

After names are resolved, a statement is made ready to run, the way the engine compiles it:

* numeric literals become values. A decimal integer too large for the word is a double, except
  that `-9223372036854775808` is the least integer; a hexadecimal literal is the 64 bits it
  spells, and one of more than sixteen significant digits, or the negation of the least integer,
  fails with `hex literal too big`;
* parameters are numbered: `?` takes the number after the greatest so far, `?N` is number `N`,
  and a named parameter takes a number the first time its name is seen;
* a row value may only stand where a comparison or IN takes one (`row value misused`), and a
  subquery must give as many columns as its place takes (`sub-select returns N columns`).
-/

namespace MemoryRecorder
namespace Store
namespace Sql

/-- The value of an integer literal, negated when a minus stands before it. -/
def integerLiteral (text : String) (negative : Bool) (offset : Nat) : Except SqlError Value :=
  let cs := text.toList
  let decimal : Except SqlError Value :=
    match scanInt cs with
    | (.exact, v) => .ok (.int (if negative then -v else v))
    | (.limit, _) =>
        if negative then .ok (.int Int64.minValue)
        else .ok (Value.ofFloat (scanReal cs).value)
    | _ =>
        let r := (scanReal cs).value
        .ok (Value.ofFloat (if negative then -r else r))
  match cs with
  | '0' :: x :: hex =>
      if x == 'x' || x == 'X' then
        let digits := hex.dropWhile (· == '0')
        let bits := digits.foldl (fun acc c => acc * 16 + hexValue c) 0
        let v := Int64.ofNat bits
        let tooBig : SqlError :=
          .at_ ("hex literal too big: " ++ (if negative then "-" else "") ++ text) offset
        if 16 < digits.length then .error tooBig
        else if negative then
          if v == Int64.minValue then .error tooBig else .ok (.int (-v))
        else .ok (.int v)
      else decimal
  | _ => decimal

def realLiteral (text : String) (negative : Bool) : Value :=
  let r := (scanReal text.toList).value
  Value.ofFloat (if negative then -r else r)

/-- The numbering of a statement's parameters: the greatest number given so far, and the
numbers of the names seen. -/
structure Params where
  count : Nat := 0
  named : List (String × Nat) := []

abbrev LowerM := StateT Params (Except SqlError)

/-- The text a parameter is known by once numbered: `?N`. -/
def numberParam (text : String) : LowerM String := do
  let p ← get
  let cs := text.toList
  match cs with
  | ['?'] =>
      set { p with count := p.count + 1 }
      return "?" ++ toString (p.count + 1)
  | '?' :: ds =>
      match Text.digitsValue? 10 ds with
      | some n =>
          if n < 1 || 32766 < n then
            throw (.plain "variable number must be between ?1 and ?32766")
          set { p with count := max p.count n }
          return "?" ++ toString n
      | none => throw (.plain ("unrecognized token: \"" ++ text ++ "\""))
  | _ =>
      match p.named.find? (·.1 == text) with
      | some (_, n) => return "?" ++ toString n
      | none =>
          set { p with count := p.count + 1, named := p.named ++ [(text, p.count + 1)] }
          return "?" ++ toString (p.count + 1)

def Query.width : Query → Nat
  | .query _ first _ _ _ _ => first.width

/-- How many values an expression stands for: the items of a row value, the columns of a
subquery, one otherwise. -/
def Expr.vectorSize : Expr → Nat
  | .vector items => items.length
  | .scalar q => q.width
  | _ => 1

def subselectError (got expected : Nat) : SqlError :=
  .plain ("sub-select returns " ++ toString got ++ " columns - expected " ++ toString expected)

mutual

/-- Lowers an expression standing where one value is taken. -/
def lowerExpr : Nat → Expr → LowerM Expr
  | 0, _ => throw (.plain "expression too deeply nested")
  | fuel + 1, e =>
      let go := lowerExpr fuel
      match e with
      | .integer t off => do return .lit (← integerLiteral t false off)
      | .real t => pure (.lit (realLiteral t false))
      | .unary .neg (.integer t off) => do return .lit (← integerLiteral t true off)
      | .unary .neg (.real t) => pure (.lit (realLiteral t true))
      | .param t => do return .param (← numberParam t)
      | .unary op a => do return .unary op (← go a)
      | .binary op a b => do
          let a' ← go a
          return .binary op a' (← go b)
      | .compare op a b => do
          let na := a.vectorSize
          let nb := b.vectorSize
          if na == 1 && nb == 1 then
            let a' ← go a
            return .compare op a' (← go b)
          else if na != nb then throw (.plain "row value misused")
          else
            let a' ← lowerRow fuel a
            return .compare op a' (← lowerRow fuel b)
      | .pattern op n a b esc w o => do
          let a' ← go a
          let b' ← go b
          return .pattern op n a' b' (← esc.mapM go) w o
      | .isNull a n => do return .isNull (← go a) n
      | .between a lo hi n => do
          let a' ← go a
          let lo' ← go lo
          return .between a' lo' (← go hi) n
      | .inList a items n => do
          let a' ← go a
          return .inList a' (← items.mapM go) n
      | .inQuery a q n => do
          let na := a.vectorSize
          if q.width != na then throw (subselectError q.width na)
          let a' ← if na == 1 then go a else lowerRow fuel a
          return .inQuery a' (← lowerQuery fuel q) n
      | .existsQuery q => do return .existsQuery (← lowerQuery fuel q)
      | .scalar q => do
          if q.width != 1 then throw (subselectError q.width 1)
          return .scalar (← lowerQuery fuel q)
      | .caseOf op arms other => do
          let op' ← op.mapM go
          let arms' ← arms.mapM fun (c, v) => do
            let c' ← go c
            return (c', ← go v)
          return .caseOf op' arms' (← other.mapM go)
      | .cast a t => do return .cast (← go a) t
      | .collate a c o => do return .collate (← go a) c o
      | .call f o d args st => do return .call f o d (← args.mapM go) st
      | .vector _ => throw (.plain "row value misused")
      | e => pure e

def lowerRow : Nat → Expr → LowerM Expr
  | 0, _ => throw (.plain "expression too deeply nested")
  | fuel + 1, e =>
      match e with
      | .vector items => do return .vector (← items.mapM (lowerExpr fuel))
      | .scalar q => do return .scalar (← lowerQuery fuel q)
      | e => lowerExpr fuel e

def lowerQuery : Nat → Query → LowerM Query
  | 0, _ => throw (.plain "query too deeply nested")
  | fuel + 1, .query ctes first rest ob lim off => do
      let first' ← lowerCore fuel first
      let rest' ← rest.mapM fun (op, c) => do return (op, ← lowerCore fuel c)
      let ob' ← ob.mapM fun (.term e d n) => do return SortTerm.term (← lowerExpr fuel e) d n
      let lim' ← lim.mapM (lowerExpr fuel)
      let off' ← off.mapM (lowerExpr fuel)
      return .query ctes first' rest' ob' lim' off'

def lowerCore : Nat → Core → LowerM Core
  | 0, _ => throw (.plain "query too deeply nested")
  | fuel + 1, .values rows => do
      return .values (← rows.mapM fun row => row.mapM (lowerExpr fuel))
  | fuel + 1, .select distinct cols src filter groupBy having => do
      let cols' ← cols.mapM fun c => do
        match c with
        | .expr e aliasName span => return ResultColumn.expr (← lowerExpr fuel e) aliasName span
        | c => pure c
      let src' ← src.mapM (lowerSource fuel)
      let filter' ← filter.mapM (lowerExpr fuel)
      let groupBy' ← groupBy.mapM (lowerExpr fuel)
      let having' ← having.mapM (lowerExpr fuel)
      return .select distinct cols' src' filter' groupBy' having'

def lowerSource : Nat → Source → LowerM Source
  | 0, _ => throw (.plain "query too deeply nested")
  | fuel + 1, src =>
      match src with
      | .query q aliasName => do return .query (← lowerQuery fuel q) aliasName
      | .join l kind natural r on usingCols => do
          let l' ← lowerSource fuel l
          let r' ← lowerSource fuel r
          return .join l' kind natural r' (← on.mapM (lowerExpr fuel)) usingCols
      | src => pure src

end

end Sql
end Store
end MemoryRecorder
