import MemoryRecorder.Store.Sql.Parser.Basic
/-!
# Reading expressions and queries

Expressions are read by precedence climbing. From loosest to tightest the binary operators bind:
`OR`; `AND`; the equality level (`=`, `==`, `!=`, `<>`, `IS [NOT] [DISTINCT FROM]`, `ISNULL`,
`NOTNULL`, `NOT NULL`, `[NOT] LIKE`/`GLOB`/`REGEXP`/`MATCH` with `ESCAPE`, `[NOT] BETWEEN … AND`,
`[NOT] IN`); `<`, `<=`, `>`, `>=`; `&`, `|`, `<<`, `>>`; `+`, `-`; `*`, `/`, `%`; `||`; and
`COLLATE`. All are left-associative. Prefix `NOT` takes everything down to the equality level;
prefix `-`, `+` and `~` take a single term.

Queries are SELECTs and VALUES lists joined by UNION [ALL], INTERSECT and EXCEPT, after an
optional WITH clause, with ORDER BY and LIMIT after the last; an ORDER BY or LIMIT before a set
operation is an error. The FROM clause is a left-deep chain of joins.

Every function takes a fuel argument that bounds its depth of recursion; the reader starts with
more than the tokens can use.
-/

namespace MemoryRecorder
namespace Store
namespace Sql

/-- How tightly a token binds as a binary operator; zero when it is none. -/
def operatorPrecedence (t : Token) : Nat :=
  match t.kind with
  | .symbol s =>
      if s == "||" || s == "->" || s == "->>" then 10
      else if s == "*" || s == "/" || s == "%" then 9
      else if s == "+" || s == "-" then 8
      else if s == "&" || s == "|" || s == "<<" || s == ">>" then 7
      else if s == "<" || s == "<=" || s == ">" || s == ">=" then 5
      else if s == "=" || s == "!=" then 4
      else 0
  | .keyword w =>
      if w == "OR" then 1
      else if w == "AND" then 2
      else if w == "COLLATE" then 11
      else if ["IS", "ISNULL", "NOTNULL", "NOT", "LIKE", "GLOB", "REGEXP", "MATCH", "BETWEEN",
          "IN"].contains w then 4
      else 0
  | _ => 0

def binaryOfSymbol (s : String) (a b : Expr) (t : Token) : Expr :=
  match s with
  | "||" => .binary .concat a b
  | "*" => .binary .mul a b
  | "/" => .binary .div a b
  | "%" => .binary .rem a b
  | "+" => .binary .add a b
  | "-" => .binary .sub a b
  | "&" => .binary .bitAnd a b
  | "|" => .binary .bitOr a b
  | "<<" => .binary .shl a b
  | ">>" => .binary .shr a b
  | "<" => .compare .lt a b
  | "<=" => .compare .le a b
  | ">" => .compare .gt a b
  | ">=" => .compare .ge a b
  | "=" => .compare .eq a b
  | "!=" => .compare .ne a b
  | _ => .call t.text t.start false [a, b] false

def patternOfWord (w : String) : PatternOp :=
  match w with
  | "GLOB" => .glob
  | "REGEXP" => .regexp
  | "MATCH" => .matchText
  | _ => .like

def tableQuery (schemaName : Option String) (table : String) (offset : Nat) : Query :=
  .query [] (.select false [.all offset] (some (.table schemaName table none offset)) none [] none)
    [] [] none none

/-- The join kind that up to three words spell, or the engine's report. -/
def joinKindOf (words : List Token) : Except SqlError (JoinKind × Bool) :=
  let codes := words.map fun t =>
    match t.text.toUpper with
    | "NATURAL" => some (true, false, false, false, false, false)
    | "LEFT" => some (false, true, false, true, false, false)
    | "OUTER" => some (false, false, false, true, false, false)
    | "RIGHT" => some (false, false, true, true, false, false)
    | "FULL" => some (false, true, true, true, false, false)
    | "INNER" => some (false, false, false, false, true, false)
    | "CROSS" => some (false, false, false, false, true, true)
    | _ => none
  let bad := codes.any (·.isNone)
  let flags := codes.filterMap id
  let natural := flags.any (·.1)
  let left := flags.any (·.2.1)
  let right := flags.any (·.2.2.1)
  let outer := flags.any (·.2.2.2.1)
  let inner := flags.any (·.2.2.2.2.1)
  let cross := flags.any (·.2.2.2.2.2)
  if bad || (inner && outer) || (outer && !left && !right) then
    let text := " ".intercalate (words.map (·.text))
    match words.head? with
    | some t => .error (.at_ ("unknown join type: " ++ text) t.start)
    | none => .error (.plain "unknown join type: ")
  else
    let kind := if left && right then JoinKind.full else if left then .left
      else if right then .right else if cross then .cross else .inner
    .ok (kind, natural)

section Reader

variable (r : Reading)

mutual

def expr : Nat → Parse Expr
  | 0 => failHere r
  | fuel + 1 => exprFrom fuel 1

/-- An expression of operators that bind at least as tightly as a level. -/
def exprFrom : Nat → Nat → Parse Expr
  | 0, _ => failHere r
  | fuel + 1, minPrec => do
      let lhs ← prefixExpr fuel
      climb fuel minPrec lhs

/-- The rest of an expression after its left operand. -/
def climb : Nat → Nat → Expr → Parse Expr
  | 0, _, _ => failHere r
  | fuel + 1, minPrec, lhs => do
      let t ← peek r
      let prec := operatorPrecedence t
      if prec == 0 || prec < minPrec then return lhs
      let _ ← bump r
      let next ← match t.kind with
        | .symbol s => do
            let rhs ← exprFrom fuel (prec + 1)
            pure (binaryOfSymbol s lhs rhs t)
        | .keyword "OR" => do
            let rhs ← exprFrom fuel 2
            pure (.binary .or lhs rhs)
        | .keyword "AND" => do
            let rhs ← exprFrom fuel 3
            pure (.binary .and lhs rhs)
        | .keyword "COLLATE" => do
            let c ← expectToken r Token.isIds
            pure (.collate lhs c.value c.start)
        | .keyword "IS" => do
            if ← acceptWord r "NOT" then
              if ← acceptWord r "DISTINCT" then
                let _ ← expectWord r "FROM"
                pure (.compare .is lhs (← exprFrom fuel 5))
              else pure (.compare .isNot lhs (← exprFrom fuel 5))
            else if ← acceptWord r "DISTINCT" then
              let _ ← expectWord r "FROM"
              pure (.compare .isNot lhs (← exprFrom fuel 5))
            else pure (.compare .is lhs (← exprFrom fuel 5))
        | .keyword "ISNULL" => pure (.isNull lhs false)
        | .keyword "NOTNULL" => pure (.isNull lhs true)
        | .keyword "NOT" => do
            let u ← peek r
            if u.isWord "NULL" then
              let _ ← bump r
              pure (.isNull lhs true)
            else if u.isWord "BETWEEN" then
              let _ ← bump r
              betweenRest fuel lhs true
            else if u.isWord "IN" then
              let _ ← bump r
              inRest fuel lhs true
            else if (likeWords ++ ["MATCH"]).any u.isWord then
              let _ ← bump r
              patternRest fuel lhs true u
            else failAt u
        | .keyword "BETWEEN" => betweenRest fuel lhs false
        | .keyword "IN" => inRest fuel lhs false
        | _ => patternRest fuel lhs false t
      climb fuel minPrec next

def patternRest : Nat → Expr → Bool → Token → Parse Expr
  | 0, _, _, _ => failHere r
  | fuel + 1, lhs, negated, word => do
      let pat ← exprFrom fuel 5
      let escape ← if ← acceptWord r "ESCAPE" then some <$> exprFrom fuel 5 else pure none
      let op := match word.kind with
        | .keyword w => patternOfWord w
        | _ => .like
      return .pattern op negated lhs pat escape word.text word.start

def betweenRest : Nat → Expr → Bool → Parse Expr
  | 0, _, _ => failHere r
  | fuel + 1, lhs, negated => do
      let lo ← exprFrom fuel 4
      -- an OR goes into the lower bound, and the ANDs after it go into the OR
      let lo ← if (← peek r).isWord "OR" then climb fuel 1 lo else pure lo
      let _ ← expectWord r "AND"
      let hi ← exprFrom fuel 5
      return .between lhs lo hi negated

/-- The rest of an IN after its word: a list, a query, or a table. -/
def inRest : Nat → Expr → Bool → Parse Expr
  | 0, _, _ => failHere r
  | fuel + 1, lhs, negated => do
      if ← acceptSymbol r "(" then
        if (← peek r).startsQuery then
          let q ← query fuel
          let _ ← expectSymbol r ")"
          return .inQuery lhs q negated
        else if ← acceptSymbol r ")" then return .inList lhs [] negated
        else
          let items ← exprList fuel
          let _ ← expectSymbol r ")"
          return .inList lhs items negated
      else
        let t ← peek r
        let (schemaName, table, _) ← qualifiedName r
        if ← acceptSymbol r "(" then
          if !(← acceptSymbol r ")") then
            let _ ← exprList fuel
            let _ ← expectSymbol r ")"
        return .inQuery lhs (tableQuery schemaName table t.start) negated

def prefixExpr : Nat → Parse Expr
  | 0 => failHere r
  | fuel + 1 => do
      let t ← peek r
      if t.isWord "NOT" then
        let _ ← bump r
        return .unary .not (← exprFrom fuel 3)
      else if t.isSymbol "-" then
        let _ ← bump r
        return .unary .neg (← prefixExpr fuel)
      else if t.isSymbol "+" then
        let _ ← bump r
        return .unary .pos (← prefixExpr fuel)
      else if t.isSymbol "~" then
        let _ ← bump r
        return .unary .bitNot (← prefixExpr fuel)
      else primary fuel

/-- A term: a literal, a name, a call, a parenthesised expression or query, CAST, CASE, EXISTS
or RAISE. -/
def primary : Nat → Parse Expr
  | 0 => failHere r
  | fuel + 1 => do
      let t ← peek r
      match t.kind with
      | .integer =>
          let _ ← bump r
          return .integer t.text t.start
      | .separated =>
          let _ ← bump r
          match separatedNumber t with
          | .ok e => return e
          | .error e => throw e
      | .float =>
          let _ ← bump r
          return .real t.text
      | .blob =>
          let _ ← bump r
          return .lit (.blob (blobBytes t.text))
      | .variable =>
          if t.text.startsWith "#" && ((t.text.toList.drop 1).head?.map Char.isDigit).getD false then
            failAt t
          else
            let _ ← bump r
            return .param t.text
      | .string =>
          if (← peekNext r).isSymbol "." then nameTerm fuel
          else
            let _ ← bump r
            return .lit (.text t.value)
      | .symbol "(" =>
          let _ ← bump r
          if (← peek r).startsQuery then
            let q ← query fuel
            let _ ← expectSymbol r ")"
            return .scalar q
          else
            let items ← exprList fuel
            let _ ← expectSymbol r ")"
            match items with
            | [e] => return e
            | es => return .vector es
      | .keyword "NULL" =>
          let _ ← bump r
          return .lit .null
      | .keyword "CAST" =>
          let _ ← bump r
          let _ ← expectSymbol r "("
          let e ← expr fuel
          let _ ← expectWord r "AS"
          let ty ← typeName fuel
          let _ ← expectSymbol r ")"
          return .cast e ty
      | .keyword "CASE" =>
          let _ ← bump r
          let operand ← if (← peek r).isWord "WHEN" then pure none else some <$> expr fuel
          let arms ← caseArms fuel
          let otherwise ← if ← acceptWord r "ELSE" then some <$> expr fuel else pure none
          let _ ← expectWord r "END"
          return .caseOf operand arms otherwise
      | .keyword "EXISTS" =>
          let _ ← bump r
          let _ ← expectSymbol r "("
          let q ← query fuel
          let _ ← expectSymbol r ")"
          return .existsQuery q
      | .keyword "RAISE" =>
          let _ ← bump r
          let _ ← expectSymbol r "("
          if ← acceptWord r "IGNORE" then
            let _ ← expectSymbol r ")"
            return .raise ""
          else
            let _ ← expectToken r fun u => u.isWord "ROLLBACK" || u.isWord "ABORT" || u.isWord "FAIL"
            let _ ← expectSymbol r ","
            let e ← expr fuel
            let _ ← expectSymbol r ")"
            match e with
            | .lit (.text m) => return .raise m
            | _ => return .raise ""
      | .keyword w =>
          if timeWords.contains w then
            let _ ← bump r
            return .call t.text t.start false [] false
          else if t.isIdj then nameTerm fuel
          else failAt t
      | .name => nameTerm fuel
      | _ => failAt t

def nameTerm : Nat → Parse Expr
  | 0 => failHere r
  | fuel + 1 => do
      let t ← bump r
      let u ← peek r
      if u.isSymbol "(" && t.isIdj then
        let _ ← bump r
        if ← acceptSymbol r "*" then
          let _ ← expectSymbol r ")"
          return .call t.text t.start false [] true
        else
          let distinct ← if ← acceptWord r "DISTINCT" then pure true
            else do
              let _ ← acceptWord r "ALL"
              pure false
          let args ← if (← peek r).isSymbol ")" || (← peek r).isWord "ORDER" then pure []
            else exprList fuel
          if ← acceptWord r "ORDER" then
            let _ ← expectWord r "BY"
            let _ ← sortList fuel
          let _ ← expectSymbol r ")"
          return .call t.text t.start distinct args false
      else if u.isSymbol "." then
        let _ ← bump r
        let second ← expectToken r Token.isNm
        if (← peek r).isSymbol "." then
          let _ ← bump r
          let third ← expectToken r Token.isNm
          return .dotted [t.value, second.value, third.value] t.start
        else return .dotted [t.value, second.value] t.start
      else return .name t.value t.isDoubleQuoted t.start

def caseArms : Nat → Parse (List (Expr × Expr))
  | 0 => failHere r
  | fuel + 1 => do
      let _ ← expectWord r "WHEN"
      let c ← expr fuel
      let _ ← expectWord r "THEN"
      let v ← expr fuel
      if (← peek r).isWord "WHEN" then return (c, v) :: (← caseArms fuel)
      else return [(c, v)]

def typeName : Nat → Parse String
  | 0 => failHere r
  | fuel + 1 => do
      let first ← peek r
      if !first.isIds then return ""
      let last ← typeWords fuel first
      let last ← if (← peek r).isSymbol "(" then do
          let _ ← bump r
          signedNumber fuel
          if ← acceptSymbol r "," then signedNumber fuel
          expectSymbol r ")"
        else pure last
      return r.span first.start last.finish

def typeWords : Nat → Token → Parse Token
  | 0, _ => failHere r
  | fuel + 1, last => do
      let t ← peek r
      if t.isIds then
        let _ ← bump r
        typeWords fuel t
      else return last

def signedNumber : Nat → Parse Unit
  | 0 => failHere r
  | _ + 1 => do
      let _ ← acceptSymbol r "+" <||> acceptSymbol r "-"
      let _ ← expectToken r fun t => t.kind == .integer || t.kind == .float
      return ()

def exprList : Nat → Parse (List Expr)
  | 0 => failHere r
  | fuel + 1 => do
      let e ← expr fuel
      if ← acceptSymbol r "," then return e :: (← exprList fuel)
      else return [e]

def sortList : Nat → Parse (List SortTerm)
  | 0 => failHere r
  | fuel + 1 => do
      let e ← expr fuel
      let desc ← if ← acceptWord r "DESC" then pure true
        else do
          let _ ← acceptWord r "ASC"
          pure false
      let nulls ← if ← acceptWord r "NULLS" then
          if ← acceptWord r "FIRST" then pure (some true)
          else do
            let _ ← expectWord r "LAST"
            pure (some false)
        else pure none
      let term := SortTerm.term e desc nulls
      if ← acceptSymbol r "," then return term :: (← sortList fuel)
      else return [term]

def query : Nat → Parse Query
  | 0 => failHere r
  | fuel + 1 => do
      let ctes ← if ← acceptWord r "WITH" then do
          let _ ← acceptWord r "RECURSIVE"
          cteList fuel
        else pure []
      let (first, rest, orderBy, limit, offset) ← compound fuel
      return .query ctes first rest orderBy limit offset

def cteList : Nat → Parse (List Cte)
  | 0 => failHere r
  | fuel + 1 => do
      let n ← name r
      let cols ← if (← peek r).isSymbol "(" then some <$> nameList r else pure none
      let _ ← expectWord r "AS"
      if ← acceptWord r "NOT" then
        let _ ← expectWord r "MATERIALIZED"
      else
        let _ ← acceptWord r "MATERIALIZED"
      let _ ← expectSymbol r "("
      let q ← query fuel
      let _ ← expectSymbol r ")"
      let c := Cte.cte n cols q
      if ← acceptSymbol r "," then return c :: (← cteList fuel)
      else return [c]

/-- Simple queries joined by set operations, with the ORDER BY and LIMIT of the last. -/
def compound : Nat →
    Parse (Core × List (CompoundOp × Core) × List SortTerm × Option Expr × Option Expr)
  | 0 => failHere r
  | fuel + 1 => do
      let (first, orderBy, limit, offset) ← simpleQuery fuel
      let rest ← compoundRest fuel
      match rest.getLast? with
      | none => return (first, [], orderBy, limit, offset)
      | some (_, (_, ob, lim, off)) =>
          let tails := (first, orderBy, limit) :: rest.map fun (_, (c, o, l, _)) => (c, o, l)
          let ops := rest.map (·.1)
          let misplaced := ((tails.dropLast.zip ops).reverse).find? fun ((_, o, l), _) =>
            !o.isEmpty || l.isSome
          match misplaced with
          | some ((_, o, _), op) =>
              let opName := match op with
                | .unionAll => "UNION ALL"
                | .union => "UNION"
                | .intersect => "INTERSECT"
                | .except => "EXCEPT"
              throw (.plain ((if o.isEmpty then "LIMIT" else "ORDER BY") ++
                " clause should come after " ++ opName ++ " not before"))
          | none =>
              return (first, rest.map fun (op, (c, _, _, _)) => (op, c), ob, lim, off)

def compoundRest : Nat →
    Parse (List (CompoundOp × (Core × List SortTerm × Option Expr × Option Expr)))
  | 0 => failHere r
  | fuel + 1 => do
      let t ← peek r
      let op? : Option CompoundOp ← if t.isWord "UNION" then do
          let _ ← bump r
          if ← acceptWord r "ALL" then pure (some .unionAll) else pure (some .union)
        else if t.isWord "INTERSECT" then do
          let _ ← bump r
          pure (some .intersect)
        else if t.isWord "EXCEPT" then do
          let _ ← bump r
          pure (some .except)
        else pure none
      match op? with
      | none => return []
      | some op =>
          let core ← simpleQuery fuel
          return (op, core) :: (← compoundRest fuel)

/-- A SELECT with its ORDER BY and LIMIT, or a VALUES list. -/
def simpleQuery : Nat → Parse (Core × List SortTerm × Option Expr × Option Expr)
  | 0 => failHere r
  | fuel + 1 => do
      let t ← peek r
      if t.isWord "VALUES" then
        let _ ← bump r
        let rows ← valuesRows fuel none
        return (.values rows, [], none, none)
      else
        let _ ← expectWord r "SELECT"
        let distinct ← if ← acceptWord r "DISTINCT" then pure true
          else do
            let _ ← acceptWord r "ALL"
            pure false
        let cols ← resultColumns fuel
        let src ← if ← acceptWord r "FROM" then some <$> fromClause fuel else pure none
        let filter ← if ← acceptWord r "WHERE" then some <$> expr fuel else pure none
        let groupBy ← if ← acceptWord r "GROUP" then do
            let _ ← expectWord r "BY"
            exprList fuel
          else pure []
        let having ← if ← acceptWord r "HAVING" then some <$> expr fuel else pure none
        let orderBy ← if ← acceptWord r "ORDER" then do
            let _ ← expectWord r "BY"
            sortList fuel
          else pure []
        let (limit, offset) ← limitClause fuel
        return (.select distinct cols src filter groupBy having, orderBy, limit, offset)

/-- The rows of a VALUES list; all must have as many terms as the first. -/
def valuesRows : Nat → Option Nat → Parse (List (List Expr))
  | 0, _ => failHere r
  | fuel + 1, width => do
      let _ ← expectSymbol r "("
      let row ← exprList fuel
      let _ ← expectSymbol r ")"
      if let some w := width then
        if w != row.length then throw (.plain "all VALUES must have the same number of terms")
      if (← peek r).isSymbol "," then
        let _ ← bump r
        return row :: (← valuesRows fuel (some row.length))
      else return [row]

def limitClause : Nat → Parse (Option Expr × Option Expr)
  | 0 => failHere r
  | fuel + 1 => do
      if ← acceptWord r "LIMIT" then
        let a ← expr fuel
        if ← acceptWord r "OFFSET" then return (some a, some (← expr fuel))
        else if ← acceptSymbol r "," then
          let b ← expr fuel
          return (some b, some a)
        else return (some a, none)
      else return (none, none)

def resultColumns : Nat → Parse (List ResultColumn)
  | 0 => failHere r
  | fuel + 1 => do
      let c ← resultColumn fuel
      if ← acceptSymbol r "," then return c :: (← resultColumns fuel)
      else return [c]

/-- One result column: `*`, `t.*`, or an expression with an optional alias. -/
def resultColumn : Nat → Parse ResultColumn
  | 0 => failHere r
  | fuel + 1 => do
      let t ← peek r
      if t.isSymbol "*" then
        let _ ← bump r
        return .all t.start
      else if t.isNm && (← peekNext r).isSymbol "." && (← peekAfterNext r).isSymbol "*" then
        let _ ← bump r
        let _ ← bump r
        let _ ← bump r
        return .allOf t.value t.start
      else
        let e ← expr fuel
        let after ← peek r
        let span := trimSpaces (r.span t.start after.start)
        let aliasName ← if ← acceptWord r "AS" then some <$> name r
          else if after.isIds then do
            let _ ← bump r
            pure (some after.value)
          else pure none
        return .expr e aliasName span

def sourceAlias : Nat → Parse (Option String)
  | 0 => failHere r
  | _ + 1 => do
      if ← acceptWord r "AS" then return some (← name r)
      else
        let t ← peek r
        if t.isIds then
          let _ ← bump r
          return some t.value
        else return none

/-- A FROM clause: sources joined left to right. -/
def fromClause : Nat → Parse Source
  | 0 => failHere r
  | fuel + 1 => do
      let first ← fromItem fuel
      let (on, usingCols) ← joinCondition fuel
      if on.isSome || !usingCols.isEmpty then
        throw (.plain ("a JOIN clause is required before " ++ (if on.isSome then "ON" else "USING")))
      joins fuel first

def joins : Nat → Source → Parse Source
  | 0, _ => failHere r
  | fuel + 1, left => do
      let t ← peek r
      let kind? : Option (JoinKind × Bool) ← if t.isSymbol "," then do
          let _ ← bump r
          pure (some (.inner, false))
        else if t.isWord "JOIN" then do
          let _ ← bump r
          pure (some (.inner, false))
        else if t.isJoinWord then do
          let _ ← bump r
          let words ← joinWordsRest fuel [t]
          match joinKindOf words with
          | .ok k => pure (some k)
          | .error e => throw e
        else pure none
      match kind? with
      | none => return left
      | some (kind, natural) =>
          let right ← fromItem fuel
          let (on, usingCols) ← joinCondition fuel
          if natural && (on.isSome || !usingCols.isEmpty) then
            throw (.plain "a NATURAL join may not have an ON or USING clause")
          joins fuel (.join left kind natural right on usingCols)

def joinWordsRest : Nat → List Token → Parse (List Token)
  | 0, _ => failHere r
  | fuel + 1, words => do
      let t ← peek r
      if t.isWord "JOIN" then
        let _ ← bump r
        return words
      else if words.length < 3 && t.isNm then
        let _ ← bump r
        joinWordsRest fuel (words ++ [t])
      else failAt t

def joinCondition : Nat → Parse (Option Expr × List String)
  | 0 => failHere r
  | fuel + 1 => do
      if ← acceptWord r "ON" then return (some (← expr fuel), [])
      else if ← acceptWord r "USING" then return (none, ← nameList r)
      else return (none, [])

/-- One source of a FROM clause. -/
def fromItem : Nat → Parse Source
  | 0 => failHere r
  | fuel + 1 => do
      let t ← peek r
      if t.isSymbol "(" then
        let _ ← bump r
        if (← peek r).startsQuery then
          let q ← query fuel
          let _ ← expectSymbol r ")"
          return .query q (← sourceAlias fuel)
        else
          let inner ← fromClause fuel
          let _ ← expectSymbol r ")"
          let aliasName ← sourceAlias fuel
          match inner, aliasName with
          | .table s n none o, some a => return .table s n (some a) o
          | src, _ => return src
      else
        let (schemaName, table, _) ← qualifiedName r
        if ← acceptSymbol r "(" then
          if !(← acceptSymbol r ")") then
            let _ ← exprList fuel
            let _ ← expectSymbol r ")"
        let aliasName ← sourceAlias fuel
        if ← acceptWord r "INDEXED" then
          let _ ← expectWord r "BY"
          let _ ← name r
        else if (← peek r).isWord "NOT" && (← peekNext r).isWord "INDEXED" then
          let _ ← bump r
          let _ ← bump r
        return .table schemaName table aliasName t.start

end

end Reader

end Sql
end Store
end MemoryRecorder
