import StoredSql.Identifier
import StoredSql.Outline

/-!
# Expressions, conditions and queries

The values that queries are made of. They refer to one another: a query may stand in an expression
or a condition, and both stand in queries. A place that takes any value without looking at it keeps
the outline of what is no expression as `foreign`; such a place has no text.
-/

namespace StoredSql

/-- A table by its name, with its schema and an alias if it has them. -/
structure TableRef where
  schema : Option String := none
  name : String
  asName : Option String := none
deriving DecidableEq, Repr

/-- A count of rows: a number, or a variable that holds it. -/
inductive RowCount where
  | number (n : Nat)
  | variable (name : String)
deriving DecidableEq, Repr

/-- How many rows a query gives at most, and how many it leaves out first. -/
structure RowLimit where
  count : RowCount
  offset : Option RowCount := none
deriving DecidableEq, Repr

mutual

/-- An expression. -/
inductive Expr where
  | column (table : Option String) (name : String)
  | variable (name : String)
  | literal (value : Value)
  | call (name : FunctionName) (args : List Expr)
  | arithmetic (left : Expr) (op : ArithmeticOp) (right : Expr)
  | raw (sql : String)
  | subquery (query : SelectQuery)
  | condition (condition : Condition)
  | foreign (outline : Outline)

/-- A condition: tests of values, and their combinations. -/
inductive Condition where
  | compare (left : Expr) (test : Test)
  | and (children : List Condition)
  | or (children : List Condition)
  | not (child : Condition)
  | isTrue (expr : Expr)
  | exists (query : SelectQuery)
  | foreign (expr : Expr)

/-- What a value is tested for. -/
inductive Test where
  | binary (op : Comparison) (right : Expr)
  | isNull
  | isNotNull
  | inValues (values : List Expr)
  | inQuery (query : SelectQuery)
  | between (low high : Expr)

/-- Where the rows of a query come from. -/
inductive Source where
  | table (table : TableRef)
  | query (query : SelectQuery) (asName : String)
  | foreign (outline : Outline)

/-- A column of the result, with an alias if it has one. -/
structure SelectItem where
  expr : Expr
  asName : Option String := none

/-- A join: rows are matched by a condition or by columns that both sides share. -/
structure Join where
  kind : JoinKind
  source : Source
  condition : Option Condition := none
  shared : List String := []

/-- Columns that rows are grouped by, and a condition on the groups. -/
structure GroupBy where
  columns : List Expr
  having : Option Condition := none
  rollup : Bool := false

/-- An expression that rows are sorted by. -/
structure SortKey where
  expr : Expr
  direction : SortDirection := .asc

/-- A query. -/
structure SelectQuery where
  items : List SelectItem
  source : Option Source := none
  joins : List Join := []
  filter : Option Condition := none
  groupBy : Option GroupBy := none
  orderBy : List SortKey := []
  limit : Option RowLimit := none
  distinct : Bool := false
  into : List String := []

end

/-- How new rows go in. -/
inductive RowMode where
  | known (mode : InsertMode)
  | foreign (outline : Outline)

/-- New rows for a table: given one by one, or by a query. -/
structure InsertQuery where
  table : TableRef
  columns : List String := []
  rows : List (List Expr) := []
  select : Option SelectQuery := none
  mode : RowMode := .known .insert
  onDuplicate : List (String × Expr) := []

instance : Inhabited Expr := ⟨.raw ""⟩
instance : Inhabited Condition := ⟨.and []⟩

/-! ## Outlines -/

/-- The outline of a table. -/
def TableRef.outline (t : TableRef) : Outline :=
  .plain "SourceTable" [("schema", .optional .text t.schema), ("name", .text t.name),
    ("alias", .optional .text t.asName)]

/-- The outline of a reference to a variable. -/
def Outline.variable (name : String) : Outline := .plain variableKind [("name", .text name)]

/-- The outline of a count of rows. -/
def RowCount.outline : RowCount → Outline
  | .number n => .count n
  | .variable name => .variable name

/-- The outline of a limit. -/
def RowLimit.outline (l : RowLimit) : Outline :=
  .plain "QueryLimit" [("count", l.count.outline), ("offset", .optional RowCount.outline l.offset)]

mutual

/-- The outline of an expression. -/
def Expr.outline : Expr → Outline
  | .column table name =>
    .plain "ColumnRef" [("table_alias", .optional .text table), ("column_name", .text name)]
  | .variable name => .variable name
  | .literal v => .plain "Literal" [("value", .value v)]
  | .call name args =>
    .plain "FuncCall" [("name", .text name.text), ("args", .tuple (Expr.outlines args))]
  | .arithmetic left op right =>
    .plain "BinaryOp" [("left", left.outline), ("op", .word op), ("right", right.outline)]
  | .raw sql => .plain "RawSql" [("sql", .text sql)]
  | .subquery q => .plain "SubqueryExpr" [("query", q.outline)]
  | .condition c => c.outline
  | .foreign o => o

def Expr.outlines : List Expr → List Outline
  | [] => []
  | e :: es => e.outline :: Expr.outlines es

/-- The outline of a condition. -/
def Condition.outline : Condition → Outline
  | .compare left test =>
    let (op, right) := test.outline
    .plain "Compare" [("left", left.outline), ("op", .word op), ("right", right)]
  | .and cs => .plain "And" [("children", .tuple (Condition.outlines cs))]
  | .or cs => .plain "Or" [("children", .tuple (Condition.outlines cs))]
  | .not c => .plain "Not" [("child", c.outline)]
  | .isTrue e => .plain "IsTrue" [("expr", e.outline)]
  | .exists q => .plain "Exists" [("query", q.outline)]
  | .foreign e => e.outline

def Condition.outlines : List Condition → List Outline
  | [] => []
  | c :: cs => c.outline :: Condition.outlines cs

def Condition.outlineIfAny : Option Condition → Outline
  | none => .null
  | some c => c.outline

/-- The operator of a test, and the outline of what stands to the right of it. -/
def Test.outline : Test → CompareOp × Outline
  | .binary op right => (.binary op, right.outline)
  | .isNull => (.isNull, .null)
  | .isNotNull => (.isNotNull, .null)
  | .inValues values => (.isIn, .tuple (Expr.outlines values))
  | .inQuery q => (.isIn, .plain "SubqueryExpr" [("query", q.outline)])
  | .between low high => (.between, .tuple [low.outline, high.outline])

/-- The outline of a source. -/
def Source.outline : Source → Outline
  | .table t => t.outline
  | .query q asName => .plain "SubquerySource" [("select", q.outline), ("alias", .text asName)]
  | .foreign o => o

def Source.outlineIfAny : Option Source → Outline
  | none => .null
  | some s => s.outline

/-- The outline of a column of the result. -/
def SelectItem.outline : SelectItem → Outline
  | ⟨expr, asName⟩ =>
    .plain "SelectItem" [("expr", expr.outline), ("alias", .optional .text asName)]

def SelectItem.outlines : List SelectItem → List Outline
  | [] => []
  | i :: items => i.outline :: SelectItem.outlines items

/-- The outline of a join. -/
def Join.outline : Join → Outline
  | ⟨kind, source, condition, shared⟩ =>
    .plain "Join" [("join_type", .word kind), ("right", source.outline),
      ("on", Condition.outlineIfAny condition), ("using", .texts shared)]

def Join.outlines : List Join → List Outline
  | [] => []
  | j :: joins => j.outline :: Join.outlines joins

/-- The outline of a grouping. -/
def GroupBy.outline : GroupBy → Outline
  | ⟨columns, having, rollup⟩ =>
    .plain "GroupBy" [("columns", .tuple (Expr.outlines columns)),
      ("having", Condition.outlineIfAny having), ("with_rollup", .bool rollup)]

def GroupBy.outlineIfAny : Option GroupBy → Outline
  | none => .null
  | some g => g.outline

/-- The outline of a sort key. -/
def SortKey.outline : SortKey → Outline
  | ⟨expr, direction⟩ => .plain "SortKey" [("expr", expr.outline), ("direction", .word direction)]

def SortKey.outlines : List SortKey → List Outline
  | [] => []
  | k :: keys => k.outline :: SortKey.outlines keys

/-- The outline of a query. -/
def SelectQuery.outline : SelectQuery → Outline
  | ⟨items, source, joins, filter, groupBy, orderBy, limit, distinct, into⟩ =>
    .plain "SelectQuery" [("items", .tuple (SelectItem.outlines items)),
      ("source", Source.outlineIfAny source), ("joins", .tuple (Join.outlines joins)),
      ("where", Condition.outlineIfAny filter), ("group_by", GroupBy.outlineIfAny groupBy),
      ("order_by", .tuple (SortKey.outlines orderBy)), ("limit", .optional RowLimit.outline limit),
      ("distinct", .bool distinct), ("into", .texts into)]

end

/-- The outline of the way that new rows go in. -/
def RowMode.outline : RowMode → Outline
  | .known mode => .word mode
  | .foreign o => o

/-- The outline of new rows. -/
def InsertQuery.outline (q : InsertQuery) : Outline :=
  .plain "InsertQuery" [("table", q.table.outline), ("columns", .texts q.columns),
    ("rows", .tuple (q.rows.map fun row => .tuple (Expr.outlines row))),
    ("select", .optional SelectQuery.outline q.select), ("mode", q.mode.outline),
    ("on_duplicate", .tuple (q.onDuplicate.map fun p => .tuple [.text p.1, p.2.outline]))]

/-- How messages name the kind of an expression. -/
def Expr.kindName (e : Expr) : String := e.outline.kindName

/-- How messages name the kind of a condition. -/
def Condition.kindName (c : Condition) : String := c.outline.kindName

namespace SelectQuery

/-- A query has columns, and joins only with a source to join to. -/
def check (q : SelectQuery) : Except Error SelectQuery :=
  if q.items.isEmpty then .error (.query .noColumns)
  else if !q.joins.isEmpty ∧ q.source.isNone then .error (.query .joinsNeedSource)
  else .ok q

end SelectQuery

/-- New rows in the making. -/
structure InsertDraft where
  table : TableRef
  columns : List String := []
  rows : List (List Expr) := []
  select : Option SelectQuery := none
  mode : InsertMode := .insert
  onDuplicate : List (String × Expr) := []

/-- A query in the making: its clauses so far, which need not make up a query yet. -/
structure SelectDraft where
  parts : SelectQuery

namespace SelectDraft

/-- The query, if its clauses make up one. Variables that take its row are as many as its
columns. -/
def build (d : SelectDraft) : Except Error SelectQuery := do
  let q ← d.parts.check
  if !q.into.isEmpty ∧ q.into.length ≠ q.items.length then
    throw (.query (.intoCount q.into.length q.items.length))
  pure q

end SelectDraft

/-- Whether the column selects all columns of its table. -/
def SelectItem.isStar : SelectItem → Bool
  | ⟨.column _ "*", _⟩ => true
  | _ => false

/-- Rows or a query are given, not both, and they are as wide as the columns that are filled. -/
def InsertQuery.checkWidths (columns : List String) (rows : List (List Expr))
    (select : Option SelectQuery) : Except Error Unit := do
  if !rows.isEmpty ∧ select.isSome then throw (.query .rowsAndSelect)
  if rows.isEmpty ∧ select.isNone then throw (.query .noRows)
  if !columns.isEmpty then
    match rows.find? fun row => row.length ≠ columns.length with
    | some row => throw (.query (.rowWidth row.length columns.length))
    | none => pure ()
    match select with
    | some q =>
      if !q.items.any (·.isStar) ∧ q.items.length ≠ columns.length then
        throw (.query (.selectWidth q.items.length columns.length))
    | none => pure ()

namespace InsertDraft

/-- The new rows, if the draft has them. Rows that are replaced are not updated. -/
def build (d : InsertDraft) : Except Error InsertQuery := do
  InsertQuery.checkWidths d.columns d.rows d.select
  if !d.onDuplicate.isEmpty ∧ d.mode = .replace then throw (.query .replaceWithUpdate)
  pure ⟨d.table, d.columns, d.rows, d.select, .known d.mode, d.onDuplicate⟩

end InsertDraft
end StoredSql
