import StoredSql.Dialect
import StoredSql.Shape

/-!
# The text of queries

Expressions, conditions and queries as a complete dialect writes them: each on one line, with its
clauses in their fixed order. Parentheses in arithmetic keep an operation that is an operand of
another one together.
-/

namespace StoredSql.Dialect

/-- A count of rows. -/
def rowCountText (d : Dialect) : RowCount → Except Error String
  | .number n => .ok (countText n)
  | .variable name => d.variableName name

/-- A limit, as the last parts of a query but one. -/
def limitParts (d : Dialect) : Option RowLimit → Except Error (List String)
  | none => .ok []
  | some l => do
    let count ← d.rowCountText l.count
    match l.offset with
    | none => pure ["LIMIT " ++ count]
    | some o => pure ["LIMIT " ++ count, "OFFSET " ++ (← d.rowCountText o)]

/-- The variables that a row is stored into, as the last part of a query. -/
def intoParts (d : Dialect) (into : List String) : Except Error (List String) := do
  if into.isEmpty then pure []
  else pure ["INTO " ++ Text.joinWith ", " (← into.mapM d.variableName)]

/-- A name after what it stands for, if there is one. -/
def withAlias (d : Dialect) (text : String) (asName : Option String) : Except Error String := do
  match Text.nonEmpty asName with
  | some a => pure (text ++ " AS " ++ (← d.identifier a))
  | none => pure text

/-- Texts with commas between them. -/
def commas (texts : List String) : String := Text.joinWith ", " texts

/-- An operand of arithmetic: another operation stands in parentheses. -/
def operand (e : Expr) (text : String) : String :=
  match e with
  | .arithmetic .. => Shape.parenthesized text
  | _ => text

/-- A condition in the place of an expression: in parentheses, unless it is an operand by itself. -/
def nested (c : Condition) (text : String) : String :=
  match c with
  | .isTrue _ => text
  | .exists _ => text
  | _ => Shape.parenthesized text

mutual

/-- An expression. -/
def exprText (d : Dialect) : Expr → Except Error String
  | .column table name => do
    let column ← if name = "*" then pure "*" else d.identifier name
    match Text.nonEmpty table with
    | some t => pure ((← d.qualifiedName t) ++ "." ++ column)
    | none => pure column
  | .variable name => d.variableName name
  | .literal v => literal v
  | .call name args => do
    pure (Text.upper name.text ++ Shape.parenthesized (commas (← exprTexts d args)))
  | .arithmetic left op right => do
    let l ← exprText d left
    let r ← exprText d right
    pure (operand left l ++ " " ++ Keyword.word op ++ " " ++ operand right r)
  | .raw sql => .ok sql
  | .subquery q => do pure (Shape.parenthesized (← selectText d q))
  | .condition c => do pure (nested c (← conditionText d c))
  | .foreign o => .error (.kind (.expression o.kindName))

def exprTexts (d : Dialect) : List Expr → Except Error (List String)
  | [] => .ok []
  | e :: es => do
    let text ← exprText d e
    pure (text :: (← exprTexts d es))

/-- A condition. -/
def conditionText (d : Dialect) : Condition → Except Error String
  | .compare left test => do
    let l ← exprText d left
    pure (l ++ " " ++ (← testText d test))
  | .and cs => do
    pure (Shape.textOfAll ((Condition.shapes cs).zip (← conditionTexts d cs)))
  | .or cs => do pure (Shape.textOfAny (← conditionTexts d cs))
  | .not c => do pure (Shape.textOfNot c.shape (← conditionText d c))
  | .isTrue e => exprText d e
  | .exists q => do pure ("EXISTS " ++ Shape.parenthesized (← selectText d q))
  | .foreign e => .error (.kind (.condition e.kindName))

def conditionTexts (d : Dialect) : List Condition → Except Error (List String)
  | [] => .ok []
  | c :: cs => do
    let text ← conditionText d c
    pure (text :: (← conditionTexts d cs))

/-- A test, without what is tested. -/
def testText (d : Dialect) : Test → Except Error String
  | .binary op right => do pure (op.word ++ " " ++ (← exprText d right))
  | .isNull => .ok "IS NULL"
  | .isNotNull => .ok "IS NOT NULL"
  | .inValues values => do
    pure ("IN " ++ Shape.parenthesized (commas (← exprTexts d values)))
  | .inQuery q => do pure ("IN " ++ Shape.parenthesized (← selectText d q))
  | .between low high => do
    let l ← exprText d low
    pure ("BETWEEN " ++ l ++ " AND " ++ (← exprText d high))

/-- A source. -/
def sourceText (d : Dialect) : Source → Except Error String
  | .table t => d.tableAlias t.schema t.name t.asName
  | .query q asName => do
    let text ← selectText d q
    pure (Shape.parenthesized text ++ " AS " ++ (← d.identifier asName))
  | .foreign o => .error (.kind (.source o.kindName))

def sourceParts (d : Dialect) : Option Source → Except Error (List String)
  | none => .ok []
  | some s => do pure ["FROM " ++ (← sourceText d s)]

/-- A column of the result. -/
def itemText (d : Dialect) : SelectItem → Except Error String
  | ⟨expr, asName⟩ => do
    let text ← exprText d expr
    d.withAlias text asName

def itemTexts (d : Dialect) : List SelectItem → Except Error (List String)
  | [] => .ok []
  | i :: items => do
    let text ← itemText d i
    pure (text :: (← itemTexts d items))

/-- A join. -/
def joinText (d : Dialect) : Join → Except Error String
  | ⟨kind, source, condition, shared⟩ => do
    let source ← sourceText d source
    if kind = .full ∧ !d.kind.fullJoin then throw .noFullJoin
    let head := Keyword.word kind ++ " JOIN " ++ source
    if kind = .cross then pure head
    else if !shared.isEmpty then
      pure (head ++ " USING " ++ Shape.parenthesized (← d.columnList shared))
    else pure (head ++ " ON " ++ Text.joinWith "" (← conditionIfAny d condition))

def joinTexts (d : Dialect) : List Join → Except Error (List String)
  | [] => .ok []
  | j :: joins => do
    let text ← joinText d j
    pure (text :: (← joinTexts d joins))

/-- The text of a condition that may be missing. -/
def conditionIfAny (d : Dialect) : Option Condition → Except Error (List String)
  | none => .ok []
  | some c => do pure [← conditionText d c]

/-- A clause with a condition. It is left out if the condition asks for nothing. -/
def filterParts (d : Dialect) (word : String) : Option Condition → Except Error (List String)
  | none => .ok []
  | some c => do
    if c.shape.isEmpty then pure []
    else pure [word ++ " " ++ (← conditionText d c)]

/-- A grouping. -/
def groupParts (d : Dialect) : Option GroupBy → Except Error (List String)
  | none => .ok []
  | some ⟨columns, having, rollup⟩ => do
    let columns ← exprTexts d columns
    let having ← filterParts d "HAVING" having
    pure (["GROUP BY " ++ commas columns] ++ (if rollup then ["WITH ROLLUP"] else []) ++ having)

/-- A sort key. -/
def sortKeyText (d : Dialect) : SortKey → Except Error String
  | ⟨expr, direction⟩ => do pure ((← exprText d expr) ++ " " ++ Keyword.word direction)

def sortKeyTexts (d : Dialect) : List SortKey → Except Error (List String)
  | [] => .ok []
  | k :: keys => do
    let text ← sortKeyText d k
    pure (text :: (← sortKeyTexts d keys))

/-- A query. -/
def selectText (d : Dialect) : SelectQuery → Except Error String
  | ⟨items, source, joins, filter, groupBy, orderBy, limit, distinct, into⟩ => do
    let items ← itemTexts d items
    let source ← sourceParts d source
    let joins ← joinTexts d joins
    let filter ← filterParts d "WHERE" filter
    let groups ← groupParts d groupBy
    let keys ← sortKeyTexts d orderBy
    let limit ← d.limitParts limit
    let into ← d.intoParts into
    pure (Text.joinWith " " (["SELECT"] ++ (if distinct then ["DISTINCT"] else []) ++ [commas items]
      ++ source ++ joins ++ filter ++ groups
      ++ (if keys.isEmpty then [] else ["ORDER BY " ++ commas keys]) ++ limit ++ into))

end

/-- A row of values. -/
def rowText (d : Dialect) (row : List Expr) : Except Error String := do
  pure (Shape.parenthesized (commas (← exprTexts d row)))

/-- An assignment to a column. -/
def updateText (d : Dialect) (update : String × Expr) : Except Error String := do
  let column ← d.identifier update.1
  pure (column ++ " = " ++ (← exprText d update.2))

/-- New rows: given one by one or by a query. -/
def newRowsText (d : Dialect) (q : InsertQuery) : Except Error String := do
  match q.select with
  | some s => selectText d s
  | none => pure ("VALUES " ++ commas (← q.rows.mapM d.rowText))

/-- The word for the way that new rows go in. -/
def modeText : RowMode → Except Error String
  | .known mode => .ok (Keyword.word mode)
  | .foreign o => .error (.kind (.notUsable o.kindName))

/-- An insertion. -/
def insertText (d : Dialect) (q : InsertQuery) : Except Error String := do
  let table ← d.tableName q.table.schema q.table.name
  let columns ← if q.columns.isEmpty then pure ""
    else do pure (" " ++ Shape.parenthesized (← d.columnList q.columns))
  let rows ← d.newRowsText q
  let updates ← q.onDuplicate.mapM d.updateText
  pure ((← modeText q.mode) ++ " INTO " ++ table ++ columns ++ " " ++ rows
    ++ (if updates.isEmpty then "" else " ON DUPLICATE KEY UPDATE " ++ commas updates))

end StoredSql.Dialect
