import StoredSql.Compose

/-!
# Queries step by step

A query is put together in steps, each of which writes one clause. A step that fails says why and
leaves the draft as it was, since a draft is never changed but followed by another one. The clauses
are checked one by one as they are given and together by `SelectDraft.build`.
-/

namespace StoredSql

/-- The table of a name. Without a schema of its own, what stands before the first dot is the
schema. -/
def TableRef.ofName (name : String) (schema asName : Option String) : TableRef :=
  match schema, Text.cutFirst '.' name with
  | none, some (schema, rest) => ⟨some schema, rest, asName⟩
  | schema, _ => ⟨schema, name, asName⟩

/-- The table that an operand is or names. -/
def TableRef.ofOperand? : Operand → Option TableRef
  | .source (.table t) => some t
  | o => o.text?.map fun s => ofName s none none

/-- A query as a source. -/
def Source.ofQuery (q : SelectQuery) (asName : Option String) : Except Error Source :=
  match Text.nonEmpty asName with
  | some a => .ok (.query q a)
  | none => .error (.query .sourceNeedsAlias)

/-- The source that an operand is or names. -/
def Source.ofOperand (o : Operand) (asName : Option String) : Except Error Source :=
  match o with
  | .draft d => d.build >>= fun q => ofQuery q asName
  | .query q => ofQuery q asName
  | .source (.table t) =>
    match Text.nonEmpty asName with
    | some a => .ok (.table ⟨t.schema, t.name, some a⟩)
    | none => .ok (.table t)
  | .source s => .ok s
  | o => match o.text? with
    | some s => .ok (.table (TableRef.ofName s none asName))
    | none => .error (.query (.notASource o.kindName))

/-- A join, if it has what its kind asks for: a cross join nothing, any other join either a
condition or shared columns. -/
def Join.make (kind : JoinKind) (source : Source) (condition : Option Condition)
    (shared : List String) : Except Error Join :=
  if condition.isSome ∧ !shared.isEmpty then .error (.query .joinOnAndUsing)
  else if kind = .cross then
    if condition.isSome ∨ !shared.isEmpty then .error (.query .crossJoinCondition)
    else .ok ⟨kind, source, condition, shared⟩
  else if condition.isNone ∧ shared.isEmpty then
    .error (.query (.joinNeedsCondition (Keyword.word kind)))
  else .ok ⟨kind, source, condition, shared⟩

/-- A grouping by columns. -/
def GroupBy.make (columns : List Operand) (having : Option Condition) (rollup : Bool) :
    Except Error GroupBy := do
  let columns ← columns.mapM (·.toColumn)
  if columns.isEmpty then throw (.query .groupByNeedsColumn)
  pure ⟨columns, having, rollup⟩

/-- A sort key, with its direction in any case. -/
def SortKey.make (column : Operand) (direction : String) : Except Error SortKey := do
  let expr ← column.toColumn
  let direction ← Keyword.read (Text.upper direction)
  pure ⟨expr, direction⟩

/-- A count of rows: a number that is not negative, or a variable. -/
def RowCount.ofOperand (part : String) : Operand → Except Error RowCount
  | .expr (.variable name) => .ok (.variable name)
  | .value (.int (.ofNat n)) => .ok (.number n)
  | .value (.int n) => .error (.query (.limitNegative part n))
  | o => .error (.query (.limitNotAnInteger part o.shown))

/-- A limit. -/
def RowLimit.make (count : Operand) (offset : Option Operand) : Except Error RowLimit := do
  let count ← RowCount.ofOperand "count" count
  let offset ← offset.mapM (RowCount.ofOperand "offset")
  pure ⟨count, offset⟩

/-- A condition that holds if the one there is and the new one hold. -/
def Condition.narrow (existing : Option Condition) (o : Operand) : Except Error Condition :=
  match o.condition? with
  | none => .error (.query (.notACondition o.kindName))
  | some c =>
    match existing with
    | none => .ok c
    | some e => Condition.all [e.operand, c.operand]

/-- Only known parts of a query may be given. -/
def checkPartNames (query : String) (known given : List String) : Except Error Unit :=
  let unknown := given.filter fun name => !known.contains name
  if unknown.isEmpty then .ok ()
  else .error (.kind (.unknownParts query (unknown.mergeSort fun a b => decide (a ≤ b))))

/-- The names of the clauses of a query. -/
def SelectQuery.partNames : List String :=
  ["items", "source", "joins", "where", "group_by", "order_by", "limit", "distinct", "into"]

/-- A step in putting a query together. -/
inductive SelectStep where
  | select (columns : List Operand)
  | selectAs (column : Operand) (asName : String)
  | distinct (flag : Bool)
  | source (source : Operand) (asName : Option String)
  | rename (asName : Option String)
  | join (kind : String) (source : Operand) (condition : Operand) (shared : List String)
      (asName : Option String)
  | crossJoin (source : Operand) (asName : Option String)
  | filter (condition : Operand)
  | groupBy (columns : List Operand) (having : Operand) (rollup : Bool)
  | having (condition : Operand)
  | orderBy (column : Operand) (direction : String)
  | limit (count offset : Operand)
  | into (targets : List String)

namespace SelectDraft

/-- A draft without any clause. -/
def empty : SelectDraft := ⟨⟨[], none, [], none, none, [], none, false, []⟩⟩

/-- A draft with a source, if there is one. -/
def start (source : Operand) (asName : Option String) : Except Error SelectDraft :=
  if source.isNull then .ok empty
  else do pure ⟨{ empty.parts with source := some (← Source.ofOperand source asName) }⟩

/-- The source under another alias. A query keeps its alias. -/
def withAlias (q : SelectQuery) (asName : Option String) : Except Error SelectQuery :=
  match q.source with
  | none => .error (.query .nothingToAlias)
  | some s => do pure { q with source := some (← Source.ofOperand (.source s) asName) }

/-- One more join, of a kind other than a cross join. -/
def withJoin (q : SelectQuery) (kind : String) (source condition : Operand) (shared : List String)
    (asName : Option String) : Except Error SelectQuery := do
  let kind ← Keyword.read (Text.upper kind)
  if kind = JoinKind.cross then throw (.query .useCrossJoin)
  let source ← Source.ofOperand source asName
  let join ← Join.make kind source (condition.ifAny.map (·.keepCondition)) shared
  pure { q with joins := q.joins ++ [join] }

/-- One more condition on the groups. -/
def withHaving (q : SelectQuery) (condition : Operand) : Except Error SelectQuery :=
  match q.groupBy with
  | none => .error (.query .havingNeedsGroupBy)
  | some g => do
    let having ← Condition.narrow g.having condition
    pure { q with groupBy := some { g with having := some having } }

/-- The clauses after a step. -/
def clausesAfter (q : SelectQuery) : SelectStep → Except Error SelectQuery
  | .select columns => do
    let exprs ← columns.mapM (·.toColumn)
    pure { q with items := q.items ++ exprs.map fun e => ⟨e, none⟩ }
  | .selectAs column asName => do
    pure { q with items := q.items ++ [⟨← column.toColumn, some asName⟩] }
  | .distinct flag => .ok { q with distinct := flag }
  | .source source asName => do pure { q with source := some (← Source.ofOperand source asName) }
  | .rename asName => withAlias q asName
  | .join kind source condition shared asName => withJoin q kind source condition shared asName
  | .crossJoin source asName => do
    let join ← Join.make .cross (← Source.ofOperand source asName) none []
    pure { q with joins := q.joins ++ [join] }
  | .filter condition => do pure { q with filter := some (← Condition.narrow q.filter condition) }
  | .groupBy columns having rollup => do
    let grouping ← GroupBy.make columns (having.ifAny.map (·.keepCondition)) rollup
    pure { q with groupBy := some grouping }
  | .having condition => withHaving q condition
  | .orderBy column direction => do
    pure { q with orderBy := q.orderBy ++ [← SortKey.make column direction] }
  | .limit count offset => do pure { q with limit := some (← RowLimit.make count offset.ifAny) }
  | .into targets =>
    if targets.isEmpty then .error (.query .intoNeedsTarget)
    else .ok { q with into := targets }

/-- The draft after a step. -/
def after (d : SelectDraft) (step : SelectStep) : Except Error SelectDraft :=
  (clausesAfter d.parts step).map (⟨·⟩)

end SelectDraft
end StoredSql
