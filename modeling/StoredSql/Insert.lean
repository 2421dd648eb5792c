import StoredSql.Ordered
import StoredSql.Select

/-!
# New rows step by step

New rows for a table are given one by one or by a query, never by both. A row is as wide as the
columns that are filled, if those are named, and so is the query unless it selects all columns of a
table.
-/

namespace StoredSql

namespace InsertQuery

/-- The names of the parts of new rows. -/
def partNames : List String := ["table", "columns", "rows", "select", "mode", "on_duplicate"]

/-- New rows from their parts. -/
def make (table : TableRef) (columns : List String) (rows : List (List Operand))
    (select : Option SelectQuery) (mode : RowMode) (onDuplicate : List (String × Operand)) :
    Except Error InsertQuery := do
  let rows ← rows.mapM fun row => row.mapM (·.toExpr)
  checkWidths columns rows select
  let onDuplicate ← onDuplicate.mapM fun p => do pure (p.1, ← p.2.toExpr)
  pure ⟨table, columns, rows, select, mode, onDuplicate⟩

/-- The table of new rows, which must be given. -/
def needTable : Option TableRef → Except Error TableRef
  | some t => .ok t
  | none => .error (.query .insertNeedsTable)

end InsertQuery

/-- A step in giving new rows. -/
inductive InsertStep where
  | values (row : List Operand)
  | rows (rows : List (List Operand))
  | select (query : Operand)
  | ignore
  | replace
  | onDuplicate (assignments : List (String × Operand))

namespace InsertDraft

/-- A draft for a table, which may be given by its name. -/
def start (table : Operand) (columns : List String) : Except Error InsertDraft :=
  match TableRef.ofOperand? table with
  | some t => .ok ⟨t, columns, [], none, .insert, []⟩
  | none => .error (.query (.notATable table.kindName))

/-- The draft with one more row. -/
def withRow (d : InsertDraft) (row : List Operand) : Except Error InsertDraft := do
  if d.select.isSome then throw (.query .rowsAndSelect)
  if !d.columns.isEmpty ∧ row.length ≠ d.columns.length then
    throw (.query (.valueCount row.length d.columns.length))
  pure { d with rows := d.rows ++ [← row.mapM (·.toExpr)] }

/-- The draft with the rows of a query. -/
def withSelect (d : InsertDraft) (query : Operand) : Except Error InsertDraft := do
  if !d.rows.isEmpty then throw (.query .rowsAndSelect)
  match query with
  | .draft q => pure { d with select := some (← q.build) }
  | .query q => pure { d with select := some q }
  | o => throw (.query (.notASelect o.kindName))

/-- The draft after a step. A column that is assigned twice in one step keeps its place and takes
the last value. -/
def after (d : InsertDraft) : InsertStep → Except Error InsertDraft
  | .values row => d.withRow row
  | .rows rows => rows.foldlM withRow d
  | .select query => d.withSelect query
  | .ignore => .ok { d with mode := .insertIgnore }
  | .replace => .ok { d with mode := .replace }
  | .onDuplicate assignments => do
    let updates ← (Ordered.ofEntries assignments).mapM fun p => do pure (p.1, ← p.2.toExpr)
    pure { d with onDuplicate := d.onDuplicate ++ updates }

end InsertDraft
end StoredSql
