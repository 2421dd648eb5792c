import StoredSql.Item
import StoredSql.ProgramText

/-!
# Everything that has a text

The text of any value by its kind, under any dialect. A dialect that is not complete marks the
places of expressions, queries and blocks, sketches conditions, and has no text for programs
and tables.
-/

namespace StoredSql

namespace Dialect

/-- A text of a complete dialect, or a mark. -/
def orMark (d : Dialect) (mark : String) (text : Except Error String) : Except Error String :=
  if d.kind.complete then text else .ok mark

/-- A text that only a complete dialect has. -/
def orMissing (d : Dialect) (operation : String) (text : Except Error String) :
    Except Error String :=
  if d.kind.complete then text else .error (.notImplemented d.kind.title operation)

/-- The text of an expression. -/
def renderExpr (d : Dialect) (e : Expr) : Except Error String := d.orMark Expr.mark (exprText d e)

/-- The text of a condition. -/
def renderCondition (d : Dialect) (c : Condition) : Except Error String :=
  if d.kind.complete then conditionText d c else c.sketch

/-- The text of a query. -/
def renderSelect (d : Dialect) (q : SelectQuery) : Except Error String :=
  d.orMark SelectQuery.mark (selectText d q)

/-- The text of new rows. -/
def renderInsert (d : Dialect) (q : InsertQuery) : Except Error String :=
  d.orMark "<insert>" (d.insertText q)

/-- The text of a value. -/
def renderLiteral (d : Dialect) (v : Value) : Except Error String :=
  d.orMark "<literal>" (literal v)

/-- The text of an operand that is a value. -/
def renderPlain (d : Dialect) : Operand → Except Error String
  | .value v => d.renderLiteral v
  | o => d.orMark "<literal>" (.error (.literal (.unsupportedKind o.kindName)))

/-- The text of a block. -/
def renderBlock (d : Dialect) (b : Block) (terminator : String) : Except Error String :=
  d.orMark blockMark (d.blockText b terminator)

/-- The text of a statement. -/
def renderStatement (d : Dialect) (s : Statement) (depth : Int) : Except Error String :=
  d.orMissing "render_statement" (d.statementText s depth)

/-- The text of a procedure. -/
def renderProcedure (d : Dialect) (p : Procedure) (dropExisting : Bool) : Except Error String :=
  d.orMissing "render_procedure" (d.procedureText p dropExisting)

/-- The text of a trigger. -/
def renderTrigger (d : Dialect) (t : Trigger) (dropExisting : Bool) : Except Error String :=
  d.orMissing "render_trigger" (d.triggerText t dropExisting)

/-- The text of a call. -/
def renderCall (d : Dialect) (name : String) (args : List Expr) (terminator : String) :
    Except Error String :=
  d.orMissing "render_call" (d.callText name args terminator)

/-- The text of a table. -/
def renderTable (d : Dialect) (t : TableStructure) (ifNotExists : Bool) (terminator : String) :
    Except Error String :=
  d.orMissing "render_create_table" (d.createTable t ifNotExists terminator)

/-- The text of a value that is an operand. -/
def renderOperand (d : Dialect) : Operand → Except Error String
  | .draft q => do d.renderSelect (← q.build)
  | .rowsDraft q => do d.renderInsert (← q.build)
  | .query q => d.renderSelect q
  | .rows q => d.renderInsert q
  | .expr (.condition c) => d.renderCondition c
  | .expr e => d.renderExpr e
  | o => .error (.kind (.object o.kindName))

/-- The text of a program; a block has a terminator, what is called by a name may replace an older
one. -/
def renderProgram (d : Dialect) (terminator : String) (dropExisting : Bool) :
    Program → Except Error String
  | .block b => d.renderBlock b terminator
  | .procedure p => d.renderProcedure p dropExisting
  | .trigger t => d.renderTrigger t dropExisting

/-- The text of a value by its kind. -/
def render (d : Dialect) : Item → Except Error String
  | .operand o => d.renderOperand o
  | .statement (.block b) => d.renderBlock b ";"
  | .statement s => d.renderStatement s 0
  | .procedure p => d.renderProcedure p false
  | .trigger t => d.renderTrigger t false
  | .table t => d.renderTable t true ";"
  | i => .error (.kind (.object i.kindName))

end Dialect
end StoredSql
