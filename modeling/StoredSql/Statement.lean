import StoredSql.Column
import StoredSql.Insert

/-!
# Statements of stored programs

The tree of a stored program. Statements that hold statements own them; a block also tells what was
visible where it begins. `foreign` stands for a value in the place of a statement that is none.
-/

namespace StoredSql

/-! ## What handlers react to -/

/-- What a handler reacts to, or what a named condition stands for. -/
inductive ConditionValue where
  | sqlError (code : Nat)
  | sqlState (state : String)
  | condition (name : String)
  | sqlWarning
  | notFound
  | sqlException
deriving DecidableEq, Repr

namespace ConditionValue

/-- The characters of a state. -/
def isStateChar (c : Char) : Bool := c.isDigit || c.isUpper

/-- Five digits or capital letters, up to the end of a line. -/
def isState (s : String) : Bool :=
  match s.toList with
  | [a, b, c, d, e] => [a, b, c, d, e].all isStateChar
  | [a, b, c, d, e, '\n'] => [a, b, c, d, e].all isStateChar
  | _ => false

/-- The state that an operand is. Class `00` means success. -/
def readState (o : Operand) : Except Error String :=
  match o.text? with
  | some s =>
    if !isState s then .error (.validity (.sqlState o.shown))
    else if s.startsWith "00" then .error (.validity (.sqlStateSuccess s))
    else .ok s
  | none => .error (.validity (.sqlState o.shown))

/-- A condition that takes no value. -/
def bare (kind : ConditionKind) (value : Operand) (result : ConditionValue) :
    Except Error ConditionValue :=
  if value.isNull then .ok result
  else .error (.validity (.conditionTakesNoValue (Keyword.word kind)))

/-- A condition of a kind, with the value that the kind asks for. -/
def make (kind : ConditionKind) (value : Operand) : Except Error ConditionValue :=
  match kind with
  | .sqlError =>
    match value with
    | .value (.int (.ofNat (n + 1))) => .ok (.sqlError (n + 1))
    | o => .error (.validity (.errorCode o.shown))
  | .sqlState => (readState value).map .sqlState
  | .condition =>
    match value.text? with
    | some name =>
      if name.isEmpty then .error (.validity .conditionNeedsName) else .ok (.condition name)
    | none => .error (.validity .conditionNeedsName)
  | .sqlWarning => bare .sqlWarning value .sqlWarning
  | .notFound => bare .notFound value .notFound
  | .sqlException => bare .sqlException value .sqlException

/-- The kind of a condition. -/
def kind : ConditionValue → ConditionKind
  | sqlError _ => .sqlError
  | sqlState _ => .sqlState
  | condition _ => .condition
  | sqlWarning => .sqlWarning
  | notFound => .notFound
  | sqlException => .sqlException

/-- The name of a named condition. -/
def name? : ConditionValue → Option String
  | condition name => some name
  | _ => none

/-- The outline of a condition. -/
def outline (c : ConditionValue) : Outline :=
  .plain "ConditionValue" [("kind", .word c.kind), ("value",
    match c with
    | sqlError code => .count code
    | sqlState state => .text state
    | condition name => .text name
    | _ => .null)]

end ConditionValue

/-! ## The tree -/

/-- The labels and the variables that are visible at a place. -/
structure ScopeView where
  labels : List String
  variableNames : List String
deriving DecidableEq, Repr

mutual

/-- A statement. -/
inductive Statement where
  | declareVariables (names : List String) (type : Column) (initial : Option Expr)
  | declareCondition (name : String) (value : ConditionValue)
  | declareCursor (name : String) (query : SelectQuery)
  | declareHandler (action : HandlerAction) (conditions : List ConditionValue) (body : Statement)
  | block (block : Block)
  | ifElse (branches : List IfBranch) (otherwise : Option (List Statement))
  | cases (operand : Option Expr) (whens : List CaseWhen) (otherwise : Option (List Statement))
  | loop (label : Option String) (body : List Statement)
  | whileLoop (label : Option String) (test : Condition) (body : List Statement)
  | repeatLoop (label : Option String) (test : Condition) (body : List Statement)
  | iterate (label : String)
  | leave (label : String)
  | openCursor (name : String)
  | fetch (name : String) (targets : List String)
  | closeCursor (name : String)
  | select (query : SelectQuery)
  | insert (query : InsertQuery)
  | set (assignments : List (String × Expr))
  | raw (sql : String)
  | empty
  | delimiter (text : String)
  | call (name : String) (args : List Expr)
  | signal (condition : ConditionValue) (message : Option Expr) (number : Option Nat)
  | foreign (outline : Outline)

/-- Statements between `BEGIN` and `END`. `scope` tells what is visible where they begin. -/
inductive Block where
  | mk (statements : List Statement) (label : Option String) (scope : Option ScopeView)

/-- A branch of a conditional. -/
inductive IfBranch where
  | mk (test : Condition) (statements : List Statement)

/-- An arm of a case: a value to compare the operand with, or a condition if there is none. -/
inductive CaseWhen where
  | mk (test : Expr) (statements : List Statement)

end

instance : Inhabited Statement := ⟨.empty⟩

namespace Block

/-- The statements of a block. -/
def statements : Block → List Statement
  | mk statements _ _ => statements

/-- The label of a block. -/
def label : Block → Option String
  | mk _ label _ => label

/-- What is visible where a block begins. -/
def scope : Block → Option ScopeView
  | mk _ _ scope => scope

end Block

/-! ## Outlines -/

/-- The outline of what is visible at a place. -/
def ScopeView.outline (v : ScopeView) : Outline :=
  .mapping [("labels", .list (v.labels.map .text)),
    ("variables", .list (v.variableNames.map .text))]

mutual

/-- The outline of a statement. -/
def Statement.outline : Statement → Outline
  | .declareVariables names type initial =>
    .plain "DeclareVariable" [("names", .texts names), ("column_type", type.outline),
      ("default", .optional Expr.outline initial)]
  | .declareCondition name value =>
    .plain "DeclareCondition" [("name", .text name), ("value", value.outline)]
  | .declareCursor name query =>
    .plain "DeclareCursor" [("name", .text name), ("query", query.outline)]
  | .declareHandler action conditions body =>
    .plain "DeclareHandler" [("action", .word action),
      ("conditions", .tuple (conditions.map (·.outline))), ("body", body.outline)]
  | .block b => b.outline
  | .ifElse branches otherwise =>
    .plain "IfBlock" [("branches", .tuple (IfBranch.outlines branches)),
      ("else_statements", Statement.outlinesIfAny otherwise)]
  | .cases operand whens otherwise =>
    .plain "CaseBlock" [("whens", .tuple (CaseWhen.outlines whens)),
      ("operand", .optional Expr.outline operand),
      ("else_statements", Statement.outlinesIfAny otherwise)]
  | .loop label body =>
    .plain "LoopStmt" [("label", .optional .text label),
      ("statements", .tuple (Statement.outlines body))]
  | .whileLoop label test body =>
    .plain "WhileStmt" [("label", .optional .text label), ("condition", test.outline),
      ("statements", .tuple (Statement.outlines body))]
  | .repeatLoop label test body =>
    .plain "RepeatStmt" [("label", .optional .text label), ("until", test.outline),
      ("statements", .tuple (Statement.outlines body))]
  | .iterate label => .plain "IterateStmt" [("label", .text label)]
  | .leave label => .plain "LeaveStmt" [("label", .text label)]
  | .openCursor name => .plain "OpenCursor" [("name", .text name)]
  | .fetch name targets =>
    .plain "FetchCursor" [("name", .text name), ("variables", .texts targets)]
  | .closeCursor name => .plain "CloseCursor" [("name", .text name)]
  | .select query => .plain "SelectStmt" [("query", query.outline)]
  | .insert query => .plain "InsertStmt" [("query", query.outline)]
  | .set assignments =>
    .plain "SetStmt" [("assignments",
      .tuple (assignments.map fun a => .tuple [.text a.1, a.2.outline]))]
  | .raw sql => .plain "RawStmt" [("sql", .text sql)]
  | .empty => .plain "EmptyStmt" []
  | .delimiter text => .plain "DelimiterStmt" [("delimiter", .text text)]
  | .call name args =>
    .plain "CallStmt" [("name", .text name), ("args", .tuple (Expr.outlines args))]
  | .signal condition message number =>
    .plain "SignalStmt" [("condition", condition.outline),
      ("message_text", .optional Expr.outline message), ("mysql_errno", .optional .count number)]
  | .foreign o => o

def Statement.outlines : List Statement → List Outline
  | [] => []
  | s :: ss => s.outline :: Statement.outlines ss

def Statement.outlinesIfAny : Option (List Statement) → Outline
  | none => .null
  | some ss => .tuple (Statement.outlines ss)

/-- The outline of a block. What is visible at its start is no part of it. -/
def Block.outline : Block → Outline
  | ⟨statements, label, scope⟩ =>
    .node "Block" [("statements", .tuple (Statement.outlines statements)),
      ("label", .optional .text label)] (some ("scope", .optional ScopeView.outline scope))

def IfBranch.outline : IfBranch → Outline
  | ⟨test, statements⟩ =>
    .plain "IfBranch" [("condition", test.outline),
      ("statements", .tuple (Statement.outlines statements))]

def IfBranch.outlines : List IfBranch → List Outline
  | [] => []
  | b :: bs => b.outline :: IfBranch.outlines bs

def CaseWhen.outline : CaseWhen → Outline
  | ⟨test, statements⟩ =>
    .plain "CaseWhen" [("when", test.outline),
      ("statements", .tuple (Statement.outlines statements))]

def CaseWhen.outlines : List CaseWhen → List Outline
  | [] => []
  | w :: ws => w.outline :: CaseWhen.outlines ws

end

namespace Statement

/-- How messages name the kind of a statement. -/
def kindName (s : Statement) : String := s.outline.kindName

/-! ## Kinds of statements -/

/-- The categories of statements. -/
inductive Category where
  | declaring | block | conditional | loop | cursor | query | misc
deriving DecidableEq, Repr

/-- The word for a category. -/
def Category.word : Category → String
  | .declaring => "declaring" | .block => "block" | .conditional => "conditional"
  | .loop => "loop" | .cursor => "cursor" | .query => "query" | .misc => "misc"

/-- The category of a statement; what is no statement has none. -/
def category? : Statement → Option Category
  | declareVariables .. | declareCondition .. | declareCursor .. | declareHandler .. =>
    some .declaring
  | .block _ => some .block
  | ifElse .. | cases .. => some .conditional
  | .loop .. | whileLoop .. | repeatLoop .. | iterate _ | leave _ => some .loop
  | openCursor _ | fetch .. | closeCursor _ => some .cursor
  | select _ | insert _ => some .query
  | set _ | raw _ | empty | delimiter _ | call .. | signal .. => some .misc
  | foreign _ => none

/-- Whether the statement does nothing but leave a blank line. -/
def isEmpty : Statement → Bool
  | empty => true
  | _ => false

/-! ## Making statements from their parts -/

/-- Only blocks may be without a statement. -/
def checkBody (part : String) (body : List Statement) : Except Error Unit :=
  if body.all isEmpty then .error (.structural (.emptyBody part)) else .ok ()

/-- Whether one of the texts is the same name as another one after it. -/
def repeats : List String → Bool
  | [] => false
  | name :: names => names.any (Text.sameName name) || repeats names

/-- A declaration of variables of one type. -/
def makeDeclare (names : List String) (type : Column) (initial : Operand) :
    Except Error Statement := do
  if names.isEmpty then throw (.validity .declareNeedsName)
  if repeats names then throw (.validity (.declareRepeats names))
  match names.find? (·.startsWith "@") with
  | some name => throw (.validity (.sessionVariable name))
  | none => pure ()
  pure (.declareVariables names type (← initial.ifAny.mapM (·.toExpr)))

/-- A declaration of a name for an error code or a state. -/
def makeDeclareCondition (name : String) (value : ConditionValue) : Except Error Statement :=
  if value.kind = .sqlError ∨ value.kind = .sqlState then .ok (.declareCondition name value)
  else .error (.validity (.conditionFor (Keyword.word value.kind)))

/-- A declaration of a cursor over the rows of a query. A query in the making counts as one that
stores its row. -/
def makeDeclareCursor (name : String) (query : Operand) : Except Error Statement :=
  match query with
  | .query q =>
    if q.into.isEmpty then .ok (.declareCursor name q)
    else .error (.validity (.cursorInto name))
  | .draft _ => .error (.validity (.cursorInto name))
  | o => .error (.kind (.notUsable o.kindName))

/-- What a handler does must be one statement that is executed and has a text of its own. -/
def checkHandlerBody (body : Statement) : Except Error Unit :=
  match body.category? with
  | none => .error (.structural .handlerBody)
  | some .declaring => .error (.structural .handlerBody)
  | some _ =>
    match body with
    | empty => .error (.structural (.handlerBodyKind body.kindName))
    | delimiter _ => .error (.structural (.handlerBodyKind body.kindName))
    | raw sql =>
      if (Text.trim sql).isEmpty then .error (.structural (.handlerBodyKind body.kindName))
      else .ok ()
    | _ => .ok ()

/-- A declaration of a handler. -/
def makeDeclareHandler (action : Outline) (conditions : List ConditionValue) (body : Statement) :
    Except Error Statement := do
  let action ← action.toMember
  if action = HandlerAction.undo then throw (.validity .undoHandler)
  if conditions.isEmpty then throw (.validity .handlerNeedsCondition)
  checkHandlerBody body
  pure (.declareHandler action conditions body)

end Statement

/-- The condition that an expression is. -/
def Expr.condition? : Expr → Option Condition
  | .condition c => some c
  | _ => none

/-- A branch of a conditional. -/
def IfBranch.make (test : Operand) (body : List Statement) : Except Error IfBranch := do
  match test.condition? with
  | none => throw (.validity (.ifNeedsCondition test.kindName))
  | some c =>
    Statement.checkBody "IF branch" body
    pure ⟨c, body⟩

/-- An arm of a case. -/
def CaseWhen.make (test : Operand) (body : List Statement) : Except Error CaseWhen := do
  let test ← test.toExpr
  Statement.checkBody "WHEN" body
  pure ⟨test, body⟩

/-- Whether the arm asks for a condition to hold. -/
def CaseWhen.isSearched : CaseWhen → Bool
  | ⟨test, _⟩ => test.condition?.isSome

namespace Statement

/-- A conditional. -/
def makeIf (branches : List IfBranch) (otherwise : Option (List Statement)) :
    Except Error Statement := do
  if branches.isEmpty then throw (.structural .ifNeedsBranch)
  otherwise.forM (checkBody "ELSE")
  pure (.ifElse branches otherwise)

/-- A case. Without an operand its arms ask for conditions. -/
def makeCase (operand : Operand) (whens : List CaseWhen) (otherwise : Option (List Statement)) :
    Except Error Statement := do
  if whens.isEmpty then throw (.structural .caseNeedsWhen)
  if operand.isNull ∧ !whens.all (·.isSearched) then throw (.validity .whenNeedsCondition)
  let operand ← operand.ifAny.mapM (·.toExpr)
  otherwise.forM (checkBody "ELSE")
  pure (.cases operand whens otherwise)

/-- A loop without a test. -/
def makeLoop (label : Option String) (body : List Statement) : Except Error Statement := do
  checkBody "LOOP" body
  pure (.loop label body)

/-- A loop that goes on while a condition holds. -/
def makeWhile (label : Option String) (test : Operand) (body : List Statement) :
    Except Error Statement := do
  match test.condition? with
  | none => throw (.validity (.whileNeedsCondition test.kindName))
  | some c =>
    checkBody "WHILE" body
    pure (.whileLoop label c body)

/-- A loop that goes on until a condition holds. -/
def makeRepeat (label : Option String) (test : Operand) (body : List Statement) :
    Except Error Statement := do
  match test.condition? with
  | none => throw (.validity (.untilNeedsCondition test.kindName))
  | some c =>
    checkBody "REPEAT" body
    pure (.repeatLoop label c body)

/-- A fetch from a cursor into variables. -/
def makeFetch (name : String) (targets : List String) : Except Error Statement :=
  if targets.isEmpty then .error (.validity (.fetchNeedsTarget name)) else .ok (.fetch name targets)

/-- Assignments. -/
def makeSet (assignments : List (String × Operand)) : Except Error Statement := do
  let assignments ← assignments.mapM fun a => do pure (a.1, ← a.2.toExpr)
  if assignments.isEmpty then throw (.validity .setNeedsAssignment)
  pure (.set assignments)

/-- Whether a text can be a delimiter: it has no white space and no backslash. -/
def isDelimiter (text : String) : Bool :=
  !text.isEmpty && !Text.hasBlank text && !text.toList.contains '\\'

/-- A directive that changes the delimiter. -/
def makeDelimiter (o : Operand) : Except Error Statement :=
  match o.text? with
  | some text =>
    if isDelimiter text then .ok (.delimiter text) else .error (.validity (.delimiter o.shown))
  | none => .error (.validity (.delimiter o.shown))

/-- A call of a procedure. -/
def makeCall (name : String) (args : List Operand) : Except Error Statement := do
  pure (.call name (← args.mapM (·.toExpr)))

/-- An error number, if there is one. -/
def readNumber : Operand → Except Error (Option Nat)
  | .value .null => .ok none
  | .value (.int (.ofNat (n + 1))) => .ok (some (n + 1))
  | o => .error (.validity (.signalNumber o.shown))

/-- The raising of a condition, with a message and an error number if they are given. -/
def makeSignal (condition : ConditionValue) (message number : Operand) :
    Except Error Statement := do
  if condition.kind ≠ .sqlState ∧ condition.kind ≠ .condition then
    throw (.validity .signalCondition)
  let message ← message.ifAny.mapM (·.toExpr)
  let number ← readNumber number
  pure (.signal condition message number)

end Statement
end StoredSql
