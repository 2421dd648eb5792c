import StoredSql.Identifier
import StoredSql.Operand

/-!
# Composing expressions and conditions

Expressions and conditions made from operands. On the left of an operator a text names a column, on
the right it is a literal. `all` and `any` flatten: a conjunction never holds a conjunction, nor a
disjunction a disjunction, as `flatten` puts the parts of a part in its place.
-/

namespace StoredSql

/-- The member of a fixed choice that an operand names. -/
def Operand.toMember {α : Type} [Keyword α] (o : Operand) : Except Error α :=
  o.outline.toMember

/-- The label that an operand is. -/
def Operand.toLabel (o : Operand) : Except Error String :=
  match o.text? with
  | some s => Identifier.checkShownLabel o.shown s
  | none => .error (.naming (.labelNotPlain o.shown))

namespace Expr

/-- The literal of an operand that is a plain value. -/
def ofLiteral : Operand → Except Error Expr
  | .value v => ofValue v
  | o => .error (.literal (.unsupportedKind o.kindName))

/-- The variable that an operand names, without a look at what is no name. -/
def ofVariable (o : Operand) : Expr :=
  match o.text? with
  | some s => .variable s
  | none => .foreign (.plain Outline.variableKind [("name", o.outline)])

/-- The text that an operand is, as it is, without a look at what is none. -/
def ofRaw (o : Operand) : Expr :=
  match o.text? with
  | some s => .raw s
  | none => .foreign (.plain "RawSql" [("sql", o.outline)])

/-- A call of a function. -/
def ofCall (name : Operand) (args : List Operand) : Except Error Expr := do
  match name.text? with
  | some s =>
    match FunctionName.ofText? s with
    | some f => pure (.call f (← args.mapM (·.toExpr)))
    | none => throw (.naming (.function name.shown))
  | none => throw (.naming (.function name.shown))

/-- An operation of arithmetic. -/
def ofArithmetic (op : ArithmeticOp) (left right : Operand) : Except Error Expr := do
  let left ← left.toExpr
  let right ← right.toExpr
  pure (.arithmetic left op right)

/-- An operation of arithmetic where a text on the left names a column. -/
def combine (op : ArithmeticOp) (left right : Operand) : Except Error Expr :=
  let left := match left.text? with
    | some s => .expr (ofColumnName s)
    | none => left
  ofArithmetic op left right

/-- An operand as a query in the place of an expression, without a look at what it is. -/
def keepQuery : Operand → Expr
  | .query q => .subquery q
  | o => .foreign (.plain "SubqueryExpr" [("query", o.outline)])

/-- A query in the place of an expression. -/
def ofQuery (o : Operand) : Except Error Expr := o.built.map keepQuery

end Expr

/-- The parts of an operand that is no text and no byte string. -/
def Operand.sequence? : Operand → Option (List Operand)
  | .value (.text _) => none
  | .value (.keyword _) => none
  | .value (.bytes _) => none
  | o => o.items?

namespace Condition

/-- What the operator and the operand to the right of it test for. -/
def readTest (op : CompareOp) (right : Operand) : Except Error Test := do
  match op with
  | .isNull =>
    if right.isNull then pure .isNull else throw (.query (.noRightOperand (Keyword.word op)))
  | .isNotNull =>
    if right.isNull then pure .isNotNull else throw (.query (.noRightOperand (Keyword.word op)))
  | .isIn =>
    match right with
    | .expr (.subquery q) => pure (.inQuery q)
    | right =>
      match right.sequence? with
      | none => throw (.query .inNeedsSequence)
      | some items =>
        let values ← items.mapM (·.toExpr)
        if values.isEmpty then throw (.query .inNeedsValue)
        pure (.inValues values)
  | .between =>
    match right.sequence? with
    | none => throw (.query .betweenNeedsPair)
    | some [low, high] => pure (.between (← low.toExpr) (← high.toExpr))
    | some _ => throw (.query .betweenNeedsTwo)
  | .binary op => pure (.binary op (← right.toExpr))

/-- A test of an operand. -/
def ofTest (left : Operand) (op : CompareOp) (right : Operand) : Except Error Condition := do
  let left ← left.toColumn
  let test ← readTest op right
  pure (.compare left test)

/-- Equality; nothing is equal to null, so that a comparison with it asks whether it is null. -/
def ofEqual (left right : Operand) : Except Error Condition :=
  if right.isNull then ofTest left .isNull right else ofTest left (.binary .eq) right

/-- Inequality; a comparison with null asks whether it is not null. -/
def ofUnequal (left right : Operand) : Except Error Condition :=
  if right.isNull then ofTest left .isNotNull right else ofTest left (.binary .ne) right

/-- Membership in a sequence or among the rows of a query. -/
def ofMember (left values : Operand) : Except Error Condition := do
  match values with
  | .draft d => ofTest left .isIn (.expr (.subquery (← d.build)))
  | values => ofTest left .isIn values

/-- Whether a truth value holds. A text names a variable. -/
def ofTruth (o : Operand) : Except Error Condition :=
  match o.text? with
  | some s => .ok (.isTrue (.variable s))
  | none => o.toExpr.map .isTrue

/-- An operand as a query that is asked for rows, without a look at what it is. -/
def keepRows : Operand → Condition
  | .query q => .exists q
  | o => .foreign (.foreign (.plain "Exists" [("query", o.outline)]))

/-- Whether a query has rows. -/
def ofRows (o : Operand) : Except Error Condition := o.built.map keepRows

/-- The parts of a conjunction; another condition is its only part. -/
def conjuncts : Condition → List Condition
  | .and cs => cs
  | c => [c]

/-- The parts of a disjunction; another condition is its only part. -/
def disjuncts : Condition → List Condition
  | .or cs => cs
  | c => [c]

/-- The conditions that the operands are, each in the place of its parts. -/
def flatten (connective : String) (parts : Condition → List Condition) :
    List Operand → Except Error (List Condition)
  | [] => .ok []
  | o :: os =>
    match o.condition? with
    | some c => (flatten connective parts os).map (parts c ++ ·)
    | none => .error (.query (.combinesConditions connective o.kindName))

/-- The conjunction of conditions. The conjunction of none holds always. -/
def all (os : List Operand) : Except Error Condition := (flatten "And" conjuncts os).map .and

/-- The disjunction of conditions; there must be one. -/
def any (os : List Operand) : Except Error Condition := do
  let cs ← flatten "Or" disjuncts os
  if cs.isEmpty then throw (.query .emptyOr)
  pure (.or cs)

/-- The disjunction of some alternatives. -/
def anyOf (os : List Operand) : Except Error Condition :=
  if os.isEmpty then .error (.query .noAlternatives) else any os

/-- The negation of a condition. -/
def negate (o : Operand) : Except Error Condition :=
  match o.condition? with
  | some c => .ok (.not c)
  | none => .error (.query (.notNeedsCondition o.kindName))

/-- A condition as an operand. -/
def operand (c : Condition) : Operand := .expr (.condition c)

end Condition
end StoredSql
