import StoredSql.Query

/-!
# Shapes of conditions

The shape of a condition tells what its text is at its outermost, so that parentheses are written
only where precedence asks for them: around a disjunction in a conjunction, and around all that
binds less tightly than a negation. A conjunction or a disjunction of one part has the shape of that
part; a conjunction of nothing holds always, and is left out of other conjunctions.
-/

namespace StoredSql

/-- What the text of a condition is at its outermost. A `trivial` condition is a conjunction of
nothing, a `truth` is one within a disjunction of one part. -/
inductive Shape where
  | trivial | truth | comparison | arithmetic | conjunction | disjunction | atom
deriving DecidableEq, Repr

namespace Shape

/-- Whether a condition of the shape holds always because it asks for nothing. -/
def isEmpty : Shape → Bool
  | trivial => true
  | truth => true
  | _ => false

/-- The parts of a conjunction that are written. -/
def kept {α : Type} (parts : List (Shape × α)) : List (Shape × α) :=
  parts.filter fun p => p.1 ≠ trivial

/-- A text in parentheses. -/
def parenthesized (text : String) : String := "(" ++ text ++ ")"

theorem toList_parenthesized (text : String) :
    (parenthesized text).toList = '(' :: (text.toList ++ [')']) := by
  simp [parenthesized]

/-- A part of a conjunction. -/
def conjunct (part : Shape × String) : String :=
  if part.1 = disjunction then parenthesized part.2 else part.2

/-- The text of a conjunction. -/
def textOfAll (parts : List (Shape × String)) : String :=
  match kept parts with
  | [] => "TRUE"
  | [p] => p.2
  | ps => Text.joinWith " AND " (ps.map conjunct)

/-- The shape of a conjunction. -/
def ofAll (shapes : List Shape) : Shape :=
  match shapes.filter (· ≠ trivial) with
  | [] => trivial
  | [s] => s
  | _ => conjunction

/-- The text of a disjunction. -/
def textOfAny (texts : List String) : String := Text.joinWith " OR " texts

/-- The shape of a disjunction. -/
def ofAny : List Shape → Shape
  | [trivial] => truth
  | [s] => s
  | _ => disjunction

/-- Whether a negation needs parentheses around it. -/
def isLoose : Shape → Bool
  | comparison => true
  | arithmetic => true
  | conjunction => true
  | disjunction => true
  | _ => false

/-- The text of a negation. -/
def textOfNot (shape : Shape) (text : String) : String :=
  "NOT " ++ if shape.isLoose then parenthesized text else text

end Shape

mutual

/-- The shape of a condition. -/
def Condition.shape : Condition → Shape
  | .compare .. => .comparison
  | .and cs => Shape.ofAll (Condition.shapes cs)
  | .or cs => Shape.ofAny (Condition.shapes cs)
  | .not _ => .atom
  | .isTrue (.arithmetic ..) => .arithmetic
  | .isTrue _ => .atom
  | .exists _ => .atom
  | .foreign _ => .atom

def Condition.shapes : List Condition → List Shape
  | [] => []
  | c :: cs => c.shape :: Condition.shapes cs

end

mutual

/-- Whether the condition is a conjunction of nothing, in any depth. -/
def Condition.isTrivial : Condition → Bool
  | .and cs => Condition.allTrivial cs
  | _ => false

def Condition.allTrivial : List Condition → Bool
  | [] => true
  | c :: cs => c.isTrivial && Condition.allTrivial cs

end

/-- Whether there is no condition, or one that asks for nothing. -/
def Condition.isEmpty : Option Condition → Bool
  | none => true
  | some c => c.shape.isEmpty

/-- The mark in the place of an expression. -/
def Expr.mark : String := "<expr>"

/-- The mark in the place of a query. -/
def SelectQuery.mark : String := "<select>"

/-- The sketch of a test. -/
def Test.sketch : Test → String
  | .binary op _ => op.word ++ " " ++ Expr.mark
  | .isNull => "IS NULL"
  | .isNotNull => "IS NOT NULL"
  | .inValues values =>
    "IN " ++ Shape.parenthesized (Text.joinWith ", " (values.map fun _ => Expr.mark))
  | .inQuery _ => "IN " ++ Shape.parenthesized SelectQuery.mark
  | .between .. => "BETWEEN " ++ Expr.mark ++ " AND " ++ Expr.mark

mutual

/-- A condition with marks in the place of expressions and queries. -/
def Condition.sketch : Condition → Except Error String
  | .compare _ test => .ok (Expr.mark ++ " " ++ test.sketch)
  | .and cs => do pure (Shape.textOfAll ((Condition.shapes cs).zip (← Condition.sketches cs)))
  | .or cs => do pure (Shape.textOfAny (← Condition.sketches cs))
  | .not c => do pure (Shape.textOfNot c.shape (← c.sketch))
  | .isTrue _ => .ok Expr.mark
  | .exists _ => .ok ("EXISTS " ++ Shape.parenthesized SelectQuery.mark)
  | .foreign e => .error (.kind (.condition e.kindName))

def Condition.sketches : List Condition → Except Error (List String)
  | [] => .ok []
  | c :: cs => do
    let text ← c.sketch
    pure (text :: (← Condition.sketches cs))

end

end StoredSql
