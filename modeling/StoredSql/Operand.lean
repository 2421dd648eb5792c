import StoredSql.Query

/-!
# Operands

What a caller hands over where an expression, a condition or a query is asked for: a plain value, a
sequence, an expression, a query, or something else. `Operand.toExpr` makes an expression of it,
`Operand.toColumn` takes a text for the name of a column, and `Operand.keep` takes it as it is.
-/

namespace StoredSql

/-- What is handed over where an expression is asked for. -/
inductive Operand where
  | value (v : Value)
  | list (items : List Operand)
  | tuple (items : List Operand)
  | mapping (entries : List (String × Operand))
  | expr (e : Expr)
  | query (q : SelectQuery)
  | draft (d : SelectDraft)
  | rows (q : InsertQuery)
  | rowsDraft (d : InsertDraft)
  | source (s : Source)
  | other (outline : Outline)

/-- The literal of a value. Numbers without an end have none. The bytes of a buffer are copied. -/
def Expr.ofValue : Value → Except Error Expr
  | .float x =>
    if x.isFinite then .ok (.literal (.float x)) else .error (.literal (.nonFiniteFloat x.text))
  | .decimal d =>
    if d.isFinite then .ok (.literal (.decimal d))
    else .error (.literal (.nonFiniteDecimal (Value.decimal d).shown))
  | .buffer bs => .ok (.literal (.bytes bs))
  | v => .ok (.literal v)

/-- The column of a dotted name: what stands before the last dot names its table. -/
def Expr.ofColumnName (name : String) : Expr :=
  match Text.cutLast '.' name with
  | some (table, rest) => .column (some table) rest
  | none => .column none name

namespace Operand

instance : Inhabited Operand := ⟨.value .null⟩

mutual

/-- The outline of an operand. -/
def outline : Operand → Outline
  | value v => .value v
  | list items => .list (outlines items)
  | tuple items => .tuple (outlines items)
  | mapping entries => .mapping (entryOutlines entries)
  | expr e => e.outline
  | query q => q.outline
  | draft _ => .hidden "SelectBuilder"
  | rows q => q.outline
  | rowsDraft _ => .hidden "InsertBuilder"
  | source s => s.outline
  | other o => o

def outlines : List Operand → List Outline
  | [] => []
  | o :: os => o.outline :: outlines os

def entryOutlines : List (String × Operand) → List (String × Outline)
  | [] => []
  | (key, o) :: entries => (key, o.outline) :: entryOutlines entries

end

/-- How messages name the kind of an operand. -/
def kindName (o : Operand) : String := o.outline.kindName

/-- An operand as messages show it. -/
def shown (o : Operand) : String := o.outline.shown

/-- The names of the variables that an operand refers to, from left to right. -/
def variableNames (o : Operand) : List String := o.outline.variableNames

/-- Whether nothing is handed over. -/
def isNull : Operand → Bool
  | value .null => true
  | _ => false

/-- The operand, if there is one. -/
def ifAny (o : Operand) : Option Operand := if o.isNull then none else some o

/-- A text as an operand. -/
def text (s : String) : Operand := .value (.text s)

/-- The text of an operand that is one. -/
def text? : Operand → Option String
  | value v => v.text?
  | _ => none

/-- The parts of an operand that has some: the items of a sequence, the keys of a mapping, the
characters of a text, the numbers of a byte string. -/
def items? : Operand → Option (List Operand)
  | list items => some items
  | tuple items => some items
  | mapping entries => some (entries.map fun entry => text entry.1)
  | value (.bytes bs) => some (bs.map fun b => .value (.int b.toNat))
  | value (.buffer bs) => some (bs.map fun b => .value (.int b.toNat))
  | value v => v.text?.map fun s => s.toList.map fun c => text (String.ofList [c])
  | _ => none

/-- The expression that the operand is, or the literal of its value. -/
def toExpr : Operand → Except Error Expr
  | expr e => .ok e
  | value v => Expr.ofValue v
  | o => .error (.literal (.unsupportedKind o.kindName))

/-- The expression that the operand is, or the column that it names. -/
def toColumn : Operand → Except Error Expr
  | expr e => .ok e
  | o => match o.text? with
    | some s => .ok (Expr.ofColumnName s)
    | none => .error (.query (.notAColumn o.kindName))

/-- The operand in the place of an expression, without a look at it. -/
def keep : Operand → Expr
  | expr e => e
  | o => .foreign o.outline

/-- The condition that the operand is. -/
def condition? : Operand → Option Condition
  | expr (.condition c) => some c
  | _ => none

/-- The operand in the place of a condition, without a look at it. -/
def keepCondition : Operand → Condition
  | expr (.condition c) => c
  | o => .foreign o.keep

/-- The operand in the place of a source, without a look at it. -/
def keepSource : Operand → Source
  | source s => s
  | o => .foreign o.outline

/-- The operand, built if it is in the making. -/
def built : Operand → Except Error Operand
  | draft d => d.build.map query
  | rowsDraft d => d.build.map rows
  | o => .ok o

/-- The query that the operand is or that it makes up. -/
def toQuery : Operand → Except Error SelectQuery
  | query q => .ok q
  | draft d => d.build
  | o => .error (.kind (.notUsable o.kindName))

end Operand
end StoredSql
