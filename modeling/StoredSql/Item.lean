import StoredSql.Program
import StoredSql.Table

/-!
# A value of any kind

Everything that can be put together, told apart by its kind. Each reader (`block?`, `column?`, …) is
for one kind; `Item.need` refuses an item of another one.
-/

namespace StoredSql

/-- A value of any kind. -/
inductive Item where
  | operand (o : Operand)
  | list (items : List Item)
  | tuple (items : List Item)
  | mapping (entries : List (String × Item))
  | statement (s : Statement)
  | branch (b : IfBranch)
  | arm (w : CaseWhen)
  | conditionValue (c : ConditionValue)
  | parameter (p : Parameter)
  | procedure (p : Procedure)
  | trigger (t : Trigger)
  | selectItem (i : SelectItem)
  | join (j : Join)
  | groupBy (g : GroupBy)
  | sortKey (k : SortKey)
  | limit (l : RowLimit)
  | column (c : Column)
  | index (i : TableIndex)
  | foreignKey (k : ForeignKey)
  | table (t : TableStructure)

namespace Item

mutual

/-- The value in the place of an operand. -/
def toOperand : Item → Operand
  | operand o => o
  | list items => .list (toOperands items)
  | tuple items => .tuple (toOperands items)
  | mapping entries => .mapping (entryOperands entries)
  | statement s => .other s.outline
  | branch b => .other b.outline
  | arm w => .other w.outline
  | conditionValue c => .other c.outline
  | parameter p => .other p.outline
  | procedure p => .other p.outline
  | trigger t => .other t.outline
  | selectItem i => .other i.outline
  | join j => .other j.outline
  | groupBy g => .other g.outline
  | sortKey k => .other k.outline
  | limit l => .other l.outline
  | column c => .other c.outline
  | index i => .other i.outline
  | foreignKey k => .other k.outline
  | table t => .other t.outline

def toOperands : List Item → List Operand
  | [] => []
  | i :: items => i.toOperand :: toOperands items

def entryOperands : List (String × Item) → List (String × Operand)
  | [] => []
  | (key, i) :: entries => (key, i.toOperand) :: entryOperands entries

end

/-- The outline of a value. -/
def outline (i : Item) : Outline := i.toOperand.outline

/-- How messages name the kind of a value. -/
def kindName (i : Item) : String := i.outline.kindName

/-- The value in the place of a statement. -/
def toStatement : Item → Statement
  | statement s => s
  | i => .foreign i.outline


/-- The item of a program. -/
def ofProgram : Program → Item
  | .block b => statement (.block b)
  | .procedure p => procedure p
  | .trigger t => trigger t

/-- The item that is nothing. -/
def null : Item := operand (.value .null)

/-- The items that an item holds; those of a mapping are its keys. -/
def items : Item → List Item
  | list items => items
  | tuple items => items
  | mapping entries => entries.map fun e => operand (.text e.1)
  | operand o => (o.items?.getD []).map operand
  | _ => []

/-- The item as a pair of a name and an item. -/
def pair? (i : Item) : Option (String × Item) :=
  match i.items with
  | [name, value] => name.toOperand.text?.map fun name => (name, value)
  | _ => none

/-- The entries of a mapping, or the pairs that a list holds. -/
def entries : Item → List (String × Item)
  | mapping entries => entries
  | i => i.items.filterMap pair?

/-! ## Items of one kind -/

/-- The item as a query. -/
def query? : Item → Option SelectQuery
  | operand (.query q) => some q
  | _ => none

/-- The item as new rows. -/
def rows? : Item → Option InsertQuery
  | operand (.rows q) => some q
  | _ => none

/-- The item as a table that is named. -/
def tableRef? : Item → Option TableRef
  | operand (.source (.table t)) => some t
  | _ => none

/-- The item as a variable. -/
def variableName? : Item → Option String
  | operand (.expr (.variable name)) => some name
  | _ => none

/-- The item as a block. -/
def block? : Item → Option Block
  | statement (.block b) => some b
  | _ => none

/-- The item as a branch of an IF. -/
def branch? : Item → Option IfBranch
  | branch b => some b
  | _ => none

/-- The item as a branch of a CASE. -/
def arm? : Item → Option CaseWhen
  | arm w => some w
  | _ => none

/-- The item as a condition of handlers. -/
def conditionValue? : Item → Option ConditionValue
  | conditionValue c => some c
  | _ => none

/-- The item as a parameter. -/
def parameter? : Item → Option Parameter
  | parameter p => some p
  | _ => none

/-- The item as a procedure. -/
def procedure? : Item → Option Procedure
  | procedure p => some p
  | _ => none

/-- The item as a trigger. -/
def trigger? : Item → Option Trigger
  | trigger t => some t
  | _ => none

/-- The item as an item of a select list. -/
def selectItem? : Item → Option SelectItem
  | selectItem i => some i
  | _ => none

/-- The item as a join. -/
def join? : Item → Option Join
  | join j => some j
  | _ => none

/-- The item as a grouping. -/
def groupBy? : Item → Option GroupBy
  | groupBy g => some g
  | _ => none

/-- The item as a key to sort by. -/
def sortKey? : Item → Option SortKey
  | sortKey k => some k
  | _ => none

/-- The item as a limit of rows. -/
def limit? : Item → Option RowLimit
  | limit l => some l
  | _ => none

/-- The item as the shape of a column. -/
def column? : Item → Option Column
  | column c => some c
  | _ => none

/-- The item as an index. -/
def index? : Item → Option TableIndex
  | index i => some i
  | _ => none

/-- The item as a foreign key. -/
def foreignKey? : Item → Option ForeignKey
  | foreignKey k => some k
  | _ => none

/-- The item as the shape of a table. -/
def table? : Item → Option TableStructure
  | table t => some t
  | _ => none

/-- An item read as one of a kind; one of another kind is refused. -/
def need {α : Type} (read : Item → Option α) (i : Item) : Except Error α :=
  match read i with
  | some a => .ok a
  | none => .error (.kind (.notUsable i.kindName))

/-- An item read as one of a kind, if it is there at all. -/
def needAny {α : Type} (read : Item → Option α) (i : Item) : Except Error (Option α) :=
  if i.toOperand.isNull then .ok none else (i.need read).map some

/-- The conditions that an item holds, or the one that it is. -/
def conditionValues (i : Item) : Except Error (List ConditionValue) :=
  match i.conditionValue? with
  | some c => .ok [c]
  | none => i.items.mapM (need conditionValue?)

/-- The columns of a table by name, each a column or the kind of what is in its place. -/
def columnEntries (i : Item) : List (String × Except String Column) :=
  i.entries.map fun e => (e.1, match e.2.column? with
    | some c => .ok c
    | none => .error e.2.kindName)

end Item
end StoredSql
