import StoredSql.Error

/-!
# Fixed choices

Types whose members are written as fixed words. `Keyword.read` finds the member that a word stands
for; `word_of_ofWord?` says that it is one with that word.
-/

namespace StoredSql

/-- A text with underscores for its spaces. -/
def underscored (s : String) : String :=
  String.ofList (s.toList.map fun c => if c = ' ' then '_' else c)

/-- A type with finitely many members, each with a word of its own. `title` is how messages name
the type, and `name` how they name a member of it. -/
class Keyword (α : Type) where
  title : String
  members : List α
  word : α → String
  name : α → String := fun a => underscored (word a)

namespace Keyword

variable {α : Type} [Keyword α]

/-- The member with the given word. -/
def ofWord? (s : String) : Option α := (members : List α).find? fun a => word a == s

/-- The member with the given word; other words are refused. -/
def read (s : String) : Except Error α :=
  match ofWord? s with
  | some a => .ok a
  | none => .error (.notAMember (Text.quoted s) (title α))

theorem word_of_ofWord? {s : String} {a : α} (h : ofWord? s = some a) : word a = s := by
  simpa using List.find?_some h

end Keyword

/-- The operators of arithmetic. -/
inductive ArithmeticOp where
  | add | sub | mul | div | intDiv | mod
deriving DecidableEq, Repr

instance : Keyword ArithmeticOp where
  title := "ArithmeticOp"
  members := [.add, .sub, .mul, .div, .intDiv, .mod]
  word
    | .add => "+" | .sub => "-" | .mul => "*" | .div => "/" | .intDiv => "DIV" | .mod => "%"
  name
    | .add => "ADD" | .sub => "SUB" | .mul => "MUL" | .div => "DIV" | .intDiv => "INT_DIV"
    | .mod => "MOD"

/-- The comparisons of one value with another. -/
inductive Comparison where
  | eq | ne | lt | le | gt | ge | like
deriving DecidableEq, Repr

/-- All operators that a value can be tested with. -/
inductive CompareOp where
  | binary (c : Comparison)
  | isIn
  | isNull
  | isNotNull
  | between
deriving DecidableEq, Repr

def Comparison.word : Comparison → String
  | .eq => "=" | .ne => "<>" | .lt => "<" | .le => "<=" | .gt => ">" | .ge => ">=" | .like => "LIKE"

def Comparison.name : Comparison → String
  | .eq => "EQ" | .ne => "NE" | .lt => "LT" | .le => "LE" | .gt => "GT" | .ge => "GE"
  | .like => "LIKE"

instance : Keyword CompareOp where
  title := "CompareOp"
  members := [.binary .eq, .binary .ne, .binary .lt, .binary .le, .binary .gt, .binary .ge,
    .binary .like, .isIn, .isNull, .isNotNull, .between]
  word
    | .binary c => c.word
    | .isIn => "IN"
    | .isNull => "IS NULL"
    | .isNotNull => "IS NOT NULL"
    | .between => "BETWEEN"
  name
    | .binary c => c.name
    | .isIn => "IN"
    | .isNull => "IS_NULL"
    | .isNotNull => "IS_NOT_NULL"
    | .between => "BETWEEN"

/-- The ways to join a source. -/
inductive JoinKind where
  | inner | left | right | full | cross
deriving DecidableEq, Repr

instance : Keyword JoinKind where
  title := "JoinType"
  members := [.inner, .left, .right, .full, .cross]
  word
    | .inner => "INNER" | .left => "LEFT" | .right => "RIGHT" | .full => "FULL" | .cross => "CROSS"

/-- The directions of a sort key. -/
inductive SortDirection where
  | asc | desc
deriving DecidableEq, Repr

instance : Keyword SortDirection where
  title := "SortDirection"
  members := [.asc, .desc]
  word
    | .asc => "ASC" | .desc => "DESC"

/-- What happens to rows whose keys are taken. -/
inductive InsertMode where
  | insert | insertIgnore | replace
deriving DecidableEq, Repr

instance : Keyword InsertMode where
  title := "InsertMode"
  members := [.insert, .insertIgnore, .replace]
  word
    | .insert => "INSERT" | .insertIgnore => "INSERT IGNORE" | .replace => "REPLACE"

/-- What a condition value refers to. -/
inductive ConditionKind where
  | sqlError | sqlState | condition | sqlWarning | notFound | sqlException
deriving DecidableEq, Repr

instance : Keyword ConditionKind where
  title := "ConditionKind"
  members := [.sqlError, .sqlState, .condition, .sqlWarning, .notFound, .sqlException]
  word
    | .sqlError => "SQL_ERROR" | .sqlState => "SQL_STATE" | .condition => "CONDITION"
    | .sqlWarning => "SQLWARNING" | .notFound => "NOT FOUND" | .sqlException => "SQLEXCEPTION"
  name
    | .sqlError => "SQL_ERROR" | .sqlState => "SQL_STATE" | .condition => "CONDITION"
    | .sqlWarning => "SQL_WARNING" | .notFound => "NOT_FOUND" | .sqlException => "SQL_EXCEPTION"

/-- What follows the body of a handler. -/
inductive HandlerAction where
  | continue | exit | undo
deriving DecidableEq, Repr

instance : Keyword HandlerAction where
  title := "HandlerAction"
  members := [.continue, .exit, .undo]
  word
    | .continue => "CONTINUE" | .exit => "EXIT" | .undo => "UNDO"

/-- The directions that a parameter passes values in. -/
inductive ParameterMode where
  | in | out | inOut
deriving DecidableEq, Repr

instance : Keyword ParameterMode where
  title := "ParameterMode"
  members := [.in, .out, .inOut]
  word
    | .in => "IN" | .out => "OUT" | .inOut => "INOUT"

/-- When a trigger runs. -/
inductive TriggerTiming where
  | before | after
deriving DecidableEq, Repr

instance : Keyword TriggerTiming where
  title := "TriggerTiming"
  members := [.before, .after]
  word
    | .before => "BEFORE" | .after => "AFTER"

/-- What a trigger waits for. -/
inductive TriggerEvent where
  | insert | update | delete
deriving DecidableEq, Repr

instance : Keyword TriggerEvent where
  title := "TriggerEvent"
  members := [.insert, .update, .delete]
  word
    | .insert => "INSERT" | .update => "UPDATE" | .delete => "DELETE"

/-- The kinds of an index. -/
inductive IndexKind where
  | index | unique | fulltext | spatial
deriving DecidableEq, Repr

instance : Keyword IndexKind where
  title := "IndexKind"
  members := [.index, .unique, .fulltext, .spatial]
  word
    | .index => "INDEX" | .unique => "UNIQUE" | .fulltext => "FULLTEXT" | .spatial => "SPATIAL"

/-- What becomes of a row when the row that it refers to goes. -/
inductive ForeignKeyAction where
  | noAction | restrict | setNull | cascade
deriving DecidableEq, Repr

instance : Keyword ForeignKeyAction where
  title := "ForeignKeyAction"
  members := [.noAction, .restrict, .setNull, .cascade]
  word
    | .noAction => "NO ACTION" | .restrict => "RESTRICT" | .setNull => "SET NULL"
    | .cascade => "CASCADE"

/-- What a column has besides its type. -/
inductive ColumnAttribute where
  | binary | unsigned | unsignedZerofill | onUpdateCurrentTimestamp
deriving DecidableEq, Repr

instance : Keyword ColumnAttribute where
  title := "ColumnAttribute"
  members := [.binary, .unsigned, .unsignedZerofill, .onUpdateCurrentTimestamp]
  word
    | .binary => "BINARY" | .unsigned => "UNSIGNED" | .unsignedZerofill => "UNSIGNED ZEROFILL"
    | .onUpdateCurrentTimestamp => "ON UPDATE CURRENT_TIMESTAMP"

end StoredSql
