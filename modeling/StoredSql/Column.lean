import StoredSql.Outline
import StoredSql.Text.Blank
import StoredSql.Text.Case

/-!
# Column types and columns

A column has a type with its parameters, and constraints. The same description serves the columns
of a table, declared variables and the parameters of a procedure. `ColumnDraft.column` gives the
column if its parts agree.
-/

namespace StoredSql

/-- What a column type takes between parentheses. -/
inductive TypeParams where
  | none
  | length
  | requiredLength
  | precision
  | values
deriving DecidableEq, Repr

instance : Keyword TypeParams where
  title := "TypeParams"
  members := [.none, .length, .requiredLength, .precision, .values]
  word
    | .none => "none" | .length => "length" | .requiredLength => "required_length"
    | .precision => "precision" | .values => "values"
  name
    | .none => "NONE" | .length => "LENGTH" | .requiredLength => "REQUIRED_LENGTH"
    | .precision => "PRECISION" | .values => "VALUES"

/-- The types of columns. -/
inductive ColumnType where
  | tinyInt | smallInt | mediumInt | int | bigInt | bit | boolean
  | float | double | decimal | real
  | date | dateTime | timestamp | time | year
  | char | varChar | tinyText | text | mediumText | longText | binary | varBinary
  | tinyBlob | blob | mediumBlob | longBlob
  | enum | set | json
deriving DecidableEq, Repr

namespace ColumnType

/-- The name of the type. -/
def name : ColumnType → String
  | .tinyInt => "TINYINT" | .smallInt => "SMALLINT" | .mediumInt => "MEDIUMINT" | .int => "INT"
  | .bigInt => "BIGINT" | .bit => "BIT" | .boolean => "BOOLEAN" | .float => "FLOAT"
  | .double => "DOUBLE" | .decimal => "DECIMAL" | .real => "REAL" | .date => "DATE"
  | .dateTime => "DATETIME" | .timestamp => "TIMESTAMP" | .time => "TIME" | .year => "YEAR"
  | .char => "CHAR" | .varChar => "VARCHAR" | .tinyText => "TINYTEXT" | .text => "TEXT"
  | .mediumText => "MEDIUMTEXT" | .longText => "LONGTEXT" | .binary => "BINARY"
  | .varBinary => "VARBINARY" | .tinyBlob => "TINYBLOB" | .blob => "BLOB"
  | .mediumBlob => "MEDIUMBLOB" | .longBlob => "LONGBLOB" | .enum => "ENUM" | .set => "SET"
  | .json => "JSON"

/-- What the type takes between parentheses. -/
def params : ColumnType → TypeParams
  | .tinyInt | .smallInt | .mediumInt | .int | .bigInt | .bit => .length
  | .float | .double | .decimal | .real => .precision
  | .dateTime | .timestamp | .time => .length
  | .char | .binary => .length
  | .varChar | .varBinary => .requiredLength
  | .enum | .set => .values
  | .boolean | .date | .year | .tinyText | .text | .mediumText | .longText | .tinyBlob | .blob
  | .mediumBlob | .longBlob | .json => .none

/-- The outline of a type: it stands for its name and for what it takes. -/
def outline (t : ColumnType) : Outline :=
  .member "ColumnType" t.name (.tuple [.text t.name, .word t.params])

/-- All types. -/
def all : List ColumnType := [
  .tinyInt, .smallInt, .mediumInt, .int, .bigInt, .bit, .boolean, .float, .double, .decimal, .real,
  .date, .dateTime, .timestamp, .time, .year, .char, .varChar, .tinyText, .text, .mediumText,
  .longText, .binary, .varBinary, .tinyBlob, .blob, .mediumBlob, .longBlob, .enum, .set, .json
]

/-- The type of a name, in any case and with white space around it. Two types have a second name. -/
def ofName? (s : String) : Option ColumnType :=
  let key := Text.upper (Text.trim s)
  let key := if key = "INTEGER" then "INT" else if key = "BOOL" then "BOOLEAN" else key
  all.find? (·.name == key)

/-- The type that a text names; nothing else is one. -/
def ofOutline (o : Outline) : Except Error ColumnType :=
  match o.text? >>= ofName? with
  | some t => .ok t
  | .none => .error (.validity (.unknownColumnType o.shown))

end ColumnType

/-- A column, a variable or a parameter: its type and its constraints. `initial` is the default, a
value or a keyword; where it is missing there is none. -/
structure Column where
  type : ColumnType
  length : Option Nat := none
  scale : Option Nat := none
  values : List String := []
  modifier : Option ColumnAttribute := none
  nullable : Bool := true
  initial : Option Value := none
  primary : Bool := false
  unique : Bool := false
  counted : Bool := false
  comment : Option String := none
deriving DecidableEq, Repr

/-- The outline of a column. -/
def Column.outline (c : Column) : Outline :=
  .plain "ColumnStructure" [("type", c.type.outline), ("length", .optional .count c.length),
    ("scale", .optional .count c.scale), ("values", .texts c.values),
    ("attribute", .optional .word c.modifier), ("nullable", .bool c.nullable),
    ("default", .optional .value c.initial), ("primary", .bool c.primary),
    ("unique", .bool c.unique), ("auto_increment", .bool c.counted),
    ("comment", .optional .text c.comment)]

/-- The parts of a column as a caller gives them. A part that may be anything is given by its
outline. -/
structure ColumnDraft where
  type : ColumnType
  length : Outline := .null
  scale : Outline := .null
  values : List Outline := []
  modifier : Option ColumnAttribute := none
  nullable : Bool := true
  initial : Outline := .null
  primary : Bool := false
  unique : Bool := false
  counted : Bool := false
  comment : Option String := none

namespace ColumnDraft

/-- A length or a scale, if it is a count. -/
def readCount (type : ColumnType) (field : String) : Outline → Except Error (Option Nat)
  | .value .null => .ok none
  | .value (.int (.ofNat n)) => .ok (some n)
  | o => .error (.validity (.notACount type.name field o.shown))

/-- The listed values, if the type takes them and all of them are texts. -/
def readValues (type : ColumnType) (values : List Outline) : Except Error (List String) :=
  if type.params = .values then
    if values.isEmpty then .error (.validity (.needsValues type.name))
    else match values.mapM (·.text?) with
      | some texts => .ok texts
      | none => .error (.validity (.valuesNotTexts type.name))
  else if values.isEmpty then .ok []
  else .error (.validity (.takesNoValues type.name))

/-- A default, if it can be one: a plain value that its owner cannot change. -/
def readInitial : Outline → Except Error (Option Value)
  | .value .null => .ok none
  | .value (.buffer bs) => .error (.validity (.unsupportedDefault (Value.buffer bs).shown))
  | .value v => .ok (some v)
  | o => .error (.validity (.unsupportedDefault o.shown))

/-- Whether the type takes the length and the scale that are given. -/
def checkSize (type : ColumnType) (length scale : Option Nat) : Except Error Unit := do
  if type.params = .requiredLength ∧ length = none then
    throw (.validity (.needsLength type.name))
  if (type.params = .none ∨ type.params = .values) ∧ length ≠ none then
    throw (.validity (.takesNoLength type.name))
  if scale ≠ none then
    if type.params ≠ .precision then throw (.validity (.takesNoScale type.name))
    if length = none then throw (.validity .scaleNeedsLength)

/-- Whether the constraints allow the default. -/
def checkInitial (initial : Option Value) (nullable counted : Bool) : Except Error Unit := do
  if initial = some (.keyword .null) ∧ nullable = false then throw (.validity .nullDefault)
  if counted = true ∧ initial ≠ none then throw (.validity .countedDefault)

/-- The column, if its parts agree. -/
def column (d : ColumnDraft) : Except Error Column := do
  let length ← readCount d.type "length" d.length
  let scale ← readCount d.type "scale" d.scale
  checkSize d.type length scale
  let values ← readValues d.type d.values
  let initial ← readInitial d.initial
  checkInitial initial d.nullable d.counted
  pure ⟨d.type, length, scale, values, d.modifier, d.nullable, initial, d.primary, d.unique,
    d.counted, d.comment⟩

end ColumnDraft
end StoredSql
