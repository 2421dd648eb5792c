import StoredSql.Identifier
import StoredSql.Value

/-!
# Dialects

A dialect writes identifiers and literals. A complete dialect also writes everything that is made of
them; another one only sketches conditions, with marks in the place of expressions and queries.
-/

namespace StoredSql

/-- What a kind of dialect can do. `title` is how messages name it. -/
structure DialectKind where
  name : String
  title : String
  fullJoin : Bool := false
  switchesDelimiter : Bool := true
  complete : Bool := true
deriving DecidableEq, Repr

namespace DialectKind

/-- The language of MySQL. -/
def mysql : DialectKind := { name := "mysql", title := "MySqlDialect" }

/-- The language of MySQL with full joins. -/
def withFullJoin : DialectKind :=
  { name := "FullJoin", title := "FullJoinDialect", fullJoin := true }

/-- The language of MySQL under a name of its own. -/
def compact : DialectKind := { name := "mysql_compact", title := "CompactMySqlDialect" }

/-- A dialect that only sketches. -/
def bare : DialectKind :=
  { name := "base", title := "BareDialect", switchesDelimiter := false, complete := false }

end DialectKind

/-- A dialect with its settings: spaces for each level, and the delimiter of programs. -/
structure Dialect where
  kind : DialectKind := .mysql
  indent : Nat := 2
  delimiter : String := "$$"
deriving DecidableEq, Repr

namespace Dialect

/-- A dialect with settings; an indent is not negative. -/
def make (kind : DialectKind) (indent : Int) (delimiter : String) : Except Error Dialect :=
  match indent with
  | .ofNat n => .ok ⟨kind, n, delimiter⟩
  | n => .error (.negativeIndent n)

/-! ## Identifiers -/

/-- The character that quotes identifiers. -/
def backtick : Char := '\x60'

/-- A text with each backtick twice. -/
def doubleBackticks (cs : List Char) : List Char :=
  cs.flatMap fun c => if c = backtick then [c, c] else [c]

/-- An identifier in backticks. There is none for an empty name, and none for a name with a NUL, a
space at its end or a character outside the Basic Multilingual Plane. -/
def backquoted (name : String) : Except Error String :=
  let cs := name.toList
  if cs.isEmpty then .error (.naming .empty)
  else if cs.any (·.toNat == 0) then .error (.naming (.holdsNul name))
  else if cs.getLast? = some ' ' then .error (.naming (.endsWithSpace name))
  else if cs.any (·.toNat > 0xFFFF) then .error (.naming (.beyondBasicPlane name))
  else .ok (String.ofList (backtick :: doubleBackticks cs ++ [backtick]))

/-- An identifier in quotes. -/
def quoteIdentifier (d : Dialect) (name : String) : Except Error String :=
  if d.kind.complete then backquoted name else .ok ("[" ++ name ++ "]")

/-- An identifier, in quotes if it needs them. -/
def identifier (d : Dialect) (name : String) : Except Error String :=
  if Identifier.mustQuote name then d.quoteIdentifier name else .ok name

/-- A dotted name, part by part. -/
def qualifiedName (d : Dialect) (name : String) : Except Error String := do
  pure (Text.joinWith "." (← (Text.splitAll '.' name).mapM d.identifier))

/-- A table in its schema, if it has one. -/
def tableName (d : Dialect) (schema : Option String) (name : String) : Except Error String := do
  let name ← d.identifier name
  match Text.nonEmpty schema with
  | some s => pure ((← d.identifier s) ++ "." ++ name)
  | none => pure name

/-- A table with its alias, if it has one. -/
def tableAlias (d : Dialect) (schema : Option String) (name : String) (asName : Option String) :
    Except Error String := do
  let table ← d.tableName schema name
  match Text.nonEmpty asName with
  | some a => pure (table ++ " AS " ++ (← d.identifier a))
  | none => pure table

/-- Columns with commas between them; no columns stand for all of them. -/
def columnList (d : Dialect) (columns : List String) : Except Error String := do
  if columns.isEmpty then pure "*"
  else pure (Text.joinWith ", " (← columns.mapM d.identifier))

/-- A text with underscores in the place of its dots. -/
def withoutDots (cs : List Char) : List Char := cs.map fun c => if c = '.' then '_' else c

/-- A variable: one of the session, a column of a row, or a local one. -/
def variableName (d : Dialect) (name : String) : Except Error String :=
  match name.toList with
  | '@' :: rest =>
    if Identifier.isPlainChars (withoutDots rest) then .ok name
    else (d.quoteIdentifier (String.ofList rest)).map ("@" ++ ·)
  | cs => if cs.contains '.' then d.qualifiedName name else d.identifier name

/-! ## Literals -/

/-- One character of a text in quotes. -/
def escapeChar (c : Char) : List Char :=
  if c = '\\' then ['\\', '\\']
  else if c = '\'' then ['\'', '\'']
  else if c.toNat = 0 then ['\\', '0']
  else if c.toNat = 26 then ['\\', 'Z']
  else [c]

/-- A text as it stands between quotes: backslashes and quotes twice, and two characters escaped. -/
def escape (s : String) : String := String.ofList (s.toList.flatMap escapeChar)

/-- A text in quotes. -/
def quotedText (s : String) : String := "'" ++ escape s ++ "'"

theorem quotedText_eq (s : String) :
    quotedText s = String.ofList ('\'' :: (s.toList.flatMap escapeChar ++ ['\''])) := by
  simp only [quotedText, escape, String.ofList_cons, String.ofList_append]
  rfl

/-- Characters in quotes after a word. -/
def tagged (word : String) (cs : List Char) : String := word ++ "'" ++ String.ofList cs ++ "'"

theorem tagged_eq (word : String) (cs : List Char) :
    tagged word cs = word ++ String.ofList ('\'' :: (cs ++ ['\''])) := by
  simp only [tagged, String.ofList_cons, String.ofList_append, String.append_assoc]
  rfl

/-- The bytes in hexadecimal digits. -/
def byteDigits (bs : List UInt8) : List Char := bs.flatMap fun b => Text.hexDigits true 2 b.toNat

/-- The literal of a value. A point in time is written in universal time. -/
def literal : Value → Except Error String
  | .null => .ok "NULL"
  | .bool b => .ok (if b then "TRUE" else "FALSE")
  | .int n => .ok (Number.intText n)
  | .float x => if x.isFinite then .ok x.text else .error (.literal (.nonFiniteFloat x.text))
  | .decimal (.finite negative coefficient exponent) =>
    .ok (Number.Decimal.signed negative (Number.Decimal.positionalDigits coefficient exponent))
  | .decimal d => .error (.literal (.nonFiniteDecimal (Value.decimal d).shown))
  | .text s => .ok (quotedText s)
  | .keyword k => .ok (quotedText k.text)
  | .bytes bs => .ok (tagged "X" (byteDigits bs))
  | .buffer bs => .ok (tagged "X" (byteDigits bs))
  | .datetime t =>
    match t.toUniversal? with
    | some u => .ok (tagged "TIMESTAMP " u.chars)
    | none => .error .dateOutOfRange
  | .date d => .ok (tagged "DATE " d.chars)
  | .time t => .ok (tagged "TIME " t.clock.chars)
  | .uuid u => .ok (tagged "" u.chars)

end Dialect
end StoredSql
