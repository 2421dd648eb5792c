import StoredSql.Error
import StoredSql.Text.Case

/-!
# Identifiers and labels

Which names can stand in a statement as they are. A plain name has the usual form; `mustQuote` also
finds the reserved words. Labels have no quoted form, so a label must be plain and not reserved.
`checkLabel_eq_ok_iff` says which texts are labels. A `FunctionName` has no quoted form either.
-/

namespace StoredSql

namespace Identifier

/-- The words that cannot stand for a name. -/
def reservedWords : List String := [
  "ACCESSIBLE", "ADD", "ALL", "ALTER", "ANALYZE", "AND", "AS", "ASC", "ASENSITIVE", "BEFORE",
  "BETWEEN", "BIGINT", "BINARY", "BLOB", "BOTH", "BY", "CALL", "CASCADE", "CASE", "CHANGE", "CHAR",
  "CHARACTER", "CHECK", "COLLATE", "COLUMN", "CONDITION", "CONSTRAINT", "CONTINUE", "CONVERT",
  "CREATE", "CROSS", "CUBE", "CURRENT_DATE", "CURRENT_TIME", "CURRENT_TIMESTAMP", "CURRENT_USER",
  "CURSOR", "DATABASE", "DATABASES", "DAY_HOUR", "DAY_MICROSECOND", "DAY_MINUTE", "DAY_SECOND",
  "DEC", "DECIMAL", "DECLARE", "DEFAULT", "DELAYED", "DELETE", "DESC", "DESCRIBE", "DETERMINISTIC",
  "DISTINCT", "DISTINCTROW", "DIV", "DOUBLE", "DROP", "DUAL", "EACH", "ELSE", "ELSEIF", "ENCLOSED",
  "ESCAPED", "EXCEPT", "EXISTS", "EXIT", "EXPLAIN", "FALSE", "FETCH", "FLOAT", "FLOAT4", "FLOAT8",
  "FOR", "FORCE", "FOREIGN", "FROM", "FULLTEXT", "FUNCTION", "GENERATED", "GET", "GRANT", "GROUP",
  "GROUPING", "GROUPS", "HAVING", "HIGH_PRIORITY", "HOUR_MICROSECOND", "HOUR_MINUTE", "HOUR_SECOND",
  "IF", "IGNORE", "IN", "INDEX", "INFILE", "INNER", "INOUT", "INSENSITIVE", "INSERT", "INT", "INT1",
  "INT2", "INT3", "INT4", "INT8", "INTEGER", "INTERSECT", "INTERVAL", "INTO", "IS", "ITERATE",
  "JOIN", "KEY", "KEYS", "KILL", "LATERAL", "LEADING", "LEAVE", "LEFT", "LIKE", "LIMIT", "LINEAR",
  "LINES", "LOAD", "LOCALTIME", "LOCALTIMESTAMP", "LOCK", "LONG", "LONGBLOB", "LONGTEXT", "LOOP",
  "LOW_PRIORITY", "MATCH", "MAXVALUE", "MEDIUMBLOB", "MEDIUMINT", "MEDIUMTEXT", "MIDDLEINT",
  "MINUTE_MICROSECOND", "MINUTE_SECOND", "MOD", "MODIFIES", "NATURAL", "NOT", "NO_WRITE_TO_BINLOG",
  "NULL", "NUMERIC", "OF", "ON", "OPTIMIZE", "OPTION", "OPTIONALLY", "OR", "ORDER", "OUT", "OUTER",
  "OUTFILE", "OVER", "PARTITION", "PRECISION", "PRIMARY", "PROCEDURE", "PURGE", "RANGE", "READ",
  "READS", "READ_WRITE", "REAL", "RECURSIVE", "REFERENCES", "REGEXP", "RELEASE", "RENAME", "REPEAT",
  "REPLACE", "REQUIRE", "RESIGNAL", "RESTRICT", "RETURN", "REVOKE", "RIGHT", "RLIKE", "ROW", "ROWS",
  "SCHEMA", "SCHEMAS", "SECOND_MICROSECOND", "SELECT", "SENSITIVE", "SEPARATOR", "SET", "SHOW",
  "SIGNAL", "SMALLINT", "SPATIAL", "SPECIFIC", "SQL", "SQLEXCEPTION", "SQLSTATE", "SQLWARNING",
  "SQL_BIG_RESULT", "SQL_CALC_FOUND_ROWS", "SQL_SMALL_RESULT", "SSL", "STARTING", "STORED",
  "STRAIGHT_JOIN", "TABLE", "TERMINATED", "THEN", "TINYBLOB", "TINYINT", "TINYTEXT", "TO",
  "TRAILING", "TRIGGER", "TRUE", "UNDO", "UNION", "UNIQUE", "UNLOCK", "UNSIGNED", "UPDATE", "USAGE",
  "USE", "USING", "UTC_DATE", "UTC_TIME", "UTC_TIMESTAMP", "VALUES", "VARBINARY", "VARCHAR",
  "VARCHARACTER", "VARYING", "VIRTUAL", "WHEN", "WHERE", "WHILE", "WINDOW", "WITH", "WRITE", "XOR",
  "YEAR_MONTH", "ZEROFILL"
]

/-- The characters that a plain name starts with. -/
def isStart (c : Char) : Bool := c.isAlpha || c == '_' || c == '$'

/-- The characters that a plain name goes on with. -/
def isPart (c : Char) : Bool := isStart c || c.isDigit

/-- Whether all characters satisfy `p`. One line end after the last of them is overlooked. -/
def allUpToLineEnd (p : Char → Bool) : List Char → Bool
  | [] => true
  | ['\n'] => true
  | c :: cs => p c && allUpToLineEnd p cs

/-- Whether a text is a start character and parts of a name after it. -/
def isPlainChars : List Char → Bool
  | [] => false
  | c :: cs => isStart c && allUpToLineEnd isPart cs

/-- Whether a name is plain. -/
def isPlain (name : String) : Bool := isPlainChars name.toList

/-- Whether a name is a reserved word, in any case. -/
def isReserved (name : String) : Bool := reservedWords.contains (Text.upper name)

/-- Whether a name has to be quoted where it stands in a statement. -/
def mustQuote (name : String) : Bool := !isPlain name || isReserved name

/-- Whether a function can have the name: letters, digits and underscores, no digit in front. -/
def isFunctionName (name : String) : Bool :=
  match name.toList with
  | [] => false
  | c :: cs =>
    (c.isAlpha || c == '_') && allUpToLineEnd (fun d => d.isAlpha || d == '_' || d.isDigit) cs

/-- The name, if a construct can be labelled with it; `shown` is how messages show it. -/
def checkShownLabel (shown name : String) : Except Error String :=
  if !isPlain name then .error (.naming (.labelNotPlain shown))
  else if isReserved name then .error (.naming (.labelReserved shown))
  else .ok name

/-- The name, if a construct can be labelled with it. -/
def checkLabel (name : String) : Except Error String := checkShownLabel (Text.quoted name) name

theorem checkLabel_eq_ok_iff {name label : String} :
    checkLabel name = .ok label ↔ label = name ∧ isPlain name = true ∧ isReserved name = false := by
  unfold checkLabel checkShownLabel
  cases isPlain name <;> cases isReserved name <;> simp
  exact eq_comm

end Identifier

/-- A name that a function can have. -/
structure FunctionName where
  text : String
  valid : Identifier.isFunctionName text = true
deriving DecidableEq, Repr

/-- The name of a function, if a text can be one. -/
def FunctionName.ofText? (s : String) : Option FunctionName :=
  if h : Identifier.isFunctionName s = true then some ⟨s, h⟩ else none

end StoredSql
