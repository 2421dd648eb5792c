import StoredSql.QueryText
import StoredSql.Table

/-!
# The text of tables

Column types, columns and tables as a complete dialect writes them.
-/

namespace StoredSql.Dialect

/-- A column type with its parameters. -/
def columnType (c : Column) : String :=
  c.type.name
    ++ (if c.type.params = .values then
        Shape.parenthesized (Text.joinWith "," (c.values.map quotedText))
      else match c.length, c.scale with
        | some n, some s => Shape.parenthesized (countText n ++ "," ++ countText s)
        | some n, none => Shape.parenthesized (countText n)
        | none, _ => "")
    ++ (match c.modifier with
      | none => ""
      | some .onUpdateCurrentTimestamp => ""
      | some m => " " ++ Keyword.word m)

/-- A default: a keyword or a literal. -/
def defaultText : Value → Except Error String
  | .keyword k => .ok k.text
  | v => literal v

/-- A part that is written only if it is asked for. -/
def partIf (asked : Bool) (part : String) : List String := if asked then [part] else []

/-- A column of a table. -/
def columnDefinition (d : Dialect) (name : String) (c : Column) : Except Error String := do
  let name ← d.identifier name
  let initial ← match c.initial with
    | none => pure []
    | some v => do pure ["DEFAULT " ++ (← defaultText v)]
  let null := if c.nullable then "NULL" else "NOT NULL"
  pure (Text.joinWith " " ([name, columnType c, null] ++ initial
    ++ partIf (c.modifier = some .onUpdateCurrentTimestamp) "ON UPDATE CURRENT_TIMESTAMP"
    ++ partIf c.counted "AUTO_INCREMENT" ++ partIf c.unique "UNIQUE"
    ++ partIf c.primary "PRIMARY KEY"
    ++ (match c.comment with
      | none => []
      | some s => ["COMMENT " ++ quotedText s])))

/-- A parameter of a procedure. -/
def parameterText (d : Dialect) (mode : ParameterMode) (name : String) (c : Column) :
    Except Error String := do
  pure (Keyword.word mode ++ " " ++ (← d.identifier name) ++ " " ++ columnType c)

/-- An index. -/
def indexText (d : Dialect) (i : TableIndex) : Except Error String := do
  let word := if i.kind = .index then "INDEX" else Keyword.word i.kind ++ " INDEX"
  let name ← match Text.nonEmpty i.name with
    | some n => do pure (" " ++ (← d.identifier n))
    | none => pure ""
  pure (word ++ name ++ " " ++ Shape.parenthesized (← d.columnList i.columns))

/-- A foreign key. -/
def foreignKeyText (d : Dialect) (k : ForeignKey) : Except Error String := do
  let name ← match Text.nonEmpty k.name with
    | some n => do pure ("CONSTRAINT " ++ (← d.identifier n) ++ " ")
    | none => pure ""
  let columns ← d.columnList k.columns
  let table ← d.qualifiedName k.table
  let references ← d.columnList k.references
  pure (name ++ "FOREIGN KEY " ++ Shape.parenthesized columns ++ " REFERENCES " ++ table ++ " "
    ++ Shape.parenthesized references ++ " ON DELETE " ++ Keyword.word k.onDelete ++ " ON UPDATE "
    ++ Keyword.word k.onUpdate)

/-- Spaces. -/
def spaces (n : Nat) : String := String.ofList (List.replicate n ' ')

/-- The entries of a table: columns, primary key, indexes and foreign keys. -/
def tableEntries (d : Dialect) (t : TableStructure) : Except Error (List String) := do
  let columns ← t.columns.mapM fun c => d.columnDefinition c.1 c.2
  let key ← if t.primaryKey.isEmpty then pure []
    else do pure ["PRIMARY KEY " ++ Shape.parenthesized (← d.columnList t.primaryKey)]
  let indexes ← t.indexes.mapM d.indexText
  let foreignKeys ← t.foreignKeys.mapM d.foreignKeyText
  pure (columns ++ key ++ indexes ++ foreignKeys)

/-- A table. -/
def createTable (d : Dialect) (t : TableStructure) (ifNotExists : Bool) (terminator : String) :
    Except Error String := do
  let entries ← d.tableEntries t
  let name ← d.tableName t.schema t.name
  let comment := match t.comment with
    | none => ""
    | some s => " COMMENT = " ++ quotedText s
  pure ((if ifNotExists then "CREATE TABLE IF NOT EXISTS " else "CREATE TABLE ") ++ name ++ " (\n"
    ++ Text.joinWith ",\n" (entries.map (spaces d.indent ++ ·)) ++ "\n)" ++ comment ++ terminator)

end StoredSql.Dialect
