import StoredSql.Column

/-!
# Table definitions

A table has named columns in order, a primary key, indexes and foreign keys. `TableStructure.make`
gives the table if its parts agree: no two columns have one name, and keys and indexes name columns
of the table. `TableStructure.column` finds a column by its name in any case.
-/

namespace StoredSql

/-- An index on columns of a table. -/
structure TableIndex where
  columns : List String
  kind : IndexKind := .index
  name : Option String := none
deriving DecidableEq, Repr

namespace TableIndex

/-- An index, if it has columns and its kind is known. -/
def make (columns : List String) (kind : Outline) (name : Option String) :
    Except Error TableIndex := do
  if columns.isEmpty then throw (.validity .indexNeedsColumn)
  pure ⟨columns, ← kind.toMember, name⟩

/-- The outline of an index. -/
def outline (i : TableIndex) : Outline :=
  .plain "TableIndex" [("columns", .texts i.columns), ("kind", .word i.kind),
    ("name", .optional .text i.name)]

end TableIndex

/-- A reference from columns of a table to columns of another one. -/
structure ForeignKey where
  columns : List String
  table : String
  references : List String
  onDelete : ForeignKeyAction := .noAction
  onUpdate : ForeignKeyAction := .noAction
  name : Option String := none
deriving DecidableEq, Repr

namespace ForeignKey

/-- A reference, if it maps some columns onto as many others and its actions are known. -/
def make (columns : List String) (table : String) (references : List String)
    (onDelete onUpdate : Outline) (name : Option String) : Except Error ForeignKey := do
  if columns.isEmpty ∨ columns.length ≠ references.length then
    throw (.validity (.foreignKeyWidth columns.length references.length))
  let onDelete ← onDelete.toMember
  let onUpdate ← onUpdate.toMember
  pure ⟨columns, table, references, onDelete, onUpdate, name⟩

/-- The outline of a reference. -/
def outline (k : ForeignKey) : Outline :=
  .plain "ForeignKey" [("columns", .texts k.columns), ("reference_table", .text k.table),
    ("reference_columns", .texts k.references), ("on_delete", .word k.onDelete),
    ("on_update", .word k.onUpdate), ("name", .optional .text k.name)]

end ForeignKey

/-- The definition of a table. -/
structure TableStructure where
  name : String
  columns : List (String × Column)
  schema : Option String := none
  primaryKey : List String := []
  indexes : List TableIndex := []
  foreignKeys : List ForeignKey := []
  comment : Option String := none
deriving DecidableEq, Repr

namespace TableStructure

/-- Whether one of the columns has the name, in any case. -/
def hasColumn (columns : List (String × Column)) (name : String) : Bool :=
  columns.any fun c => Text.sameName c.1 name

/-- The columns, if each is one and no two of them have one name. `done` holds the columns before
these; what is no column is given by the name of its kind. -/
def readColumns (done : List (String × Column)) :
    List (String × Except String Column) → Except Error (List (String × Column))
  | [] => .ok done
  | (name, .error kind) :: _ => .error (.validity (.notAColumnStructure name kind))
  | (name, .ok column) :: rest =>
    if hasColumn done name then .error (.declaredTwice .column name)
    else readColumns (done ++ [(name, column)]) rest

/-- A part of the table may only name columns of the table. -/
def checkKnown (columns : List (String × Column)) (part : String) (names : List String) :
    Except Error Unit :=
  match names.find? fun name => !hasColumn columns name with
  | some name => .error (.validity (.unknownColumn part name))
  | none => .ok ()

/-- A primary key is declared on one column, or on the table. -/
def checkPrimary (columns : List (String × Column)) (primaryKey : List String) :
    Except Error Unit := do
  let marked := columns.filter (·.2.primary)
  if !primaryKey.isEmpty ∧ !marked.isEmpty then throw (.validity .twoPrimaryKeys)
  if marked.length > 1 then throw (.validity .severalPrimaryColumns)

/-- The table, if its parts agree. -/
def make (name : String) (columns : List (String × Except String Column)) (schema : Option String)
    (primaryKey : List String) (indexes : List TableIndex) (foreignKeys : List ForeignKey)
    (comment : Option String) : Except Error TableStructure := do
  if columns.isEmpty then throw (.validity (.tableNeedsColumn name))
  let columns ← readColumns [] columns
  checkPrimary columns primaryKey
  checkKnown columns "PRIMARY KEY" primaryKey
  indexes.forM fun i => checkKnown columns "Index" i.columns
  foreignKeys.forM fun k => checkKnown columns "Foreign key" k.columns
  pure ⟨name, columns, schema, primaryKey, indexes, foreignKeys, comment⟩

/-- The column of a name, in any case. -/
def column (t : TableStructure) (name : String) : Except Error Column :=
  match t.columns.find? fun c => Text.sameName c.1 name with
  | some c => .ok c.2
  | none => .error (.noSuchColumn name)

/-- The outline of a table. -/
def outline (t : TableStructure) : Outline :=
  .plain "TableStructure" [("name", .text t.name),
    ("columns", .tuple (t.columns.map fun c => .tuple [.text c.1, c.2.outline])),
    ("schema", .optional .text t.schema), ("primary_key", .texts t.primaryKey),
    ("indexes", .tuple (t.indexes.map (·.outline))),
    ("foreign_keys", .tuple (t.foreignKeys.map (·.outline))),
    ("comment", .optional .text t.comment)]

end TableStructure
end StoredSql
