import StoredSql.Rendering

/-!
# Dialects by name

A registry holds kinds of dialects under names in lower case. `Diagnostics.of` samples what a
dialect does.
-/

namespace StoredSql

/-- A sample of what a dialect can do and of how it writes. -/
structure Diagnostics where
  name : String
  title : String
  fullJoin : Bool
  switchesDelimiter : Bool
  delimiter : String
  indent : Nat
  literalTrue : String
  literalFalse : String
  literalNull : String
  literalDate : String
  literalText : String
  identifier : String
  block : String
deriving DecidableEq, Repr

namespace Diagnostics

/-- The date that is sampled. -/
def sampleDate : Calendar.Date := ⟨2025, 1, 2, by decide⟩

/-- The block that is sampled: a loop that is left at once. -/
def sampleBlock : Block := ⟨[.loop (some "diag") [.leave "diag"]], none, none⟩

/-- The sample of a dialect. -/
def of (d : Dialect) : Except Error Diagnostics := do
  pure {
    name := d.kind.name
    title := d.kind.title
    fullJoin := d.kind.fullJoin
    switchesDelimiter := d.kind.switchesDelimiter
    delimiter := d.delimiter
    indent := d.indent
    literalTrue := ← d.renderLiteral (.bool true)
    literalFalse := ← d.renderLiteral (.bool false)
    literalNull := ← d.renderLiteral .null
    literalDate := ← d.renderLiteral (.date sampleDate)
    literalText := ← d.renderLiteral (.text "it's")
    identifier := ← d.identifier "select"
    block := ← d.renderBlock sampleBlock ";"
  }

end Diagnostics

/-- Kinds of dialects by their names. -/
structure Registry where
  entries : List (String × DialectKind)
deriving DecidableEq, Repr

namespace Registry

/-- The registry that knows one dialect. -/
def initial : Registry := ⟨[("mysql", .mysql)]⟩

/-- The registry with one more dialect, under a name or under its own. -/
def register (r : Registry) (kind : DialectKind) (name : Option String) : Registry :=
  ⟨Ordered.put r.entries (Text.lower ((Text.nonEmpty name).getD kind.name)) kind⟩

/-- The names in order. -/
def names (r : Registry) : List String :=
  (r.entries.map (·.1)).mergeSort fun a b => decide (a ≤ b)

/-- The kind of a name in any case. -/
def kind (r : Registry) (name : String) : Except Error DialectKind :=
  match r.entries.lookup (Text.lower name) with
  | some k => .ok k
  | none => .error (.unknownDialect name r.names)

/-- A dialect of a name, with its usual settings where none are given. -/
def get (r : Registry) (name : String) (indent : Option Int) (delimiter : Option String) :
    Except Error Dialect := do
  let kind ← r.kind name
  Dialect.make kind (indent.getD 2) (delimiter.getD "$$")

/-- The samples of all dialects in the order of their names. -/
def snapshot (r : Registry) : Except Error (List (String × Diagnostics)) :=
  r.names.mapM fun name => do
    let d ← r.get name none none
    pure (name, ← Diagnostics.of d)

end Registry
end StoredSql
