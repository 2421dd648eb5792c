import StoredSql.Statement

/-!
# Stored programs

Procedures and triggers: a block with what it is called by.
-/

namespace StoredSql

/-- A parameter of a procedure. -/
structure Parameter where
  name : String
  type : Column
  mode : ParameterMode := .in
deriving DecidableEq, Repr

namespace Parameter

/-- A parameter, if its mode is known. -/
def make (name : String) (type : Column) (mode : Outline) : Except Error Parameter := do
  pure ⟨name, type, ← mode.toMember⟩

/-- The outline of a parameter. -/
def outline (p : Parameter) : Outline :=
  .plain "ProcedureParameter" [("name", .text p.name), ("column_type", p.type.outline),
    ("mode", .word p.mode)]

end Parameter

/-- A stored procedure. -/
structure Procedure where
  name : String
  body : Block
  parameters : List Parameter := []
  comment : Option String := none
  deterministic : Bool := false

namespace Procedure

/-- The first name among texts that an earlier one already is. -/
def firstRepeated : List String → List String → Option String
  | _, [] => none
  | seen, name :: names =>
    if seen.any (Text.sameName name) then some name else firstRepeated (name :: seen) names

/-- The procedure, if no two of its parameters have one name. -/
def check (p : Procedure) : Except Error Procedure :=
  match firstRepeated [] (p.parameters.map (·.name)) with
  | some name => .error (.validity (.parameterTwice name))
  | none => .ok p

/-- The outline of a procedure. -/
def outline (p : Procedure) : Outline :=
  .plain "Procedure" [("name", .text p.name), ("body", p.body.outline),
    ("parameters", .tuple (p.parameters.map (·.outline))),
    ("comment", .optional .text p.comment), ("deterministic", .bool p.deterministic)]

end Procedure

/-- A trigger: a block that runs for each row that an event changes. -/
structure Trigger where
  name : String
  table : TableRef
  timing : TriggerTiming
  event : TriggerEvent
  body : Block

namespace Trigger

/-- A trigger, if its timing and its event are known. -/
def make (name : String) (table : TableRef) (timing event : Outline) (body : Block) :
    Except Error Trigger := do
  let timing ← timing.toMember
  let event ← event.toMember
  pure ⟨name, table, timing, event, body⟩

/-- The outline of a trigger. -/
def outline (t : Trigger) : Outline :=
  .plain "Trigger" [("name", .text t.name), ("table", t.table.outline), ("timing", .word t.timing),
    ("event", .word t.event), ("body", t.body.outline)]

end Trigger

/-- A program: a block, alone or called by a name. -/
inductive Program where
  | block (b : Block)
  | procedure (p : Procedure)
  | trigger (t : Trigger)

end StoredSql
