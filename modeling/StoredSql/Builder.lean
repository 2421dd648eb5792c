import StoredSql.Program
import StoredSql.Validation

/-!
# Programs call by call

A program is put together in calls that open constructs, add statements to the innermost open one
and close it again. Each statement is checked when it comes, against the scopes of the constructs
that are open. A call that fails says why; what it has done before it failed stays done.
-/

namespace StoredSql

/-! ## Open constructs -/

/-- What the branches of an open conditional have in common: the states of cursors before them, the
states after each of those that are closed, and what is done if none is taken. -/
structure Arms where
  before : List CursorState
  outcomes : List (List CursorState) := []
  inElse : Bool := false
  otherwise : Option (List Statement) := none

/-- An open conditional. `test` belongs to the open branch. -/
structure OpenIf where
  arms : Arms
  branches : List IfBranch := []
  test : Operand

/-- An open case. `test` belongs to the open arm; there is no scope before the first arm is
`entered`. -/
structure OpenCase where
  arms : Arms
  operand : Operand
  whens : List CaseWhen := []
  test : Option Operand := none
  entered : Bool := false

namespace Arms

/-- The arms after one more of them. -/
def close (a : Arms) (outcome : List CursorState) : Arms :=
  { a with outcomes := a.outcomes ++ [outcome] }

/-- The arms after what is done if none is taken. -/
def closeElse (a : Arms) (body : List Statement) (outcome : List CursorState) : Arms :=
  { a.close outcome with otherwise := some body }

/-- The states after each way through the arms; where there is nothing to be done if none is taken,
the states may also stay. -/
def allOutcomes (a : Arms) : List (List CursorState) :=
  if a.inElse then a.outcomes else a.outcomes ++ [a.before]

end Arms

/-- The conditional with its open branch closed. -/
def OpenIf.close (part : OpenIf) (body : List Statement) (outcome : List CursorState) :
    Except Error OpenIf :=
  if part.arms.inElse then .ok { part with arms := part.arms.closeElse body outcome }
  else do
    let branch ← IfBranch.make part.test body
    pure { part with branches := part.branches ++ [branch], arms := part.arms.close outcome }

namespace OpenCase

/-- Whether there is an open arm. -/
def isOpen (part : OpenCase) : Bool := part.arms.inElse || part.test.isSome

/-- The case with its open arm closed, if there is one. -/
def close (part : OpenCase) (body : List Statement) (outcome : List CursorState) :
    Except Error OpenCase :=
  if part.arms.inElse then .ok { part with arms := part.arms.closeElse body outcome }
  else match part.test with
    | some test => do
      let arm ← CaseWhen.make test body
      pure { part with whens := part.whens ++ [arm], arms := part.arms.close outcome }
    | none => .ok part

end OpenCase

/-- The kinds of constructs. -/
inductive ConstructKind where
  | block | handler | ifElse | cases | loop | whileLoop | repeatLoop
deriving DecidableEq, Repr

/-- The word for a kind. -/
def ConstructKind.word : ConstructKind → String
  | .block => "BLOCK" | .handler => "HANDLER" | .ifElse => "IF" | .cases => "CASE"
  | .loop => "LOOP" | .whileLoop => "WHILE" | .repeatLoop => "REPEAT"

/-- An open construct, with all that its statements do not tell. -/
inductive Construct where
  | block (label : Option String) (view : ScopeView)
  | handler (action : HandlerAction) (conditions : List ConditionValue) (before : List CursorState)
  | ifElse (part : OpenIf)
  | cases (part : OpenCase)
  | loop (label : String)
  | whileLoop (label : String) (test : Operand)
  | repeatLoop (label : String)

namespace Construct

open Check

/-- The kind of a construct. -/
def kind : Construct → ConstructKind
  | block .. => .block
  | handler .. => .handler
  | ifElse _ => .ifElse
  | cases _ => .cases
  | loop _ => .loop
  | whileLoop .. => .whileLoop
  | repeatLoop _ => .repeatLoop

/-- The label of a construct. -/
def label? : Construct → Option String
  | block label _ => Text.nonEmpty label
  | loop label => some label
  | whileLoop label _ => some label
  | repeatLoop label => some label
  | _ => none

/-- What messages call a construct. -/
def describe (c : Construct) : String :=
  match c.label? with
  | some label => c.kind.word ++ " '" ++ label ++ "'"
  | none => c.kind.word

/-- How many scopes a construct has: a handler one for its body besides its own, a case none before
its first arm. -/
def scopeCount : Construct → Nat
  | handler .. => 2
  | cases part => if part.entered then 1 else 0
  | _ => 1

/-- Whether a construct has a scope that statements can come to. -/
def takesStatements : Construct → Bool
  | cases part => part.entered
  | _ => true

/-! ### Into a construct

The checks that open a construct: they go into its scopes and give the construct. -/

/-- Into a handler and the block that it does, where no state of a cursor is known. -/
def ofHandler (action : HandlerAction) (conditions : List ConditionValue) : Check Construct := do
  declare (·.declareHandler)
  resolveConditions conditions
  let before ← states
  enter (← child .handler none)
  change fun n => .ok n.withUnknownStates
  enter (← child .block none)
  pure (.handler action conditions before)

/-- Into a block. -/
def ofBlock (label : Operand) : Check Construct := do
  noteStatement
  let label ← made (label.ifAny.mapM (·.toLabel))
  enter (← child .block label)
  pure (.block label (← view))

/-- Into the first branch of a conditional. -/
def ofIf (test : Operand) : Check Construct := do
  noteStatement
  resolveAll test.variableNames
  let before ← states
  enterBranch before
  pure (.ifElse { arms := { before }, test })

/-- To the arms of a case. -/
def ofCase (operand : Operand) : Check Construct := do
  noteStatement
  resolveAll operand.variableNames
  let before ← states
  pure (.cases { arms := { before }, operand })

/-- Into a loop, under a generated label if it has none. -/
def ofLoop (label : Operand) (construct : String → Construct) : Check Construct := do
  noteStatement
  let given := if label.outline.isFalsy then none else some label
  let label ← labelOr (← made (given.mapM (·.toLabel)))
  enter (← child .loop (some label))
  pure (construct label)

/-! ### Out of a construct -/

/-- The statement that a construct is, once its scopes are left. `seen` is what was visible at its
end. -/
def finish (seen : ScopeView) (body : List Statement) : Construct → Check Statement
  | block label view => pure (.block ⟨body, label, some view⟩)
  | handler action conditions before => do
    setStates before
    pure (.declareHandler action conditions (.block ⟨body, none, some seen⟩))
  | ifElse part => do
    let part ← made (part.close body (← states))
    mergeStates part.arms.before part.arms.allOutcomes
    made (Statement.makeIf part.branches part.arms.otherwise)
  | cases part => do
    let part ← made (part.close body (← states))
    mergeStates part.arms.before part.arms.allOutcomes
    made (Statement.makeCase part.operand part.whens part.arms.otherwise)
  | loop label => made (Statement.makeLoop (some label) body)
  | whileLoop label test => made (Statement.makeWhile (some label) test body)
  | repeatLoop _ => throw (.structural .repeatNeedsUntil)

end Construct

/-- An open construct with its statements so far. No two frames of a builder have one serial
number. -/
structure Frame where
  serial : Nat
  construct : Construct
  statements : List Statement := []

/-- What is remembered of a frame to find it again. -/
structure FrameMark where
  serial : Nat
  description : String
deriving DecidableEq, Repr

/-- The mark of a frame. -/
def Frame.mark (f : Frame) : FrameMark := ⟨f.serial, f.construct.describe⟩

/-! ## Programs -/

/-- What a program is called by. -/
inductive ProgramHead where
  | block
  | procedure (name : String) (parameters : List Parameter) (comment : Option String)
      (deterministic : Bool)
  | trigger (name : String) (table : TableRef) (timing : TriggerTiming) (event : TriggerEvent)

namespace ProgramHead

/-- The head of a trigger, if its event and its timing are known. -/
def ofTrigger (name : String) (table : TableRef) (timing event : Outline) :
    Except Error ProgramHead := do
  let event ← event.toMember
  let timing ← timing.toMember
  pure (.trigger name table timing event)

/-- The rows that a trigger sees: the new one if there is one, the old one if there is one. Only
before the event may the new one be written. -/
def rowAccess (timing : TriggerTiming) (event : TriggerEvent) : RowAccess where
  readable := match event with
    | .insert => ["NEW"]
    | .update => ["NEW", "OLD"]
    | .delete => ["OLD"]
  writable := if timing = .before ∧ event ≠ .delete then ["NEW"] else []

/-- The scope around the block of a program. -/
def scope : ProgramHead → Except Error Scope
  | block => .ok { kind := .program }
  | procedure _ parameters _ _ =>
    parameters.foldlM (fun s p => s.declareParameter p.name) { kind := .program }
  | trigger _ _ timing event => .ok { kind := .program, rows := rowAccess timing event }

/-- The program with its body. -/
def program (b : Block) : ProgramHead → Program
  | block => .block b
  | procedure name parameters comment deterministic =>
    .procedure ⟨name, b, parameters, comment, deterministic⟩
  | trigger name table timing event => .trigger ⟨name, table, timing, event, b⟩

end ProgramHead

/-! ## Builders -/

/-- A program in the making. `opened` marks the construct that the last call has opened, `withs`
those that are to be closed at the end of a bracket. -/
structure Builder where
  head : ProgramHead
  checker : Checker
  inner : Frame
  outer : List Frame := []
  serials : Nat := 1
  opened : Option FrameMark := none
  withs : List (Option FrameMark) := []
  consumed : Bool := false

namespace Builder

/-- The stem of generated labels if no other one is given. -/
def usualStem : String := "loop"

/-- A builder for a program with an open block that has a label or none. -/
def start (head : ProgramHead) (label : Operand) (stem : String) : Except Error Builder := do
  let around : Nesting := ⟨← head.scope, []⟩
  let label ← label.ifAny.mapM (·.toLabel)
  let nesting := around.within (← around.child .block label)
  pure { head, checker := ⟨nesting, ⟨stem, 0⟩⟩, inner := ⟨0, .block label nesting.view, []⟩ }

/-- The open frames, innermost first. -/
def frames (b : Builder) : List Frame := b.inner :: b.outer

/-- What the open frames are called, outermost first. -/
def stack (b : Builder) : List String := (b.frames.map (·.construct.describe)).reverse

/-- Whether statements can come to the innermost frame. -/
def takesStatements (b : Builder) : Bool := b.inner.construct.takesStatements

/-- The label of the innermost open construct that has one. -/
def currentLabel (b : Builder) : Option String :=
  if b.takesStatements then b.checker.nesting.openLabels.head? else none

/-- What a call does: it may fail, and either way it leaves a builder. -/
abbrev Action := ExceptT Error (StateM Builder)

/-- A check against the scopes of the builder. -/
def checking {α : Type} (act : Check α) : Action α := fun b =>
  let (r, c) := act b.checker
  (r, { b with checker := c })

/-- What cannot be made fails. -/
def made {α : Type} (r : Except Error α) : Action α := fun b => (r, b)

/-- A builder is used up by the program that it gives. -/
def live : Action Unit := do
  if (← get).consumed then throw (.structural .consumed)

/-- The innermost frame must take statements. -/
def needScope : Action Unit := do
  let b ← get
  if !b.takesStatements then throw (.structural (.whenExpected b.inner.construct.describe))

/-- Gives the innermost frame one more statement. -/
def append (s : Statement) : Action Unit :=
  modify fun b => { b with inner := { b.inner with statements := b.inner.statements ++ [s] } }

/-- Checks a statement and adds it. -/
def add (s : Statement) : Action Unit := do
  live
  modify fun b => { b with opened := none }
  needScope
  append (← checking s.check)

/-- Makes a statement and adds it. -/
def addMade (r : Except Error Statement) : Action Unit := do
  add (← made r)

/-- Puts a construct on top of those that are open. -/
def push (c : Construct) : Action Unit := modify fun b =>
  let f : Frame := ⟨b.serials, c, []⟩
  { b with
    inner := f, outer := b.inner :: b.outer, serials := b.serials + 1, opened := some f.mark }

/-- Opens a construct, whose scopes the check goes into. -/
def opens (construct : Check Construct) : Action Unit := do
  live
  needScope
  push (← checking construct)

/-- Takes the innermost frame away, with its scopes, if it is of the kind. -/
def pop (kind : ConstructKind) : Action Frame := do
  live
  let b ← get
  match b.outer with
  | [] => throw (.structural .nothingOpen)
  | f :: fs =>
    if b.inner.construct.kind ≠ kind then
      throw (.structural (.wrongEnd kind.word b.inner.construct.describe))
    set { b with
      inner := f, outer := fs, checker := b.checker.leaveScopes b.inner.construct.scopeCount }
    pure b.inner

/-- Closes the innermost construct, if it is of the kind: it is a statement of the one around it. -/
def closes (kind : ConstructKind) : Action Unit := do
  let view := (← get).checker.nesting.view
  let f ← pop kind
  append (← checking (f.construct.finish view f.statements))

/-- Starts a branch of the innermost construct, with no statements yet, from the states before the
construct. -/
def startBranch (c : Construct) (before : List CursorState) : Action Unit := do
  modify fun b => { b with inner := { b.inner with construct := c, statements := [] } }
  checking (Check.enterBranch before)

/-- The innermost frame with another construct. -/
def setConstruct (c : Construct) : Action Unit :=
  modify fun b => { b with inner := { b.inner with construct := c } }

/-! ### Handlers and blocks -/

/-- Opens a handler. -/
def openHandler (action : Outline) (conditions : List ConditionValue) : Action Unit := do
  live
  match ← made (Statement.makeDeclareHandler action conditions (.block ⟨[], none, none⟩)) with
  | .declareHandler action conditions _ => opens (Construct.ofHandler action conditions)
  | _ => pure ()

/-- Closes a handler. What its body does to the states of cursors is undone. -/
def endHandler : Action Unit := closes .handler

/-- Opens a block. -/
def openBlock (label : Operand) : Action Unit := opens (Construct.ofBlock label)

/-- Closes a block. -/
def endBlock : Action Unit := closes .block

/-! ### Conditionals -/

/-- Opens a conditional with its first branch. -/
def openIf (test : Operand) : Action Unit := opens (Construct.ofIf test)

/-- Opens one more branch of a conditional. -/
def elseIf (test : Operand) : Action Unit := do
  live
  let b ← get
  match b.inner.construct with
  | .ifElse part =>
    if part.arms.inElse then throw (.structural .elseifAfterElse)
    let part ← made (part.close b.inner.statements b.checker.nesting.leave.states)
    checking Check.leave
    startBranch (.ifElse part) part.arms.before
    checking (Check.resolveAll test.variableNames)
    setConstruct (.ifElse { part with test })
  | _ => throw (.structural .elseifWithoutIf)

/-- Opens what is done if no branch or arm is taken. -/
def otherwise : Action Unit := do
  live
  let b ← get
  match b.inner.construct with
  | .ifElse part =>
    if part.arms.inElse then throw (.structural (.secondElse "IF"))
    let part ← made (part.close b.inner.statements b.checker.nesting.leave.states)
    checking Check.leave
    startBranch (.ifElse { part with arms := { part.arms with inElse := true } }) part.arms.before
  | .cases part =>
    if part.arms.inElse then throw (.structural (.secondElse "CASE"))
    if !part.isOpen then throw (.structural .whenBeforeElse)
    let part ← made (part.close b.inner.statements b.checker.nesting.leave.states)
    checking Check.leave
    startBranch (.cases { part with arms := { part.arms with inElse := true } }) part.arms.before
  | _ => throw (.structural .elseWithoutConstruct)

/-- Closes a conditional. -/
def endIf : Action Unit := closes .ifElse

/-- Opens a case. -/
def openCase (operand : Operand) : Action Unit := opens (Construct.ofCase operand)

/-- Opens one more arm of a case. -/
def openWhen (test : Operand) : Action Unit := do
  live
  let b ← get
  match b.inner.construct with
  | .cases part =>
    if part.arms.inElse then throw (.structural .whenAfterElse)
    if part.operand.isNull ∧ test.condition?.isNone then throw (.validity .whenNeedsCondition)
    let part ← made (part.close b.inner.statements b.checker.nesting.leave.states)
    if part.entered then checking Check.leave
    startBranch (.cases { part with entered := true }) part.arms.before
    checking (Check.resolveAll test.variableNames)
    setConstruct (.cases { part with entered := true, test := test.ifAny })
  | _ => throw (.structural .whenWithoutCase)

/-- Closes a case. -/
def endCase : Action Unit := closes .cases

/-! ### Loops -/

/-- Opens a loop without a test, under a generated label if it has none. -/
def openLoop (label : Operand) : Action Unit := opens (Construct.ofLoop label .loop)

/-- Opens a loop that goes on while a condition holds. -/
def openWhile (test label : Operand) : Action Unit := opens do
  Check.resolveAll test.variableNames
  Construct.ofLoop label (.whileLoop · test)

/-- Opens a loop that goes on until a condition holds. -/
def openRepeat (label : Operand) : Action Unit := opens (Construct.ofLoop label .repeatLoop)

/-- Closes a loop without a test. -/
def endLoop : Action Unit := closes .loop

/-- Closes a loop that goes on while a condition holds. -/
def endWhile : Action Unit := closes .whileLoop

/-- Closes a loop that goes on until a condition holds. -/
def endRepeat (test : Operand) : Action Unit := do
  live
  let b ← get
  match b.inner.construct with
  | .repeatLoop label =>
    checking (Check.resolveAll test.variableNames)
    let f ← pop .repeatLoop
    append (← made (Statement.makeRepeat (some label) test f.statements))
  | _ => throw (.structural (.untilWithoutRepeat b.inner.construct.describe))

/-! ### Closing what is open -/

/-- Closes the innermost construct. A loop that ends with a condition needs that condition. -/
def closeInnermost : Action Unit := do
  let b ← get
  if b.outer.isEmpty then throw (.structural .nothingOpen)
  match b.inner.construct.kind with
  | .block => endBlock
  | .handler => endHandler
  | .ifElse => endIf
  | .cases => endCase
  | .loop => endLoop
  | .whileLoop => endWhile
  | .repeatLoop => throw (.structural .repeatNeedsUntil)

/-- Closes the innermost construct of a builder that is not used up. -/
def close : Action Unit := do
  live
  closeInnermost

/-- Starts a bracket: what the last call has opened is closed at its end. -/
def enterBracket : Action Unit :=
  modify fun b => { b with withs := b.opened :: b.withs, opened := none }

/-- Ends a bracket. After a failure inside nothing is closed. -/
def exitBracket (failed : Bool) : Action Unit := do
  let b ← get
  match b.withs with
  | [] => throw .noOpenWith
  | mark :: withs =>
    set { b with withs := withs }
    match failed, mark with
    | false, some m =>
      if b.inner.serial = m.serial then closeInnermost
      else if b.frames.any (·.serial == m.serial) then
        throw (.structural (.stillOpen b.inner.construct.describe))
      else throw (.structural (.alreadyClosed m.description))
    | _, _ => pure ()

/-- The program, if all constructs are closed. It uses the builder up. -/
def build : Action Program := do
  live
  let b ← get
  match b.outer, b.inner.construct with
  | [], .block label view =>
    set { b with consumed := true }
    pure (b.head.program ⟨b.inner.statements, label, some view⟩)
  | _, _ =>
    throw (.structural (.buildWithOpen (b.frames.dropLast.map (·.construct.describe))))

end Builder
end StoredSql
