import StoredSql.LabelSource

/-!
# Statements at their place

A statement is checked against the scopes at its place: what it names must be visible there, its
declarations must come in order, and its cursors must be in states that allow what it does. Checking
gives the statement back with labels for the loops that have none. Where it fails, the names, states
and numbers that it has used up to there stay used.
-/

namespace StoredSql

/-- What statements are checked against. -/
structure Checker where
  nesting : Nesting
  labels : LabelSource
deriving DecidableEq, Repr

/-- The checker outside its innermost scopes, of a count. -/
def Checker.leaveScopes : Nat → Checker → Checker
  | 0, c => c
  | n + 1, c => leaveScopes n { c with nesting := c.nesting.leave }

/-- A check: it may fail, and either way it leaves something to check the next statement against. -/
abbrev Check := ExceptT Error (StateM Checker)

namespace Check

/-- A question to the scopes. -/
def ask {α : Type} (f : Nesting → Except Error α) : Check α := fun c => (f c.nesting, c)

/-- What cannot be made fails. -/
def made {α : Type} (r : Except Error α) : Check α := ask fun _ => r

/-- A change of the scopes, if it is allowed. -/
def change (f : Nesting → Except Error Nesting) : Check Unit := fun c =>
  match f c.nesting with
  | .ok n => (.ok (), { c with nesting := n })
  | .error e => (.error e, c)

/-- A change of the innermost scope, which may fail half done. -/
def declare (f : Scope → Except Error Unit × Scope) : Check Unit := fun c =>
  let (r, s) := f c.nesting.inner
  (r, { c with nesting := { c.nesting with inner := s } })

/-- The check within one more scope, which is gone after it even if it fails. -/
def within {α : Type} (s : Scope) (act : Check α) : Check α := fun c =>
  let (r, c) := act { c with nesting := c.nesting.within s }
  (r, { c with nesting := c.nesting.leave })

/-- Goes into one more scope. -/
def enter (s : Scope) : Check Unit := change fun n => .ok (n.within s)

/-- Leaves the innermost scope. -/
def leave : Check Unit := change fun n => .ok n.leave

/-- A scope for a construct inside. -/
def child (kind : ScopeKind) (label : Option String) : Check Scope := ask (·.child kind label)

/-- The states of the cursors. -/
def states : Check (List CursorState) := ask fun n => .ok n.states

/-- Sets the states of the cursors. -/
def setStates (states : List CursorState) : Check Unit := change fun n => .ok (n.withStates states)

/-- What is visible here. -/
def view : Check ScopeView := ask fun n => .ok n.view

/-- A statement that is executed has come. -/
def noteStatement : Check Unit := change fun n => .ok { n with inner := n.inner.noteStatement }

/-- Goes into a branch, with the states from before the conditional. -/
def enterBranch (before : List CursorState) : Check Unit := do
  setStates before
  enter (← child .branch none)

/-- The label, or a free one if there is none. -/
def labelOr (label : Option String) : Check String := fun c =>
  match Text.nonEmpty label with
  | some l => (.ok l, c)
  | none =>
    let (l, labels) := c.labels.next c.nesting.openLabels
    (.ok l, { c with labels := labels })

/-- The variables that are referred to must be visible. -/
def resolveAll (names : List String) : Check Unit :=
  ask fun n => names.forM n.resolveVariable

/-- The named conditions must be visible. -/
def resolveConditions (conditions : List ConditionValue) : Check Unit :=
  ask fun n => (conditions.filterMap (·.name?)).forM n.resolveCondition

/-- The check with what it does to the states of cursors undone, even if it fails. -/
def keepStates {α : Type} (states : List CursorState) (act : Check α) : Check α := fun c =>
  let (r, c) := act c
  (r, { c with nesting := c.nesting.withStates states })

/-- The target of an iteration must be the label of a loop. -/
def iterateTarget (label : String) : Check Unit := ask fun n =>
  match Nesting.findLabel label n.scopes with
  | none => .error (.unresolvedLabel label)
  | some s => if s.kind = .loop then .ok () else .error (.labelOfBlock label)

/-- What is left must be a labelled construct. -/
def leaveTarget (label : String) : Check Unit := ask fun n =>
  match Nesting.findLabel label n.scopes with
  | none => .error (.unresolvedLabel label)
  | some _ => .ok ()

/-- A fetch needs a cursor, targets, and the cursor in a state that allows it. -/
def fetch (name : String) (targets : List String) : Check Unit := do
  let _ ← ask (·.cursor name)
  ask fun n => targets.forM n.resolveTarget
  change (·.useCursor .fetch name)

/-- Each value is checked before its target. -/
def assignments : List (String × Expr) → Check Unit
  | [] => pure ()
  | (target, value) :: rest => do
    resolveAll value.outline.variableNames
    ask (·.resolveTarget target)
    assignments rest

/-- The directive that changes the delimiter has no place in a program, not even as a text. -/
def rawText (sql : String) : Check Unit :=
  if Text.startsWithChars "DELIMITER".toList (Text.upper (Text.trimStart sql)).toList then
    throw (.structural .delimiterInside)
  else pure ()

/-- After branches the states are those that all of them agree on. -/
def mergeStates (before : List CursorState) (outcomes : List (List CursorState)) : Check Unit :=
  setStates (Nesting.agreedStates before.length outcomes)

end Check

open Check

mutual

/-- Checks a statement, with the statements that it holds. -/
def Statement.check : Statement → Check Statement
  | .foreign o => throw (.kind (.notAStatement o.kindName))
  | .delimiter _ => throw (.structural .delimiterInside)
  | .empty => pure .empty
  | .declareVariables names type initial => do
    resolveAll ((initial.map (·.outline.variableNames)).getD [])
    names.forM fun name => declare (·.declareVariable name)
    pure (.declareVariables names type initial)
  | .declareCondition name value => do
    declare (·.declareCondition name)
    pure (.declareCondition name value)
  | .declareCursor name query => do
    resolveAll query.outline.variableNames
    declare (·.declareCursor name)
    pure (.declareCursor name query)
  | .declareHandler action conditions body => do
    declare (·.declareHandler)
    resolveConditions conditions
    let before ← states
    let scope ← child .handler none
    let body ← keepStates before (within scope do
      change fun n => .ok n.withUnknownStates
      body.check)
    pure (.declareHandler action conditions body)
  | .block b => do
    noteStatement
    let b ← b.check
    pure (.block b)
  | .loop label body => do
    noteStatement
    let label ← labelOr label
    let scope ← child .loop (some label)
    let body ← within scope (Statement.checkAll body)
    pure (.loop (some label) body)
  | .whileLoop label test body => do
    noteStatement
    let label ← labelOr label
    resolveAll test.outline.variableNames
    let scope ← child .loop (some label)
    let body ← within scope (Statement.checkAll body)
    pure (.whileLoop (some label) test body)
  | .repeatLoop label test body => do
    noteStatement
    let label ← labelOr label
    let scope ← child .loop (some label)
    let body ← within scope do
      let body ← Statement.checkAll body
      resolveAll test.outline.variableNames
      pure body
    pure (.repeatLoop (some label) test body)
  | .ifElse branches otherwise => do
    noteStatement
    let before ← states
    let (branches, outcomes) ← IfBranch.checkAll before branches
    let (otherwise, outcome) ← Statement.checkElse before otherwise
    mergeStates before (outcomes ++ [outcome])
    pure (.ifElse branches otherwise)
  | .cases operand whens otherwise => do
    noteStatement
    resolveAll ((operand.map (·.outline.variableNames)).getD [])
    let before ← states
    let (whens, outcomes) ← CaseWhen.checkAll before whens
    let (otherwise, outcome) ← Statement.checkElse before otherwise
    mergeStates before (outcomes ++ [outcome])
    pure (.cases operand whens otherwise)
  | .iterate label => do
    noteStatement
    iterateTarget label
    pure (.iterate label)
  | .leave label => do
    noteStatement
    leaveTarget label
    pure (.leave label)
  | .openCursor name => do
    noteStatement
    change (·.useCursor .open name)
    pure (.openCursor name)
  | .fetch name targets => do
    noteStatement
    Check.fetch name targets
    pure (.fetch name targets)
  | .closeCursor name => do
    noteStatement
    change (·.useCursor .close name)
    pure (.closeCursor name)
  | .select query => do
    noteStatement
    resolveAll query.outline.variableNames
    ask fun n => query.into.forM n.resolveTarget
    pure (.select query)
  | .insert query => do
    noteStatement
    resolveAll query.outline.variableNames
    pure (.insert query)
  | .set assignments => do
    noteStatement
    Check.assignments assignments
    pure (.set assignments)
  | .call name args => do
    noteStatement
    resolveAll (args.flatMap (·.outline.variableNames))
    pure (.call name args)
  | .signal condition message number => do
    noteStatement
    resolveConditions [condition]
    resolveAll ((message.map (·.outline.variableNames)).getD [])
    pure (.signal condition message number)
  | .raw sql => do
    noteStatement
    rawText sql
    pure (.raw sql)

/-- Checks statements one after the other. -/
def Statement.checkAll : List Statement → Check (List Statement)
  | [] => pure []
  | s :: ss => do
    let s ← s.check
    let ss ← Statement.checkAll ss
    pure (s :: ss)

/-- Checks what is done if no branch is taken. Where nothing is done, the states stay. -/
def Statement.checkElse (before : List CursorState) :
    Option (List Statement) → Check (Option (List Statement) × List CursorState)
  | none => pure (none, before)
  | some ss => do
    setStates before
    let scope ← child .branch none
    let ss ← within scope (Statement.checkAll ss)
    pure (some ss, ← states)

/-- Checks a block in a scope of its own, and tells what is visible where it begins. -/
def Block.check : Block → Check Block
  | ⟨statements, label, _⟩ => do
    let scope ← child .block label
    let (view, statements) ← within scope do
      let view ← view
      pure (view, ← Statement.checkAll statements)
    pure ⟨statements, label, some view⟩

/-- Checks branches, each from the states before all of them. Their outcomes follow. -/
def IfBranch.checkAll (before : List CursorState) :
    List IfBranch → Check (List IfBranch × List (List CursorState))
  | [] => pure ([], [])
  | ⟨test, body⟩ :: rest => do
    setStates before
    resolveAll test.outline.variableNames
    let scope ← child .branch none
    let body ← within scope (Statement.checkAll body)
    let outcome ← states
    let (branches, outcomes) ← IfBranch.checkAll before rest
    pure (⟨test, body⟩ :: branches, outcome :: outcomes)

/-- Checks arms, each from the states before all of them. Their outcomes follow. -/
def CaseWhen.checkAll (before : List CursorState) :
    List CaseWhen → Check (List CaseWhen × List (List CursorState))
  | [] => pure ([], [])
  | ⟨test, body⟩ :: rest => do
    setStates before
    resolveAll test.outline.variableNames
    let scope ← child .branch none
    let body ← within scope (Statement.checkAll body)
    let outcome ← states
    let (whens, outcomes) ← CaseWhen.checkAll before rest
    pure (⟨test, body⟩ :: whens, outcome :: outcomes)

end

/-- A block is a statement at its place, and then a block. -/
theorem Statement.check_block (b : Block) : (Statement.block b).check = (do
    noteStatement
    let b ← b.check
    pure (.block b)) := by
  rw [Statement.check]

end StoredSql
