import StoredSql.Scope

/-!
# Nested scopes

The scopes at a place, from the innermost outwards. Names resolve to the innermost declaration.
Where the states of all cursors at a place are taken (`states`), set (`withStates`) or marked, they
come in the order of the scopes, and within one scope in that of its declarations.
`states_withStates` says that the states that are set are those that are taken.
-/

namespace StoredSql

/-- The scopes at a place. -/
structure Nesting where
  inner : Scope
  outer : List Scope := []
deriving DecidableEq, Repr

namespace Nesting

/-- The scopes from the innermost outwards. -/
def scopes (n : Nesting) : List Scope := n.inner :: n.outer

/-- The nesting without its innermost scope; the outermost one stays. -/
def leave : Nesting → Nesting
  | ⟨_, s :: ss⟩ => ⟨s, ss⟩
  | n => n

/-- The nesting with one more scope inside. -/
def within (n : Nesting) (s : Scope) : Nesting := ⟨s, n.scopes⟩

/-! ## Labels -/

/-- The labels of the open constructs, innermost first. -/
def openLabels (n : Nesting) : List String := n.scopes.filterMap (·.label)

/-- A scope for a construct inside. Its label must be free at this place. -/
def child (n : Nesting) (kind : ScopeKind) (label : Option String) : Except Error Scope :=
  match label with
  | none => .ok { kind := kind, rows := n.inner.rows }
  | some l => do
    let l ← Identifier.checkLabel l
    if Scope.hasName n.openLabels l then throw (.labelTwice l)
    pure { kind := kind, label := some l, rows := n.inner.rows }

/-- The innermost scope with a label. A handler hides the labels around it. -/
def findLabel (label : String) : List Scope → Option Scope
  | [] => none
  | s :: ss =>
    if s.label.any (Text.sameName label) then some s
    else if s.kind = .handler then none
    else findLabel label ss

/-! ## Names -/

/-- The name of a row and what follows it, if the name is a dotted one. -/
def rowOf? (name : String) : Option String :=
  (Text.cutFirst '.' name).map fun p => Text.upper p.1

/-- Whether the name belongs to the session. -/
def isSession (name : String) : Bool := name.startsWith "@"

/-- Finds the variable that a name stands for: one of the session, a column of a row that is seen
here, or a declared one. -/
def resolveVariable (n : Nesting) (name : String) : Except Error Unit :=
  if isSession name then .ok ()
  else match rowOf? name with
    | some row =>
      if n.inner.rows.readable.contains row then .ok () else .error (.undeclared .variable name)
    | none =>
      if n.scopes.any fun s => Scope.hasName s.variableNames name then .ok ()
      else .error (.undeclared .variable name)

/-- Finds the variable that a name to be assigned stands for. -/
def resolveTarget (n : Nesting) (name : String) : Except Error Unit :=
  match isSession name, rowOf? name with
  | false, some row =>
    if n.inner.rows.readable.contains row ∧ !n.inner.rows.writable.contains row then
      .error (.validity (.readOnlyRow name))
    else n.resolveVariable name
  | _, _ => n.resolveVariable name

/-- Finds the condition that a name stands for. -/
def resolveCondition (n : Nesting) (name : String) : Except Error Unit :=
  if n.scopes.any fun s => Scope.hasName s.conditions name then .ok ()
  else .error (.undeclared .condition name)

/-- The names without those that an earlier one already is. -/
def firstSpellings : List String → List String
  | [] => []
  | name :: names => name :: (firstSpellings names).filter fun other => !Text.sameName name other

/-- The names of the variables that are visible, each as its innermost declaration spells it, in
the order of their lower case. -/
def visibleVariables (n : Nesting) : List String :=
  (firstSpellings (n.scopes.flatMap (·.variableNames))).mergeSort fun a b =>
    decide (Text.lower a ≤ Text.lower b)

/-- What is visible here: labels, outermost first, and variables. -/
def view (n : Nesting) : ScopeView := ⟨n.openLabels.reverse, n.visibleVariables⟩

/-! ## Cursors -/

/-- The innermost cursor of a name. -/
def cursor (n : Nesting) (name : String) : Except Error Cursor :=
  match (n.scopes.flatMap (·.cursors)).find? fun c => Text.sameName c.name name with
  | some c => .ok c
  | none => .error (.undeclared .cursor name)

/-- The cursors with another one in the place of the first of its name. -/
def replaceCursor (name : String) (c : Cursor) : List Cursor → List Cursor
  | [] => []
  | d :: ds => if Text.sameName d.name name then c :: ds else d :: replaceCursor name c ds

/-- The scopes with another cursor in the place of the innermost of its name. -/
def replaceInScopes (name : String) (c : Cursor) : List Scope → List Scope
  | [] => []
  | s :: ss =>
    if s.cursors.any fun d => Text.sameName d.name name then
      { s with cursors := replaceCursor name c s.cursors } :: ss
    else s :: replaceInScopes name c ss

/-- The nesting of a list of scopes; there is at least one. -/
def ofScopes (n : Nesting) : List Scope → Nesting
  | s :: ss => ⟨s, ss⟩
  | [] => n

/-- The nesting after something is done with a cursor. -/
def useCursor (n : Nesting) (verb : CursorVerb) (name : String) : Except Error Nesting := do
  let c ← n.cursor name
  let c ← c.after verb
  pure (n.ofScopes (replaceInScopes name c n.scopes))

/-- The cursors with their states. -/
def cursorStates (n : Nesting) : List (String × CursorState) :=
  n.scopes.flatMap fun s => s.cursors.map fun c => (c.name, c.state)

/-- The states of the cursors. -/
def states (n : Nesting) : List CursorState := n.scopes.flatMap (·.states)

/-- The scopes with their cursors in other states. -/
def setStates : List Scope → List CursorState → List Scope
  | [], _ => []
  | s :: ss, states => s.withStates states :: setStates ss (states.drop s.cursors.length)

/-- The nesting with its cursors in other states. -/
def withStates (n : Nesting) (states : List CursorState) : Nesting :=
  n.ofScopes (setStates n.scopes states)

/-- The nesting with no state of a cursor known. -/
def withUnknownStates (n : Nesting) : Nesting :=
  n.withStates (n.states.map fun _ => .indeterminate)

/-- The states that the outcomes of branches agree on, cursor by cursor; `count` is the count of
cursors. -/
def agreedStates (count : Nat) (outcomes : List (List CursorState)) : List CursorState :=
  (List.range count).map fun i =>
    CursorState.agreed (outcomes.map fun states => states.getD i .indeterminate)

theorem flatMap_states_setStates {ss : List Scope} {states : List CursorState}
    (h : (ss.flatMap (·.states)).length = states.length) :
    (setStates ss states).flatMap (·.states) = states := by
  induction ss generalizing states with
  | nil =>
    have h' : states.length = 0 := h.symm
    simp [setStates, List.eq_nil_of_length_eq_zero h']
  | cons s ss ih =>
    have hs : s.states.length = s.cursors.length := by simp [Scope.states]
    simp only [List.flatMap_cons, List.length_append, hs] at h
    simp only [setStates, List.flatMap_cons]
    rw [ih (by rw [List.length_drop]; omega)]
    simp only [Scope.states, Scope.withStates]
    rw [Scope.map_state_setStates (by omega), List.take_append_drop]

theorem states_withStates {n : Nesting} {states : List CursorState}
    (h : n.states.length = states.length) : (n.withStates states).states = states := by
  simpa [Nesting.states, withStates, ofScopes, setStates, scopes] using
    @flatMap_states_setStates n.scopes states h

end Nesting
end StoredSql
