import StoredSql.Nesting

/-!
# Scopes that are kept

Scopes that several others may lie in. Each node of a forest is a scope with the node that it lies
in, which is an earlier one; the scopes at a node are those on its way out (`path`). The states of
cursors are kept by the node of a cursor and its place there, so that they can be set again from
anywhere.
-/

namespace StoredSql

/-- A scope with the node that it lies in. -/
structure ScopeNode where
  scope : Scope
  parent : Option Nat := none
deriving DecidableEq, Repr

/-- The states of cursors, by the node of a cursor and its place there. -/
abbrev CursorSnapshot := List ((Nat × Nat) × CursorState)

/-- Scopes, each in the place of its number. -/
structure ScopeForest where
  nodes : List ScopeNode := []
deriving DecidableEq, Repr

namespace ScopeForest

/-- The nodes on the way out from a node, innermost first; the number of the node bounds their
count, as a scope lies in an earlier one. -/
def pathWithin (f : ScopeForest) : Nat → Nat → List Nat
  | 0, _ => []
  | fuel + 1, i =>
    match f.nodes[i]? with
    | none => []
    | some node => i :: match node.parent with
      | none => []
      | some j => pathWithin f fuel j

/-- The nodes on the way out from a node, innermost first. -/
def path (f : ScopeForest) (i : Nat) : List Nat := f.pathWithin (i + 1) i

/-- The scopes at a node. -/
def nesting? (f : ScopeForest) (i : Nat) : Option Nesting :=
  match (f.path i).filterMap fun j => (f.nodes[j]?).map (·.scope) with
  | [] => none
  | s :: ss => some ⟨s, ss⟩

/-- The forest with other scopes in the place of nodes. -/
def withScopes (f : ScopeForest) (changes : List (Nat × Scope)) : ScopeForest :=
  ⟨changes.foldl (fun nodes c => nodes.modify c.1 fun node => { node with scope := c.2 }) f.nodes⟩

/-- The forest with the scopes at a node changed. -/
def withNesting (f : ScopeForest) (i : Nat) (n : Nesting) : ScopeForest :=
  f.withScopes ((f.path i).zip n.scopes)

/-- The forest with one more scope, and the number of the scope. -/
def plant (f : ScopeForest) (scope : Scope) (parent : Option Nat) : Nat × ScopeForest :=
  (f.nodes.length, ⟨f.nodes ++ [⟨scope, parent⟩]⟩)

/-- A scope that lies in no other one; rows are named in any case. -/
def rootScope (kind : Outline) (label : Option String) (readable writable : List String) :
    Except Error Scope := do
  let kind ← kind.toMember
  pure { kind, label, rows := ⟨readable.map Text.upper, writable.map Text.upper⟩ }

/-- A scope for a construct of a named kind. Its label is checked first. -/
def childScope (n : Nesting) (kind : Outline) (label : Option String) : Except Error Scope := do
  let scope ← n.child .program label
  let kind ← kind.toMember
  pure { scope with kind := kind }

/-- The states of the cursors at a node. -/
def snapshot (f : ScopeForest) (i : Nat) : CursorSnapshot :=
  (f.path i).flatMap fun j =>
    match f.nodes[j]? with
    | none => []
    | some node => node.scope.cursors.zipIdx.map fun c => ((j, c.2), c.1.state)

/-- A scope with the cursor at a place in another state. -/
def setStateAt (s : Scope) (place : Nat) (state : CursorState) : Scope :=
  { s with cursors := s.cursors.modify place fun c => { c with state := state } }

/-- The forest with a cursor in another state. -/
def withState (f : ScopeForest) (entry : (Nat × Nat) × CursorState) : ScopeForest :=
  ⟨f.nodes.modify entry.1.1 fun node =>
    { node with scope := setStateAt node.scope entry.1.2 entry.2 }⟩

/-- The forest with the cursors of a snapshot in the states that they had in it. -/
def restore (f : ScopeForest) (s : CursorSnapshot) : ScopeForest := s.foldl withState f

/-- The forest with the cursors of a snapshot in the states that all outcomes agree on. An outcome
without a cursor leaves it as it was in the snapshot. -/
def merge (f : ScopeForest) (s : CursorSnapshot) (outcomes : List CursorSnapshot) : ScopeForest :=
  f.restore (s.map fun entry =>
    (entry.1, CursorState.agreed (outcomes.map fun o => (o.lookup entry.1).getD entry.2)))

end ScopeForest
end StoredSql
