import StoredSql.Validation

/-!
# Cursors in runs of programs

What a run of statements does to cursors, where it goes through a block, takes one branch of a
conditional or one arm of a case, or none if nothing is to be done otherwise. A run goes on only as
long as what is done with its cursors is legal (`Runs`); `Reaches` says where it comes on its way.
Handlers are declared but not called, and no run goes through a loop or leaves a construct early.
-/

namespace StoredSql

/-! ## Cursors -/

/-- The state of a cursor in a run. -/
inductive LiveState where
  | declared | opened | closed
deriving DecidableEq, Repr

namespace LiveState

/-- The state after something is done with a cursor, if that is legal: what is open cannot be opened
again, and only what is open gives rows and can be closed. -/
def after? : LiveState → CursorVerb → Option LiveState
  | opened, .open => none
  | _, .open => some opened
  | opened, .fetch => some opened
  | opened, .close => some closed
  | _, _ => none

/-- The state as a check knows it. -/
def known : LiveState → CursorState
  | declared => .declared
  | opened => .opened
  | closed => .closed

end LiveState

/-- A cursor in a run. -/
structure LiveCursor where
  name : String
  state : LiveState
deriving DecidableEq, Repr

/-- The cursors in a run, scope by scope from the innermost outwards. -/
structure Live where
  inner : List LiveCursor := []
  outer : List (List LiveCursor) := []
deriving DecidableEq, Repr

namespace Live

/-- The cursors of all scopes. -/
def scopes (e : Live) : List (List LiveCursor) := e.inner :: e.outer

/-- Into one more scope. -/
def enter (e : Live) : Live := ⟨[], e.scopes⟩

/-- Out of the innermost scope, whose cursors are gone. -/
def leave : Live → Live
  | ⟨_, xs :: xss⟩ => ⟨xs, xss⟩
  | e => e

/-- One more cursor in the innermost scope. -/
def declare (name : String) (e : Live) : Live := { e with inner := e.inner ++ [⟨name, .declared⟩] }

/-- The innermost cursor of a name. -/
def cursor? (e : Live) (name : String) : Option LiveCursor :=
  e.scopes.flatten.find? fun x => Text.sameName x.name name

/-- The cursors with another one in the place of the first of its name. -/
def replace (name : String) (x : LiveCursor) : List LiveCursor → List LiveCursor
  | [] => []
  | y :: ys => if Text.sameName y.name name then x :: ys else y :: replace name x ys

/-- The scopes with another cursor in the place of the innermost of its name. -/
def replaceIn (name : String) (x : LiveCursor) : List (List LiveCursor) → List (List LiveCursor)
  | [] => []
  | ys :: yss =>
    if ys.any fun y => Text.sameName y.name name then replace name x ys :: yss
    else ys :: replaceIn name x yss

/-- The cursors of the scopes; there is at least one. -/
def ofScopes (e : Live) : List (List LiveCursor) → Live
  | xs :: xss => ⟨xs, xss⟩
  | [] => e

/-- The cursors after something is done with the innermost one of a name, if that is legal. -/
def use (verb : CursorVerb) (name : String) (e : Live) : Option Live := do
  let x ← e.cursor? name
  let state ← x.state.after? verb
  pure (e.ofScopes (replaceIn name { x with state } e.scopes))

end Live

/-! ## Statements -/

namespace Statement

/-- What a statement does with a cursor. -/
def cursorUse? : Statement → Option (CursorVerb × String)
  | openCursor name => some (.open, name)
  | fetch name _ => some (.fetch, name)
  | closeCursor name => some (.close, name)
  | _ => none

/-- The statements that a run may go through inside of a statement; where a branch would do nothing,
there are none in it. -/
def bodies : Statement → List (List Statement)
  | block ⟨ss, _, _⟩ => [ss]
  | ifElse branches otherwise => (branches.map fun ⟨_, ss⟩ => ss) ++ [otherwise.getD []]
  | cases _ whens otherwise => (whens.map fun ⟨_, ss⟩ => ss) ++ [otherwise.getD []]
  | _ => []

/-- Whether a run goes past a statement with its cursors as they are. -/
def isPlain : Statement → Bool
  | declareCursor _ _ | openCursor _ | fetch _ _ | closeCursor _ => false
  | block _ | ifElse _ _ | cases _ _ _ => false
  | loop _ _ | whileLoop _ _ _ | repeatLoop _ _ _ | leave _ => false
  | _ => true

end Statement

/-! ## Runs -/

/-- Runs of statements to their end, by the cursors before and after them. -/
inductive Runs : List Statement → Live → Live → Prop
  | done (e : Live) : Runs [] e e
  | plain {s : Statement} {ss : List Statement} {e e' : Live} : s.isPlain = true → Runs ss e e' →
      Runs (s :: ss) e e'
  | declare {name : String} {query : SelectQuery} {ss : List Statement} {e e' : Live} :
      Runs ss (e.declare name) e' → Runs (.declareCursor name query :: ss) e e'
  | use {s : Statement} {verb : CursorVerb} {name : String} {ss : List Statement} {e u e' : Live} :
      s.cursorUse? = some (verb, name) → e.use verb name = some u → Runs ss u e' →
      Runs (s :: ss) e e'
  | inside {s : Statement} {body ss : List Statement} {e u e' : Live} : body ∈ s.bodies →
      Runs body e.enter u → Runs ss u.leave e' → Runs (s :: ss) e e'

/-- Runs on their way: they come to a statement at a place, with cursors that are left by all that is
before it. A place is told by numbers: of a statement among others, of the statements that hold it
within the one around them, and so on inwards. -/
inductive Reaches : List Statement → Live → List Nat → Statement → Live → Prop
  | here {s : Statement} {ss : List Statement} {e : Live} : Reaches (s :: ss) e [0] s e
  | later {s t : Statement} {ss : List Statement} {e u v : Live} {i : Nat} {place : List Nat} :
      Runs [s] e u → Reaches ss u (i :: place) t v → Reaches (s :: ss) e ((i + 1) :: place) t v
  | inside {s t : Statement} {body ss : List Statement} {e v : Live} {i : Nat} {place : List Nat} :
      s.bodies[i]? = some body → Reaches body e.enter place t v →
      Reaches (s :: ss) e (0 :: i :: place) t v

end StoredSql
