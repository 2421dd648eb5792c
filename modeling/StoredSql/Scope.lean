import StoredSql.Identifier
import StoredSql.Keyword
import StoredSql.Statement

/-!
# Scopes

One scope belongs to each open construct of a stored program. It holds the label of the construct,
the names declared in it and the states of its cursors. A block declares variables and conditions
first, then cursors, then handlers, and nothing once it has statements (`Scope.enterPhase`).
-/

namespace StoredSql

/-- What a scope belongs to. Only blocks declare; a search for a label ends at a handler. -/
inductive ScopeKind where
  | program | block | loop | branch | handler
deriving DecidableEq, Repr

instance : Keyword ScopeKind where
  title := "ScopeKind"
  members := [.program, .block, .loop, .branch, .handler]
  word
    | .program => "program" | .block => "block" | .loop => "loop" | .branch => "branch"
    | .handler => "handler"

/-- How far a block is with its declarations. -/
inductive DeclarationPhase where
  | names | cursors | handlers | body
deriving DecidableEq, Repr

namespace DeclarationPhase

/-- The place of a phase in the order. -/
def rank : DeclarationPhase → Nat
  | names => 0 | cursors => 1 | handlers => 2 | body => 3

/-- What a phase declares. -/
def word : DeclarationPhase → String
  | names => "variable" | cursors => "cursor" | handlers => "handler" | body => "body"

end DeclarationPhase

/-! ## Cursors -/

/-- The state of a cursor. It is indeterminate where branches disagree, and in handlers. -/
inductive CursorState where
  | declared | opened | closed | indeterminate
deriving DecidableEq, Repr, Inhabited

namespace CursorState

/-- The word for a state. -/
def word : CursorState → String
  | declared => "DECLARED"
  | opened => "OPEN"
  | closed => "CLOSED"
  | indeterminate => "INDETERMINATE"

/-- The state that all agree on; it is indeterminate if they differ, or if there are none. -/
def agreed : List CursorState → CursorState
  | [] => indeterminate
  | s :: ss => if ss.all (· == s) then s else indeterminate

end CursorState

/-- What is done with a cursor. -/
inductive CursorVerb where
  | open | fetch | close
deriving DecidableEq, Repr

instance : Keyword CursorVerb where
  title := "CursorVerb"
  members := [.open, .fetch, .close]
  word
    | .open => "open" | .fetch => "fetch" | .close => "close"

/-- The state after something is done with a cursor, if that is allowed in its state. -/
def CursorState.after? : CursorState → CursorVerb → Option CursorState
  | .opened, .open => none
  | _, .open => some .opened
  | .declared, _ => none
  | .closed, _ => none
  | s, .fetch => some s
  | _, .close => some .closed

/-- A declared cursor. -/
structure Cursor where
  name : String
  state : CursorState := .declared
deriving DecidableEq, Repr

namespace Cursor

/-- The cursor after something is done with it. -/
def after (c : Cursor) (verb : CursorVerb) : Except Error Cursor :=
  match c.state.after? verb with
  | some s => .ok { c with state := s }
  | none => .error (.cursorState (Keyword.word verb) c.name (Text.lower c.state.word))

/-- A cursor as answers show it. -/
def shown (c : Cursor) : String :=
  "CursorEntry(" ++ Text.quoted c.name ++ ", " ++ c.state.word ++ ")"

end Cursor

/-! ## Scopes -/

/-- The rows that a trigger sees, by the names they have in capital letters, and those of them that
it may write. -/
structure RowAccess where
  readable : List String := []
  writable : List String := []
deriving DecidableEq, Repr

/-- What is declared in one construct. -/
structure Scope where
  kind : ScopeKind
  label : Option String := none
  rows : RowAccess := {}
  variableNames : List String := []
  conditions : List String := []
  cursors : List Cursor := []
  phase : DeclarationPhase := .names
deriving DecidableEq, Repr

namespace Scope

/-- A scope as answers show it. -/
def shown (s : Scope) : String :=
  "Scope(" ++ Keyword.word s.kind ++ ", label="
    ++ (match s.label with
      | some l => Text.quoted l
      | none => "None") ++ ")"

/-- Whether one of the names is the name. -/
def hasName (names : List String) (name : String) : Bool := names.any (Text.sameName name)

/-- The scope in a phase of its declarations, if the phase may still come. `what` is the declaration
that asks for it. -/
def enterPhase (s : Scope) (phase : DeclarationPhase) (what : String) : Except Error Scope :=
  if s.kind ≠ .block then .error (.structural (.declareOutsideBlock what))
  else if s.phase = .body then .error (.structural (.declareAfterStatement what))
  else if phase.rank < s.phase.rank then .error (.structural (.declareOrder what s.phase.word))
  else .ok { s with phase := phase }

/-- The scope after a statement that is executed: a block is done with its declarations. -/
def noteStatement (s : Scope) : Scope :=
  if s.kind = .block then { s with phase := .body } else s

/-- Nothing but the phase changes where a statement comes. -/
theorem noteStatement_eq (s : Scope) :
    s.noteStatement = { s with phase := s.noteStatement.phase } := by
  unfold noteStatement
  split <;> rfl

/-- The scope with one more parameter. -/
def declareParameter (s : Scope) (name : String) : Except Error Scope :=
  if hasName s.variableNames name then .error (.declaredTwice .parameter name)
  else .ok { s with variableNames := s.variableNames ++ [name] }

/-- The scope after a declaration, if its phase may still come and its name is not taken. A
declaration in its place moves the block to its phase even if the name is taken. -/
def declareIn (s : Scope) (phase : DeclarationPhase) (what : String) (taken : Scope → Bool)
    (twice : Error) (add : Scope → Scope) : Except Error Unit × Scope :=
  match s.enterPhase phase what with
  | .error e => (.error e, s)
  | .ok s => if taken s then (.error twice, s) else (.ok (), add s)

/-- The scope with one more variable. -/
def declareVariable (s : Scope) (name : String) : Except Error Unit × Scope :=
  s.declareIn .names ("DECLARE " ++ name) (fun s => hasName s.variableNames name)
    (.declaredTwice .variable name) fun s => { s with variableNames := s.variableNames ++ [name] }

/-- The scope with one more condition. -/
def declareCondition (s : Scope) (name : String) : Except Error Unit × Scope :=
  s.declareIn .names ("DECLARE " ++ name ++ " CONDITION") (fun s => hasName s.conditions name)
    (.declaredTwice .condition name) fun s => { s with conditions := s.conditions ++ [name] }

/-- The scope with one more cursor. -/
def declareCursor (s : Scope) (name : String) : Except Error Unit × Scope :=
  s.declareIn .cursors ("DECLARE " ++ name ++ " CURSOR")
    (fun s => hasName (s.cursors.map (·.name)) name) (.declaredTwice .cursor name)
    fun s => { s with cursors := s.cursors ++ [⟨name, .declared⟩] }

/-- The scope with one more handler. -/
def declareHandler (s : Scope) : Except Error Unit × Scope :=
  match s.enterPhase .handlers "DECLARE ... HANDLER" with
  | .error e => (.error e, s)
  | .ok s => (.ok (), s)

/-- The states of the cursors of the scope. -/
def states (s : Scope) : List CursorState := s.cursors.map (·.state)

/-- Cursors in other states, in order. Cursors beyond the states keep theirs. -/
def setStates : List Cursor → List CursorState → List Cursor
  | c :: cs, s :: ss => { c with state := s } :: setStates cs ss
  | cs, _ => cs

/-- The scope with its cursors in other states. -/
def withStates (s : Scope) (states : List CursorState) : Scope :=
  { s with cursors := setStates s.cursors states }

@[simp] theorem length_setStates (cs : List Cursor) (ss : List CursorState) :
    (setStates cs ss).length = cs.length := by
  fun_induction setStates cs ss <;> simp_all

theorem map_state_setStates {cs : List Cursor} {ss : List CursorState} (h : cs.length ≤ ss.length) :
    (setStates cs ss).map (·.state) = ss.take cs.length := by
  fun_induction setStates cs ss with
  | case1 c cs s ss ih => simpa using ih (by simpa using h)
  | case2 cs ss hne =>
    cases cs with
    | nil => simp
    | cons c cs =>
      cases ss with
      | nil => simp at h
      | cons s ss => exact absurd rfl (hne c cs s ss rfl)

end Scope
end StoredSql
