import StoredSql.Proofs.UpheldChecks

/-!
# Events

What a statement is made of, from left to right: where its constructs open and close, where their
branches start, with what each of them asks for, and the statements that hold no others
(`Statement.events`). A handler holds one statement, and closes with it. Labels, and what is visible
where blocks begin, do not count: those a check may fill in, and it changes nothing else
(`Statement.check_events`).
-/

namespace StoredSql

open Check Stepwise

/-- A step from left to right through a statement. What is asked for is missing where it is none. -/
inductive Event where
  | leaf (s : Statement)
  | block
  | handler (action : HandlerAction) (conditions : List ConditionValue)
  | ifElse
  | cases (operand : Option Expr)
  | loop
  | whileLoop (test : Option Expr)
  | repeatLoop
  | branch (test : Option Expr)
  | otherwise
  | goal (test : Option Expr)
  | closed

/-- The statement at a step, if it is one that holds no others. -/
def Event.leaf? : Event → Option Statement
  | .leaf s => some s
  | _ => none

mutual

/-- The events of a statement. -/
def Statement.events : Statement → List Event
  | .declareHandler action conditions body =>
    .handler action conditions :: body.events
  | .block ⟨statements, _, _⟩ => .block :: (Statement.allEvents statements ++ [.closed])
  | .ifElse branches otherwise =>
    .ifElse :: (IfBranch.events branches ++ Statement.elseEvents otherwise ++ [.closed])
  | .cases operand whens otherwise =>
    .cases operand :: (CaseWhen.events whens ++ Statement.elseEvents otherwise ++ [.closed])
  | .loop _ body => .loop :: (Statement.allEvents body ++ [.closed])
  | .whileLoop _ test body =>
    .whileLoop (some (.condition test)) :: (Statement.allEvents body ++ [.closed])
  | .repeatLoop _ test body =>
    .repeatLoop :: (Statement.allEvents body ++ [.goal (some (.condition test)), .closed])
  | s => [.leaf s]

def Statement.allEvents : List Statement → List Event
  | [] => []
  | s :: ss => s.events ++ Statement.allEvents ss

def Statement.elseEvents : Option (List Statement) → List Event
  | none => []
  | some body => .otherwise :: Statement.allEvents body

def IfBranch.events : List IfBranch → List Event
  | [] => []
  | ⟨test, body⟩ :: rest =>
    .branch (some (.condition test)) :: (Statement.allEvents body ++ IfBranch.events rest)

def CaseWhen.events : List CaseWhen → List Event
  | [] => []
  | ⟨test, body⟩ :: rest => .branch (some test) :: (Statement.allEvents body ++ CaseWhen.events rest)

end

namespace Statement

/-- The statements that hold no others, from left to right. -/
def allLeaves (ss : List Statement) : List Statement := (allEvents ss).filterMap Event.leaf?

theorem allEvents_append (ss ts : List Statement) :
    allEvents (ss ++ ts) = allEvents ss ++ allEvents ts := by
  induction ss with
  | nil => rfl
  | cons s ss ih => rw [List.cons_append, allEvents, allEvents, ih, List.append_assoc]

theorem events_block (b : Block) :
    (block b).events = .block :: (allEvents b.statements ++ [.closed]) := by
  obtain ⟨statements, label, view⟩ := b
  rfl

theorem allEvents_singleton (s : Statement) : allEvents [s] = s.events := List.append_nil _

end Statement

theorem IfBranch.events_append (branches : List IfBranch) (b : IfBranch) :
    IfBranch.events (branches ++ [b]) = IfBranch.events branches ++
      .branch (some (.condition b.test)) :: Statement.allEvents b.statements := by
  induction branches with
  | nil =>
    obtain ⟨test, body⟩ := b
    exact congrArg (_ :: ·) (List.append_nil _)
  | cons first rest ih =>
    obtain ⟨test, body⟩ := first
    rw [List.cons_append, IfBranch.events, IfBranch.events, ih, List.cons_append, List.append_assoc]

theorem CaseWhen.events_append (whens : List CaseWhen) (w : CaseWhen) :
    CaseWhen.events (whens ++ [w]) = CaseWhen.events whens ++
      .branch (some w.test) :: Statement.allEvents w.statements := by
  induction whens with
  | nil =>
    obtain ⟨test, body⟩ := w
    exact congrArg (_ :: ·) (List.append_nil _)
  | cons first rest ih =>
    obtain ⟨test, body⟩ := first
    rw [List.cons_append, CaseWhen.events, CaseWhen.events, ih, List.cons_append, List.append_assoc]

/-! ## Checks -/

theorem Statement.leaf_events {s s' : Statement} {c c' : Checker} (hs : s.scopeKind? = none)
    (h : s.check c = (.ok s', c')) : s'.events = s.events := by
  rw [Statement.check_leaf hs h]

mutual

/-- **A check that succeeds loses nothing, and changes nothing but labels.** -/
theorem Statement.check_events : ∀ (s : Statement) {s' : Statement} {c c' : Checker},
    s.check c = (.ok s', c') → s'.events = s.events
  | .declareHandler action conditions body => by
    intro h
    obtain ⟨t, u, body', v, _, _, hchecked, rfl, rfl⟩ := Statement.check_declareHandler_ok.1 h
    rw [Statement.events, Statement.events, Statement.check_events body hchecked]
  | .block ⟨body, label, view⟩ => by
    intro h
    obtain ⟨b, hb, rfl⟩ := Statement.check_block_ok.1 h
    obtain ⟨scope, body', t, _, hchecked, rfl, rfl⟩ := Block.check_ok.1 hb
    rw [Statement.events, Statement.events, Statement.checkAll_events body hchecked]
  | .loop label body => by
    intro h
    obtain ⟨scope, body', t, _, hchecked, rfl, rfl⟩ := Statement.check_loop_ok.1 h
    rw [Statement.events, Statement.events, Statement.checkAll_events body hchecked]
  | .whileLoop label test body => by
    intro h
    obtain ⟨_, scope, body', t, _, hchecked, rfl, rfl⟩ := Statement.check_whileLoop_ok.1 h
    rw [Statement.events, Statement.events, Statement.checkAll_events body hchecked]
  | .repeatLoop label test body => by
    intro h
    obtain ⟨scope, body', t, _, hchecked, _, rfl, rfl⟩ := Statement.check_repeatLoop_ok.1 h
    rw [Statement.events, Statement.events, Statement.checkAll_events body hchecked]
  | .ifElse branches otherwise => by
    intro h
    obtain ⟨branches', outcomes, t, otherwise', outcome, u, hbranches, helse, rfl, rfl⟩ :=
      Statement.check_ifElse_ok.1 h
    rw [Statement.events, Statement.events, IfBranch.checkAll_events branches hbranches,
      Statement.checkElse_events otherwise helse]
  | .cases operand whens otherwise => by
    intro h
    obtain ⟨_, whens', outcomes, t, otherwise', outcome, u, hwhens, helse, rfl, rfl⟩ :=
      Statement.check_cases_ok.1 h
    rw [Statement.events, Statement.events, CaseWhen.checkAll_events whens hwhens,
      Statement.checkElse_events otherwise helse]
  | .foreign _ => Statement.leaf_events rfl
  | .delimiter _ => Statement.leaf_events rfl
  | .empty => Statement.leaf_events rfl
  | .declareVariables _ _ _ => Statement.leaf_events rfl
  | .declareCondition _ _ => Statement.leaf_events rfl
  | .declareCursor _ _ => Statement.leaf_events rfl
  | .iterate _ => Statement.leaf_events rfl
  | .leave _ => Statement.leaf_events rfl
  | .openCursor _ => Statement.leaf_events rfl
  | .fetch _ _ => Statement.leaf_events rfl
  | .closeCursor _ => Statement.leaf_events rfl
  | .select _ => Statement.leaf_events rfl
  | .insert _ => Statement.leaf_events rfl
  | .set _ => Statement.leaf_events rfl
  | .call _ _ => Statement.leaf_events rfl
  | .signal _ _ _ => Statement.leaf_events rfl
  | .raw _ => Statement.leaf_events rfl

theorem Statement.checkAll_events : ∀ (ss : List Statement) {ss' : List Statement}
    {c c' : Checker}, Statement.checkAll ss c = (.ok ss', c') →
    Statement.allEvents ss' = Statement.allEvents ss
  | [] => by
    intro h
    cases h
    rfl
  | s :: ss => by
    intro h
    obtain ⟨s', t, rest, hs, hrest, rfl⟩ := Statement.checkAll_cons_ok.1 h
    rw [Statement.allEvents, Statement.allEvents, Statement.check_events s hs,
      Statement.checkAll_events ss hrest]

theorem Statement.checkElse_events : ∀ (otherwise : Option (List Statement))
    {otherwise' : Option (List Statement)} {before outcome : List CursorState} {c c' : Checker},
    Statement.checkElse before otherwise c = (.ok (otherwise', outcome), c') →
    Statement.elseEvents otherwise' = Statement.elseEvents otherwise
  | none => by
    intro h
    cases h
    rfl
  | some body => by
    intro h
    obtain ⟨body', t, hchecked, _, he⟩ := Statement.checkElse_some_ok.1 h
    cases he
    rw [Statement.elseEvents, Statement.elseEvents, Statement.checkAll_events body hchecked]

theorem IfBranch.checkAll_events : ∀ (branches : List IfBranch) {branches' : List IfBranch}
    {before : List CursorState} {outcomes : List (List CursorState)} {c c' : Checker},
    IfBranch.checkAll before branches c = (.ok (branches', outcomes), c') →
    IfBranch.events branches' = IfBranch.events branches
  | [] => by
    intro h
    cases h
    rfl
  | ⟨test, body⟩ :: rest => by
    intro h
    obtain ⟨_, body', t, rest', outcomes', hchecked, hrest, he⟩ := IfBranch.checkAll_cons_ok.1 h
    cases he
    rw [IfBranch.events, IfBranch.events, Statement.checkAll_events body hchecked,
      IfBranch.checkAll_events rest hrest]

theorem CaseWhen.checkAll_events : ∀ (whens : List CaseWhen) {whens' : List CaseWhen}
    {before : List CursorState} {outcomes : List (List CursorState)} {c c' : Checker},
    CaseWhen.checkAll before whens c = (.ok (whens', outcomes), c') →
    CaseWhen.events whens' = CaseWhen.events whens
  | [] => by
    intro h
    cases h
    rfl
  | ⟨test, body⟩ :: rest => by
    intro h
    obtain ⟨_, body', t, rest', outcomes', hchecked, hrest, he⟩ := CaseWhen.checkAll_cons_ok.1 h
    cases he
    rw [CaseWhen.events, CaseWhen.events, Statement.checkAll_events body hchecked,
      CaseWhen.checkAll_events rest hrest]

end

end StoredSql
