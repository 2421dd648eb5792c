import StoredSql.Proofs.BuilderSteps
import StoredSql.Proofs.MadeStatements

/-!
# Statements as calls

A statement can be given to a builder as it is, or be put together again from calls that open its
constructs, add what is in them and close them (`Statement.calls`). The calls follow the check of the
statement (`Builder.Follows`) where they fail where it fails, with the same error, and leave what it
leaves where it succeeds. Here this is shown for statements that are given as they are, for lists, and
for the constructs with one body.
-/

namespace StoredSql

open Check Stepwise

/-! ## The calls for a statement -/

/-- A label as a call takes it. -/
def Operand.ofLabel : Option String → Operand
  | none => .value .null
  | some label => .text label

/-- An expression as a call takes it, if there is one. -/
def Operand.ofExpr? : Option Expr → Operand
  | none => .value .null
  | some e => .expr e

mutual

/-- The calls that put a statement together, construct by construct. A handler has calls of its own
where it does a block without a label. -/
def Statement.calls : Statement → List Call
  | .declareHandler action conditions (.block ⟨body, none, _⟩) =>
    .openHandler (.text (Keyword.word action)) conditions ::
      (Statement.callsOfAll body ++ [.endHandler])
  | .block ⟨body, label, _⟩ => .openBlock (.ofLabel label) ::
      (Statement.callsOfAll body ++ [.endBlock])
  | .ifElse branches otherwise =>
    IfBranch.calls .openIf branches ++ (Statement.elseCalls otherwise ++ [.endIf])
  | .cases operand whens otherwise => .openCase (.ofExpr? operand) ::
      (CaseWhen.calls whens ++ (Statement.elseCalls otherwise ++ [.endCase]))
  | .loop label body => .openLoop (.ofLabel label) :: (Statement.callsOfAll body ++ [.endLoop])
  | .whileLoop label test body => .openWhile test.operand (.ofLabel label) ::
      (Statement.callsOfAll body ++ [.endWhile])
  | .repeatLoop label test body => .openRepeat (.ofLabel label) ::
      (Statement.callsOfAll body ++ [.endRepeat test.operand])
  | s => [.statements [s]]

def Statement.callsOfAll : List Statement → List Call
  | [] => []
  | s :: ss => s.calls ++ Statement.callsOfAll ss

def Statement.elseCalls : Option (List Statement) → List Call
  | none => []
  | some body => .otherwise :: Statement.callsOfAll body

/-- The calls for branches; the first of them is opened in another way than those after it. -/
def IfBranch.calls : (Operand → Call) → List IfBranch → List Call
  | _, [] => []
  | opens, ⟨test, body⟩ :: rest =>
    opens test.operand :: (Statement.callsOfAll body ++ IfBranch.calls .elseIf rest)

def CaseWhen.calls : List CaseWhen → List Call
  | [] => []
  | ⟨test, body⟩ :: rest =>
    .openWhen (.expr test) :: (Statement.callsOfAll body ++ CaseWhen.calls rest)

end

/-! ## Opening what is there already -/

namespace Construct

variable {c c' : Checker} {e : Error} {label : Option String} {scope : Scope}

/-- A label that a scope cannot have is no label, or it is one that is taken. -/
theorem checkLabel_of_child {n : Nesting} {kind : ScopeKind} {r : Except Error Scope}
    (h : n.child kind label = r) : label.mapM Identifier.checkLabel = .ok label ∨
      ∃ e, label.mapM Identifier.checkLabel = .error e ∧ r = .error e := by
  subst h
  cases label with
  | none => exact .inl rfl
  | some l =>
    rw [Option.mapM_some, Nesting.child]
    cases hl : Identifier.checkLabel l with
    | error e => exact .inr ⟨e, rfl, rfl⟩
    | ok l' =>
      rw [(Identifier.checkLabel_eq_ok_iff.1 hl).1]
      exact .inl rfl

theorem made_ofLabel (label : Option String) :
    (Operand.ofLabel label).ifAny.mapM (·.toLabel) = label.mapM Identifier.checkLabel := by
  cases label <;> rfl

theorem ofBlock_ok (h : c.noted.nesting.child .block label = .ok scope) :
    ofBlock (.ofLabel label) c =
      (.ok (.block label (c.noted.entered scope).nesting.view), c.noted.entered scope) := by
  rcases checkLabel_of_child h with hl | ⟨_, _, he⟩
  · exact ofBlock_eq_ok.2 ⟨label, scope, (made_ofLabel label).trans hl, h, rfl, rfl⟩
  · cases he

theorem ofBlock_error (h : c.noted.nesting.child .block label = .error e) :
    ofBlock (.ofLabel label) c = (.error e, c.noted) := by
  refine ofBlock_eq_error.2 ⟨?_, rfl⟩
  rw [made_ofLabel]
  rcases checkLabel_of_child h with hl | ⟨_, hl, he⟩
  · exact .inr ⟨label, hl, h⟩
  · cases he
    exact .inl hl

theorem nonEmpty_nonEmpty (label : Option String) :
    Text.nonEmpty (Text.nonEmpty label) = Text.nonEmpty label := by
  cases label with
  | none => rfl
  | some l =>
    rw [Text.nonEmpty_some]
    by_cases hl : l = ""
    · rw [if_pos hl]
      rfl
    · rw [if_neg hl, Text.nonEmpty_some, if_neg hl]

theorem labelled_nonEmpty (label : Option String) (c : Checker) :
    c.labelled (Text.nonEmpty label) = c.labelled label := by
  unfold Checker.labelled
  rw [nonEmpty_nonEmpty]

theorem givenLabel_ofLabel (label : Option String) :
    givenLabel (.ofLabel label) = (Text.nonEmpty label).mapM Identifier.checkLabel := by
  cases label with
  | none => rfl
  | some l =>
    rw [Text.nonEmpty_some]
    by_cases hl : l = ""
    · rw [if_pos hl]
      subst hl
      rfl
    · have hempty : (Operand.ofLabel (some l)).outline.isFalsy = false := by
        show l.isEmpty = false
        simp [hl]
      unfold givenLabel
      rw [if_neg hl, hempty]
      rfl

/-- The label that a loop is given is one, or it fails where the loop has no scope. -/
theorem givenLabel_of_child {r : Except Error Scope}
    (h : (c.noted.labelled label).2.nesting.child .loop (some (c.noted.labelled label).1) = r) :
    givenLabel (.ofLabel label) = .ok (Text.nonEmpty label) ∨
      ∃ e, givenLabel (.ofLabel label) = .error e ∧ r = .error e := by
  rw [givenLabel_ofLabel]
  cases hl : Text.nonEmpty label with
  | none => exact .inl rfl
  | some l =>
    rw [Checker.labelled_of_nonEmpty hl] at h
    exact checkLabel_of_child h

theorem ofLoop_ok (k : String → Construct)
    (h : (c.noted.labelled label).2.nesting.child .loop (some (c.noted.labelled label).1) =
      .ok scope) :
    ofLoop (.ofLabel label) k c =
      (.ok (k (c.noted.labelled label).1), (c.noted.labelled label).2.entered scope) := by
  rcases givenLabel_of_child h with hgiven | ⟨_, _, he⟩
  · rw [← labelled_nonEmpty] at h ⊢
    exact ofLoop_eq_ok.2 ⟨_, scope, hgiven, h, rfl, rfl⟩
  · cases he

theorem ofLoop_error (k : String → Construct)
    (h : (c.noted.labelled label).2.nesting.child .loop (some (c.noted.labelled label).1) =
      .error e) :
    ∃ c', ofLoop (.ofLabel label) k c = (.error e, c') := by
  rcases givenLabel_of_child h with hgiven | ⟨_, hgiven, he⟩
  · rw [← labelled_nonEmpty] at h
    exact ⟨_, ofLoop_eq_error.2 (.inr ⟨_, hgiven, h, rfl⟩)⟩
  · cases he
    exact ⟨_, ofLoop_eq_error.2 (.inl ⟨hgiven, rfl⟩)⟩

/-- Within a handler there is no declaration that a statement could end. -/
theorem noted_handling (c : Checker) : c.handling.noted = c.handling := rfl

theorem ofIf_apply {test : Operand} {r : Except Error Unit}
    (htest : c.nesting.resolveAll test.variableNames = r) :
    ofIf test c = match r with
      | .ok () => (.ok (.ifElse { arms := { before := c.noted.nesting.states }, test }),
        c.noted.branched c.noted.nesting.states)
      | .error e => (.error e, c.noted) := by
  rw [← c.resolveAll_noted] at htest
  cases r with
  | error e => exact ofIf_eq_error.2 ⟨htest, rfl⟩
  | ok u => exact ofIf_eq_ok.2 ⟨htest, rfl, rfl⟩

theorem ofCase_apply {operand : Operand} {r : Except Error Unit}
    (hoperand : c.noted.nesting.resolveAll operand.variableNames = r) :
    ofCase operand c = match r with
      | .ok () => (.ok (.cases { arms := { before := c.noted.nesting.states }, operand }), c.noted)
      | .error e => (.error e, c.noted) := by
  cases r with
  | error e => exact ofCase_eq_error.2 ⟨hoperand, rfl⟩
  | ok u => exact ofCase_eq_ok.2 ⟨hoperand, rfl, rfl⟩

end Construct

/-! ## Calls that follow a check -/

open Statement in
/-- Whether calls to a builder do what a check of statements does: where it succeeds, they leave its
checker and its statements, apart from the views of blocks, and where it fails, they fail with its
error. -/
structure Builder.Follows (b : Builder) (calls : List Call) (check : Check (List Statement)) :
    Prop where
  ok : ∀ ss c, check b.checker = (.ok ss, c) →
    ∃ ss' n o, allWithoutViews ss' = allWithoutViews ss ∧
      b.runAll calls = (.ok (), b.adding c ss' n o)
  error : ∀ e c, check b.checker = (.error e, c) → ∃ b', b.runAll calls = (.error e, b')

namespace Statement

/-- Whether the calls for a statement do what its check does, wherever a statement may come. -/
def Unfolds (s : Statement) : Prop :=
  ∀ b : Builder, b.consumed = false → b.takesStatements = true →
    b.Follows s.calls (checkAll [s])

/-- Whether the calls for statements do what the check of all of them does. -/
def AllUnfold (ss : List Statement) : Prop :=
  ∀ b : Builder, b.consumed = false → b.takesStatements = true →
    b.Follows (callsOfAll ss) (checkAll ss)

variable {c c' : Checker} {e : Error}

/-- A statement that is given to the builder as it is. -/
theorem unfolds_of_calls {s : Statement} (h : s.calls = [.statements [s]]) : s.Unfolds := by
  intro b hl ht
  constructor
  · intro ss c hc
    obtain ⟨s', hs, rfl⟩ := checkAll_singleton_ok.1 hc
    refine ⟨[s'], b.serials, none, rfl, ?_⟩
    rw [h, Builder.runAll_cons_ok (Builder.perform_statement (Builder.add_ok hl ht hs))]
    rfl
  · intro e c hc
    have hs := checkAll_singleton_error.1 hc
    rw [h]
    exact ⟨_, Builder.runAll_cons_error
      (Builder.perform_statement (Builder.add_error hl ht hs)) _⟩

theorem allUnfold_nil : AllUnfold [] := by
  intro b _ _
  constructor
  · intro ss c hc
    cases hc
    refine ⟨[], b.serials, b.opened, rfl, ?_⟩
    simp [callsOfAll, Builder.runAll, Builder.adding]
  · intro e c hc
    cases hc

theorem allUnfold_cons {s : Statement} {ss : List Statement} (hs : s.Unfolds)
    (hss : AllUnfold ss) : AllUnfold (s :: ss) := by
  intro b hl ht
  constructor
  · intro ts c hc
    obtain ⟨s', t, rest, hcs, hcss, rfl⟩ := checkAll_cons_ok.1 hc
    obtain ⟨us, n, o, hus, hrun⟩ := (hs b hl ht).ok [s'] t (checkAll_singleton_ok.2 ⟨s', hcs, rfl⟩)
    obtain ⟨vs, n', o', hvs, hrun'⟩ := (hss (b.adding t us n o) hl ht).ok rest c hcss
    refine ⟨us ++ vs, n', o', ?_, ?_⟩
    · rw [allWithoutViews_append, hus, hvs]
      rfl
    · rw [callsOfAll, Builder.runAll_append_ok hrun, hrun', Builder.adding_adding]
  · intro e c hc
    rw [callsOfAll]
    rcases checkAll_cons_error.1 hc with hcs | ⟨s', t, hcs, hcss⟩
    · obtain ⟨b', hrun⟩ := (hs b hl ht).error e c (checkAll_singleton_error.2 hcs)
      exact ⟨b', Builder.runAll_append_error hrun _⟩
    · obtain ⟨us, n, o, _, hrun⟩ := (hs b hl ht).ok [s'] t (checkAll_singleton_ok.2 ⟨s', hcs, rfl⟩)
      obtain ⟨b', hrun'⟩ := (hss (b.adding t us n o) hl ht).error e c hcss
      exact ⟨b', by rw [Builder.runAll_append_ok hrun, hrun']⟩

/-! ### The body of a construct -/

variable {b : Builder} {body body' : List Statement} {k : Construct} {n : Nat}
  {o : Option FrameMark}

/-- The calls for the body of an open construct. -/
theorem AllUnfold.inside_ok (h : AllUnfold body) (hl : b.consumed = false)
    (ht : (b.inside c k [] n o).takesStatements = true)
    (hc : checkAll body c = (.ok body', c')) (calls : List Call) :
    ∃ ss n' o', allWithoutViews ss = allWithoutViews body' ∧
      (b.inside c k [] n o).runAll (callsOfAll body ++ calls) =
        (b.inside c' k ss n' o').runAll calls := by
  obtain ⟨ss, n', o', hss, hrun⟩ := (h (b.inside c k [] n o) hl ht).ok body' c' hc
  exact ⟨ss, n', o', hss, Builder.runAll_append_ok hrun calls⟩

theorem AllUnfold.inside_error (h : AllUnfold body) (hl : b.consumed = false)
    (ht : (b.inside c k [] n o).takesStatements = true)
    (hc : checkAll body c = (.error e, c')) (calls : List Call) :
    ∃ b', (b.inside c k [] n o).runAll (callsOfAll body ++ calls) = (.error e, b') := by
  obtain ⟨b', hrun⟩ := (h (b.inside c k [] n o) hl ht).error e c' hc
  exact ⟨b', Builder.runAll_append_error hrun calls⟩

/-- What the calls for a body leave has something to execute if the body has. -/
theorem all_isEmpty_of_check {ss : List Statement} (hc : checkAll body c = (.ok body', c'))
    (hss : allWithoutViews ss = allWithoutViews body') (hne : body.all isEmpty = false) :
    ss.all isEmpty = false := by
  rw [← all_isEmpty_allWithoutViews, hss, all_isEmpty_allWithoutViews, all_isEmpty_checkAll hc, hne]

/-! ### Constructs with one body -/

theorem construct_ok {opening closing : Call} {s : Statement} {t : Checker}
    (hopen : b.perform opening = (.ok (), b.inside c k [] n o)) (hl : b.consumed = false)
    (ht : (b.inside c k [] n o).takesStatements = true) (h : AllUnfold body)
    (hbody : checkAll body c = (.ok body', t))
    (hclose : ∀ ss n o, allWithoutViews ss = allWithoutViews body' →
      ∃ s', s'.withoutViews = s.withoutViews ∧
        (b.inside t k ss n o).perform closing = (.ok (), b.adding c' [s'] n o)) :
    ∃ ss n o, allWithoutViews ss = allWithoutViews [s] ∧
      b.runAll (opening :: (callsOfAll body ++ [closing])) = (.ok (), b.adding c' ss n o) := by
  obtain ⟨ts, n', o', hts, hrun⟩ := h.inside_ok hl ht hbody [closing]
  obtain ⟨s', hs', hclosed⟩ := hclose ts n' o' hts
  refine ⟨[s'], n', o', ?_, ?_⟩
  · rw [allWithoutViews, allWithoutViews, hs']
    rfl
  · rw [Builder.runAll_cons_ok hopen, hrun, Builder.runAll_cons_ok hclosed]
    rfl

theorem construct_error {opening : Call} {t : Checker}
    (hopen : b.perform opening = (.ok (), b.inside c k [] n o)) (hl : b.consumed = false)
    (ht : (b.inside c k [] n o).takesStatements = true) (h : AllUnfold body)
    (hbody : checkAll body c = (.error e, t)) (calls : List Call) :
    ∃ b', b.runAll (opening :: (callsOfAll body ++ calls)) = (.error e, b') := by
  obtain ⟨b', hrun⟩ := h.inside_error hl ht hbody calls
  exact ⟨b', by rw [Builder.runAll_cons_ok hopen, hrun]⟩

theorem unfolds_block {label : Option String} {view : Option ScopeView} (h : AllUnfold body) :
    (block ⟨body, label, view⟩).Unfolds := by
  intro b hl ht
  have hopen : ∀ scope, b.checker.noted.nesting.child .block label = .ok scope →
      b.perform (.openBlock (.ofLabel label)) = (.ok (), _) := fun scope hscope =>
    Builder.opens_ok hl ht (Construct.ofBlock_ok hscope)
  constructor
  · intro ss c hc
    obtain ⟨s, hs, rfl⟩ := checkAll_singleton_ok.1 hc
    obtain ⟨_, hb, rfl⟩ := check_block_ok.1 hs
    obtain ⟨scope, body', t, hscope, hbody, rfl, rfl⟩ := Block.check_ok.1 hb
    refine construct_ok (hopen scope hscope) hl rfl h hbody fun ts n o hts => ?_
    refine ⟨.block ⟨ts, label, _⟩, ?_, Builder.closes_ok hl rfl rfl⟩
    simp only [withoutViews, hts]
  · intro e c hc
    have hb := check_block_error (checkAll_singleton_error.1 hc)
    rw [calls]
    rcases Block.check_error hb with hscope | ⟨scope, t, hscope, hbody⟩
    · have hfail : b.perform (.openBlock (.ofLabel label)) = (.error e, _) :=
        Builder.opens_error hl ht (Construct.ofBlock_error hscope)
      exact ⟨_, Builder.runAll_cons_error hfail _⟩
    · exact construct_error (hopen scope hscope) hl rfl h hbody _

theorem openHandler_eq {action : HandlerAction} {conditions : List ConditionValue}
    (hl : b.consumed = false) (hundo : action ≠ .undo) (hne : conditions.isEmpty = false) :
    b.perform (.openHandler (.text (Keyword.word action)) conditions) =
      Builder.opens (Construct.ofHandler action conditions) b := by
  have hmake : makeDeclareHandler (.text (Keyword.word action)) conditions
      (.block ⟨[], none, none⟩) =
      .ok (.declareHandler action conditions (.block ⟨[], none, none⟩)) := by
    have hmember : (Outline.text (Keyword.word action)).toMember = .ok action := by
      cases action <;> rfl
    unfold makeDeclareHandler
    rw [hmember]
    simp only [bind, Except.bind, hundo, hne, if_false, Bool.false_eq_true]
    rfl
  show Builder.openHandler _ _ b = _
  unfold Builder.openHandler
  rw [bind_of_ok (Builder.live_apply hl), hmake]
  rfl

theorem unfolds_handler {action : HandlerAction} {conditions : List ConditionValue}
    {view : Option ScopeView} (hundo : action ≠ .undo) (hne : conditions.isEmpty = false)
    (h : AllUnfold body) : (declareHandler action conditions (.block ⟨body, none, view⟩)).Unfolds := by
  intro b hl ht
  have hopen : ∀ t u, declare (·.declareHandler) b.checker = (.ok (), t) →
      resolveConditions conditions t = (.ok (), u) →
      b.perform (.openHandler (.text (Keyword.word action)) conditions) = (.ok (), _) :=
    fun t u ht' hu => (openHandler_eq hl hundo hne).trans
      (Builder.opens_ok hl ht (Construct.ofHandler_eq_ok.2 ⟨_, _, ht', hu, rfl, rfl⟩))
  constructor
  · intro ss c hc
    obtain ⟨s, hs, rfl⟩ := checkAll_singleton_ok.1 hc
    obtain ⟨t, u, _, _, ht', hu, hact, rfl, rfl⟩ := check_declareHandler_ok.1 hs
    obtain ⟨_, hb, rfl⟩ := check_block_ok.1 hact
    rw [Construct.noted_handling] at hb
    obtain ⟨scope, body', v, hscope, hbody, rfl, rfl⟩ := Block.check_ok.1 hb
    cases hscope
    refine construct_ok (hopen t u ht' hu) hl rfl h hbody fun ts n o hts => ?_
    refine ⟨.declareHandler action conditions (.block ⟨ts, none, _⟩), ?_,
      Builder.closes_ok hl rfl rfl⟩
    simp only [withoutViews, hts]
  · intro e c hc
    rw [calls]
    rcases check_declareHandler_error (checkAll_singleton_error.1 hc) with
      he | ⟨t, ht', he | ⟨u, v, hu, hact, _⟩⟩
    · have hfail := (openHandler_eq hl hundo hne).trans
        (Builder.opens_error hl ht (Construct.ofHandler_eq_error.2 (.inl he)))
      exact ⟨_, Builder.runAll_cons_error hfail _⟩
    · have hfail := (openHandler_eq hl hundo hne).trans
        (Builder.opens_error hl ht (Construct.ofHandler_eq_error.2 (.inr ⟨t, ht', he⟩)))
      exact ⟨_, Builder.runAll_cons_error hfail _⟩
    · have hb := check_block_error hact
      rw [Construct.noted_handling] at hb
      rcases Block.check_error hb with hscope | ⟨scope, w, hscope, hbody⟩
      · cases hscope
      · cases hscope
        exact construct_error (hopen t u ht' hu) hl rfl h hbody _

/-! ### Loops -/

theorem unfolds_loop {label : Option String} (hne : body.all isEmpty = false)
    (h : AllUnfold body) : (loop label body).Unfolds := by
  intro b hl ht
  have hopen : ∀ scope, (b.checker.noted.labelled label).2.nesting.child .loop
      (some (b.checker.noted.labelled label).1) = .ok scope →
      b.perform (.openLoop (.ofLabel label)) = (.ok (), _) := fun scope hscope =>
    Builder.opens_ok hl ht (Construct.ofLoop_ok .loop hscope)
  constructor
  · intro ss c hc
    obtain ⟨s, hs, rfl⟩ := checkAll_singleton_ok.1 hc
    obtain ⟨scope, body', t, hscope, hbody, rfl, rfl⟩ := check_loop_ok.1 hs
    refine construct_ok (hopen scope hscope) hl rfl h hbody fun ts n o hts => ?_
    have hmake : makeLoop (some (b.checker.noted.labelled label).1) ts =
        .ok (.loop (some (b.checker.noted.labelled label).1) ts) := by
      rw [makeLoop, checkBody_ok "LOOP" (all_isEmpty_of_check hbody hts hne)]
      rfl
    refine ⟨.loop (some (b.checker.noted.labelled label).1) ts, ?_,
      Builder.closes_ok hl rfl (made_eq.2 ⟨hmake, rfl⟩)⟩
    simp only [withoutViews, hts]
  · intro e c hc
    rw [calls]
    rcases check_loop_error (checkAll_singleton_error.1 hc) with hscope | ⟨scope, t, hscope, hbody⟩
    · obtain ⟨_, he⟩ := Construct.ofLoop_error .loop hscope
      have hfail : b.perform (.openLoop (.ofLabel label)) = (.error e, _) :=
        Builder.opens_error hl ht he
      exact ⟨_, Builder.runAll_cons_error hfail _⟩
    · exact construct_error (hopen scope hscope) hl rfl h hbody _

theorem unfolds_whileLoop {label : Option String} {test : Condition}
    (hne : body.all isEmpty = false) (h : AllUnfold body) : (whileLoop label test body).Unfolds := by
  intro b hl ht
  have hresolve : ∀ r, (b.checker.noted.labelled label).2.nesting.resolveAll
      test.outline.variableNames = r →
      resolveAll test.operand.variableNames b.checker = (r, b.checker) := fun r hr => by
    rw [Checker.labelled_nesting, Checker.resolveAll_noted] at hr
    exact resolveAll_eq.2 ⟨hr, rfl⟩
  have hopen : ∀ scope, (b.checker.noted.labelled label).2.nesting.resolveAll
      test.outline.variableNames = .ok () →
      (b.checker.noted.labelled label).2.nesting.child .loop
        (some (b.checker.noted.labelled label).1) = .ok scope →
      b.perform (.openWhile test.operand (.ofLabel label)) = (.ok (), _) :=
    fun scope htest hscope => Builder.opens_ok hl ht ((bind_of_ok (hresolve _ htest)).trans
      (Construct.ofLoop_ok (.whileLoop · test.operand) hscope))
  constructor
  · intro ss c hc
    obtain ⟨s, hs, rfl⟩ := checkAll_singleton_ok.1 hc
    obtain ⟨htest, scope, body', t, hscope, hbody, rfl, rfl⟩ := check_whileLoop_ok.1 hs
    refine construct_ok (hopen scope htest hscope) hl rfl h hbody fun ts n o hts => ?_
    have hmake : makeWhile (some (b.checker.noted.labelled label).1) test.operand ts =
        .ok (.whileLoop (some (b.checker.noted.labelled label).1) test ts) := by
      show (checkBody "WHILE" ts >>= fun _ => _) = _
      rw [checkBody_ok "WHILE" (all_isEmpty_of_check hbody hts hne)]
      rfl
    refine ⟨.whileLoop (some (b.checker.noted.labelled label).1) test ts, ?_,
      Builder.closes_ok hl rfl (made_eq.2 ⟨hmake, rfl⟩)⟩
    simp only [withoutViews, hts]
  · intro e c hc
    rw [calls]
    rcases check_whileLoop_error (checkAll_singleton_error.1 hc) with
      htest | ⟨htest, hscope | ⟨scope, t, hscope, hbody⟩⟩
    · have hfail : b.perform (.openWhile test.operand (.ofLabel label)) = (.error e, _) :=
        Builder.opens_error hl ht (bind_of_error (hresolve _ htest))
      exact ⟨_, Builder.runAll_cons_error hfail _⟩
    · obtain ⟨_, he⟩ := Construct.ofLoop_error (.whileLoop · test.operand) hscope
      have hfail : b.perform (.openWhile test.operand (.ofLabel label)) = (.error e, _) :=
        Builder.opens_error hl ht ((bind_of_ok (hresolve _ htest)).trans he)
      exact ⟨_, Builder.runAll_cons_error hfail _⟩
    · exact construct_error (hopen scope htest hscope) hl rfl h hbody _

theorem unfolds_repeatLoop {label : Option String} {test : Condition}
    (hne : body.all isEmpty = false) (h : AllUnfold body) :
    (repeatLoop label test body).Unfolds := by
  intro b hl ht
  have hopen : ∀ scope, (b.checker.noted.labelled label).2.nesting.child .loop
      (some (b.checker.noted.labelled label).1) = .ok scope →
      b.perform (.openRepeat (.ofLabel label)) = (.ok (), _) := fun scope hscope =>
    Builder.opens_ok hl ht (Construct.ofLoop_ok .repeatLoop hscope)
  constructor
  · intro ss c hc
    obtain ⟨s, hs, rfl⟩ := checkAll_singleton_ok.1 hc
    obtain ⟨scope, body', t, hscope, hbody, htest, rfl, rfl⟩ := check_repeatLoop_ok.1 hs
    refine construct_ok (hopen scope hscope) hl rfl h hbody fun ts n o hts => ?_
    have hmake : makeRepeat (some (b.checker.noted.labelled label).1) test.operand ts =
        .ok (.repeatLoop (some (b.checker.noted.labelled label).1) test ts) := by
      show (checkBody "REPEAT" ts >>= fun _ => _) = _
      rw [checkBody_ok "REPEAT" (all_isEmpty_of_check hbody hts hne)]
      rfl
    refine ⟨.repeatLoop (some (b.checker.noted.labelled label).1) test ts, ?_,
      Builder.endRepeat_ok hl htest hmake⟩
    simp only [withoutViews, hts]
  · intro e c hc
    rw [calls]
    rcases check_repeatLoop_error (checkAll_singleton_error.1 hc) with
      hscope | ⟨scope, t, hscope, hbody | ⟨body', hbody, htest⟩⟩
    · obtain ⟨_, he⟩ := Construct.ofLoop_error .repeatLoop hscope
      have hfail : b.perform (.openRepeat (.ofLabel label)) = (.error e, _) :=
        Builder.opens_error hl ht he
      exact ⟨_, Builder.runAll_cons_error hfail _⟩
    · exact construct_error (hopen scope hscope) hl rfl h hbody _
    · obtain ⟨ts, n, o, hts, hrun⟩ := h.inside_ok hl (k := .repeatLoop _) rfl hbody
        [.endRepeat test.operand]
      have hfail : (b.inside t (.repeatLoop (b.checker.noted.labelled label).1) ts n o).perform
          (.endRepeat test.operand) = (.error e, _) := Builder.endRepeat_error hl htest
      exact ⟨_, by rw [Builder.runAll_cons_ok (hopen scope hscope), hrun,
        Builder.runAll_cons_error hfail]⟩

end Statement
end StoredSql
