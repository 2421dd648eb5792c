import StoredSql.Call
import StoredSql.Proofs.MadeStatements

/-!
# What the calls to a builder do

What a check that opens a construct has done, where it succeeds and where it fails (`ofBlock_eq_ok`,
`ofBlock_eq_error` and so on), and how an open branch is closed; later proofs take these apart by the
lemmas alone. Then one lemma for each call that opens a construct, goes on to its next branch or
closes it: what the builder is after a call that succeeds, by what the checks in it have done, and
that the call fails where one of them does. A builder with a construct on top of the innermost one of
`b` is `b.inside ..`; where statements have come to the innermost construct of `b`, it is
`b.adding ..`.
-/

namespace StoredSql

open Check Stepwise

/-! ## Opening -/

namespace Construct

variable {c c' : Checker} {e : Error} {k : Construct}

theorem ofBlock_eq_ok {label : Operand} : ofBlock label c = (.ok k, c') ↔ ∃ l scope,
    label.ifAny.mapM (·.toLabel) = .ok l ∧ c.noted.nesting.child .block l = .ok scope ∧
      .block l (c.noted.entered scope).nesting.view = k ∧ c.noted.entered scope = c' := by
  unfold ofBlock
  rw [noteStatement_bind]
  simp only [bind_ok, enter_bind, view_bind, made_eq, child_eq, pure_eq, Except.ok.injEq]
  constructor
  · rintro ⟨l, _, ⟨hl, rfl⟩, scope, _, ⟨hscope, rfl⟩, hk, hc⟩
    exact ⟨l, scope, hl, hscope, hk, hc⟩
  · rintro ⟨l, scope, hl, hscope, hk, hc⟩
    exact ⟨l, _, ⟨hl, rfl⟩, scope, _, ⟨hscope, rfl⟩, hk, hc⟩

theorem ofBlock_eq_error {label : Operand} : ofBlock label c = (.error e, c') ↔
    (label.ifAny.mapM (·.toLabel) = .error e ∨ ∃ l, label.ifAny.mapM (·.toLabel) = .ok l ∧
      c.noted.nesting.child .block l = .error e) ∧ c.noted = c' := by
  unfold ofBlock
  rw [noteStatement_bind]
  simp only [bind_error, enter_bind, view_bind, made_eq, child_eq, pure_eq, reduceCtorEq, false_and,
    and_false, exists_false, or_false]
  constructor
  · rintro (⟨hl, hc⟩ | ⟨l, _, ⟨hl, rfl⟩, hscope, hc⟩)
    · exact ⟨.inl hl, hc⟩
    · exact ⟨.inr ⟨l, hl, hscope⟩, hc⟩
  · rintro ⟨hl | ⟨l, hl, hscope⟩, hc⟩
    · exact .inl ⟨hl, hc⟩
    · exact .inr ⟨l, _, ⟨hl, rfl⟩, hscope, hc⟩

/-- The label that a loop is given, if there is one. -/
def givenLabel (label : Operand) : Except Error (Option String) :=
  (if label.outline.isFalsy then none else some label).mapM (·.toLabel)

theorem ofLoop_eq_ok {label : Operand} {construct : String → Construct} :
    ofLoop label construct c = (.ok k, c') ↔ ∃ given scope, givenLabel label = .ok given ∧
      (c.noted.labelled given).2.nesting.child .loop (some (c.noted.labelled given).1) =
        .ok scope ∧
      construct (c.noted.labelled given).1 = k ∧
      (c.noted.labelled given).2.entered scope = c' := by
  unfold ofLoop givenLabel
  rw [noteStatement_bind]
  simp only [bind_ok, enter_bind, labelOr_bind, made_eq, child_eq, pure_eq, Except.ok.injEq]
  constructor
  · rintro ⟨given, _, ⟨hgiven, rfl⟩, scope, _, ⟨hscope, rfl⟩, hk, hc⟩
    exact ⟨given, scope, hgiven, hscope, hk, hc⟩
  · rintro ⟨given, scope, hgiven, hscope, hk, hc⟩
    exact ⟨given, _, ⟨hgiven, rfl⟩, scope, _, ⟨hscope, rfl⟩, hk, hc⟩

/-- A loop that cannot be opened may have taken a label. -/
theorem ofLoop_eq_error {label : Operand} {construct : String → Construct} :
    ofLoop label construct c = (.error e, c') ↔
      givenLabel label = .error e ∧ c.noted = c' ∨ ∃ given, givenLabel label = .ok given ∧
        (c.noted.labelled given).2.nesting.child .loop (some (c.noted.labelled given).1) =
          .error e ∧ (c.noted.labelled given).2 = c' := by
  unfold ofLoop givenLabel
  rw [noteStatement_bind]
  simp only [bind_error, enter_bind, labelOr_bind, made_eq, child_eq, pure_eq, reduceCtorEq,
    false_and, and_false, exists_false, or_false]
  constructor
  · rintro (h | ⟨given, _, ⟨hgiven, rfl⟩, hscope, hc⟩)
    · exact .inl h
    · exact .inr ⟨given, hgiven, hscope, hc⟩
  · rintro (h | ⟨given, hgiven, hscope, hc⟩)
    · exact .inl h
    · exact .inr ⟨given, _, ⟨hgiven, rfl⟩, hscope, hc⟩

theorem ofIf_eq_ok {test : Operand} : ofIf test c = (.ok k, c') ↔
    c.noted.nesting.resolveAll test.variableNames = .ok () ∧
      .ifElse { arms := { before := c.noted.nesting.states }, test } = k ∧
      c.noted.branched c.noted.nesting.states = c' := by
  unfold ofIf
  rw [noteStatement_bind]
  simp only [bind_ok, resolveAll_eq, states_bind, enterBranch_bind, pure_eq, Except.ok.injEq]
  constructor
  · rintro ⟨_, _, ⟨htest, rfl⟩, hk, hc⟩
    exact ⟨htest, hk, hc⟩
  · rintro ⟨htest, hk, hc⟩
    exact ⟨(), _, ⟨htest, rfl⟩, hk, hc⟩

theorem ofIf_eq_error {test : Operand} : ofIf test c = (.error e, c') ↔
    c.noted.nesting.resolveAll test.variableNames = .error e ∧ c.noted = c' := by
  unfold ofIf
  rw [noteStatement_bind]
  simp only [bind_error, resolveAll_eq, states_bind, enterBranch_bind, pure_eq, reduceCtorEq,
    false_and, and_false, exists_false, or_false]

theorem ofCase_eq_ok {operand : Operand} : ofCase operand c = (.ok k, c') ↔
    c.noted.nesting.resolveAll operand.variableNames = .ok () ∧
      .cases { arms := { before := c.noted.nesting.states }, operand } = k ∧ c.noted = c' := by
  unfold ofCase
  rw [noteStatement_bind]
  simp only [bind_ok, resolveAll_eq, states_bind, pure_eq, Except.ok.injEq]
  constructor
  · rintro ⟨_, _, ⟨hoperand, rfl⟩, hk, hc⟩
    exact ⟨hoperand, hk, hc⟩
  · rintro ⟨hoperand, hk, hc⟩
    exact ⟨(), _, ⟨hoperand, rfl⟩, hk, hc⟩

theorem ofCase_eq_error {operand : Operand} : ofCase operand c = (.error e, c') ↔
    c.noted.nesting.resolveAll operand.variableNames = .error e ∧ c.noted = c' := by
  unfold ofCase
  rw [noteStatement_bind]
  simp only [bind_error, resolveAll_eq, states_bind, pure_eq, reduceCtorEq, false_and, and_false,
    exists_false, or_false]

theorem ofHandler_eq_ok {action : HandlerAction} {conditions : List ConditionValue} :
    ofHandler action conditions c = (.ok k, c') ↔ ∃ t u,
      declare (·.declareHandler) c = (.ok (), t) ∧ resolveConditions conditions t = (.ok (), u) ∧
        .handler action conditions u.nesting.states = k ∧
        u.handling.entered { kind := .block, rows := u.handling.nesting.inner.rows } = c' := by
  unfold ofHandler
  simp only [bind_ok, states_bind, child_none_bind, enter_bind, unknownStates_bind, pure_eq,
    Except.ok.injEq]
  constructor
  · rintro ⟨_, t, ht, _, u, hu, hk, hc⟩
    exact ⟨t, u, ht, hu, hk, hc⟩
  · rintro ⟨t, u, ht, hu, hk, hc⟩
    exact ⟨(), t, ht, (), u, hu, hk, hc⟩

theorem ofHandler_eq_error {action : HandlerAction} {conditions : List ConditionValue} :
    ofHandler action conditions c = (.error e, c') ↔
      declare (·.declareHandler) c = (.error e, c') ∨ ∃ t,
        declare (·.declareHandler) c = (.ok (), t) ∧
          resolveConditions conditions t = (.error e, c') := by
  unfold ofHandler
  simp only [bind_error, states_bind, child_none_bind, enter_bind, unknownStates_bind, pure_eq,
    reduceCtorEq, false_and, and_false, exists_false, or_false]
  constructor
  · rintro (h | ⟨_, t, ht, hu⟩)
    · exact .inl h
    · exact .inr ⟨t, ht, hu⟩
  · rintro (h | ⟨t, ht, hu⟩)
    · exact .inl h
    · exact .inr ⟨(), t, ht, hu⟩

end Construct

/-! ## Closing a branch -/

namespace Arms

variable {a : Arms}

theorem allOutcomes_of_inElse_false (h : a.inElse = false) :
    a.allOutcomes = a.outcomes ++ [a.before] :=
  if_neg (by rw [h]; exact Bool.false_ne_true)

theorem allOutcomes_close (h : a.inElse = false) (states : List CursorState) :
    (a.close states).allOutcomes = a.outcomes ++ [states] ++ [a.before] :=
  allOutcomes_of_inElse_false h

theorem allOutcomes_closeElse (h : a.inElse = true) (body : List Statement)
    (states : List CursorState) :
    (a.closeElse body states).allOutcomes = a.outcomes ++ [states] := if_pos h

end Arms

theorem OpenIf.close_else {part : OpenIf} {ss : List Statement} {states : List CursorState}
    (h : part.arms.inElse = true) :
    part.close ss states = .ok { part with arms := part.arms.closeElse ss states } := if_pos h

theorem OpenIf.close_eq_ok {part part' : OpenIf} {ss : List Statement} {states : List CursorState}
    (h : part.arms.inElse = false) : part.close ss states = .ok part' ↔
      ∃ test, part.test.condition? = some test ∧ ss.all Statement.isEmpty = false ∧
        part' = { part with
          branches := part.branches ++ [⟨test, ss⟩], arms := part.arms.close states } := by
  unfold OpenIf.close
  rw [h, if_neg Bool.false_ne_true]
  simp only [Outcome.bind_eq_ok, IfBranch.make_eq_ok, Outcome.pure_eq_ok]
  constructor
  · rintro ⟨_, ⟨test, htest, hne, rfl⟩, rfl⟩
    exact ⟨test, htest, hne, rfl⟩
  · rintro ⟨test, htest, hne, rfl⟩
    exact ⟨_, ⟨test, htest, hne, rfl⟩, rfl⟩

theorem OpenCase.close_else {part : OpenCase} {ss : List Statement} {states : List CursorState}
    (h : part.arms.inElse = true) :
    part.close ss states = .ok { part with arms := part.arms.closeElse ss states } := if_pos h

theorem OpenCase.close_none {part : OpenCase} {ss : List Statement} {states : List CursorState}
    (h : part.arms.inElse = false) (hnone : part.test = none) : part.close ss states = .ok part := by
  unfold OpenCase.close
  rw [h, if_neg Bool.false_ne_true, hnone]

theorem OpenCase.close_eq_ok {part part' : OpenCase} {ss : List Statement}
    {states : List CursorState} {test : Operand} (h : part.arms.inElse = false)
    (hsome : part.test = some test) : part.close ss states = .ok part' ↔
      ∃ value, test.toExpr = .ok value ∧ ss.all Statement.isEmpty = false ∧
        part' = { part with
          whens := part.whens ++ [⟨value, ss⟩], arms := part.arms.close states } := by
  unfold OpenCase.close
  rw [h, if_neg Bool.false_ne_true, hsome]
  simp only [Outcome.bind_eq_ok, CaseWhen.make_eq_ok, Outcome.pure_eq_ok]
  constructor
  · rintro ⟨_, ⟨value, hvalue, hne, rfl⟩, rfl⟩
    exact ⟨value, hvalue, hne, rfl⟩
  · rintro ⟨value, hvalue, hne, rfl⟩
    exact ⟨_, ⟨value, hvalue, hne, rfl⟩, rfl⟩

/-- A case that is closed keeps its test and where it is. -/
theorem OpenCase.close_keeps {part part' : OpenCase} {ss : List Statement}
    {states : List CursorState} (h : part.close ss states = .ok part') :
    part'.entered = part.entered ∧ part'.test = part.test := by
  cases helse : part.arms.inElse with
  | true =>
    rw [close_else helse] at h
    cases h
    exact ⟨rfl, rfl⟩
  | false =>
    cases htest : part.test with
    | none =>
      rw [close_none helse htest] at h
      cases h
      exact ⟨rfl, htest⟩
    | some test =>
      obtain ⟨_, _, _, rfl⟩ := (close_eq_ok helse htest).1 h
      exact ⟨rfl, htest⟩

theorem OpenCase.close_operand {part part' : OpenCase} {ss : List Statement}
    {states : List CursorState} (h : part.close ss states = .ok part') :
    part'.operand = part.operand := by
  cases helse : part.arms.inElse with
  | true =>
    rw [close_else helse] at h
    cases h
    rfl
  | false =>
    cases htest : part.test with
    | none =>
      rw [close_none helse htest] at h
      cases h
      rfl
    | some test =>
      obtain ⟨_, _, _, rfl⟩ := (close_eq_ok helse htest).1 h
      rfl

namespace Builder

/-- The builder with a construct on top, that holds the statements. -/
def inside (b : Builder) (c : Checker) (k : Construct) (ss : List Statement) (n : Nat)
    (o : Option FrameMark) : Builder :=
  { b with
    checker := c, inner := ⟨b.serials, k, ss⟩, outer := b.inner :: b.outer, serials := n,
    opened := o }

/-- The builder with more statements in its innermost construct. -/
def adding (b : Builder) (c : Checker) (ss : List Statement) (n : Nat) (o : Option FrameMark) :
    Builder :=
  { b with
    checker := c, inner := { b.inner with statements := b.inner.statements ++ ss }, serials := n,
    opened := o }

/-- The builder with another construct in the place of its innermost one. -/
def branching (b : Builder) (c : Checker) (k : Construct) (ss : List Statement) : Builder :=
  { b with checker := c, inner := { b.inner with construct := k, statements := ss } }

theorem adding_adding (b : Builder) (c c' : Checker) (ss ts : List Statement) (n n' : Nat)
    (o o' : Option FrameMark) :
    (b.adding c ss n o).adding c' ts n' o' = b.adding c' (ss ++ ts) n' o' := by
  simp [adding]

/-! ## Runs of calls -/

variable {b b' : Builder} {c c' : Checker} {e : Error}

theorem runAll_cons_ok {call : Call} (h : b.perform call = (.ok (), b')) (calls : List Call) :
    b.runAll (call :: calls) = b'.runAll calls := by
  rw [runAll, h]

theorem runAll_cons_error {call : Call} (h : b.perform call = (.error e, b'))
    (calls : List Call) : b.runAll (call :: calls) = (.error e, b') := by
  rw [runAll, h]

theorem runAll_append_ok {calls : List Call} (h : b.runAll calls = (.ok (), b'))
    (calls' : List Call) : b.runAll (calls ++ calls') = b'.runAll calls' := by
  induction calls generalizing b with
  | nil =>
    cases h
    rfl
  | cons call calls ih =>
    rw [runAll] at h
    rw [List.cons_append, runAll]
    rcases hp : b.perform call with ⟨_ | _, t⟩
    · rw [hp] at h
      cases h
    · rw [hp] at h
      exact ih h

theorem runAll_append_error {calls : List Call} (h : b.runAll calls = (.error e, b'))
    (calls' : List Call) : b.runAll (calls ++ calls') = (.error e, b') := by
  induction calls generalizing b with
  | nil => cases h
  | cons call calls ih =>
    rw [runAll] at h
    rw [List.cons_append, runAll]
    rcases hp : b.perform call with ⟨_ | _, t⟩
    · rw [hp] at h
      cases h
      rfl
    · rw [hp] at h
      exact ih h

/-! ## Steps -/

theorem live_apply (hl : b.consumed = false) : live b = (.ok (), b) := by
  unfold live
  rw [bind_of_ok (get_apply b), hl]
  rfl

theorem live_error (hl : b.consumed = true) : live b = (.error (.structural .consumed), b) := by
  unfold live
  rw [bind_of_ok (get_apply b), hl]
  rfl

theorem needScope_error (ht : b.takesStatements = false) :
    needScope b = (.error (.structural (.whenExpected b.inner.construct.describe)), b) := by
  unfold needScope
  rw [bind_of_ok (get_apply b), ht]
  rfl

theorem needScope_apply (ht : b.takesStatements = true) : needScope b = (.ok (), b) := by
  unfold needScope
  rw [bind_of_ok (get_apply b), ht]
  rfl

theorem checking_of {α : Type} {act : Check α} {r : Except Error α} (h : act b.checker = (r, c)) :
    checking act b = (r, { b with checker := c }) := by
  unfold checking
  rw [h]

/-! ## Statements -/

theorem add_eq {s : Statement} (hl : b.consumed = false) (ht : b.takesStatements = true) :
    add s b = (checking s.check >>= append) { b with opened := none } := by
  have ht' : ({ b with opened := none } : Builder).takesStatements = true := ht
  unfold add
  rw [bind_of_ok (live_apply hl), bind_of_ok (modify_apply _ b), bind_of_ok (needScope_apply ht')]

theorem add_ok {s s' : Statement} (hl : b.consumed = false) (ht : b.takesStatements = true)
    (h : s.check b.checker = (.ok s', c)) :
    add s b = (.ok (), b.adding c [s'] b.serials none) := by
  have hc : checking s.check { b with opened := none } =
      (.ok s', { b with opened := none, checker := c }) := checking_of h
  rw [add_eq hl ht, bind_of_ok hc]
  rfl

theorem add_error {s : Statement} (hl : b.consumed = false) (ht : b.takesStatements = true)
    (h : s.check b.checker = (.error e, c)) :
    add s b = (.error e, { b with opened := none, checker := c }) := by
  have hc : checking s.check { b with opened := none } =
      (.error e, { b with opened := none, checker := c }) := checking_of h
  rw [add_eq hl ht, bind_of_error hc]

theorem perform_statement {s : Statement} {r : Except Error Unit} (h : add s b = (r, b')) :
    b.perform (.statements [s]) = (r, b') := by
  show (add s >>= fun _ => pure ()) b = _
  rw [bind_apply, h]
  rcases r with _ | _ <;> rfl

/-! ## Opening a construct -/

theorem opens_ok {construct : Check Construct} {k : Construct} (hl : b.consumed = false)
    (ht : b.takesStatements = true) (h : construct b.checker = (.ok k, c)) :
    opens construct b =
      (.ok (), b.inside c k [] (b.serials + 1) (some ⟨b.serials, k.describe⟩)) := by
  unfold opens
  rw [bind_of_ok (live_apply hl), bind_of_ok (needScope_apply ht), bind_of_ok (checking_of h)]
  rfl

theorem opens_error {construct : Check Construct} (hl : b.consumed = false)
    (ht : b.takesStatements = true) (h : construct b.checker = (.error e, c)) :
    opens construct b = (.error e, { b with checker := c }) := by
  unfold opens
  rw [bind_of_ok (live_apply hl), bind_of_ok (needScope_apply ht),
    bind_of_error (checking_of h)]

/-! ## Closing a construct -/

/-- The builder without its innermost construct. -/
def outside (b : Builder) (f : Frame) (fs : List Frame) : Builder :=
  { b with
    inner := f, outer := fs, checker := b.checker.leaveScopes b.inner.construct.scopeCount }

theorem pop_apply {kind : ConstructKind} {f : Frame} {fs : List Frame} (hl : b.consumed = false)
    (houter : b.outer = f :: fs) (hk : b.inner.construct.kind = kind) :
    pop kind b = (.ok b.inner, b.outside f fs) := by
  obtain ⟨head, c, inner, rest, serials, opened, withs, consumed⟩ := b
  cases houter
  unfold pop
  rw [bind_of_ok (live_apply hl), bind_of_ok (get_apply _)]
  show (if inner.construct.kind ≠ kind then _ else _ : Action Frame) _ = _
  rw [if_neg (not_not_intro hk)]
  rfl

/-- What is popped is the innermost frame, if it is of the kind; else nothing is. -/
theorem pop_cases (kind : ConstructKind) (b : Builder) :
    (∃ e, pop kind b = (.error e, b)) ∨ ∃ f fs, b.outer = f :: fs ∧
      b.inner.construct.kind = kind ∧ pop kind b = (.ok b.inner, b.outside f fs) := by
  cases hl : b.consumed with
  | true =>
    refine .inl ⟨.structural .consumed, ?_⟩
    unfold pop
    rw [bind_of_error (live_error hl)]
  | false =>
    cases houter : b.outer with
    | nil =>
      refine .inl ⟨.structural .nothingOpen, ?_⟩
      unfold pop
      rw [bind_of_ok (live_apply hl), bind_of_ok (get_apply b), houter]
      rfl
    | cons f fs =>
      by_cases hk : b.inner.construct.kind = kind
      · exact .inr ⟨f, fs, rfl, hk, pop_apply hl houter hk⟩
      · refine .inl ⟨.structural (.wrongEnd kind.word b.inner.construct.describe), ?_⟩
        unfold pop
        rw [bind_of_ok (live_apply hl), bind_of_ok (get_apply b), houter]
        show (if b.inner.construct.kind ≠ kind then _ else _ : Action Frame) _ = _
        rw [if_pos hk]
        rfl

variable {k : Construct} {ss : List Statement} {n : Nat} {o : Option FrameMark}

theorem pop_inside {kind : ConstructKind} (hl : b.consumed = false) (hk : k.kind = kind) :
    pop kind (b.inside c k ss n o) = (.ok ⟨b.serials, k, ss⟩,
      { b with checker := c.leaveScopes k.scopeCount, serials := n, opened := o }) :=
  have hl' : (b.inside c k ss n o).consumed = false := hl
  pop_apply hl' rfl hk

theorem closes_ok {kind : ConstructKind} {s : Statement} (hl : b.consumed = false)
    (hk : k.kind = kind)
    (h : k.finish c.nesting.view ss (c.leaveScopes k.scopeCount) = (.ok s, c')) :
    closes kind (b.inside c k ss n o) = (.ok (), b.adding c' [s] n o) := by
  unfold closes
  rw [bind_of_ok (get_apply _), bind_of_ok (pop_inside hl hk)]
  have hc : checking (k.finish c.nesting.view ss)
      { b with checker := c.leaveScopes k.scopeCount, serials := n, opened := o } =
      (.ok s, { b with checker := c', serials := n, opened := o }) := checking_of h
  exact bind_of_ok hc

theorem endRepeat_ok {test : Operand} {s : Statement} {label : String} (hl : b.consumed = false)
    (htest : c.nesting.resolveAll test.variableNames = .ok ())
    (h : Statement.makeRepeat (some label) test ss = .ok s) :
    endRepeat test (b.inside c (.repeatLoop label) ss n o) = (.ok (), b.adding c.left [s] n o) := by
  have hl' : (b.inside c (.repeatLoop label) ss n o).consumed = false := hl
  have hresolve : checking (resolveAll test.variableNames) (b.inside c (.repeatLoop label) ss n o) =
      (.ok (), b.inside c (.repeatLoop label) ss n o) :=
    checking_of (resolveAll_eq.2 ⟨htest, rfl⟩)
  have hpop := @pop_inside b c (.repeatLoop label) ss n o .repeatLoop hl rfl
  unfold endRepeat
  rw [bind_of_ok (live_apply hl'), bind_of_ok (get_apply _)]
  show (checking (resolveAll test.variableNames) >>= fun _ => pop .repeatLoop >>= fun f =>
    made (Statement.makeRepeat (some label) test f.statements) >>= append) _ = _
  rw [bind_of_ok hresolve, bind_of_ok hpop]
  show (made (Statement.makeRepeat (some label) test ss) >>= append) _ = _
  rw [h]
  rfl

theorem endRepeat_error {test : Operand} {label : String} (hl : b.consumed = false)
    (htest : c.nesting.resolveAll test.variableNames = .error e) :
    endRepeat test (b.inside c (.repeatLoop label) ss n o) =
      (.error e, b.inside c (.repeatLoop label) ss n o) := by
  have hl' : (b.inside c (.repeatLoop label) ss n o).consumed = false := hl
  have hresolve : checking (resolveAll test.variableNames) (b.inside c (.repeatLoop label) ss n o) =
      (.error e, b.inside c (.repeatLoop label) ss n o) :=
    checking_of (resolveAll_eq.2 ⟨htest, rfl⟩)
  unfold endRepeat
  rw [bind_of_ok (live_apply hl'), bind_of_ok (get_apply _)]
  exact bind_of_error hresolve

/-! ## The next branch -/

theorem startBranch_apply (k' : Construct) (before : List CursorState) (b : Builder) :
    startBranch k' before b = (.ok (), b.branching (b.checker.branched before) k' []) := rfl

theorem leave_apply (b : Builder) : checking leave b = (.ok (), { b with checker := b.checker.left }) :=
  rfl

theorem checking_inside {act : Check Unit} {r : Except Error Unit} (h : act c = (r, c')) :
    checking act (b.inside c k ss n o) = (r, b.inside c' k ss n o) :=
  checking_of h

theorem elseIf_apply {test : Operand} {part part' : OpenIf} (hl : b.consumed = false)
    (hk : b.inner.construct = .ifElse part) (helse : part.arms.inElse = false)
    (hclose : part.close b.inner.statements b.checker.left.nesting.states = .ok part') :
    elseIf test b =
      (checking (resolveAll test.variableNames) >>= fun _ =>
        setConstruct (.ifElse { part' with test }))
        (b.branching (b.checker.left.branched part'.arms.before) (.ifElse part') []) := by
  have hmade : made (part.close b.inner.statements b.checker.left.nesting.states) b =
      (.ok part', b) := by rw [hclose]; rfl
  unfold elseIf
  rw [bind_of_ok (live_apply hl), bind_of_ok (get_apply _)]
  simp only [hk, helse]
  refine (bind_of_ok hmade).trans ?_
  refine (bind_of_ok (leave_apply b)).trans ?_
  exact bind_of_ok (startBranch_apply _ _ _)

theorem elseIf_eq {test : Operand} {part part' : OpenIf} (hl : b.consumed = false)
    (helse : part.arms.inElse = false) (hclose : part.close ss c.left.nesting.states = .ok part') :
    elseIf test (b.inside c (.ifElse part) ss n o) =
      (checking (resolveAll test.variableNames) >>= fun _ =>
        setConstruct (.ifElse { part' with test }))
        (b.inside (c.left.branched part'.arms.before) (.ifElse part') [] n o) :=
  have hl' : (b.inside c (.ifElse part) ss n o).consumed = false := hl
  elseIf_apply hl' rfl helse hclose

theorem elseIf_ok {test : Operand} {part part' : OpenIf} (hl : b.consumed = false)
    (helse : part.arms.inElse = false) (hclose : part.close ss c.left.nesting.states = .ok part')
    (htest : (c.left.withStates part'.arms.before).nesting.resolveAll test.variableNames = .ok ()) :
    elseIf test (b.inside c (.ifElse part) ss n o) = (.ok (),
      b.inside (c.left.branched part'.arms.before) (.ifElse { part' with test }) [] n o) := by
  rw [← Checker.resolveAll_branched] at htest
  rw [elseIf_eq hl helse hclose, bind_of_ok (checking_inside (resolveAll_eq.2 ⟨htest, rfl⟩))]
  rfl

theorem elseIf_error {test : Operand} {part part' : OpenIf} (hl : b.consumed = false)
    (helse : part.arms.inElse = false) (hclose : part.close ss c.left.nesting.states = .ok part')
    (htest : (c.left.withStates part'.arms.before).nesting.resolveAll test.variableNames =
      .error e) :
    elseIf test (b.inside c (.ifElse part) ss n o) = (.error e,
      b.inside (c.left.branched part'.arms.before) (.ifElse part') [] n o) := by
  rw [← Checker.resolveAll_branched] at htest
  rw [elseIf_eq hl helse hclose]
  exact bind_of_error (checking_inside (resolveAll_eq.2 ⟨htest, rfl⟩))

/-- The checker around the open arm of a case. -/
def aroundArm (part : OpenCase) (c : Checker) : Checker := if part.entered then c.left else c

theorem openWhen_apply {test : Operand} {part part' : OpenCase} (hl : b.consumed = false)
    (hk : b.inner.construct = .cases part) (helse : part.arms.inElse = false)
    (hkind : part.operand.isNull = true → test.condition?.isSome = true)
    (hclose : part.close b.inner.statements b.checker.left.nesting.states = .ok part') :
    openWhen test b =
      (checking (resolveAll test.variableNames) >>= fun _ =>
        setConstruct (.cases { part' with entered := true, test := test.ifAny }))
        (b.branching ((aroundArm part' b.checker).branched part'.arms.before)
          (.cases { part' with entered := true }) []) := by
  have hmade : made (part.close b.inner.statements b.checker.left.nesting.states) b =
      (.ok part', b) := by rw [hclose]; rfl
  have hsearched : ¬ (part.operand.isNull = true ∧ test.condition?.isNone = true) := by
    rintro ⟨hnull, hnone⟩
    have hsome := hkind hnull
    rw [Option.isNone_iff_eq_none.1 hnone] at hsome
    cases hsome
  unfold openWhen
  rw [bind_of_ok (live_apply hl), bind_of_ok (get_apply _)]
  simp only [hk, helse, hsearched, if_false, Bool.false_eq_true]
  refine (bind_of_ok hmade).trans ?_
  show (if part'.entered = true then _ else _ : Action Unit) _ = _
  unfold aroundArm
  cases part'.entered with
  | true =>
    rw [if_pos rfl, if_pos rfl]
    refine (bind_of_ok (leave_apply b)).trans ?_
    exact bind_of_ok (startBranch_apply _ _ _)
  | false =>
    rw [if_neg Bool.false_ne_true, if_neg Bool.false_ne_true]
    exact bind_of_ok (startBranch_apply _ _ _)

theorem openWhen_eq {test : Operand} {part part' : OpenCase} (hl : b.consumed = false)
    (helse : part.arms.inElse = false)
    (hkind : part.operand.isNull = true → test.condition?.isSome = true)
    (hclose : part.close ss c.left.nesting.states = .ok part') :
    openWhen test (b.inside c (.cases part) ss n o) =
      (checking (resolveAll test.variableNames) >>= fun _ =>
        setConstruct (.cases { part' with entered := true, test := test.ifAny }))
        (b.inside ((aroundArm part' c).branched part'.arms.before)
          (.cases { part' with entered := true }) [] n o) :=
  have hl' : (b.inside c (.cases part) ss n o).consumed = false := hl
  openWhen_apply hl' rfl helse hkind hclose

theorem openWhen_ok {test : Operand} {part part' : OpenCase} (hl : b.consumed = false)
    (helse : part.arms.inElse = false)
    (hkind : part.operand.isNull = true → test.condition?.isSome = true)
    (hclose : part.close ss c.left.nesting.states = .ok part')
    (htest : ((aroundArm part' c).withStates part'.arms.before).nesting.resolveAll
      test.variableNames = .ok ()) :
    openWhen test (b.inside c (.cases part) ss n o) = (.ok (),
      b.inside ((aroundArm part' c).branched part'.arms.before)
        (.cases { part' with entered := true, test := test.ifAny }) [] n o) := by
  rw [← Checker.resolveAll_branched] at htest
  rw [openWhen_eq hl helse hkind hclose,
    bind_of_ok (checking_inside (resolveAll_eq.2 ⟨htest, rfl⟩))]
  rfl

theorem openWhen_error {test : Operand} {part part' : OpenCase} (hl : b.consumed = false)
    (helse : part.arms.inElse = false)
    (hkind : part.operand.isNull = true → test.condition?.isSome = true)
    (hclose : part.close ss c.left.nesting.states = .ok part')
    (htest : ((aroundArm part' c).withStates part'.arms.before).nesting.resolveAll
      test.variableNames = .error e) :
    openWhen test (b.inside c (.cases part) ss n o) = (.error e,
      b.inside ((aroundArm part' c).branched part'.arms.before)
        (.cases { part' with entered := true }) [] n o) := by
  rw [← Checker.resolveAll_branched] at htest
  rw [openWhen_eq hl helse hkind hclose]
  exact bind_of_error (checking_inside (resolveAll_eq.2 ⟨htest, rfl⟩))

theorem otherwise_ifElse_apply {part part' : OpenIf} (hl : b.consumed = false)
    (hk : b.inner.construct = .ifElse part) (helse : part.arms.inElse = false)
    (hclose : part.close b.inner.statements b.checker.left.nesting.states = .ok part') :
    Builder.otherwise b = (.ok (), b.branching (b.checker.left.branched part'.arms.before)
      (.ifElse { part' with arms := { part'.arms with inElse := true } }) []) := by
  have hmade : made (part.close b.inner.statements b.checker.left.nesting.states) b =
      (.ok part', b) := by rw [hclose]; rfl
  unfold Builder.otherwise
  rw [bind_of_ok (live_apply hl), bind_of_ok (get_apply _)]
  simp only [hk, helse]
  refine (bind_of_ok hmade).trans ?_
  exact bind_of_ok (leave_apply b)

theorem otherwise_cases_apply {part part' : OpenCase} (hl : b.consumed = false)
    (hk : b.inner.construct = .cases part) (helse : part.arms.inElse = false)
    (hopen : part.test.isSome = true)
    (hclose : part.close b.inner.statements b.checker.left.nesting.states = .ok part') :
    Builder.otherwise b = (.ok (), b.branching (b.checker.left.branched part'.arms.before)
      (.cases { part' with arms := { part'.arms with inElse := true } }) []) := by
  have hmade : made (part.close b.inner.statements b.checker.left.nesting.states) b =
      (.ok part', b) := by rw [hclose]; rfl
  have hopen' : (!part.isOpen) = false := by simp [OpenCase.isOpen, hopen]
  unfold Builder.otherwise
  rw [bind_of_ok (live_apply hl), bind_of_ok (get_apply _)]
  simp only [hk, helse, hopen', if_false, Bool.false_eq_true]
  refine (bind_of_ok hmade).trans ?_
  exact bind_of_ok (leave_apply b)

theorem otherwise_ifElse {part part' : OpenIf} (hl : b.consumed = false)
    (helse : part.arms.inElse = false) (hclose : part.close ss c.left.nesting.states = .ok part') :
    Builder.otherwise (b.inside c (.ifElse part) ss n o) = (.ok (),
      b.inside (c.left.branched part'.arms.before)
        (.ifElse { part' with arms := { part'.arms with inElse := true } }) [] n o) :=
  have hl' : (b.inside c (.ifElse part) ss n o).consumed = false := hl
  otherwise_ifElse_apply hl' rfl helse hclose

theorem otherwise_cases {part part' : OpenCase} (hl : b.consumed = false)
    (helse : part.arms.inElse = false) (hopen : part.test.isSome = true)
    (hclose : part.close ss c.left.nesting.states = .ok part') :
    Builder.otherwise (b.inside c (.cases part) ss n o) = (.ok (),
      b.inside (c.left.branched part'.arms.before)
        (.cases { part' with arms := { part'.arms with inElse := true } }) [] n o) :=
  have hl' : (b.inside c (.cases part) ss n o).consumed = false := hl
  otherwise_cases_apply hl' rfl helse hopen hclose

/-! ## The program -/

theorem start_eq_ok {head : ProgramHead} {label : Operand} {stem : String} :
    start head label stem = .ok b ↔ ∃ around, head.scope = .ok around ∧
      ∃ l, label.ifAny.mapM (·.toLabel) = .ok l ∧
      ∃ scope, Nesting.child ⟨around, []⟩ .block l = .ok scope ∧
        { head, checker := ⟨Nesting.within ⟨around, []⟩ scope, ⟨stem, 0⟩⟩,
          inner := ⟨0, .block l (Nesting.within ⟨around, []⟩ scope).view, []⟩ } = b := by
  unfold start
  simp only [Outcome.bind_eq_ok, Outcome.pure_eq_ok]

/-- A builder whose program is asked for is used up, or it is left as it is. -/
theorem build_cases (b : Builder) :
    b.build.2 = b ∨ b.build.2 = { b with consumed := true } := by
  obtain ⟨_, _, ⟨_, construct, _⟩, outer, _, _, _, consumed⟩ := b
  cases consumed with
  | true => exact .inl rfl
  | false =>
    cases outer with
    | cons f fs => exact .inl rfl
    | nil =>
      cases construct with
      | block label view => exact .inr rfl
      | _ => exact .inl rfl

end Builder

/-- A builder that nothing has come to. -/
def emptyBuilder : Builder :=
  let nesting : Nesting := ⟨{ kind := .block }, [{ kind := .program }]⟩
  { head := .block
    checker := ⟨nesting, ⟨Builder.usualStem, 0⟩⟩
    inner := ⟨0, .block none nesting.view, []⟩ }

end StoredSql
