import StoredSql.Proofs.Events

/-!
# Events of open constructs

The events of a construct that is still open, up to its open branch (`Construct.events`). Where a
construct goes on to its next branch or ends, they are still there, with those of the statements that
have come to its open branch (`Construct.finish_events` and the lemmas like it). An arm of a case
without a test would be lost with its statements; `Construct.Sound` says that there is none.
-/

namespace StoredSql

open Check Stepwise

/-- The expression that an operand is, if it is one. -/
def Operand.expr? (o : Operand) : Option Expr := o.toExpr.toOption

theorem Operand.expr?_of_condition? {o : Operand} {c : Condition} (h : o.condition? = some c) :
    o.expr? = some (.condition c) := by
  unfold Operand.condition? at h
  split at h
  · cases h
    rfl
  · cases h

theorem Operand.expr?_of_toExpr {o : Operand} {e : Expr} (h : o.toExpr = .ok e) :
    o.expr? = some e := by
  unfold Operand.expr?
  rw [h]
  rfl

namespace Construct

/-- The events of a construct up to its open branch. -/
def events : Construct → List Event
  | block _ _ => [.block]
  | handler action conditions _ => [.handler action conditions, .block]
  | ifElse part => .ifElse :: (IfBranch.events part.branches ++
    if part.arms.inElse then [.otherwise] else [.branch part.test.expr?])
  | cases part => .cases (part.operand.ifAny.bind (·.expr?)) :: (CaseWhen.events part.whens ++
    if part.arms.inElse then [.otherwise] else (part.test.map fun o => .branch o.expr?).toList)
  | loop _ => [.loop]
  | whileLoop _ test => [.whileLoop test.expr?]
  | repeatLoop _ => [.repeatLoop]

/-- Whether all that has come to a construct counts at its end. -/
def Sound (ss : List Statement) : Construct → Prop
  | ifElse part => part.arms.otherwise = none
  | cases part => part.arms.otherwise = none ∧
    (part.test = none → part.entered = false ∧ part.arms.inElse = false ∧ ss = [])
  | _ => True

variable {k : Construct} {ss ss' : List Statement} {c c' : Checker} {states : List CursorState}

/-- More statements come only to what has an open branch. -/
theorem Sound.next (h : k.Sound ss) (ht : k.takesStatements = true) : k.Sound ss' := by
  cases k with
  | cases part =>
    refine ⟨h.1, fun hnone => ?_⟩
    have hentered : part.entered = true := ht
    cases hentered.symm.trans (h.2 hnone).1
  | ifElse part => exact h
  | _ => trivial

/-! ## Opening -/

/-- Whether a check that succeeds opens a construct of the events, to which nothing has come. -/
def OpensWith (es : List Event) (construct : Check Construct) : Prop :=
  ∀ ⦃c c' : Checker⦄ ⦃k : Construct⦄, construct c = (.ok k, c') → k.Sound [] ∧ k.events = es

theorem block_opensWith (label : Operand) : OpensWith [.block] (ofBlock label) := by
  intro c c' k h
  obtain ⟨_, _, _, _, rfl, _⟩ := ofBlock_eq_ok.1 h
  exact ⟨trivial, rfl⟩

theorem loop_opensWith {construct : String → Construct} {es : List Event}
    (hevents : ∀ l, (construct l).Sound [] ∧ (construct l).events = es) (label : Operand) :
    OpensWith es (ofLoop label construct) := by
  intro c c' k h
  obtain ⟨_, _, _, _, rfl, _⟩ := ofLoop_eq_ok.1 h
  exact hevents _

theorem while_opensWith (test label : Operand) : OpensWith [.whileLoop test.expr?]
    (resolveAll test.variableNames >>= fun _ => ofLoop label (.whileLoop · test)) := by
  intro c c' k h
  obtain ⟨_, _, _, h⟩ := bind_ok.1 h
  have hevents : ∀ l, (whileLoop l test).Sound [] ∧
      (whileLoop l test).events = [.whileLoop test.expr?] := fun _ => ⟨trivial, rfl⟩
  exact loop_opensWith hevents label h

theorem if_opensWith (test : Operand) : OpensWith [.ifElse, .branch test.expr?] (ofIf test) := by
  intro c c' k h
  obtain ⟨_, rfl, _⟩ := ofIf_eq_ok.1 h
  exact ⟨rfl, rfl⟩

theorem case_opensWith (operand : Operand) :
    OpensWith [.cases (operand.ifAny.bind (·.expr?))] (ofCase operand) := by
  intro c c' k h
  obtain ⟨_, rfl, _⟩ := ofCase_eq_ok.1 h
  exact ⟨⟨rfl, fun _ => ⟨rfl, rfl, rfl⟩⟩, rfl⟩

theorem handler_opensWith (action : HandlerAction) (conditions : List ConditionValue) :
    OpensWith [.handler action conditions, .block] (ofHandler action conditions) := by
  intro c c' k h
  obtain ⟨_, _, _, _, rfl, _⟩ := ofHandler_eq_ok.1 h
  exact ⟨trivial, rfl⟩

/-! ## Branches -/

/-- The open branch of a conditional becomes one of its branches. -/
theorem closeBranch_events {part part' : OpenIf} (helse : part.arms.inElse = false)
    (hclose : part.close ss states = .ok part') :
    .ifElse :: IfBranch.events part'.branches = (ifElse part).events ++ Statement.allEvents ss ∧
      part'.arms.otherwise = part.arms.otherwise ∧ part'.arms.inElse = false := by
  obtain ⟨test, htest, _, rfl⟩ := (OpenIf.close_eq_ok helse).1 hclose
  refine ⟨?_, rfl, helse⟩
  rw [IfBranch.events_append, events, helse, Operand.expr?_of_condition? htest]
  simp [IfBranch.test, IfBranch.statements]

/-- The open arm of a case becomes one of its arms; if there is none, nothing has come to the
case. -/
theorem closeArm_events {part part' : OpenCase} (hsound : (cases part).Sound ss)
    (helse : part.arms.inElse = false) (hclose : part.close ss states = .ok part') :
    .cases (part'.operand.ifAny.bind (·.expr?)) :: CaseWhen.events part'.whens =
        (cases part).events ++ Statement.allEvents ss ∧
      part'.arms.otherwise = part.arms.otherwise ∧ part'.arms.inElse = false := by
  cases hsome : part.test with
  | none =>
    obtain ⟨_, _, rfl⟩ := hsound.2 hsome
    rw [OpenCase.close_none helse hsome] at hclose
    cases hclose
    refine ⟨?_, rfl, helse⟩
    rw [events, helse, hsome]
    simp [Statement.allEvents]
  | some test =>
    obtain ⟨value, hvalue, _, rfl⟩ := (OpenCase.close_eq_ok helse hsome).1 hclose
    refine ⟨?_, rfl, helse⟩
    rw [CaseWhen.events_append, events, helse, hsome]
    simp [CaseWhen.test, CaseWhen.statements, Operand.expr?_of_toExpr hvalue]

/-- The next branch of a conditional. -/
theorem nextBranch_events {part part' : OpenIf} (hsound : (ifElse part).Sound ss)
    (helse : part.arms.inElse = false) (hclose : part.close ss states = .ok part')
    (test : Operand) : (ifElse { part' with test }).Sound [] ∧
      (ifElse { part' with test }).events =
        (ifElse part).events ++ Statement.allEvents ss ++ [.branch test.expr?] := by
  obtain ⟨hevents, hnone, helse'⟩ := closeBranch_events helse hclose
  refine ⟨hnone.trans hsound, ?_⟩
  rw [← hevents, events, helse', if_neg Bool.false_ne_true]
  rfl

/-- The last branch of a conditional. -/
theorem lastBranch_events {part part' : OpenIf} (hsound : (ifElse part).Sound ss)
    (helse : part.arms.inElse = false) (hclose : part.close ss states = .ok part') :
    (ifElse { part' with arms := { part'.arms with inElse := true } }).Sound [] ∧
      (ifElse { part' with arms := { part'.arms with inElse := true } }).events =
        (ifElse part).events ++ Statement.allEvents ss ++ [.otherwise] := by
  obtain ⟨hevents, hnone, _⟩ := closeBranch_events helse hclose
  refine ⟨hnone.trans hsound, ?_⟩
  rw [← hevents, events, if_pos rfl]
  rfl

/-- The next arm of a case, if it has a test. -/
theorem nextArm_events {part part' : OpenCase} (hsound : (cases part).Sound ss)
    (helse : part.arms.inElse = false) (hclose : part.close ss states = .ok part')
    (test : Operand) : (cases { part' with entered := true, test := some test }).Sound [] ∧
      (cases { part' with entered := true, test := some test }).events =
        (cases part).events ++ Statement.allEvents ss ++ [.branch test.expr?] := by
  obtain ⟨hevents, hnone, helse'⟩ := closeArm_events hsound helse hclose
  refine ⟨⟨hnone.trans hsound.1, nofun⟩, ?_⟩
  rw [← hevents, events, helse', if_neg Bool.false_ne_true]
  rfl

/-- The last arm of a case that has an open one. -/
theorem lastArm_events {part part' : OpenCase} (hsound : (cases part).Sound ss)
    (helse : part.arms.inElse = false) (hopen : part.test.isSome = true)
    (hclose : part.close ss states = .ok part') :
    (cases { part' with arms := { part'.arms with inElse := true } }).Sound [] ∧
      (cases { part' with arms := { part'.arms with inElse := true } }).events =
        (cases part).events ++ Statement.allEvents ss ++ [.otherwise] := by
  obtain ⟨hevents, hnone, _⟩ := closeArm_events hsound helse hclose
  have htest : part'.test.isSome = true := (OpenCase.close_keeps hclose).2 ▸ hopen
  refine ⟨⟨hnone.trans hsound.1, fun hmissing => ?_⟩, ?_⟩
  · have hmissing' : part'.test = none := hmissing
    rw [hmissing'] at htest
    cases htest
  · rw [← hevents, events, if_pos rfl]
    rfl

/-! ## Ends -/

theorem operand_events {operand : Operand} {value : Option Expr}
    (h : operand.ifAny.mapM (·.toExpr) = .ok value) : operand.ifAny.bind (·.expr?) = value := by
  cases hany : operand.ifAny with
  | none =>
    rw [hany] at h
    cases h
    rfl
  | some o =>
    rw [hany] at h
    obtain ⟨e, he, hvalue⟩ := Outcome.map_eq_ok.1 h
    rw [← hvalue]
    exact Operand.expr?_of_toExpr he

/-- **Nothing is lost at the end of a construct.** -/
theorem finish_events {seen : ScopeView} {s : Statement} (hsound : k.Sound ss)
    (h : k.finish seen ss c = (.ok s, c')) :
    s.events = k.events ++ Statement.allEvents ss ++ [.closed] := by
  cases k with
  | block label view =>
    cases h
    rfl
  | handler action conditions before =>
    cases h
    rfl
  | ifElse part =>
    simp only [Construct.finish, states_bind, bind_ok, made_eq, mergeStates_bind] at h
    obtain ⟨part', _, ⟨hclose, rfl⟩, h, rfl⟩ := h
    obtain ⟨_, _, rfl⟩ := Statement.makeIf_eq_ok.1 h
    have hnone : part.arms.otherwise = none := hsound
    cases helse : part.arms.inElse with
    | true =>
      rw [OpenIf.close_else helse] at hclose
      cases hclose
      simp [Statement.events, events, helse, Arms.closeElse, Statement.elseEvents]
    | false =>
      obtain ⟨hevents, hkept, _⟩ := closeBranch_events helse hclose
      rw [Statement.events, hkept, hnone, Statement.elseEvents, List.append_nil, ← hevents]
      rfl
  | cases part =>
    simp only [Construct.finish, states_bind, bind_ok, made_eq, mergeStates_bind] at h
    obtain ⟨part', _, ⟨hclose, rfl⟩, h, rfl⟩ := h
    obtain ⟨_, _, value, hvalue, _, rfl⟩ := Statement.makeCase_eq_ok.1 h
    rw [← operand_events hvalue]
    have hnone : part.arms.otherwise = none := hsound.1
    cases helse : part.arms.inElse with
    | true =>
      rw [OpenCase.close_else helse] at hclose
      cases hclose
      simp [Statement.events, events, helse, Arms.closeElse, Statement.elseEvents]
    | false =>
      obtain ⟨hevents, hkept, _⟩ := closeArm_events hsound helse hclose
      rw [Statement.events, hkept, hnone, Statement.elseEvents, List.append_nil, ← hevents]
      rfl
  | loop label =>
    obtain ⟨hmade, _⟩ := made_eq.1 h
    obtain ⟨_, rfl⟩ := Statement.makeLoop_eq_ok.1 hmade
    rfl
  | whileLoop label test =>
    obtain ⟨hmade, _⟩ := made_eq.1 h
    obtain ⟨condition, hcondition, _, rfl⟩ := Statement.makeWhile_eq_ok.1 hmade
    rw [Statement.events, events, Operand.expr?_of_condition? hcondition]
    rfl
  | repeatLoop label => cases h

/-- A loop that ends with its condition. -/
theorem repeat_events {label : String} {test : Operand} {s : Statement}
    (h : Statement.makeRepeat (some label) test ss = .ok s) :
    s.events = (repeatLoop label).events ++ Statement.allEvents ss ++
      [.goal test.expr?, .closed] := by
  obtain ⟨condition, hcondition, _, rfl⟩ := Statement.makeRepeat_eq_ok.1 h
  rw [Statement.events, events, Operand.expr?_of_condition? hcondition]
  rfl

end Construct
end StoredSql
