import StoredSql.Proofs.BuilderSteps
import StoredSql.Proofs.MadeStatements
import StoredSql.Proofs.Residue

/-!
# What open constructs account for

A builder keeps the statements of its open constructs besides what it knows of names and cursors.
Checking the statements again, from the outermost construct inwards, leads to a checker of its own
(`Replays`): it is what the statements account for. The lemmas follow the calls: a statement that is
added, a construct that is opened, its next branch, and its end.
-/

namespace StoredSql

open Check Stepwise

variable {c c' d d' t : Checker} {e : Error}

namespace Checker

/-- Names mean the same where nothing but the states of cursors differs. -/
theorem Still.resolveAll (h : c.Still c') (names : List String) :
    c'.nesting.resolveAll names = c.nesting.resolveAll names := by
  have hany : ∀ (name : String) (ss ts : List Scope), ts.map Scope.stateless = ss.map Scope.stateless →
      (ts.any fun s => Scope.hasName s.variableNames name) =
        ss.any fun s => Scope.hasName s.variableNames name := by
    intro name ss ts hst
    have hmap : ∀ us : List Scope, (us.any fun s => Scope.hasName s.variableNames name) =
        (us.map Scope.stateless).any fun s => Scope.hasName s.variableNames name := by
      intro us
      rw [List.any_map]
      rfl
    rw [hmap ts, hst, ← hmap ss]
  exact Nesting.resolveAll_congr h.onward.inner.rows (fun name => hany name _ _ h) names

end Checker

/-! ## Statements that pass -/

/-- Whether statements pass their check from a checker to another. -/
def Passes (ss : List Statement) (c c' : Checker) : Prop :=
  ∃ ss', Statement.checkAll ss c = (.ok ss', c')

theorem passes_nil (c : Checker) : Passes [] c c := ⟨[], rfl⟩

theorem passes_of_check {s s' : Statement} (h : s.check c = (.ok s', c')) : Passes [s] c c' :=
  ⟨[s'], Statement.checkAll_cons_ok.2 ⟨s', c', [], h, rfl, rfl⟩⟩

theorem Passes.append {ss ts : List Statement} (hs : Passes ss c d) (ht : Passes ts d c') :
    Passes (ss ++ ts) c c' := by
  obtain ⟨ss', hs⟩ := hs
  obtain ⟨ts', ht⟩ := ht
  exact ⟨ss' ++ ts', Statement.checkAll_append_ok.2 ⟨ss', d, ts', hs, ht, rfl⟩⟩

theorem Passes.onward {ss : List Statement} (h : Passes ss c c') : c.Onward c' := by
  obtain ⟨ss', h⟩ := h
  have hc := Statement.checkAll_onward ss c
  rw [h] at hc
  exact hc

theorem Passes.eq_of_isEmpty {ss : List Statement} (h : Passes ss c c')
    (hempty : ss.all Statement.isEmpty = true) : c = c' := by
  obtain ⟨ss', h⟩ := h
  induction ss generalizing ss' c with
  | nil =>
    cases h
    rfl
  | cons s ss ih =>
    rw [List.all_cons, Bool.and_eq_true] at hempty
    obtain ⟨s', t, rest, hs, hss, rfl⟩ := Statement.checkAll_cons_ok.1 h
    cases s with
    | empty =>
      cases hs
      exact ih hempty.2 rest hss
    | _ => cases hempty.1

/-! ## Open constructs -/

open Construct in
/-- Whether the checks that lead into the open part of a construct, those of its closed branches
among them, lead from a checker to another. -/
def Construct.Enters (c t : Checker) : Construct → Prop
  | block label _ => ∃ scope, c.noted.nesting.child .block label = .ok scope ∧
    t = c.noted.entered scope
  | handler _ conditions before => ∃ u v, declare (·.declareHandler) c = (.ok (), u) ∧
    resolveConditions conditions u = (.ok (), v) ∧ before = v.nesting.states ∧
    t = v.handling.entered { kind := .block, rows := v.handling.nesting.inner.rows }
  | ifElse part => ∃ branches u,
    IfBranch.checkAll part.arms.before part.branches c.noted =
      (.ok (branches, part.arms.outcomes), u) ∧
    part.arms.before = c.noted.nesting.states ∧ part.arms.otherwise = none ∧
    (part.arms.inElse = false → c.noted.nesting.resolveAll part.test.variableNames = .ok ()) ∧
    t = u.branched part.arms.before
  | cases part => c.noted.nesting.resolveAll part.operand.variableNames = .ok () ∧ ∃ whens u,
    CaseWhen.checkAll part.arms.before part.whens c.noted =
      (.ok (whens, part.arms.outcomes), u) ∧
    part.arms.before = c.noted.nesting.states ∧ part.arms.otherwise = none ∧
    (∀ test, part.test = some test →
      c.noted.nesting.resolveAll test.variableNames = .ok ()) ∧
    if part.entered then t = u.branched part.arms.before
    else part.whens = [] ∧ part.test = none ∧ part.arms.inElse = false ∧ t = u
  | loop label => Text.nonEmpty (some label) = some label ∧ ∃ scope,
    c.noted.nesting.child .loop (some label) = .ok scope ∧ t = c.noted.entered scope
  | whileLoop label test => Text.nonEmpty (some label) = some label ∧
    c.noted.nesting.resolveAll test.variableNames = .ok () ∧ ∃ scope,
    c.noted.nesting.child .loop (some label) = .ok scope ∧ t = c.noted.entered scope
  | repeatLoop label => Text.nonEmpty (some label) = some label ∧ ∃ scope,
    c.noted.nesting.child .loop (some label) = .ok scope ∧ t = c.noted.entered scope

/-- What open constructs, innermost first, account for. The outermost one is the block of the
program, whose statements come to the checker that they start from. -/
inductive Replays (start : Checker) : List Frame → Checker → Prop
  | root {f : Frame} {d : Checker} : f.construct.kind = .block → Passes f.statements start d →
      Replays start [f] d
  | frame {f : Frame} {fs : List Frame} {c t d : Checker} : Replays start fs c →
      f.construct.Enters c t → Passes f.statements t d → Replays start (f :: fs) d

theorem Replays.adding {start : Checker} {n : Nat} {k : Construct} {ss ts : List Statement}
    {fs : List Frame} (h : Replays start (⟨n, k, ss⟩ :: fs) d) (hts : Passes ts d d') :
    Replays start (⟨n, k, ss ++ ts⟩ :: fs) d' := by
  cases h with
  | root hk hss => exact .root hk (hss.append hts)
  | frame hfs hk hss => exact .frame hfs hk (hss.append hts)

/-- What is not the block of the program has been opened. -/
theorem Replays.opened {start : Checker} {f : Frame} {fs : List Frame}
    (h : Replays start (f :: fs) d) (hf : f.construct.kind ≠ .block ∨ fs ≠ []) :
    ∃ c t, Replays start fs c ∧ f.construct.Enters c t ∧ Passes f.statements t d := by
  cases h with
  | root hk _ => exact absurd rfl (hf.resolve_left (not_not_intro hk))
  | frame hfs hk hss => exact ⟨_, _, hfs, hk, hss⟩

theorem Replays.root_passes {start : Checker} {f : Frame} (h : Replays start [f] d) :
    Passes f.statements start d := by
  cases h with
  | root _ hss => exact hss
  | frame hfs _ _ => cases hfs

theorem noted_ages (c : Checker) : c.Ages c.noted := (noteStatement_onward c).ages

theorem earlier_noted (c : Checker) : c.Earlier c.noted :=
  (noted_ages c).earlier (noteStatement_known c).symm

theorem still_of_branches {before : List CursorState} {branches : List IfBranch}
    {r : Except Error (List IfBranch × List (List CursorState))}
    (h : IfBranch.checkAll before branches c = (r, c')) : c.Still c' := by
  have hc := IfBranch.checkAll_still before branches c
  rw [h] at hc
  exact hc

theorem still_of_arms {before : List CursorState} {whens : List CaseWhen}
    {r : Except Error (List CaseWhen × List (List CursorState))}
    (h : CaseWhen.checkAll before whens c = (r, c')) : c.Still c' := by
  have hc := CaseWhen.checkAll_still before whens c
  rw [h] at hc
  exact hc

theorem Passes.still_left {ss : List Statement} {scope : Scope} (h : Passes ss (c.entered scope) d) :
    c.Still d.left := h.onward.left

theorem Passes.still_branched {ss : List Statement} {before : List CursorState}
    (h : Passes ss (c.branched before) d) : c.Still d.left :=
  Trans.trans (c.still_withStates before) h.still_left

/-- Outside the scopes of an open construct, only time has gone on. -/
theorem Construct.Enters.ages {k : Construct} {ss : List Statement} (hk : k.Enters c t)
    (hss : Passes ss t d) : c.Ages (d.leaveScopes k.scopeCount) := by
  cases k with
  | block label view =>
    obtain ⟨scope, _, rfl⟩ := hk
    exact (noted_ages c).trans hss.still_left.ages
  | handler action conditions before =>
    obtain ⟨u, v, hu, hv, _, rfl⟩ := hk
    obtain ⟨_, rfl⟩ := ask_eq.1 hv
    have hcu : c.Onward u := by
      have h := declare_onward Scope.declareHandler_becomes c
      rw [hu] at h
      exact h
    have hhandling : (u.entered { kind := .handler, rows := u.nesting.inner.rows }).Still
        d.left := Trans.trans (Checker.still_withStates _ _) hss.still_left
    exact hcu.ages.trans hhandling.onward.left.ages
  | ifElse part =>
    obtain ⟨branches, u, hbranches, _, _, _, rfl⟩ := hk
    exact (noted_ages c).trans
      (Checker.Still.ages (Trans.trans (still_of_branches hbranches) hss.still_branched))
  | cases part =>
    obtain ⟨_, whens, u, hwhens, _, _, _, ht⟩ := hk
    have hu := (noted_ages c).trans (still_of_arms hwhens).ages
    by_cases hentered : part.entered = true
    · rw [if_pos hentered] at ht
      subst ht
      have hcount : (Construct.cases part).scopeCount = 1 := if_pos hentered
      rw [hcount]
      exact hu.trans hss.still_branched.ages
    · rw [if_neg hentered] at ht
      obtain ⟨_, _, _, rfl⟩ := ht
      have hcount : (Construct.cases part).scopeCount = 0 := if_neg hentered
      rw [hcount]
      exact hu.trans hss.onward.ages
  | loop label =>
    obtain ⟨_, scope, _, rfl⟩ := hk
    exact (noted_ages c).trans hss.still_left.ages
  | whileLoop label test =>
    obtain ⟨_, _, scope, _, rfl⟩ := hk
    exact (noted_ages c).trans hss.still_left.ages
  | repeatLoop label =>
    obtain ⟨_, scope, _, rfl⟩ := hk
    exact (noted_ages c).trans hss.still_left.ages

/-! ## Opening -/

namespace Construct

/-- A check that opens a construct: where it succeeds, it also leads into the construct from an
earlier phase, and where it fails, only phases have changed. -/
structure Opens (construct : Check Construct) : Prop where
  ok : ∀ {c d : Checker} {k : Construct} {c' : Checker}, construct c = (.ok k, c') →
    d.Earlier c → ∃ t, k.Enters d t ∧ t.Earlier c'
  error : ∀ {c : Checker} {e : Error} {c' : Checker}, construct c = (.error e, c') → c.Earlier c'

theorem ofBlock_opens (label : Operand) : Opens (ofBlock label) := by
  constructor
  · intro c d k c' h hd
    obtain ⟨l, scope, _, hscope, rfl, rfl⟩ := ofBlock_eq_ok.1 h
    exact ⟨_, ⟨scope, (hd.noted.child .block l).trans hscope, rfl⟩, hd.noted.entered scope⟩
  · intro c e c' h
    obtain ⟨_, rfl⟩ := ofBlock_eq_error.1 h
    exact earlier_noted c

theorem ofLoop_ok_earlier {construct : String → Construct} {label : Operand} {k : Construct}
    (h : ofLoop label construct c = (.ok k, c')) (hd : d.Earlier c) :
    ∃ l scope, Text.nonEmpty (some l) = some l ∧
      d.noted.nesting.child .loop (some l) = .ok scope ∧ k = construct l ∧
      (d.noted.entered scope).Earlier c' := by
  obtain ⟨given, scope, _, hscope, rfl, rfl⟩ := ofLoop_eq_ok.1 h
  have hd' := hd.noted.labelled given
  refine ⟨(c.noted.labelled given).1, scope, ?_, (hd'.child ..).trans hscope, rfl,
    hd'.entered scope⟩
  rw [Text.nonEmpty_some, if_neg (c.noted.labelled_ne_empty given)]

theorem ofLoop_error_earlier {construct : String → Construct} {label : Operand}
    (h : ofLoop label construct c = (.error e, c')) : c.Earlier c' := by
  rcases ofLoop_eq_error.1 h with ⟨_, rfl⟩ | ⟨given, _, _, rfl⟩
  · exact earlier_noted c
  · exact (earlier_noted c).labelled given

theorem ofLoop_opens (label : Operand) : Opens (ofLoop label .loop) := by
  refine ⟨fun h hd => ?_, ofLoop_error_earlier⟩
  obtain ⟨l, scope, hl, hscope, rfl, hd'⟩ := ofLoop_ok_earlier h hd
  exact ⟨_, ⟨hl, scope, hscope, rfl⟩, hd'⟩

theorem ofRepeat_opens (label : Operand) : Opens (ofLoop label .repeatLoop) := by
  refine ⟨fun h hd => ?_, ofLoop_error_earlier⟩
  obtain ⟨l, scope, hl, hscope, rfl, hd'⟩ := ofLoop_ok_earlier h hd
  exact ⟨_, ⟨hl, scope, hscope, rfl⟩, hd'⟩

theorem ofWhile_opens (test label : Operand) :
    Opens (resolveAll test.variableNames >>= fun _ => ofLoop label (.whileLoop · test)) := by
  constructor
  · intro c d k c' h hd
    obtain ⟨_, _, hresolve, h⟩ := bind_ok.1 h
    obtain ⟨htest, rfl⟩ := resolveAll_eq.1 hresolve
    obtain ⟨l, scope, hl, hscope, rfl, hd'⟩ := ofLoop_ok_earlier h hd
    have htest' := (d.resolveAll_noted _).trans ((hd.resolveAll _).trans htest)
    exact ⟨_, ⟨hl, htest', scope, hscope, rfl⟩, hd'⟩
  · intro c e c' h
    rcases bind_error.1 h with htest | ⟨_, _, htest, h⟩
    · obtain ⟨_, rfl⟩ := resolveAll_eq.1 htest
      exact Checker.Earlier.refl c
    · obtain ⟨_, rfl⟩ := resolveAll_eq.1 htest
      exact ofLoop_error_earlier h

theorem ofIf_opens (test : Operand) : Opens (ofIf test) := by
  constructor
  · intro c d k c' h hd
    obtain ⟨htest, rfl, rfl⟩ := ofIf_eq_ok.1 h
    have htest' := (hd.noted.resolveAll _).trans htest
    exact ⟨_, ⟨[], d.noted, rfl, hd.noted.states.symm, rfl, fun _ => htest', rfl⟩,
      hd.noted.branched _⟩
  · intro c e c' h
    obtain ⟨_, rfl⟩ := ofIf_eq_error.1 h
    exact earlier_noted c

theorem ofCase_opens (operand : Operand) : Opens (ofCase operand) := by
  constructor
  · intro c d k c' h hd
    obtain ⟨hoperand, rfl, rfl⟩ := ofCase_eq_ok.1 h
    have hoperand' := (hd.noted.resolveAll _).trans hoperand
    refine ⟨d.noted, ⟨hoperand', [], d.noted, rfl, hd.noted.states.symm, rfl, ?_, ?_⟩, hd.noted⟩
    · intro test htest
      cases htest
    · exact ⟨rfl, rfl, rfl, rfl⟩
  · intro c e c' h
    obtain ⟨_, rfl⟩ := ofCase_eq_error.1 h
    exact earlier_noted c

theorem ofHandler_opens (action : HandlerAction) (conditions : List ConditionValue) :
    Opens (ofHandler action conditions) := by
  constructor
  · intro c d k c' h hd
    obtain ⟨u, v, hu, hv, rfl, rfl⟩ := ofHandler_eq_ok.1 h
    obtain ⟨u', hu', hue, _⟩ := declareHandler_repeatable hd hu
    obtain ⟨v', hv', hve, _⟩ := resolveConditions_repeatable conditions hue hv
    refine ⟨_, ⟨u', v', hu', hv', hve.states.symm, rfl⟩, ?_⟩
    have hrows := hve.handling.inner.rows
    rw [hrows]
    exact hve.handling.entered _
  · intro c e c' h
    have hages := (declare_onward Scope.declareHandler_becomes c).ages
    have hearlier := hages.earlier (declareHandler_known c).symm
    rcases ofHandler_eq_error.1 h with h | ⟨u, hu, hv⟩
    · rw [h] at hearlier
      exact hearlier
    · rw [hu] at hearlier
      obtain ⟨_, rfl⟩ := ask_eq.1 hv
      exact hearlier

end Construct

/-! ## Closing -/

theorem variableNames_of_condition? {test : Operand} {condition : Condition}
    (h : test.condition? = some condition) :
    condition.outline.variableNames = test.variableNames := by
  unfold Operand.condition? at h
  split at h
  · cases h
    rfl
  · cases h

theorem variableNames_ofValue {v : Value} {value : Expr} (h : Expr.ofValue v = .ok value) :
    value.outline.variableNames = [] := by
  have hliteral : ∀ v, (Expr.literal v).outline.variableNames = [] := fun _ => rfl
  unfold Expr.ofValue at h
  split at h
  · split at h
    · cases h
      exact hliteral _
    · cases h
  · split at h
    · cases h
      exact hliteral _
    · cases h
  · cases h
    exact hliteral _
  · cases h
    exact hliteral _

theorem variableNames_of_toExpr {o : Operand} {value : Expr} (h : o.toExpr = .ok value) :
    value.outline.variableNames = o.variableNames := by
  unfold Operand.toExpr at h
  split at h
  · cases h
    rfl
  · exact variableNames_ofValue h
  · cases h

theorem variableNames_of_ifAny {o : Operand} {value : Option Expr}
    (h : o.ifAny.mapM (·.toExpr) = .ok value) :
    (value.map (·.outline.variableNames)).getD [] = o.variableNames := by
  unfold Operand.ifAny at h
  by_cases hnull : o.isNull = true
  · rw [if_pos hnull, Option.mapM_none] at h
    cases h
    unfold Operand.isNull at hnull
    split at hnull
    · rfl
    · cases hnull
  · rw [if_neg hnull, Option.mapM_some] at h
    cases hvalue : o.toExpr with
    | error e =>
      rw [hvalue] at h
      cases h
    | ok value' =>
      rw [hvalue] at h
      cases h
      exact variableNames_of_toExpr hvalue

theorem Operand.eq_of_ifAny {o p : Operand} (h : o.ifAny = some p) : p = o := by
  unfold Operand.ifAny at h
  split at h
  · cases h
  · exact (Option.some.inj h).symm

namespace Construct

variable {ss : List Statement} {s : Statement} {seen : ScopeView}

/-- The branch that is open in a conditional passes as the last of the closed ones. -/
theorem Enters.closeBranch {part : OpenIf} {test : Condition} (hk : (ifElse part).Enters c t)
    (hss : Passes ss t d) (helse : part.arms.inElse = false)
    (htest : part.test.condition? = some test) :
    ∃ branches, IfBranch.checkAll part.arms.before (part.branches ++ [⟨test, ss⟩]) c.noted =
      (.ok (branches, part.arms.outcomes ++ [d.left.nesting.states]), d.left) := by
  obtain ⟨branches, u, hbranches, _, _, hresolve, rfl⟩ := hk
  obtain ⟨ss', hss⟩ := hss
  have hstill : c.noted.Still (u.withStates part.arms.before) :=
    Trans.trans (still_of_branches hbranches) (u.still_withStates _)
  have hnames : (u.withStates part.arms.before).nesting.resolveAll test.outline.variableNames =
      .ok () := by
    rw [variableNames_of_condition? htest, hstill.resolveAll, hresolve helse]
  exact ⟨_, IfBranch.checkAll_append_ok hbranches (IfBranch.checkAll_cons_ok.2
    ⟨hnames, ss', d, [], [], hss, rfl, rfl⟩)⟩

theorem Enters.closeArm {part : OpenCase} {test : Operand} {value : Expr}
    (hk : (cases part).Enters c t) (hss : Passes ss t d) (hentered : part.entered = true)
    (htest : part.test = some test) (hvalue : test.toExpr = .ok value) :
    ∃ whens, CaseWhen.checkAll part.arms.before (part.whens ++ [⟨value, ss⟩]) c.noted =
      (.ok (whens, part.arms.outcomes ++ [d.left.nesting.states]), d.left) := by
  obtain ⟨_, whens, u, hwhens, _, _, hresolve, ht⟩ := hk
  rw [if_pos hentered] at ht
  subst ht
  obtain ⟨ss', hss⟩ := hss
  have hstill : c.noted.Still (u.withStates part.arms.before) :=
    Trans.trans (still_of_arms hwhens) (u.still_withStates _)
  have hnames : (u.withStates part.arms.before).nesting.resolveAll value.outline.variableNames =
      .ok () := by
    rw [variableNames_of_toExpr hvalue, hstill.resolveAll, hresolve test htest]
  exact ⟨_, CaseWhen.checkAll_append_ok hwhens (CaseWhen.checkAll_cons_ok.2
    ⟨hnames, ss', d, [], [], hss, rfl, rfl⟩)⟩

theorem Enters.finish_ifElse {part : OpenIf} (hk : (ifElse part).Enters d t) (hss : Passes ss t d')
    (hd : d'.Earlier c)
    (h : (ifElse part).finish seen ss (c.leaveScopes (ifElse part).scopeCount) = (.ok s, c')) :
    ∃ d'', Passes [s] d d'' ∧ d''.Earlier c' := by
  have hleave : c.leaveScopes (ifElse part).scopeCount = c.left := rfl
  simp only [hleave, Construct.finish, states_bind, bind_ok, made_eq, mergeStates_bind] at h
  obtain ⟨part', _, ⟨hclose, rfl⟩, hs, rfl⟩ := h
  obtain ⟨_, _, rfl⟩ := Statement.makeIf_eq_ok.1 hs
  rw [← hd.left.states] at hclose
  have hk' := hk
  obtain ⟨branches, u, hbranches, hbefore, hotherwise, _, rfl⟩ := hk
  cases helse : part.arms.inElse with
  | true =>
    rw [OpenIf.close_else helse] at hclose
    cases hclose
    obtain ⟨ss', hss⟩ := hss
    have hu := Statement.checkElse_some_ok.2 ⟨ss', d', hss, rfl, rfl⟩
    rw [hbefore] at hbranches hu
    refine ⟨_, passes_of_check (Statement.check_ifElse_ok.2
      ⟨branches, part.arms.outcomes, u, _, _, d'.left, hbranches, hu, rfl, rfl⟩), ?_⟩
    rw [Arms.allOutcomes_closeElse helse, ← hbefore]
    exact hd.left.withStates _
  | false =>
    obtain ⟨test, htest, _, rfl⟩ := (OpenIf.close_eq_ok helse).1 hclose
    obtain ⟨branches', hbranches'⟩ := hk'.closeBranch hss helse htest
    have hnone : (part.arms.close d'.left.nesting.states).otherwise = none := hotherwise
    rw [hbefore] at hbranches'
    rw [hnone]
    refine ⟨_, passes_of_check (Statement.check_ifElse_ok.2
      ⟨branches', _, d'.left, none, d.noted.nesting.states, d'.left, hbranches', rfl, rfl, rfl⟩), ?_⟩
    rw [Arms.allOutcomes_close helse, ← hbefore]
    exact hd.left.withStates _

theorem Enters.finish_cases {part : OpenCase} (hk : (cases part).Enters d t)
    (hss : Passes ss t d') (hd : d'.Earlier c)
    (h : (cases part).finish seen ss (c.leaveScopes (cases part).scopeCount) = (.ok s, c')) :
    ∃ d'', Passes [s] d d'' ∧ d''.Earlier c' := by
  have hk' := hk
  obtain ⟨hoperand, whens, u, hwhens, hbefore, hotherwise, _, ht⟩ := hk
  simp only [Construct.finish, states_bind, bind_ok, made_eq, mergeStates_bind] at h
  obtain ⟨part', _, ⟨hclose, rfl⟩, hs, rfl⟩ := h
  obtain ⟨hne, _, value, hvalue, _, rfl⟩ := Statement.makeCase_eq_ok.1 hs
  by_cases hentered : part.entered = true
  · rw [if_pos hentered] at ht
    subst ht
    have hleave : c.leaveScopes (cases part).scopeCount = c.left := by
      have hcount : (cases part).scopeCount = 1 := if_pos hentered
      rw [hcount]
      rfl
    rw [hleave, ← hd.left.states] at hclose
    rw [hleave]
    cases helse : part.arms.inElse with
    | true =>
      rw [OpenCase.close_else helse] at hclose
      cases hclose
      rw [← variableNames_of_ifAny hvalue] at hoperand
      obtain ⟨ss', hss⟩ := hss
      have hu := Statement.checkElse_some_ok.2 ⟨ss', d', hss, rfl, rfl⟩
      rw [hbefore] at hwhens hu
      refine ⟨_, passes_of_check (Statement.check_cases_ok.2
        ⟨hoperand, whens, part.arms.outcomes, u, _, _, d'.left, hwhens, hu, rfl, rfl⟩), ?_⟩
      rw [Arms.allOutcomes_closeElse helse, ← hbefore]
      exact hd.left.withStates _
    | false =>
      cases htest : part.test with
      | none =>
        rw [OpenCase.close_none helse htest] at hclose
        cases hclose
        rw [← variableNames_of_ifAny hvalue] at hoperand
        rw [hotherwise, Arms.allOutcomes_of_inElse_false helse, hbefore]
        rw [hbefore] at hwhens hss
        -- the statements of an arm without a test are dropped, and its states are set anew
        have hlen : u.nesting.states.length = (Nesting.agreedStates d.noted.nesting.states.length
            (part.arms.outcomes ++ [d.noted.nesting.states])).length := by
          rw [(still_of_arms hwhens).length_states, Nesting.agreedStates, List.length_map,
            List.length_range]
        refine ⟨_, passes_of_check (Statement.check_cases_ok.2 ⟨hoperand, whens, _, u, none,
          d.noted.nesting.states, u, hwhens, rfl, rfl, rfl⟩), ?_⟩
        exact (hd.left.withStates _).of_nesting (hss.still_branched.withStates hlen).symm
      | some test =>
        obtain ⟨value', hvalue', _, rfl⟩ := (OpenCase.close_eq_ok helse htest).1 hclose
        rw [← variableNames_of_ifAny hvalue] at hoperand
        obtain ⟨whens', hwhens'⟩ := hk'.closeArm hss hentered htest hvalue'
        have hnone : (part.arms.close d'.left.nesting.states).otherwise = none := hotherwise
        rw [hbefore] at hwhens'
        rw [hnone]
        refine ⟨_, passes_of_check (Statement.check_cases_ok.2 ⟨hoperand, whens', _, d'.left, none,
          d.noted.nesting.states, d'.left, hwhens', rfl, rfl, rfl⟩), ?_⟩
        rw [Arms.allOutcomes_close helse, ← hbefore]
        exact hd.left.withStates _
  · rw [if_neg hentered] at ht
    obtain ⟨hwhens₀, htest, helse, _⟩ := ht
    rw [OpenCase.close_none helse htest] at hclose
    cases hclose
    exact absurd hwhens₀ hne

/-- What a construct becomes at its end passes outside it, and leaves what the construct leaves. -/
theorem Enters.finish {k : Construct} (hk : k.Enters d t) (hss : Passes ss t d')
    (hd : d'.Earlier c) (h : k.finish seen ss (c.leaveScopes k.scopeCount) = (.ok s, c')) :
    ∃ d'', Passes [s] d d'' ∧ d''.Earlier c' := by
  cases k with
  | block label view =>
    obtain ⟨scope, hscope, rfl⟩ := hk
    obtain ⟨ss', hss⟩ := hss
    cases h
    exact ⟨d'.left, passes_of_check (Statement.check_block_ok.2
      ⟨_, Block.check_ok.2 ⟨scope, ss', d', hscope, hss, rfl, rfl⟩, rfl⟩), hd.left⟩
  | handler action conditions before =>
    obtain ⟨u, v, hu, hv, rfl, rfl⟩ := hk
    obtain ⟨ss', hss⟩ := hss
    cases h
    have hbody : (Statement.block ⟨ss, none, some seen⟩).check v.handling = (.ok _, d'.left) :=
      Statement.check_block_ok.2 ⟨_, Block.check_ok.2 ⟨_, ss', d', rfl, hss, rfl, rfl⟩, rfl⟩
    exact ⟨_, passes_of_check (Statement.check_declareHandler_ok.2
      ⟨u, v, _, d'.left, hu, hv, hbody, rfl, rfl⟩), hd.left.left.withStates _⟩
  | ifElse part => exact hk.finish_ifElse hss hd h
  | cases part => exact hk.finish_cases hss hd h
  | loop label =>
    obtain ⟨hlabel, scope, hscope, rfl⟩ := hk
    obtain ⟨ss', hss⟩ := hss
    obtain ⟨hs, rfl⟩ := made_eq.1 h
    obtain ⟨_, rfl⟩ := Statement.makeLoop_eq_ok.1 hs
    have hloop : (Statement.loop (some label) ss).check d =
        (.ok (.loop (some label) ss'), d'.left) := by
      rw [Statement.check_loop_ok, Checker.labelled_of_nonEmpty hlabel]
      exact ⟨scope, ss', d', hscope, hss, rfl, rfl⟩
    exact ⟨d'.left, passes_of_check hloop, hd.left⟩
  | whileLoop label test =>
    obtain ⟨hlabel, htest, scope, hscope, rfl⟩ := hk
    obtain ⟨ss', hss⟩ := hss
    obtain ⟨hs, rfl⟩ := made_eq.1 h
    obtain ⟨condition, hcondition, _, rfl⟩ := Statement.makeWhile_eq_ok.1 hs
    rw [← variableNames_of_condition? hcondition] at htest
    have hloop : (Statement.whileLoop (some label) condition ss).check d =
        (.ok (.whileLoop (some label) condition ss'), d'.left) := by
      rw [Statement.check_whileLoop_ok, Checker.labelled_of_nonEmpty hlabel]
      exact ⟨htest, scope, ss', d', hscope, hss, rfl, rfl⟩
    exact ⟨d'.left, passes_of_check hloop, hd.left⟩
  | repeatLoop label => cases h

theorem Enters.finishRepeat {label : String} {test : Operand} (hk : (repeatLoop label).Enters d t)
    (hss : Passes ss t d') (hd : d'.Earlier c)
    (htest : c.nesting.resolveAll test.variableNames = .ok ())
    (h : Statement.makeRepeat (some label) test ss = .ok s) :
    ∃ d'', Passes [s] d d'' ∧ d''.Earlier c.left := by
  obtain ⟨hlabel, scope, hscope, rfl⟩ := hk
  obtain ⟨ss', hss⟩ := hss
  obtain ⟨condition, hcondition, _, rfl⟩ := Statement.makeRepeat_eq_ok.1 h
  rw [← variableNames_of_condition? hcondition, ← hd.resolveAll] at htest
  have hloop : (Statement.repeatLoop (some label) condition ss).check d =
      (.ok (.repeatLoop (some label) condition ss'), d'.left) := by
    rw [Statement.check_repeatLoop_ok, Checker.labelled_of_nonEmpty hlabel]
    exact ⟨scope, ss', d', hscope, hss, htest, rfl, rfl⟩
  exact ⟨d'.left, passes_of_check hloop, hd.left⟩

/-- Of blocks, handlers and loops without a test only a loop with nothing to do has no end. -/
theorem Enters.finish_error {k : Construct} (hk : k.Enters d t) (hss : Passes ss t d')
    (hd : d'.Earlier c) (hkind : k.kind = .block ∨ k.kind = .handler ∨ k.kind = .loop)
    (h : k.finish seen ss (c.leaveScopes k.scopeCount) = (.error e, c')) : d.Earlier c' := by
  cases k with
  | loop label =>
    obtain ⟨_, scope, _, rfl⟩ := hk
    obtain ⟨hs, rfl⟩ := made_eq.1 h
    have hempty : ss.all Statement.isEmpty = true := by
      by_contra hne
      rw [Statement.makeLoop_eq_ok.2 ⟨Bool.eq_false_iff.2 hne, rfl⟩] at hs
      cases hs
    obtain rfl := hss.eq_of_isEmpty hempty
    exact (earlier_noted d).trans hd.left
  | block label view => cases h
  | handler action conditions before => cases h
  | _ => rcases hkind with hkind | hkind | hkind <;> cases hkind

/-- The end of a construct changes states only. -/
theorem finish_still (seen : ScopeView) (ss : List Statement) (k : Construct) :
    Keeps Checker.Still (k.finish seen ss) := by
  cases k with
  | block label view => exact .pure _
  | handler action conditions before => exact .bind (setStates_still before) fun _ => .pure _
  | ifElse part =>
    exact .bind (ask_keeps _) fun _ => .bind (ask_keeps _) fun _ =>
      .bind (setStates_still _) fun _ => ask_keeps _
  | cases part =>
    exact .bind (ask_keeps _) fun _ => .bind (ask_keeps _) fun _ =>
      .bind (setStates_still _) fun _ => ask_keeps _
  | loop label => exact ask_keeps _
  | whileLoop label test => exact ask_keeps _
  | repeatLoop label => exact .throw _

/-! ### The next branch -/

/-- From the open branch of a conditional to its next one, with or without a test. -/
theorem Enters.next_ifElse {part part' : OpenIf} (hk : (ifElse part).Enters d t)
    (hss : Passes ss t d') (helse : part.arms.inElse = false)
    (hclose : part.close ss d'.left.nesting.states = .ok part') {test : Operand} {inElse : Bool}
    (htest : inElse = false → d.noted.nesting.resolveAll test.variableNames = .ok ()) :
    (ifElse { part' with arms := { part'.arms with inElse }, test }).Enters d
      (d'.left.branched part'.arms.before) := by
  obtain ⟨test', htest', _, rfl⟩ := (OpenIf.close_eq_ok helse).1 hclose
  obtain ⟨branches, hbranches⟩ := hk.closeBranch hss helse htest'
  obtain ⟨_, _, _, hbefore, hotherwise, _, _⟩ := hk
  exact ⟨branches, d'.left, hbranches, hbefore, hotherwise, htest, rfl⟩

/-- Names mean within a branch what they mean in front of the conditional. -/
theorem resolveAll_of_still (h : c.Still c') (before : List CursorState) (names : List String) :
    (c'.branched before).nesting.resolveAll names = c.nesting.resolveAll names := by
  rw [Checker.resolveAll_branched, (c'.still_withStates before).resolveAll, h.resolveAll]

theorem Enters.still_ifElse {part : OpenIf} (hk : (ifElse part).Enters d t)
    (hss : Passes ss t d') : d.noted.Still d'.left := by
  obtain ⟨_, u, hbranches, _, _, _, rfl⟩ := hk
  exact Trans.trans (still_of_branches hbranches) hss.still_branched

theorem Enters.test_ifElse {part : OpenIf} (hk : (ifElse part).Enters d t)
    (helse : part.arms.inElse = false) :
    d.noted.nesting.resolveAll part.test.variableNames = .ok () := by
  obtain ⟨_, _, _, _, _, hresolve, _⟩ := hk
  exact hresolve helse

theorem Enters.test_cases {part : OpenCase} (hk : (cases part).Enters d t) {test : Operand}
    (htest : part.test = some test) : d.noted.nesting.resolveAll test.variableNames = .ok () := by
  obtain ⟨_, _, _, _, _, _, hresolve, _⟩ := hk
  exact hresolve test htest

theorem Enters.entered_cases {part : OpenCase} (hk : (cases part).Enters d t)
    (htest : part.test.isSome = true) : part.entered = true := by
  obtain ⟨_, _, _, _, _, _, _, ht⟩ := hk
  by_contra hentered
  rw [if_neg hentered] at ht
  obtain ⟨_, hnone, _⟩ := ht
  rw [hnone] at htest
  cases htest

/-- From the open arm of a case, or from its head, to its next arm. -/
theorem Enters.next_cases {part part' : OpenCase} (hk : (cases part).Enters d t)
    (hss : Passes ss t d') (hbare : part.entered = false → ss = []) (hd : d'.Earlier c)
    (helse : part.arms.inElse = false)
    (hclose : part.close ss c.left.nesting.states = .ok part') :
    ∃ u, d.noted.Still u ∧ (u.branched part'.arms.before).Earlier
      ((Builder.aroundArm part' c).branched part'.arms.before) ∧
      ∀ {test : Option Operand} {inElse : Bool},
        (∀ o, test = some o → d.noted.nesting.resolveAll o.variableNames = .ok ()) →
        (cases { part' with arms := { part'.arms with inElse }, test, entered := true }).Enters d
          (u.branched part'.arms.before) := by
  have hk' := hk
  obtain ⟨hoperand, whens, u, hwhens, hbefore, hotherwise, _, ht⟩ := hk
  by_cases hentered : part.entered = true
  · rw [if_pos hentered] at ht
    subst ht
    cases htest : part.test with
    | none =>
      rw [OpenCase.close_none helse htest] at hclose
      cases hclose
      have haround : Builder.aroundArm part c = c.left := if_pos hentered
      have hlen : u.nesting.states.length = part.arms.before.length := by
        rw [(still_of_arms hwhens).length_states, hbefore]
      have hnesting := hss.still_branched.withStates hlen
      refine ⟨u, still_of_arms hwhens, ?_, fun hresolve => ?_⟩
      · rw [haround]
        exact (hd.left.branched _).of_nesting (congrArg
          (fun n : Nesting => n.within { kind := .branch, rows := n.inner.rows }) hnesting.symm)
      · exact ⟨hoperand, whens, u, hwhens, hbefore, hotherwise, hresolve, rfl⟩
    | some test =>
      rw [← hd.left.states] at hclose
      obtain ⟨value, hvalue, _, rfl⟩ := (OpenCase.close_eq_ok helse htest).1 hclose
      obtain ⟨whens', hwhens'⟩ := hk'.closeArm hss hentered htest hvalue
      have haround : Builder.aroundArm { part with
          whens := part.whens ++ [⟨value, ss⟩],
          arms := part.arms.close d'.left.nesting.states } c = c.left := if_pos hentered
      refine ⟨d'.left, still_of_arms hwhens', ?_, fun hresolve => ?_⟩
      · rw [haround]
        exact hd.left.branched _
      · exact ⟨hoperand, whens', d'.left, hwhens', hbefore, hotherwise, hresolve, rfl⟩
  · rw [if_neg hentered] at ht
    obtain ⟨_, htest, _, htu⟩ := ht
    obtain ⟨_, hnil⟩ := hss
    rw [hbare (Bool.eq_false_iff.2 hentered), Statement.checkAll_nil] at hnil
    obtain ⟨_, htd⟩ := pair_eq.1 hnil
    subst htd htu
    rw [OpenCase.close_none helse htest] at hclose
    cases hclose
    have haround : Builder.aroundArm part c = c := if_neg hentered
    refine ⟨t, still_of_arms hwhens, ?_, fun hresolve => ?_⟩
    · rw [haround]
      exact hd.branched _
    · exact ⟨hoperand, whens, t, hwhens, hbefore, hotherwise, hresolve, rfl⟩

end Construct

end StoredSql
