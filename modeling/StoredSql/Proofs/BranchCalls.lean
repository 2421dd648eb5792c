import StoredSql.Proofs.StatementCalls

/-!
# Branches as calls

The calls for conditionals and cases follow their checks. Between two branches the builder holds
those that are closed and the states of cursors after each of them; the check has them as a list.
-/

namespace StoredSql

open Check Stepwise

/-- The conditional after its open branch, with the states of cursors that the branch leaves. -/
def OpenIf.closed (part : OpenIf) (test : Condition) (ss : List Statement)
    (states : List CursorState) : OpenIf :=
  { part with branches := part.branches ++ [⟨test, ss⟩], arms := part.arms.close states }

/-- The case after its open arm, with the states of cursors that the arm leaves. -/
def OpenCase.closed (part : OpenCase) (test : Expr) (ss : List Statement)
    (states : List CursorState) : OpenCase :=
  { part with whens := part.whens ++ [⟨test, ss⟩], arms := part.arms.close states }

/-- The conditional where what is done if no branch is taken is open. -/
def OpenIf.enterElse (part : OpenIf) : OpenIf :=
  { part with arms := { part.arms with inElse := true } }

/-- The case where what is done if no arm is taken is open. -/
def OpenCase.enterElse (part : OpenCase) : OpenCase :=
  { part with arms := { part.arms with inElse := true } }

namespace Statement

variable {c c' : Checker} {e : Error} {b : Builder} {body body' : List Statement} {k : Construct}
  {n : Nat} {o : Option FrameMark} {before : List CursorState} {ss : List Statement}
  {otherwise : Option (List Statement)}

/-! ## The check of what comes after a branch -/

/-- Whether the calls for a body do what its check does, where the body has something to execute. -/
def BodyUnfolds (body : List Statement) : Prop := AllUnfold body ∧ body.all isEmpty = false

/-- What is done if no branch is taken, if there is such a thing. -/
def ElseUnfolds (otherwise : Option (List Statement)) : Prop :=
  ∀ body, otherwise = some body → BodyUnfolds body

/-- The check of branches, or of what is done if none of them is taken, ends in an error. -/
def FailsFrom {α : Type} (branches : Check α) (before : List CursorState)
    (otherwise : Option (List Statement)) (e : Error) (c u : Checker) : Prop :=
  branches c = (.error e, u) ∨
    ∃ r t, branches c = (.ok r, t) ∧ checkElse before otherwise t = (.error e, u)

theorem FailsFrom.in_otherwise {α : Type} {branches : Check α} {r : α} {t u : Checker}
    (h : FailsFrom branches before otherwise e c u) (hr : branches c = (.ok r, t)) :
    ∃ body v, otherwise = some body ∧ checkAll body (t.branched before) = (.error e, v) := by
  rcases h with h | ⟨_, _, h, helse⟩
  · cases hr.symm.trans h
  · cases hr.symm.trans h
    cases otherwise with
    | none => cases helse
    | some body =>
      obtain ⟨v, hbody⟩ := checkElse_some_error helse
      exact ⟨body, v, rfl, hbody⟩

/-- Branches fail in the test of the first one, in its body, or after it. -/
theorem failsFrom_branches_cons {test : Condition} {rest : List IfBranch} {u : Checker}
    (h : FailsFrom (IfBranch.checkAll before (⟨test, body⟩ :: rest)) before otherwise e c u) :
    (c.withStates before).nesting.resolveAll test.outline.variableNames = .error e ∨
      (c.withStates before).nesting.resolveAll test.outline.variableNames = .ok () ∧
        ∃ t, checkAll body (c.branched before) = (.error e, t) ∨
          ∃ body', checkAll body (c.branched before) = (.ok body', t) ∧
            FailsFrom (IfBranch.checkAll before rest) before otherwise e t.left u := by
  rcases h with h | ⟨r, t, h, helse⟩
  · rcases IfBranch.checkAll_cons_error h with htest | ⟨htest, t, hbody | ⟨body', hbody, hrest⟩⟩
    · exact .inl htest
    · exact .inr ⟨htest, t, .inl hbody⟩
    · exact .inr ⟨htest, t, .inr ⟨body', hbody, .inl hrest⟩⟩
  · obtain ⟨htest, body', v, rest', outcomes, hbody, hrest, _⟩ := IfBranch.checkAll_cons_ok.1 h
    exact .inr ⟨htest, v, .inr ⟨body', hbody, .inr ⟨_, t, hrest, helse⟩⟩⟩

theorem failsFrom_arms_cons {test : Expr} {rest : List CaseWhen} {u : Checker}
    (h : FailsFrom (CaseWhen.checkAll before (⟨test, body⟩ :: rest)) before otherwise e c u) :
    (c.withStates before).nesting.resolveAll test.outline.variableNames = .error e ∨
      (c.withStates before).nesting.resolveAll test.outline.variableNames = .ok () ∧
        ∃ t, checkAll body (c.branched before) = (.error e, t) ∨
          ∃ body', checkAll body (c.branched before) = (.ok body', t) ∧
            FailsFrom (CaseWhen.checkAll before rest) before otherwise e t.left u := by
  rcases h with h | ⟨r, t, h, helse⟩
  · rcases CaseWhen.checkAll_cons_error h with htest | ⟨htest, t, hbody | ⟨body', hbody, hrest⟩⟩
    · exact .inl htest
    · exact .inr ⟨htest, t, .inl hbody⟩
    · exact .inr ⟨htest, t, .inr ⟨body', hbody, .inl hrest⟩⟩
  · obtain ⟨htest, body', v, rest', outcomes, hbody, hrest, _⟩ := CaseWhen.checkAll_cons_ok.1 h
    exact .inr ⟨htest, v, .inr ⟨body', hbody, .inr ⟨_, t, hrest, helse⟩⟩⟩

/-! ## Conditionals -/

/-- The branch that is open in a conditional. -/
structure AtBranch (part : OpenIf) (test : Condition) (before : List CursorState) : Prop where
  inElse : part.arms.inElse = false
  otherwise : part.arms.otherwise = none
  before : part.arms.before = before
  test : part.test = test.operand

namespace AtBranch

variable {part : OpenIf} {test : Condition}

theorem close (h : AtBranch part test before) (hne : ss.all isEmpty = false)
    (states : List CursorState) : part.close ss states = .ok (part.closed test ss states) :=
  (OpenIf.close_eq_ok h.inElse).2 ⟨test, by rw [h.test]; rfl, hne, rfl⟩

theorem next (h : AtBranch part test before) (ss : List Statement) (states : List CursorState)
    (test' : Condition) :
    AtBranch { part.closed test ss states with test := test'.operand } test' before :=
  ⟨h.inElse, h.otherwise, h.before, rfl⟩

theorem elseIf_ok {test' : Condition} (hl : b.consumed = false) (h : AtBranch part test before)
    (hne : ss.all isEmpty = false)
    (htest : (c.left.withStates before).nesting.resolveAll test'.outline.variableNames = .ok ()) :
    (b.inside c (.ifElse part) ss n o).perform (.elseIf test'.operand) = (.ok (),
      b.inside (c.left.branched before) (.ifElse { part.closed test ss c.left.nesting.states with
        test := test'.operand }) [] n o) := by
  have hbefore : (part.closed test ss c.left.nesting.states).arms.before = before := h.before
  have helseIf : (b.inside c (.ifElse part) ss n o).perform (.elseIf test'.operand) = _ :=
    Builder.elseIf_ok hl h.inElse (h.close hne _) (by rw [hbefore]; exact htest)
  rw [hbefore] at helseIf
  exact helseIf

theorem elseIf_error {test' : Condition} (hl : b.consumed = false) (h : AtBranch part test before)
    (hne : ss.all isEmpty = false)
    (htest : (c.left.withStates before).nesting.resolveAll test'.outline.variableNames =
      .error e) :
    ∃ b', (b.inside c (.ifElse part) ss n o).perform (.elseIf test'.operand) = (.error e, b') := by
  have hbefore : (part.closed test ss c.left.nesting.states).arms.before = before := h.before
  have helseIf : (b.inside c (.ifElse part) ss n o).perform (.elseIf test'.operand) = _ :=
    Builder.elseIf_error hl h.inElse (h.close hne _) (by rw [hbefore]; exact htest)
  exact ⟨_, helseIf⟩

theorem otherwise_ok (hl : b.consumed = false) (h : AtBranch part test before)
    (hne : ss.all isEmpty = false) :
    (b.inside c (.ifElse part) ss n o).perform .otherwise = (.ok (),
      b.inside (c.left.branched before)
        (.ifElse (part.closed test ss c.left.nesting.states).enterElse) [] n o) := by
  have hbefore : (part.closed test ss c.left.nesting.states).arms.before = before := h.before
  have helse : (b.inside c (.ifElse part) ss n o).perform .otherwise = _ :=
    Builder.otherwise_ifElse hl h.inElse (h.close hne _)
  rw [hbefore] at helse
  exact helse

end AtBranch

/-- Closing a conditional whose branches and whose `ELSE` have something to execute. -/
theorem endIf_ok {part part' : OpenIf} {outcomes : List (List CursorState)}
    {branches : List IfBranch} (hl : b.consumed = false)
    (hclose : part.close ss c.left.nesting.states = .ok part')
    (hbranches : part'.branches = branches) (hne : branches ≠ [])
    (hotherwise : part'.arms.otherwise = otherwise)
    (helse : ∀ body, otherwise = some body → body.all isEmpty = false)
    (hbefore : part'.arms.before = before) (houtcomes : part'.arms.allOutcomes = outcomes) :
    (b.inside c (.ifElse part) ss n o).perform .endIf = (.ok (),
      b.adding (c.left.withStates (Nesting.agreedStates before.length outcomes))
        [.ifElse branches otherwise] n o) := by
  have hmake : makeIf branches otherwise = .ok (.ifElse branches otherwise) := by
    have hempty : ¬ branches.isEmpty = true := by simp [hne]
    unfold makeIf
    rw [if_neg hempty, checkBody_forM_ok "ELSE" helse]
    rfl
  subst hbranches hotherwise hbefore houtcomes
  refine Builder.closes_ok hl rfl ?_
  show (states >>= fun s => made (part.close ss s) >>= _) c.left = _
  rw [states_bind, hclose]
  refine (bind_of_ok (made_eq.2 ⟨rfl, rfl⟩)).trans ?_
  rw [mergeStates_bind, hmake]
  rfl

/-- The calls for what comes after an open branch. -/
theorem branches_ok (hl : b.consumed = false) (helse : ElseUnfolds otherwise)
    (rest : List IfBranch) (hrest : ∀ test body, IfBranch.mk test body ∈ rest → BodyUnfolds body) :
    ∀ (part : OpenIf) (test : Condition) (ss : List Statement) (c : Checker) (n : Nat)
      (o : Option FrameMark), AtBranch part test before → ss.all isEmpty = false →
    ∀ rest' outcomes t otherwise' outcome u,
      IfBranch.checkAll before rest c.left = (.ok (rest', outcomes), t) →
      checkElse before otherwise t = (.ok (otherwise', outcome), u) →
      ∃ s n' o', s.withoutViews =
          (ifElse (part.branches ++ ⟨test, ss⟩ :: rest') otherwise').withoutViews ∧
        (b.inside c (.ifElse part) ss n o).runAll
          (IfBranch.calls .elseIf rest ++ (elseCalls otherwise ++ [.endIf])) =
        (.ok (), b.adding (u.withStates (Nesting.agreedStates before.length
          (part.arms.outcomes ++ c.left.nesting.states :: (outcomes ++ [outcome])))) [s] n' o') := by
  induction rest with
  | nil =>
    intro part test ss c n o hat hne rest' outcomes t otherwise' outcome u hbranches hchecked
    cases hbranches
    cases otherwise with
    | none =>
      cases hchecked
      have houtcomes := (Arms.allOutcomes_close hat.inElse c.left.nesting.states).trans
        (List.append_assoc ..)
      rw [hat.before] at houtcomes
      have hend := endIf_ok (n := n) (o := o) hl (hat.close hne _) rfl (by simp [OpenIf.closed])
        hat.otherwise (fun _ hbody => by cases hbody) hat.before houtcomes
      exact ⟨_, n, o, rfl, Builder.runAll_cons_ok hend []⟩
    | some body =>
      obtain ⟨body', v, hbody, rfl, hr⟩ := checkElse_some_ok.1 hchecked
      cases hr
      obtain ⟨ts, n', o', hts, hrun⟩ := (helse body rfl).1.inside_ok hl
        (k := .ifElse (part.closed test ss c.left.nesting.states).enterElse) rfl hbody [.endIf]
      have hnets := all_isEmpty_of_check hbody hts (helse body rfl).2
      have houtcomes := (Arms.allOutcomes_closeElse
        (a := (part.closed test ss c.left.nesting.states).enterElse.arms) rfl ts
        v.left.nesting.states).trans (List.append_assoc ..)
      have hclose : (part.closed test ss c.left.nesting.states).enterElse.close ts
          v.left.nesting.states = .ok _ := OpenIf.close_else rfl
      have hend := endIf_ok (n := n') (o := o') hl hclose rfl
        (by simp [OpenIf.enterElse, OpenIf.closed]) rfl
        (fun _ hbody => by cases hbody; exact hnets) hat.before houtcomes
      refine ⟨.ifElse (part.branches ++ [⟨test, ss⟩]) (some ts), n', o', ?_, ?_⟩
      · simp only [withoutViews, elseWithoutViews, hts]
      · rw [IfBranch.calls, elseCalls, List.nil_append, List.cons_append,
          Builder.runAll_cons_ok (hat.otherwise_ok hl hne), hrun, Builder.runAll_cons_ok hend]
        rfl
  | cons branch rest ih =>
    intro part test ss c n o hat hne rest' outcomes t otherwise' outcome u hbranches hchecked
    obtain ⟨test', body⟩ := branch
    obtain ⟨htest, body', v, rest'', outcomes'', hbody, hrest', hr⟩ :=
      IfBranch.checkAll_cons_ok.1 hbranches
    cases hr
    have hunfolds := hrest test' body List.mem_cons_self
    obtain ⟨ts, n', o', hts, hrun⟩ := hunfolds.1.inside_ok hl (k := .ifElse _) rfl hbody
      (IfBranch.calls .elseIf rest ++ (elseCalls otherwise ++ [.endIf]))
    have hnets := all_isEmpty_of_check hbody hts hunfolds.2
    obtain ⟨s, n'', o'', hs, hrun'⟩ := ih (fun t b hb => hrest t b (List.mem_cons_of_mem _ hb))
      _ test' ts v n' o' (hat.next ss c.left.nesting.states test') hnets rest'' outcomes'' t
      otherwise' outcome u hrest' hchecked
    refine ⟨s, n'', o'', ?_, ?_⟩
    · rw [hs]
      simp only [OpenIf.closed, withoutViews, IfBranch.allWithoutViews_append,
        IfBranch.allWithoutViews, hts, List.append_assoc, List.cons_append, List.nil_append]
    · rw [IfBranch.calls, List.cons_append, List.append_assoc,
        Builder.runAll_cons_ok (hat.elseIf_ok hl hne htest), hrun, hrun']
      simp [OpenIf.closed, Arms.close]

theorem branches_error (hl : b.consumed = false) (helse : ElseUnfolds otherwise)
    (rest : List IfBranch) (hrest : ∀ test body, IfBranch.mk test body ∈ rest → BodyUnfolds body) :
    ∀ (part : OpenIf) (test : Condition) (ss : List Statement) (c : Checker) (n : Nat)
      (o : Option FrameMark), AtBranch part test before → ss.all isEmpty = false →
    ∀ u, FailsFrom (IfBranch.checkAll before rest) before otherwise e c.left u →
      ∃ b', (b.inside c (.ifElse part) ss n o).runAll
          (IfBranch.calls .elseIf rest ++ (elseCalls otherwise ++ [.endIf])) = (.error e, b') := by
  induction rest with
  | nil =>
    intro part test ss c n o hat hne u hc
    obtain ⟨body, v, rfl, hbody⟩ := hc.in_otherwise rfl
    obtain ⟨b', hrun⟩ := (helse body rfl).1.inside_error hl (k := .ifElse _) rfl hbody [.endIf]
    refine ⟨b', ?_⟩
    rw [IfBranch.calls, elseCalls, List.nil_append, List.cons_append,
      Builder.runAll_cons_ok (hat.otherwise_ok hl hne), hrun]
  | cons branch rest ih =>
    intro part test ss c n o hat hne u hc
    obtain ⟨test', body⟩ := branch
    have hunfolds := hrest test' body List.mem_cons_self
    rw [IfBranch.calls, List.cons_append, List.append_assoc]
    rcases failsFrom_branches_cons hc with htest | ⟨htest, v, hlater⟩
    · obtain ⟨b', hfail⟩ := hat.elseIf_error (n := n) (o := o) hl hne htest
      exact ⟨b', Builder.runAll_cons_error hfail _⟩
    · have hopen := hat.elseIf_ok (n := n) (o := o) hl hne htest
      rcases hlater with hbody | ⟨body', hbody, hlater⟩
      · obtain ⟨b', hrun⟩ := hunfolds.1.inside_error hl (k := .ifElse _) rfl hbody
          (IfBranch.calls .elseIf rest ++ (elseCalls otherwise ++ [.endIf]))
        exact ⟨b', by rw [Builder.runAll_cons_ok hopen, hrun]⟩
      · obtain ⟨ts, n', o', hts, hrun⟩ := hunfolds.1.inside_ok hl (k := .ifElse _) rfl hbody
          (IfBranch.calls .elseIf rest ++ (elseCalls otherwise ++ [.endIf]))
        obtain ⟨b', hrun'⟩ := ih (fun t b hb => hrest t b (List.mem_cons_of_mem _ hb)) _ test' ts v
          n' o' (hat.next ss c.left.nesting.states test')
          (all_isEmpty_of_check hbody hts hunfolds.2) u hlater
        exact ⟨b', by rw [Builder.runAll_cons_ok hopen, hrun, hrun']⟩

theorem unfolds_ifElse {branches : List IfBranch} (hne : branches ≠ [])
    (hbranches : ∀ test body, IfBranch.mk test body ∈ branches → BodyUnfolds body)
    (helse : ElseUnfolds otherwise) : (ifElse branches otherwise).Unfolds := by
  intro b hl ht
  obtain _ | ⟨⟨test, body⟩, rest⟩ := branches
  · exact absurd rfl hne
  have hunfolds := hbranches test body List.mem_cons_self
  have hrest : ∀ test body, IfBranch.mk test body ∈ rest → BodyUnfolds body :=
    fun t b hb => hbranches t b (List.mem_cons_of_mem _ hb)
  have hresolve : ∀ r, (b.checker.noted.withStates b.checker.noted.nesting.states).nesting.resolveAll
      test.outline.variableNames = r →
      b.checker.nesting.resolveAll test.operand.variableNames = r := by
    intro r hr
    rw [Checker.withStates_states, Checker.resolveAll_noted] at hr
    exact hr
  have hopen : b.checker.nesting.resolveAll test.operand.variableNames = .ok () →
      b.perform (.openIf test.operand) = (.ok (), _) := fun htest =>
    Builder.opens_ok hl ht (Construct.ofIf_apply htest)
  constructor
  · intro ss c hc
    obtain ⟨s, hs, rfl⟩ := checkAll_singleton_ok.1 hc
    obtain ⟨branches', outcomes, t, otherwise', outcome, u, hchecked, hchecked', rfl, rfl⟩ :=
      check_ifElse_ok.1 hs
    obtain ⟨htest, body', v, rest', outcomes', hbody, hrest', hr⟩ :=
      IfBranch.checkAll_cons_ok.1 hchecked
    cases hr
    obtain ⟨ts, n, o, hts, hrun⟩ := hunfolds.1.inside_ok hl (k := .ifElse _) rfl hbody
      (IfBranch.calls .elseIf rest ++ (elseCalls otherwise ++ [.endIf]))
    obtain ⟨s, n', o', hs', hrun'⟩ := branches_ok hl helse rest hrest
      { arms := { before := b.checker.noted.nesting.states }, test := test.operand } test ts v n o
      ⟨rfl, rfl, rfl, rfl⟩ (all_isEmpty_of_check hbody hts hunfolds.2) rest' outcomes' t otherwise'
      outcome u hrest' hchecked'
    refine ⟨[s], n', o', ?_, ?_⟩
    · rw [allWithoutViews, hs']
      simp only [allWithoutViews, withoutViews, IfBranch.allWithoutViews, hts, List.nil_append]
    · rw [calls, IfBranch.calls, List.cons_append, List.append_assoc,
        Builder.runAll_cons_ok (hopen (hresolve _ htest)), hrun, hrun']
      rfl
  · intro e c hc
    have hfails := check_ifElse_error (checkAll_singleton_error.1 hc)
    rw [calls, IfBranch.calls, List.cons_append, List.append_assoc]
    rcases failsFrom_branches_cons hfails with htest | ⟨htest, v, hbody | ⟨body', hbody, hlater⟩⟩
    · have hfail : b.perform (.openIf test.operand) = (.error e, _) :=
        Builder.opens_error hl ht (Construct.ofIf_apply (hresolve _ htest))
      exact ⟨_, Builder.runAll_cons_error hfail _⟩
    · exact construct_error (hopen (hresolve _ htest)) hl rfl hunfolds.1 hbody _
    · obtain ⟨ts, n, o, hts, hrun⟩ := hunfolds.1.inside_ok hl (k := .ifElse _) rfl hbody
        (IfBranch.calls .elseIf rest ++ (elseCalls otherwise ++ [.endIf]))
      obtain ⟨b', hrun'⟩ := branches_error hl helse rest hrest
        { arms := { before := b.checker.noted.nesting.states }, test := test.operand } test ts v n o
        ⟨rfl, rfl, rfl, rfl⟩ (all_isEmpty_of_check hbody hts hunfolds.2) c hlater
      exact ⟨b', by rw [Builder.runAll_cons_ok (hopen (hresolve _ htest)), hrun, hrun']⟩

/-! ## Cases -/

/-- The arm that is open in a case. -/
structure AtArm (part : OpenCase) (operand : Operand) (test : Expr) (before : List CursorState) :
    Prop where
  inElse : part.arms.inElse = false
  otherwise : part.arms.otherwise = none
  before : part.arms.before = before
  test : part.test = some (.expr test)
  operand : part.operand = operand
  entered : part.entered = true

/-- The case whose next arm is open. -/
def openArm (part : OpenCase) (test : Expr) : OpenCase :=
  { part with entered := true, test := some (.expr test) }

theorem condition?_expr (e : Expr) : (Operand.expr e).condition?.isSome = e.condition?.isSome := by
  cases e <;> rfl

/-- A case without an operand has conditions for its tests. -/
theorem isSearched_cons {operand : Option Expr} {test : Expr} {rest : List CaseWhen}
    (hkind : operand = none → (CaseWhen.mk test body :: rest).all (·.isSearched) = true)
    (hnone : operand = none) :
    test.condition?.isSome = true ∧ rest.all (·.isSearched) = true := by
  simpa [CaseWhen.isSearched] using hkind hnone

theorem isSearched_append {operand : Option Expr} {test : Expr} {whens : List CaseWhen}
    (hwhens : operand = none → whens.all (·.isSearched) = true ∧ test.condition?.isSome = true)
    (ss : List Statement) (hnone : operand = none) :
    (whens ++ [CaseWhen.mk test ss]).all (·.isSearched) = true := by
  rw [List.all_append, (hwhens hnone).1]
  simp [CaseWhen.isSearched, (hwhens hnone).2]

theorem isNull_ofExpr? {operand : Option Expr} {test : Expr}
    (hkind : operand = none → test.condition?.isSome = true)
    (hnull : (Operand.ofExpr? operand).isNull = true) :
    (Operand.expr test).condition?.isSome = true := by
  rw [condition?_expr]
  cases operand with
  | none => exact hkind rfl
  | some e => cases hnull

namespace AtArm

variable {part : OpenCase} {operand : Option Expr} {test test' : Expr}

theorem close (h : AtArm part (.ofExpr? operand) test before) (hne : ss.all isEmpty = false)
    (states : List CursorState) : part.close ss states = .ok (part.closed test ss states) :=
  (OpenCase.close_eq_ok h.inElse h.test).2 ⟨test, rfl, hne, rfl⟩

theorem next (h : AtArm part (.ofExpr? operand) test before) (ss : List Statement)
    (states : List CursorState) (test' : Expr) :
    AtArm (openArm (part.closed test ss states) test') (.ofExpr? operand) test' before :=
  ⟨h.inElse, h.otherwise, h.before, rfl, h.operand, rfl⟩

theorem aroundArm (h : AtArm part (.ofExpr? operand) test before) (ss : List Statement)
    (states : List CursorState) (c : Checker) :
    Builder.aroundArm (part.closed test ss states) c = c.left := if_pos h.entered

theorem openWhen_ok (hl : b.consumed = false) (h : AtArm part (.ofExpr? operand) test before)
    (hne : ss.all isEmpty = false) (hkind : operand = none → test'.condition?.isSome = true)
    (htest : (c.left.withStates before).nesting.resolveAll test'.outline.variableNames = .ok ()) :
    (b.inside c (.cases part) ss n o).perform (.openWhen (.expr test')) = (.ok (),
      b.inside (c.left.branched before)
        (.cases (openArm (part.closed test ss c.left.nesting.states) test')) [] n o) := by
  have hbefore : (part.closed test ss c.left.nesting.states).arms.before = before := h.before
  have hopen : Builder.openWhen (.expr test') (b.inside c (.cases part) ss n o) = _ :=
    Builder.openWhen_ok hl h.inElse (fun hnull => isNull_ofExpr? hkind (h.operand ▸ hnull))
      (h.close hne _) (by rw [h.aroundArm, hbefore]; exact htest)
  rw [h.aroundArm, hbefore] at hopen
  exact hopen

theorem openWhen_error (hl : b.consumed = false) (h : AtArm part (.ofExpr? operand) test before)
    (hne : ss.all isEmpty = false) (hkind : operand = none → test'.condition?.isSome = true)
    (htest : (c.left.withStates before).nesting.resolveAll test'.outline.variableNames =
      .error e) :
    ∃ b', (b.inside c (.cases part) ss n o).perform (.openWhen (.expr test')) = (.error e, b') := by
  have hbefore : (part.closed test ss c.left.nesting.states).arms.before = before := h.before
  have hopen : Builder.openWhen (.expr test') (b.inside c (.cases part) ss n o) = _ :=
    Builder.openWhen_error hl h.inElse (fun hnull => isNull_ofExpr? hkind (h.operand ▸ hnull))
      (h.close hne _) (by rw [h.aroundArm, hbefore]; exact htest)
  exact ⟨_, hopen⟩

theorem otherwise_ok (hl : b.consumed = false) (h : AtArm part (.ofExpr? operand) test before)
    (hne : ss.all isEmpty = false) :
    (b.inside c (.cases part) ss n o).perform .otherwise = (.ok (),
      b.inside (c.left.branched before)
        (.cases (part.closed test ss c.left.nesting.states).enterElse) [] n o) := by
  have hbefore : (part.closed test ss c.left.nesting.states).arms.before = before := h.before
  have helse : (b.inside c (.cases part) ss n o).perform .otherwise = _ :=
    Builder.otherwise_cases hl h.inElse (by rw [h.test]; rfl) (h.close hne _)
  rw [hbefore] at helse
  exact helse

end AtArm

/-- Closing a case whose arms and whose `ELSE` have something to execute. -/
theorem endCase_ok {part part' : OpenCase} {outcomes : List (List CursorState)}
    {operand : Option Expr} {whens : List CaseWhen} (hl : b.consumed = false)
    (hentered : part.entered = true) (hclose : part.close ss c.left.nesting.states = .ok part')
    (hoperand : part'.operand = .ofExpr? operand) (hwhens : part'.whens = whens) (hne : whens ≠ [])
    (hkind : operand = none → whens.all (·.isSearched) = true)
    (hotherwise : part'.arms.otherwise = otherwise)
    (helse : ∀ body, otherwise = some body → body.all isEmpty = false)
    (hbefore : part'.arms.before = before) (houtcomes : part'.arms.allOutcomes = outcomes) :
    (b.inside c (.cases part) ss n o).perform .endCase = (.ok (),
      b.adding (c.left.withStates (Nesting.agreedStates before.length outcomes))
        [.cases operand whens otherwise] n o) := by
  have hmake : makeCase part'.operand whens otherwise = .ok (.cases operand whens otherwise) := by
    have hempty : ¬ whens.isEmpty = true := by simp [hne]
    have hsearched : ¬ ((Operand.ofExpr? operand).isNull = true ∧
        (!whens.all (·.isSearched)) = true) := by
      rintro ⟨hnull, hnot⟩
      cases operand with
      | none => simp [hkind rfl] at hnot
      | some e => cases hnull
    have hmapM : (Operand.ofExpr? operand).ifAny.mapM (·.toExpr) = .ok operand := by
      cases operand <;> rfl
    unfold makeCase
    rw [hoperand, if_neg hempty, if_neg hsearched, hmapM]
    show (otherwise.forM (checkBody "ELSE") >>= fun _ => _) = _
    rw [checkBody_forM_ok "ELSE" helse]
    rfl
  have hscopes : Checker.leaveScopes (Construct.cases part).scopeCount c = c.left := by
    show Checker.leaveScopes (if part.entered then 1 else 0) c = _
    rw [hentered]
    rfl
  subst hwhens hotherwise hbefore houtcomes
  refine Builder.closes_ok hl rfl ?_
  rw [hscopes]
  show (states >>= fun s => made (part.close ss s) >>= _) c.left = _
  rw [states_bind, hclose]
  refine (bind_of_ok (made_eq.2 ⟨rfl, rfl⟩)).trans ?_
  rw [mergeStates_bind, hmake]
  rfl

/-- The calls for what comes after an open arm. -/
theorem arms_ok {operand : Option Expr} (hl : b.consumed = false) (helse : ElseUnfolds otherwise)
    (rest : List CaseWhen) (hrest : ∀ test body, CaseWhen.mk test body ∈ rest → BodyUnfolds body)
    (hkind : operand = none → rest.all (·.isSearched) = true) :
    ∀ (part : OpenCase) (test : Expr) (ss : List Statement) (c : Checker) (n : Nat)
      (o : Option FrameMark), AtArm part (.ofExpr? operand) test before → ss.all isEmpty = false →
      (operand = none → part.whens.all (·.isSearched) = true ∧ test.condition?.isSome = true) →
    ∀ rest' outcomes t otherwise' outcome u,
      CaseWhen.checkAll before rest c.left = (.ok (rest', outcomes), t) →
      checkElse before otherwise t = (.ok (otherwise', outcome), u) →
      ∃ s n' o', s.withoutViews =
          (cases operand (part.whens ++ ⟨test, ss⟩ :: rest') otherwise').withoutViews ∧
        (b.inside c (.cases part) ss n o).runAll
          (CaseWhen.calls rest ++ (elseCalls otherwise ++ [.endCase])) =
        (.ok (), b.adding (u.withStates (Nesting.agreedStates before.length
          (part.arms.outcomes ++ c.left.nesting.states :: (outcomes ++ [outcome])))) [s] n' o') := by
  induction rest with
  | nil =>
    intro part test ss c n o hat hne hpart rest' outcomes t otherwise' outcome u hwhens hchecked
    cases hwhens
    have hsearched := isSearched_append hpart ss
    cases otherwise with
    | none =>
      cases hchecked
      have houtcomes := (Arms.allOutcomes_close hat.inElse c.left.nesting.states).trans
        (List.append_assoc ..)
      rw [hat.before] at houtcomes
      have hend := endCase_ok (n := n) (o := o) hl hat.entered (hat.close hne _) hat.operand rfl
        (by simp [OpenCase.closed]) hsearched hat.otherwise (fun _ hbody => by cases hbody)
        hat.before houtcomes
      exact ⟨_, n, o, rfl, Builder.runAll_cons_ok hend []⟩
    | some body =>
      obtain ⟨body', v, hbody, rfl, hr⟩ := checkElse_some_ok.1 hchecked
      cases hr
      obtain ⟨ts, n', o', hts, hrun⟩ := (helse body rfl).1.inside_ok hl
        (k := .cases (part.closed test ss c.left.nesting.states).enterElse) hat.entered hbody
        [.endCase]
      have hnets := all_isEmpty_of_check hbody hts (helse body rfl).2
      have houtcomes := (Arms.allOutcomes_closeElse
        (a := (part.closed test ss c.left.nesting.states).enterElse.arms) rfl ts
        v.left.nesting.states).trans (List.append_assoc ..)
      have hclose : (part.closed test ss c.left.nesting.states).enterElse.close ts
          v.left.nesting.states = .ok _ := OpenCase.close_else rfl
      have hentered : (part.closed test ss c.left.nesting.states).enterElse.entered = true :=
        hat.entered
      have hend := endCase_ok (n := n') (o := o') hl hentered hclose hat.operand rfl
        (by simp [OpenCase.enterElse, OpenCase.closed]) hsearched rfl
        (fun _ hbody => by cases hbody; exact hnets) hat.before houtcomes
      refine ⟨.cases operand (part.whens ++ [⟨test, ss⟩]) (some ts), n', o', ?_, ?_⟩
      · simp only [withoutViews, elseWithoutViews, hts]
      · rw [CaseWhen.calls, elseCalls, List.nil_append, List.cons_append,
          Builder.runAll_cons_ok (hat.otherwise_ok hl hne), hrun, Builder.runAll_cons_ok hend]
        rfl
  | cons arm rest ih =>
    intro part test ss c n o hat hne hpart rest' outcomes t otherwise' outcome u hwhens hchecked
    obtain ⟨test', body⟩ := arm
    obtain ⟨htest, body', v, rest'', outcomes'', hbody, hrest', hr⟩ :=
      CaseWhen.checkAll_cons_ok.1 hwhens
    cases hr
    have hunfolds := hrest test' body List.mem_cons_self
    have hsearched := isSearched_cons hkind
    have hopen := hat.openWhen_ok (n := n) (o := o) hl hne (fun hnone => (hsearched hnone).1) htest
    obtain ⟨ts, n', o', hts, hrun⟩ := hunfolds.1.inside_ok hl
      (k := .cases (openArm (part.closed test ss c.left.nesting.states) test')) rfl hbody
      (CaseWhen.calls rest ++ (elseCalls otherwise ++ [.endCase]))
    have hnets := all_isEmpty_of_check hbody hts hunfolds.2
    obtain ⟨s, n'', o'', hs, hrun'⟩ := ih (fun t b hb => hrest t b (List.mem_cons_of_mem _ hb))
      (fun hnone => (hsearched hnone).2) _ test' ts v n' o'
      (hat.next ss c.left.nesting.states test') hnets
      (fun hnone => ⟨isSearched_append hpart ss hnone, (hsearched hnone).1⟩)
      rest'' outcomes'' t otherwise' outcome u hrest' hchecked
    refine ⟨s, n'', o'', ?_, ?_⟩
    · rw [hs]
      simp only [openArm, OpenCase.closed, withoutViews, CaseWhen.allWithoutViews_append,
        CaseWhen.allWithoutViews, hts, List.append_assoc, List.cons_append, List.nil_append]
    · rw [CaseWhen.calls, List.cons_append, List.append_assoc, Builder.runAll_cons_ok hopen, hrun,
        hrun']
      simp [openArm, OpenCase.closed, Arms.close]

theorem arms_error {operand : Option Expr} (hl : b.consumed = false)
    (helse : ElseUnfolds otherwise) (rest : List CaseWhen)
    (hrest : ∀ test body, CaseWhen.mk test body ∈ rest → BodyUnfolds body)
    (hkind : operand = none → rest.all (·.isSearched) = true) :
    ∀ (part : OpenCase) (test : Expr) (ss : List Statement) (c : Checker) (n : Nat)
      (o : Option FrameMark), AtArm part (.ofExpr? operand) test before → ss.all isEmpty = false →
    ∀ u, FailsFrom (CaseWhen.checkAll before rest) before otherwise e c.left u →
      ∃ b', (b.inside c (.cases part) ss n o).runAll
          (CaseWhen.calls rest ++ (elseCalls otherwise ++ [.endCase])) = (.error e, b') := by
  induction rest with
  | nil =>
    intro part test ss c n o hat hne u hc
    obtain ⟨body, v, rfl, hbody⟩ := hc.in_otherwise rfl
    obtain ⟨b', hrun⟩ := (helse body rfl).1.inside_error hl
      (k := .cases (part.closed test ss c.left.nesting.states).enterElse) hat.entered hbody
      [.endCase]
    refine ⟨b', ?_⟩
    rw [CaseWhen.calls, elseCalls, List.nil_append, List.cons_append,
      Builder.runAll_cons_ok (hat.otherwise_ok hl hne), hrun]
  | cons arm rest ih =>
    intro part test ss c n o hat hne u hc
    obtain ⟨test', body⟩ := arm
    have hunfolds := hrest test' body List.mem_cons_self
    have hsearched := isSearched_cons hkind
    rw [CaseWhen.calls, List.cons_append, List.append_assoc]
    rcases failsFrom_arms_cons hc with htest | ⟨htest, v, hlater⟩
    · obtain ⟨b', hfail⟩ := hat.openWhen_error (n := n) (o := o) hl hne
        (fun hnone => (hsearched hnone).1) htest
      exact ⟨b', Builder.runAll_cons_error hfail _⟩
    · have hopen := hat.openWhen_ok (n := n) (o := o) hl hne (fun hnone => (hsearched hnone).1)
        htest
      rcases hlater with hbody | ⟨body', hbody, hlater⟩
      · obtain ⟨b', hrun⟩ := hunfolds.1.inside_error hl
          (k := .cases (openArm (part.closed test ss c.left.nesting.states) test')) rfl hbody
          (CaseWhen.calls rest ++ (elseCalls otherwise ++ [.endCase]))
        exact ⟨b', by rw [Builder.runAll_cons_ok hopen, hrun]⟩
      · obtain ⟨ts, n', o', hts, hrun⟩ := hunfolds.1.inside_ok hl
          (k := .cases (openArm (part.closed test ss c.left.nesting.states) test')) rfl hbody
          (CaseWhen.calls rest ++ (elseCalls otherwise ++ [.endCase]))
        obtain ⟨b', hrun'⟩ := ih (fun t b hb => hrest t b (List.mem_cons_of_mem _ hb))
          (fun hnone => (hsearched hnone).2) _ test' ts v n' o'
          (hat.next ss c.left.nesting.states test') (all_isEmpty_of_check hbody hts hunfolds.2)
          u hlater
        exact ⟨b', by rw [Builder.runAll_cons_ok hopen, hrun, hrun']⟩

/-- A case without an open arm. -/
def beforeArms (operand : Option Expr) (before : List CursorState) : OpenCase where
  arms := { before }
  operand := .ofExpr? operand

theorem close_beforeArms (operand : Option Expr) (before states : List CursorState) :
    (beforeArms operand before).close [] states = .ok (beforeArms operand before) := rfl

/-- The first arm of a case is opened where no other one is. -/
theorem openWhen_first {operand : Option Expr} {test : Expr} (hl : b.consumed = false)
    (hkind : operand = none → test.condition?.isSome = true)
    (htest : (c.withStates before).nesting.resolveAll test.outline.variableNames = .ok ()) :
    (b.inside c (.cases (beforeArms operand before)) [] n o).perform (.openWhen (.expr test)) =
      (.ok (), b.inside (c.branched before)
        (.cases (openArm (beforeArms operand before) test)) [] n o) := by
  have hopen : Builder.openWhen (.expr test)
      (b.inside c (.cases (beforeArms operand before)) [] n o) = _ :=
    Builder.openWhen_ok hl rfl (isNull_ofExpr? hkind)
      (close_beforeArms operand before c.left.nesting.states) htest
  exact hopen

theorem openWhen_first_error {operand : Option Expr} {test : Expr} (hl : b.consumed = false)
    (hkind : operand = none → test.condition?.isSome = true)
    (htest : (c.withStates before).nesting.resolveAll test.outline.variableNames = .error e) :
    ∃ b', (b.inside c (.cases (beforeArms operand before)) [] n o).perform
      (.openWhen (.expr test)) = (.error e, b') := by
  have hopen : Builder.openWhen (.expr test)
      (b.inside c (.cases (beforeArms operand before)) [] n o) = _ :=
    Builder.openWhen_error hl rfl (isNull_ofExpr? hkind)
      (close_beforeArms operand before c.left.nesting.states) htest
  exact ⟨_, hopen⟩

theorem unfolds_cases {operand : Option Expr} {whens : List CaseWhen} (hne : whens ≠ [])
    (hkind : operand = none → whens.all (·.isSearched) = true)
    (hwhens : ∀ test body, CaseWhen.mk test body ∈ whens → BodyUnfolds body)
    (helse : ElseUnfolds otherwise) : (cases operand whens otherwise).Unfolds := by
  intro b hl ht
  obtain _ | ⟨⟨test, body⟩, rest⟩ := whens
  · exact absurd rfl hne
  have hunfolds := hwhens test body List.mem_cons_self
  have hrest : ∀ test body, CaseWhen.mk test body ∈ rest → BodyUnfolds body :=
    fun t b hb => hwhens t b (List.mem_cons_of_mem _ hb)
  have hsearched := isSearched_cons hkind
  have hresolve : ∀ r, b.checker.noted.nesting.resolveAll
      ((operand.map (·.outline.variableNames)).getD []) = r →
      b.checker.noted.nesting.resolveAll (Operand.ofExpr? operand).variableNames = r := by
    intro r hr
    cases operand <;> exact hr
  have hopen : b.checker.noted.nesting.resolveAll (Operand.ofExpr? operand).variableNames = .ok () →
      b.perform (.openCase (.ofExpr? operand)) = (.ok (), b.inside b.checker.noted
        (.cases (beforeArms operand b.checker.noted.nesting.states)) [] _ _) := fun hoperand =>
    Builder.opens_ok hl ht (Construct.ofCase_apply hoperand)
  have hopenWhen : ∀ n o, (b.checker.noted.withStates
      b.checker.noted.nesting.states).nesting.resolveAll test.outline.variableNames = .ok () →
      (b.inside b.checker.noted (.cases (beforeArms operand b.checker.noted.nesting.states)) []
        n o).perform (.openWhen (.expr test)) = (.ok (), _) := fun n o htest =>
    openWhen_first hl (fun hnone => (hsearched hnone).1) htest
  constructor
  · intro ss c hc
    obtain ⟨s, hs, rfl⟩ := checkAll_singleton_ok.1 hc
    obtain ⟨hoperand, whens', outcomes, t, otherwise', outcome, u, hchecked, hchecked', rfl, rfl⟩ :=
      check_cases_ok.1 hs
    obtain ⟨htest, body', v, rest', outcomes', hbody, hrest', hr⟩ :=
      CaseWhen.checkAll_cons_ok.1 hchecked
    cases hr
    obtain ⟨ts, n, o, hts, hrun⟩ := hunfolds.1.inside_ok hl
      (k := .cases (openArm (beforeArms operand b.checker.noted.nesting.states) test)) rfl hbody
      (CaseWhen.calls rest ++ (elseCalls otherwise ++ [.endCase]))
    obtain ⟨s, n', o', hs', hrun'⟩ := arms_ok hl helse rest hrest
      (fun hnone => (hsearched hnone).2)
      (openArm (beforeArms operand b.checker.noted.nesting.states) test) test ts v n o
      ⟨rfl, rfl, rfl, rfl, rfl, rfl⟩ (all_isEmpty_of_check hbody hts hunfolds.2)
      (fun hnone => ⟨rfl, (hsearched hnone).1⟩) rest' outcomes' t otherwise' outcome u hrest'
      hchecked'
    refine ⟨[s], n', o', ?_, ?_⟩
    · rw [allWithoutViews, hs']
      simp only [allWithoutViews, withoutViews, CaseWhen.allWithoutViews, hts, openArm, beforeArms,
        List.nil_append]
    · rw [calls, CaseWhen.calls, List.cons_append, List.append_assoc,
        Builder.runAll_cons_ok (hopen (hresolve _ hoperand)),
        Builder.runAll_cons_ok (hopenWhen _ _ htest), hrun, hrun']
      rfl
  · intro e c hc
    rw [calls, CaseWhen.calls, List.cons_append, List.append_assoc]
    rcases check_cases_error (checkAll_singleton_error.1 hc) with hoperand | ⟨hoperand, hfails⟩
    · have hfail : b.perform (.openCase (.ofExpr? operand)) = (.error e, _) :=
        Builder.opens_error hl ht (Construct.ofCase_apply (hresolve _ hoperand))
      exact ⟨_, Builder.runAll_cons_error hfail _⟩
    · rw [Builder.runAll_cons_ok (hopen (hresolve _ hoperand))]
      rcases failsFrom_arms_cons hfails with htest | ⟨htest, v, hbody | ⟨body', hbody, hlater⟩⟩
      · obtain ⟨b', hfail⟩ := openWhen_first_error hl (fun hnone => (hsearched hnone).1) htest
        exact ⟨b', Builder.runAll_cons_error hfail _⟩
      · obtain ⟨b', hrun⟩ := hunfolds.1.inside_error hl
          (k := .cases (openArm (beforeArms operand b.checker.noted.nesting.states) test)) rfl hbody
          (CaseWhen.calls rest ++ (elseCalls otherwise ++ [.endCase]))
        exact ⟨b', by rw [Builder.runAll_cons_ok (hopenWhen _ _ htest), hrun]⟩
      · obtain ⟨ts, n, o, hts, hrun⟩ := hunfolds.1.inside_ok hl
          (k := .cases (openArm (beforeArms operand b.checker.noted.nesting.states) test)) rfl hbody
          (CaseWhen.calls rest ++ (elseCalls otherwise ++ [.endCase]))
        obtain ⟨b', hrun'⟩ := arms_error hl helse rest hrest (fun hnone => (hsearched hnone).2)
          (openArm (beforeArms operand b.checker.noted.nesting.states) test) test ts v n o
          ⟨rfl, rfl, rfl, rfl, rfl, rfl⟩ (all_isEmpty_of_check hbody hts hunfolds.2) c hlater
        exact ⟨b', by rw [Builder.runAll_cons_ok (hopenWhen _ _ htest), hrun, hrun']⟩

end Statement
end StoredSql
