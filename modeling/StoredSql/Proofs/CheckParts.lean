import StoredSql.Proofs.Outcome
import StoredSql.Proofs.Stepwise

/-!
# What the check of a construct is made of

One pair of lemmas for each construct: what the check of it has done where it succeeds, and in which
of its parts it fails where it fails. Later proofs take a check apart by these lemmas alone.
-/

namespace StoredSql

open Check Stepwise

/-- The checker within a branch, with the states from before the conditional. -/
def Checker.branched (before : List CursorState) (c : Checker) : Checker :=
  (c.withStates before).entered { kind := .branch, rows := (c.withStates before).nesting.inner.rows }

/-- The checker within the scope of a handler, where no state of a cursor is known. -/
def Checker.handling (c : Checker) : Checker :=
  (c.entered { kind := .handler, rows := c.nesting.inner.rows }).withUnknownStates

/-- The answer to whether the variables are visible. -/
def Nesting.resolveAll (n : Nesting) (names : List String) : Except Error Unit :=
  names.forM n.resolveVariable

/-- What a name means depends on the variables that are declared and on the rows that are seen. -/
theorem Nesting.resolveVariable_congr {n m : Nesting} (hrows : n.inner.rows = m.inner.rows)
    (hnames : ∀ name, (n.scopes.any fun s => Scope.hasName s.variableNames name) =
      m.scopes.any fun s => Scope.hasName s.variableNames name) :
    n.resolveVariable = m.resolveVariable := by
  funext name
  unfold resolveVariable
  rw [hnames, hrows]

theorem Nesting.resolveAll_congr {n m : Nesting} (hrows : n.inner.rows = m.inner.rows)
    (hnames : ∀ name, (n.scopes.any fun s => Scope.hasName s.variableNames name) =
      m.scopes.any fun s => Scope.hasName s.variableNames name) (names : List String) :
    n.resolveAll names = m.resolveAll names := by
  unfold resolveAll
  rw [resolveVariable_congr hrows hnames]

/-- A scope is made for a label that can be one and is free; nothing is declared in it. -/
theorem Nesting.child_eq_ok {n : Nesting} {kind : ScopeKind} {label : Option String}
    {scope : Scope} : n.child kind label = .ok scope ↔
      (∀ l, label = some l →
        Identifier.checkLabel l = .ok l ∧ Scope.hasName n.openLabels l = false) ∧
      { kind, label, rows := n.inner.rows } = scope := by
  cases label with
  | none =>
    constructor
    · rintro ⟨⟩
      exact ⟨nofun, rfl⟩
    · rintro ⟨_, rfl⟩
      rfl
  | some l =>
    unfold child
    constructor
    · intro h
      obtain ⟨l', hl, hscope⟩ := Outcome.bind_eq_ok.1 h
      obtain ⟨rfl, _, _⟩ := Identifier.checkLabel_eq_ok_iff.1 hl
      cases hfree : Scope.hasName n.openLabels l' with
      | true =>
        simp only [hfree] at hscope
        cases hscope
      | false =>
        simp only [hfree] at hscope
        cases hscope
        refine ⟨?_, rfl⟩
        rintro _ ⟨⟩
        exact ⟨hl, hfree⟩
    · rintro ⟨hlabel, rfl⟩
      obtain ⟨hl, hfree⟩ := hlabel l rfl
      exact Outcome.bind_eq_ok.2 ⟨l, hl, if_neg (Bool.eq_false_iff.1 hfree)⟩

/-- Setting the states that there are changes nothing. -/
theorem Nesting.withStates_states (n : Nesting) : n.withStates n.states = n := by
  have hcursors : ∀ (cs : List Cursor) (more : List CursorState),
      Scope.setStates cs (cs.map (·.state) ++ more) = cs := by
    intro cs more
    induction cs with
    | nil => rfl
    | cons c cs ih => exact congrArg (c :: ·) ih
  have hscopes : ∀ ss : List Scope, setStates ss (ss.flatMap (·.states)) = ss := by
    intro ss
    induction ss with
    | nil => rfl
    | cons s ss ih =>
      have hdrop : (s.states ++ ss.flatMap (·.states)).drop s.cursors.length =
          ss.flatMap (·.states) :=
        List.drop_left' (by simp [Scope.states])
      rw [List.flatMap_cons, setStates, hdrop, ih]
      exact congrArg (· :: ss) (congrArg (fun cs => { s with cursors := cs }) (hcursors _ _))
  exact congrArg n.ofScopes (hscopes n.scopes)

variable {c c' : Checker} {e : Error}

namespace Checker

theorem withStates_states (c : Checker) : c.withStates c.nesting.states = c :=
  congrArg (fun n => { c with nesting := n }) (Nesting.withStates_states c.nesting)

theorem labelled_nesting (label : Option String) (c : Checker) :
    (c.labelled label).2.nesting = c.nesting := by
  unfold labelled
  cases Text.nonEmpty label <;> rfl

/-- A given label is the one that the construct gets. -/
theorem labelled_of_nonEmpty {label : Option String} {l : String}
    (h : Text.nonEmpty label = some l) (c : Checker) : c.labelled label = (l, c) := by
  unfold labelled
  rw [h]

theorem labelled_ne_empty (label : Option String) (c : Checker) : (c.labelled label).1 ≠ "" := by
  unfold labelled
  cases hl : Text.nonEmpty label with
  | none =>
    intro h
    have hparts := (String.append_eq_empty_iff.1 h).1
    exact absurd (String.append_eq_empty_iff.1 hparts).2 (by decide)
  | some l =>
    rintro rfl
    cases label with
    | none => cases hl
    | some l =>
      rw [Text.nonEmpty_some] at hl
      split at hl
      · cases hl
      · rename_i hne
        exact hne (Option.some.inj hl)

/-- A construct that has got a label keeps it. -/
theorem labelled_labelled (label : Option String) (c d : Checker) :
    d.labelled (some (c.labelled label).1) = ((c.labelled label).1, d) :=
  labelled_of_nonEmpty (by rw [Text.nonEmpty_some, if_neg (c.labelled_ne_empty label)]) d

/-- A statement that is executed does not change what names mean. -/
theorem resolveAll_noted (c : Checker) (names : List String) :
    c.noted.nesting.resolveAll names = c.nesting.resolveAll names := by
  have hnames : c.nesting.inner.noteStatement.variableNames = c.nesting.inner.variableNames :=
    congrArg (·.variableNames) c.nesting.inner.noteStatement_eq
  have hrows : c.noted.nesting.inner.rows = c.nesting.inner.rows :=
    congrArg (·.rows) c.nesting.inner.noteStatement_eq
  refine Nesting.resolveAll_congr hrows (fun name => ?_) names
  show (Scope.hasName c.nesting.inner.noteStatement.variableNames name || _) = _
  rw [hnames]
  rfl

/-- Names mean within a branch what they mean around it. -/
theorem resolveAll_branched (before : List CursorState) (c : Checker) (names : List String) :
    (c.branched before).nesting.resolveAll names =
      (c.withStates before).nesting.resolveAll names :=
  Nesting.resolveAll_congr rfl (fun _ => rfl) names

end Checker

namespace Check

theorem resolveAll_eq {names : List String} {r : Except Error Unit} :
    resolveAll names c = (r, c') ↔ c.nesting.resolveAll names = r ∧ c = c' := pair_eq

theorem enterBranch_bind {β : Type} (before : List CursorState) (f : Unit → Check β)
    (c : Checker) : (enterBranch before >>= f) c = f () (c.branched before) :=
  bind_of_ok rfl

end Check

/-! ## Lists of statements -/

namespace Statement

theorem checkAll_nil (c : Checker) : checkAll [] c = (.ok [], c) := rfl

theorem checkAll_cons_ok {s : Statement} {ss ss' : List Statement} :
    checkAll (s :: ss) c = (.ok ss', c') ↔
      ∃ s' t rest, s.check c = (.ok s', t) ∧ checkAll ss t = (.ok rest, c') ∧ s' :: rest = ss' := by
  rw [checkAll]
  simp only [bind_ok, pure_eq, Except.ok.injEq]
  constructor
  · rintro ⟨s', t, hs, rest, _, hss, rfl, rfl⟩
    exact ⟨s', t, rest, hs, hss, rfl⟩
  · rintro ⟨s', t, rest, hs, hss, rfl⟩
    exact ⟨s', t, hs, rest, _, hss, rfl, rfl⟩

theorem checkAll_cons_error {s : Statement} {ss : List Statement} :
    checkAll (s :: ss) c = (.error e, c') ↔ s.check c = (.error e, c') ∨
      ∃ s' t, s.check c = (.ok s', t) ∧ checkAll ss t = (.error e, c') := by
  rw [checkAll]
  simp only [bind_error, pure_eq, reduceCtorEq, false_and, and_false, exists_false, or_false]

theorem checkAll_singleton_ok {s : Statement} {ss : List Statement} :
    checkAll [s] c = (.ok ss, c') ↔ ∃ s', s.check c = (.ok s', c') ∧ [s'] = ss := by
  rw [checkAll_cons_ok]
  constructor
  · rintro ⟨s', t, rest, hs, hrest, rfl⟩
    cases hrest
    exact ⟨s', hs, rfl⟩
  · rintro ⟨s', hs, rfl⟩
    exact ⟨s', c', [], hs, rfl, rfl⟩

theorem checkAll_singleton_error {s : Statement} :
    checkAll [s] c = (.error e, c') ↔ s.check c = (.error e, c') := by
  rw [checkAll_cons_error]
  constructor
  · rintro (h | ⟨_, _, _, h⟩)
    · exact h
    · cases h
  · exact .inl

theorem checkAll_append_ok {ss ts us : List Statement} :
    checkAll (ss ++ ts) c = (.ok us, c') ↔ ∃ ss' t ts', checkAll ss c = (.ok ss', t) ∧
      checkAll ts t = (.ok ts', c') ∧ ss' ++ ts' = us := by
  induction ss generalizing c us with
  | nil =>
    constructor
    · intro h
      exact ⟨[], c, us, rfl, h, rfl⟩
    · rintro ⟨ss', t, ts', h, hts, rfl⟩
      cases h
      exact hts
  | cons s ss ih =>
    simp only [List.cons_append, checkAll_cons_ok, ih]
    constructor
    · rintro ⟨s', t, _, hs, ⟨ss', r, ts', hss, hts, rfl⟩, rfl⟩
      exact ⟨s' :: ss', r, ts', ⟨s', t, ss', hs, hss, rfl⟩, hts, rfl⟩
    · rintro ⟨_, r, ts', ⟨s', t, ss', hs, hss, rfl⟩, hts, rfl⟩
      exact ⟨s', t, _, hs, ⟨ss', r, ts', hss, hts, rfl⟩, rfl⟩

end Statement

/-! ## Blocks and handlers -/

theorem Block.check_ok {ss : List Statement} {label : Option String} {v : Option ScopeView}
    {b : Block} : (Block.mk ss label v).check c = (.ok b, c') ↔
      ∃ scope ss' t, c.nesting.child .block label = .ok scope ∧
        Statement.checkAll ss (c.entered scope) = (.ok ss', t) ∧ t.left = c' ∧
        .mk ss' label (some (c.entered scope).nesting.view) = b := by
  rw [Block.check]
  simp only [bind_ok, child_eq, within_eq, view_bind, pure_eq, Except.ok.injEq]
  constructor
  · rintro ⟨scope, _, ⟨hscope, rfl⟩, _, _, ⟨t, ⟨ss', _, hss, rfl, rfl⟩, rfl⟩, rfl, rfl⟩
    exact ⟨scope, ss', _, hscope, hss, rfl, rfl⟩
  · rintro ⟨scope, ss', t, hscope, hss, rfl, rfl⟩
    exact ⟨scope, _, ⟨hscope, rfl⟩, _, _, ⟨t, ⟨ss', _, hss, rfl, rfl⟩, rfl⟩, rfl, rfl⟩

theorem Block.check_error {ss : List Statement} {label : Option String} {v : Option ScopeView}
    (h : (Block.mk ss label v).check c = (.error e, c')) :
    c.nesting.child .block label = .error e ∨
      ∃ scope t, c.nesting.child .block label = .ok scope ∧
        Statement.checkAll ss (c.entered scope) = (.error e, t) := by
  rw [Block.check] at h
  simp only [bind_error, bind_ok, child_eq, within_eq, view_bind, pure_eq, reduceCtorEq, false_and,
    and_false, exists_false, or_false] at h
  rcases h with ⟨h, _⟩ | ⟨scope, _, ⟨hscope, rfl⟩, t, hss, _⟩
  · exact .inl h
  · exact .inr ⟨scope, t, hscope, hss⟩

namespace Statement

theorem check_block_ok {b : Block} {s : Statement} :
    (block b).check c = (.ok s, c') ↔ ∃ b', b.check c.noted = (.ok b', c') ∧ .block b' = s := by
  rw [check_block, noteStatement_bind]
  simp only [bind_ok, pure_eq, Except.ok.injEq]
  constructor
  · rintro ⟨b', _, h, rfl, rfl⟩
    exact ⟨b', h, rfl⟩
  · rintro ⟨b', h, rfl⟩
    exact ⟨b', _, h, rfl, rfl⟩

theorem check_block_error {b : Block} (h : (block b).check c = (.error e, c')) :
    b.check c.noted = (.error e, c') := by
  rw [check_block, noteStatement_bind, bind_error] at h
  rcases h with h | ⟨_, _, _, h⟩
  · exact h
  · cases h

theorem check_declareHandler_ok {action : HandlerAction} {conditions : List ConditionValue}
    {body s : Statement} : (declareHandler action conditions body).check c = (.ok s, c') ↔
      ∃ t u body' v, declare (·.declareHandler) c = (.ok (), t) ∧
        resolveConditions conditions t = (.ok (), u) ∧ body.check u.handling = (.ok body', v) ∧
        v.left.withStates u.nesting.states = c' ∧
        .declareHandler action conditions body' = s := by
  rw [check]
  simp only [bind_ok, states_bind, child_none_bind, keepStates_eq, within_eq, unknownStates_bind,
    pure_eq, Except.ok.injEq]
  constructor
  · rintro ⟨_, t, ht, _, u, hu, body', _, ⟨_, ⟨v, hv, rfl⟩, rfl⟩, rfl, rfl⟩
    exact ⟨t, u, body', v, ht, hu, hv, rfl, rfl⟩
  · rintro ⟨t, u, body', v, ht, hu, hv, rfl, rfl⟩
    exact ⟨_, t, ht, _, u, hu, body', _, ⟨_, ⟨v, hv, rfl⟩, rfl⟩, rfl, rfl⟩

theorem check_declareHandler_error {action : HandlerAction} {conditions : List ConditionValue}
    {body : Statement} (h : (declareHandler action conditions body).check c = (.error e, c')) :
    declare (·.declareHandler) c = (.error e, c') ∨
      ∃ t, declare (·.declareHandler) c = (.ok (), t) ∧
        (resolveConditions conditions t = (.error e, c') ∨
          ∃ u v, resolveConditions conditions t = (.ok (), u) ∧
            body.check u.handling = (.error e, v) ∧
            v.left.withStates u.nesting.states = c') := by
  rw [check] at h
  simp only [bind_error, states_bind, child_none_bind, keepStates_eq, within_eq,
    unknownStates_bind, pure_eq, reduceCtorEq, false_and, and_false, exists_false, or_false] at h
  rcases h with h | ⟨_, t, ht, h⟩
  · exact .inl h
  · refine .inr ⟨t, ht, ?_⟩
    rcases h with h | ⟨_, u, hu, _, ⟨v, hv, rfl⟩, rfl⟩
    · exact .inl h
    · exact .inr ⟨u, v, hu, hv, rfl⟩

/-! ## Loops -/

theorem check_loop_ok {label : Option String} {body : List Statement} {s : Statement} :
    (loop label body).check c = (.ok s, c') ↔
      ∃ scope body' t, (c.noted.labelled label).2.nesting.child .loop
          (some (c.noted.labelled label).1) = .ok scope ∧
        checkAll body ((c.noted.labelled label).2.entered scope) = (.ok body', t) ∧ t.left = c' ∧
        .loop (some (c.noted.labelled label).1) body' = s := by
  rw [check, noteStatement_bind, labelOr_bind]
  simp only [bind_ok, child_eq, within_eq, pure_eq, Except.ok.injEq]
  constructor
  · rintro ⟨scope, _, ⟨hscope, rfl⟩, body', _, ⟨t, hbody, rfl⟩, rfl, rfl⟩
    exact ⟨scope, body', t, hscope, hbody, rfl, rfl⟩
  · rintro ⟨scope, body', t, hscope, hbody, rfl, rfl⟩
    exact ⟨scope, _, ⟨hscope, rfl⟩, body', _, ⟨t, hbody, rfl⟩, rfl, rfl⟩

theorem check_loop_error {label : Option String} {body : List Statement}
    (h : (loop label body).check c = (.error e, c')) :
    (c.noted.labelled label).2.nesting.child .loop (some (c.noted.labelled label).1) = .error e ∨
      ∃ scope t, (c.noted.labelled label).2.nesting.child .loop
          (some (c.noted.labelled label).1) = .ok scope ∧
        checkAll body ((c.noted.labelled label).2.entered scope) = (.error e, t) := by
  rw [check, noteStatement_bind, labelOr_bind] at h
  simp only [bind_error, child_eq, within_eq, pure_eq, reduceCtorEq, false_and, and_false,
    exists_false, or_false] at h
  rcases h with ⟨h, _⟩ | ⟨scope, _, ⟨hscope, rfl⟩, t, hbody, _⟩
  · exact .inl h
  · exact .inr ⟨scope, t, hscope, hbody⟩

theorem check_whileLoop_ok {label : Option String} {test : Condition} {body : List Statement}
    {s : Statement} : (whileLoop label test body).check c = (.ok s, c') ↔
      (c.noted.labelled label).2.nesting.resolveAll test.outline.variableNames = .ok () ∧
      ∃ scope body' t, (c.noted.labelled label).2.nesting.child .loop
          (some (c.noted.labelled label).1) = .ok scope ∧
        checkAll body ((c.noted.labelled label).2.entered scope) = (.ok body', t) ∧ t.left = c' ∧
        .whileLoop (some (c.noted.labelled label).1) test body' = s := by
  rw [check, noteStatement_bind, labelOr_bind]
  simp only [bind_ok, resolveAll_eq, child_eq, within_eq, pure_eq, Except.ok.injEq]
  constructor
  · rintro ⟨_, _, ⟨htest, rfl⟩, scope, _, ⟨hscope, rfl⟩, body', _, ⟨t, hbody, rfl⟩, rfl, rfl⟩
    exact ⟨htest, scope, body', t, hscope, hbody, rfl, rfl⟩
  · rintro ⟨htest, scope, body', t, hscope, hbody, rfl, rfl⟩
    exact ⟨_, _, ⟨htest, rfl⟩, scope, _, ⟨hscope, rfl⟩, body', _, ⟨t, hbody, rfl⟩, rfl, rfl⟩

theorem check_whileLoop_error {label : Option String} {test : Condition} {body : List Statement}
    (h : (whileLoop label test body).check c = (.error e, c')) :
    (c.noted.labelled label).2.nesting.resolveAll test.outline.variableNames = .error e ∨
      (c.noted.labelled label).2.nesting.resolveAll test.outline.variableNames = .ok () ∧
        ((c.noted.labelled label).2.nesting.child .loop (some (c.noted.labelled label).1) =
          .error e ∨
        ∃ scope t, (c.noted.labelled label).2.nesting.child .loop
            (some (c.noted.labelled label).1) = .ok scope ∧
          checkAll body ((c.noted.labelled label).2.entered scope) = (.error e, t)) := by
  rw [check, noteStatement_bind, labelOr_bind] at h
  simp only [bind_error, resolveAll_eq, child_eq, within_eq, pure_eq, reduceCtorEq, false_and,
    and_false, exists_false, or_false] at h
  rcases h with ⟨h, _⟩ | ⟨_, _, ⟨htest, rfl⟩, h⟩
  · exact .inl h
  · refine .inr ⟨htest, ?_⟩
    rcases h with ⟨h, _⟩ | ⟨scope, _, ⟨hscope, rfl⟩, t, hbody, _⟩
    · exact .inl h
    · exact .inr ⟨scope, t, hscope, hbody⟩

theorem check_repeatLoop_ok {label : Option String} {test : Condition} {body : List Statement}
    {s : Statement} : (repeatLoop label test body).check c = (.ok s, c') ↔
      ∃ scope body' t, (c.noted.labelled label).2.nesting.child .loop
          (some (c.noted.labelled label).1) = .ok scope ∧
        checkAll body ((c.noted.labelled label).2.entered scope) = (.ok body', t) ∧
        t.nesting.resolveAll test.outline.variableNames = .ok () ∧ t.left = c' ∧
        .repeatLoop (some (c.noted.labelled label).1) test body' = s := by
  rw [check, noteStatement_bind, labelOr_bind]
  simp only [bind_ok, resolveAll_eq, child_eq, within_eq, pure_eq, Except.ok.injEq]
  constructor
  · rintro ⟨scope, _, ⟨hscope, rfl⟩, _, _, ⟨t, ⟨body', _, hbody, _, _, ⟨htest, rfl⟩, rfl, rfl⟩,
      rfl⟩, rfl, rfl⟩
    exact ⟨scope, body', _, hscope, hbody, htest, rfl, rfl⟩
  · rintro ⟨scope, body', t, hscope, hbody, htest, rfl, rfl⟩
    exact ⟨scope, _, ⟨hscope, rfl⟩, body', _, ⟨t, ⟨_, _, hbody, _, _, ⟨htest, rfl⟩, rfl, rfl⟩,
      rfl⟩, rfl, rfl⟩

theorem check_repeatLoop_error {label : Option String} {test : Condition} {body : List Statement}
    (h : (repeatLoop label test body).check c = (.error e, c')) :
    (c.noted.labelled label).2.nesting.child .loop (some (c.noted.labelled label).1) = .error e ∨
      ∃ scope t, (c.noted.labelled label).2.nesting.child .loop
          (some (c.noted.labelled label).1) = .ok scope ∧
        (checkAll body ((c.noted.labelled label).2.entered scope) = (.error e, t) ∨
          ∃ body', checkAll body ((c.noted.labelled label).2.entered scope) = (.ok body', t) ∧
            t.nesting.resolveAll test.outline.variableNames = .error e) := by
  rw [check, noteStatement_bind, labelOr_bind] at h
  simp only [bind_error, resolveAll_eq, child_eq, within_eq, pure_eq, reduceCtorEq, false_and,
    and_false, exists_false, or_false] at h
  rcases h with ⟨h, _⟩ | ⟨scope, _, ⟨hscope, rfl⟩, t, h, _⟩
  · exact .inl h
  · refine .inr ⟨scope, t, hscope, ?_⟩
    rcases h with h | ⟨body', _, hbody, htest, rfl⟩
    · exact .inl h
    · exact .inr ⟨body', hbody, htest⟩

/-! ## Conditionals and cases -/

theorem checkElse_some_ok {before : List CursorState} {body : List Statement}
    {r : Option (List Statement) × List CursorState} :
    checkElse before (some body) c = (.ok r, c') ↔
      ∃ body' t, checkAll body (c.branched before) = (.ok body', t) ∧ t.left = c' ∧
        (some body', t.left.nesting.states) = r := by
  rw [checkElse, setStates_bind, child_none_bind]
  simp only [bind_ok, within_eq, states_bind, pure_eq, Except.ok.injEq]
  constructor
  · rintro ⟨body', _, ⟨t, hbody, rfl⟩, rfl, rfl⟩
    exact ⟨body', t, hbody, rfl, rfl⟩
  · rintro ⟨body', t, hbody, rfl, rfl⟩
    exact ⟨body', _, ⟨t, hbody, rfl⟩, rfl, rfl⟩

theorem checkElse_some_error {before : List CursorState} {body : List Statement}
    (h : checkElse before (some body) c = (.error e, c')) :
    ∃ t, checkAll body (c.branched before) = (.error e, t) := by
  rw [checkElse, setStates_bind, child_none_bind] at h
  simp only [bind_error, within_eq, states_bind, pure_eq, reduceCtorEq, false_and, and_false,
    exists_false, or_false] at h
  obtain ⟨t, hbody, _⟩ := h
  exact ⟨t, hbody⟩

end Statement

theorem IfBranch.checkAll_nil (before : List CursorState) (c : Checker) :
    IfBranch.checkAll before [] c = (.ok ([], []), c) := rfl

theorem IfBranch.checkAll_cons_ok {before : List CursorState} {test : Condition}
    {body : List Statement} {rest : List IfBranch}
    {r : List IfBranch × List (List CursorState)} :
    IfBranch.checkAll before (⟨test, body⟩ :: rest) c = (.ok r, c') ↔
      (c.withStates before).nesting.resolveAll test.outline.variableNames = .ok () ∧
      ∃ body' t rest' outcomes, Statement.checkAll body (c.branched before) = (.ok body', t) ∧
        IfBranch.checkAll before rest t.left = (.ok (rest', outcomes), c') ∧
        (⟨test, body'⟩ :: rest', t.left.nesting.states :: outcomes) = r := by
  rw [IfBranch.checkAll, setStates_bind]
  simp only [bind_ok, resolveAll_eq, child_none_bind, within_eq, states_bind, pure_eq,
    Except.ok.injEq]
  constructor
  · rintro ⟨_, _, ⟨htest, rfl⟩, body', _, ⟨t, hbody, rfl⟩, ⟨rest', outcomes⟩, _, hrest, rfl, rfl⟩
    exact ⟨htest, body', t, rest', outcomes, hbody, hrest, rfl⟩
  · rintro ⟨htest, body', t, rest', outcomes, hbody, hrest, rfl⟩
    exact ⟨_, _, ⟨htest, rfl⟩, body', _, ⟨t, hbody, rfl⟩, (rest', outcomes), _, hrest, rfl, rfl⟩

theorem IfBranch.checkAll_append_ok {before : List CursorState} {branches later : List IfBranch}
    {branches' later' : List IfBranch} {outcomes outcomes' : List (List CursorState)} {t : Checker}
    (h : IfBranch.checkAll before branches c = (.ok (branches', outcomes), t))
    (h' : IfBranch.checkAll before later t = (.ok (later', outcomes'), c')) :
    IfBranch.checkAll before (branches ++ later) c =
      (.ok (branches' ++ later', outcomes ++ outcomes'), c') := by
  induction branches generalizing c branches' outcomes with
  | nil =>
    cases h
    exact h'
  | cons branch branches ih =>
    obtain ⟨test, body⟩ := branch
    obtain ⟨htest, body', u, rest, outcomes, hbody, hrest, he⟩ := IfBranch.checkAll_cons_ok.1 h
    cases he
    exact IfBranch.checkAll_cons_ok.2 ⟨htest, body', u, _, _, hbody, ih hrest, rfl⟩

theorem IfBranch.checkAll_cons_error {before : List CursorState} {test : Condition}
    {body : List Statement} {rest : List IfBranch}
    (h : IfBranch.checkAll before (⟨test, body⟩ :: rest) c = (.error e, c')) :
    (c.withStates before).nesting.resolveAll test.outline.variableNames = .error e ∨
      (c.withStates before).nesting.resolveAll test.outline.variableNames = .ok () ∧
        ∃ t, Statement.checkAll body (c.branched before) = (.error e, t) ∨
          ∃ body', Statement.checkAll body (c.branched before) = (.ok body', t) ∧
            IfBranch.checkAll before rest t.left = (.error e, c') := by
  rw [IfBranch.checkAll, setStates_bind] at h
  simp only [bind_error, resolveAll_eq, child_none_bind, within_eq, states_bind, pure_eq,
    reduceCtorEq, false_and, and_false, exists_false, or_false] at h
  rcases h with ⟨h, _⟩ | ⟨_, _, ⟨htest, rfl⟩, ⟨t, hbody, _⟩ | ⟨body', _, ⟨t, hbody, rfl⟩, hrest⟩⟩
  · exact .inl h
  · exact .inr ⟨htest, t, .inl hbody⟩
  · exact .inr ⟨htest, t, .inr ⟨body', hbody, hrest⟩⟩

theorem CaseWhen.checkAll_nil (before : List CursorState) (c : Checker) :
    CaseWhen.checkAll before [] c = (.ok ([], []), c) := rfl

theorem CaseWhen.checkAll_cons_ok {before : List CursorState} {test : Expr}
    {body : List Statement} {rest : List CaseWhen}
    {r : List CaseWhen × List (List CursorState)} :
    CaseWhen.checkAll before (⟨test, body⟩ :: rest) c = (.ok r, c') ↔
      (c.withStates before).nesting.resolveAll test.outline.variableNames = .ok () ∧
      ∃ body' t rest' outcomes, Statement.checkAll body (c.branched before) = (.ok body', t) ∧
        CaseWhen.checkAll before rest t.left = (.ok (rest', outcomes), c') ∧
        (⟨test, body'⟩ :: rest', t.left.nesting.states :: outcomes) = r := by
  rw [CaseWhen.checkAll, setStates_bind]
  simp only [bind_ok, resolveAll_eq, child_none_bind, within_eq, states_bind, pure_eq,
    Except.ok.injEq]
  constructor
  · rintro ⟨_, _, ⟨htest, rfl⟩, body', _, ⟨t, hbody, rfl⟩, ⟨rest', outcomes⟩, _, hrest, rfl, rfl⟩
    exact ⟨htest, body', t, rest', outcomes, hbody, hrest, rfl⟩
  · rintro ⟨htest, body', t, rest', outcomes, hbody, hrest, rfl⟩
    exact ⟨_, _, ⟨htest, rfl⟩, body', _, ⟨t, hbody, rfl⟩, (rest', outcomes), _, hrest, rfl, rfl⟩

theorem CaseWhen.checkAll_append_ok {before : List CursorState} {whens later : List CaseWhen}
    {whens' later' : List CaseWhen} {outcomes outcomes' : List (List CursorState)} {t : Checker}
    (h : CaseWhen.checkAll before whens c = (.ok (whens', outcomes), t))
    (h' : CaseWhen.checkAll before later t = (.ok (later', outcomes'), c')) :
    CaseWhen.checkAll before (whens ++ later) c =
      (.ok (whens' ++ later', outcomes ++ outcomes'), c') := by
  induction whens generalizing c whens' outcomes with
  | nil =>
    cases h
    exact h'
  | cons arm whens ih =>
    obtain ⟨test, body⟩ := arm
    obtain ⟨htest, body', u, rest, outcomes, hbody, hrest, he⟩ := CaseWhen.checkAll_cons_ok.1 h
    cases he
    exact CaseWhen.checkAll_cons_ok.2 ⟨htest, body', u, _, _, hbody, ih hrest, rfl⟩

theorem CaseWhen.checkAll_cons_error {before : List CursorState} {test : Expr}
    {body : List Statement} {rest : List CaseWhen}
    (h : CaseWhen.checkAll before (⟨test, body⟩ :: rest) c = (.error e, c')) :
    (c.withStates before).nesting.resolveAll test.outline.variableNames = .error e ∨
      (c.withStates before).nesting.resolveAll test.outline.variableNames = .ok () ∧
        ∃ t, Statement.checkAll body (c.branched before) = (.error e, t) ∨
          ∃ body', Statement.checkAll body (c.branched before) = (.ok body', t) ∧
            CaseWhen.checkAll before rest t.left = (.error e, c') := by
  rw [CaseWhen.checkAll, setStates_bind] at h
  simp only [bind_error, resolveAll_eq, child_none_bind, within_eq, states_bind, pure_eq,
    reduceCtorEq, false_and, and_false, exists_false, or_false] at h
  rcases h with ⟨h, _⟩ | ⟨_, _, ⟨htest, rfl⟩, ⟨t, hbody, _⟩ | ⟨body', _, ⟨t, hbody, rfl⟩, hrest⟩⟩
  · exact .inl h
  · exact .inr ⟨htest, t, .inl hbody⟩
  · exact .inr ⟨htest, t, .inr ⟨body', hbody, hrest⟩⟩

namespace Statement

theorem check_ifElse_ok {branches : List IfBranch} {otherwise : Option (List Statement)}
    {s : Statement} : (ifElse branches otherwise).check c = (.ok s, c') ↔
      ∃ branches' outcomes t otherwise' outcome u,
        IfBranch.checkAll c.noted.nesting.states branches c.noted = (.ok (branches', outcomes), t) ∧
        checkElse c.noted.nesting.states otherwise t = (.ok (otherwise', outcome), u) ∧
        u.withStates (Nesting.agreedStates c.noted.nesting.states.length
          (outcomes ++ [outcome])) = c' ∧
        .ifElse branches' otherwise' = s := by
  rw [check, noteStatement_bind, states_bind]
  simp only [bind_ok, mergeStates_bind, pure_eq, Except.ok.injEq]
  constructor
  · rintro ⟨⟨branches', outcomes⟩, t, hbranches, ⟨otherwise', outcome⟩, u, helse, rfl, rfl⟩
    exact ⟨branches', outcomes, t, otherwise', outcome, u, hbranches, helse, rfl, rfl⟩
  · rintro ⟨branches', outcomes, t, otherwise', outcome, u, hbranches, helse, rfl, rfl⟩
    exact ⟨(branches', outcomes), t, hbranches, (otherwise', outcome), u, helse, rfl, rfl⟩

theorem check_ifElse_error {branches : List IfBranch} {otherwise : Option (List Statement)}
    (h : (ifElse branches otherwise).check c = (.error e, c')) :
    IfBranch.checkAll c.noted.nesting.states branches c.noted = (.error e, c') ∨
      ∃ r t, IfBranch.checkAll c.noted.nesting.states branches c.noted = (.ok r, t) ∧
        checkElse c.noted.nesting.states otherwise t = (.error e, c') := by
  rw [check, noteStatement_bind, states_bind] at h
  simp only [bind_error, mergeStates_bind, pure_eq, reduceCtorEq, false_and, and_false,
    exists_false, or_false] at h
  rcases h with h | ⟨r, t, hr, h⟩
  · exact .inl h
  · exact .inr ⟨r, t, hr, h⟩

theorem check_cases_ok {operand : Option Expr} {whens : List CaseWhen}
    {otherwise : Option (List Statement)} {s : Statement} :
    (cases operand whens otherwise).check c = (.ok s, c') ↔
      c.noted.nesting.resolveAll ((operand.map (·.outline.variableNames)).getD []) = .ok () ∧
      ∃ whens' outcomes t otherwise' outcome u,
        CaseWhen.checkAll c.noted.nesting.states whens c.noted = (.ok (whens', outcomes), t) ∧
        checkElse c.noted.nesting.states otherwise t = (.ok (otherwise', outcome), u) ∧
        u.withStates (Nesting.agreedStates c.noted.nesting.states.length
          (outcomes ++ [outcome])) = c' ∧
        .cases operand whens' otherwise' = s := by
  rw [check, noteStatement_bind]
  simp only [bind_ok, resolveAll_eq, states_bind, mergeStates_bind, pure_eq, Except.ok.injEq]
  constructor
  · rintro ⟨_, _, ⟨hoperand, rfl⟩, ⟨whens', outcomes⟩, t, hwhens, ⟨otherwise', outcome⟩, u, helse,
      rfl, rfl⟩
    exact ⟨hoperand, whens', outcomes, t, otherwise', outcome, u, hwhens, helse, rfl, rfl⟩
  · rintro ⟨hoperand, whens', outcomes, t, otherwise', outcome, u, hwhens, helse, rfl, rfl⟩
    exact ⟨_, _, ⟨hoperand, rfl⟩, (whens', outcomes), t, hwhens, (otherwise', outcome), u, helse,
      rfl, rfl⟩

theorem check_cases_error {operand : Option Expr} {whens : List CaseWhen}
    {otherwise : Option (List Statement)}
    (h : (cases operand whens otherwise).check c = (.error e, c')) :
    c.noted.nesting.resolveAll ((operand.map (·.outline.variableNames)).getD []) = .error e ∨
      c.noted.nesting.resolveAll ((operand.map (·.outline.variableNames)).getD []) = .ok () ∧
        (CaseWhen.checkAll c.noted.nesting.states whens c.noted = (.error e, c') ∨
        ∃ r t, CaseWhen.checkAll c.noted.nesting.states whens c.noted = (.ok r, t) ∧
          checkElse c.noted.nesting.states otherwise t = (.error e, c')) := by
  rw [check, noteStatement_bind] at h
  simp only [bind_error, resolveAll_eq, states_bind, mergeStates_bind, pure_eq, reduceCtorEq,
    false_and, and_false, exists_false, or_false] at h
  rcases h with ⟨h, _⟩ | ⟨_, _, ⟨hoperand, rfl⟩, h | ⟨r, t, hr, h⟩⟩
  · exact .inl h
  · exact .inr ⟨hoperand, .inl h⟩
  · exact .inr ⟨hoperand, .inr ⟨r, t, hr, h⟩⟩

end Statement
end StoredSql
