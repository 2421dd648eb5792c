import StoredSql.Proofs.UpheldChecks

/-!
# Declarations

What a statement declares, and what its check does to the names of the innermost scope: the names
that the statement declares come to those that there are, none of them is taken, and the block is in
the phase of the statement (`Statement.check_declares`).
-/

namespace StoredSql

open Check Stepwise

/-! ## Names -/

/-- What is declared under a name. -/
inductive DeclaredKind where
  | var | condition | cursor
deriving DecidableEq, Repr

/-- The names of a kind that a scope has, in the order in which they have come. -/
def Scope.names (kind : DeclaredKind) (s : Scope) : List String :=
  match kind with
  | .var => s.variableNames
  | .condition => s.conditions
  | .cursor => s.cursors.map (·.name)

namespace Statement

/-- The names of a kind that a statement declares. -/
def declared (kind : DeclaredKind) (s : Statement) : List String :=
  match kind, s with
  | .var, declareVariables names _ _ => names
  | .condition, declareCondition name _ => [name]
  | .cursor, declareCursor name _ => [name]
  | _, _ => []

/-- The phase of a block that a statement comes in. A blank line comes in any, and so would a
declaration of no variables, which cannot be made. -/
def phase? : Statement → Option DeclarationPhase
  | empty => none
  | declareVariables [] _ _ => none
  | declareVariables (_ :: _) _ _ => some .names
  | declareCondition _ _ => some .names
  | declareCursor _ _ => some .cursors
  | declareHandler _ _ _ => some .handlers
  | _ => some .body

/-- What declares names is in a phase before the last one. -/
theorem declared_of_bare {s : Statement} (hs : ∀ phase, s.phase? = some phase → phase = .body)
    (kind : DeclaredKind) : s.declared kind = [] := by
  cases s with
  | declareVariables names type initial =>
    cases names with
    | nil => cases kind <;> rfl
    | cons _ _ => cases hs _ rfl
  | declareCondition name value => cases hs _ rfl
  | declareCursor name query => cases hs _ rfl
  | _ => cases kind <;> rfl

theorem declared_of_holder {s : Statement} {k : ScopeKind} (hs : s.scopeKind? = some k)
    (kind : DeclaredKind) : s.declared kind = [] := by
  cases s with
  | declareVariables names type initial => cases hs
  | declareCondition name value => cases hs
  | declareCursor name query => cases hs
  | _ => cases kind <;> rfl

/-- What holds statements is a handler, or is executed. -/
theorem phase_of_holder {s : Statement} {k : ScopeKind} (hs : s.scopeKind? = some k) :
    s.phase? = some (if k = .handler then .handlers else .body) := by
  cases s <;> cases hs <;> rfl

end Statement

/-- Whether names are no known ones, and none of them is an earlier one. -/
def AreNew (known : List String) : List String → Prop
  | [] => True
  | name :: names => Scope.hasName known name = false ∧ AreNew (known ++ [name]) names

/-! ## Scopes -/

variable {s t : Scope} {c c' : Checker} {kind : DeclaredKind} {name : String} {u : Unit}

theorem Scope.Becomes.names (h : s.Becomes t) (kind : DeclaredKind) :
    s.names kind <+: t.names kind := by
  cases kind with
  | var => exact h.variableNames
  | condition => exact h.conditions
  | cursor => exact h.cursors

theorem Scope.names_stateless (s : Scope) (kind : DeclaredKind) :
    s.stateless.names kind = s.names kind := by
  cases kind with
  | var => rfl
  | condition => rfl
  | cursor => exact s.map_name_stateless

/-- Names do not depend on the states of cursors. -/
theorem exists_name_of_stateless {ss ts : List Scope}
    (h : ss.map Scope.stateless = ts.map Scope.stateless)
    (hs : ∃ s ∈ ss, Scope.hasName (s.names kind) name = true) :
    ∃ t ∈ ts, Scope.hasName (t.names kind) name = true := by
  obtain ⟨s, hs, hname⟩ := hs
  have hmem : s.stateless ∈ ts.map Scope.stateless := h ▸ List.mem_map_of_mem hs
  obtain ⟨t, ht, hst⟩ := List.mem_map.1 hmem
  rw [← s.names_stateless, ← hst, t.names_stateless] at hname
  exact ⟨t, ht, hname⟩

theorem Checker.Moves.names (h : c.Moves c') (kind : DeclaredKind) :
    c'.nesting.inner.names kind = c.nesting.inner.names kind := by
  have hphase : ∀ (s : Scope) (phase : DeclarationPhase),
      ({ s with phase } : Scope).names kind = s.names kind := fun _ _ => by cases kind <;> rfl
  rw [← Scope.names_stateless, h.inner, hphase, Scope.names_stateless]

/-! ## Checks -/

/-- Whether a statement leads from one scope to the other: what it declares is new there, and the
scope is in its phase. -/
structure Scope.Declares (s : Scope) (st : Statement) (t : Scope) : Prop where
  names : ∀ kind, t.names kind = s.names kind ++ st.declared kind
  new : ∀ kind, AreNew (s.names kind) (st.declared kind)
  block : ∀ phase, st.phase? = some phase → phase ≠ .body → s.kind = .block
  phase : ∀ phase, st.phase? = some phase → s.kind = .block → t.phase = phase

theorem Scope.declareVariable_ok (h : s.declareVariable name = (.ok u, t)) :
    s.kind = .block ∧ Scope.hasName s.variableNames name = false ∧
      t = { s with phase := .names, variableNames := s.variableNames ++ [name] } := by
  obtain ⟨r, hr, htaken, rfl⟩ := Scope.declareIn_eq_ok.1 h
  obtain ⟨rfl, _, hkind⟩ := Scope.enterPhase_eq hr
  exact ⟨hkind, htaken, rfl⟩

theorem declareVariables_ok {names : List String}
    (h : (names.forM fun name => declare (·.declareVariable name)) c = (.ok u, c')) :
    AreNew c.nesting.inner.variableNames names ∧
      (names ≠ [] → c.nesting.inner.kind = .block) ∧
      c'.nesting.inner = { c.nesting.inner with
        phase := if names.isEmpty then c.nesting.inner.phase else .names
        variableNames := c.nesting.inner.variableNames ++ names } := by
  induction names generalizing c with
  | nil =>
    cases h
    refine ⟨trivial, fun hne => absurd rfl hne, ?_⟩
    rw [List.append_nil]
    rfl
  | cons name names ih =>
    obtain ⟨_, d, hname, hnames⟩ := bind_ok.1 h
    obtain ⟨t, ht, rfl⟩ := declare_eq.1 hname
    obtain ⟨hkind, hfree, rfl⟩ := Scope.declareVariable_ok ht
    obtain ⟨hnew, _, hinner⟩ := ih hnames
    refine ⟨⟨hfree, hnew⟩, fun _ => hkind, ?_⟩
    rw [hinner]
    dsimp only
    rw [List.append_assoc, ite_self]
    rfl

theorem declares_variables {names : List String} {type : Column} {initial : Option Expr}
    {st : Statement} (h : (Statement.declareVariables names type initial).check c = (.ok st, c')) :
    c.nesting.inner.Declares (.declareVariables names type initial) c'.nesting.inner := by
  rw [Statement.check] at h
  simp only [bind_ok, resolveAll_eq, pure_eq] at h
  obtain ⟨_, _, ⟨_, rfl⟩, _, t, hdeclare, _, rfl⟩ := h
  obtain ⟨hnew, hblock, hinner⟩ := declareVariables_ok hdeclare
  rw [hinner]
  constructor
  · rintro ⟨⟩
    · rfl
    · exact (List.append_nil _).symm
    · exact (List.append_nil _).symm
  · rintro ⟨⟩
    · exact hnew
    · trivial
    · trivial
  · intro phase hp _
    cases names with
    | nil => cases hp
    | cons _ _ => exact hblock (List.cons_ne_nil _ _)
  · intro phase hp _
    cases names with
    | nil => cases hp
    | cons _ _ => exact Option.some.inj hp

theorem declares_condition {value : ConditionValue} {st : Statement}
    (h : (Statement.declareCondition name value).check c = (.ok st, c')) :
    c.nesting.inner.Declares (.declareCondition name value) c'.nesting.inner := by
  rw [Statement.check] at h
  simp only [bind_ok, pure_eq] at h
  obtain ⟨_, _, hdeclare, _, rfl⟩ := h
  obtain ⟨t, ht, rfl⟩ := declare_eq.1 hdeclare
  obtain ⟨r, hr, htaken, rfl⟩ := Scope.declareIn_eq_ok.1 ht
  obtain ⟨rfl, _, hkind⟩ := Scope.enterPhase_eq hr
  constructor
  · rintro ⟨⟩
    · exact (List.append_nil _).symm
    · rfl
    · exact (List.append_nil _).symm
  · rintro ⟨⟩
    · trivial
    · exact ⟨htaken, trivial⟩
    · trivial
  · exact fun _ _ _ => hkind
  · exact fun _ hp _ => Option.some.inj hp

theorem declares_cursor {query : SelectQuery} {st : Statement}
    (h : (Statement.declareCursor name query).check c = (.ok st, c')) :
    c.nesting.inner.Declares (.declareCursor name query) c'.nesting.inner := by
  rw [Statement.check] at h
  simp only [bind_ok, resolveAll_eq, pure_eq] at h
  obtain ⟨_, _, ⟨_, rfl⟩, _, _, hdeclare, _, rfl⟩ := h
  obtain ⟨t, ht, rfl⟩ := declare_eq.1 hdeclare
  obtain ⟨r, hr, htaken, rfl⟩ := Scope.declareIn_eq_ok.1 ht
  obtain ⟨rfl, _, hkind⟩ := Scope.enterPhase_eq hr
  constructor
  · rintro ⟨⟩
    · exact (List.append_nil _).symm
    · exact (List.append_nil _).symm
    · exact List.map_append
  · rintro ⟨⟩
    · trivial
    · trivial
    · exact ⟨htaken, trivial⟩
  · exact fun _ _ _ => hkind
  · exact fun _ hp _ => Option.some.inj hp

/-- A check of what is executed changes states only, once the block is done with its
declarations. -/
theorem Statement.check_executed {st st' : Statement} (hs : st.phase? = some .body)
    (h : st.check c = (.ok st', c')) : c.noted.Still c' := by
  have hstill : ∀ {f : Unit → Check Statement}, (noteStatement >>= f) c = (.ok st', c') →
      Keeps Checker.Still (f ()) → c.noted.Still c' := by
    intro f hcheck hf
    rw [noteStatement_bind] at hcheck
    exact hf.apply hcheck
  cases st with
  | foreign _ => cases h
  | delimiter _ => cases h
  | declareVariables names _ _ => cases names <;> cases hs
  | declareCondition _ _ => cases hs
  | declareCursor _ _ => cases hs
  | empty => cases hs
  | declareHandler _ _ _ => cases hs
  | block b =>
    obtain ⟨b', hb, _⟩ := Statement.check_block_ok.1 h
    exact (Block.check_still b).apply hb
  | ifElse branches otherwise =>
    obtain ⟨_, _, t, _, _, u, hbranches, helse, rfl, _⟩ := Statement.check_ifElse_ok.1 h
    have ht := (IfBranch.checkAll_still _ branches).apply hbranches
    have hu := (Statement.checkElse_still _ otherwise).apply helse
    exact Trans.trans (Trans.trans ht hu) (u.still_withStates _)
  | cases operand whens otherwise =>
    obtain ⟨_, _, _, t, _, _, u, hwhens, helse, rfl, _⟩ := Statement.check_cases_ok.1 h
    have ht := (CaseWhen.checkAll_still _ whens).apply hwhens
    have hu := (Statement.checkElse_still _ otherwise).apply helse
    exact Trans.trans (Trans.trans ht hu) (u.still_withStates _)
  | loop label body =>
    obtain ⟨_, _, _, _, hbody, rfl, _⟩ := Statement.check_loop_ok.1 h
    exact Trans.trans (c.noted.still_labelled label)
      ((Statement.checkAll_onward body).apply hbody).left
  | whileLoop label _ body =>
    obtain ⟨_, _, _, _, _, hbody, rfl, _⟩ := Statement.check_whileLoop_ok.1 h
    exact Trans.trans (c.noted.still_labelled label)
      ((Statement.checkAll_onward body).apply hbody).left
  | repeatLoop label _ body =>
    obtain ⟨_, _, _, _, hbody, _, rfl, _⟩ := Statement.check_repeatLoop_ok.1 h
    exact Trans.trans (c.noted.still_labelled label)
      ((Statement.checkAll_onward body).apply hbody).left
  | openCursor name => exact hstill h (.bind (useCursor_still .open name) fun _ => .pure _)
  | fetch name targets => exact hstill h (.bind (fetch_still name targets) fun _ => .pure _)
  | closeCursor name => exact hstill h (.bind (useCursor_still .close name) fun _ => .pure _)
  | select _ => exact hstill h (.bind (ask_keeps _) fun _ => .bind (ask_keeps _) fun _ => .pure _)
  | set pairs => exact hstill h (.bind (assignments_keeps pairs) fun _ => .pure _)
  | signal _ _ _ =>
    exact hstill h (.bind (ask_keeps _) fun _ => .bind (ask_keeps _) fun _ => .pure _)
  | raw sql => exact hstill h (.bind (rawText_keeps sql) fun _ => .pure _)
  | iterate _ => exact hstill h (.bind (ask_keeps _) fun _ => .pure _)
  | leave _ => exact hstill h (.bind (ask_keeps _) fun _ => .pure _)
  | insert _ => exact hstill h (.bind (ask_keeps _) fun _ => .pure _)
  | call _ _ => exact hstill h (.bind (ask_keeps _) fun _ => .pure _)

theorem declares_executed {st st' : Statement} (hs : st.phase? = some .body)
    (h : st.check c = (.ok st', c')) :
    c.nesting.inner.Declares st c'.nesting.inner := by
  have hstill := Statement.check_executed hs h
  have hmoves : ∀ kind, c'.nesting.inner.names kind = c.nesting.inner.names kind :=
    fun kind => (hstill.moves.names kind).trans (c.moves_noted.names kind)
  have hphase : c'.nesting.inner.phase = c.noted.nesting.inner.phase :=
    congrArg (·.phase) (List.cons.inj hstill).1
  have hdeclared := Statement.declared_of_bare fun phase hp => Option.some.inj (hp.symm.trans hs)
  constructor
  · intro kind
    rw [hdeclared, List.append_nil]
    exact hmoves kind
  · intro kind
    rw [hdeclared]
    trivial
  · intro phase hp hne
    exact absurd (Option.some.inj (hp.symm.trans hs)) hne
  · intro phase hp hk
    obtain rfl := Option.some.inj (hs.symm.trans hp)
    have hreceives : c.noted.Receives .block := c.receives_noted nofun
    rw [hphase]
    exact hreceives (c.moves_noted.onward.inner.kind.trans hk)

/-- **What a statement that holds none does to the names and the phase of its scope.** -/
theorem Statement.check_declares {st : Statement} (hleaf : st.scopeKind? = none)
    (h : st.check c = (.ok st, c')) : c.nesting.inner.Declares st c'.nesting.inner := by
  cases st with
  | declareVariables names type initial => exact declares_variables h
  | declareCondition name value => exact declares_condition h
  | declareCursor name query => exact declares_cursor h
  | empty =>
    cases h
    exact ⟨fun kind => by cases kind <;> exact (List.append_nil _).symm,
      fun kind => by cases kind <;> trivial, nofun, nofun⟩
  | declareHandler _ _ _ => cases hleaf
  | _ => exact declares_executed rfl h

/-- The phase that a scope is in after a statement. -/
def Scope.phaseAfter (s : Scope) (st : Statement) : DeclarationPhase :=
  if s.kind = .block then st.phase?.getD s.phase else s.phase

theorem Scope.phaseAfter_block {st : Statement} {phase : DeclarationPhase} (hkind : s.kind = .block)
    (hs : st.phase? = some phase) : s.phaseAfter st = phase := by
  unfold phaseAfter
  rw [if_pos hkind, hs, Option.getD_some]

/-- A statement alone tells which phase its scope is in after it. -/
theorem Statement.check_phase {st st' : Statement} (h : st.check c = (.ok st', c')) :
    c'.nesting.inner.phase = c.nesting.inner.phaseAfter st := by
  have hdeclared {phase : DeclarationPhase} (hleaf : st.scopeKind? = none)
      (hs : st.phase? = some phase) (hne : phase ≠ .body) :
      c'.nesting.inner.phase = c.nesting.inner.phaseAfter st := by
    obtain rfl := Statement.check_leaf hleaf h
    have hdeclares := Statement.check_declares hleaf h
    have hkind := hdeclares.block phase hs hne
    rw [Scope.phaseAfter_block hkind hs]
    exact hdeclares.phase phase hs hkind
  have hexecuted (hs : st.phase? = some .body) :
      c'.nesting.inner.phase = c.nesting.inner.phaseAfter st := by
    have hphase : c'.nesting.inner.phase = c.nesting.inner.noteStatement.phase :=
      congrArg (·.phase) (List.cons.inj (Statement.check_executed hs h)).1
    rw [hphase, Scope.phaseAfter, hs]
    unfold Scope.noteStatement
    split <;> rfl
  cases st with
  | empty =>
    cases h
    exact (ite_self _).symm
  | declareVariables names type initial =>
    cases names with
    | nil =>
      rw [Statement.check] at h
      simp only [bind_ok, resolveAll_eq, pure_eq] at h
      obtain ⟨_, _, ⟨_, rfl⟩, _, _, hnone, _, rfl⟩ := h
      cases hnone
      exact (ite_self _).symm
    | cons _ _ => exact hdeclared rfl rfl (by decide)
  | declareCondition name value => exact hdeclared rfl rfl (by decide)
  | declareCursor name query => exact hdeclared rfl rfl (by decide)
  | declareHandler action conditions body =>
    obtain ⟨t, u, _, v, ht, hu, hbody, rfl, _⟩ := Statement.check_declareHandler_ok.1 h
    obtain ⟨_, rfl⟩ := ask_eq.1 hu
    obtain ⟨hmoves, hkind, hphase⟩ := Checker.moves_declareHandler ht
    rw [Statement.handling_undone hbody, hphase]
    exact (Scope.phaseAfter_block (hmoves.onward.inner.kind.symm.trans hkind) rfl).symm
  | _ => exact hexecuted rfl

end StoredSql
