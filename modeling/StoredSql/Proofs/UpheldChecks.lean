import StoredSql.Proofs.Places
import StoredSql.Proofs.Replay

/-!
# What checks uphold

A property of the statements that have come to a place, and of the scopes that they have led to, is
upheld (`Upheld`) if it is kept where only states and phases change, if it holds of no statements in a
new scope, and if it is kept by each statement that comes: by one that holds no others where its check
succeeds, and by one that does where it has its place (`Checker.Takes`) and what it holds has the
property in a scope of its own. Then every check that succeeds keeps it (`Statement.check_upheld`).

A property may also ask for the views that blocks bear (`UpheldViewed`): the view of a block that is
checked is that of its start (`Checker.Begins`).
-/

namespace StoredSql

open Check Stepwise

/-! ## Scopes inside of scopes -/

namespace Checker

variable {c c' d d' : Checker} {kind : ScopeKind} {label : Option String}

/-- Whether a checker is one that statements have led to in a scope inside, of the kind and with the
label. -/
structure Inside (c : Checker) (k : ScopeKind) (given : Option String) (d : Checker) : Prop where
  kind : d.nesting.inner.kind = k
  label : d.nesting.inner.label = given
  rows : d.nesting.inner.rows = c.nesting.inner.rows
  free : ∀ l, given = some l →
    Identifier.checkLabel l = .ok l ∧ Scope.hasName c.nesting.openLabels l = false
  bare : k ≠ .block → d.nesting.inner.variableNames = []
  around : d.nesting.outer.map Scope.stateless = c.nesting.scopes.map Scope.stateless

/-- Nothing is declared in a scope that has been made just now. -/
theorem bare_of_child {scope : Scope} (h : c.nesting.child kind label = .ok scope) :
    scope.variableNames = [] := by
  obtain ⟨_, rfl⟩ := Nesting.child_eq_ok.1 h
  rfl

theorem inside_of_child {scope : Scope} (h : c.nesting.child kind label = .ok scope) :
    c.Inside kind label (c.entered scope) := by
  obtain ⟨hfree, rfl⟩ := Nesting.child_eq_ok.1 h
  exact ⟨rfl, rfl, rfl, hfree, fun _ => rfl, rfl⟩

/-- The labels that are open do not depend on the states of cursors. -/
theorem Still.openLabels (h : c.Still c') : c'.nesting.openLabels = c.nesting.openLabels := by
  have hlabels : ∀ ss : List Scope,
      ss.filterMap (·.label) = (ss.map Scope.stateless).filterMap (·.label) := by
    intro ss
    rw [List.filterMap_map]
    rfl
  unfold Nesting.openLabels
  rw [hlabels, h, ← hlabels]

theorem Inside.onward (h : c.Inside kind label d) (hd : d.Onward d') : c.Inside kind label d' where
  kind := hd.inner.kind.trans h.kind
  label := hd.inner.label.trans h.label
  rows := hd.inner.rows.trans h.rows
  free := h.free
  bare hk := (hd.inner.bare (h.kind ▸ hk)).trans (h.bare hk)
  around := hd.outer.trans h.around

theorem Inside.still (h : c.Inside kind label d) (hc : c.Still c') : c'.Inside kind label d where
  kind := h.kind
  label := h.label
  rows := h.rows.trans hc.onward.inner.rows.symm
  free l hl := ⟨(h.free l hl).1, hc.openLabels ▸ (h.free l hl).2⟩
  bare := h.bare
  around := h.around.trans hc.symm

/-- Outside a scope, nothing but states has changed. -/
theorem Inside.left (h : c.Inside kind label d) : c.Still d.left := by
  obtain ⟨⟨inner, _ | ⟨s, ss⟩⟩, labels⟩ := d
  · cases h.around
  · exact h.around

theorem inside_branched (c : Checker) (before : List CursorState) :
    c.Inside .branch none (c.branched before) :=
  (inside_of_child (c := c.withStates before) rfl).still (c.still_withStates before).symm

/-- Names mean what they mean around a scope that declares none. -/
theorem Inside.resolveAll (h : c.Inside kind label d) (hk : kind ≠ .block) (names : List String) :
    d.nesting.resolveAll names = c.nesting.resolveAll names := by
  have hleft := h.left.resolveAll names
  rw [← hleft]
  have hrows := h.rows.trans h.left.onward.inner.rows.symm
  refine Nesting.resolveAll_congr hrows (fun name => ?_) names
  obtain ⟨⟨inner, _ | ⟨s, ss⟩⟩, labels⟩ := d
  · cases h.around
  · have hbare : inner.variableNames = [] := h.bare hk
    show (Scope.hasName inner.variableNames name || _) = _
    rw [hbare]
    rfl

/-! ## Where statements have their place -/

/-- Nothing has been declared; of the innermost scope only the phase and states have changed. -/
structure Moves (c c' : Checker) : Prop where
  inner : c'.nesting.inner.stateless =
    { c.nesting.inner.stateless with phase := c'.nesting.inner.phase }
  phase : c.nesting.inner.phase.rank ≤ c'.nesting.inner.phase.rank
  outer : c'.nesting.outer.map Scope.stateless = c.nesting.outer.map Scope.stateless

theorem Moves.onward (h : c.Moves c') : c.Onward c' := by
  refine ⟨?_, h.outer⟩
  have hlater := Scope.Becomes.of_phase c.nesting.inner h.phase
  exact hlater.trans (.of_stateless h.inner)

theorem Still.moves (h : c.Still c') : c.Moves c' := by
  obtain ⟨hinner, houter⟩ := List.cons.inj h
  have hphase : c'.nesting.inner.phase = c.nesting.inner.phase := congrArg (·.phase) hinner
  refine ⟨?_, Nat.le_of_eq (congrArg (·.rank) hphase.symm), houter⟩
  rw [hinner, hphase]
  rfl

theorem Moves.still (h : c.Moves d) (hd : d.Still d') : c.Moves d' := by
  obtain ⟨hinner, houter⟩ := List.cons.inj hd
  have hphase : d'.nesting.inner.phase = d.nesting.inner.phase := congrArg (·.phase) hinner
  refine ⟨?_, hphase ▸ h.phase, houter.trans h.outer⟩
  rw [hinner, hphase]
  exact h.inner

theorem moves_noted (c : Checker) : c.Moves c.noted := by
  have hstateless : c.nesting.inner.noteStatement.stateless =
      { c.nesting.inner.stateless with phase := c.nesting.inner.noteStatement.phase } :=
    congrArg Scope.stateless c.nesting.inner.noteStatement_eq
  exact ⟨hstateless, c.nesting.inner.noteStatement_becomes.phase, rfl⟩

/-- Whether a place is one for statements with scopes of the kind inside: for handlers after the
other declarations of a block, for all others after all declarations. -/
def Receives (c : Checker) : ScopeKind → Prop
  | .handler => c.nesting.inner.kind = .block ∧ c.nesting.inner.phase = .handlers
  | _ => c.nesting.inner.kind = .block → c.nesting.inner.phase = .body

theorem receives_noted (c : Checker) (hkind : kind ≠ .handler) : c.noted.Receives kind := by
  have hdone : c.noted.nesting.inner.kind = .block → c.noted.nesting.inner.phase = .body := by
    show c.nesting.inner.noteStatement.kind = .block → c.nesting.inner.noteStatement.phase = .body
    unfold Scope.noteStatement
    split
    · exact fun _ => rfl
    · exact fun hk => absurd hk ‹_›
  cases kind with
  | handler => exact absurd rfl hkind
  | _ => exact hdone

end Checker

/-- What is asked of a statement itself, besides what it holds: its conditions and its operand. -/
def Statement.tests : Statement → List Outline
  | .ifElse branches _ => branches.map (·.test.outline)
  | .cases operand whens _ => (operand.map (·.outline)).toList ++ whens.map (·.test.outline)
  | .whileLoop _ test _ => [test.outline]
  | .repeatLoop _ test _ => [test.outline]
  | _ => []

/-- The named conditions that a statement handles. -/
def Statement.handles : Statement → List String
  | .declareHandler _ conditions _ => conditions.filterMap (·.name?)
  | _ => []

variable {Q : List Statement → Prop} {P : Checker → List Statement → Prop} {c c' : Checker}

/-- Whether a list of statements has the property in a scope inside. -/
def Checker.Holds (P : Checker → List Statement → Prop) (c : Checker) (kind : ScopeKind)
    (label : Option String) (body : List Statement) : Prop :=
  ∃ d, c.Inside kind label d ∧ P d body

theorem Checker.Holds.still {kind : ScopeKind} {label : Option String} {body : List Statement}
    (h : c.Holds P kind label body) (hc : c.Still c') : c'.Holds P kind label body := by
  obtain ⟨d, hd, hbody⟩ := h
  exact ⟨d, hd.still hc, hbody⟩

/-- Whether a statement that holds others has its place, and what it holds has the property. -/
structure Checker.Takes (P : Checker → List Statement → Prop) (c : Checker) (s : Statement)
    (k : ScopeKind) : Prop where
  kind : s.scopeKind? = some k
  receives : c.Receives k
  labelled : k = .loop → s.label?.isSome = true
  tests : ∀ o ∈ s.tests, c.nesting.resolveAll o.variableNames = .ok ()
  handles : ∀ name ∈ s.handles, c.nesting.resolveCondition name = .ok ()
  held : ∀ body ∈ s.held, c.Holds P k s.label? body

/-- Whether a property of statements, and of the scopes that they have led to, is kept by checks that
succeed. -/
structure Upheld (P : Checker → List Statement → Prop) : Prop where
  moves : ∀ {c c' : Checker} {ss : List Statement}, c.Moves c' → P c ss → P c' ss
  fresh : ∀ {c : Checker} {kind : ScopeKind} {label : Option String} {scope : Scope},
    c.nesting.child kind label = .ok scope → P (c.entered scope) []
  leaf : ∀ {c c' : Checker} {ss : List Statement} {s : Statement}, s.scopeKind? = none →
    s.check c = (.ok s, c') → P c ss → P c' (ss ++ [s])
  holder : ∀ {c : Checker} {ss : List Statement} {s : Statement} {kind : ScopeKind},
    c.Takes P s kind → P c ss → P c (ss ++ [s])

/-! ## Views -/

/-- Whether a statement, if it is a block, bears the view of its start: what is visible in its scope
before anything is declared there. -/
def Checker.Begins (c : Checker) (s : Statement) : Prop :=
  ∀ b, s = .block b → ∃ d, c.Inside .block b.label d ∧ d.nesting.inner.variableNames = [] ∧
    b.scope = some d.nesting.view

theorem Checker.Takes.begins {s : Statement} {k : ScopeKind} (h : c.Takes P s k)
    (hk : k ≠ .block) : c.Begins s := by
  rintro b rfl
  exact absurd (Option.some.inj h.kind).symm hk

/-- Whether a property is kept by checks that succeed, where the blocks that come bear the views of
their starts, and those that handlers end with, if they have the statements for it, the views of
their ends. -/
structure UpheldViewed (Q : List Statement → Prop) (P : Checker → List Statement → Prop) :
    Prop where
  moves : ∀ {c c' : Checker} {ss : List Statement}, c.Moves c' → P c ss → P c' ss
  fresh : ∀ {c : Checker} {kind : ScopeKind} {label : Option String} {scope : Scope},
    c.nesting.child kind label = .ok scope → P (c.entered scope) []
  leaf : ∀ {c c' : Checker} {ss : List Statement} {s : Statement}, s.scopeKind? = none →
    s.check c = (.ok s, c') → P c ss → P c' (ss ++ [s])
  holder : ∀ {c : Checker} {ss : List Statement} {s : Statement} {kind : ScopeKind},
    c.Takes P s kind → c.Begins s → P c ss → P c (ss ++ [s])
  ended : ∀ {c d : Checker} {body : List Statement}, c.nesting.inner.kind = .handler →
    c.Inside .block none d → P c [] → P d body → Q body →
    P c [.block ⟨body, none, some d.nesting.view⟩]

/-- The block that a handler ends with has its place. -/
theorem Checker.takes_ended {d : Checker} {body : List Statement} (view : Option ScopeView)
    (hkind : c.nesting.inner.kind = .handler) (hd : c.Inside .block none d) (hbody : P d body) :
    c.Takes P (.block ⟨body, none, view⟩) .block where
  kind := rfl
  receives hk := by cases hkind.symm.trans hk
  labelled := nofun
  tests := nofun
  handles := nofun
  held := by
    intro ss hmem
    rw [List.mem_singleton.1 hmem]
    exact ⟨d, hd, hbody⟩

/-- What is upheld does not mind views. -/
theorem Upheld.viewed (hP : Upheld P) (Q : List Statement → Prop) : UpheldViewed Q P where
  moves := hP.moves
  fresh := hP.fresh
  leaf := hP.leaf
  holder h _ := hP.holder h
  ended hkind hd hnil hbody _ := hP.holder (Checker.takes_ended _ hkind hd hbody) hnil

/-! ## Branches -/

/-- Whether a branch may be one of a statement that has its place. -/
def Checker.TakesBranch (P : Checker → List Statement → Prop) (c : Checker) (test : Outline)
    (body : List Statement) : Prop :=
  c.nesting.resolveAll test.variableNames = .ok () ∧ c.Holds P .branch none body

theorem Checker.TakesBranch.still {test : Outline} {body : List Statement}
    (h : c.TakesBranch P test body) (hc : c.Still c') : c'.TakesBranch P test body :=
  ⟨(hc.resolveAll _).trans h.1, h.2.still hc⟩

/-- A conditional has its place where each of its branches has. -/
theorem Checker.takes_ifElse {branches : List IfBranch} {otherwise : Option (List Statement)}
    (hc : c.Receives .branch)
    (hbranches : ∀ b ∈ branches, c.TakesBranch P b.test.outline b.statements)
    (helse : ∀ body, otherwise = some body → c.Holds P .branch none body) :
    c.Takes P (.ifElse branches otherwise) .branch where
  kind := rfl
  receives := hc
  labelled := nofun
  tests := by
    intro o ho
    obtain ⟨b, hb, rfl⟩ := List.mem_map.1 ho
    exact (hbranches b hb).1
  handles := nofun
  held := by
    intro body hbody
    rcases List.mem_append.1 hbody with hbody | hbody
    · obtain ⟨b, hb, rfl⟩ := List.mem_map.1 hbody
      exact (hbranches b hb).2
    · exact helse body (Option.mem_toList.1 hbody)

/-- A case has its place where its operand means something and each of its arms has its place. -/
theorem Checker.takes_cases {operand : Option Expr} {whens : List CaseWhen}
    {otherwise : Option (List Statement)} (hc : c.Receives .branch)
    (hoperand : c.nesting.resolveAll ((operand.map (·.outline.variableNames)).getD []) = .ok ())
    (hwhens : ∀ w ∈ whens, c.TakesBranch P w.test.outline w.statements)
    (helse : ∀ body, otherwise = some body → c.Holds P .branch none body) :
    c.Takes P (.cases operand whens otherwise) .branch where
  kind := rfl
  receives := hc
  labelled := nofun
  tests := by
    intro o ho
    rcases List.mem_append.1 ho with ho | ho
    · obtain ⟨value, hvalue, rfl⟩ := Option.map_eq_some_iff.1 (Option.mem_toList.1 ho)
      rw [hvalue] at hoperand
      exact hoperand
    · obtain ⟨w, hw, rfl⟩ := List.mem_map.1 ho
      exact (hwhens w hw).1
  handles := nofun
  held := by
    intro body hbody
    rcases List.mem_append.1 hbody with hbody | hbody
    · obtain ⟨w, hw, rfl⟩ := List.mem_map.1 hbody
      exact (hwhens w hw).2
    · exact helse body (Option.mem_toList.1 hbody)

/-! ## Checks -/

namespace UpheldViewed

variable {ss : List Statement} {d t : Checker}

/-- A branch that nothing has come to. -/
theorem branched (hP : UpheldViewed Q P) (c : Checker) (before : List CursorState) :
    P (c.branched before) [] := by
  have hchild : (c.withStates before).nesting.child .branch none = .ok _ := rfl
  exact hP.fresh hchild

/-- A handler that nothing has come to. -/
theorem handling (hP : UpheldViewed Q P) (c : Checker) : P c.handling [] := by
  have hchild : c.nesting.child .handler none = .ok _ := rfl
  exact hP.moves (Checker.still_withStates _ _).moves (hP.fresh hchild)

/-- What is done in a scope inside becomes one statement around it. -/
theorem holds (hP : UpheldViewed Q P) {s : Statement} {kind : ScopeKind} (hs : c.Takes P s kind)
    (hbegins : c.Begins s) (hc : c.Still c') (hss : P c ss) : P c' (ss ++ [s]) :=
  hP.moves hc.moves (hP.holder hs hbegins hss)

end UpheldViewed

namespace Checker

theorem inside_handling (c : Checker) : c.Inside .handler none c.handling := by
  have hchild : c.nesting.child .handler none = .ok _ := rfl
  exact (inside_of_child hchild).onward (still_withStates _ _).onward

/-- A handler is declared in its phase, and nothing else changes. -/
theorem moves_declareHandler {t : Checker} {u : Unit}
    (h : declare (·.declareHandler) c = (.ok u, t)) : c.Moves t ∧ t.Receives .handler := by
  obtain ⟨s, hs, rfl⟩ := declare_eq.1 h
  obtain ⟨rfl, hrank, hkind⟩ := Scope.enterPhase_eq (Scope.declareHandler_eq_ok.1 hs)
  exact ⟨⟨rfl, hrank, rfl⟩, hkind, rfl⟩

end Checker

theorem Checker.Holds.of_checkAll {kind : ScopeKind} {label : Option String} {d t : Checker}
    {body body' : List Statement} (hd : c.Inside kind label d)
    (h : Statement.checkAll body d = (.ok body', t)) (hbody : P t body') :
    c.Holds P kind label body' :=
  ⟨t, hd.onward ((Statement.checkAll_onward body).apply h), hbody⟩

/-! ### Constructs -/

variable (P) in
/-- Whether a check of a statement that succeeds keeps the property. -/
def Statement.Upholds (s : Statement) : Prop :=
  ∀ ⦃s' : Statement⦄ ⦃c c' : Checker⦄ ⦃ss : List Statement⦄, s.check c = (.ok s', c') → P c ss →
    P c' (ss ++ [s'])

variable (P) in
/-- Whether a check of statements that succeeds keeps the property. -/
def Statement.AllUphold (ts : List Statement) : Prop :=
  ∀ ⦃ts' : List Statement⦄ ⦃c c' : Checker⦄ ⦃ss : List Statement⦄,
    Statement.checkAll ts c = (.ok ts', c') → P c ss → P c' (ss ++ ts')

/-- A statement that holds none is given back as it is. -/
theorem Statement.check_leaf {s s' : Statement} (hs : s.scopeKind? = none)
    (h : s.check c = (.ok s', c')) : s' = s := by
  have hreturns : Returns s s.check := by
    cases s with
    | foreign o => exact fun _ _ _ h => nomatch h
    | delimiter text => exact fun _ _ _ h => nomatch h
    | empty => exact .pure _
    | declareVariables names type initial => exact .bind fun _ => .bind fun _ => .pure _
    | declareCondition name value => exact .bind fun _ => .pure _
    | declareCursor name query => exact .bind fun _ => .bind fun _ => .pure _
    | select query => exact .bind fun _ => .bind fun _ => .bind fun _ => .pure _
    | signal condition message number => exact .bind fun _ => .bind fun _ => .bind fun _ => .pure _
    | declareHandler _ _ _ => cases hs
    | block _ => cases hs
    | ifElse _ _ => cases hs
    | cases _ _ _ => cases hs
    | loop _ _ => cases hs
    | whileLoop _ _ _ => cases hs
    | repeatLoop _ _ _ => cases hs
    | _ => exact .bind fun _ => .bind fun _ => .pure _
  exact hreturns h

namespace UpheldViewed

variable {label : Option String} {test : Condition} {ss body : List Statement}

theorem ofLeaf (hP : UpheldViewed Q P) {s : Statement} (hs : s.scopeKind? = none) : s.Upholds P := by
  intro s' c c' ss h hss
  obtain rfl := Statement.check_leaf hs h
  exact hP.leaf hs h hss

theorem handler (hP : UpheldViewed Q P) (action : HandlerAction) (conditions : List ConditionValue)
    {body : Statement} (hbody : body.Upholds P) :
    (Statement.declareHandler action conditions body).Upholds P := by
  intro s' c c' ss h hss
  obtain ⟨t, u, body', v, ht, hu, hchecked, rfl, rfl⟩ := Statement.check_declareHandler_ok.1 h
  obtain ⟨hnames, rfl⟩ := ask_eq.1 hu
  obtain ⟨hmoves, hreceives⟩ := Checker.moves_declareHandler ht
  have hinside := t.inside_handling.onward ((Statement.check_onward body).apply hchecked)
  have htakes : t.Takes P (.declareHandler action conditions body') .handler := {
    kind := rfl
    receives := hreceives
    labelled := nofun
    tests := nofun
    handles := Outcome.forM_eq_ok.1 hnames
    held := by
      intro body hmem
      rw [List.mem_singleton.1 hmem]
      exact ⟨v, hinside, hbody hchecked (hP.handling t)⟩ }
  have hstill : t.Still (v.left.withStates t.nesting.states) :=
    Trans.trans hinside.left (v.left.still_withStates _)
  exact hP.holds htakes (htakes.begins nofun) hstill (hP.moves hmoves hss)

theorem block (hP : UpheldViewed Q P) (label : Option String) (view : Option ScopeView)
    (hbody : Statement.AllUphold P body) : (Statement.block ⟨body, label, view⟩).Upholds P := by
  intro s' c c' ss h hss
  obtain ⟨b, hb, rfl⟩ := Statement.check_block_ok.1 h
  obtain ⟨scope, body', t, hscope, hchecked, rfl, rfl⟩ := Block.check_ok.1 hb
  have hinside := Checker.inside_of_child hscope
  have htakes : c.noted.Takes P (.block ⟨body', label, some (c.noted.entered scope).nesting.view⟩)
      .block := {
    kind := rfl
    receives := c.receives_noted nofun
    labelled := nofun
    tests := nofun
    handles := nofun
    held := by
      intro body hmem
      rw [List.mem_singleton.1 hmem]
      exact .of_checkAll hinside hchecked (hbody hchecked (hP.fresh hscope)) }
  have hbegins : c.noted.Begins
      (.block ⟨body', label, some (c.noted.entered scope).nesting.view⟩) := by
    rintro _ ⟨⟩
    exact ⟨_, hinside, Checker.bare_of_child hscope, rfl⟩
  have hleft := (hinside.onward ((Statement.checkAll_onward body).apply hchecked)).left
  exact hP.holds htakes hbegins hleft (hP.moves c.moves_noted hss)

/-- What has been checked in the scope of a loop is a loop that has its place. -/
theorem looped (hP : UpheldViewed Q P) {scope : Scope} {t : Checker} {body' : List Statement}
    {s : Statement} (hss : P c ss)
    (hscope : (c.noted.labelled label).2.nesting.child .loop (some (c.noted.labelled label).1) =
      .ok scope)
    (hchecked : Statement.checkAll body ((c.noted.labelled label).2.entered scope) = (.ok body', t))
    (hbody : Statement.AllUphold P body) (hkind : s.scopeKind? = some .loop)
    (hlabel : s.label? = some (c.noted.labelled label).1) (hheld : s.held = [body'])
    (hhandles : s.handles = [])
    (htests : ∀ o ∈ s.tests, c.noted.nesting.resolveAll o.variableNames = .ok ()) :
    P t.left (ss ++ [s]) := by
  have hlabelled := c.noted.still_labelled label
  have hinside := Checker.inside_of_child hscope
  have hholds : c.noted.Holds P .loop (some (c.noted.labelled label).1) body' :=
    (Checker.Holds.of_checkAll hinside hchecked (hbody hchecked (hP.fresh hscope))).still
      hlabelled.symm
  have htakes : c.noted.Takes P s .loop := {
    kind := hkind
    receives := c.receives_noted nofun
    labelled := fun _ => by rw [hlabel]; rfl
    tests := htests
    handles := by rw [hhandles]; nofun
    held := by
      rw [hheld, hlabel]
      intro body hmem
      rw [List.mem_singleton.1 hmem]
      exact hholds }
  have hleft := (hinside.onward ((Statement.checkAll_onward body).apply hchecked)).left
  exact hP.holds htakes (htakes.begins nofun) (Trans.trans hlabelled hleft)
    (hP.moves c.moves_noted hss)

theorem loop (hP : UpheldViewed Q P) (label : Option String) (hbody : Statement.AllUphold P body) :
    (Statement.loop label body).Upholds P := by
  intro s' c c' ss h hss
  obtain ⟨scope, body', t, hscope, hchecked, rfl, rfl⟩ := Statement.check_loop_ok.1 h
  exact hP.looped hss hscope hchecked hbody rfl rfl rfl rfl nofun

theorem whileLoop (hP : UpheldViewed Q P) (label : Option String) (test : Condition)
    (hbody : Statement.AllUphold P body) : (Statement.whileLoop label test body).Upholds P := by
  intro s' c c' ss h hss
  obtain ⟨htest, scope, body', t, hscope, hchecked, rfl, rfl⟩ := Statement.check_whileLoop_ok.1 h
  refine hP.looped hss hscope hchecked hbody rfl rfl rfl rfl fun o ho => ?_
  rw [List.mem_singleton.1 ho]
  exact ((c.noted.still_labelled label).resolveAll _).symm.trans htest

theorem repeatLoop (hP : UpheldViewed Q P) (label : Option String) (test : Condition)
    (hbody : Statement.AllUphold P body) : (Statement.repeatLoop label test body).Upholds P := by
  intro s' c c' ss h hss
  obtain ⟨scope, body', t, hscope, hchecked, htest, rfl, rfl⟩ := Statement.check_repeatLoop_ok.1 h
  have hinside := (Checker.inside_of_child hscope).onward
    ((Statement.checkAll_onward body).apply hchecked)
  refine hP.looped hss hscope hchecked hbody rfl rfl rfl rfl fun o ho => ?_
  rw [List.mem_singleton.1 ho, ← (c.noted.still_labelled label).resolveAll,
    ← hinside.resolveAll nofun]
  exact htest

/-- A branch that is checked has its place, and leaves the scopes around it as they are. -/
theorem branch (hP : UpheldViewed Q P) {before : List CursorState} {test : Outline} {t : Checker}
    {body' : List Statement}
    (htest : (c.withStates before).nesting.resolveAll test.variableNames = .ok ())
    (hchecked : Statement.checkAll body (c.branched before) = (.ok body', t))
    (hbody : Statement.AllUphold P body) : c.TakesBranch P test body' ∧ c.Still t.left := by
  have hinside := c.inside_branched before
  have htest' := ((c.still_withStates before).resolveAll _).symm.trans htest
  have hbody' := hbody hchecked (hP.branched c before)
  exact ⟨⟨htest', .of_checkAll hinside hchecked hbody'⟩,
    (hinside.onward ((Statement.checkAll_onward body).apply hchecked)).left⟩

theorem ifBranches (hP : UpheldViewed Q P) {branches branches' : List IfBranch} {before : List CursorState}
    {outcomes : List (List CursorState)}
    (hbodies : ∀ b ∈ branches, Statement.AllUphold P b.statements)
    (h : IfBranch.checkAll before branches c = (.ok (branches', outcomes), c')) :
    ∀ b ∈ branches', c.TakesBranch P b.test.outline b.statements := by
  induction branches generalizing c branches' outcomes with
  | nil =>
    cases h
    nofun
  | cons branch rest ih =>
    obtain ⟨test, body⟩ := branch
    obtain ⟨htest, body', t, rest', outcomes', hchecked, hrest, he⟩ := IfBranch.checkAll_cons_ok.1 h
    cases he
    obtain ⟨hfirst, hleft⟩ := hP.branch htest hchecked (hbodies _ List.mem_cons_self)
    intro b hb
    rcases List.mem_cons.1 hb with rfl | hb
    · exact hfirst
    · exact (ih (fun b hb => hbodies b (List.mem_cons_of_mem _ hb)) hrest b hb).still hleft.symm

theorem arms (hP : UpheldViewed Q P) {whens whens' : List CaseWhen} {before : List CursorState}
    {outcomes : List (List CursorState)}
    (hbodies : ∀ w ∈ whens, Statement.AllUphold P w.statements)
    (h : CaseWhen.checkAll before whens c = (.ok (whens', outcomes), c')) :
    ∀ w ∈ whens', c.TakesBranch P w.test.outline w.statements := by
  induction whens generalizing c whens' outcomes with
  | nil =>
    cases h
    nofun
  | cons arm rest ih =>
    obtain ⟨test, body⟩ := arm
    obtain ⟨htest, body', t, rest', outcomes', hchecked, hrest, he⟩ := CaseWhen.checkAll_cons_ok.1 h
    cases he
    obtain ⟨hfirst, hleft⟩ := hP.branch htest hchecked (hbodies _ List.mem_cons_self)
    intro w hw
    rcases List.mem_cons.1 hw with rfl | hw
    · exact hfirst
    · exact (ih (fun w hw => hbodies w (List.mem_cons_of_mem _ hw)) hrest w hw).still hleft.symm

theorem elseBody (hP : UpheldViewed Q P) {otherwise otherwise' : Option (List Statement)}
    {before outcome : List CursorState}
    (hbody : ∀ body, otherwise = some body → Statement.AllUphold P body)
    (h : Statement.checkElse before otherwise c = (.ok (otherwise', outcome), c')) :
    ∀ body, otherwise' = some body → c.Holds P .branch none body := by
  cases otherwise with
  | none =>
    cases h
    nofun
  | some body =>
    obtain ⟨body', t, hchecked, rfl, he⟩ := Statement.checkElse_some_ok.1 h
    cases he
    rintro _ ⟨⟩
    exact .of_checkAll (c.inside_branched before) hchecked
      (hbody body rfl hchecked (hP.branched c before))

theorem ifElse (hP : UpheldViewed Q P) {branches : List IfBranch} {otherwise : Option (List Statement)}
    (hbodies : ∀ b ∈ branches, Statement.AllUphold P b.statements)
    (hbody : ∀ body, otherwise = some body → Statement.AllUphold P body) :
    (Statement.ifElse branches otherwise).Upholds P := by
  intro s' c c' ss h hss
  obtain ⟨branches', outcomes, t, otherwise', outcome, u, hbranches, helse, rfl, rfl⟩ :=
    Statement.check_ifElse_ok.1 h
  have ht := still_of_branches hbranches
  have hu : t.Still u := (Statement.checkElse_still _ otherwise).apply helse
  have htakes := Checker.takes_ifElse (c.receives_noted nofun) (hP.ifBranches hbodies hbranches)
    fun body hb => (hP.elseBody hbody helse body hb).still ht.symm
  have hstill : c.noted.Still u := Trans.trans ht hu
  exact hP.holds htakes (htakes.begins nofun) (Trans.trans hstill (u.still_withStates _))
    (hP.moves c.moves_noted hss)

theorem cases (hP : UpheldViewed Q P) {operand : Option Expr} {whens : List CaseWhen}
    {otherwise : Option (List Statement)}
    (hbodies : ∀ w ∈ whens, Statement.AllUphold P w.statements)
    (hbody : ∀ body, otherwise = some body → Statement.AllUphold P body) :
    (Statement.cases operand whens otherwise).Upholds P := by
  intro s' c c' ss h hss
  obtain ⟨hoperand, whens', outcomes, t, otherwise', outcome, u, hwhens, helse, rfl, rfl⟩ :=
    Statement.check_cases_ok.1 h
  have ht := still_of_arms hwhens
  have hu : t.Still u := (Statement.checkElse_still _ otherwise).apply helse
  have htakes := Checker.takes_cases (c.receives_noted nofun) hoperand (hP.arms hbodies hwhens)
    fun body hb => (hP.elseBody hbody helse body hb).still ht.symm
  have hstill : c.noted.Still u := Trans.trans ht hu
  exact hP.holds htakes (htakes.begins nofun) (Trans.trans hstill (u.still_withStates _))
    (hP.moves c.moves_noted hss)

end UpheldViewed

/-! ### Trees -/

mutual

/-- **What is upheld is kept by every check that succeeds.** -/
theorem Statement.check_upheld (hP : UpheldViewed Q P) : ∀ s : Statement, s.Upholds P
  | .declareHandler action conditions body =>
    hP.handler action conditions (Statement.check_upheld hP body)
  | .block ⟨body, label, view⟩ => hP.block label view (Statement.checkAll_upheld hP body)
  | .loop label body => hP.loop label (Statement.checkAll_upheld hP body)
  | .whileLoop label test body => hP.whileLoop label test (Statement.checkAll_upheld hP body)
  | .repeatLoop label test body => hP.repeatLoop label test (Statement.checkAll_upheld hP body)
  | .ifElse branches otherwise =>
    hP.ifElse (IfBranch.bodies_upheld hP branches) (Statement.else_upheld hP otherwise)
  | .cases _ whens otherwise =>
    hP.cases (CaseWhen.bodies_upheld hP whens) (Statement.else_upheld hP otherwise)
  | .foreign _ => hP.ofLeaf rfl
  | .delimiter _ => hP.ofLeaf rfl
  | .empty => hP.ofLeaf rfl
  | .declareVariables _ _ _ => hP.ofLeaf rfl
  | .declareCondition _ _ => hP.ofLeaf rfl
  | .declareCursor _ _ => hP.ofLeaf rfl
  | .iterate _ => hP.ofLeaf rfl
  | .leave _ => hP.ofLeaf rfl
  | .openCursor _ => hP.ofLeaf rfl
  | .fetch _ _ => hP.ofLeaf rfl
  | .closeCursor _ => hP.ofLeaf rfl
  | .select _ => hP.ofLeaf rfl
  | .insert _ => hP.ofLeaf rfl
  | .set _ => hP.ofLeaf rfl
  | .call _ _ => hP.ofLeaf rfl
  | .signal _ _ _ => hP.ofLeaf rfl
  | .raw _ => hP.ofLeaf rfl

theorem Statement.checkAll_upheld (hP : UpheldViewed Q P) : ∀ ts : List Statement,
    Statement.AllUphold P ts
  | [] => by
    intro ts' c c' ss h hss
    cases h
    rw [List.append_nil]
    exact hss
  | s :: ts => by
    intro ts' c c' ss h hss
    obtain ⟨s', t, rest, hs, hrest, rfl⟩ := Statement.checkAll_cons_ok.1 h
    rw [List.append_cons]
    exact Statement.checkAll_upheld hP ts hrest (Statement.check_upheld hP s hs hss)

theorem Statement.else_upheld (hP : UpheldViewed Q P) : ∀ otherwise : Option (List Statement),
    ∀ body, otherwise = some body → Statement.AllUphold P body
  | none => nofun
  | some body => by
    rintro _ ⟨⟩
    exact Statement.checkAll_upheld hP body

theorem IfBranch.bodies_upheld (hP : UpheldViewed Q P) : ∀ branches : List IfBranch,
    ∀ b ∈ branches, Statement.AllUphold P b.statements
  | [] => nofun
  | ⟨_, body⟩ :: rest => by
    intro b hb
    rcases List.mem_cons.1 hb with rfl | hb
    · exact Statement.checkAll_upheld hP body
    · exact IfBranch.bodies_upheld hP rest b hb

theorem CaseWhen.bodies_upheld (hP : UpheldViewed Q P) : ∀ whens : List CaseWhen,
    ∀ w ∈ whens, Statement.AllUphold P w.statements
  | [] => nofun
  | ⟨_, body⟩ :: rest => by
    intro w hw
    rcases List.mem_cons.1 hw with rfl | hw
    · exact Statement.checkAll_upheld hP body
    · exact CaseWhen.bodies_upheld hP rest w hw

end

/-! ## Properties of each statement -/

variable {R : RowAccess → Statement → Prop} {ss : List Statement} {s : Statement}

/-- Whether each accepted statement has a property, which may depend on the rows that are seen: what
holds no others by its check, and what does by its place. -/
structure Ensured (R : RowAccess → Statement → Prop) : Prop where
  leaf : ∀ {c c' : Checker} {s : Statement}, s.scopeKind? = none → s.check c = (.ok s, c') →
    R c.nesting.inner.rows s
  holder : ∀ {P : Checker → List Statement → Prop} {c : Checker} {s : Statement} {kind : ScopeKind},
    c.Takes P s kind → R c.nesting.inner.rows s

/-- Whether all statements, and all those in them, have a property. -/
def EachHas (R : RowAccess → Statement → Prop) (c : Checker) (ss : List Statement) : Prop :=
  ∀ s ∈ ss, s.Everywhere (R c.nesting.inner.rows)

theorem EachHas.append (h : EachHas R c ss) (hrows : c'.nesting.inner.rows = c.nesting.inner.rows)
    (hs : s.Everywhere (R c.nesting.inner.rows)) : EachHas R c' (ss ++ [s]) := by
  unfold EachHas
  rw [hrows]
  exact List.forall_mem_append.2 ⟨h, List.forall_mem_singleton.2 hs⟩

/-- What is ensured of each statement is upheld. -/
theorem Ensured.upheld (hR : Ensured R) : Upheld (EachHas R) where
  moves h hss := by
    unfold EachHas
    rw [h.onward.inner.rows]
    exact hss
  fresh _ := nofun
  leaf hleaf h hss := by
    refine hss.append ((Statement.check_onward _).apply h).inner.rows ?_
    refine Statement.everywhere_iff.2 ⟨hR.leaf hleaf h, fun body hbody => ?_⟩
    rw [Statement.held_of_scopeKind? hleaf] at hbody
    cases hbody
  holder h hss := by
    refine hss.append rfl (Statement.everywhere_iff.2 ⟨hR.holder h, fun body hbody => ?_⟩)
    obtain ⟨d, hd, heach⟩ := h.held body hbody
    exact hd.rows ▸ heach

end StoredSql
