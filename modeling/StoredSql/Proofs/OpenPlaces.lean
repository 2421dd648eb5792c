import StoredSql.Proofs.UpheldChecks

/-!
# Open constructs in their place

A builder keeps the statements of its open constructs besides the scopes that they have led to. What
is upheld by checks holds of the statements of each open construct (`Construct.Opened`, `Framed`). The
lemmas follow the calls: a construct that is opened, its next branch, and its end.
-/

namespace StoredSql

open Check Stepwise

variable {Q : List Statement → Prop} {P : Checker → List Statement → Prop}
  {c c' d d' start : Checker} {e : Error}

/-! ## Open constructs -/

/-- Whether a view is that of the start of a block with a label. -/
def Checker.BeginsWith (c : Checker) (label : Option String) (view : ScopeView) : Prop :=
  ∃ d, c.Inside .block label d ∧ d.nesting.inner.variableNames = [] ∧ d.nesting.view = view

/-- What is no block has its place, whatever views it asks for. -/
theorem Checker.Takes.withBegins {s : Statement} {k : ScopeKind} (h : c.Takes P s k)
    (hk : k ≠ .block) : ∃ kind, c.Takes P s kind ∧ c.Begins s :=
  ⟨k, h, h.begins hk⟩

theorem Checker.BeginsWith.begins {label : Option String} {view : ScopeView} {ss : List Statement}
    (h : c.BeginsWith label view) : c.Begins (.block ⟨ss, label, some view⟩) := by
  rintro _ ⟨⟩
  obtain ⟨d, hd, hbare, hview⟩ := h
  exact ⟨d, hd, hbare, congrArg some hview.symm⟩

namespace Construct

variable {k : Construct} {ss ss' ts : List Statement} {s : Statement} {seen : ScopeView}

/-- Whether a construct has its place at a checker around it, and what has come to it has the
property, up to the checker where its next statement comes. -/
def Opened (P : Checker → List Statement → Prop) (c d : Checker) (ss : List Statement) :
    Construct → Prop
  | block label view => c.Receives .block ∧ c.Inside .block label d ∧ P d ss ∧
    c.BeginsWith label view
  | handler _ conditions _ => c.Receives .handler ∧
    (∀ name ∈ conditions.filterMap (·.name?), c.nesting.resolveCondition name = .ok ()) ∧
    ∃ h, c.Inside .handler none h ∧ P h [] ∧ h.Inside .block none d ∧ P d ss
  | ifElse part => c.Receives .branch ∧ part.arms.otherwise = none ∧
    (∀ b ∈ part.branches, c.TakesBranch P b.test.outline b.statements) ∧
    (part.arms.inElse = false → c.nesting.resolveAll part.test.variableNames = .ok ()) ∧
    c.Inside .branch none d ∧ P d ss
  | cases part => c.Receives .branch ∧ part.arms.otherwise = none ∧
    c.nesting.resolveAll part.operand.variableNames = .ok () ∧
    (∀ w ∈ part.whens, c.TakesBranch P w.test.outline w.statements) ∧
    (∀ test, part.test = some test → c.nesting.resolveAll test.variableNames = .ok ()) ∧
    if part.entered then c.Inside .branch none d ∧ P d ss
    else c.Still d ∧ part.whens = [] ∧ part.test = none ∧ part.arms.inElse = false
  | loop label => c.Receives .loop ∧ c.Inside .loop (some label) d ∧ P d ss
  | whileLoop label test => c.Receives .loop ∧
    c.nesting.resolveAll test.variableNames = .ok () ∧ c.Inside .loop (some label) d ∧ P d ss
  | repeatLoop label => c.Receives .loop ∧ c.Inside .loop (some label) d ∧ P d ss

/-- Outside the scopes of an open construct nothing but states has changed. -/
theorem Opened.left (h : k.Opened P c d ss) : c.Still (d.leaveScopes k.scopeCount) := by
  cases k with
  | block label view => exact h.2.1.left
  | handler action conditions before =>
    obtain ⟨_, _, h, hh, _, hd, _⟩ := h
    exact (hh.onward hd.left.onward).left
  | ifElse part =>
    obtain ⟨_, _, _, _, hd, _⟩ := h
    exact hd.left
  | cases part =>
    obtain ⟨_, _, _, _, _, h⟩ := h
    cases hentered : part.entered with
    | true =>
      rw [hentered, if_pos rfl] at h
      have hcount : (Construct.cases part).scopeCount = 1 := if_pos hentered
      rw [hcount]
      exact h.1.left
    | false =>
      rw [hentered, if_neg Bool.false_ne_true] at h
      have hcount : (Construct.cases part).scopeCount = 0 := if_neg (by rw [hentered]; nofun)
      rw [hcount]
      exact h.1
  | loop label => exact h.2.1.left
  | whileLoop label test => exact h.2.2.1.left
  | repeatLoop label => exact h.2.1.left

/-- More statements have come to a construct, or its scopes have moved on. -/
theorem Opened.next (h : k.Opened P c d ss) (ht : k.takesStatements = true) (hd : d.Onward d')
    (hss : P d ss → P d' ss') : k.Opened P c d' ss' := by
  cases k with
  | block label view =>
    obtain ⟨hc, hinside, h, hbegins⟩ := h
    exact ⟨hc, hinside.onward hd, hss h, hbegins⟩
  | handler action conditions before =>
    obtain ⟨hc, hnames, t, ht, hnil, hinside, h⟩ := h
    exact ⟨hc, hnames, t, ht, hnil, hinside.onward hd, hss h⟩
  | ifElse part =>
    obtain ⟨hc, hnone, hbranches, htest, hinside, h⟩ := h
    exact ⟨hc, hnone, hbranches, htest, hinside.onward hd, hss h⟩
  | cases part =>
    obtain ⟨hc, hnone, hoperand, hwhens, htest, h⟩ := h
    have hentered : part.entered = true := ht
    rw [if_pos hentered] at h
    refine ⟨hc, hnone, hoperand, hwhens, htest, ?_⟩
    rw [if_pos hentered]
    exact ⟨h.1.onward hd, hss h.2⟩
  | loop label =>
    obtain ⟨hc, hinside, h⟩ := h
    exact ⟨hc, hinside.onward hd, hss h⟩
  | whileLoop label test =>
    obtain ⟨hc, htest, hinside, h⟩ := h
    exact ⟨hc, htest, hinside.onward hd, hss h⟩
  | repeatLoop label =>
    obtain ⟨hc, hinside, h⟩ := h
    exact ⟨hc, hinside.onward hd, hss h⟩

end Construct

/-- Whether the statements of open constructs, innermost first, have the property up to a checker.
The outermost one is the block of the program. -/
inductive Framed (P : Checker → List Statement → Prop) (start : Checker) :
    List Frame → Checker → Prop
  | root {f : Frame} {label : Option String} {view : ScopeView} {d : Checker} :
      f.construct = .block label view → start.Inside .block label d → P d f.statements →
      start.BeginsWith label view → Framed P start [f] d
  | frame {f g : Frame} {fs : List Frame} {c d : Checker} : Framed P start (g :: fs) c →
      g.construct.takesStatements = true → f.construct.Opened P c d f.statements →
      Framed P start (f :: g :: fs) d

namespace Framed

variable {f : Frame} {fs : List Frame}

theorem next {n : Nat} {k : Construct} {ss ss' : List Statement}
    (h : Framed P start (⟨n, k, ss⟩ :: fs) d) (ht : k.takesStatements = true) (hd : d.Onward d')
    (hss : P d ss → P d' ss') : Framed P start (⟨n, k, ss'⟩ :: fs) d' := by
  cases h with
  | root hk hinside h hbegins => exact .root hk (hinside.onward hd) (hss h) hbegins
  | frame hfs hg h => exact .frame hfs hg (h.next ht hd hss)

/-- What is not the block of the program has been opened. -/
theorem opened (h : Framed P start (f :: fs) d) (hf : f.construct.kind ≠ .block ∨ fs ≠ []) :
    ∃ g gs c, fs = g :: gs ∧ Framed P start (g :: gs) c ∧ g.construct.takesStatements = true ∧
      f.construct.Opened P c d f.statements := by
  cases h with
  | root hk _ _ _ =>
    rw [hk] at hf
    exact absurd rfl (hf.resolve_left (not_not_intro rfl))
  | frame hfs hg h => exact ⟨_, _, _, rfl, hfs, hg, h⟩

end Framed

/-! ## Opening -/

namespace Construct

/-- A check that opens a construct: where it succeeds, the construct has its place, and nothing has
come to it. -/
structure Opening (P : Checker → List Statement → Prop) (construct : Check Construct) : Prop where
  ok : ∀ {c c' : Checker} {k : Construct}, construct c = (.ok k, c') →
    ∃ d, c.Moves d ∧ k.Opened P d c' []
  error : ∀ {c c' : Checker} {e : Error}, construct c = (.error e, c') → c.Onward c'

theorem opening_block (hP : UpheldViewed Q P) (label : Operand) : Opening P (ofBlock label) := by
  constructor
  · intro c c' k h
    obtain ⟨l, scope, _, hscope, rfl, rfl⟩ := ofBlock_eq_ok.1 h
    have hinside := Checker.inside_of_child hscope
    exact ⟨c.noted, c.moves_noted, c.receives_noted nofun, hinside, hP.fresh hscope, _, hinside,
      Checker.bare_of_child hscope, rfl⟩
  · intro c c' e h
    obtain ⟨_, rfl⟩ := ofBlock_eq_error.1 h
    exact c.moves_noted.onward

theorem opened_of_ofLoop (hP : UpheldViewed Q P) {construct : String → Construct} {label : Operand}
    {k : Construct} (h : ofLoop label construct c = (.ok k, c')) :
    ∃ l, k = construct l ∧ c.noted.Inside .loop (some l) c' ∧ P c' [] := by
  obtain ⟨given, scope, _, hscope, rfl, rfl⟩ := ofLoop_eq_ok.1 h
  have hinside := (Checker.inside_of_child hscope).still (c.noted.still_labelled given).symm
  exact ⟨_, rfl, hinside, hP.fresh hscope⟩

theorem onward_of_ofLoop {construct : String → Construct} {label : Operand}
    (h : ofLoop label construct c = (.error e, c')) : c.Onward c' := by
  rcases ofLoop_eq_error.1 h with ⟨_, rfl⟩ | ⟨given, _, _, rfl⟩
  · exact c.moves_noted.onward
  · exact Trans.trans c.moves_noted.onward (c.noted.still_labelled given).onward

theorem opening_loop (hP : UpheldViewed Q P) (label : Operand) : Opening P (ofLoop label .loop) := by
  refine ⟨fun {c c' k} h => ?_, onward_of_ofLoop⟩
  obtain ⟨l, rfl, hinside, hnil⟩ := opened_of_ofLoop hP h
  exact ⟨c.noted, c.moves_noted, c.receives_noted nofun, hinside, hnil⟩

theorem opening_repeat (hP : UpheldViewed Q P) (label : Operand) :
    Opening P (ofLoop label .repeatLoop) := by
  refine ⟨fun {c c' k} h => ?_, onward_of_ofLoop⟩
  obtain ⟨l, rfl, hinside, hnil⟩ := opened_of_ofLoop hP h
  exact ⟨c.noted, c.moves_noted, c.receives_noted nofun, hinside, hnil⟩

theorem opening_while (hP : UpheldViewed Q P) (test label : Operand) :
    Opening P (resolveAll test.variableNames >>= fun _ => ofLoop label (.whileLoop · test)) := by
  constructor
  · intro c c' k h
    obtain ⟨_, _, hresolve, h⟩ := bind_ok.1 h
    obtain ⟨htest, rfl⟩ := resolveAll_eq.1 hresolve
    obtain ⟨l, rfl, hinside, hnil⟩ := opened_of_ofLoop hP h
    exact ⟨c.noted, c.moves_noted, c.receives_noted nofun, (c.resolveAll_noted _).trans htest,
      hinside, hnil⟩
  · intro c c' e h
    rcases bind_error.1 h with htest | ⟨_, _, htest, h⟩
    · obtain ⟨_, rfl⟩ := resolveAll_eq.1 htest
      exact Std.Refl.refl c
    · obtain ⟨_, rfl⟩ := resolveAll_eq.1 htest
      exact onward_of_ofLoop h

theorem opening_if (hP : UpheldViewed Q P) (test : Operand) : Opening P (ofIf test) := by
  constructor
  · intro c c' k h
    obtain ⟨htest, rfl, rfl⟩ := ofIf_eq_ok.1 h
    exact ⟨c.noted, c.moves_noted, c.receives_noted nofun, rfl, nofun, fun _ => htest,
      c.noted.inside_branched _, hP.branched c.noted _⟩
  · intro c c' e h
    obtain ⟨_, rfl⟩ := ofIf_eq_error.1 h
    exact c.moves_noted.onward

theorem opening_case (operand : Operand) : Opening P (ofCase operand) := by
  constructor
  · intro c c' k h
    obtain ⟨hoperand, rfl, rfl⟩ := ofCase_eq_ok.1 h
    exact ⟨c.noted, c.moves_noted, c.receives_noted nofun, rfl, hoperand, nofun, nofun,
      Std.Refl.refl c.noted, rfl, rfl, rfl⟩
  · intro c c' e h
    obtain ⟨_, rfl⟩ := ofCase_eq_error.1 h
    exact c.moves_noted.onward

theorem opening_handler (hP : UpheldViewed Q P) (action : HandlerAction)
    (conditions : List ConditionValue) : Opening P (ofHandler action conditions) := by
  constructor
  · intro c c' k h
    obtain ⟨t, u, ht, hu, rfl, rfl⟩ := ofHandler_eq_ok.1 h
    obtain ⟨hnames, rfl⟩ := ask_eq.1 hu
    obtain ⟨hmoves, hreceives⟩ := Checker.moves_declareHandler ht
    have hchild : t.handling.nesting.child .block none = .ok _ := rfl
    exact ⟨t, hmoves, hreceives, Outcome.forM_eq_ok.1 hnames, t.handling, t.inside_handling,
      hP.handling t, Checker.inside_of_child hchild, hP.fresh hchild⟩
  · intro c c' e h
    have hdeclare := declare_onward Scope.declareHandler_becomes
    rcases ofHandler_eq_error.1 h with h | ⟨t, ht, hu⟩
    · exact hdeclare.apply h
    · obtain ⟨_, rfl⟩ := ask_eq.1 hu
      exact hdeclare.apply ht

end Construct

/-! ## Branches -/

namespace Construct

variable {ss : List Statement} {s : Statement} {seen : ScopeView} {states : List CursorState}

theorem Opened.closeBranch {part part' : OpenIf} (h : (ifElse part).Opened P c d ss)
    (hclose : part.close ss states = .ok part') :
    (∀ b ∈ part'.branches, c.TakesBranch P b.test.outline b.statements) ∧
      (∀ body, part'.arms.otherwise = some body → c.Holds P .branch none body) ∧
      (part.arms.inElse = false → part'.arms.otherwise = none) := by
  obtain ⟨_, hnone, hbranches, htest, hinside, hss⟩ := h
  cases helse : part.arms.inElse with
  | true =>
    rw [OpenIf.close_else helse] at hclose
    cases hclose
    refine ⟨hbranches, ?_, nofun⟩
    rintro _ ⟨⟩
    exact ⟨d, hinside, hss⟩
  | false =>
    obtain ⟨test, hcondition, _, rfl⟩ := (OpenIf.close_eq_ok helse).1 hclose
    have hnone' : (part.arms.close states).otherwise = none := hnone
    refine ⟨fun b hb => ?_, fun body hbody => ?_, fun _ => hnone'⟩
    · rcases List.mem_append.1 hb with hb | hb
      · exact hbranches b hb
      · rw [List.mem_singleton.1 hb]
        refine ⟨?_, d, hinside, hss⟩
        exact (congrArg _ (variableNames_of_condition? hcondition)).trans (htest helse)
    · cases hnone'.symm.trans hbody

theorem Opened.closeArm {part part' : OpenCase} (h : (cases part).Opened P c d ss)
    (hclose : part.close ss states = .ok part') :
    (∀ w ∈ part'.whens, c.TakesBranch P w.test.outline w.statements) ∧
      (∀ body, part'.arms.otherwise = some body → c.Holds P .branch none body) ∧
      (part.arms.inElse = false → part'.arms.otherwise = none) := by
  obtain ⟨_, hnone, _, hwhens, htest, h⟩ := h
  cases hentered : part.entered with
  | false =>
    rw [hentered, if_neg Bool.false_ne_true] at h
    obtain ⟨_, _, hnotest, helse⟩ := h
    rw [OpenCase.close_none helse hnotest] at hclose
    cases hclose
    exact ⟨hwhens, fun body hbody => absurd (hnone.symm.trans hbody) nofun, fun _ => hnone⟩
  | true =>
    rw [if_pos hentered] at h
    obtain ⟨hinside, hss⟩ := h
    cases helse : part.arms.inElse with
    | true =>
      rw [OpenCase.close_else helse] at hclose
      cases hclose
      refine ⟨hwhens, ?_, nofun⟩
      rintro _ ⟨⟩
      exact ⟨d, hinside, hss⟩
    | false =>
      cases hsome : part.test with
      | none =>
        rw [OpenCase.close_none helse hsome] at hclose
        cases hclose
        exact ⟨hwhens, fun body hbody => absurd (hnone.symm.trans hbody) nofun, fun _ => hnone⟩
      | some test =>
        obtain ⟨value, hvalue, _, rfl⟩ := (OpenCase.close_eq_ok helse hsome).1 hclose
        have hnone' : (part.arms.close states).otherwise = none := hnone
        refine ⟨fun w hw => ?_, fun body hbody => ?_, fun _ => hnone'⟩
        · rcases List.mem_append.1 hw with hw | hw
          · exact hwhens w hw
          · rw [List.mem_singleton.1 hw]
            refine ⟨?_, d, hinside, hss⟩
            exact (congrArg _ (variableNames_of_toExpr hvalue)).trans (htest test hsome)
        · cases hnone'.symm.trans hbody

theorem Opened.test {part : OpenIf} (h : (ifElse part).Opened P c d ss)
    (helse : part.arms.inElse = false) :
    c.nesting.resolveAll part.test.variableNames = .ok () := by
  obtain ⟨_, _, _, htest, _⟩ := h
  exact htest helse

theorem Opened.arm {part : OpenCase} (h : (cases part).Opened P c d ss) {test : Operand}
    (htest : part.test = some test) : c.nesting.resolveAll test.variableNames = .ok () := by
  obtain ⟨_, _, _, _, harm, _⟩ := h
  exact harm test htest

theorem Opened.entered {part : OpenCase} (h : (cases part).Opened P c d ss)
    (htest : part.test.isSome = true) : part.entered = true := by
  obtain ⟨_, _, _, _, _, h⟩ := h
  by_contra hentered
  rw [if_neg hentered] at h
  obtain ⟨_, _, hnone, _⟩ := h
  rw [hnone] at htest
  cases htest

/-- From the open branch of a conditional to its next one, with or without a test. -/
theorem Opened.nextBranch (hP : UpheldViewed Q P) {part part' : OpenIf}
    (h : (ifElse part).Opened P c d ss) (helse : part.arms.inElse = false)
    (hclose : part.close ss states = .ok part') (before : List CursorState) {test : Operand}
    {inElse : Bool}
    (htest : inElse = false → c.nesting.resolveAll test.variableNames = .ok ()) :
    (ifElse { part' with arms := { part'.arms with inElse }, test }).Opened P c
      (d.left.branched before) [] := by
  obtain ⟨hbranches, _, hnone⟩ := h.closeBranch hclose
  have hleft : c.Still d.left := h.left
  exact ⟨h.1, hnone helse, hbranches, htest, (d.left.inside_branched before).still hleft.symm,
    hP.branched d.left before⟩

/-- Around the open arm of a case nothing but states has changed. -/
theorem Opened.aroundArm {part part' : OpenCase} (h : (cases part).Opened P c d ss)
    (hentered : part'.entered = part.entered) : c.Still (Builder.aroundArm part' d) := by
  obtain ⟨_, _, _, _, _, h⟩ := h
  unfold Builder.aroundArm
  rw [hentered]
  by_cases hopen : part.entered = true
  · rw [if_pos hopen] at h
    rw [if_pos hopen]
    exact h.1.left
  · rw [if_neg hopen] at h
    rw [if_neg hopen]
    exact h.1

/-- From the open arm of a case, or from its head, to its next arm. -/
theorem Opened.nextArm (hP : UpheldViewed Q P) {part part' : OpenCase}
    (h : (cases part).Opened P c d ss) (helse : part.arms.inElse = false)
    (hclose : part.close ss states = .ok part') (before : List CursorState)
    {test : Option Operand} {inElse : Bool}
    (htest : ∀ o, test = some o → c.nesting.resolveAll o.variableNames = .ok ()) :
    (cases { part' with arms := { part'.arms with inElse }, test, entered := true }).Opened P c
      ((Builder.aroundArm part' d).branched before) [] := by
  obtain ⟨hwhens, _, hnone⟩ := h.closeArm hclose
  have haround := h.aroundArm (OpenCase.close_keeps hclose).1
  have hoperand : part'.operand = part.operand := OpenCase.close_operand hclose
  obtain ⟨hc, _, hresolve, _⟩ := h
  rw [← hoperand] at hresolve
  refine ⟨hc, hnone helse, hresolve, hwhens, htest, ?_⟩
  rw [if_pos rfl]
  exact ⟨(Checker.inside_branched _ before).still haround.symm, hP.branched _ before⟩

/-! ## Closing -/

/-- What a construct becomes at its end has its place, with the view of its start if it is a block.
The block that a handler ends with has the view of its end. -/
theorem Opened.takes (hP : UpheldViewed Q P) {k : Construct} (h : k.Opened P c d ss)
    (hQ : k.kind = .handler → Q ss) (hs : k.finish d.nesting.view ss d' = (.ok s, c')) :
    ∃ kind, c.Takes P s kind ∧ c.Begins s := by
  cases k with
  | block label view =>
    obtain ⟨hc, hinside, hss, hbegins⟩ := h
    cases hs
    refine ⟨.block, ⟨rfl, hc, fun hk => (by cases hk), List.forall_mem_nil _,
      List.forall_mem_nil _, fun body hmem => ?_⟩, hbegins.begins⟩
    rw [List.mem_singleton.1 hmem]
    exact ⟨d, hinside, hss⟩
  | handler action conditions before =>
    obtain ⟨hc, hnames, t, ht, hnil, hinside, hss⟩ := h
    cases hs
    have hbody := hP.ended ht.kind hinside hnil hss (hQ rfl)
    refine Checker.Takes.withBegins ⟨rfl, hc, fun hk => (by cases hk), List.forall_mem_nil _,
      hnames, fun body hmem => ?_⟩ (by decide)
    rw [List.mem_singleton.1 hmem]
    exact ⟨t, ht, hbody⟩
  | ifElse part =>
    simp only [Construct.finish, states_bind, bind_ok, made_eq, mergeStates_bind] at hs
    obtain ⟨part', _, ⟨hclose, rfl⟩, hs, rfl⟩ := hs
    obtain ⟨_, _, rfl⟩ := Statement.makeIf_eq_ok.1 hs
    obtain ⟨hbranches, helse, _⟩ := h.closeBranch hclose
    exact (Checker.takes_ifElse h.1 hbranches helse).withBegins (by decide)
  | cases part =>
    simp only [Construct.finish, states_bind, bind_ok, made_eq, mergeStates_bind] at hs
    obtain ⟨part', _, ⟨hclose, rfl⟩, hs, rfl⟩ := hs
    obtain ⟨_, _, value, hvalue, _, rfl⟩ := Statement.makeCase_eq_ok.1 hs
    obtain ⟨hwhens, helse, _⟩ := h.closeArm hclose
    obtain ⟨hc, _, hoperand, _⟩ := h
    rw [← OpenCase.close_operand hclose, ← variableNames_of_ifAny hvalue] at hoperand
    exact (Checker.takes_cases hc hoperand hwhens helse).withBegins (by decide)
  | loop label =>
    obtain ⟨hc, hinside, hss⟩ := h
    obtain ⟨hmade, rfl⟩ := made_eq.1 hs
    obtain ⟨_, rfl⟩ := Statement.makeLoop_eq_ok.1 hmade
    refine Checker.Takes.withBegins ⟨rfl, hc, fun _ => rfl, List.forall_mem_nil _,
      List.forall_mem_nil _, fun body hmem => ?_⟩ (by decide)
    rw [List.mem_singleton.1 hmem]
    exact ⟨d, hinside, hss⟩
  | whileLoop label test =>
    obtain ⟨hc, htest, hinside, hss⟩ := h
    obtain ⟨hmade, rfl⟩ := made_eq.1 hs
    obtain ⟨condition, hcondition, _, rfl⟩ := Statement.makeWhile_eq_ok.1 hmade
    refine Checker.Takes.withBegins ⟨rfl, hc, fun _ => rfl, fun o ho => ?_, List.forall_mem_nil _,
      fun body hmem => ?_⟩ (by decide)
    · rw [List.mem_singleton.1 ho, variableNames_of_condition? hcondition]
      exact htest
    · rw [List.mem_singleton.1 hmem]
      exact ⟨d, hinside, hss⟩
  | repeatLoop label => cases hs

theorem Opened.takesRepeat {label : String} {test : Operand}
    (h : (repeatLoop label).Opened P c d ss)
    (htest : d.nesting.resolveAll test.variableNames = .ok ())
    (hs : Statement.makeRepeat (some label) test ss = .ok s) : c.Takes P s .loop := by
  obtain ⟨hc, hinside, hss⟩ := h
  obtain ⟨condition, hcondition, _, rfl⟩ := Statement.makeRepeat_eq_ok.1 hs
  refine ⟨rfl, hc, fun _ => rfl, fun o ho => ?_, nofun, fun body hmem => ?_⟩
  · rw [List.mem_singleton.1 ho, variableNames_of_condition? hcondition]
    exact (hinside.resolveAll nofun _).symm.trans htest
  · rw [List.mem_singleton.1 hmem]
    exact ⟨d, hinside, hss⟩

end Construct

end StoredSql
