import StoredSql.Proofs.OpenEvents
import StoredSql.Proofs.CallEnds

/-!
# Calls for branches and ends that fail

A call that goes on to the next branch of a construct or closes it first looks whether it may do so,
then closes what is open, then checks what is new. Where it fails in the first step, the open
constructs and the cursors are as they were (`Builder.standing`), and the call can be made again as
if nothing had happened; so it is with the first arm of a case, before which nothing is open. Where
it fails in the last step (`Builder.Commits`), what it has closed is not open again. So calls that
fail leave things as they were exactly where they have closed nothing (`failed_turn_standing`).
-/

namespace StoredSql

open Check Stepwise

/-! ## States that are set twice -/

theorem Scope.withStates_withStates (s : Scope) (states : List CursorState) :
    (s.withStates states).withStates states = s.withStates states := by
  have hcursors : ∀ (cs : List Cursor) (ts : List CursorState),
      setStates (setStates cs ts) ts = setStates cs ts := by
    intro cs
    induction cs with
    | nil => exact fun _ => rfl
    | cons c cs ih =>
      intro ts
      cases ts with
      | nil => rfl
      | cons t ts => exact congrArg (_ :: ·) (ih ts)
  exact congrArg (fun cs => { s with cursors := cs }) (hcursors s.cursors states)

namespace Nesting

theorem setStates_setStates (ss : List Scope) (states : List CursorState) :
    setStates (setStates ss states) states = setStates ss states := by
  induction ss generalizing states with
  | nil => rfl
  | cons s ss ih =>
    have hcount : (s.withStates states).cursors.length = s.cursors.length :=
      Scope.length_setStates s.cursors states
    rw [setStates, setStates, Scope.withStates_withStates, hcount, ih]

/-- Setting states once more changes nothing. -/
theorem withStates_withStates (n : Nesting) (states : List CursorState) :
    (n.withStates states).withStates states = n.withStates states := by
  have hscopes : setStates (n.withStates states).scopes states = setStates n.scopes states := by
    rw [scopes_withStates, setStates_setStates]
  exact congrArg (n.withStates states).ofScopes hscopes

end Nesting

/-- A branch that is started again. -/
theorem Checker.branched_again (before : List CursorState) (c : Checker) :
    (c.branched before).left.branched before = c.branched before := by
  have hleft : (c.branched before).left = c.withStates before := rfl
  have hagain : (c.withStates before).withStates before = c.withStates before :=
    congrArg (fun n => { c with nesting := n }) (c.nesting.withStates_withStates before)
  unfold branched at hleft ⊢
  rw [hleft, hagain]

/-! ## What is seen of a builder -/

/-- An open construct, but for whether a case has a scope before its first arm. -/
def Construct.shown : Construct → Construct
  | cases part => cases { part with entered := false }
  | k => k

/-- An open frame with what is shown of its construct. -/
def Frame.shown (f : Frame) : Frame := { f with construct := f.construct.shown }

/-- The open constructs with the statements in them, and the states of the cursors. -/
structure Standing where
  frames : List Frame
  cursors : List (String × CursorState)

namespace Builder

variable {b b' : Builder} {call : Call}

/-- Where a builder stands. -/
def standing (b : Builder) : Standing := ⟨b.frames.map Frame.shown, b.checker.nesting.cursorStates⟩

theorem standing_branching {c : Checker} {k : Construct} {ss : List Statement} :
    (b.branching c k ss).standing = b.standing ↔ k.shown = b.inner.construct.shown ∧
      ss = b.inner.statements ∧ c.nesting.cursorStates = b.checker.nesting.cursorStates := by
  simp [standing, branching, frames, Frame.shown, and_assoc]

theorem standing_ne_of_length (h : b'.frames.length ≠ b.frames.length) :
    b'.standing ≠ b.standing := by
  intro hsame
  have hlength := congrArg (·.frames.length) hsame
  simp only [standing, List.length_map] at hlength
  exact h hlength

/-! ## What calls have closed where they may fail -/

/-- Whether there is a construct of the kind to be closed. -/
structure Closes (b : Builder) (kind : ConstructKind) : Prop where
  live : b.consumed = false
  outer : b.outer ≠ []
  kind : b.inner.construct.kind = kind

/-- The builder where the next arm of a case is open and its test is still to be looked at; what has
come to the arm before is lost. -/
def atArm (b : Builder) (part : OpenCase) : Builder :=
  b.branching ((aroundArm part b.checker).branched part.arms.before)
    (.cases { part with entered := true }) []

/-- Whether there is a case with no open arm and nothing that would be lost where the next one is
opened. -/
structure Armless (b : Builder) (part : OpenCase) : Prop where
  construct : b.inner.construct = .cases part
  inElse : part.arms.inElse = false
  test : part.test = none
  statements : b.inner.statements = []
  cursors : (b.atArm part).checker.nesting.cursorStates = b.checker.nesting.cursorStates

end Builder

/-- The kind of construct that a call without a condition closes, if it closes one of this kind
only. -/
def Call.closes? : Call → Option ConstructKind
  | endHandler => some .handler
  | endBlock => some .block
  | endIf => some .ifElse
  | endCase => some .cases
  | endLoop => some .loop
  | endWhile => some .whileLoop
  | _ => none

/-- Whether a call goes on to the next branch of a construct or closes one. -/
def Call.isTurn : Call → Bool
  | elseIf _ | openWhen _ | otherwise | endRepeat _ | close => true
  | c => c.closes?.isSome

/-- Whether a call is made another time, perhaps with another condition for its branch. -/
def Call.Retries : Call → Call → Prop
  | elseIf _, elseIf _ => True
  | openWhen _, openWhen _ => True
  | c, again => again = c

namespace Builder

variable {b : Builder} {call : Call}

/-- Whether a call closes something before the last of its checks: the open branch, before the test
of the next one is looked at, or a construct, before a statement is made of it. -/
inductive Commits (b : Builder) : Call → Prop
  | elseIf {test : Operand} {part part' : OpenIf} (live : b.consumed = false)
      (construct : b.inner.construct = .ifElse part) (inElse : part.arms.inElse = false)
      (closed : part.close b.inner.statements b.checker.left.nesting.states = .ok part') :
      Commits b (.elseIf test)
  | openWhen {test : Operand} {part part' : OpenCase} (live : b.consumed = false)
      (construct : b.inner.construct = .cases part) (inElse : part.arms.inElse = false)
      (searched : part.operand.isNull = true → test.condition?.isSome = true)
      (closed : part.close b.inner.statements b.checker.left.nesting.states = .ok part')
      (entered : part.entered = true) (armless : ¬ b.Armless part) : Commits b (.openWhen test)
  | endRepeat {test : Operand} (closes : b.Closes .repeatLoop)
      (resolved : b.checker.nesting.resolveAll test.variableNames = .ok ()) :
      Commits b (.endRepeat test)
  | close (closes : b.Closes b.inner.construct.kind)
      (unconditional : b.inner.construct.kind ≠ .repeatLoop) : Commits b .close
  | closes {call : Call} {kind : ConstructKind} (call_closes : call.closes? = some kind)
      (closes : b.Closes kind) : Commits b call

theorem Commits.branch {test : Operand} (h : b.Commits (.elseIf test)) :
    ∃ part part', b.inner.construct = .ifElse part ∧ part.arms.inElse = false ∧
      part.close b.inner.statements b.checker.left.nesting.states = .ok part' := by
  rcases h with ⟨_, construct, inElse, closed⟩ | _ | _ | _ | ⟨⟨⟩, _⟩
  exact ⟨_, _, construct, inElse, closed⟩

theorem Commits.arm {test : Operand} (h : b.Commits (.openWhen test)) :
    ∃ part part', b.inner.construct = .cases part ∧ part.arms.inElse = false ∧
      (part.operand.isNull = true → test.condition?.isSome = true) ∧
      part.close b.inner.statements b.checker.left.nesting.states = .ok part' ∧
      ¬ b.Armless part := by
  rcases h with _ | ⟨_, construct, inElse, searched, closed, _, armless⟩ | _ | _ | ⟨⟨⟩, _⟩
  exact ⟨_, _, construct, inElse, searched, closed, armless⟩

theorem commits_endRepeat {test : Operand} : b.Commits (.endRepeat test) ↔
    b.Closes .repeatLoop ∧ b.checker.nesting.resolveAll test.variableNames = .ok () := by
  constructor
  · rintro (_ | _ | ⟨closes, resolved⟩ | _ | ⟨⟨⟩, _⟩)
    exact ⟨closes, resolved⟩
  · rintro ⟨closes, resolved⟩
    exact .endRepeat closes resolved

theorem commits_close : b.Commits .close ↔
    b.inner.construct.kind ≠ .repeatLoop ∧ b.Closes b.inner.construct.kind := by
  constructor
  · rintro (_ | _ | _ | ⟨closes, unconditional⟩ | ⟨⟨⟩, _⟩)
    exact ⟨unconditional, closes⟩
  · rintro ⟨unconditional, closes⟩
    exact .close closes unconditional

theorem commits_closes {kind : ConstructKind} (hcall : call.closes? = some kind) :
    b.Commits call ↔ b.Closes kind := by
  constructor
  · rintro (_ | _ | _ | _ | ⟨hcall', closes⟩)
    · cases hcall
    · cases hcall
    · cases hcall
    · cases hcall
    · cases hcall.symm.trans hcall'
      exact closes
  · exact .closes hcall

theorem not_commits_otherwise : ¬ b.Commits .otherwise := by
  rintro (_ | _ | _ | _ | ⟨⟨⟩, _⟩)

end Builder

/-! ## Cases before their first arm -/

/-- A case as it is opened. -/
def OpenCase.opened (operand : Operand) (before : List CursorState) : OpenCase where
  arms := { before }
  operand

namespace Construct

/-- Whether a check that succeeds opens what statements can come to, or a case. -/
def OpensReady (construct : Check Construct) : Prop :=
  ∀ ⦃c c' : Checker⦄ ⦃k : Construct⦄, construct c = (.ok k, c') → k.takesStatements = true ∨
    ∃ operand, k = .cases (.opened operand c'.nesting.states)

theorem OpensWith.ready {construct : Check Construct} {first : Event} {es : List Event}
    (h : OpensWith (first :: es) construct) (hfirst : ∀ operand, first ≠ .cases operand) :
    OpensReady construct := by
  intro c c' k hk
  obtain ⟨_, hevents⟩ := h hk
  cases k with
  | cases part => exact absurd (List.cons.inj hevents).1.symm (hfirst _)
  | _ => exact .inl rfl

theorem loop_opensReady (label : Operand) : OpensReady (ofLoop label .loop) := by
  have hevents : ∀ l, (loop l).Sound [] ∧ (loop l).events = [.loop] := fun _ => ⟨trivial, rfl⟩
  exact (loop_opensWith hevents label).ready nofun

theorem repeat_opensReady (label : Operand) : OpensReady (ofLoop label .repeatLoop) := by
  have hevents : ∀ l, (repeatLoop l).Sound [] ∧ (repeatLoop l).events = [.repeatLoop] :=
    fun _ => ⟨trivial, rfl⟩
  exact (loop_opensWith hevents label).ready nofun

theorem case_opensReady (operand : Operand) : OpensReady (ofCase operand) := by
  intro c c' k h
  obtain ⟨_, rfl, rfl⟩ := ofCase_eq_ok.1 h
  exact .inr ⟨operand, rfl⟩

end Construct

namespace Builder

variable {b b' : Builder} {call again : Call} {e : Error} {α : Type}

/-- Whether statements can come to all open constructs, unless the innermost one is a case to which
nothing has come. -/
structure Waiting (b : Builder) : Prop where
  outer : ∀ f ∈ b.outer, f.construct.takesStatements = true
  inner : b.takesStatements = true ∨ ∃ operand,
    b.inner.construct = .cases (.opened operand b.checker.nesting.states) ∧ b.inner.statements = []

/-- Whether an action keeps it so, whether it succeeds or fails. -/
abbrev Waits (b : Builder) (act : Action α) : Prop := Ends Waiting Waiting b act

theorem Waiting.closed {f : Frame} {fs : List Frame} {c : Checker} (hb : b.Waiting)
    (houter : b.outer = f :: fs) (ss : List Statement) : Builder.Waiting
      { b with inner := { f with statements := ss }, outer := fs, checker := c } := by
  have hmem : ∀ g ∈ f :: fs, g.construct.takesStatements = true := houter ▸ hb.outer
  obtain ⟨hf, hfs⟩ := List.forall_mem_cons.1 hmem
  exact ⟨hfs, .inl hf⟩

theorem add_waits (s : Statement) (hb : b.Waiting) : Waits b (add s) :=
  ends_add hb ⟨hb.outer, hb.inner⟩ (fun _ _ ht _ => ⟨hb.outer, .inl ht⟩)
    fun _ _ ht _ => ⟨hb.outer, .inl ht⟩

theorem addMade_waits (r : Except Error Statement) (hb : b.Waiting) : Waits b (addMade r) :=
  ends_made hb fun s _ => add_waits s hb

theorem statements_waits (ss : List Statement) (hb : b.Waiting) : Waits b (ss.forM add) := by
  induction ss generalizing b with
  | nil => exact ends_ok rfl hb
  | cons s ss ih =>
    have hadd := add_waits s hb
    exact hadd.bind fun _ b' h => ih (hadd.ok h)

theorem opens_waits {construct : Check Construct} (h : Construct.OpensReady construct)
    (hb : b.Waiting) : Waits b (opens construct) := by
  refine ends_opens hb (fun _ _ ht _ => ⟨hb.outer, .inl ht⟩) fun k c ht hk => ⟨?_, ?_⟩
  · exact List.forall_mem_cons.2 ⟨ht, hb.outer⟩
  · rcases h hk with hk | ⟨operand, rfl⟩
    · exact .inl hk
    · exact .inr ⟨operand, rfl, rfl⟩

theorem openHandler_waits (action : Outline) (conditions : List ConditionValue)
    (hb : b.Waiting) : Waits b (openHandler action conditions) :=
  ends_openHandler hb fun a _ =>
    opens_waits ((Construct.handler_opensWith a conditions).ready nofun) hb

theorem closes_waits (kind : ConstructKind) (hb : b.Waiting) : Waits b (closes kind) :=
  ends_closes hb (fun _ _ _ _ houter _ _ => hb.closed houter _)
    fun _ _ _ _ houter _ _ => hb.closed houter _

theorem endRepeat_waits (test : Operand) (hb : b.Waiting) : Waits b (endRepeat test) :=
  ends_endRepeat hb (fun _ _ _ _ houter _ _ => hb.closed houter _)
    fun _ _ _ _ houter _ _ _ => hb.closed houter _

theorem elseIf_waits (test : Operand) (hb : b.Waiting) : Waits b (elseIf test) :=
  ends_elseIf hb fun _ _ _ _ _ _ _ => ⟨⟨hb.outer, .inl rfl⟩, fun _ => ⟨hb.outer, .inl rfl⟩⟩

theorem otherwise_waits (hb : b.Waiting) : Waits b otherwise := by
  refine ends_otherwise hb (fun _ _ _ _ _ => ⟨hb.outer, .inl rfl⟩) ?_
  intro part part' hk _ htest hclose
  have hentered : part'.entered = part.entered := (OpenCase.close_keeps hclose).1
  refine ⟨hb.outer, .inl (hentered.trans ?_)⟩
  rcases hb.inner with ht | ⟨operand, hopened, _⟩
  · unfold takesStatements Construct.takesStatements at ht
    rwa [hk] at ht
  · cases Construct.cases.inj (hk.symm.trans hopened)
    cases htest

theorem openWhen_waits (test : Operand) (hb : b.Waiting) : Waits b (openWhen test) :=
  ends_openWhen hb fun _ _ _ _ _ _ _ => ⟨⟨hb.outer, .inl rfl⟩, fun _ => ⟨hb.outer, .inl rfl⟩⟩

theorem exitBracket_waits (failed : Bool) (hb : b.Waiting) : Waits b (exitBracket failed) := by
  have hb' : ∀ withs, ({ b with withs } : Builder).Waiting := fun _ => ⟨hb.outer, hb.inner⟩
  exact ends_exitBracket (fun _ => hb) (fun _ withs _ => hb' withs)
    (fun _ withs _ _ => hb' withs) fun _ withs _ _ =>
      ends_closeInnermost (hb' withs) fun kind => closes_waits kind (hb' withs)

theorem perform_waits (hb : b.Waiting) : ∀ call : Call, Waits b (act call)
  | .openHandler action conditions => openHandler_waits action conditions hb
  | .endHandler => closes_waits .handler hb
  | .openBlock label => opens_waits ((Construct.block_opensWith label).ready nofun) hb
  | .endBlock => closes_waits .block hb
  | .close => ends_close hb fun kind => closes_waits kind hb
  | .openIf test => opens_waits ((Construct.if_opensWith test).ready nofun) hb
  | .elseIf test => elseIf_waits test hb
  | .otherwise => otherwise_waits hb
  | .endIf => closes_waits .ifElse hb
  | .openCase operand => opens_waits (Construct.case_opensReady operand) hb
  | .openWhen test => openWhen_waits test hb
  | .endCase => closes_waits .cases hb
  | .openLoop label => opens_waits (Construct.loop_opensReady label) hb
  | .endLoop => closes_waits .loop hb
  | .openWhile test label => opens_waits ((Construct.while_opensWith test label).ready nofun) hb
  | .endWhile => closes_waits .whileLoop hb
  | .openRepeat label => opens_waits (Construct.repeat_opensReady label) hb
  | .endRepeat test => endRepeat_waits test hb
  | .statements ss => statements_waits ss hb
  | .enterBracket => ends_ok rfl ⟨hb.outer, hb.inner⟩
  | .exitBracket failed => exitBracket_waits failed hb
  | .declare _ _ _ | .declareCondition _ _ | .declareCursor _ _ | .declareHandler _ _ _
  | .fetch _ _ | .select _ | .insert _ | .set _ _ _ | .call _ _ | .signal _ _ _
  | .signalState _ _ _ => addMade_waits _ hb
  | .iterate _ | .leave _ | .openCursor _ | .closeCursor _ | .raw _ | .empty => add_waits _ hb

/-- Whatever calls succeed or fail. -/
theorem run_waits (calls : List Call) (hb : b.Waiting) : (b.run calls).Waiting := by
  induction calls generalizing b with
  | nil => exact hb
  | cons call calls ih => exact ih (perform_waits hb call).after

theorem start_waits {head : ProgramHead} {label : Operand} {stem : String}
    (hb : Builder.start head label stem = .ok b) : b.Waiting := by
  obtain ⟨_, _, _, _, _, _, rfl⟩ := Builder.start_eq_ok.1 hb
  exact ⟨List.forall_mem_nil _, .inl rfl⟩

/-! ## Failures before anything is closed, and after it -/

/-- What a call that fails before it closes anything leaves: the builder as it was, or one where the
first arm of a case is open. -/
def Untouched (b : Builder) (call : Call) (b' : Builder) : Prop :=
  b' = b ∨ ∃ test part, call = .openWhen test ∧ b.Armless part ∧ b' = b.atArm part

/-- A failure is one before anything is closed, or it shows. -/
def FailsAt (b : Builder) (call : Call) (b' : Builder) : Prop :=
  (¬ b.Commits call ∧ b.Untouched call b') ∨ (b.Commits call ∧ b'.standing ≠ b.standing)

/-- Whether an action fails as the call may. -/
abbrev Fails {α : Type} (b : Builder) (call : Call) (act : Action α) : Prop :=
  Ends (fun _ => True) (b.FailsAt call) b act

theorem FailsAt.unchanged (h : ¬ b.Commits call) : b.FailsAt call b := .inl ⟨h, .inl rfl⟩

theorem fails_live {act : Unit → Action Unit} (h : b.consumed = false → Fails b call (act ())) :
    Fails b call (live >>= act) := by
  cases hl : b.consumed with
  | false => exact ends_of_ok (live_apply hl) (h hl)
  | true =>
    have hlive : b.consumed ≠ false := by simp [hl]
    refine ends_of_error (live_error hl) (.unchanged fun hc => ?_)
    cases hc with
    | elseIf live => exact hlive live
    | openWhen live => exact hlive live
    | endRepeat closes => exact hlive closes.live
    | close closes => exact hlive closes.live
    | closes _ closes => exact hlive closes.live

/-! ### Ends -/

/-- The innermost construct is taken away if it is to be closed; else nothing is. -/
theorem pop_closes (kind : ConstructKind) (b : Builder) :
    (¬ b.Closes kind ∧ ∃ e, pop kind b = (.error e, b)) ∨
      (b.Closes kind ∧ ∃ f fs, b.outer = f :: fs ∧ pop kind b = (.ok b.inner, b.outside f fs)) := by
  by_cases hcloses : b.Closes kind
  · obtain ⟨f, fs, houter⟩ := List.exists_cons_of_ne_nil hcloses.outer
    exact .inr ⟨hcloses, f, fs, houter, pop_apply hcloses.live houter hcloses.kind⟩
  · rcases pop_cases kind b with hpop | ⟨f, fs, houter, hk, hpop⟩
    · exact .inl ⟨hcloses, hpop⟩
    · cases hl : b.consumed with
      | false => exact absurd ⟨hl, by simp [houter], hk⟩ hcloses
      | true =>
        unfold pop at hpop
        rw [bind_of_error (live_error hl)] at hpop
        cases (pair_eq.1 hpop).1

/-- What is taken away is lost if it does not become a statement. -/
theorem fails_pop {kind : ConstructKind} {act : Frame → Action Statement}
    (hcommits : b.Commits call ↔ b.Closes kind)
    (hact : ∀ f fs r t, act b.inner (b.outside f fs) = (r, t) → t.frames = f :: fs) :
    Fails b call (pop kind >>= fun f => act f >>= append) := by
  rcases pop_closes kind b with ⟨hcloses, e, hpop⟩ | ⟨hcloses, f, fs, houter, hpop⟩
  · exact ends_of_error hpop (.unchanged fun hc => hcloses (hcommits.1 hc))
  · refine ends_of_ok hpop ⟨fun _ => trivial, fun {e b'} h => .inr ⟨hcommits.2 hcloses, ?_⟩⟩
    rcases bind_error.1 h with h | ⟨s, t, _, h⟩
    · refine standing_ne_of_length ?_
      rw [hact f fs _ _ h, frames, houter]
      simp
    · cases h

theorem closes_fails {kind : ConstructKind} (hcommits : b.Commits call ↔ b.Closes kind) :
    Fails b call (closes kind) := by
  unfold closes
  refine ends_of_ok (get_apply b) (fails_pop hcommits fun f fs r t h => ?_)
  exact congrArg (frames ·.2) h.symm

theorem endRepeat_fails (test : Operand) : Fails b (.endRepeat test) (endRepeat test) := by
  unfold endRepeat
  refine fails_live fun hl => ends_of_ok (get_apply b) ?_
  cases hk : b.inner.construct with
  | repeatLoop label =>
    rcases htest : b.checker.nesting.resolveAll test.variableNames with e | u
    · refine ends_of_error (checking_of (resolveAll_eq.2 ⟨htest, rfl⟩)) (.unchanged fun hc => ?_)
      cases htest.symm.trans (commits_endRepeat.1 hc).2
    · refine ends_of_ok (checking_of (resolveAll_eq.2 ⟨htest, rfl⟩)) (fails_pop ?_ ?_)
      · rw [commits_endRepeat, and_iff_left htest]
      · intro f fs r t h
        exact congrArg (frames ·.2) h.symm
  | _ =>
    refine ends_throw (.unchanged fun hc => ?_) _
    have hkind := (commits_endRepeat.1 hc).1.kind
    rw [hk] at hkind
    cases hkind

theorem close_fails : Fails b .close close := by
  unfold close closeInnermost
  refine fails_live fun hl => ends_of_ok (get_apply b) ?_
  by_cases houter : b.outer.isEmpty = true
  · rw [if_pos houter]
    refine ends_throw (.unchanged fun hc => ?_) _
    exact (commits_close.1 hc).2.outer (List.isEmpty_iff.1 houter)
  · rw [if_neg houter]
    cases hk : b.inner.construct.kind with
    | repeatLoop => exact ends_throw (.unchanged fun hc => (commits_close.1 hc).1 hk) _
    | _ =>
      refine closes_fails ?_
      rw [commits_close, hk]
      exact and_iff_right nofun

/-! ### Branches -/

/-- A closed branch is one more than there have been. -/
theorem standing_ne_of_branch {part part' : OpenIf} {c : Checker} {states : List CursorState}
    (hk : b.inner.construct = .ifElse part) (helse : part.arms.inElse = false)
    (hclose : part.close b.inner.statements states = .ok part') :
    (b.branching c (.ifElse part') []).standing ≠ b.standing := by
  intro hsame
  obtain ⟨hshown, _⟩ := standing_branching.1 hsame
  obtain ⟨test, _, _, rfl⟩ := (OpenIf.close_eq_ok helse).1 hclose
  rw [hk] at hshown
  have hbranches := congrArg OpenIf.branches (Construct.ifElse.inj hshown)
  simp at hbranches

/-- Where a case has an open arm, its statements are closed with it; else what is lost is all that
has come to it. -/
theorem standing_ne_of_arm {part part' : OpenCase} {states : List CursorState}
    (hk : b.inner.construct = .cases part) (helse : part.arms.inElse = false)
    (hclose : part.close b.inner.statements states = .ok part') (harm : ¬ b.Armless part) :
    (b.atArm part').standing ≠ b.standing := by
  intro hsame
  obtain ⟨hshown, hss, hcursors⟩ := standing_branching.1 hsame
  cases htest : part.test with
  | none =>
    rw [OpenCase.close_none helse htest] at hclose
    cases hclose
    exact harm ⟨hk, helse, htest, hss.symm, hcursors⟩
  | some test =>
    obtain ⟨value, _, _, rfl⟩ := (OpenCase.close_eq_ok helse htest).1 hclose
    rw [hk] at hshown
    have hwhens := congrArg OpenCase.whens (Construct.cases.inj hshown)
    simp at hwhens

theorem elseIf_fails (test : Operand) : Fails b (.elseIf test) (elseIf test) := by
  cases hl : b.consumed with
  | true =>
    unfold elseIf
    exact fails_live fun hl' => by cases hl.symm.trans hl'
  | false =>
    by_cases hcommits : b.Commits (.elseIf test)
    · obtain ⟨part, part', hk, helse, hclose⟩ := hcommits.branch
      refine .of_eq (elseIf_apply hl hk helse hclose) (ends_test ?_ fun _ => trivial)
      exact .inr ⟨hcommits, standing_ne_of_branch hk helse hclose⟩
    · exact ends_elseIf (.unchanged hcommits) fun part part' c hk helse hclose _ =>
        absurd (.elseIf hl hk helse hclose) hcommits

theorem otherwise_fails : Fails b .otherwise otherwise :=
  ends_otherwise (.unchanged not_commits_otherwise) (fun _ _ _ _ _ => trivial)
    fun _ _ _ _ _ _ => trivial

theorem Waiting.armless {part : OpenCase} (hb : b.Waiting)
    (hk : b.inner.construct = .cases part) (hentered : part.entered = false) :
    b.Armless part := by
  rcases hb.inner with ht | ⟨operand, hopened, hss⟩
  · unfold takesStatements Construct.takesStatements at ht
    rw [hk] at ht
    cases hentered.symm.trans ht
  · cases Construct.cases.inj (hk.symm.trans hopened)
    refine ⟨hk, rfl, rfl, hss, ?_⟩
    have hstates : b.checker.withStates b.checker.nesting.states = b.checker :=
      b.checker.withStates_states
    show (b.checker.branched b.checker.nesting.states).nesting.cursorStates = _
    unfold Checker.branched
    rw [hstates]
    rfl

/-- The test of an arm of a case without an operand must be a condition. -/
theorem openWhen_unsearched {test : Operand} {part : OpenCase} (hl : b.consumed = false)
    (hk : b.inner.construct = .cases part) (helse : part.arms.inElse = false)
    (hsearched : ¬ (part.operand.isNull = true → test.condition?.isSome = true)) :
    openWhen test b = (.error (.validity .whenNeedsCondition), b) := by
  have hneeds : part.operand.isNull = true ∧ test.condition?.isNone = true := by
    simpa using hsearched
  unfold openWhen
  rw [bind_of_ok (live_apply hl), bind_of_ok (get_apply b)]
  simp only [hk, helse, hneeds, Bool.false_eq_true, if_false, and_self, if_true]
  rfl

theorem openWhen_fails (hb : b.Waiting) (test : Operand) :
    Fails b (.openWhen test) (openWhen test) := by
  cases hl : b.consumed with
  | true =>
    unfold openWhen
    exact fails_live fun hl' => by cases hl.symm.trans hl'
  | false =>
    by_cases hcommits : b.Commits (.openWhen test)
    · obtain ⟨part, part', hk, helse, hsearched, hclose, harm⟩ := hcommits.arm
      refine .of_eq (openWhen_apply hl hk helse hsearched hclose) (ends_test ?_ fun _ => trivial)
      exact .inr ⟨hcommits, standing_ne_of_arm hk helse hclose harm⟩
    · by_cases hsearched : ∀ part, b.inner.construct = .cases part → part.arms.inElse = false →
          part.operand.isNull = true → test.condition?.isSome = true
      · refine ends_openWhen (.unchanged hcommits) fun part part' c hk helse hclose hc =>
          ⟨.inl ⟨hcommits, .inr ?_⟩, fun _ => trivial⟩
        -- A case has no scope only before its first arm, and nothing can have come to it there.
        have harmless : b.Armless part := by
          cases hentered : part.entered with
          | false => exact hb.armless hk hentered
          | true =>
            by_contra harm
            exact hcommits (.openWhen hl hk helse (hsearched part hk helse) hclose hentered harm)
        rw [OpenCase.close_none helse harmless.test] at hclose
        cases hclose
        exact ⟨test, part, rfl, harmless, hc ▸ rfl⟩
      · push Not at hsearched
        obtain ⟨part, hk, helse, hnull, hnone⟩ := hsearched
        have hfails := openWhen_unsearched hl hk helse fun h => hnone (h hnull)
        exact ends_error hfails (.unchanged hcommits)

/-! ## Calls that are made again -/

theorem Untouched.standing (h : b.Untouched call b') : b'.standing = b.standing := by
  rcases h with rfl | ⟨test, part, _, harmless, rfl⟩
  · rfl
  · refine standing_branching.2 ⟨?_, harmless.statements.symm, harmless.cursors⟩
    rw [harmless.construct]
    rfl

/-- An arm that is started once more is the arm that has been started. -/
theorem openWhen_again {part : OpenCase} (h : b.Armless part) (test : Operand) :
    openWhen test (b.atArm part) = openWhen test b ∨
      ∃ e, openWhen test (b.atArm part) = (.error e, b.atArm part) ∧
        openWhen test b = (.error e, b) := by
  have hk : (b.atArm part).inner.construct = .cases { part with entered := true } := rfl
  cases hl : b.consumed with
  | true =>
    have hl' : (b.atArm part).consumed = true := hl
    refine .inr ⟨.structural .consumed, ?_, ?_⟩
    · exact bind_of_error (live_error hl')
    · exact bind_of_error (live_error hl)
  | false =>
    have hl' : (b.atArm part).consumed = false := hl
    by_cases hsearched : part.operand.isNull = true → test.condition?.isSome = true
    · have hclose : ∀ ss states, part.close ss states = .ok part :=
        fun _ _ => OpenCase.close_none h.inElse h.test
      have hclose' : ∀ ss states, OpenCase.close { part with entered := true } ss states =
          .ok { part with entered := true } := fun _ _ => OpenCase.close_none h.inElse h.test
      have hagain : (b.atArm part).checker.left.branched part.arms.before =
          (b.atArm part).checker := Checker.branched_again _ _
      have harm : (b.atArm part).branching
          ((b.atArm part).checker.left.branched part.arms.before)
          (.cases { part with entered := true }) [] = b.atArm part :=
        congrArg (fun c => { b.atArm part with checker := c }) hagain
      left
      rw [openWhen_apply hl h.construct h.inElse hsearched (hclose _ _),
        openWhen_apply hl' hk h.inElse hsearched (hclose' _ _)]
      exact congrArg _ harm
    · exact .inr ⟨_, openWhen_unsearched hl' hk h.inElse hsearched,
        openWhen_unsearched hl h.construct h.inElse hsearched⟩

/-- A call that is made again after a failure that has closed nothing answers as if it had not been
made before, and where it succeeds, it does the same. -/
theorem Untouched.retry (h : b.Untouched call b') (hagain : call.Retries again) :
    (b'.perform again).1 = (b.perform again).1 ∧
      ((b.perform again).1 = .ok () → b'.perform again = b.perform again) := by
  rcases h with rfl | ⟨test, part, rfl, harmless, rfl⟩
  · exact ⟨rfl, fun _ => rfl⟩
  · cases again with
    | openWhen test' =>
      rcases openWhen_again harmless test' with hsame | ⟨e, harm, hfirst⟩
      · exact ⟨congrArg (·.1) hsame, fun _ => hsame⟩
      · refine ⟨(congrArg (·.1) harm).trans (congrArg (·.1) hfirst).symm, fun hok => ?_⟩
        cases (congrArg (·.1) hfirst).symm.trans hok
    | _ => cases hagain

theorem turn_fails (hb : b.Waiting) (hcall : call.isTurn = true) : Fails b call (act call) := by
  cases call with
  | elseIf test => exact elseIf_fails test
  | openWhen test => exact openWhen_fails hb test
  | otherwise => exact otherwise_fails
  | endRepeat test => exact endRepeat_fails test
  | close => exact close_fails
  | endHandler => exact closes_fails (commits_closes rfl)
  | endBlock => exact closes_fails (commits_closes rfl)
  | endIf => exact closes_fails (commits_closes rfl)
  | endCase => exact closes_fails (commits_closes rfl)
  | endLoop => exact closes_fails (commits_closes rfl)
  | endWhile => exact closes_fails (commits_closes rfl)
  | _ => cases hcall

end Builder

/-! ## Programs -/

/-- **A call for a branch or an end that fails leaves the open constructs and the cursors as they
were exactly where it has closed nothing**, whatever calls have come before it, and then it can be
made again, with another condition or the same one, as if it had not been made. -/
theorem failed_turn_standing {head : ProgramHead} {label : Operand} {stem : String} {b b' : Builder}
    {calls : List Call} {call : Call} {e : Error}
    (hb : Builder.start head label stem = .ok b) (hcall : call.isTurn = true)
    (h : (b.run calls).perform call = (.error e, b')) :
    (b'.standing = (b.run calls).standing ↔ ¬ (b.run calls).Commits call) ∧
      (¬ (b.run calls).Commits call → ∀ again, call.Retries again →
        (b'.perform again).1 = ((b.run calls).perform again).1 ∧
          (((b.run calls).perform again).1 = .ok () →
            b'.perform again = (b.run calls).perform again)) := by
  have hwaiting := Builder.run_waits calls (Builder.start_waits hb)
  rcases (Builder.turn_fails hwaiting hcall).error h with ⟨hcommits, hsame⟩ | ⟨hcommits, hlost⟩
  · exact ⟨iff_of_true hsame.standing hcommits, fun _ again hagain => hsame.retry hagain⟩
  · exact ⟨iff_of_false hlost (not_not_intro hcommits), fun hnot => absurd hcommits hnot⟩

/-- Whether a variable is true. -/
def flag (name : String) : Operand := (Condition.isTrue (.variable name)).operand

/-- Calls up to a case that has no arm yet. -/
def armlessCase : List Call := [
  .declare ["x"] { type := .int } (.value .null),
  .openCase (.value .null)]

/-- The first arm of a case can be opened after a failure: no `y` is declared. -/
theorem armlessCase_retried : ∃ b b' e,
    Builder.start .block (.value .null) Builder.usualStem = .ok b ∧
      (Call.openWhen (flag "y")).isTurn = true ∧
      (b.run armlessCase).perform (.openWhen (flag "y")) = (.error e, b') ∧
      b'.standing = (b.run armlessCase).standing ∧
      (b'.perform (.openWhen (flag "x"))).1 = .ok () ∧
      b'.perform (.openWhen (flag "x")) = (b.run armlessCase).perform (.openWhen (flag "x")) := by
  have hfails : ((emptyBuilder.run armlessCase).perform (.openWhen (flag "y"))).1.isOk = false := by
    decide +kernel
  have hok : ((emptyBuilder.run armlessCase).perform (.openWhen (flag "x"))).1 = .ok () := by
    decide +kernel
  have hbare : (emptyBuilder.run armlessCase).takesStatements = false := by decide +kernel
  rcases h : (emptyBuilder.run armlessCase).perform (.openWhen (flag "y")) with ⟨e | u, b'⟩
  · have hcommits : ¬ (emptyBuilder.run armlessCase).Commits (.openWhen (flag "y")) := by
      rintro (_ | ⟨_, construct, _, _, _, entered, _⟩ | _ | _ | ⟨⟨⟩, _⟩)
      unfold Builder.takesStatements at hbare
      rw [construct] at hbare
      cases entered.symm.trans hbare
    have hstart : Builder.start .block (.value .null) Builder.usualStem = .ok emptyBuilder := rfl
    obtain ⟨hstanding, hretry⟩ := failed_turn_standing hstart rfl h
    obtain ⟨hanswer, hsame⟩ := hretry hcommits (.openWhen (flag "x")) trivial
    exact ⟨emptyBuilder, b', e, hstart, rfl, h, hstanding.2 hcommits, hanswer.trans hok, hsame hok⟩
  · rw [h] at hfails
    cases hfails

/-- Calls up to a conditional with a statement in its first branch. -/
def filledBranch : List Call := [
  .declare ["x"] { type := .int } (.value .null),
  .openIf (flag "x"),
  .set "@a" (.value (.int 1)) []]

/-- **A failed `ELSEIF` has closed the branch before it**: the statement is no longer in the open
branch, and the call with a right condition, which would have succeeded, now fails. -/
theorem filledBranch_lost : ∃ b b' e e',
    Builder.start .block (.value .null) Builder.usualStem = .ok b ∧
      (b.run filledBranch).perform (.elseIf (flag "y")) = (.error e, b') ∧
      b'.standing ≠ (b.run filledBranch).standing ∧
      ((b.run filledBranch).perform (.elseIf (flag "x"))).1 = .ok () ∧
      (b'.perform (.elseIf (flag "x"))).1 = .error e' := by
  have hfails : ((emptyBuilder.run filledBranch).perform (.elseIf (flag "y"))).1.isOk = false := by
    decide +kernel
  have hok : ((emptyBuilder.run filledBranch).perform (.elseIf (flag "x"))).1 = .ok () := by
    decide +kernel
  have hfilled : (emptyBuilder.run filledBranch).inner.statements.isEmpty = false := by
    decide +kernel
  have hlost : ((emptyBuilder.run filledBranch).perform
      (.elseIf (flag "y"))).2.inner.statements.isEmpty = true := by decide +kernel
  have hagain : ((((emptyBuilder.run filledBranch).perform (.elseIf (flag "y"))).2).perform
      (.elseIf (flag "x"))).1.isOk = false := by decide +kernel
  rcases h : (emptyBuilder.run filledBranch).perform (.elseIf (flag "y")) with ⟨e | u, b'⟩
  · rw [h] at hlost hagain
    have hstanding : b'.standing ≠ (emptyBuilder.run filledBranch).standing := by
      intro hsame
      have hinner := (List.cons.inj (congrArg Standing.frames hsame)).1
      have hempty := congrArg (·.statements.isEmpty) hinner
      exact absurd (hlost.symm.trans (hempty.trans hfilled)) nofun
    rcases hcall : (b'.perform (.elseIf (flag "x"))).1 with e' | u
    · exact ⟨emptyBuilder, b', e, e', rfl, h, hstanding, hok, hcall⟩
    · simp only [hcall] at hagain
      cases hagain
  · rw [h] at hfails
    cases hfails

end StoredSql
