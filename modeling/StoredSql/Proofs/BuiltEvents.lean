import StoredSql.Proofs.BuiltPrograms
import StoredSql.Proofs.CallEnds
import StoredSql.Proofs.EventReading
import StoredSql.Proofs.OpenEvents

/-!
# Programs hold what the calls have given

What each call gives to a program, as events (`Call.events`). A builder holds all of it, in the order
of the calls (`Builder.Records`): each call that succeeds adds its events at the right end
(`Builder.perform_gives`), so they are what the program is made of from left to right
(`Builder.built_in_call_order`), and tell all of it but its labels (`Builder.bare_build`). The
exception is an arm of a case whose value is null. The builder takes it, but a missing value is also
how it says that no arm is open, so the arm is lost with its statements (`Builder.nullArm_lost`).
-/

namespace StoredSql

open Check Stepwise

namespace Call

/-- The statements that a call hands over, if they can be made. -/
def given : Call → List Statement
  | .declare names type initial => (Statement.makeDeclare names type initial).toOption.toList
  | .declareCondition name value => (Statement.makeDeclareCondition name value).toOption.toList
  | .declareCursor name query => (Builder.selectOf query >>= fun q =>
    Statement.makeDeclareCursor name (.query q)).toOption.toList
  | .declareHandler action conditions body =>
    (Statement.makeDeclareHandler action conditions body).toOption.toList
  | .iterate label => [.iterate label]
  | .leave label => [.leave label]
  | .openCursor name => [.openCursor name]
  | .fetch name targets => (Statement.makeFetch name targets).toOption.toList
  | .closeCursor name => [.closeCursor name]
  | .select query => ((Builder.selectOf query).map .select).toOption.toList
  | .insert query => ((Builder.insertOf query).map .insert).toOption.toList
  | .set target value more =>
    (Statement.makeSet ((target, value) :: Ordered.ofEntries more)).toOption.toList
  | .call name args => (Statement.makeCall name args).toOption.toList
  | .signal condition message number =>
    (Statement.makeSignal condition message number).toOption.toList
  | .signalState state message number => (ConditionValue.make .sqlState state >>= fun condition =>
    Statement.makeSignal condition message number).toOption.toList
  | .raw sql => [.raw sql]
  | .empty => [.empty]
  | .statements ss => ss
  | _ => []

/-- What a call gives to a program. The end of a bracket closes a construct if the bracket has one
and nothing has failed in it. -/
def events (brackets : List (Option FrameMark)) : Call → List Event
  | .openHandler action conditions => match (action.toMember : Except Error HandlerAction) with
    | .ok action => [.handler action conditions, .block]
    | .error _ => []
  | .openBlock _ => [.block]
  | .openIf test => [.ifElse, .branch test.expr?]
  | .elseIf test => [.branch test.expr?]
  | .otherwise => [.otherwise]
  | .openCase operand => [.cases (operand.ifAny.bind (·.expr?))]
  | .openWhen test => [.branch test.expr?]
  | .openLoop _ => [.loop]
  | .openWhile test _ => [.whileLoop test.expr?]
  | .openRepeat _ => [.repeatLoop]
  | .endRepeat test => [.goal test.expr?, .closed]
  | .endHandler | .endBlock | .close | .endIf | .endCase | .endLoop | .endWhile => [.closed]
  | .exitBracket failed => match failed, brackets with
    | false, some _ :: _ => [.closed]
    | _, _ => []
  | other => Statement.allEvents other.given

/-- What is no statement handed over is none in a program. -/
theorem leaves_events (brackets : List (Option FrameMark)) (call : Call) :
    (call.events brackets).filterMap Event.leaf? = Statement.allLeaves call.given := by
  cases call with
  | openHandler action conditions =>
    rw [events]
    split <;> rfl
  | exitBracket failed =>
    cases failed with
    | true => rfl
    | false => rcases brackets with _ | ⟨_ | mark, brackets⟩ <;> rfl
  | _ => rfl

end Call

/-! ## Open constructs -/

/-- The events of an open construct with its statements. -/
def Frame.events (f : Frame) : List Event := f.construct.events ++ Statement.allEvents f.statements

/-- Whether all that has come to open constructs counts, and what it is, from the outermost one to
the innermost. -/
structure Recorded (es : List Event) (f : Frame) (fs : List Frame) : Prop where
  inner : f.construct.Sound f.statements
  outer : ∀ g ∈ fs, g.construct.Sound g.statements ∧ g.construct.takesStatements = true
  events : fs.reverse.flatMap Frame.events ++ f.events = es

namespace Recorded

variable {es more : List Event} {f g : Frame} {fs : List Frame} {s : Statement} {k : Construct}

/-- A statement has come to the innermost construct. -/
theorem next (h : Recorded es f fs) (ht : f.construct.takesStatements = true) (s : Statement) :
    Recorded (es ++ s.events) { f with statements := f.statements ++ [s] } fs where
  inner := h.inner.next ht
  outer := h.outer
  events := by
    rw [← h.events, Frame.events, Frame.events, Statement.allEvents_append,
      Statement.allEvents_singleton]
    simp only [List.append_assoc]

/-- A construct has been opened inside the innermost one. -/
theorem opened (h : Recorded es f fs) (ht : f.construct.takesStatements = true) (serial : Nat)
    (hk : k.Sound []) : Recorded (es ++ k.events) ⟨serial, k, []⟩ (f :: fs) where
  inner := hk
  outer := List.forall_mem_cons.2 ⟨⟨h.inner, ht⟩, h.outer⟩
  events := by
    rw [← h.events, List.reverse_cons, List.flatMap_append, List.flatMap_singleton]
    exact congrArg (_ ++ ·) (List.append_nil _)

/-- The innermost construct has become a statement of the one around it. -/
theorem closed (h : Recorded es f (g :: fs)) (hs : s.events = f.events ++ more) :
    Recorded (es ++ more) { g with statements := g.statements ++ [s] } fs := by
  obtain ⟨⟨hg, ht⟩, hfs⟩ := List.forall_mem_cons.1 h.outer
  have hkept : Recorded (fs.reverse.flatMap Frame.events ++ g.events) g fs := ⟨hg, hfs, rfl⟩
  have hes : fs.reverse.flatMap Frame.events ++ g.events ++ s.events = es ++ more := by
    rw [← h.events, hs, List.reverse_cons, List.flatMap_append, List.flatMap_singleton]
    simp only [List.append_assoc]
  exact hes ▸ hkept.next ht s

/-- The innermost construct has gone on to its next branch. -/
theorem branched (h : Recorded es f fs) (hk : k.Sound []) (hevents : k.events = f.events ++ more) :
    Recorded (es ++ more) { f with construct := k, statements := [] } fs where
  inner := hk
  outer := h.outer
  events := by
    rw [← h.events, Frame.events, hevents]
    simp only [Statement.allEvents, List.append_nil, List.append_assoc]

end Recorded

namespace Builder

variable {α : Type} {es more : List Event} {b b' : Builder}

/-- Whether all that has come to a builder counts, and what it is. -/
def Records (es : List Event) (b : Builder) : Prop := Recorded es b.inner b.outer

theorem Records.nothing (hb : b.Records es) : b.Records (es ++ []) := by
  rwa [List.append_nil]

/-- Whether an action that succeeds adds the events to those of a builder. -/
abbrev Giving (es more : List Event) (b : Builder) (act : Action α) : Prop :=
  Ends (Records (es ++ more)) (fun _ => True) b act

/-- Whether an action that succeeds adds the events to those of any builder. -/
def Gives (more : List Event) (act : Action α) : Prop :=
  ∀ ⦃es : List Event⦄ ⦃b : Builder⦄, b.Records es → Giving es more b act

/-! ## Statements -/

theorem add_gives (s : Statement) : Gives s.events (add s) := by
  intro es b hb
  refine ends_add trivial trivial (fun _ _ _ _ => trivial) fun s' c ht hs => ?_
  have hrecorded := hb.next ht s'
  rwa [Statement.check_events s hs] at hrecorded

theorem addMade_gives (r : Except Error Statement) :
    Gives (Statement.allEvents r.toOption.toList) (addMade r) := by
  intro es b hb
  refine ends_made trivial fun s hs => ?_
  subst hs
  rw [show (Except.ok s : Except Error Statement).toOption.toList = [s] from rfl,
    Statement.allEvents_singleton]
  exact add_gives s hb

theorem statements_gives (ss : List Statement) : Gives (Statement.allEvents ss) (ss.forM add) := by
  induction ss with
  | nil => exact fun es b hb => ends_ok rfl hb.nothing
  | cons s ss ih =>
    intro es b hb
    rw [Statement.allEvents, Giving, ← List.append_assoc]
    have hs := add_gives s hb
    exact hs.bind fun _ b' h => ih (hs.ok h)

/-! ## Constructs -/

theorem opens_gives {construct : Check Construct} (h : Construct.OpensWith more construct) :
    Gives more (opens construct) := by
  intro es b hb
  refine ends_opens trivial (fun _ _ _ _ => trivial) fun k c ht hk => ?_
  obtain ⟨hsound, rfl⟩ := h hk
  exact hb.opened ht b.serials hsound

theorem openHandler_gives (action : Outline) (conditions : List ConditionValue)
    (brackets : List (Option FrameMark)) :
    Gives ((Call.openHandler action conditions).events brackets)
      (openHandler action conditions) := by
  intro es b hb
  refine ends_openHandler trivial fun a ha => ?_
  rw [Call.events, ha]
  exact opens_gives (Construct.handler_opensWith a conditions) hb

theorem closes_gives (kind : ConstructKind) : Gives [.closed] (closes kind) := by
  intro es b hb
  refine ends_closes trivial (fun _ _ _ _ _ _ _ => trivial) fun f fs s c houter _ hs => ?_
  unfold Records at hb
  rw [houter] at hb
  exact hb.closed (Construct.finish_events hb.inner hs)

theorem endRepeat_gives (test : Operand) : Gives [.goal test.expr?, .closed] (endRepeat test) := by
  intro es b hb
  refine ends_endRepeat trivial (fun _ _ _ _ _ _ _ => trivial) fun f fs label s houter hk _ hs => ?_
  unfold Records at hb
  rw [houter] at hb
  refine hb.closed ?_
  rw [Frame.events, hk]
  exact Construct.repeat_events hs

/-! ## The next branch -/

theorem elseIf_gives (test : Operand) : Gives [.branch test.expr?] (elseIf test) := by
  intro es b hb
  refine ends_elseIf trivial fun part part' _ hk helse hclose _ => ⟨trivial, fun _ => ?_⟩
  have hsound := hb.inner
  rw [hk] at hsound
  obtain ⟨hsound', hevents⟩ := Construct.nextBranch_events hsound helse hclose test
  exact hb.branched hsound' (by rw [hevents, Frame.events, hk])

theorem otherwise_gives : Gives [.otherwise] otherwise := by
  intro es b hb
  have hsound := hb.inner
  refine ends_otherwise trivial (fun part part' hk helse hclose => ?_)
    fun part part' hk helse htest hclose => ?_
  · rw [hk] at hsound
    obtain ⟨hsound', hevents⟩ := Construct.lastBranch_events hsound helse hclose
    exact hb.branched hsound' (by rw [hevents, Frame.events, hk])
  · rw [hk] at hsound
    obtain ⟨hsound', hevents⟩ := Construct.lastArm_events hsound helse htest hclose
    exact hb.branched hsound' (by rw [hevents, Frame.events, hk])

theorem openWhen_gives {test : Operand} (htest : test.isNull = false) :
    Gives [.branch test.expr?] (openWhen test) := by
  intro es b hb
  refine ends_openWhen trivial fun part part' _ hk helse hclose _ => ⟨trivial, fun _ => ?_⟩
  have hsound := hb.inner
  rw [hk] at hsound
  have hany : test.ifAny = some test := by
    unfold Operand.ifAny
    rw [htest, if_neg Bool.false_ne_true]
  rw [hany]
  obtain ⟨hsound', hevents⟩ := Construct.nextArm_events hsound helse hclose test
  exact hb.branched hsound' (by rw [hevents, Frame.events, hk])

/-! ## Whatever is innermost -/

theorem closeInnermost_gives : Gives [.closed] closeInnermost :=
  fun _ _ hb => ends_closeInnermost trivial fun kind => closes_gives kind hb

theorem close_gives : Gives [.closed] close :=
  fun _ _ hb => ends_close trivial fun kind => closes_gives kind hb

theorem exitBracket_giving (failed : Bool) (hb : b.Records es) :
    Giving es ((Call.exitBracket failed).events b.withs) b (exitBracket failed) := by
  refine ends_exitBracket (fun _ => trivial) (fun _ _ _ => trivial) (fun mark withs hwiths hnone => ?_)
    fun m withs hwiths hfailed => ?_
  · have hb' : ({ b with withs } : Builder).Records es := hb
    rw [hwiths]
    rcases hnone with rfl | rfl
    · exact hb'.nothing
    · cases failed <;> exact hb'.nothing
  · have hb' : ({ b with withs } : Builder).Records es := hb
    rw [hwiths, hfailed]
    exact closeInnermost_gives hb'

/-! ## Calls -/

/-- **Each call adds what it gives**, unless it opens an arm of a case whose value is null. -/
theorem perform_gives (hb : b.Records es) : ∀ call : Call,
    (∀ test, call = .openWhen test → test.isNull = false) →
      Giving es (call.events b.withs) b (act call)
  | .declare _ _ _, _ => addMade_gives _ hb
  | .declareCondition _ _, _ => addMade_gives _ hb
  | .declareCursor _ _, _ => addMade_gives _ hb
  | .declareHandler _ _ _, _ => addMade_gives _ hb
  | .openHandler action conditions, _ => openHandler_gives action conditions _ hb
  | .endHandler, _ => closes_gives .handler hb
  | .openBlock label, _ => opens_gives (Construct.block_opensWith label) hb
  | .endBlock, _ => closes_gives .block hb
  | .close, _ => close_gives hb
  | .openIf test, _ => opens_gives (Construct.if_opensWith test) hb
  | .elseIf test, _ => elseIf_gives test hb
  | .otherwise, _ => otherwise_gives hb
  | .endIf, _ => closes_gives .ifElse hb
  | .openCase operand, _ => opens_gives (Construct.case_opensWith operand) hb
  | .openWhen test, h => openWhen_gives (h test rfl) hb
  | .endCase, _ => closes_gives .cases hb
  | .openLoop label, _ =>
    opens_gives (@Construct.loop_opensWith .loop [.loop] (fun _ => ⟨trivial, rfl⟩) label) hb
  | .endLoop, _ => closes_gives .loop hb
  | .openWhile test label, _ => opens_gives (Construct.while_opensWith test label) hb
  | .endWhile, _ => closes_gives .whileLoop hb
  | .openRepeat label, _ =>
    opens_gives
      (@Construct.loop_opensWith .repeatLoop [.repeatLoop] (fun _ => ⟨trivial, rfl⟩) label) hb
  | .endRepeat test, _ => endRepeat_gives test hb
  | .iterate label, _ => add_gives (.iterate label) hb
  | .leave label, _ => add_gives (.leave label) hb
  | .openCursor name, _ => add_gives (.openCursor name) hb
  | .fetch _ _, _ => addMade_gives _ hb
  | .closeCursor name, _ => add_gives (.closeCursor name) hb
  | .select _, _ => addMade_gives _ hb
  | .insert _, _ => addMade_gives _ hb
  | .set _ _ _, _ => addMade_gives _ hb
  | .call _ _, _ => addMade_gives _ hb
  | .signal _ _ _, _ => addMade_gives _ hb
  | .signalState _ _ _, _ => addMade_gives _ hb
  | .raw sql, _ => add_gives (.raw sql) hb
  | .empty, _ => add_gives .empty hb
  | .statements ss, _ => statements_gives ss hb
  | .enterBracket, _ => ends_ok rfl hb.nothing
  | .exitBracket failed, _ => exitBracket_giving failed hb

/-! ## Runs -/

/-- What calls give to a program, one after the other. -/
def given (b : Builder) : List Call → List Event
  | [] => []
  | call :: calls => call.events b.withs ++ given (b.perform call).2 calls

/-- The statements among what calls give are those that they hand over. -/
theorem leaves_given (b : Builder) (calls : List Call) :
    (b.given calls).filterMap Event.leaf? = calls.flatMap (Statement.allLeaves ·.given) := by
  induction calls generalizing b with
  | nil => rfl
  | cons call calls ih =>
    rw [given, List.filterMap_append, Call.leaves_events, ih, List.flatMap_cons]

/-- A run in which every call succeeds adds what its calls give. -/
theorem runAll_gives {calls : List Call}
    (hnull : ∀ test, Call.openWhen test ∈ calls → test.isNull = false) (hb : b.Records es)
    (h : b.runAll calls = (.ok (), b')) : b'.Records (es ++ b.given calls) := by
  induction calls generalizing b es with
  | nil =>
    cases h
    exact hb.nothing
  | cons call calls ih =>
    rw [runAll] at h
    rcases hcall : b.perform call with ⟨e | u, t⟩
    · rw [hcall] at h
      cases h
    · rw [hcall] at h
      have hgives := perform_gives hb call fun test he => hnull test (he ▸ List.mem_cons_self)
      rw [given, hcall, ← List.append_assoc]
      exact ih (fun test hmem => hnull test (List.mem_cons_of_mem call hmem)) (hgives.ok hcall) h

/-- Where a builder starts, there is nothing but the block of its program. -/
theorem records_start {head : ProgramHead} {label : Operand} {stem : String}
    (h : Builder.start head label stem = .ok b) : b.Records [.block] := by
  obtain ⟨_, _, _, _, _, _, rfl⟩ := Builder.start_eq_ok.1 h
  exact ⟨trivial, fun _ hmem => absurd hmem List.not_mem_nil, rfl⟩

/-- The events of the program that a builder gives. -/
theorem events_build {p : Program} (hb : b.Records es) (h : b.build = (.ok p, b')) :
    (Statement.block p.body).events = es ++ [.closed] := by
  obtain ⟨label, view, houter, hblock, rfl⟩ := build_eq_ok h
  rw [ProgramHead.body_program, ← hb.events, houter, Frame.events, hblock]
  rfl

/-- What has come to a builder tells the program that it gives, but for labels and for what is
visible where blocks begin. -/
theorem bare_build {c c' : Builder} {p q : Program} (hb : b.Records es) (hc : c.Records es)
    (hp : b.build = (.ok p, b')) (hq : c.build = (.ok q, c')) :
    (Statement.block p.body).bare = (Statement.block q.body).bare := by
  have hevents : (Statement.block p.body).events ++ [] = (Statement.block q.body).events ++ [] := by
    rw [events_build hb hp, events_build hc hq]
  exact (Statement.bare_of_events _ _ hevents).1

/-- **Programs hold what the calls have given, in the order of the calls.** Where all calls have
succeeded, and none has opened an arm of a case whose value is null, the statements of the program
from left to right are those that have been handed over, and so is all else that it is made of: each
statement is inside the branch, the arm or the body that was open when it came, and each condition or
value in the construct that it was given to. -/
theorem built_in_call_order {head : ProgramHead} {label : Operand} {stem : String}
    {b b' b'' : Builder} {p : Program} {calls : List Call}
    (hnull : ∀ test, Call.openWhen test ∈ calls → test.isNull = false)
    (hb : Builder.start head label stem = .ok b) (hcalls : b.runAll calls = (.ok (), b'))
    (hbuild : b'.build = (.ok p, b'')) :
    Statement.allLeaves p.body.statements = calls.flatMap (Statement.allLeaves ·.given) ∧
      (Statement.block p.body).events = .block :: (b.given calls ++ [.closed]) := by
  have hevents : (Statement.block p.body).events = .block :: (b.given calls ++ [.closed]) :=
    events_build (runAll_gives hnull (records_start hb) hcalls) hbuild
  refine ⟨?_, hevents⟩
  rw [Statement.events_block] at hevents
  have hbody : Statement.allEvents p.body.statements = b.given calls :=
    List.append_cancel_right (List.tail_eq_of_cons_eq hevents)
  rw [Statement.allLeaves, hbody, leaves_given]

/-- Calls for a case of two arms. -/
def twoArms : List Call := [
  .openCase (.value (.int 1)),
  .openWhen (.value (.int 1)),
  .set "@a" (.value (.int 1)) [],
  .otherwise,
  .set "@a" (.value (.int 2)) [],
  .set "@b" (.value (.int 3)) [],
  .endCase]

/-- Both arms have what has been given to them. -/
theorem twoArms_in_call_order : ∃ b b' b'' p,
    Builder.start .block (.value .null) usualStem = .ok b ∧
      b.runAll twoArms = (.ok (), b') ∧ b'.build = (.ok p, b'') ∧
      Statement.allLeaves p.body.statements = twoArms.flatMap (Statement.allLeaves ·.given) ∧
      (Statement.block p.body).events = .block :: (b.given twoArms ++ [.closed]) := by
  have hnull : ∀ test, Call.openWhen test ∈ twoArms → test.isNull = false := by
    intro test hmem
    simp only [twoArms, List.mem_cons, Call.openWhen.injEq, reduceCtorEq, List.not_mem_nil,
      or_false, false_or] at hmem
    subst hmem
    rfl
  have hcalled : (emptyBuilder.runAll twoArms).1.isOk = true := by decide +kernel
  have hbuilt : (emptyBuilder.runAll twoArms).2.build.1.isOk = true := by decide +kernel
  rcases hcalls : emptyBuilder.runAll twoArms with ⟨e | u, b'⟩
  · rw [hcalls] at hcalled
    cases hcalled
  rw [hcalls] at hbuilt
  rcases hbuild : b'.build with ⟨e | p, b''⟩
  · rw [hbuild] at hbuilt
    cases hbuilt
  have hstart : Builder.start .block (.value .null) usualStem = .ok emptyBuilder := rfl
  exact ⟨emptyBuilder, b', b'', p, hstart, hcalls, hbuild,
    built_in_call_order hnull hstart hcalls hbuild⟩

/-- Calls for a case of two arms, the first of which has no value. -/
def nullArm : List Call := [
  .openCase (.value (.int 1)),
  .openWhen (.value .null),
  .set "@a" (.value (.int 1)) [],
  .openWhen (.value (.int 2)),
  .set "@a" (.value (.int 2)) [],
  .endCase]

/-- All calls succeed, but the arm without a value is lost with its statement. -/
theorem nullArm_lost : ∃ b b' b'' p,
    Builder.start .block (.value .null) usualStem = .ok b ∧
      b.runAll nullArm = (.ok (), b') ∧ b'.build = (.ok p, b'') ∧
      Statement.allLeaves p.body.statements ≠ nullArm.flatMap (Statement.allLeaves ·.given) := by
  have hcalled : (emptyBuilder.runAll nullArm).1.isOk = true := by decide +kernel
  have hbuilt : (emptyBuilder.runAll nullArm).2.build.1.toOption.any
      (fun p => (Statement.allLeaves p.body.statements).length == 1) = true := by decide +kernel
  have hgiven : (nullArm.flatMap (Statement.allLeaves ·.given)).length = 2 := by decide +kernel
  rcases hcalls : emptyBuilder.runAll nullArm with ⟨e | u, b'⟩
  · rw [hcalls] at hcalled
    cases hcalled
  rw [hcalls] at hbuilt
  rcases hbuild : b'.build with ⟨e | p, b''⟩
  · rw [hbuild] at hbuilt
    cases hbuilt
  rw [hbuild] at hbuilt
  refine ⟨emptyBuilder, b', b'', p, rfl, hcalls, hbuild, fun hleaves => ?_⟩
  have hone : (Statement.allLeaves p.body.statements).length = 1 := beq_iff_eq.1 hbuilt
  rw [hleaves, hgiven] at hone
  cases hone

end Builder
end StoredSql
