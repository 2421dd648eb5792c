import StoredSql.Proofs.BuiltPrograms
import StoredSql.Proofs.CallEnds
import StoredSql.Proofs.OpenPlaces

/-!
# What calls uphold

What checks uphold is upheld by calls: where it holds of the open constructs of a builder
(`Builder.Kept`), each call that succeeds keeps it so. A call that fails may have declared names and
lost constructs, branches and statements; what does not mind more names (`Lasting`) is kept by it as
well. So it holds of the program that a builder gives (`Builder.kept_build`).

What asks for the views that blocks bear is kept where each handler that a call ends has the statements
to end with (`Builder.Ready`).
-/

namespace StoredSql

open Check Stepwise

/-! ## Around programs -/

namespace ProgramHead

/-- The names of the parameters of a program. -/
def parameterNames : ProgramHead → List String
  | procedure _ parameters _ _ => parameters.map (·.name)
  | _ => []

/-- The rows that a program sees. -/
def rows : ProgramHead → RowAccess
  | trigger _ _ timing event => rowAccess timing event
  | _ => {}

/-- What the block of a program is checked against. -/
def checker (head : ProgramHead) (stem : String) : Checker where
  nesting := ⟨{ kind := .program, rows := head.rows, variableNames := head.parameterNames }, []⟩
  labels := ⟨stem, 0⟩

theorem foldlM_declareParameter {parameters : List Parameter} {s t : Scope}
    (h : parameters.foldlM (fun s p => s.declareParameter p.name) s = .ok t) :
    t = { s with variableNames := s.variableNames ++ parameters.map (·.name) } := by
  induction parameters generalizing s with
  | nil =>
    cases h
    rw [List.map_nil, List.append_nil]
  | cons p ps ih =>
    rw [List.foldlM_cons] at h
    obtain ⟨u, hu, ht⟩ := Outcome.bind_eq_ok.1 h
    unfold Scope.declareParameter at hu
    split at hu
    · cases hu
    · cases hu
      rw [ih ht, List.map_cons]
      dsimp only
      rw [List.append_assoc]
      rfl

theorem scope_eq {head : ProgramHead} {s : Scope} (h : head.scope = .ok s) :
    s = { kind := .program, rows := head.rows, variableNames := head.parameterNames } := by
  cases head with
  | block =>
    cases h
    rfl
  | procedure name parameters comment deterministic => exact foldlM_declareParameter h
  | trigger name table timing event =>
    cases h
    rfl

end ProgramHead

/-- Whether a property is kept where a check has failed half done. -/
def Lasting (P : Checker → List Statement → Prop) : Prop :=
  ∀ ⦃c c' : Checker⦄ ⦃ss : List Statement⦄, c.Onward c' → P c ss → P c' ss

namespace Builder

variable {Q : List Statement → Prop} {P : Checker → List Statement → Prop} {α : Type}
  {start : Checker} {b b' : Builder}

/-- Whether the statements of the open constructs have the property. -/
def Kept (P : Checker → List Statement → Prop) (start : Checker) (b : Builder) : Prop :=
  Framed P start b.frames b.checker

/-- Whether a failure has kept the property, if the property does not mind more names. -/
def KeptIfLasting (P : Checker → List Statement → Prop) (start : Checker) (b : Builder) : Prop :=
  Lasting P → b.Kept P start

/-- Whether an action keeps the property where it succeeds, and where it fails if it is lasting. -/
abbrev Keeping (P : Checker → List Statement → Prop) (start : Checker) (b : Builder)
    (act : Action α) : Prop :=
  Ends (Kept P start) (KeptIfLasting P start) b act

/-- Whether an action keeps the property of every builder. -/
def Preserves (P : Checker → List Statement → Prop) (start : Checker) (act : Action α) : Prop :=
  ∀ b : Builder, b.Kept P start → Keeping P start b act

/-- Whether the innermost construct, if it is a handler, has the statements to end with. -/
def Ready (Q : List Statement → Prop) (b : Builder) : Prop :=
  b.inner.construct.kind = .handler → Q b.inner.statements

theorem Kept.ifLasting (h : b.Kept P start) : b.KeptIfLasting P start := fun _ => h

/-! ## Statements -/

theorem add_preserves (hP : UpheldViewed Q P) (s : Statement) : Preserves P start (add s) := by
  intro b hb
  have honward := Statement.check_onward s b.checker
  refine ends_add hb.ifLasting hb.ifLasting (fun e c ht hs hlasting => ?_) fun s' c ht hs => ?_
  · rw [hs] at honward
    exact Framed.next hb ht honward (hlasting honward)
  · rw [hs] at honward
    have hs' : P b.checker b.inner.statements → P c (b.inner.statements ++ [s']) :=
      fun hss => Statement.check_upheld hP s hs hss
    exact Framed.next hb ht honward hs'

theorem addMade_preserves (hP : UpheldViewed Q P) (r : Except Error Statement) :
    Preserves P start (addMade r) :=
  fun b hb => ends_made hb.ifLasting fun s _ => add_preserves hP s b hb

theorem statements_preserves (hP : UpheldViewed Q P) (ss : List Statement) :
    Preserves P start (ss.forM add) := by
  induction ss with
  | nil => exact fun b hb => ends_ok rfl hb
  | cons s ss ih =>
    intro b hb
    have hs := add_preserves hP s b hb
    exact hs.bind fun _ b' h => ih b' (hs.ok h)

/-! ## Constructs -/

theorem opens_preserves (hP : UpheldViewed Q P) {construct : Check Construct}
    (hopening : Construct.Opening P construct) : Preserves P start (opens construct) := by
  intro b hb
  refine ends_opens hb.ifLasting (fun e c ht hk hlasting => ?_) fun k c ht hk => ?_
  · have honward := hopening.error hk
    exact Framed.next hb ht honward (hlasting honward)
  · obtain ⟨d, hmoves, hopened⟩ := hopening.ok hk
    have hd : Framed P start b.frames d := Framed.next hb ht hmoves.onward (hP.moves hmoves)
    exact .frame hd ht hopened

theorem openHandler_preserves (hP : UpheldViewed Q P) (action : Outline)
    (conditions : List ConditionValue) : Preserves P start (openHandler action conditions) :=
  fun b hb => ends_openHandler hb.ifLasting fun a _ =>
    opens_preserves hP (Construct.opening_handler hP a conditions) b hb

/-- What is around the innermost construct of a builder. -/
theorem Kept.opened {f : Frame} {fs : List Frame} (hb : b.Kept P start)
    (houter : b.outer = f :: fs) : ∃ c, Framed P start (f :: fs) c ∧
      f.construct.takesStatements = true ∧
      b.inner.construct.Opened P c b.checker b.inner.statements := by
  obtain ⟨g, gs, c, hgs, hframed, ht, hopened⟩ :=
    Framed.opened hb (.inr (houter ▸ List.cons_ne_nil f fs))
  obtain ⟨rfl, rfl⟩ := List.cons.inj (houter.symm.trans hgs)
  exact ⟨c, hframed, ht, hopened⟩

theorem closes_keeps (hP : UpheldViewed Q P) (kind : ConstructKind) (hb : b.Kept P start)
    (hQ : b.Ready Q) : Keeping P start b (closes kind) := by
  have hfinish := Construct.finish_still b.checker.nesting.view b.inner.statements
    b.inner.construct (b.checker.leaveScopes b.inner.construct.scopeCount)
  refine ends_closes hb.ifLasting (fun f fs e c' houter _ hs _ => ?_) fun f fs s c' houter _ hs => ?_
  · obtain ⟨c, hframed, ht, hopened⟩ := hb.opened houter
    rw [hs] at hfinish
    have hstill : c.Still c' := Trans.trans hopened.left hfinish
    exact Framed.next hframed ht hstill.onward (hP.moves hstill.moves)
  · obtain ⟨c, hframed, ht, hopened⟩ := hb.opened houter
    rw [hs] at hfinish
    have hstill : c.Still c' := Trans.trans hopened.left hfinish
    obtain ⟨k, htakes, hbegins⟩ := hopened.takes hP hQ hs
    exact Framed.next hframed ht hstill.onward (hP.holds htakes hbegins hstill)

theorem endRepeat_preserves (hP : UpheldViewed Q P) (test : Operand) :
    Preserves P start (endRepeat test) := by
  intro b hb
  refine ends_endRepeat hb.ifLasting (fun f fs label e houter hk _ _ => ?_)
    fun f fs label s houter hk htest hs => ?_
  · obtain ⟨c, hframed, ht, hopened⟩ := hb.opened houter
    rw [hk] at hopened
    have hstill : c.Still b.checker.left := hopened.left
    exact Framed.next hframed ht hstill.onward (hP.moves hstill.moves)
  · obtain ⟨c, hframed, ht, hopened⟩ := hb.opened houter
    rw [hk] at hopened
    have hstill : c.Still b.checker.left := hopened.left
    have htakes := hopened.takesRepeat htest hs
    exact Framed.next hframed ht hstill.onward (hP.holds htakes (htakes.begins nofun) hstill)

/-! ## The next branch -/

/-- A branch that has been started in the place of the innermost one. -/
theorem kept_branching {k : Construct} {c d : Checker} {f : Frame} {fs : List Frame}
    (houter : b.outer = f :: fs) (hframed : Framed P start (f :: fs) c)
    (ht : f.construct.takesStatements = true) (hk : k.Opened P c d []) :
    (b.branching d k []).Kept P start := by
  unfold Kept frames branching
  rw [houter]
  exact .frame hframed ht hk

theorem elseIf_preserves (hP : UpheldViewed Q P) (test : Operand) : Preserves P start (elseIf test) := by
  intro b hb
  refine ends_elseIf hb.ifLasting ?_
  rintro part part' _ hk helse hclose rfl
  obtain ⟨f, fs, c, houter, hframed, ht, hopened⟩ := Framed.opened hb (.inl (by rw [hk]; nofun))
  rw [hk] at hopened
  have hleft : c.Still b.checker.left := hopened.left
  refine ⟨Kept.ifLasting ?_, fun htest => ?_⟩
  · have hkept := hopened.test helse
    obtain ⟨_, _, _, rfl⟩ := (OpenIf.close_eq_ok helse).1 hclose
    exact kept_branching houter hframed ht
      (hopened.nextBranch hP helse hclose part.arms.before fun _ => hkept)
  · have htest' := (Construct.resolveAll_of_still hleft _ _).symm.trans htest
    exact kept_branching houter hframed ht
      (hopened.nextBranch hP helse hclose part'.arms.before fun _ => htest')

theorem otherwise_preserves (hP : UpheldViewed Q P) : Preserves P start otherwise := by
  intro b hb
  refine ends_otherwise hb.ifLasting (fun part part' hk helse hclose => ?_)
    fun part part' hk helse htest hclose => ?_
  · obtain ⟨f, fs, c, houter, hframed, ht, hopened⟩ := Framed.opened hb (.inl (by rw [hk]; nofun))
    rw [hk] at hopened
    exact kept_branching houter hframed ht
      (hopened.nextBranch hP helse hclose part'.arms.before nofun)
  · obtain ⟨f, fs, c, houter, hframed, ht, hopened⟩ := Framed.opened hb (.inl (by rw [hk]; nofun))
    rw [hk] at hopened
    obtain ⟨hentered, htests⟩ := OpenCase.close_keeps hclose
    rw [hopened.entered htest] at hentered
    have haround : aroundArm part' b.checker = b.checker.left := if_pos hentered
    have hnext : (Construct.cases { part' with
        arms := { part'.arms with inElse := true }, entered := true }).Opened P c
        (b.checker.left.branched part'.arms.before) [] := by
      rw [← haround]
      exact hopened.nextArm hP helse hclose _ fun o ho => hopened.arm (htests ▸ ho)
    obtain ⟨arms, operand, whens, test, entered⟩ := part'
    cases hentered
    exact kept_branching houter hframed ht hnext

theorem openWhen_preserves (hP : UpheldViewed Q P) (test : Operand) :
    Preserves P start (openWhen test) := by
  intro b hb
  refine ends_openWhen hb.ifLasting ?_
  rintro part part' _ hk helse hclose rfl
  obtain ⟨f, fs, c, houter, hframed, ht, hopened⟩ := Framed.opened hb (.inl (by rw [hk]; nofun))
  rw [hk] at hopened
  obtain ⟨hentered, htests⟩ := OpenCase.close_keeps hclose
  have haround := hopened.aroundArm hentered
  refine ⟨Kept.ifLasting ?_, fun htest => ?_⟩
  · exact kept_branching houter hframed ht (hopened.nextArm hP helse hclose part'.arms.before
      fun o ho => hopened.arm (htests ▸ ho))
  · have htest' := (Construct.resolveAll_of_still haround _ _).symm.trans htest
    refine kept_branching houter hframed ht (hopened.nextArm hP helse hclose
      part'.arms.before fun o ho => ?_)
    rwa [Operand.eq_of_ifAny ho]

/-! ## Whatever is innermost -/

theorem closeInnermost_keeps (hP : UpheldViewed Q P) (hb : b.Kept P start) (hQ : b.Ready Q) :
    Keeping P start b closeInnermost :=
  ends_closeInnermost hb.ifLasting fun kind => closes_keeps hP kind hb hQ

theorem close_keeps (hP : UpheldViewed Q P) (hb : b.Kept P start) (hQ : b.Ready Q) :
    Keeping P start b close :=
  ends_close hb.ifLasting fun kind => closes_keeps hP kind hb hQ

theorem exitBracket_keeps (hP : UpheldViewed Q P) (failed : Bool) (hb : b.Kept P start)
    (hQ : b.Ready Q) : Keeping P start b (exitBracket failed) := by
  have hb' : ∀ withs, ({ b with withs } : Builder).Kept P start := fun _ => hb
  have hQ' : ∀ withs, ({ b with withs } : Builder).Ready Q := fun _ => hQ
  exact ends_exitBracket (fun _ => hb.ifLasting) (fun _ withs _ => (hb' withs).ifLasting)
    (fun _ withs _ _ => hb' withs) fun _ withs _ _ =>
      closeInnermost_keeps hP (hb' withs) (hQ' withs)

/-! ## Calls -/

/-- **What checks uphold is kept by each call**, if the handler that it ends, if it ends one, has the
statements to end with. -/
theorem perform_keeps (hP : UpheldViewed Q P) (hb : b.Kept P start) (hQ : b.Ready Q) :
    ∀ call : Call, Keeping P start b (act call)
  | .declare _ _ _ => addMade_preserves hP _ b hb
  | .declareCondition _ _ => addMade_preserves hP _ b hb
  | .declareCursor _ _ => addMade_preserves hP _ b hb
  | .declareHandler _ _ _ => addMade_preserves hP _ b hb
  | .openHandler action conditions => openHandler_preserves hP action conditions b hb
  | .endHandler => closes_keeps hP .handler hb hQ
  | .openBlock label => opens_preserves hP (Construct.opening_block hP label) b hb
  | .endBlock => closes_keeps hP .block hb hQ
  | .close => close_keeps hP hb hQ
  | .openIf test => opens_preserves hP (Construct.opening_if hP test) b hb
  | .elseIf test => elseIf_preserves hP test b hb
  | .otherwise => otherwise_preserves hP b hb
  | .endIf => closes_keeps hP .ifElse hb hQ
  | .openCase operand => opens_preserves hP (Construct.opening_case operand) b hb
  | .openWhen test => openWhen_preserves hP test b hb
  | .endCase => closes_keeps hP .cases hb hQ
  | .openLoop label => opens_preserves hP (Construct.opening_loop hP label) b hb
  | .endLoop => closes_keeps hP .loop hb hQ
  | .openWhile test label => opens_preserves hP (Construct.opening_while hP test label) b hb
  | .endWhile => closes_keeps hP .whileLoop hb hQ
  | .openRepeat label => opens_preserves hP (Construct.opening_repeat hP label) b hb
  | .endRepeat test => endRepeat_preserves hP test b hb
  | .iterate label => add_preserves hP (.iterate label) b hb
  | .leave label => add_preserves hP (.leave label) b hb
  | .openCursor name => add_preserves hP (.openCursor name) b hb
  | .fetch _ _ => addMade_preserves hP _ b hb
  | .closeCursor name => add_preserves hP (.closeCursor name) b hb
  | .select _ => addMade_preserves hP _ b hb
  | .insert _ => addMade_preserves hP _ b hb
  | .set _ _ _ => addMade_preserves hP _ b hb
  | .call _ _ => addMade_preserves hP _ b hb
  | .signal _ _ _ => addMade_preserves hP _ b hb
  | .signalState _ _ _ => addMade_preserves hP _ b hb
  | .raw sql => add_preserves hP (.raw sql) b hb
  | .empty => add_preserves hP .empty b hb
  | .statements ss => statements_preserves hP ss b hb
  | .enterBracket => ends_ok rfl hb
  | .exitBracket failed => exitBracket_keeps hP failed hb hQ

/-! ## Runs -/

/-- A run in which every call succeeds keeps what checks uphold, if the handlers that it ends have the
statements to end with. -/
theorem runAll_keeps (hP : UpheldViewed Q P) (calls : List Call) (hb : b.Kept P start)
    (hQ : ∀ before after, calls = before ++ after → (b.run before).Ready Q)
    (h : b.runAll calls = (.ok (), b')) : b'.Kept P start := by
  induction calls generalizing b with
  | nil =>
    cases h
    exact hb
  | cons call calls ih =>
    rw [runAll] at h
    rcases hcall : b.perform call with ⟨e | u, t⟩
    · rw [hcall] at h
      cases h
    · rw [hcall] at h
      refine ih ((perform_keeps hP hb (hQ [] _ rfl) call).ok hcall) (fun before after heq => ?_) h
      have hrest := hQ (call :: before) after (congrArg (call :: ·) heq)
      have hrun : b.run (call :: before) = t.run before :=
        congrArg (fun r : Except Error Unit × Builder => r.2.run before) hcall
      rwa [hrun] at hrest

theorem runAll_kept (hP : Upheld P) (calls : List Call) (hb : b.Kept P start)
    (h : b.runAll calls = (.ok (), b')) : b'.Kept P start :=
  runAll_keeps (hP.viewed fun _ => True) calls hb (fun _ _ _ _ => trivial) h

/-- A run keeps what checks uphold, whatever calls fail, if it does not mind more names. -/
theorem run_kept (hP : Upheld P) (hlasting : Lasting P) (calls : List Call)
    (hb : b.Kept P start) : (b.run calls).Kept P start := by
  induction calls generalizing b with
  | nil => exact hb
  | cons call calls ih =>
    have hkeeping := perform_keeps (hP.viewed fun _ => True) hb (fun _ => trivial) call
    refine ih ?_
    rcases hcall : act call b with ⟨e | u, t⟩
    · have ht := hkeeping.error hcall hlasting
      rwa [← show (b.perform call).2 = t from congrArg Prod.snd hcall] at ht
    · have ht := hkeeping.ok hcall
      rwa [← show (b.perform call).2 = t from congrArg Prod.snd hcall] at ht

/-- Where a builder starts, nothing has come to the block of its program. -/
theorem keeps_start (hP : UpheldViewed Q P) {head : ProgramHead} {label : Operand} {stem : String}
    (h : Builder.start head label stem = .ok b) : b.Kept P (head.checker stem) := by
  obtain ⟨scope, hscope, l, _, inner, hinner, rfl⟩ := Builder.start_eq_ok.1 h
  obtain rfl := ProgramHead.scope_eq hscope
  have hchild : (head.checker stem).nesting.child .block l = .ok inner := hinner
  have hinside := Checker.inside_of_child hchild
  exact .root rfl hinside (hP.fresh hchild) ⟨_, hinside, Checker.bare_of_child hchild, rfl⟩

theorem kept_start (hP : Upheld P) {head : ProgramHead} {label : Operand} {stem : String}
    (h : Builder.start head label stem = .ok b) : b.Kept P (head.checker stem) :=
  keeps_start (hP.viewed fun _ => True) h

/-- What is kept holds of the statements of the program that a builder gives. -/
theorem kept_build {p : Program} (hb : b.Kept P start) (h : b.build = (.ok p, b')) :
    start.Holds P .block p.body.label p.body.statements := by
  obtain ⟨label, view, houter, hblock, rfl⟩ := build_eq_ok h
  rw [ProgramHead.body_program]
  unfold Kept frames at hb
  rw [houter] at hb
  cases hb with
  | root hk hinside hss _ =>
    obtain ⟨rfl, _⟩ := Construct.block.inj (hblock.symm.trans hk)
    exact ⟨b.checker, hinside, hss⟩

/-- The program that a builder gives bears the view of its start. -/
theorem begins_build {p : Program} (hb : b.Kept P start) (h : b.build = (.ok p, b')) :
    start.Begins (.block p.body) := by
  obtain ⟨label, view, houter, hblock, rfl⟩ := build_eq_ok h
  rw [ProgramHead.body_program]
  unfold Kept frames at hb
  rw [houter] at hb
  cases hb with
  | root hk _ _ hbegins =>
    obtain ⟨rfl, rfl⟩ := Construct.block.inj (hblock.symm.trans hk)
    exact hbegins.begins

end Builder

/-- **What is upheld holds of each program that a builder gives**, whatever calls have failed on the
way, if it does not mind more names. -/
theorem Program.upheld {P : Checker → List Statement → Prop} (hP : Upheld P)
    (hlasting : Lasting P) {head : ProgramHead} {label : Operand} {stem : String} {b b' : Builder}
    {p : Program} (calls : List Call) (hb : Builder.start head label stem = .ok b)
    (hbuild : (b.run calls).build = (.ok p, b')) (hnil : P (head.checker stem) []) :
    P (head.checker stem) [.block p.body] := by
  have hheld := Builder.kept_build (Builder.run_kept hP hlasting calls (Builder.kept_start hP hb))
    hbuild
  have htakes : (head.checker stem).Takes P (.block p.body) .block := {
    kind := rfl
    receives := nofun
    labelled := nofun
    tests := nofun
    handles := nofun
    held := by
      intro body hmem
      rw [List.mem_singleton.1 hmem]
      exact hheld }
  exact hP.holder htakes hnil

/-- What is ensured of each statement does not mind more names. -/
theorem eachHas_lasting {R : RowAccess → Statement → Prop} : Lasting (EachHas R) := by
  intro c c' ss h hss
  unfold EachHas
  rw [h.inner.rows]
  exact hss

/-- **What is ensured of each statement holds everywhere in the programs that builders give**, whatever
calls have failed on the way. -/
theorem Program.everywhere {R : RowAccess → Statement → Prop} (hR : Ensured R) {head : ProgramHead}
    {label : Operand} {stem : String} {b b' : Builder} {p : Program} (calls : List Call)
    (hb : Builder.start head label stem = .ok b) (hbuild : (b.run calls).build = (.ok p, b')) :
    (Statement.block p.body).Everywhere (R head.rows) :=
  Program.upheld hR.upheld eachHas_lasting calls hb hbuild nofun _ (List.mem_singleton_self _)

/-- A program that a builder gives has the head that the builder was started with. -/
theorem Program.eq_program {head : ProgramHead} {label : Operand} {stem : String} {b b' : Builder}
    {p : Program} (calls : List Call) (hb : Builder.start head label stem = .ok b)
    (hbuild : (b.run calls).build = (.ok p, b')) : p = head.program p.body := by
  obtain ⟨label, view, _, _, rfl⟩ := Builder.build_eq_ok hbuild
  rw [ProgramHead.body_program, (Builder.run_start hb calls).1]

end StoredSql
