import StoredSql.Proofs.CallEnds
import StoredSql.Proofs.Replay

/-!
# Calls to builders that account for what they know

A builder is traced where its open constructs account for what it knows (`Builder.Traced`). Each call
that succeeds leads from a traced builder to one; a call that fails may leave a builder that knows of
other names and states, but only where it is none of those of `Call.isAtomic`.
-/

namespace StoredSql

open Check Stepwise

/-- Whether the end of a construct of the kind leaves nothing behind if it fails. -/
def ConstructKind.isAtomic : ConstructKind → Bool
  | block | handler | loop => true
  | ifElse | cases | whileLoop | repeatLoop => false

theorem ConstructKind.isAtomic_iff {kind : ConstructKind} :
    kind.isAtomic = true ↔ kind = .block ∨ kind = .handler ∨ kind = .loop := by
  cases kind <;> decide

/-- How what is accounted for may be related to what is known after a call that has failed. -/
def Checker.After : Bool → Checker → Checker → Prop
  | true => Checker.Earlier
  | false => Checker.Ages

theorem Checker.Earlier.after {c d : Checker} (h : d.Earlier c) : ∀ atomic, Checker.After atomic d c
  | true => h
  | false => h.ages

theorem Checker.After.ages {c d : Checker} : ∀ {atomic}, Checker.After atomic d c → d.Ages c
  | true, h => Earlier.ages h
  | false, h => h

/-- Whether a call that fails leaves no names and states behind: it does nothing before the last step
that can fail, or nothing that is not undone. -/
def Call.isAtomic : Call → Bool
  | declare names _ _ => names.length ≤ 1
  | statements ss => ss.all Statement.isAtomic
  | endIf | endCase | endWhile | endRepeat _ | close => false
  | exitBracket failed => failed
  | _ => true

namespace Builder

variable {α β : Type} {start : Checker} {b b' : Builder} {e : Error} {atomic : Bool}

/-- Whether what a builder knows is related to what its open constructs account for. Statements have
come only to constructs that take them, and others are open only within such. -/
structure Traced (R : Checker → Checker → Prop) (start : Checker) (b : Builder) : Prop where
  outer : ∀ f ∈ b.outer, f.construct.takesStatements = true
  inner : b.inner.construct.takesStatements = false → b.inner.statements = []
  replay : ∃ d, Replays start b.frames d ∧ R d b.checker

/-- Whether a builder knows of names and cursors just what its open constructs account for. -/
def Accounted (start : Checker) (b : Builder) : Prop :=
  ∀ d, Replays start b.frames d → d.known = b.checker.known

/-- What else a builder remembers does not count. -/
theorem Traced.congr {R : Checker → Checker → Prop} (h : b.Traced R start)
    (hinner : b'.inner = b.inner) (houter : b'.outer = b.outer) (hchecker : b'.checker = b.checker) :
    b'.Traced R start := by
  constructor
  · rw [houter]
    exact h.outer
  · rw [hinner]
    exact h.inner
  · unfold frames
    rw [hinner, houter, hchecker]
    exact h.replay

theorem Traced.after (h : b.Traced Checker.Earlier start) (atomic : Bool) :
    b.Traced (Checker.After atomic) start := by
  obtain ⟨d, hd, hearlier⟩ := h.replay
  exact ⟨h.outer, h.inner, d, hd, hearlier.after atomic⟩

theorem Traced.earlier (h : b.Traced (Checker.After atomic) start)
    (hb : atomic = false → b.Accounted start) : b.Traced Checker.Earlier start := by
  cases atomic with
  | true => exact h
  | false =>
    obtain ⟨d, hd, hages⟩ := h.replay
    exact ⟨h.outer, h.inner, d, hd, Checker.Ages.earlier hages (hb rfl d hd)⟩

/-- What a construct that is not the block of the program has come from. -/
theorem Traced.opened (h : b.Traced Checker.Earlier start)
    (hk : b.inner.construct.kind ≠ .block ∨ b.outer ≠ []) : ∃ d t d', Replays start b.outer d ∧
      b.inner.construct.Enters d t ∧ Passes b.inner.statements t d' ∧ d'.Earlier b.checker := by
  obtain ⟨d', hd', hearlier⟩ := h.replay
  obtain ⟨d, t, hd, hkt, hss⟩ := hd'.opened hk
  exact ⟨d, t, d', hd, hkt, hss, hearlier⟩

/-- Whether an action that succeeds leaves a traced builder, and one that fails a builder that is
traced but for what a failure may leave behind. -/
abbrev Leads (atomic : Bool) (start : Checker) : Builder → Action α → Prop :=
  Ends (Traced Checker.Earlier start) (Traced (Checker.After atomic) start)

theorem Leads.weaken {atomic' : Bool} {act : Action α} (h : Leads atomic start b act)
    (hle : atomic' = true → atomic = true) : Leads atomic' start b act := by
  refine ⟨h.ok, fun hact => ?_⟩
  have hb' := h.error hact
  cases atomic' with
  | true => rwa [hle rfl] at hb'
  | false =>
    obtain ⟨d, hd, hR⟩ := hb'.replay
    exact ⟨hb'.outer, hb'.inner, d, hd, hR.ages⟩

/-- Whether an action leads from each traced builder to one. -/
def Upholds (start : Checker) (atomic : Bool) (act : Action α) : Prop :=
  ∀ b : Builder, b.Traced Checker.Earlier start → Leads atomic start b act

/-! ## Statements -/

theorem add_upholds (s : Statement) : Upholds start s.isAtomic (add s) := by
  intro b hb
  have hb₀ : ({ b with opened := none } : Builder).Traced Checker.Earlier start :=
    hb.congr rfl rfl rfl
  obtain ⟨d, hd, hearlier⟩ := hb.replay
  refine ends_add (hb.after _) (hb₀.after _) (fun e c _ hs => ?_) fun s' c ht hs => ?_
  · have honward := Statement.check_onward s b.checker
    rw [hs] at honward
    refine ⟨hb.outer, hb.inner, d, hd, ?_⟩
    cases hatomic : s.isAtomic with
    | true =>
      have hknown : c.known = b.checker.known := Statement.check_traceless hatomic hs
      exact hearlier.trans (honward.ages.earlier hknown.symm)
    | false => exact hearlier.ages.trans honward.ages
  · refine ⟨hb.outer, fun hnot => ?_, ?_⟩
    · exact absurd (ht.symm.trans hnot) (by decide)
    · obtain ⟨d', hs', hd', _⟩ := Statement.check_again s hs hearlier
      exact ⟨d', hd.adding (passes_of_check hs'), hd'⟩

theorem addMade_upholds {r : Except Error Statement} (hr : Makes atomic r) :
    Upholds start atomic (addMade r) := by
  intro b hb
  refine ends_made (hb.after _) fun s hs => ?_
  rw [← hr s hs]
  exact add_upholds s b hb

theorem statements_upholds (ss : List Statement) :
    Upholds start (ss.all Statement.isAtomic) (ss.forM add) := by
  induction ss with
  | nil => exact fun b hb => ends_ok rfl hb
  | cons s ss ih =>
    intro b hb
    have hs := add_upholds s b hb
    have hs' : Leads ((s :: ss).all Statement.isAtomic) start b (add s) :=
      hs.weaken fun h => (Bool.and_eq_true_iff.1 h).1
    exact hs'.bind fun _ b' h => (ih b' (hs.ok h)).weaken fun h => (Bool.and_eq_true_iff.1 h).2

/-! ## Opening -/

theorem opens_upholds {construct : Check Construct} (hopens : Construct.Opens construct) :
    Upholds start true (opens construct) := by
  intro b hb
  obtain ⟨d, hd, hearlier⟩ := hb.replay
  refine ends_opens (hb.after _) (fun e c _ hk => ?_) fun k c ht hk => ?_
  · exact ⟨hb.outer, hb.inner, d, hd, hearlier.trans (hopens.error hk)⟩
  · obtain ⟨t, hkt, htc⟩ := hopens.ok hk hearlier
    exact ⟨List.forall_mem_cons.2 ⟨ht, hb.outer⟩, fun _ => rfl, t, .frame hd hkt (passes_nil t), htc⟩

theorem openHandler_upholds (action : Outline) (conditions : List ConditionValue) :
    Upholds start true (openHandler action conditions) :=
  fun b hb => ends_openHandler (hb.after _) fun a _ =>
    opens_upholds (Construct.ofHandler_opens a conditions) b hb

/-! ## Closing -/

/-- What a frame is closed to: the frames around it take the statement that it is. -/
theorem Traced.closed {f : Frame} {fs : List Frame} {c' d : Checker} {s : Statement}
    (hb : b.Traced Checker.Earlier start) (houter : b.outer = f :: fs)
    (hd : Replays start (f :: fs) d) (hs : ∃ d', Passes [s] d d' ∧ d'.Earlier c') :
    ({ b with
      inner := { f with statements := f.statements ++ [s] }, outer := fs, checker := c' } :
        Builder).Traced Checker.Earlier start := by
  obtain ⟨d', hs, hd'⟩ := hs
  have hmem : ∀ g ∈ f :: fs, g.construct.takesStatements = true := houter ▸ hb.outer
  refine ⟨fun g hg => hmem g (List.mem_cons_of_mem _ hg), fun hnot => ?_, d', hd.adding hs, hd'⟩
  have htakes := hmem f List.mem_cons_self
  rw [htakes] at hnot
  cases hnot

/-- The frames around a closed one are traced but for what is declared and the states. -/
theorem Traced.dropped {f : Frame} {fs : List Frame} {c' d : Checker}
    (hb : b.Traced Checker.Earlier start) (houter : b.outer = f :: fs)
    (hd : Replays start (f :: fs) d) {R : Checker → Checker → Prop} (hR : R d c') :
    ({ b with inner := f, outer := fs, checker := c' } : Builder).Traced R start := by
  have hmem : ∀ g ∈ f :: fs, g.construct.takesStatements = true := houter ▸ hb.outer
  refine ⟨fun g hg => hmem g (List.mem_cons_of_mem _ hg), fun hnot => ?_, d, hd, hR⟩
  have htakes := hmem f List.mem_cons_self
  rw [htakes] at hnot
  cases hnot

/-- What a construct around which others are open has come from, and those. -/
theorem Traced.enclosed {f : Frame} {fs : List Frame} (hb : b.Traced Checker.Earlier start)
    (houter : b.outer = f :: fs) : ∃ d t d', Replays start (f :: fs) d ∧
      b.inner.construct.Enters d t ∧ Passes b.inner.statements t d' ∧ d'.Earlier b.checker := by
  obtain ⟨d, t, d', hd, hopened⟩ := hb.opened (.inr (houter ▸ List.cons_ne_nil f fs))
  rw [houter] at hd
  exact ⟨d, t, d', hd, hopened⟩

theorem closes_upholds (kind : ConstructKind) : Upholds start kind.isAtomic (closes kind) := by
  intro b hb
  refine ends_closes (hb.after _) (fun f fs e c houter hkind hfinish => ?_)
    fun f fs s c houter _ hfinish => ?_
  · obtain ⟨d, t, d', hd, hkt, hss, hearlier⟩ := hb.enclosed houter
    refine hb.dropped houter hd ?_
    cases hatomic : kind.isAtomic with
    | true =>
      rw [← hkind] at hatomic
      exact hkt.finish_error hss hearlier (ConstructKind.isAtomic_iff.1 hatomic) hfinish
    | false =>
      have hstill := Construct.finish_still b.checker.nesting.view b.inner.statements
        b.inner.construct (b.checker.leaveScopes b.inner.construct.scopeCount)
      rw [hfinish] at hstill
      exact ((hkt.ages hss).trans (hearlier.ages.leaveScopes _)).trans hstill.ages
  · obtain ⟨d, t, d', hd, hkt, hss, hearlier⟩ := hb.enclosed houter
    exact hb.closed houter hd (hkt.finish hss hearlier hfinish)

theorem endRepeat_upholds (test : Operand) : Upholds start false (endRepeat test) := by
  intro b hb
  refine ends_endRepeat (hb.after _) (fun f fs label e houter hk _ => ?_)
    fun f fs label s houter hk htest hmake => ?_
  · obtain ⟨d, t, d', hd, hkt, hss, hearlier⟩ := hb.enclosed houter
    rw [hk] at hkt
    have hages : d.Ages b.checker.left := (hkt.ages hss).trans (hearlier.ages.leaveScopes _)
    exact hb.dropped houter hd hages
  · obtain ⟨d, t, d', hd, hkt, hss, hearlier⟩ := hb.enclosed houter
    rw [hk] at hkt
    exact hb.closed houter hd (hkt.finishRepeat hss hearlier htest hmake)

/-! ## The next branch -/

/-- A branch that has been started in the place of the innermost one. -/
theorem Traced.branching {k : Construct} {c d t : Checker} (hb : b.Traced Checker.Earlier start)
    (hd : Replays start b.outer d) (hk : k.Enters d t) (ht : t.Earlier c) :
    (b.branching c k []).Traced Checker.Earlier start :=
  ⟨hb.outer, fun _ => rfl, t, .frame hd hk (passes_nil t), ht⟩

theorem elseIf_upholds (test : Operand) : Upholds start true (elseIf test) := by
  intro b hb
  refine ends_elseIf (hb.after _) ?_
  rintro part part' _ hk helse hclose rfl
  obtain ⟨d, t, d', hd, hkt, hss, hearlier⟩ := hb.opened (.inl (by rw [hk]; nofun))
  rw [hk] at hkt
  rw [← hearlier.left.states] at hclose
  have hbranch := hearlier.left.branched part'.arms.before
  refine ⟨Traced.after ?_ _, fun htest => ?_⟩
  · have htest' := hkt.test_ifElse helse
    obtain ⟨_, _, _, rfl⟩ := (OpenIf.close_eq_ok helse).1 hclose
    exact hb.branching hd (hkt.next_ifElse hss helse hclose fun _ => htest') hbranch
  · have htest' := (hbranch.resolveAll _).trans htest
    rw [Construct.resolveAll_of_still (hkt.still_ifElse hss)] at htest'
    exact hb.branching hd (hkt.next_ifElse hss helse hclose fun _ => htest') hbranch

theorem otherwise_upholds : Upholds start true otherwise := by
  intro b hb
  refine ends_otherwise (hb.after _) (fun part part' hk helse hclose => ?_)
    fun part part' hk helse htest hclose => ?_
  · obtain ⟨d, t, d', hd, hkt, hss, hearlier⟩ := hb.opened (.inl (by rw [hk]; nofun))
    rw [hk] at hkt
    rw [← hearlier.left.states] at hclose
    have hnext : (Construct.ifElse { part' with arms := { part'.arms with inElse := true } }).Enters
        d (d'.left.branched part'.arms.before) := hkt.next_ifElse hss helse hclose nofun
    exact hb.branching hd hnext (hearlier.left.branched part'.arms.before)
  · have hbare := hb.inner
    obtain ⟨d, t, d', hd, hkt, hss, hearlier⟩ := hb.opened (.inl (by rw [hk]; nofun))
    rw [hk] at hkt hbare
    obtain ⟨hentered, htests⟩ := OpenCase.close_keeps hclose
    rw [hkt.entered_cases htest] at hentered
    have htest' : ∀ o, part'.test = some o → d.noted.nesting.resolveAll o.variableNames = .ok () :=
      fun o ho => hkt.test_cases (htests ▸ ho)
    obtain ⟨u, _, hu, hnext⟩ := hkt.next_cases hss hbare hearlier helse hclose
    rw [aroundArm, if_pos hentered] at hu
    have hnext' : (Construct.cases { part' with
        arms := { part'.arms with inElse := true }, entered := true }).Enters d
        (u.branched part'.arms.before) := hnext htest'
    obtain ⟨arms, operand, whens, test, entered⟩ := part'
    cases hentered
    exact hb.branching hd hnext' hu

theorem openWhen_upholds (test : Operand) : Upholds start true (openWhen test) := by
  intro b hb
  refine ends_openWhen (hb.after _) ?_
  rintro part part' _ hk helse hclose rfl
  have hbare := hb.inner
  obtain ⟨d, t, d', hd, hkt, hss, hearlier⟩ := hb.opened (.inl (by rw [hk]; nofun))
  rw [hk] at hkt hbare
  obtain ⟨_, htests⟩ := OpenCase.close_keeps hclose
  have hkept : ∀ o, part'.test = some o → d.noted.nesting.resolveAll o.variableNames = .ok () :=
    fun o ho => hkt.test_cases (htests ▸ ho)
  obtain ⟨u, hstill, hu, hnext⟩ := hkt.next_cases hss hbare hearlier helse hclose
  refine ⟨Traced.after ?_ _, fun htest => ?_⟩
  · exact hb.branching hd (hnext hkept) hu
  · have htest' := (hu.resolveAll _).trans htest
    rw [Construct.resolveAll_of_still hstill] at htest'
    refine hb.branching hd (hnext fun o ho => ?_) hu
    rwa [Operand.eq_of_ifAny ho]

/-! ## Whatever is innermost -/

theorem closes_weakly (kind : ConstructKind) : Upholds start false (closes kind) :=
  fun b hb => (closes_upholds kind b hb).weaken nofun

theorem closeInnermost_upholds : Upholds start false closeInnermost :=
  fun b hb => ends_closeInnermost (hb.after _) fun kind => closes_weakly kind b hb

theorem close_upholds : Upholds start false close :=
  fun b hb => ends_close (hb.after _) fun kind => closes_weakly kind b hb

theorem enterBracket_upholds : Upholds start true enterBracket :=
  fun _ hb => ends_ok rfl (hb.congr rfl rfl rfl)

theorem exitBracket_upholds (failed : Bool) : Upholds start failed (exitBracket failed) := by
  intro b hb
  have hb' : ∀ withs, ({ b with withs } : Builder).Traced Checker.Earlier start :=
    fun _ => hb.congr rfl rfl rfl
  refine ends_exitBracket (fun _ => hb.after _) (fun _ withs _ => (hb' withs).after _)
    (fun _ withs _ _ => hb' withs) fun _ withs _ hfailed => ?_
  subst hfailed
  exact closeInnermost_upholds _ (hb' withs)

/-! ## Calls -/

/-- **What one call does to a traced builder.** -/
theorem perform_upholds : ∀ call : Call, Upholds start call.isAtomic (act call)
  | .declare names type initial => addMade_upholds (Statement.makeDeclare_atomic names type initial)
  | .declareCondition name value => addMade_upholds (Statement.makeDeclareCondition_atomic name value)
  | .declareCursor name _ =>
    addMade_upholds (.bind fun _ => Statement.makeDeclareCursor_atomic name _)
  | .declareHandler action conditions body =>
    addMade_upholds (Statement.makeDeclareHandler_atomic action conditions body)
  | .openHandler action conditions => openHandler_upholds action conditions
  | .endHandler => closes_upholds .handler
  | .openBlock label => opens_upholds (Construct.ofBlock_opens label)
  | .endBlock => closes_upholds .block
  | .close => close_upholds
  | .openIf test => opens_upholds (Construct.ofIf_opens test)
  | .elseIf test => elseIf_upholds test
  | .otherwise => otherwise_upholds
  | .endIf => closes_upholds .ifElse
  | .openCase operand => opens_upholds (Construct.ofCase_opens operand)
  | .openWhen test => openWhen_upholds test
  | .endCase => closes_upholds .cases
  | .openLoop label => opens_upholds (Construct.ofLoop_opens label)
  | .endLoop => closes_upholds .loop
  | .openWhile test label => opens_upholds (Construct.ofWhile_opens test label)
  | .endWhile => closes_upholds .whileLoop
  | .openRepeat label => opens_upholds (Construct.ofRepeat_opens label)
  | .endRepeat test => endRepeat_upholds test
  | .iterate label => add_upholds (.iterate label)
  | .leave label => add_upholds (.leave label)
  | .openCursor name => add_upholds (.openCursor name)
  | .fetch name targets => addMade_upholds (Statement.makeFetch_atomic name targets)
  | .closeCursor name => add_upholds (.closeCursor name)
  | .select _ => addMade_upholds (.map fun _ => rfl)
  | .insert _ => addMade_upholds (.map fun _ => rfl)
  | .set _ _ _ => addMade_upholds (Statement.makeSet_atomic _)
  | .call name args => addMade_upholds (Statement.makeCall_atomic name args)
  | .signal condition message number =>
    addMade_upholds (Statement.makeSignal_atomic condition message number)
  | .signalState _ message number =>
    addMade_upholds (.bind fun _ => Statement.makeSignal_atomic _ message number)
  | .raw sql => add_upholds (.raw sql)
  | .empty => add_upholds .empty
  | .statements ss => statements_upholds ss
  | .enterBracket => enterBracket_upholds
  | .exitBracket failed => exitBracket_upholds failed

end Builder

end StoredSql
