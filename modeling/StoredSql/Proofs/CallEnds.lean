import StoredSql.Proofs.ActionEnds
import StoredSql.Proofs.BuilderSteps
import StoredSql.Proofs.LoopLabels

/-!
# How calls end

What each kind of call leaves behind, said once for all that is to be shown of builders: where it
succeeds, and where it fails after it has done something. A call that fails at once leaves the
builder as it was. No call changes the head of a builder, and what a call does to the source of
labels is what its loops do (`Builder.perform_goes`), so that the stem stays (`Builder.run_start`).
-/

namespace StoredSql

open Check Stepwise

/-! ## Labels where constructs are opened and closed -/

section

variable {R : LabelSource → LabelSource → Prop}

theorem Checker.leaveScopes_labels [Std.Refl R] (n : Nat) (c : Checker) :
    c.Labels R (c.leaveScopes n) := by
  induction n generalizing c with
  | zero => exact Std.Refl.refl c
  | succ n ih => exact ih { c with nesting := c.nesting.leave }

theorem Builder.aroundArm_labels [Std.Refl R] (part : OpenCase) (c : Checker) :
    c.Labels R (aroundArm part c) := by
  unfold aroundArm
  split
  · exact c.leaveScopes_labels 1
  · exact Std.Refl.refl c

namespace Construct

variable [Std.Refl R] [Trans R R R]

theorem ofHandler_labels (action : HandlerAction) (conditions : List ConditionValue) :
    Keeps (Checker.Labels R) (ofHandler action conditions) :=
  .bind (declare_labels _) fun _ => .bind (ask_keeps _) fun _ => .bind (ask_keeps _) fun _ =>
    .bind (ask_keeps _) fun _ => .bind (change_labels _) fun _ => .bind (change_labels _) fun _ =>
      .bind (ask_keeps _) fun _ => .bind (change_labels _) fun _ => .pure _

theorem ofBlock_labels (label : Operand) : Keeps (Checker.Labels R) (ofBlock label) :=
  .bind (change_labels _) fun _ => .bind (ask_keeps _) fun _ => .bind (ask_keeps _) fun _ =>
    .bind (change_labels _) fun _ => .bind (ask_keeps _) fun _ => .pure _

theorem ofIf_labels (test : Operand) : Keeps (Checker.Labels R) (ofIf test) :=
  .bind (change_labels _) fun _ => .bind (ask_keeps _) fun _ => .bind (ask_keeps _) fun _ =>
    .bind (.bind (change_labels _) fun _ => .bind (ask_keeps _) fun _ => change_labels _)
      fun _ => .pure _

theorem ofCase_labels (operand : Operand) : Keeps (Checker.Labels R) (ofCase operand) :=
  .bind (change_labels _) fun _ => .bind (ask_keeps _) fun _ => .bind (ask_keeps _) fun _ => .pure _

theorem ofLoop_labels (hlabelled : ∀ label (c : Checker), c.Labels R (c.labelled label).2)
    (label : Operand) (construct : String → Construct) :
    Keeps (Checker.Labels R) (ofLoop label construct) := by
  have hlabel : ∀ label, Keeps (Checker.Labels R) (labelOr label) := by
    intro label c
    rw [labelOr_apply]
    exact hlabelled label c
  exact .bind (change_labels _) fun _ => .bind (ask_keeps _) fun _ => .bind (hlabel _) fun _ =>
    .bind (ask_keeps _) fun _ => .bind (change_labels _) fun _ => .pure _

theorem finish_labels (seen : ScopeView) (body : List Statement) (k : Construct) :
    Keeps (Checker.Labels R) (k.finish seen body) := by
  cases k with
  | block label view => exact .pure _
  | handler action conditions before => exact .bind (change_labels _) fun _ => .pure _
  | ifElse part =>
    exact .bind (ask_keeps _) fun _ => .bind (ask_keeps _) fun _ =>
      .bind (change_labels _) fun _ => ask_keeps _
  | cases part =>
    exact .bind (ask_keeps _) fun _ => .bind (ask_keeps _) fun _ =>
      .bind (change_labels _) fun _ => ask_keeps _
  | loop label => exact ask_keeps _
  | whileLoop label test => exact ask_keeps _
  | repeatLoop label => exact .throw _

end Construct

end

/-- Whether a call takes no label, whatever the builder is. The others open a loop or hand over
statements. -/
def Call.isLabelless : Call → Bool
  | .openHandler .. | .endHandler | .openBlock _ | .endBlock | .close | .openIf _ | .elseIf _
  | .otherwise | .endIf | .openCase _ | .openWhen _ | .endCase | .endLoop | .endWhile
  | .endRepeat _ | .enterBracket | .exitBracket _ => true
  | _ => false

namespace Builder

variable {α : Type} {Ok Err : Builder → Prop} {b : Builder}

/-! ## Statements -/

theorem ends_add {s : Statement} (hb : Err b) (hb' : Err { b with opened := none })
    (herror : ∀ e c, b.takesStatements = true → s.check b.checker = (.error e, c) →
      Err { b with opened := none, checker := c })
    (hok : ∀ s' c, b.takesStatements = true → s.check b.checker = (.ok s', c) →
      Ok (b.adding c [s'] b.serials none)) : Ends Ok Err b (add s) := by
  unfold add
  refine ends_live hb fun _ => ends_of_ok (modify_apply _ b) (ends_needScope hb' fun ht => ?_)
  rcases hs : s.check b.checker with ⟨e | s', c⟩
  · have hc : checking s.check { b with opened := none } =
        (.error e, { b with opened := none, checker := c }) := checking_of hs
    exact ends_of_error hc (herror e c ht hs)
  · have hc : checking s.check { b with opened := none } =
        (.ok s', { b with opened := none, checker := c }) := checking_of hs
    exact ends_of_ok hc (ends_ok (modify_apply _ _) (hok s' c ht hs))

/-! ## Opening -/

theorem ends_opens {construct : Check Construct} (hb : Err b)
    (herror : ∀ e c, b.takesStatements = true → construct b.checker = (.error e, c) →
      Err { b with checker := c })
    (hok : ∀ k c, b.takesStatements = true → construct b.checker = (.ok k, c) →
      Ok (b.inside c k [] (b.serials + 1) (some ⟨b.serials, k.describe⟩))) :
    Ends Ok Err b (opens construct) := by
  unfold opens
  refine ends_live hb fun _ => ends_needScope hb fun ht => ?_
  rcases hk : construct b.checker with ⟨e | k, c⟩
  · exact ends_of_error (checking_of hk) (herror e c ht hk)
  · exact ends_of_ok (checking_of hk) (ends_ok (modify_apply _ _) (hok k c ht hk))

theorem ends_openHandler {action : Outline} {conditions : List ConditionValue} (hb : Err b)
    (hopens : ∀ a, action.toMember = .ok a →
      Ends Ok Err b (opens (Construct.ofHandler a conditions))) :
    Ends Ok Err b (openHandler action conditions) := by
  unfold openHandler
  refine ends_live hb fun _ => ends_made hb fun s hs => ?_
  obtain ⟨a, ha, _, _, _, rfl⟩ := Statement.makeDeclareHandler_eq_ok.1 hs
  exact hopens a ha

/-! ## Closing -/

theorem ends_pop {kind : ConstructKind} {g : Frame → Action α} (hb : Err b)
    (hg : ∀ f fs, b.outer = f :: fs → b.inner.construct.kind = kind →
      Ends Ok Err (b.outside f fs) (g b.inner)) : Ends Ok Err b (pop kind >>= g) := by
  rcases pop_cases kind b with ⟨e, h⟩ | ⟨f, fs, houter, hk, h⟩
  · exact ends_of_error h hb
  · exact ends_of_ok h (hg f fs houter hk)

theorem ends_closes {kind : ConstructKind} (hb : Err b)
    (herror : ∀ f fs e c, b.outer = f :: fs → b.inner.construct.kind = kind →
      b.inner.construct.finish b.checker.nesting.view b.inner.statements
        (b.checker.leaveScopes b.inner.construct.scopeCount) = (.error e, c) →
      Err { b with inner := f, outer := fs, checker := c })
    (hok : ∀ f fs s c, b.outer = f :: fs → b.inner.construct.kind = kind →
      b.inner.construct.finish b.checker.nesting.view b.inner.statements
        (b.checker.leaveScopes b.inner.construct.scopeCount) = (.ok s, c) →
      Ok { b with
        inner := { f with statements := f.statements ++ [s] }, outer := fs, checker := c }) :
    Ends Ok Err b (closes kind) := by
  unfold closes
  refine ends_of_ok (get_apply b) (ends_pop hb fun f fs houter hk => ?_)
  rcases hs : b.inner.construct.finish b.checker.nesting.view b.inner.statements
    (b.checker.leaveScopes b.inner.construct.scopeCount) with ⟨e | s, c⟩
  · exact ends_of_error (checking_of hs) (herror f fs e c houter hk hs)
  · exact ends_of_ok (checking_of hs) (ends_ok (modify_apply _ _) (hok f fs s c houter hk hs))

theorem ends_endRepeat {test : Operand} (hb : Err b)
    (herror : ∀ f fs label e, b.outer = f :: fs → b.inner.construct = .repeatLoop label →
      Statement.makeRepeat (some label) test b.inner.statements = .error e →
      Err { b with inner := f, outer := fs, checker := b.checker.left })
    (hok : ∀ f fs label s, b.outer = f :: fs → b.inner.construct = .repeatLoop label →
      b.checker.nesting.resolveAll test.variableNames = .ok () →
      Statement.makeRepeat (some label) test b.inner.statements = .ok s →
      Ok { b with
        inner := { f with statements := f.statements ++ [s] }, outer := fs,
        checker := b.checker.left }) :
    Ends Ok Err b (endRepeat test) := by
  unfold endRepeat
  refine ends_live hb fun _ => ends_of_ok (get_apply b) ?_
  cases hk : b.inner.construct with
  | repeatLoop label =>
    refine ends_resolveAll hb fun htest => ends_pop hb fun f fs houter _ => ?_
    have houtside : b.outside f fs = { b with inner := f, outer := fs, checker := b.checker.left } := by
      unfold outside
      rw [hk]
      rfl
    rw [houtside]
    rcases hs : Statement.makeRepeat (some label) test b.inner.statements with e | s
    · exact ends_of_error rfl (herror f fs label e houter hk hs)
    · exact ends_of_ok rfl (ends_ok (modify_apply _ _) (hok f fs label s houter hk htest hs))
  | _ => exact ends_throw hb _

/-! ## The next branch -/

/-- The test of a branch that has been started. -/
theorem ends_test {names : List String} {k : Construct} (hb : Err b)
    (hok : b.checker.nesting.resolveAll names = .ok () →
      Ok (b.branching b.checker k b.inner.statements)) :
    Ends Ok Err b (checking (resolveAll names) >>= fun _ => setConstruct k) :=
  ends_resolveAll hb fun htest => ends_ok (modify_apply _ _) (hok htest)

theorem ends_elseIf {test : Operand} (hb : Err b)
    (hnext : ∀ part part' c, b.inner.construct = .ifElse part → part.arms.inElse = false →
      part.close b.inner.statements b.checker.left.nesting.states = .ok part' →
      b.checker.left.branched part'.arms.before = c →
        Err (b.branching c (.ifElse part') []) ∧
        (c.nesting.resolveAll test.variableNames = .ok () →
          Ok (b.branching c (.ifElse { part' with test }) []))) :
    Ends Ok Err b (elseIf test) := by
  unfold elseIf
  refine ends_live hb fun _ => ends_of_ok (get_apply b) ?_
  cases hk : b.inner.construct with
  | ifElse part =>
    dsimp only
    cases helse : part.arms.inElse with
    | true => exact ends_throw hb _
    | false =>
      rw [if_neg Bool.false_ne_true]
      refine ends_made hb fun part' hclose => ?_
      obtain ⟨herror, hok⟩ := hnext part part' _ hk helse hclose rfl
      exact ends_of_ok (leave_apply b)
        (ends_of_ok (startBranch_apply _ _ _) (ends_test herror hok))
  | _ => exact ends_throw hb _

theorem ends_otherwise (hb : Err b)
    (hbranch : ∀ part part', b.inner.construct = .ifElse part → part.arms.inElse = false →
      part.close b.inner.statements b.checker.left.nesting.states = .ok part' →
      Ok (b.branching (b.checker.left.branched part'.arms.before)
        (.ifElse { part' with arms := { part'.arms with inElse := true } }) []))
    (harm : ∀ part part', b.inner.construct = .cases part → part.arms.inElse = false →
      part.test.isSome = true →
      part.close b.inner.statements b.checker.left.nesting.states = .ok part' →
      Ok (b.branching (b.checker.left.branched part'.arms.before)
        (.cases { part' with arms := { part'.arms with inElse := true } }) [])) :
    Ends Ok Err b otherwise := by
  unfold Builder.otherwise
  refine ends_live hb fun _ => ends_of_ok (get_apply b) ?_
  cases hk : b.inner.construct with
  | ifElse part =>
    dsimp only
    cases helse : part.arms.inElse with
    | true => exact ends_throw hb _
    | false =>
      rw [if_neg Bool.false_ne_true]
      refine ends_made hb fun part' hclose => ?_
      exact ends_of_ok (leave_apply b)
        (ends_ok (startBranch_apply _ _ _) (hbranch part part' hk helse hclose))
  | cases part =>
    dsimp only
    cases helse : part.arms.inElse with
    | true => exact ends_throw hb _
    | false =>
      rw [if_neg Bool.false_ne_true]
      cases hopen : part.isOpen with
      | false => exact ends_throw hb _
      | true =>
        have htest : part.test.isSome = true := by
          unfold OpenCase.isOpen at hopen
          rwa [helse, Bool.false_or] at hopen
        refine ends_made hb fun part' hclose => ?_
        exact ends_of_ok (leave_apply b)
          (ends_ok (startBranch_apply _ _ _) (harm part part' hk helse htest hclose))
  | _ => exact ends_throw hb _

theorem ends_openWhen {test : Operand} (hb : Err b)
    (hnext : ∀ part part' c, b.inner.construct = .cases part → part.arms.inElse = false →
      part.close b.inner.statements b.checker.left.nesting.states = .ok part' →
      (aroundArm part' b.checker).branched part'.arms.before = c →
        Err (b.branching c (.cases { part' with entered := true }) []) ∧
        (c.nesting.resolveAll test.variableNames = .ok () →
          Ok (b.branching c (.cases { part' with entered := true, test := test.ifAny }) []))) :
    Ends Ok Err b (openWhen test) := by
  unfold openWhen
  refine ends_live hb fun _ => ends_of_ok (get_apply b) ?_
  cases hk : b.inner.construct with
  | cases part =>
    dsimp only
    cases helse : part.arms.inElse with
    | true => exact ends_throw hb _
    | false =>
      rw [if_neg Bool.false_ne_true]
      by_cases hneeds : part.operand.isNull = true ∧ test.condition?.isNone = true
      · rw [if_pos hneeds]
        exact ends_throw hb _
      · rw [if_neg hneeds]
        refine ends_made hb fun part' hclose => ?_
        have harm : ∀ c, c = aroundArm part' b.checker → Ends Ok Err { b with checker := c }
            (startBranch (.cases { part' with entered := true }) part'.arms.before >>= fun _ =>
              checking (resolveAll test.variableNames) >>= fun _ =>
                setConstruct (.cases { part' with entered := true, test := test.ifAny })) := by
          rintro _ rfl
          obtain ⟨herror, hok⟩ := hnext part part' _ hk helse hclose rfl
          exact ends_of_ok (startBranch_apply _ _ _) (ends_test herror hok)
        unfold aroundArm at harm
        cases hentered : part'.entered with
        | true =>
          rw [if_pos rfl]
          exact ends_of_ok (leave_apply b) (harm _ (if_pos hentered).symm)
        | false =>
          rw [if_neg Bool.false_ne_true]
          exact harm _ (if_neg (Bool.eq_false_iff.1 hentered)).symm
  | _ => exact ends_throw hb _

/-! ## Whatever is innermost -/

theorem ends_closeInnermost (hb : Err b) (hcloses : ∀ kind, Ends Ok Err b (closes kind)) :
    Ends Ok Err b closeInnermost := by
  unfold closeInnermost
  refine ends_of_ok (get_apply b) ?_
  by_cases houter : b.outer.isEmpty = true
  · rw [if_pos houter]
    exact ends_throw hb _
  · rw [if_neg houter]
    cases b.inner.construct.kind with
    | repeatLoop => exact ends_throw hb _
    | _ => exact hcloses _

theorem ends_close (hb : Err b) (hcloses : ∀ kind, Ends Ok Err b (closes kind)) :
    Ends Ok Err b close :=
  ends_live hb fun _ => ends_closeInnermost hb hcloses

/-- The end of a bracket closes the construct of the bracket, if it has one and nothing has failed
in it. -/
theorem ends_exitBracket {failed : Bool} (hb : b.withs = [] → Err b)
    (hb' : ∀ mark withs, b.withs = mark :: withs → Err { b with withs })
    (hnothing : ∀ mark withs, b.withs = mark :: withs → failed = true ∨ mark = none →
      Ok { b with withs })
    (hcloses : ∀ m withs, b.withs = some m :: withs → failed = false →
      Ends Ok Err { b with withs } closeInnermost) :
    Ends Ok Err b (exitBracket failed) := by
  unfold exitBracket
  refine ends_of_ok (get_apply b) ?_
  cases hwiths : b.withs with
  | nil => exact ends_throw (hb hwiths) _
  | cons mark withs =>
    refine ends_of_ok (set_apply b _) ?_
    cases failed with
    | true => exact ends_ok rfl (hnothing mark withs hwiths (.inl rfl))
    | false =>
      cases mark with
      | none => exact ends_ok rfl (hnothing none withs hwiths (.inr rfl))
      | some m =>
        dsimp only
        by_cases hm : b.inner.serial = m.serial
        · rw [if_pos hm]
          exact hcloses m withs hwiths rfl
        · rw [if_neg hm]
          by_cases hany : (b.frames.any (·.serial == m.serial)) = true
          · rw [if_pos hany]
            exact ends_throw (hb' _ withs hwiths) _
          · rw [if_neg hany]
            exact ends_throw (hb' _ withs hwiths) _

/-! ## Heads and labels -/

section

variable {R : LabelSource → LabelSource → Prop}

/-- The same head, and related sources of labels. -/
structure Continues (R : LabelSource → LabelSource → Prop) (b b' : Builder) : Prop where
  head : b'.head = b.head
  labels : b.checker.Labels R b'.checker

/-- Whether an action leaves a builder that continues the first one. -/
abbrev Goes (R : LabelSource → LabelSource → Prop) (b₀ b : Builder) (act : Action α) : Prop :=
  Ends (b₀.Continues R) (b₀.Continues R) b act

theorem Continues.refl [Std.Refl R] (b : Builder) : b.Continues R b :=
  ⟨rfl, Std.Refl.refl b.checker⟩

variable [Trans R R R] {b₀ : Builder}

/-- What continues a builder, continues it after a check. -/
theorem Continues.checked {γ : Type} {act : Check γ} {r : Except Error γ} {c : Checker}
    (hb : b₀.Continues R b) (hact : Keeps (Checker.Labels R) act)
    (h : act b.checker = (r, c)) : b₀.checker.Labels R c :=
  Trans.trans hb.labels (hact.apply h)

theorem opens_goes (hb : b₀.Continues R b) {construct : Check Construct}
    (hk : Keeps (Checker.Labels R) construct) : Goes R b₀ b (opens construct) :=
  ends_opens hb (fun _ _ _ h => ⟨hb.head, hb.checked hk h⟩)
    fun _ _ _ h => ⟨hb.head, hb.checked hk h⟩

variable [Std.Refl R]

theorem add_goes (hR : ∀ label (c : Checker), c.Labels R (c.labelled label).2)
    (hb : b₀.Continues R b) (s : Statement) : Goes R b₀ b (add s) := by
  have hs : Keeps (Checker.Labels R) s.check :=
    Statement.check_labels s fun _ t _ _ c => hR t.label? c
  exact ends_add hb ⟨hb.head, hb.labels⟩ (fun _ _ _ h => ⟨hb.head, hb.checked hs h⟩)
    fun _ _ _ h => ⟨hb.head, hb.checked hs h⟩

theorem addMade_goes (hR : ∀ label (c : Checker), c.Labels R (c.labelled label).2)
    (hb : b₀.Continues R b) (r : Except Error Statement) : Goes R b₀ b (addMade r) :=
  ends_made hb fun s _ => add_goes hR hb s

theorem statements_goes (hR : ∀ label (c : Checker), c.Labels R (c.labelled label).2)
    (hb : b₀.Continues R b) (ss : List Statement) : Goes R b₀ b (ss.forM add) := by
  induction ss generalizing b with
  | nil => exact ends_ok rfl hb
  | cons s ss ih => exact (add_goes hR hb s).bind fun _ b' h => ih ((add_goes hR hb s).ok h)

theorem closes_goes (hb : b₀.Continues R b) (kind : ConstructKind) : Goes R b₀ b (closes kind) := by
  have hleft : b₀.checker.Labels R (b.checker.leaveScopes b.inner.construct.scopeCount) :=
    Trans.trans hb.labels (b.checker.leaveScopes_labels (R := R) _)
  have hfinish := b.inner.construct.finish_labels (R := R) b.checker.nesting.view b.inner.statements
  exact ends_closes hb
    (fun _ _ _ _ _ _ h => ⟨hb.head, Trans.trans hleft (hfinish.apply h)⟩)
    fun _ _ _ _ _ _ h => ⟨hb.head, Trans.trans hleft (hfinish.apply h)⟩

theorem exitBracket_goes (hb : b₀.Continues R b) (failed : Bool) :
    Goes R b₀ b (exitBracket failed) := by
  have hb' : ∀ withs, b₀.Continues R { b with withs } := fun _ => ⟨hb.head, hb.labels⟩
  exact ends_exitBracket (fun _ => hb) (fun _ withs _ => hb' withs)
    (fun _ withs _ _ => hb' withs) fun _ withs _ _ =>
      ends_closeInnermost (hb' withs) fun kind => closes_goes (hb' withs) kind

/-- **What calls leave alone.** A call, whether it succeeds or fails, leaves the head of a builder
as it is, and does to the source of labels what the loops in it do. -/
theorem perform_goes (hb : b₀.Continues R b) : ∀ call : Call,
    (call.isLabelless = false → ∀ label (c : Checker), c.Labels R (c.labelled label).2) →
      Goes R b₀ b (act call)
  | .openHandler _ _, _ =>
    ends_openHandler hb fun _ _ => opens_goes hb (Construct.ofHandler_labels _ _)
  | .openBlock _, _ => opens_goes hb (Construct.ofBlock_labels _)
  | .openIf _, _ => opens_goes hb (Construct.ofIf_labels _)
  | .openCase _, _ => opens_goes hb (Construct.ofCase_labels _)
  | .openLoop _, hR | .openRepeat _, hR => opens_goes hb (Construct.ofLoop_labels (hR rfl) _ _)
  | .openWhile _ _, hR =>
    opens_goes hb (.bind (ask_keeps _) fun _ => Construct.ofLoop_labels (hR rfl) _ _)
  | .endHandler, _ | .endBlock, _ | .endIf, _ | .endCase, _ | .endLoop, _ | .endWhile, _ =>
    closes_goes hb _
  | .close, _ => ends_close hb (closes_goes hb)
  | .elseIf _, _ => ends_elseIf hb fun _ _ c _ _ _ h =>
    have hlabels : b₀.checker.Labels R c := h ▸ hb.labels
    ⟨⟨hb.head, hlabels⟩, fun _ => ⟨hb.head, hlabels⟩⟩
  | .otherwise, _ => ends_otherwise hb (fun _ _ _ _ _ => ⟨hb.head, hb.labels⟩)
    fun _ _ _ _ _ _ => ⟨hb.head, hb.labels⟩
  | .openWhen _, _ => ends_openWhen hb fun _ part' c _ _ _ h =>
    have harm : b₀.checker.Labels R (aroundArm part' b.checker) :=
      Trans.trans hb.labels (aroundArm_labels (R := R) part' b.checker)
    have hlabels : b₀.checker.Labels R c := h ▸ harm
    ⟨⟨hb.head, hlabels⟩, fun _ => ⟨hb.head, hlabels⟩⟩
  | .endRepeat _, _ => ends_endRepeat hb (fun _ _ _ _ _ _ _ => ⟨hb.head, hb.labels⟩)
    fun _ _ _ _ _ _ _ _ => ⟨hb.head, hb.labels⟩
  | .statements ss, hR => statements_goes (hR rfl) hb ss
  | .enterBracket, _ => ends_ok rfl ⟨hb.head, hb.labels⟩
  | .exitBracket failed, _ => exitBracket_goes hb failed
  | .declare _ _ _, hR | .declareCondition _ _, hR | .declareCursor _ _, hR
  | .declareHandler _ _ _, hR | .fetch _ _, hR | .select _, hR | .insert _, hR | .set _ _ _, hR
  | .call _ _, hR | .signal _ _ _, hR | .signalState _ _ _, hR => addMade_goes (hR rfl) hb _
  | .iterate _, hR | .leave _, hR | .openCursor _, hR | .closeCursor _, hR | .raw _, hR
  | .empty, hR => add_goes (hR rfl) hb _

end

/-- After any calls a builder has the same head, and labels that go on from those that are used. -/
theorem run_continues {b₀ b : Builder} (hb : b₀.Continues LabelSource.MovesOn b)
    (calls : List Call) : b₀.Continues LabelSource.MovesOn (b.run calls) := by
  induction calls generalizing b with
  | nil => exact hb
  | cons call calls ih =>
    exact ih (perform_goes hb call fun _ label c => c.labelled_movesOn label).after

/-- After any calls a builder has the head and the stem that it was started with. -/
theorem run_start {head : ProgramHead} {label : Operand} {stem : String}
    (h : Builder.start head label stem = .ok b) (calls : List Call) :
    (b.run calls).head = head ∧ (b.run calls).checker.labels.stem = stem := by
  have hcontinues := run_continues (Continues.refl b) calls
  obtain ⟨_, _, _, _, _, _, rfl⟩ := Builder.start_eq_ok.1 h
  exact ⟨hcontinues.head, hcontinues.labels.stem⟩

end Builder
end StoredSql
