import StoredSql.Proofs.BuiltEvents
import StoredSql.Proofs.CursorVisits
import StoredSql.Proofs.DrawnLabels
import StoredSql.Proofs.ProfileLabels

/-!
# Labels that builders generate

A builder draws labels in two ways: where a call opens a loop that has no label, and in the checks
of statements that calls hand over. `Call.generated` tells the labels that a call draws, and
`Builder.ComesTo` those of all that is done with a builder, whether it succeeds or fails. No two of
them are one label, in any case, and each is free when it is drawn, so that no loop is ever refused
over a label that it has not been given (`Builder.generated_never_clash`).
-/

namespace StoredSql

open Check Stepwise

/-! ## Loops without a label -/

section

variable {n : Nesting} {l l' : String} {e : Error}

theorem Nesting.resolveVariable_error {name : String} (h : n.resolveVariable name = .error e) :
    e = .undeclared .variable name := by
  unfold resolveVariable at h
  split at h
  · cases h
  · split at h
    · split at h <;> cases h
      rfl
    · split at h <;> cases h
      rfl

theorem Nesting.resolveAll_error {names : List String} (h : n.resolveAll names = .error e) :
    ∃ name ∈ names, e = .undeclared .variable name := by
  unfold resolveAll at h
  induction names with
  | nil => cases h
  | cons name names ih =>
    change (n.resolveVariable name >>= fun _ => names.forM n.resolveVariable) = _ at h
    rcases hname : n.resolveVariable name with e' | u
    · rw [hname] at h
      cases h
      exact ⟨name, .head _, resolveVariable_error hname⟩
    · rw [hname] at h
      obtain ⟨later, hlater, he⟩ := ih h
      exact ⟨later, .tail _ hlater, he⟩

/-- Where a label is free, a construct is not refused over one that is taken. -/
theorem Nesting.child_ne_labelTwice (kind : ScopeKind) (h : Scope.hasName n.openLabels l = false) :
    n.child kind (some l) ≠ .error (.labelTwice l') := by
  intro hchild
  rcases hl : Identifier.checkLabel l with e | name
  · rw [child_of_label_error kind hl] at hchild
    cases hchild
    unfold Identifier.checkLabel Identifier.checkShownLabel at hl
    split at hl
    · cases hl
    · split at hl <;> cases hl
  · obtain ⟨rfl, _⟩ := Identifier.checkLabel_eq_ok_iff.1 hl
    obtain ⟨scope, hscope, _⟩ := child_of_free kind h hl
    rw [hscope] at hchild
    cases hchild

/-- A construct that gets its label is not refused over it. -/
theorem Checker.child_labelled_ne {label : Option String} (h : Text.nonEmpty label = none)
    (c : Checker) (l : String) :
    (c.labelled label).2.nesting.child .loop (some (c.labelled label).1) ≠
      .error (.labelTwice l) := by
  rw [labelled_nesting]
  refine Nesting.child_ne_labelTwice .loop ?_
  unfold labelled
  rw [h]
  exact c.labels.next_free c.nesting.openLabels

end

/-- A check of a loop without a label that fails over a label does so in what the loop holds. -/
theorem Statement.unlabelled_fails {s : Statement} (hs : s.scopeKind? = some .loop)
    (hlabel : Text.nonEmpty s.label? = none) {c d : Checker} {l : String}
    (h : s.check c = (.error (.labelTwice l), d)) :
    ∃ body u d', s.LeadsTo c 0 body u ∧ checkAll body u = (.error (.labelTwice l), d') := by
  have hchild := Checker.child_labelled_ne hlabel c.noted l
  cases s with
  | loop label body =>
    rcases check_loop_error h with h | ⟨scope, t, hscope, hbody⟩
    · exact absurd h hchild
    · exact ⟨body, _, t, .loop hscope, hbody⟩
  | whileLoop label test body =>
    rcases check_whileLoop_error h with h | ⟨htest, h | ⟨scope, t, hscope, hbody⟩⟩
    · obtain ⟨_, _, he⟩ := Nesting.resolveAll_error h
      cases he
    · exact absurd h hchild
    · exact ⟨body, _, t, .whileLoop htest hscope, hbody⟩
  | repeatLoop label test body =>
    rcases check_repeatLoop_error h with h | ⟨scope, t, hscope, hbody | ⟨_, _, htest⟩⟩
    · exact absurd h hchild
    · exact ⟨body, _, t, .repeatLoop hscope, hbody⟩
    · obtain ⟨_, _, he⟩ := Nesting.resolveAll_error htest
      cases he
  | _ => cases hs

/-! ## Labels that a call draws -/

/-- The labels that are drawn where a loop is opened. -/
def Construct.loopGenerated (label : Operand) : Checker → List String :=
  behind noteStatement fun _ =>
    behind (made ((if label.outline.isFalsy then none else some label).mapM (·.toLabel)))
      fun label c => c.generated label

namespace Builder

/-- The labels that are drawn where a construct is opened. -/
def opensGenerated (labels : Checker → List String) : Builder → List String :=
  behind live fun _ => behind needScope fun _ b => labels b.checker

/-- The labels that are drawn where a statement is added. -/
def addGenerated (s : Statement) : Builder → List String :=
  behind live fun _ => behind (modify fun b => { b with opened := none } : Action Unit) fun _ =>
    behind needScope fun _ b => s.generated b.checker

/-- The labels that are drawn where statements are added one after the other. -/
def addAllGenerated : List Statement → Builder → List String
  | [] => fun _ => []
  | s :: ss => fun b => addGenerated s b ++ behind (add s) (fun _ => addAllGenerated ss) b

end Builder

/-- The labels that a call draws, in order. -/
def Call.generated : Call → Builder → List String
  | .openLoop label | .openRepeat label => Builder.opensGenerated (Construct.loopGenerated label)
  | .openWhile test label => Builder.opensGenerated
    (behind (resolveAll test.variableNames) fun _ => Construct.loopGenerated label)
  | other => Builder.addAllGenerated other.given

theorem Construct.ofLoop_draws (label : Operand) (construct : String → Construct) :
    Check.Draws (loopGenerated label) (ofLoop label construct) :=
  .after (change_draws _) fun _ => .after (ask_draws _) fun label =>
    .before (labelOr_draws label) fun _ => .before (ask_draws _) fun _ =>
      .before (change_draws _) fun _ => pure_draws _

namespace Builder

variable {α : Type} {b b₀ : Builder} {labels : List String}

/-- Where the labels of a builder come from. -/
def source (b : Builder) : LabelSource := b.checker.labels

/-- Whether an action draws the labels that are told of the builder before it. -/
abbrev Draws (labels : Builder → List String) (act : Action α) : Prop := Drawn source labels act

theorem live_draws : Draws (fun _ => []) live := by
  refine drawn_of_eq fun b => ?_
  cases hl : b.consumed with
  | false => rw [live_apply hl]
  | true => rw [live_error hl]

theorem needScope_draws : Draws (fun _ => []) needScope := by
  refine drawn_of_eq fun b => ?_
  cases ht : b.takesStatements with
  | true => rw [needScope_apply ht]
  | false => rw [needScope_error ht]

theorem checking_draws {labels : Checker → List String} {act : Check α}
    (h : Check.Draws labels act) : Draws (fun b => labels b.checker) (checking act) :=
  fun b => h b.checker

theorem modify_draws {f : Builder → Builder} (h : ∀ b, (f b).source = b.source) :
    Draws (fun _ => []) (modify f : Action Unit) :=
  drawn_of_eq h

theorem opens_draws {labels : Checker → List String} {construct : Check Construct}
    (h : Check.Draws labels construct) : Draws (opensGenerated labels) (opens construct) :=
  .after live_draws fun _ => .after needScope_draws fun _ =>
    .before (checking_draws h) fun _ => modify_draws fun _ => rfl

theorem add_draws (s : Statement) : Draws (addGenerated s) (add s) :=
  .after live_draws fun _ => .after (modify_draws fun _ => rfl) fun _ =>
    .after needScope_draws fun _ =>
      .before (checking_draws s.check_draws) fun _ => modify_draws fun _ => rfl

theorem statements_draws (ss : List Statement) : Draws (addAllGenerated ss) (ss.forM add) := by
  induction ss with
  | nil => exact drawn_of_eq fun _ => rfl
  | cons s ss ih => exact (add_draws s).bind fun _ => ih

theorem addMade_draws (r : Except Error Statement) :
    Draws (addAllGenerated r.toOption.toList) (addMade r) := by
  cases r with
  | error e => exact drawn_of_eq fun _ => rfl
  | ok s =>
    have hone : addAllGenerated [s] = addGenerated s :=
      funext fun b => append_behind_nil _ (add s) b
    exact hone ▸ add_draws s

/-- A call that takes no label draws none. -/
theorem labelless_draws {call : Call} (h : call.isLabelless = true) :
    Draws (fun _ => []) (act call) := by
  refine drawn_of_eq fun b => ?_
  have hgoes := perform_goes (Continues.refl (R := Eq) b) call
    fun hcall => absurd (hcall.symm.trans h) Bool.false_ne_true
  exact hgoes.after.labels.symm

/-- **A call draws the labels that are told of it**, whether it succeeds or fails. -/
theorem perform_draws : ∀ call : Call, Draws call.generated (act call)
  | .openLoop _ | .openRepeat _ => opens_draws (Construct.ofLoop_draws _ _)
  | .openWhile _ _ =>
    opens_draws (.after (ask_draws _) fun _ => Construct.ofLoop_draws _ _)
  | .declare _ _ _ | .declareCondition _ _ | .declareCursor _ _ | .declareHandler _ _ _
  | .fetch _ _ | .select _ | .insert _ | .set _ _ _ | .call _ _ | .signal _ _ _
  | .signalState _ _ _ => addMade_draws _
  | .iterate _ | .leave _ | .openCursor _ | .closeCursor _ | .raw _ | .empty =>
    addMade_draws (.ok _)
  | .statements ss => statements_draws ss
  | .openHandler _ _ | .endHandler | .openBlock _ | .endBlock | .close | .openIf _ | .elseIf _
  | .otherwise | .endIf | .openCase _ | .openWhen _ | .endCase | .endLoop | .endWhile
  | .endRepeat _ | .enterBracket | .exitBracket _ => labelless_draws rfl

/-! ## All that is done with a builder -/

/-- The builders that one comes to by calls and by taking the program, whatever succeeds or fails,
with the labels that are drawn on the way. -/
inductive ComesTo (b₀ : Builder) : Builder → List String → Prop
  | here : ComesTo b₀ b₀ []
  | call {b : Builder} {labels : List String} (call : Call) : ComesTo b₀ b labels →
      ComesTo b₀ (b.perform call).2 (labels ++ call.generated b)
  | build {b : Builder} {labels : List String} : ComesTo b₀ b labels →
      ComesTo b₀ b.build.2 labels

theorem build_draws : Draws (fun _ => []) build := by
  refine drawn_of_eq fun b => ?_
  rcases b.build_cases with h | h <;> rw [h]
  rfl

theorem ComesTo.draws (h : b₀.ComesTo b labels) : b₀.source.Draws labels b.source := by
  induction h with
  | here => exact .nil _
  | call call _ ih => exact ih.append (perform_draws call _)
  | @build b labels _ ih =>
    rw [← List.append_nil labels]
    exact ih.append (build_draws b)

theorem ComesTo.trans {b' : Builder} {labels' : List String} (h : b₀.ComesTo b labels)
    (h' : b.ComesTo b' labels') : b₀.ComesTo b' (labels ++ labels') := by
  induction h' with
  | here =>
    rw [List.append_nil]
    exact h
  | call call _ ih =>
    rw [← List.append_assoc]
    exact ih.call call
  | build _ ih => exact ih.build

/-- Calls one after the other lead from a builder to the one that is left. -/
theorem comesTo_run (b : Builder) (calls : List Call) :
    ∃ labels, b.ComesTo (b.run calls) labels := by
  induction calls generalizing b with
  | nil => exact ⟨[], .here⟩
  | cons call calls ih =>
    obtain ⟨labels, hlabels⟩ := ih (b.perform call).2
    exact ⟨_, (ComesTo.here.call call).trans hlabels⟩

/-! ## Calls that open loops without a label -/

end Builder

/-- Whether a call opens a loop that is given no label. -/
def Call.opensUnlabelled : Call → Bool
  | .openLoop label | .openWhile _ label | .openRepeat label => label.outline.isFalsy
  | _ => false

theorem Construct.ofLoop_ne_labelTwice {label : Operand} (construct : String → Construct)
    (h : label.outline.isFalsy = true) (c : Checker) (l : String) :
    (ofLoop label construct c).1 ≠ .error (.labelTwice l) := by
  intro hof
  rcases hlabel : Identifier.checkLabel (c.noted.labelled none).1 with e | name
  · rw [ofLoop_unlabelled_error construct h rfl hlabel] at hof
    cases hof
    exact c.noted.child_labelled_ne rfl l (Nesting.child_of_label_error .loop hlabel)
  · obtain ⟨rfl, _⟩ := Identifier.checkLabel_eq_ok_iff.1 hlabel
    obtain ⟨scope, _, hok⟩ := ofLoop_unlabelled_ok construct h rfl hlabel
    rw [hok] at hof
    cases hof

namespace Builder

variable {b : Builder} {call : Call}

theorem opens_ne_labelTwice {construct : Check Construct} {l : String}
    (h : ∀ c, (construct c).1 ≠ .error (.labelTwice l)) (b : Builder) :
    (opens construct b).1 ≠ .error (.labelTwice l) := by
  intro hopens
  cases hl : b.consumed with
  | true =>
    unfold opens at hopens
    rw [bind_of_error (live_error hl)] at hopens
    cases hopens
  | false =>
    cases ht : b.takesStatements with
    | false =>
      unfold opens at hopens
      rw [bind_of_ok (live_apply hl), bind_of_error (needScope_error ht)] at hopens
      cases hopens
    | true =>
      rcases hk : construct b.checker with ⟨e | k, c⟩
      · rw [opens_error hl ht hk] at hopens
        cases hopens
        exact h b.checker (congrArg Prod.fst hk)
      · rw [opens_ok hl ht hk] at hopens
        cases hopens

/-- A loop that is opened without a label is not refused over its label. -/
theorem perform_unlabelled_ne (h : call.opensUnlabelled = true) (b : Builder) (l : String) :
    (b.perform call).1 ≠ .error (.labelTwice l) := by
  cases call with
  | openLoop label => exact opens_ne_labelTwice (Construct.ofLoop_ne_labelTwice _ h · l) b
  | openRepeat label => exact opens_ne_labelTwice (Construct.ofLoop_ne_labelTwice _ h · l) b
  | openWhile test label =>
    refine opens_ne_labelTwice (fun c hof => ?_) b
    rcases htest : c.nesting.resolveAll test.variableNames with e | u
    · rw [bind_of_error (resolveAll_eq.2 ⟨htest, rfl⟩)] at hof
      obtain ⟨_, _, rfl⟩ := Nesting.resolveAll_error htest
      cases hof
    · rw [bind_of_ok (resolveAll_eq.2 ⟨htest, rfl⟩)] at hof
      exact Construct.ofLoop_ne_labelTwice _ h c l hof
  | _ => cases h

/-- **Generated labels never clash.** From each source, and whatever names are taken, the search for
a label ends after at most one step more than there are taken names, with the next label, which is
free. The labels that are drawn in all that is done with a builder, whether it succeeds or fails,
are drawn from its source one after the other, and no two of them are one label, in any case. So no
loop without a label is refused over the label that it gets: neither one that a call opens nor one
in a statement that is handed over, whose check may only fail so over labels further in. -/
theorem generated_never_clash :
    (∀ (source : LabelSource) (taken : List String),
      (∃ steps ≤ (taken.map Text.lower).dedup.length + 1,
        ∀ n r, LabelSource.Searches taken source n r ↔ n = steps ∧ r = source.next taken) ∧
      Scope.hasName taken (source.next taken).1 = false) ∧
    (∀ (b₀ b : Builder) (labels : List String), b₀.ComesTo b labels →
      b₀.source.Draws labels b.source ∧
      labels.Pairwise fun l l' => Text.sameName l l' = false) ∧
    (∀ (b : Builder) (call : Call) (l : String), call.opensUnlabelled = true →
      (b.perform call).1 ≠ .error (.labelTwice l)) ∧
    ∀ (s : Statement) (c d : Checker) (l : String), s.scopeKind? = some .loop →
      Text.nonEmpty s.label? = none → s.check c = (.error (.labelTwice l), d) →
      ∃ body u d', s.LeadsTo c 0 body u ∧
        Statement.checkAll body u = (.error (.labelTwice l), d') := by
  refine ⟨fun source taken => ⟨source.searches_next taken, source.next_free taken⟩, ?_, ?_, ?_⟩
  · intro b₀ b labels h
    exact ⟨h.draws, h.draws.different⟩
  · intro b call l h
    exact perform_unlabelled_ne h b l
  · intro s c d l hs hlabel h
    exact Statement.unlabelled_fails hs hlabel h

/-- A loop without a label around one that has the label which the first one gets. -/
def refusedLoop : Call := .statements [.loop none [.loop (some "LOOP_2") [.leave "loop_1"]]]

/-- The label that a refused loop has drawn is not drawn again. -/
theorem refusedLoop_labels : ∃ b labels,
    emptyBuilder.ComesTo b labels ∧ labels = ["loop_1", "loop_2", "loop_3"] ∧
      ((emptyBuilder.run [.openLoop (.value .null)]).perform refusedLoop).1 =
        .error (.labelTwice "LOOP_2") ∧
      labels.Pairwise fun l l' => Text.sameName l l' = false := by
  have hhere : emptyBuilder.ComesTo emptyBuilder [] := .here
  have hcomes := ((hhere.call (.openLoop (.value .null))).call refusedLoop).call
    (.openRepeat (.value .null))
  refine ⟨_, _, hcomes, ?_, ?_, (generated_never_clash.2.1 _ _ _ hcomes).2⟩
  · decide +kernel
  · decide +kernel

end Builder
end StoredSql
