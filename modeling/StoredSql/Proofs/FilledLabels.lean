import StoredSql.Proofs.BuiltPrograms
import StoredSql.Proofs.Declarations
import StoredSql.Proofs.LoopLabels

/-!
# What a check fills in

A check gives a statement back with labels for the loops that have none, and with nothing else
changed (`Statement.Filled`). A statement that a builder has added is therefore added once more as
it is: it takes no label, and it leaves the same names, phases and states (`added_again`).
-/

namespace StoredSql

open Check Stepwise

/-! ## Labels filled in -/

/-- A loop has the label that was given to it, or one that has the property if none was given. -/
inductive FilledLabel (P : String → Prop) : Option String → String → Prop
  | given {label : Option String} {l : String} : Text.nonEmpty label = some l →
      FilledLabel P label l
  | found {label : Option String} {l : String} : Text.nonEmpty label = none → P l →
      FilledLabel P label l

mutual

/-- The same statement, but for labels that have the property in loops that had none. What a block
tells of the names that are visible where it begins does not count. -/
inductive Statement.Filled (P : String → Prop) : Statement → Statement → Prop
  | same {s : Statement} : s.scopeKind? = none → Statement.Filled P s s
  | declareHandler (action : HandlerAction) (conditions : List ConditionValue)
      {body body' : Statement} : Statement.Filled P body body' →
      Statement.Filled P (.declareHandler action conditions body)
        (.declareHandler action conditions body')
  | block (label : Option String) (view view' : Option ScopeView) {ss ss' : List Statement} :
      Statement.AllFilled P ss ss' →
      Statement.Filled P (.block ⟨ss, label, view⟩) (.block ⟨ss', label, view'⟩)
  | ifElse {branches branches' : List IfBranch} {otherwise otherwise' : Option (List Statement)} :
      IfBranch.AllFilled P branches branches' → Statement.ElseFilled P otherwise otherwise' →
      Statement.Filled P (.ifElse branches otherwise) (.ifElse branches' otherwise')
  | cases (operand : Option Expr) {whens whens' : List CaseWhen}
      {otherwise otherwise' : Option (List Statement)} :
      CaseWhen.AllFilled P whens whens' → Statement.ElseFilled P otherwise otherwise' →
      Statement.Filled P (.cases operand whens otherwise) (.cases operand whens' otherwise')
  | loop {label : Option String} {l : String} {body body' : List Statement} :
      FilledLabel P label l → Statement.AllFilled P body body' →
      Statement.Filled P (.loop label body) (.loop (some l) body')
  | whileLoop {label : Option String} {l : String} (test : Condition)
      {body body' : List Statement} : FilledLabel P label l → Statement.AllFilled P body body' →
      Statement.Filled P (.whileLoop label test body) (.whileLoop (some l) test body')
  | repeatLoop {label : Option String} {l : String} (test : Condition)
      {body body' : List Statement} : FilledLabel P label l → Statement.AllFilled P body body' →
      Statement.Filled P (.repeatLoop label test body) (.repeatLoop (some l) test body')

inductive Statement.AllFilled (P : String → Prop) : List Statement → List Statement → Prop
  | nil : Statement.AllFilled P [] []
  | cons {s s' : Statement} {ss ss' : List Statement} : Statement.Filled P s s' →
      Statement.AllFilled P ss ss' → Statement.AllFilled P (s :: ss) (s' :: ss')

inductive Statement.ElseFilled (P : String → Prop) :
    Option (List Statement) → Option (List Statement) → Prop
  | none : Statement.ElseFilled P none none
  | some {ss ss' : List Statement} : Statement.AllFilled P ss ss' →
      Statement.ElseFilled P (some ss) (some ss')

inductive IfBranch.AllFilled (P : String → Prop) : List IfBranch → List IfBranch → Prop
  | nil : IfBranch.AllFilled P [] []
  | cons (test : Condition) {body body' : List Statement} {rest rest' : List IfBranch} :
      Statement.AllFilled P body body' → IfBranch.AllFilled P rest rest' →
      IfBranch.AllFilled P (⟨test, body⟩ :: rest) (⟨test, body'⟩ :: rest')

inductive CaseWhen.AllFilled (P : String → Prop) : List CaseWhen → List CaseWhen → Prop
  | nil : CaseWhen.AllFilled P [] []
  | cons (test : Expr) {body body' : List Statement} {rest rest' : List CaseWhen} :
      Statement.AllFilled P body body' → CaseWhen.AllFilled P rest rest' →
      CaseWhen.AllFilled P (⟨test, body⟩ :: rest) (⟨test, body'⟩ :: rest')

end

/-- Labels do not change where a statement has its place. -/
theorem Statement.Filled.phase? {P : String → Prop} {s s' : Statement} (h : s.Filled P s') :
    s'.phase? = s.phase? := by
  cases h <;> rfl

/-! ## Generated labels -/

/-- Whether a label is generated between two checkers, from one of the numbers that only the later
one has used. -/
def Checker.Generates (c c' : Checker) (l : String) : Prop :=
  ∃ n, c.labels.last < n ∧ n ≤ c'.labels.last ∧ l = LabelSource.label c.labels.stem n

section

variable {c₀ c₁ c c' : Checker}

/-- The label that a loop gets is its own one, or a generated one. -/
theorem filledLabel_labelled (label : Option String) (h₀ : c₀.labels.MovesOn c.labels)
    (h₁ : (c.labelled label).2.labels.MovesOn c₁.labels) :
    FilledLabel (c₀.Generates c₁) label (c.labelled label).1 := by
  unfold Checker.labelled at h₁ ⊢
  cases hl : Text.nonEmpty label with
  | some l => exact .given hl
  | none =>
    simp only [hl] at h₁ ⊢
    refine .found hl ⟨_, ?_, h₁.last, congrArg (LabelSource.label · _) h₀.stem⟩
    exact Nat.lt_of_le_of_lt h₀.last (c.labels.lt_next c.nesting.openLabels)

open Statement

/-- Where a loop is checked, its label is filled in, and then its statements are checked. -/
theorem filled_loop {label : Option String} {scope : Scope} {body body' : List Statement}
    {t : Checker} (h₀ : c₀.labels.MovesOn c.labels) (h₁ : t.left.labels.MovesOn c₁.labels)
    (hbody : checkAll body ((c.labelled label).2.entered scope) = (.ok body', t)) :
    FilledLabel (c₀.Generates c₁) label (c.labelled label).1 ∧
      c₀.labels.MovesOn ((c.labelled label).2.entered scope).labels := by
  have hlabel := c.labelled_movesOn label
  have hbody' := (checkAll_labels body fun s _ => s.everywhere_movesOn).apply hbody
  exact ⟨filledLabel_labelled label h₀ (Trans.trans hbody' h₁), Trans.trans h₀ hlabel⟩

mutual

/-- **A check fills labels in, and does nothing else to a statement.** The labels are generated
between any checkers before and after the check. -/
theorem Statement.check_filled (s : Statement) {s' : Statement} {c c' : Checker}
    (h : s.check c = (.ok s', c')) (h₀ : c₀.labels.MovesOn c.labels)
    (h₁ : c'.labels.MovesOn c₁.labels) : s.Filled (c₀.Generates c₁) s' := by
  cases s with
  | declareHandler action conditions body =>
    obtain ⟨t, u, body', v, ht, hu, hbody, rfl, rfl⟩ := check_declareHandler_ok.1 h
    obtain ⟨_, rfl⟩ := ask_eq.1 hu
    have ht' : c.labels.MovesOn t.labels := (declare_labels _).apply ht
    exact .declareHandler action conditions (body.check_filled hbody (Trans.trans h₀ ht') h₁)
  | block b =>
    obtain ⟨ss, label, view⟩ := b
    obtain ⟨b', hb, rfl⟩ := check_block_ok.1 h
    obtain ⟨scope, ss', t, hscope, hss, rfl, rfl⟩ := Block.check_ok.1 hb
    exact .block label view _ (Statement.checkAll_filled ss hss h₀ h₁)
  | loop label body =>
    obtain ⟨scope, body', t, hscope, hbody, rfl, rfl⟩ := check_loop_ok.1 h
    obtain ⟨hlabel, hinside⟩ := filled_loop (c := c.noted) h₀ h₁ hbody
    exact .loop hlabel (Statement.checkAll_filled body hbody hinside h₁)
  | whileLoop label test body =>
    obtain ⟨_, scope, body', t, hscope, hbody, rfl, rfl⟩ := check_whileLoop_ok.1 h
    obtain ⟨hlabel, hinside⟩ := filled_loop (c := c.noted) h₀ h₁ hbody
    exact .whileLoop test hlabel (Statement.checkAll_filled body hbody hinside h₁)
  | repeatLoop label test body =>
    obtain ⟨scope, body', t, hscope, hbody, _, rfl, rfl⟩ := check_repeatLoop_ok.1 h
    obtain ⟨hlabel, hinside⟩ := filled_loop (c := c.noted) h₀ h₁ hbody
    exact .repeatLoop test hlabel (Statement.checkAll_filled body hbody hinside h₁)
  | ifElse branches otherwise =>
    obtain ⟨branches', outcomes, t, otherwise', outcome, u, hbranches, helse, rfl, rfl⟩ :=
      check_ifElse_ok.1 h
    have ht := (IfBranch.checkAll_labels _ branches fun _ _ s _ => s.everywhere_movesOn).apply
      hbranches
    have hu := (checkElse_labels _ otherwise fun _ _ s _ => s.everywhere_movesOn).apply helse
    exact .ifElse (IfBranch.checkAll_filled branches hbranches h₀ (Trans.trans hu h₁))
      (Statement.checkElse_filled otherwise helse (Trans.trans h₀ ht) h₁)
  | cases operand whens otherwise =>
    obtain ⟨_, whens', outcomes, t, otherwise', outcome, u, hwhens, helse, rfl, rfl⟩ :=
      check_cases_ok.1 h
    have ht := (CaseWhen.checkAll_labels _ whens fun _ _ s _ => s.everywhere_movesOn).apply hwhens
    have hu := (checkElse_labels _ otherwise fun _ _ s _ => s.everywhere_movesOn).apply helse
    exact .cases operand (CaseWhen.checkAll_filled whens hwhens h₀ (Trans.trans hu h₁))
      (Statement.checkElse_filled otherwise helse (Trans.trans h₀ ht) h₁)
  | _ =>
    obtain rfl := check_leaf rfl h
    exact .same rfl

theorem Statement.checkAll_filled (ss : List Statement) {ss' : List Statement} {c c' : Checker}
    (h : Statement.checkAll ss c = (.ok ss', c')) (h₀ : c₀.labels.MovesOn c.labels)
    (h₁ : c'.labels.MovesOn c₁.labels) : Statement.AllFilled (c₀.Generates c₁) ss ss' := by
  cases ss with
  | nil =>
    cases h
    exact .nil
  | cons s ss =>
    obtain ⟨s', t, rest, hs, hss, rfl⟩ := checkAll_cons_ok.1 h
    have hs' := (check_labels s s.everywhere_movesOn).apply hs
    have hss' := (checkAll_labels ss fun s _ => s.everywhere_movesOn).apply hss
    exact .cons (s.check_filled hs h₀ (Trans.trans hss' h₁))
      (Statement.checkAll_filled ss hss (Trans.trans h₀ hs') h₁)

theorem Statement.checkElse_filled (otherwise : Option (List Statement))
    {before : List CursorState} {r : Option (List Statement) × List CursorState}
    {c c' : Checker} (h : Statement.checkElse before otherwise c = (.ok r, c'))
    (h₀ : c₀.labels.MovesOn c.labels) (h₁ : c'.labels.MovesOn c₁.labels) :
    Statement.ElseFilled (c₀.Generates c₁) otherwise r.1 := by
  cases otherwise with
  | none =>
    cases h
    exact .none
  | some body =>
    obtain ⟨body', t, hbody, rfl, rfl⟩ := checkElse_some_ok.1 h
    exact .some (Statement.checkAll_filled body hbody h₀ h₁)

theorem IfBranch.checkAll_filled (branches : List IfBranch) {before : List CursorState}
    {r : List IfBranch × List (List CursorState)} {c c' : Checker}
    (h : IfBranch.checkAll before branches c = (.ok r, c')) (h₀ : c₀.labels.MovesOn c.labels)
    (h₁ : c'.labels.MovesOn c₁.labels) : IfBranch.AllFilled (c₀.Generates c₁) branches r.1 := by
  cases branches with
  | nil =>
    cases h
    exact .nil
  | cons branch rest =>
    obtain ⟨test, body⟩ := branch
    obtain ⟨_, body', t, rest', outcomes, hbody, hrest, rfl⟩ := IfBranch.checkAll_cons_ok.1 h
    have hbody' := (checkAll_labels body fun s _ => s.everywhere_movesOn).apply hbody
    have hrest' := (IfBranch.checkAll_labels _ rest fun _ _ s _ => s.everywhere_movesOn).apply hrest
    exact .cons test (Statement.checkAll_filled body hbody h₀ (Trans.trans hrest' h₁))
      (IfBranch.checkAll_filled rest hrest (Trans.trans h₀ hbody') h₁)

theorem CaseWhen.checkAll_filled (whens : List CaseWhen) {before : List CursorState}
    {r : List CaseWhen × List (List CursorState)} {c c' : Checker}
    (h : CaseWhen.checkAll before whens c = (.ok r, c')) (h₀ : c₀.labels.MovesOn c.labels)
    (h₁ : c'.labels.MovesOn c₁.labels) : CaseWhen.AllFilled (c₀.Generates c₁) whens r.1 := by
  cases whens with
  | nil =>
    cases h
    exact .nil
  | cons arm rest =>
    obtain ⟨test, body⟩ := arm
    obtain ⟨_, body', t, rest', outcomes, hbody, hrest, rfl⟩ := CaseWhen.checkAll_cons_ok.1 h
    have hbody' := (checkAll_labels body fun s _ => s.everywhere_movesOn).apply hbody
    have hrest' := (CaseWhen.checkAll_labels _ rest fun _ _ s _ => s.everywhere_movesOn).apply hrest
    exact .cons test (Statement.checkAll_filled body hbody h₀ (Trans.trans hrest' h₁))
      (CaseWhen.checkAll_filled rest hrest (Trans.trans h₀ hbody') h₁)

end

end

/-! ## Once more -/

namespace Scope

theorem eq_of_phaseless {r s : Scope} (h : r.phaseless = s.phaseless) (hphase : r.phase = s.phase) :
    r = s := by
  have hr : r = { r.phaseless with phase := r.phase } := rfl
  rw [hr, h, hphase]
  rfl

theorem eq_of_phaseless_stateless {rs ss : List Scope}
    (h : rs.map phaseless = ss.map phaseless) (h' : rs.map stateless = ss.map stateless) :
    rs = ss := by
  induction rs generalizing ss with
  | nil => exact (List.map_eq_nil_iff.1 h.symm).symm
  | cons r rs ih =>
    cases ss with
    | nil => cases h
    | cons s ss =>
      obtain ⟨hr, hrs⟩ := List.cons.inj h
      obtain ⟨hr', hrs'⟩ := List.cons.inj h'
      rw [eq_of_phaseless hr (congrArg (·.phase) hr' : r.stateless.phase = s.stateless.phase),
        ih hrs hrs']

end Scope

/-- Scopes are told by what they have besides phases, by the phase of the innermost one, and by what
those around it have besides states. -/
theorem Nesting.eq_of_phaseless {m n : Nesting} (h : m.phaseless = n.phaseless)
    (hphase : m.inner.phase = n.inner.phase)
    (houter : m.outer.map Scope.stateless = n.outer.map Scope.stateless) : m = n := by
  obtain ⟨hinner, hrest⟩ := Nesting.mk.inj h
  exact congrArg₂ Nesting.mk (Scope.eq_of_phaseless hinner hphase)
    (Scope.eq_of_phaseless_stateless hrest houter)

/-- What a check has given back leaves the same names, phases and states when it is checked again
from the same scopes, and it takes no label. -/
theorem Statement.check_once_more {s s' : Statement} {c c' d : Checker}
    (h : s.check c = (.ok s', c')) (hd : d.nesting = c.nesting) :
    s'.check d = (.ok s', ⟨c'.nesting, d.labels⟩) := by
  have hearlier : d.Earlier c := (Checker.Earlier.refl c).of_nesting hd
  obtain ⟨d', h', hd', hlabels⟩ := s.check_again h hearlier
  have hfilled := s.check_filled h (Std.Refl.refl c.labels) (Std.Refl.refl c'.labels)
  have hphase : d'.nesting.inner.phase = c'.nesting.inner.phase := by
    rw [check_phase h', check_phase h, hd]
    unfold Scope.phaseAfter
    rw [hfilled.phase?]
  have houter : d'.nesting.outer.map Scope.stateless = c'.nesting.outer.map Scope.stateless := by
    rw [((check_onward s').apply h').outer, ((check_onward s).apply h).outer, hd]
  have hnesting := Nesting.eq_of_phaseless hd'.phaseless hphase houter
  rw [h']
  exact congrArg (Prod.mk _) (congrArg₂ Checker.mk hnesting hlabels)

/-- The builder with labels that come from elsewhere. -/
def Builder.withLabels (b : Builder) (labels : LabelSource) : Builder :=
  { b with checker := { b.checker with labels } }

/-- **What is added can be added once more.** A statement that is added has labels filled in and
nothing else changed. Wherever labels come from, it would be added as it is, with no label taken,
and the builder would be the one that there is but for the source of labels. -/
theorem added_again {b b' : Builder} {s : Statement}
    (h : b.perform (.statements [s]) = (.ok (), b')) :
    ∃ s', b'.inner.statements = b.inner.statements ++ [s'] ∧
      s.Filled (b.checker.Generates b'.checker) s' ∧
      ∀ labels, (b.withLabels labels).perform (.statements [s']) =
        (.ok (), b'.withLabels labels) := by
  obtain ⟨_, b₁, hadd, hb₁⟩ := bind_ok.1 h
  cases hb₁
  obtain ⟨hl, ht, s', c, hs, rfl⟩ := Builder.added_of_add hadd
  refine ⟨s', rfl, s.check_filled hs (Std.Refl.refl _) (Std.Refl.refl _), fun labels => ?_⟩
  have hagain := Statement.check_once_more (d := (b.withLabels labels).checker) hs rfl
  have hl' : (b.withLabels labels).consumed = false := hl
  have ht' : (b.withLabels labels).takesStatements = true := ht
  exact Builder.perform_statement (Builder.add_ok hl' ht' hagain)

/-- A block that declares a cursor, with a loop that has no label around one that has its own. -/
def unlabelledLoop : Statement := .block ⟨[
  .declareCursor "c" { items := [⟨.literal (.int 1), none⟩] },
  .loop none [.openCursor "c", .loop (some "inside") [.leave "inside"], .closeCursor "c"]],
  none, none⟩

/-- The loop gets a label, and no other one where the block is added to a later builder. -/
theorem unlabelledLoop_again : ∃ b' s',
    emptyBuilder.perform (.statements [unlabelledLoop]) = (.ok (), b') ∧
      b'.inner.statements = [s'] ∧
      unlabelledLoop.Filled (emptyBuilder.checker.Generates b'.checker) s' ∧
      (emptyBuilder.withLabels ⟨"loop", 7⟩).perform (.statements [s']) =
        (.ok (), b'.withLabels ⟨"loop", 7⟩) := by
  have hok : (emptyBuilder.perform (.statements [unlabelledLoop])).1.isOk = true := by
    decide +kernel
  rcases h : emptyBuilder.perform (.statements [unlabelledLoop]) with ⟨e | u, b'⟩
  · rw [h] at hok
    cases hok
  · obtain ⟨s', hstatements, hfilled, hagain⟩ := added_again h
    exact ⟨b', s', rfl, hstatements, hfilled, hagain ⟨"loop", 7⟩⟩

end StoredSql
