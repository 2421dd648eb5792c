import StoredSql.Proofs.BuiltLabels
import StoredSql.Proofs.BuiltNames

/-!
# Views that blocks bear

Each block of a program that a builder gives bears a view of its start (`built_views`): the labels
around it, outermost first, which a `LEAVE` there may name, and the variables that are declared before
it in the blocks around it, each once, as the innermost declaration spells it, in the order of their
lower case (`ScopeView.IsAt`).

There are two exceptions. A handler hides the labels around it from a `LEAVE` (`Marks.leavable`), but
the views inside of it have them. And the block that a call opens with its handler bears the view of
its end, with its own variables.
-/

namespace StoredSql

open Check Stepwise

/-! ## Variables of a view -/

/-- Whether a list has each of the names once, as the first of its kind spells it, in the order of
their lower case. -/
structure Lists (list names : List String) : Prop where
  sorted : list.Pairwise fun a b => Text.lower a < Text.lower b
  mem : ∀ x, x ∈ list ↔ ∃ as bs, names = as ++ x :: bs ∧ Scope.hasName as x = false

namespace Nesting

theorem mem_firstSpellings {names : List String} {x : String} :
    x ∈ firstSpellings names ↔
      ∃ as bs, names = as ++ x :: bs ∧ Scope.hasName as x = false := by
  induction names with
  | nil =>
    constructor
    · nofun
    · rintro ⟨as, bs, h, _⟩
      cases as <;> cases h
  | cons name names ih =>
    rw [firstSpellings, List.mem_cons, List.mem_filter, ih]
    constructor
    · rintro (rfl | ⟨⟨as, bs, rfl, has⟩, hname⟩)
      · exact ⟨[], names, rfl, rfl⟩
      · refine ⟨name :: as, bs, rfl, Bool.or_eq_false_iff.2 ⟨?_, has⟩⟩
        rw [Text.sameName_comm]
        exact Bool.not_eq_true' _ ▸ hname
    · rintro ⟨as, bs, h, has⟩
      cases as with
      | nil => exact .inl (List.cons.inj h).1.symm
      | cons a as =>
        obtain ⟨rfl, rfl⟩ := List.cons.inj h
        obtain ⟨ha, has⟩ := Bool.or_eq_false_iff.1 has
        refine .inr ⟨⟨as, bs, rfl, has⟩, ?_⟩
        rw [Text.sameName_comm, ha]
        rfl

theorem firstSpellings_different (names : List String) :
    (firstSpellings names).Pairwise fun a b => Text.lower a ≠ Text.lower b := by
  induction names with
  | nil => exact .nil
  | cons name names ih =>
    refine List.pairwise_cons.2 ⟨fun other hother hsame => ?_, ih.filter _⟩
    have hnot := (List.mem_filter.1 hother).2
    rw [Text.sameName_iff.2 hsame] at hnot
    cases hnot

/-- The variables that are visible are those of the scopes, innermost first. -/
theorem visibleVariables_lists (n : Nesting) :
    Lists n.visibleVariables (n.scopes.flatMap (·.variableNames)) where
  sorted := by
    unfold visibleVariables
    refine List.Pairwise.imp₂ ?strict (List.pairwise_mergeSort ?trans ?total _)
      ((List.mergeSort_perm _ _).symm.pairwise (firstSpellings_different _) Ne.symm)
    case trans =>
      intro a b c hab hbc
      exact decide_eq_true (String.le_trans (of_decide_eq_true hab) (of_decide_eq_true hbc))
    case total =>
      intro a b
      rw [Bool.or_eq_true, decide_eq_true_eq, decide_eq_true_eq]
      exact String.le_total _ _
    case strict =>
      intro a b hle hne
      exact String.not_le.1 fun hge => hne (String.le_antisymm (of_decide_eq_true hle) hge)
  mem x := List.mem_mergeSort.trans mem_firstSpellings

end Nesting

/-! ## Labels of a view -/

/-- The labels that a `LEAVE` may name in some scopes, innermost first. A handler hides those around
it. -/
def Marks.leavable : Marks → List String
  | [] => []
  | (kind, label) :: marks => label.toList ++ if kind = some .handler then [] else leavable marks

namespace Marks

variable {marks : Marks}

/-- The labels that a `LEAVE` may name are the innermost ones. -/
theorem leavable_prefix (marks : Marks) : marks.leavable <+: marks.filterMap (·.2) := by
  induction marks with
  | nil => exact List.prefix_rfl
  | cons m marks ih =>
    obtain ⟨kind, label⟩ := m
    have hlabels : ((kind, label) :: marks : Marks).filterMap (·.2) =
        label.toList ++ marks.filterMap (·.2) := by cases label <;> rfl
    rw [hlabels, leavable, List.prefix_append_right_inj]
    split
    · exact List.nil_prefix
    · exact ih

/-- Where no handler is around, a `LEAVE` may name all labels. -/
theorem leavable_eq (h : ∀ m ∈ marks, m.1 ≠ some .handler) :
    marks.leavable = marks.filterMap (·.2) := by
  induction marks with
  | nil => rfl
  | cons m marks ih =>
    obtain ⟨kind, label⟩ := m
    obtain ⟨hkind, hmarks⟩ := List.forall_mem_cons.1 h
    have hlabels : ((kind, label) :: marks : Marks).filterMap (·.2) =
        label.toList ++ marks.filterMap (·.2) := by cases label <;> rfl
    rw [hlabels, leavable, if_neg hkind, ih hmarks]

/-- A scope without a label around all the others does not count. -/
theorem leavable_append (marks : Marks) (kind : Option ScopeKind) :
    (marks ++ [(kind, none)] : Marks).leavable = marks.leavable := by
  induction marks with
  | nil =>
    show [] ++ (if kind = some .handler then [] else []) = _
    rw [ite_self]
    rfl
  | cons m marks ih =>
    obtain ⟨k, label⟩ := m
    show label.toList ++ (if k = some .handler then [] else leavable (marks ++ [(kind, none)])) = _
    rw [ih]
    rfl

end Marks

theorem Nesting.findLabel_isSome (l : String) (ss : List Scope) :
    (findLabel l ss).isSome =
      Scope.hasName (Marks.leavable (ss.map fun s => (some s.kind, s.label))) l := by
  induction ss with
  | nil => rfl
  | cons s ss ih =>
    have hlabel : Scope.hasName s.label.toList l = s.label.any (Text.sameName l) := by
      cases s.label <;> simp [Scope.hasName]
    rw [findLabel, List.map_cons, Marks.leavable, Scope.hasName, List.any_append,
      ← Scope.hasName, hlabel]
    cases s.label.any (Text.sameName l) with
    | true => rfl
    | false =>
      rw [if_neg Bool.false_ne_true, Bool.false_or]
      by_cases hkind : s.kind = .handler
      · rw [if_pos hkind, if_pos (congrArg some hkind)]
        rfl
      · rw [if_neg hkind, if_neg fun h => hkind (Option.some.inj h), ih]
        rfl

/-- **What a `LEAVE` may name** are the labels of the scopes around it up to a handler. -/
theorem leave_isOk (c : Checker) (l : String) :
    ((Statement.leave l).check c).1.isOk = Scope.hasName c.marks.leavable l := by
  have hmarks : c.marks = c.noted.nesting.scopes.map fun s => (some s.kind, s.label) :=
    c.moves_noted.onward.marks.symm
  rw [hmarks, ← Nesting.findLabel_isSome, Statement.check, noteStatement_bind]
  cases hfound : Nesting.findLabel l c.noted.nesting.scopes with
  | none =>
    have htarget : leaveTarget l c.noted = (.error (.unresolvedLabel l), c.noted) :=
      ask_eq.2 ⟨by rw [hfound], rfl⟩
    rw [bind_of_error htarget]
    rfl
  | some s =>
    have htarget : leaveTarget l c.noted = (.ok (), c.noted) := ask_eq.2 ⟨by rw [hfound], rfl⟩
    rw [bind_of_ok htarget]
    rfl

/-! ## Views of blocks -/

/-- Whether a view is that of a place: its labels are those of the scopes there, outermost first, and
its variables have the names that are declared there, given innermost first. -/
structure ScopeView.IsAt (view : ScopeView) (marks : Marks) (names : List String) : Prop where
  labels : view.labels = (marks.filterMap (·.2)).reverse
  variableNames : Lists view.variableNames names

/-- Whether the innermost scope is that of a handler. -/
def Marks.InHandler (marks : Marks) : Prop :=
  ∃ label beyond, marks = (some .handler, label) :: beyond

variable {Q : List Statement → Prop} {c c' d : Checker} {ss : List Statement} {s : Statement}

variable (Q) in
/-- Whether a block bears the view of its start, from the scopes and the names that are declared
around it. The block of a handler may bear that of its end, if it has the statements for it. -/
def Block.Bears (marks : Marks) (names : List String) (b : Block) : Prop :=
  ∃ view own, b.scope = some view ∧ view.IsAt ((some .block, b.label) :: marks) (own ++ names) ∧
    (own = [] ∨ marks.InHandler ∧ own = b.statements.flatMap (·.declared .var) ∧ Q b.statements)

namespace Checker

theorem view_isAt (c : Checker) :
    c.nesting.view.IsAt c.marks (c.nesting.scopes.flatMap (·.variableNames)) where
  labels := congrArg List.reverse c.filterMap_marks.symm
  variableNames := c.nesting.visibleVariables_lists

/-- Variables do not depend on the states of cursors. -/
theorem variableNames_of_stateless {ss ts : List Scope}
    (h : ss.map Scope.stateless = ts.map Scope.stateless) :
    ss.flatMap (·.variableNames) = ts.flatMap (·.variableNames) := by
  have hstateless : ∀ us : List Scope, us.flatMap (·.variableNames) =
      (us.map Scope.stateless).flatMap (·.variableNames) := by
    intro us
    rw [List.flatMap_map]
    rfl
  rw [hstateless, h, ← hstateless]

/-- The variables around a place inside of statements: those that are declared before it in blocks
around it, and those outside, innermost first. -/
def around (c : Checker) (before : List Statement) (levels : List Level) : List String :=
  levels.flatMap (·.declared .var) ++ (before.flatMap (·.declared .var) ++
    c.nesting.outer.flatMap (·.variableNames))

theorem Onward.around (h : c.Onward c') (before : List Statement) (levels : List Level) :
    c'.around before levels = c.around before levels := by
  unfold Checker.around
  rw [variableNames_of_stateless h.outer]

/-- Outside a scope there are the variables that are declared around it. -/
theorem Inside.outside {kind : ScopeKind} {label : Option String} (h : c.Inside kind label d)
    (hss : NamesDeclared c ss) : d.nesting.outer.flatMap (·.variableNames) = c.around ss [] :=
  (variableNames_of_stateless h.around).trans
    (congrArg (· ++ c.nesting.outer.flatMap (·.variableNames)) (hss.names .var))

/-- What is visible in a scope inside. -/
theorem Inside.view_isAt {kind : ScopeKind} {label : Option String} (h : c.Inside kind label d)
    (hss : NamesDeclared c ss) : d.nesting.view.IsAt ((some kind, label) :: c.marks)
      (d.nesting.inner.variableNames ++ c.around ss []) := by
  rw [← h.outside hss, ← h.marks]
  exact d.view_isAt

/-- A block that bears the view of its start. -/
theorem Begins.bears {b : Block} (h : c.Begins (.block b)) (hss : NamesDeclared c ss) :
    b.Bears Q c.marks (c.around ss []) := by
  obtain ⟨d, hd, hbare, hview⟩ := h b rfl
  have hat := hd.view_isAt hss
  rw [hbare] at hat
  exact ⟨_, [], hview, hat, .inl rfl⟩

/-- The block of a handler that bears the view of its end. -/
theorem Inside.bears {body : List Statement} (hkind : c.nesting.inner.kind = .handler)
    (h : c.Inside .block none d) (hss : NamesDeclared c ss) (hbody : NamesDeclared d body)
    (hQ : Q body) :
    Block.Bears Q c.marks (c.around ss []) ⟨body, none, some d.nesting.view⟩ := by
  have hown : d.nesting.inner.variableNames = body.flatMap (·.declared .var) := hbody.names .var
  have hat := h.view_isAt hss
  rw [hown] at hat
  have hhandler : c.marks.InHandler :=
    ⟨c.nesting.inner.label, c.nesting.outer.map fun s => (some s.kind, s.label), by
      rw [← hkind]
      rfl⟩
  exact ⟨_, _, rfl, hat, .inr ⟨hhandler, rfl, hQ⟩⟩

end Checker

/-! ## Checks -/

variable (Q) in
/-- Whether the names of a place are declared, and the blocks there bear views. -/
structure Viewed (c : Checker) (ss : List Statement) : Prop extends NamesDeclared c ss where
  views : ∀ before s after, ss = before ++ s :: after → ∀ levels b, Stands s levels (.block b) →
    b.Bears Q (levels.map (·.mark) ++ c.marks) (c.around before levels)

theorem Checker.Takes.imp {P P' : Checker → List Statement → Prop} {k : ScopeKind}
    (h : c.Takes P s k) (hP : ∀ {d body}, P d body → P' d body) : c.Takes P' s k where
  kind := h.kind
  receives := h.receives
  labelled := h.labelled
  tests := h.tests
  handles := h.handles
  held body hbody :=
    let ⟨d, hd, hholds⟩ := h.held body hbody
    ⟨d, hd, hP hholds⟩

namespace Viewed

theorem moves (h : c.Moves c') (hss : Viewed Q c ss) : Viewed Q c' ss where
  toNamesDeclared := hss.toNamesDeclared.moves h
  views before s after heq levels b hb := by
    rw [h.onward.marks, h.onward.around]
    exact hss.views before s after heq levels b hb

/-- One more statement. -/
theorem append (h : Viewed Q c ss) (hc : c.Onward c') (hnames : NamesDeclared c' (ss ++ [s]))
    (hs : ∀ levels b, Stands s levels (.block b) →
      b.Bears Q (levels.map (·.mark) ++ c.marks) (c.around ss levels)) :
    Viewed Q c' (ss ++ [s]) where
  toNamesDeclared := hnames
  views := by
    intro before t after heq levels b hb
    rw [hc.marks, hc.around]
    rcases split_of_concat heq with ⟨rfl, rfl⟩ | ⟨after, rfl⟩
    · exact hs levels b hb
    · exact h.views before t after rfl levels b hb

theorem fresh {kind : ScopeKind} {label : Option String} {scope : Scope}
    (h : c.nesting.child kind label = .ok scope) : Viewed Q (c.entered scope) [] where
  toNamesDeclared := namesDeclared_fresh h
  views before _ _ heq := by cases before <;> cases heq

theorem leaf (hs : s.scopeKind? = none) (h : s.check c = (.ok s, c')) (hss : Viewed Q c ss) :
    Viewed Q c' (ss ++ [s]) := by
  refine hss.append ((Statement.check_onward s).apply h)
    (namesDeclared_leaf hs h hss.toNamesDeclared) fun levels b hb => ?_
  obtain ⟨_, rfl⟩ := hb.of_leaf hs
  cases hs

/-- A statement that holds others: the blocks inside of it, and itself if it is one. -/
theorem holder {k : ScopeKind} (h : c.Takes (Viewed Q) s k)
    (hs : ∀ b, s = .block b → b.Bears Q c.marks (c.around ss [])) (hss : Viewed Q c ss) :
    Viewed Q c (ss ++ [s]) := by
  have hnames := namesDeclared_holder (h.imp (·.toNamesDeclared)) hss.toNamesDeclared
  refine hss.append (Std.Refl.refl c) hnames fun levels b hb => ?_
  cases hb with
  | here => exact hs b rfl
  | @inside _ t _ before after levels hmem ht =>
    obtain ⟨d, hd, hbody⟩ := h.held _ hmem
    have hbears := hbody.views before t after rfl levels b ht
    have hmarks : levels.map (·.mark) ++ d.marks =
        (levels ++ [Level.mk s before]).map (·.mark) ++ c.marks := by
      rw [hd.marks, ← h.kind, List.map_append, List.append_assoc]
      rfl
    have haround : d.around before levels = c.around ss (levels ++ [⟨s, before⟩]) := by
      have hlevel := declared_at_level h.kind hd.kind hbody.toNamesDeclared rfl .var
      unfold Checker.around
      rw [hd.outside hss.toNamesDeclared, List.flatMap_append, List.flatMap_singleton, hlevel,
        List.append_assoc]
      rfl
    rwa [hmarks, haround] at hbears

end Viewed

theorem viewed_upheld : UpheldViewed Q (Viewed Q) where
  moves := Viewed.moves
  fresh := Viewed.fresh
  leaf := Viewed.leaf
  holder h hbegins hss := hss.holder h fun b hb => by
    subst hb
    exact hbegins.bears hss.toNamesDeclared
  ended := by
    intro c d body hkind hd hnil hbody hQ
    refine hnil.holder (Checker.takes_ended _ hkind hd hbody) fun b hb => ?_
    cases hb
    exact hd.bears hkind hnil.toNamesDeclared hbody.toNamesDeclared hQ

/-! ## Programs -/

/-- The mark of what is around the block of a program. -/
abbrev Marks.program : Option ScopeKind × Option String := (some .program, none)

/-- What is around a program has no label. -/
theorem ScopeView.IsAt.of_program {view : ScopeView} {marks : Marks} {names : List String}
    (h : view.IsAt (marks ++ [Marks.program]) names) : view.IsAt marks names where
  labels := by
    rw [h.labels, List.filterMap_append]
    exact congrArg List.reverse (List.append_nil _)
  variableNames := h.variableNames

/-- What is around a program is no handler. -/
theorem Marks.InHandler.of_program {marks : Marks} (h : (marks ++ [program]).InHandler) :
    marks.InHandler := by
  obtain ⟨label, beyond, h⟩ := h
  cases marks with
  | nil => cases h
  | cons m marks => exact ⟨label, marks, congrArg (· :: marks) (List.cons.inj h).1⟩

/-- Whether calls come to a handler that one of them has opened, with the statements in it. -/
def Builder.FillsHandler (b : Builder) (calls : List Call) (body : List Statement) : Prop :=
  ∃ before after, calls = before ++ after ∧ (b.run before).inner.construct.kind = .handler ∧
    (b.run before).inner.statements = body

/-- Each block of a program that a builder gives bears a view. -/
theorem built_bears {head : ProgramHead} {label : Operand} {stem : String} {b b' b'' : Builder}
    {p : Program} {calls : List Call} (hb : Builder.start head label stem = .ok b)
    (hcalls : b.runAll calls = (.ok (), b')) (hbuild : b'.build = (.ok p, b''))
    {levels : List Level} {block : Block} (hblock : Stands (.block p.body) levels (.block block)) :
    block.Bears (b.FillsHandler calls) (levels.map (·.mark) ++ [Marks.program])
      (levels.flatMap (·.declared .var) ++ head.parameterNames) := by
  have hready : ∀ before after, calls = before ++ after →
      (b.run before).Ready (b.FillsHandler calls) :=
    fun before after heq hkind => ⟨before, after, heq, hkind, rfl⟩
  have hkept := Builder.runAll_keeps viewed_upheld calls (Builder.keeps_start viewed_upheld hb)
    hready hcalls
  have hparameters : ∀ {d : Checker} {label : Option String},
      (head.checker stem).Inside .block label d →
      d.nesting.outer.flatMap (·.variableNames) = head.parameterNames := fun hd =>
    (Checker.variableNames_of_stateless hd.around).trans (List.append_nil _)
  cases hblock with
  | here =>
    obtain ⟨d, hd, hbare, hview⟩ := Builder.begins_build hkept hbuild p.body rfl
    have hat := d.view_isAt
    have hnames : d.nesting.scopes.flatMap (·.variableNames) = head.parameterNames := by
      rw [← hparameters hd]
      exact congrArg (· ++ d.nesting.outer.flatMap (·.variableNames)) hbare
    rw [hd.marks, hnames] at hat
    exact ⟨_, [], hview, hat, .inl rfl⟩
  | @inside _ t _ before after levels hmem ht =>
    obtain ⟨d, hd, hbody⟩ := Builder.kept_build hkept hbuild
    have hmem' : before ++ t :: after = p.body.statements := List.mem_singleton.1 hmem
    have hbears := hbody.views before t after hmem'.symm levels block ht
    rw [Checker.around, hd.marks, hparameters hd, ← List.append_assoc] at hbears
    rw [List.map_append, List.append_assoc, List.flatMap_append, List.flatMap_singleton]
    exact hbears

/-- The scopes at the start of a block that stands at a place of a program. -/
def Block.marks (b : Block) (levels : List Level) : Marks :=
  (some .block, b.label) :: levels.map (·.mark)

theorem Block.leavable_eq {b : Block} {levels : List Level}
    (h : ∀ l ∈ levels, l.holder.scopeKind? ≠ some .handler) :
    (b.marks levels).leavable = (b.marks levels).filterMap (·.2) := by
  refine Marks.leavable_eq (List.forall_mem_cons.2 ⟨nofun, fun m hm => ?_⟩)
  obtain ⟨l, hl, rfl⟩ := List.mem_map.1 hm
  exact h l hl

/-- **Views describe the start of a block.** Where all calls have succeeded, each block of the
program bears a view. Its labels are those around the block and its own, outermost first: the last of
them are those that a `LEAVE` there may name, and all of them are if no handler is around. Its
variables are those that are declared before the block in the blocks around it and those that are
given to the program; only the block of a handler that a call has opened has its own ones, too. -/
theorem built_views {head : ProgramHead} {label : Operand} {stem : String} {b b' b'' : Builder}
    {p : Program} (calls : List Call) (hb : Builder.start head label stem = .ok b)
    (hcalls : b.runAll calls = (.ok (), b')) (hbuild : b'.build = (.ok p, b''))
    {levels : List Level} {block : Block} (hblock : Stands (.block p.body) levels (.block block)) :
    ∃ view own, block.scope = some view ∧
      view.IsAt (block.marks levels)
        (own ++ (levels.flatMap (·.declared .var) ++ head.parameterNames)) ∧
      (own = [] ∨ Marks.InHandler (levels.map (·.mark)) ∧
        own = block.statements.flatMap (·.declared .var) ∧ b.FillsHandler calls block.statements) ∧
      (block.marks levels).leavable.reverse <:+ view.labels ∧
      ((∀ l ∈ levels, l.holder.scopeKind? ≠ some .handler) →
        view.labels = (block.marks levels).leavable.reverse) ∧
      ∀ c : Checker, c.marks = block.marks levels ++ [Marks.program] → ∀ l,
        ((Statement.leave l).check c).1.isOk =
          Scope.hasName (block.marks levels).leavable l := by
  obtain ⟨view, own, hview, hat, hown⟩ := built_bears hb hcalls hbuild hblock
  have hat' : view.IsAt (block.marks levels) _ := ScopeView.IsAt.of_program hat
  refine ⟨view, own, hview, hat', hown.imp_right fun h => ⟨h.1.of_program, h.2⟩, ?_, fun h => ?_,
    fun c hc l => ?_⟩
  · rw [hat'.labels]
    exact List.reverse_suffix.2 (Marks.leavable_prefix _)
  · rw [hat'.labels, Block.leavable_eq h]
  · rw [leave_isOk, hc, Marks.leavable_append]

/-- Calls for a block with a label in which a variable of the block around it is declared again. -/
def shadowed : List Call := [
  .declare ["a", "b"] { type := .int } (.value .null),
  .openBlock (.value (.text "part")),
  .declare ["B"] { type := .int } (.value .null),
  .openBlock (.value .null),
  .raw "SET @x = 1",
  .endBlock,
  .endBlock]

/-- Whether a program has those two blocks. -/
def Program.isShadowed (p : Program) : Bool :=
  match p.body with
  | ⟨[.declareVariables ["a", "b"] _ _,
      .block ⟨[.declareVariables ["B"] _ _, .block ⟨_, none, _⟩], some "part", _⟩], none, _⟩ => true
  | _ => false

/-- The block in the labelled block sees the variables as they are declared in both. -/
theorem shadowed_views : ∃ b b' b'' p levels block view,
    Builder.start .block (.value .null) Builder.usualStem = .ok b ∧
      b.runAll shadowed = (.ok (), b') ∧ b'.build = (.ok p, b'') ∧
      Stands (.block p.body) levels (.block block) ∧ block.scope = some view ∧
      view.labels = ["part"] ∧ Lists view.variableNames ["B", "a", "b"] := by
  have hshape : ((emptyBuilder.runAll shadowed).1.isOk &&
      (emptyBuilder.runAll shadowed).2.build.1.toOption.any (·.isShadowed)) = true := by
    decide +kernel
  obtain ⟨b', b'', p, hcalls, hbuild, hblocks⟩ := Builder.exists_built hshape
  unfold Program.isShadowed at hblocks
  split at hblocks
  · rename_i type initial type' initial' body seen seen' root hbody
    obtain ⟨part, hpart⟩ : ∃ part : Block, part =
        ⟨[.declareVariables ["B"] type' initial', .block ⟨body, none, seen⟩], some "part", seen'⟩ :=
      ⟨_, rfl⟩
    have hinner : [.declareVariables ["B"] type' initial'] ++ .block ⟨body, none, seen⟩ :: [] ∈
        (Statement.block part).held := hpart ▸ List.mem_singleton_self _
    have houter : [.declareVariables ["a", "b"] type initial] ++ .block part :: [] ∈
        (Statement.block p.body).held := by
      rw [hbody, hpart]
      exact List.mem_singleton_self _
    have hstands := Stands.inside houter (.inside hinner .here)
    have hstart : Builder.start .block (.value .null) Builder.usualStem = .ok emptyBuilder := rfl
    obtain ⟨view, own, hview, hat, hown, _⟩ := built_views shadowed hstart hcalls hbuild hstands
    rcases hown with rfl | ⟨⟨_, _, hhandler⟩, _⟩
    · have hlabels : view.labels = ["part"] := by
        rw [hat.labels]
        show (([(some .block, none), (some .block, part.label), (some .block, p.body.label)] :
          Marks).filterMap (·.2)).reverse = ["part"]
        rw [hbody, hpart]
        rfl
      exact ⟨emptyBuilder, b', b'', p, _, _, view, hstart, hcalls, hbuild, hstands, hview, hlabels,
        hat.variableNames⟩
    · cases hhandler
  · cases hblocks

/-- Calls for a handler with a variable of its own. -/
def ownVariable : List Call := [
  .openHandler (.text "CONTINUE") [.notFound],
  .declare ["x"] { type := .int } (.value .null),
  .raw "SET @a = 1",
  .endHandler]

/-- Whether a program is a handler whose block bears the view. -/
def Program.handlerSees (view : ScopeView) (p : Program) : Bool :=
  match p.body with
  | ⟨[.declareHandler _ _ (.block ⟨_, none, some seen⟩)], _, _⟩ => seen == view
  | _ => false

/-- The block of the handler has its own variable in its view, though nothing is declared before it,
and the label of the program, though no `LEAVE` there may name it. -/
theorem ownVariable_seen : ∃ b b' b'' p levels block view,
    Builder.start .block (.value (.text "l")) Builder.usualStem = .ok b ∧
      b.runAll ownVariable = (.ok (), b') ∧ b'.build = (.ok p, b'') ∧
      Stands (.block p.body) levels (.block block) ∧ block.scope = some view ∧
      view.variableNames = ["x"] ∧ levels.flatMap (·.declared .var) = [] ∧
      view.labels = ["l"] ∧ (block.marks levels).leavable = [] := by
  have hshape : (Builder.start .block (.value (.text "l")) Builder.usualStem).toOption.any
      (fun b => (b.runAll ownVariable).1.isOk &&
        (b.runAll ownVariable).2.build.1.toOption.any (·.handlerSees ⟨["l"], ["x"]⟩)) = true := by
    decide +kernel
  rcases hstart : Builder.start .block (.value (.text "l")) Builder.usualStem with e | b
  · rw [hstart] at hshape
    cases hshape
  rw [hstart] at hshape
  obtain ⟨b', b'', p, hcalls, hbuild, hview⟩ := Builder.exists_built hshape
  unfold Program.handlerSees at hview
  split at hview
  · rename_i action conditions body view label seen hbody
    obtain rfl := beq_iff_eq.1 hview
    have hinner : [] ++ .block ⟨body, none, some ⟨["l"], ["x"]⟩⟩ :: [] ∈ (Statement.declareHandler
        action conditions (.block ⟨body, none, some ⟨["l"], ["x"]⟩⟩)).held :=
      List.mem_singleton_self _
    have houter : [] ++ .declareHandler action conditions
        (.block ⟨body, none, some ⟨["l"], ["x"]⟩⟩) :: [] ∈ (Statement.block p.body).held := by
      rw [hbody]
      exact List.mem_singleton_self _
    exact ⟨b, b', b'', p, _, _, _, rfl, hcalls, hbuild, .inside houter (.inside hinner .here), rfl,
      rfl, rfl, rfl, rfl⟩
  · cases hview

end StoredSql
