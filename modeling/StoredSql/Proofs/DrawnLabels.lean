import StoredSql.Proofs.FreshLabels
import StoredSql.Proofs.LoopLabels
import StoredSql.Proofs.UpheldChecks

/-!
# Labels drawn by checks

A check draws a label for each loop that has none, when it comes to the loop. Whether it fails later
does not matter: the number stays used. `Statement.generated` tells the labels that a check draws,
by the steps of the check; the source of labels goes through these draws (`Statement.check_draws`),
and where the check succeeds, they are what it fills in (`Statement.check_fills`). As each draw
takes a number that has not been used, no two of them give one label, in any case
(`LabelSource.Draws.different`).
-/

namespace StoredSql

open Check Stepwise

/-! ## Draws from a source -/

namespace LabelSource

/-- Labels drawn from a source one after the other, with the source that is left. Each label is the
next one for the names that are taken when it is drawn. -/
inductive Draws : LabelSource → List String → LabelSource → Prop
  | nil (source : LabelSource) : Draws source [] source
  | cons {source rest : LabelSource} {labels : List String} (taken : List String) :
      Draws (source.next taken).2 labels rest → Draws source ((source.next taken).1 :: labels) rest

variable {source rest more : LabelSource} {labels labels' : List String}

theorem Draws.append (h : source.Draws labels rest) (h' : rest.Draws labels' more) :
    source.Draws (labels ++ labels') more := by
  induction h with
  | nil => exact h'
  | cons taken _ ih => exact .cons taken (ih h')

/-- The numbers of the labels ascend from the last one used before. -/
theorem Draws.numbers (h : source.Draws labels rest) :
    ∃ ns : List Nat, labels = ns.map (label source.stem) ∧ ns.Pairwise (· < ·) ∧
      ∀ n ∈ ns, source.last < n := by
  induction h with
  | nil => exact ⟨[], rfl, .nil, nofun⟩
  | @cons source _ _ taken _ ih =>
    obtain ⟨ns, hns, hpairs, hlast⟩ := ih
    have hnext : source.last < (source.next taken).2.last := source.lt_next taken
    refine ⟨(source.next taken).2.last :: ns, congrArg (_ :: ·) hns, .cons hlast hpairs, ?_⟩
    exact List.forall_mem_cons.2 ⟨hnext, fun n hn => Nat.lt_trans hnext (hlast n hn)⟩

/-- **No label is drawn twice**, in any case. -/
theorem Draws.different (h : source.Draws labels rest) :
    labels.Pairwise fun l l' => Text.sameName l l' = false := by
  obtain ⟨ns, rfl, hpairs, _⟩ := h.numbers
  refine List.pairwise_map.2 (hpairs.imp fun hlt => Bool.eq_false_iff.2 fun hsame => ?_)
  exact Nat.ne_of_lt hlt (label_injective hsame)

end LabelSource

/-! ## Labels along a chain of steps -/

namespace Stepwise

variable {σ α β : Type}

/-- The labels that are drawn behind a step, if it succeeds. -/
def behind (x : ExceptT Error (StateM σ) α) (labels : α → σ → List String) (s : σ) : List String :=
  match x s with
  | (.ok a, t) => labels a t
  | (.error _, _) => []

/-- Whether an action draws the labels that are told of the state before it. -/
def Drawn (source : σ → LabelSource) (labels : σ → List String)
    (act : ExceptT Error (StateM σ) α) : Prop :=
  ∀ s, (source s).Draws (labels s) (source (act s).2)

variable {source : σ → LabelSource} {labels : σ → List String} {later : α → σ → List String}
  {x : ExceptT Error (StateM σ) α} {f : α → ExceptT Error (StateM σ) β}

theorem behind_of_ok {s t : σ} {a : α} (h : x s = (.ok a, t)) : behind x later s = later a t := by
  unfold behind
  rw [h]

theorem behind_of_error {s t : σ} {e : Error} (h : x s = (.error e, t)) :
    behind x later s = [] := by
  unfold behind
  rw [h]

theorem Drawn.bind (hx : Drawn source labels x) (hf : ∀ a, Drawn source (later a) (f a)) :
    Drawn source (fun s => labels s ++ behind x later s) (x >>= f) := by
  intro s
  have hdraws := hx s
  dsimp only
  rcases h : x s with ⟨e | a, t⟩
  · rw [h] at hdraws
    rw [behind_of_error h, bind_of_error h, List.append_nil]
    exact hdraws
  · rw [h] at hdraws
    rw [behind_of_ok h, bind_of_ok h]
    exact hdraws.append (hf a t)

/-- Behind a step that draws nothing. -/
theorem Drawn.after (hx : Drawn source (fun _ => []) x) (hf : ∀ a, Drawn source (later a) (f a)) :
    Drawn source (behind x later) (x >>= f) :=
  hx.bind hf

theorem append_behind_nil (ls : List String) (x : ExceptT Error (StateM σ) α) (s : σ) :
    ls ++ behind x (fun _ _ => []) s = ls := by
  unfold behind
  split <;> exact List.append_nil ls

/-- Before steps that draw nothing. -/
theorem Drawn.before (hx : Drawn source labels x) (hf : ∀ a, Drawn source (fun _ => []) (f a)) :
    Drawn source labels (x >>= f) :=
  funext (fun s => append_behind_nil (labels s) x s) ▸ hx.bind hf

theorem drawn_of_eq (h : ∀ s, source (x s).2 = source s) : Drawn source (fun _ => []) x := by
  intro s
  rw [h s]
  exact .nil _

end Stepwise

/-! ## Checks -/

/-- The label that is drawn for a construct: one if it has none of its own. -/
def Checker.generated (label : Option String) (c : Checker) : List String :=
  match Text.nonEmpty label with
  | some _ => []
  | none => [(c.labelled label).1]

mutual

/-- The labels that the check of a statement draws, in order. -/
def Statement.generated : Statement → Checker → List String
  | .declareHandler _ conditions body =>
    behind (declare (·.declareHandler)) fun _ => behind (resolveConditions conditions) fun _ =>
      behind states fun _ => behind (child .handler none) fun scope c =>
        behind (change fun n => .ok n.withUnknownStates) (fun _ => body.generated) (c.entered scope)
  | .block b => behind noteStatement fun _ => b.generated
  | .loop label body | .repeatLoop label _ body =>
    behind noteStatement fun _ c => c.generated label ++ behind (labelOr label) (fun label =>
      behind (child .loop (some label)) fun scope c =>
        Statement.allGenerated body (c.entered scope)) c
  | .whileLoop label test body =>
    behind noteStatement fun _ c => c.generated label ++ behind (labelOr label) (fun label =>
      behind (resolveAll test.outline.variableNames) fun _ =>
        behind (child .loop (some label)) fun scope c =>
          Statement.allGenerated body (c.entered scope)) c
  | .ifElse branches otherwise =>
    behind noteStatement fun _ => behind states fun before c =>
      IfBranch.allGenerated before branches c ++ behind (IfBranch.checkAll before branches)
        (fun _ => Statement.elseGenerated before otherwise) c
  | .cases operand whens otherwise =>
    behind noteStatement fun _ =>
      behind (resolveAll ((operand.map (·.outline.variableNames)).getD [])) fun _ =>
        behind states fun before c =>
          CaseWhen.allGenerated before whens c ++ behind (CaseWhen.checkAll before whens)
            (fun _ => Statement.elseGenerated before otherwise) c
  | _ => fun _ => []

/-- The labels that the check of statements draws. The statements behind one that fails are not
checked. -/
def Statement.allGenerated : List Statement → Checker → List String
  | [] => fun _ => []
  | s :: ss => fun c => s.generated c ++ behind s.check (fun _ => Statement.allGenerated ss) c

def Statement.elseGenerated (before : List CursorState) :
    Option (List Statement) → Checker → List String
  | none => fun _ => []
  | some ss => behind (setStates before) fun _ => behind (child .branch none) fun scope c =>
    Statement.allGenerated ss (c.entered scope)

def Block.generated : Block → Checker → List String
  | ⟨ss, label, _⟩ => behind (child .block label) fun scope c =>
    behind view (fun _ => Statement.allGenerated ss) (c.entered scope)

def IfBranch.allGenerated (before : List CursorState) : List IfBranch → Checker → List String
  | [] => fun _ => []
  | ⟨test, body⟩ :: rest =>
    behind (setStates before) fun _ => behind (resolveAll test.outline.variableNames) fun _ =>
      behind (child .branch none) fun scope c => Statement.allGenerated body (c.entered scope) ++
        behind (within scope (Statement.checkAll body)) (fun _ =>
          behind states fun _ => IfBranch.allGenerated before rest) c

def CaseWhen.allGenerated (before : List CursorState) : List CaseWhen → Checker → List String
  | [] => fun _ => []
  | ⟨test, body⟩ :: rest =>
    behind (setStates before) fun _ => behind (resolveAll test.outline.variableNames) fun _ =>
      behind (child .branch none) fun scope c => Statement.allGenerated body (c.entered scope) ++
        behind (within scope (Statement.checkAll body)) (fun _ =>
          behind states fun _ => CaseWhen.allGenerated before rest) c

end

namespace Check

variable {α : Type}

/-- Whether a check draws the labels that are told of the checker before it. -/
abbrev Draws (labels : Checker → List String) (act : Check α) : Prop :=
  Drawn Checker.labels labels act

theorem draws_nothing {act : Check α} (h : Keeps (Checker.Labels Eq) act) :
    Draws (fun _ => []) act :=
  drawn_of_eq fun c => (h c).symm

theorem ask_draws (f : Nesting → Except Error α) : Draws (fun _ => []) (ask f) :=
  drawn_of_eq fun _ => rfl

theorem change_draws (f : Nesting → Except Error Nesting) : Draws (fun _ => []) (change f) :=
  draws_nothing (change_labels f)

theorem pure_draws (a : α) : Draws (fun _ => []) (pure a : Check α) := drawn_of_eq fun _ => rfl

theorem labelOr_draws (label : Option String) :
    Draws (Checker.generated label) (labelOr label) := by
  intro c
  rw [labelOr_apply]
  unfold Checker.generated Checker.labelled
  cases Text.nonEmpty label with
  | some l => exact .nil _
  | none => exact .cons _ (.nil _)

end Check

/-- Only loops draw labels. -/
theorem Statement.leaf_draws {s : Statement} (h : s.scopeKind? = none) :
    Draws (fun _ => []) s.check := by
  refine draws_nothing (check_labels s fun levels t ht hloop => ?_)
  obtain ⟨_, rfl⟩ := ht.of_leaf h
  rw [h] at hloop
  cases hloop

mutual

/-- **A check draws the labels that are told of it**, whether it succeeds or fails. -/
theorem Statement.check_draws : ∀ s : Statement, Draws s.generated s.check
  | .declareHandler _ _ body =>
    .after (draws_nothing (declare_labels _)) fun _ => .after (ask_draws _) fun _ =>
      .after (ask_draws _) fun _ => .after (ask_draws _) fun scope => .before
        (fun c => Drawn.after (change_draws _) (fun _ => body.check_draws) (c.entered scope))
        fun _ => pure_draws _
  | .block b => .after (change_draws _) fun _ => .before b.check_draws fun _ => pure_draws _
  | .loop label body =>
    .after (change_draws _) fun _ => .bind (labelOr_draws label) fun _ =>
      .after (ask_draws _) fun scope =>
        .before (fun c => Statement.checkAll_draws body (c.entered scope)) fun _ => pure_draws _
  | .whileLoop label _ body =>
    .after (change_draws _) fun _ => .bind (labelOr_draws label) fun _ =>
      .after (ask_draws _) fun _ => .after (ask_draws _) fun scope =>
        .before (fun c => Statement.checkAll_draws body (c.entered scope)) fun _ => pure_draws _
  | .repeatLoop label _ body =>
    .after (change_draws _) fun _ => .bind (labelOr_draws label) fun _ =>
      .after (ask_draws _) fun scope => .before
        (fun c => Drawn.before (Statement.checkAll_draws body)
          (fun _ => .before (ask_draws _) fun _ => pure_draws _) (c.entered scope))
        fun _ => pure_draws _
  | .ifElse branches otherwise =>
    .after (change_draws _) fun _ => .after (ask_draws _) fun before =>
      .bind (IfBranch.checkAll_draws before branches) fun _ =>
        .before (Statement.checkElse_draws before otherwise) fun _ =>
          .before (change_draws _) fun _ => pure_draws _
  | .cases _ whens otherwise =>
    .after (change_draws _) fun _ => .after (ask_draws _) fun _ =>
      .after (ask_draws _) fun before => .bind (CaseWhen.checkAll_draws before whens) fun _ =>
        .before (Statement.checkElse_draws before otherwise) fun _ =>
          .before (change_draws _) fun _ => pure_draws _
  | .foreign _ | .delimiter _ | .empty | .declareVariables _ _ _ | .declareCondition _ _
  | .declareCursor _ _ | .iterate _ | .leave _ | .openCursor _ | .fetch _ _ | .closeCursor _
  | .select _ | .insert _ | .set _ | .call _ _ | .signal _ _ _ | .raw _ =>
    Statement.leaf_draws rfl

theorem Statement.checkAll_draws : ∀ ss : List Statement,
    Draws (Statement.allGenerated ss) (Statement.checkAll ss)
  | [] => pure_draws _
  | s :: ss =>
    .bind s.check_draws fun _ => .before (Statement.checkAll_draws ss) fun _ => pure_draws _

theorem Statement.checkElse_draws (before : List CursorState) :
    ∀ otherwise : Option (List Statement),
      Draws (Statement.elseGenerated before otherwise) (Statement.checkElse before otherwise)
  | none => pure_draws _
  | some ss => by
    rw [Statement.checkElse, Statement.elseGenerated]
    exact .after (change_draws _) fun _ => .after (ask_draws _) fun scope =>
      .before (fun c => Statement.checkAll_draws ss (c.entered scope)) fun _ =>
        .before (ask_draws _) fun _ => pure_draws _

theorem Block.check_draws : ∀ b : Block, Draws b.generated b.check
  | ⟨ss, _, _⟩ =>
    .after (ask_draws _) fun scope => .before
      (fun c => Drawn.after (ask_draws _)
        (fun _ => .before (Statement.checkAll_draws ss) fun _ => pure_draws _) (c.entered scope))
      fun _ => pure_draws _

theorem IfBranch.checkAll_draws (before : List CursorState) : ∀ branches : List IfBranch,
    Draws (IfBranch.allGenerated before branches) (IfBranch.checkAll before branches)
  | [] => pure_draws _
  | ⟨_, body⟩ :: rest =>
    .after (change_draws _) fun _ => .after (ask_draws _) fun _ => .after (ask_draws _) fun scope =>
      .bind (fun c => Statement.checkAll_draws body (c.entered scope)) fun _ =>
        .after (ask_draws _) fun _ =>
          .before (IfBranch.checkAll_draws before rest) fun _ => pure_draws _

theorem CaseWhen.checkAll_draws (before : List CursorState) : ∀ whens : List CaseWhen,
    Draws (CaseWhen.allGenerated before whens) (CaseWhen.checkAll before whens)
  | [] => pure_draws _
  | ⟨_, body⟩ :: rest =>
    .after (change_draws _) fun _ => .after (ask_draws _) fun _ => .after (ask_draws _) fun scope =>
      .bind (fun c => Statement.checkAll_draws body (c.entered scope)) fun _ =>
        .after (ask_draws _) fun _ =>
          .before (CaseWhen.checkAll_draws before rest) fun _ => pure_draws _

end

/-! ## Drawn labels are filled in -/

mutual

/-- The labels of the loops in a statement, outermost first and then from left to right. -/
def Statement.loopLabels : Statement → List (Option String)
  | .declareHandler _ _ body => body.loopLabels
  | .block b => b.loopLabels
  | .loop label body | .whileLoop label _ body | .repeatLoop label _ body =>
    Text.nonEmpty label :: Statement.allLoopLabels body
  | .ifElse branches otherwise =>
    IfBranch.allLoopLabels branches ++ Statement.elseLoopLabels otherwise
  | .cases _ whens otherwise => CaseWhen.allLoopLabels whens ++ Statement.elseLoopLabels otherwise
  | _ => []

def Statement.allLoopLabels : List Statement → List (Option String)
  | [] => []
  | s :: ss => s.loopLabels ++ Statement.allLoopLabels ss

def Statement.elseLoopLabels : Option (List Statement) → List (Option String)
  | none => []
  | some ss => Statement.allLoopLabels ss

def Block.loopLabels : Block → List (Option String)
  | ⟨ss, _, _⟩ => Statement.allLoopLabels ss

def IfBranch.allLoopLabels : List IfBranch → List (Option String)
  | [] => []
  | ⟨_, body⟩ :: rest => Statement.allLoopLabels body ++ IfBranch.allLoopLabels rest

def CaseWhen.allLoopLabels : List CaseWhen → List (Option String)
  | [] => []
  | ⟨_, body⟩ :: rest => Statement.allLoopLabels body ++ CaseWhen.allLoopLabels rest

end

/-- Labels of loops, some of which have none; labels for just those; and all labels. -/
inductive Fills : List (Option String) → List String → List (Option String) → Prop
  | nil : Fills [] [] []
  | given {before after : List (Option String)} {labels : List String} (l : String) :
      Fills before labels after → Fills (some l :: before) labels (some l :: after)
  | drawn {before after : List (Option String)} {labels : List String} (l : String) :
      Fills before labels after → Fills (none :: before) (l :: labels) (some l :: after)

theorem Fills.append {before before' after after' : List (Option String)}
    {labels labels' : List String} (h : Fills before labels after)
    (h' : Fills before' labels' after') :
    Fills (before ++ before') (labels ++ labels') (after ++ after') := by
  induction h with
  | nil => exact h'
  | given l _ ih => exact .given l ih
  | drawn l _ ih => exact .drawn l ih

/-- A loop gets its label, and then those in it get theirs. -/
theorem Fills.labelled {before after : List (Option String)} {labels : List String}
    (h : Fills before labels after) (label : Option String) (c : Checker) :
    Fills (Text.nonEmpty label :: before) (c.generated label ++ labels)
      (Text.nonEmpty (some (c.labelled label).1) :: after) := by
  rw [Text.nonEmpty_some, if_neg (c.labelled_ne_empty label)]
  unfold Checker.generated Checker.labelled
  cases Text.nonEmpty label with
  | some l => exact .given l h
  | none => exact .drawn _ h

section

open Statement

variable {c : Checker}

theorem behind_noteStatement (labels : Unit → Checker → List String) (c : Checker) :
    behind noteStatement labels c = labels () c.noted :=
  behind_of_ok rfl

theorem behind_states (labels : List CursorState → Checker → List String) (c : Checker) :
    behind states labels c = labels c.nesting.states c :=
  behind_of_ok rfl

theorem Statement.loop_generated {label : Option String} {scope : Scope} (body : List Statement)
    (hscope : (c.noted.labelled label).2.nesting.child .loop (some (c.noted.labelled label).1) =
      .ok scope) : (loop label body).generated c =
    c.noted.generated label ++ allGenerated body ((c.noted.labelled label).2.entered scope) := by
  rw [Statement.generated, behind_noteStatement, behind_of_ok (labelOr_apply _ _),
    behind_of_ok (child_eq.2 ⟨hscope, rfl⟩)]

/-- A loop that ends with a condition draws what one without a test draws. -/
theorem Statement.repeatLoop_generated (label : Option String) (test : Condition)
    (body : List Statement) (c : Checker) :
    (repeatLoop label test body).generated c = (loop label body).generated c := by
  rw [Statement.generated, Statement.generated]

theorem Block.check_fills_of {ss ss' : List Statement} {label : Option String} {scope : Scope}
    (hscope : c.nesting.child .block label = .ok scope) (view view' : Option ScopeView)
    (h : Fills (allLoopLabels ss) (allGenerated ss (c.entered scope)) (allLoopLabels ss')) :
    Fills (Block.mk ss label view).loopLabels ((Block.mk ss label view).generated c)
      (Block.mk ss' label view').loopLabels := by
  rw [Block.generated, behind_of_ok (child_eq.2 ⟨hscope, rfl⟩)]
  exact h

mutual

/-- **The labels that a check draws are those that it fills in.** -/
theorem Statement.check_fills (s : Statement) {s' : Statement} {c c' : Checker}
    (h : s.check c = (.ok s', c')) : Fills s.loopLabels (s.generated c) s'.loopLabels := by
  cases s with
  | declareHandler action conditions body =>
    obtain ⟨t, u, body', v, ht, hu, hbody, _, rfl⟩ := check_declareHandler_ok.1 h
    have hgenerated : (declareHandler action conditions body).generated c =
        body.generated u.handling :=
      (behind_of_ok ht).trans (behind_of_ok hu)
    rw [hgenerated]
    show Fills body.loopLabels _ body'.loopLabels
    exact body.check_fills hbody
  | block b =>
    obtain ⟨ss, label, view⟩ := b
    obtain ⟨b', hb, rfl⟩ := check_block_ok.1 h
    obtain ⟨scope, ss', t, hscope, hss, _, rfl⟩ := Block.check_ok.1 hb
    exact Block.check_fills_of hscope view _ (Statement.checkAll_fills ss hss)
  | loop label body =>
    obtain ⟨scope, body', t, hscope, hbody, _, rfl⟩ := check_loop_ok.1 h
    rw [loop_generated body hscope]
    exact (Statement.checkAll_fills body hbody).labelled label c.noted
  | whileLoop label test body =>
    obtain ⟨htest, scope, body', t, hscope, hbody, _, rfl⟩ := check_whileLoop_ok.1 h
    have hgenerated : (whileLoop label test body).generated c = c.noted.generated label ++
        allGenerated body ((c.noted.labelled label).2.entered scope) := by
      rw [Statement.generated, behind_noteStatement, behind_of_ok (labelOr_apply _ _),
        behind_of_ok (resolveAll_eq.2 ⟨htest, rfl⟩), behind_of_ok (child_eq.2 ⟨hscope, rfl⟩)]
    rw [hgenerated]
    exact (Statement.checkAll_fills body hbody).labelled label c.noted
  | repeatLoop label test body =>
    obtain ⟨scope, body', t, hscope, hbody, _, _, rfl⟩ := check_repeatLoop_ok.1 h
    rw [repeatLoop_generated, loop_generated body hscope]
    exact (Statement.checkAll_fills body hbody).labelled label c.noted
  | ifElse branches otherwise =>
    obtain ⟨branches', outcomes, t, otherwise', outcome, u, hbranches, helse, _, rfl⟩ :=
      check_ifElse_ok.1 h
    have hgenerated : (ifElse branches otherwise).generated c =
        IfBranch.allGenerated c.noted.nesting.states branches c.noted ++
          elseGenerated c.noted.nesting.states otherwise t := by
      rw [Statement.generated, behind_noteStatement, behind_states, behind_of_ok hbranches]
    rw [hgenerated]
    exact (IfBranch.checkAll_fills branches hbranches).append
      (Statement.checkElse_fills otherwise helse)
  | cases operand whens otherwise =>
    obtain ⟨hoperand, whens', outcomes, t, otherwise', outcome, u, hwhens, helse, _, rfl⟩ :=
      check_cases_ok.1 h
    have hgenerated : (cases operand whens otherwise).generated c =
        CaseWhen.allGenerated c.noted.nesting.states whens c.noted ++
          elseGenerated c.noted.nesting.states otherwise t := by
      rw [Statement.generated, behind_noteStatement,
        behind_of_ok (resolveAll_eq.2 ⟨hoperand, rfl⟩), behind_states, behind_of_ok hwhens]
    rw [hgenerated]
    exact (CaseWhen.checkAll_fills whens hwhens).append
      (Statement.checkElse_fills otherwise helse)
  | _ =>
    obtain rfl := check_leaf rfl h
    exact .nil

theorem Statement.checkAll_fills (ss : List Statement) {ss' : List Statement} {c c' : Checker}
    (h : Statement.checkAll ss c = (.ok ss', c')) :
    Fills (Statement.allLoopLabels ss) (Statement.allGenerated ss c)
      (Statement.allLoopLabels ss') := by
  cases ss with
  | nil =>
    cases h
    exact .nil
  | cons s ss =>
    obtain ⟨s', t, rest, hs, hss, rfl⟩ := checkAll_cons_ok.1 h
    have hgenerated : allGenerated (s :: ss) c = s.generated c ++ allGenerated ss t :=
      congrArg (s.generated c ++ ·) (behind_of_ok hs)
    rw [hgenerated]
    exact (s.check_fills hs).append (Statement.checkAll_fills ss hss)

theorem Statement.checkElse_fills (otherwise : Option (List Statement))
    {before : List CursorState} {r : Option (List Statement) × List CursorState}
    {c c' : Checker} (h : Statement.checkElse before otherwise c = (.ok r, c')) :
    Fills (Statement.elseLoopLabels otherwise) (Statement.elseGenerated before otherwise c)
      (Statement.elseLoopLabels r.1) := by
  cases otherwise with
  | none =>
    cases h
    exact .nil
  | some body =>
    obtain ⟨body', t, hbody, _, rfl⟩ := checkElse_some_ok.1 h
    exact Statement.checkAll_fills body hbody

theorem IfBranch.checkAll_fills (branches : List IfBranch) {before : List CursorState}
    {r : List IfBranch × List (List CursorState)} {c c' : Checker}
    (h : IfBranch.checkAll before branches c = (.ok r, c')) :
    Fills (IfBranch.allLoopLabels branches) (IfBranch.allGenerated before branches c)
      (IfBranch.allLoopLabels r.1) := by
  cases branches with
  | nil =>
    cases h
    exact .nil
  | cons branch rest =>
    obtain ⟨test, body⟩ := branch
    obtain ⟨htest, body', t, rest', outcomes, hbody, hrest, rfl⟩ := IfBranch.checkAll_cons_ok.1 h
    have hgenerated : IfBranch.allGenerated before (⟨test, body⟩ :: rest) c =
        allGenerated body (c.branched before) ++ IfBranch.allGenerated before rest t.left :=
      (behind_of_ok (resolveAll_eq.2 ⟨htest, rfl⟩)).trans
        (congrArg (allGenerated body (c.branched before) ++ ·)
          (behind_of_ok (within_eq.2 ⟨t, hbody, rfl⟩)))
    rw [hgenerated]
    exact (Statement.checkAll_fills body hbody).append (IfBranch.checkAll_fills rest hrest)

theorem CaseWhen.checkAll_fills (whens : List CaseWhen) {before : List CursorState}
    {r : List CaseWhen × List (List CursorState)} {c c' : Checker}
    (h : CaseWhen.checkAll before whens c = (.ok r, c')) :
    Fills (CaseWhen.allLoopLabels whens) (CaseWhen.allGenerated before whens c)
      (CaseWhen.allLoopLabels r.1) := by
  cases whens with
  | nil =>
    cases h
    exact .nil
  | cons arm rest =>
    obtain ⟨test, body⟩ := arm
    obtain ⟨htest, body', t, rest', outcomes, hbody, hrest, rfl⟩ := CaseWhen.checkAll_cons_ok.1 h
    have hgenerated : CaseWhen.allGenerated before (⟨test, body⟩ :: rest) c =
        allGenerated body (c.branched before) ++ CaseWhen.allGenerated before rest t.left :=
      (behind_of_ok (resolveAll_eq.2 ⟨htest, rfl⟩)).trans
        (congrArg (allGenerated body (c.branched before) ++ ·)
          (behind_of_ok (within_eq.2 ⟨t, hbody, rfl⟩)))
    rw [hgenerated]
    exact (Statement.checkAll_fills body hbody).append (CaseWhen.checkAll_fills rest hrest)

end

end

end StoredSql
