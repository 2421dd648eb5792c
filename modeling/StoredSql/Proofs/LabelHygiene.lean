import StoredSql.Proofs.FilledLabels
import StoredSql.Proofs.FreshLabels
import StoredSql.Proofs.RelabelledChecks

/-!
# Whether a statement is accepted, whatever numbers labels have

A generated label is free among the labels that are open where it is generated. It is not compared
with the names further inside: where one of them looks like a generated label, it depends on the
number whether the statement is accepted (`innerLabel_rejected`). Where each such name is the label
of a construct around its loop, acceptance does not depend on the number
(`accepted_whatever_number`).
-/

namespace StoredSql

open Check Outcome Stepwise

/-! ## Names that look like generated labels -/

namespace Statement

/-- Whether in loops without a label of their own all names that look like generated labels, of
numbers from `least` on, are labels of constructs around the loop. -/
def SparesLabels (opened : List String) (stem : String) (least : Nat) (s : Statement) : Prop :=
  ∀ ⦃levels t⦄, Stands s levels t → t.scopeKind? = some .loop → Text.nonEmpty t.label? = none →
    ∀ ⦃x n⦄, t.Mentions x → least < n → Text.sameName x (LabelSource.label stem n) = true →
      Scope.hasName (levels.filterMap (Text.nonEmpty ·.holder.label?) ++ opened) x = true

variable {s t u : Statement} {x : String} {levels : List Level}

/-- What is mentioned in what a statement holds is mentioned in the statement. -/
theorem Mentions.held (h : t.Mentions x) {body : List Statement} (hbody : body ∈ s.held)
    (ht : t ∈ body) : s.Mentions x := by
  obtain ⟨levels, u, hu, hx⟩ := h
  obtain ⟨before, after, rfl⟩ := List.append_of_mem ht
  exact ⟨_, u, .inside hbody hu, hx⟩

theorem mentions_label (h : s.label? = some x) : s.Mentions x :=
  ⟨[], s, .here, .label h⟩

end Statement

/-! ## What two runs know of a statement -/

/-- Whether a name is told from the two labels of each scope alike. -/
def Alike (pairs : List (Option String × Option String)) (x : String) : Prop :=
  ∀ p ∈ pairs, p.1.any (Text.sameName x) = p.2.any (Text.sameName x)

theorem hasName_filterMap {α : Type} (as : List α) (f : α → Option String) (x : String) :
    Scope.hasName (as.filterMap f) x = as.any fun a => (f a).any (Text.sameName x) := by
  rw [Scope.hasName, List.any_filterMap]
  congr

theorem Alike.hasName {pairs : List (Option String × Option String)} {x : String}
    (h : Alike pairs x) :
    Scope.hasName (pairs.filterMap (·.1)) x = Scope.hasName (pairs.filterMap (·.2)) x := by
  rw [hasName_filterMap, hasName_filterMap]
  induction pairs with
  | nil => rfl
  | cons p pairs ih =>
    rw [List.any_cons, List.any_cons, h p (by simp), ih fun q hq => h q (by simp [hq])]

/-- The labels that scopes have in both runs. -/
def commonLabels (pairs : List (Option String × Option String)) : List String :=
  pairs.filterMap fun p => if p.1 = p.2 then p.1 else none

theorem mem_commonLabels {pairs : List (Option String × Option String)} {l : String} :
    l ∈ commonLabels pairs ↔ (some l, some l) ∈ pairs := by
  unfold commonLabels
  rw [List.mem_filterMap]
  constructor
  · rintro ⟨⟨a, b⟩, hp, h⟩
    dsimp only at h
    split at h
    · rename_i hab
      subst hab h
      exact hp
    · cases h
  · exact fun h => ⟨_, h, if_pos rfl⟩

/-- What two runs that meet a statement need to know of it: its names are told from the labels
around it alike, and it does not look for labels that are generated inside of it. -/
structure Statement.Hygienic (stem : String) (least : Nat)
    (pairs : List (Option String × Option String)) (s : Statement) : Prop where
  alike : ∀ x, s.Mentions x → Alike pairs x
  spares : s.SparesLabels (commonLabels pairs) stem least

theorem hasName_of_subset {names names' : List String} {x : String} (hsub : names ⊆ names')
    (h : Scope.hasName names x = true) : Scope.hasName names' x = true := by
  obtain ⟨y, hy, hsame⟩ := List.any_eq_true.1 h
  exact List.any_eq_true.2 ⟨y, hsub hy, hsame⟩

section

variable {stem : String} {least : Nat} {pairs : List (Option String × Option String)}
  {s : Statement}

/-- What is known of a statement is known of what it holds, within the scopes of the statement. -/
theorem Statement.Hygienic.held (h : s.Hygienic stem least pairs)
    {p : Option String × Option String}
    (halike : ∀ x, s.Mentions x → p.1.any (Text.sameName x) = p.2.any (Text.sameName x))
    (hlabel : ∀ l, Text.nonEmpty s.label? = some l → p = (some l, some l))
    {body : List Statement} (hbody : body ∈ s.held) :
    ∀ t ∈ body, t.Hygienic stem least (p :: pairs) := by
  intro t ht
  refine ⟨fun x hx => List.forall_mem_cons.2 ?_, fun levels u hu hloop hnone x n hx hn hsame => ?_⟩
  · exact ⟨halike x (hx.held hbody ht), h.alike x (hx.held hbody ht)⟩
  · obtain ⟨before, after, rfl⟩ := List.append_of_mem ht
    refine hasName_of_subset (fun l hl => ?_) (h.spares (.inside hbody hu) hloop hnone hx hn hsame)
    rw [List.filterMap_append, List.append_assoc, List.mem_append, List.mem_append] at hl
    rw [List.mem_append, mem_commonLabels]
    rcases hl with hl | hl | hl
    · exact .inl hl
    · obtain ⟨level, hlevel, hl⟩ := List.mem_filterMap.1 hl
      obtain rfl := List.mem_singleton.1 hlevel
      exact .inr (hlabel l hl ▸ List.mem_cons_self)
    · exact .inr (.tail _ (mem_commonLabels.1 hl))

/-- The same where the scopes of the statement have no labels, or those that it has itself. -/
theorem Statement.Hygienic.inside (h : s.Hygienic stem least pairs)
    (hlabel : ∀ l, Text.nonEmpty s.label? = some l → s.label? = some l)
    {body : List Statement} (hbody : body ∈ s.held) :
    ∀ t ∈ body, t.Hygienic stem least ((s.label?, s.label?) :: pairs) :=
  h.held (fun _ _ => rfl) (fun l hl => by rw [hlabel l hl]) hbody

/-! ## Labels of loops -/

/-- What the labels are like that a loop gets in two runs. -/
structure LoopPair (pairs : List (Option String × Option String)) (s : Statement) (l l' : String) :
    Prop where
  valid : Identifier.checkLabel l = .ok l ↔ Identifier.checkLabel l' = .ok l'
  taken : Scope.hasName (pairs.filterMap (·.1)) l = Scope.hasName (pairs.filterMap (·.2)) l'
  alike : ∀ x, s.Mentions x → Text.sameName x l = Text.sameName x l'
  given : ∀ y, Text.nonEmpty s.label? = some y → l = y ∧ l' = y

/-- What is known of a loop is known of what it holds, within its scope. -/
theorem LoopPair.inside {l l' : String} (hl : LoopPair pairs s l l')
    (h : s.Hygienic stem least pairs) {body : List Statement} (hbody : body ∈ s.held) :
    ∀ t ∈ body, t.Hygienic stem least ((some l, some l') :: pairs) := by
  refine h.held (p := (some l, some l')) hl.alike (fun y hy => ?_) hbody
  obtain ⟨rfl, rfl⟩ := hl.given y hy
  rfl

/-- A name that is the same as another one is a name of a list where the other one is. -/
theorem hasName_congr {x y : String} (h : Text.sameName x y = true) (names : List String) :
    Scope.hasName names x = Scope.hasName names y := by
  have hsame : Text.sameName x = Text.sameName y := by
    funext z
    rw [Text.sameName, Text.sameName, Text.sameName_iff.1 h]
  rw [Scope.hasName, Scope.hasName, hsame]

/-- A loop without a label gets one that no name in it is. -/
theorem Statement.Hygienic.sameName_next (h : s.Hygienic stem least pairs)
    (hs : s.scopeKind? = some .loop) (hl : Text.nonEmpty s.label? = none) {i : Nat} (hi : least ≤ i)
    {taken : List String} (htaken : commonLabels pairs ⊆ taken) {x : String} (hx : s.Mentions x) :
    Text.sameName x (LabelSource.next ⟨stem, i⟩ taken).1 = false := by
  refine Bool.eq_false_iff.2 fun hsame => ?_
  have hlt := Nat.lt_of_le_of_lt hi (LabelSource.lt_next ⟨stem, i⟩ taken)
  have hcommon := h.spares .here hs hl hx hlt hsame
  have hfree := LabelSource.next_free ⟨stem, i⟩ taken
  rw [← hasName_congr hsame, hasName_of_subset htaken hcommon] at hfree
  cases hfree

theorem labelOr_agree (h : s.Hygienic stem least pairs) (hs : s.scopeKind? = some .loop) :
    Agree stem least pairs (LoopPair pairs s) (labelOr s.label?) (labelOr s.label?) := by
  rintro _ _ ⟨hn, hi, hj⟩
  rename_i n i j
  rw [labelOr_apply, labelOr_apply]
  cases hl : Text.nonEmpty s.label? with
  | some l =>
    rw [Checker.labelled_of_nonEmpty hl, Checker.labelled_of_nonEmpty hl]
    have hmentions := Statement.mentions_label (Text.eq_some_of_nonEmpty hl)
    refine ⟨⟨.rfl, (h.alike l hmentions).hasName, fun _ _ => rfl, fun y hy => ?_⟩, .mk hn hi hj⟩
    obtain rfl := Option.some.inj (hl.symm.trans hy)
    exact ⟨rfl, rfl⟩
  | none =>
    have hleft : commonLabels pairs ⊆ pairs.filterMap (·.1) := fun l hl =>
      List.mem_filterMap.2 ⟨_, mem_commonLabels.1 hl, rfl⟩
    have hright : commonLabels pairs ⊆ pairs.filterMap (·.2) := fun l hl =>
      List.mem_filterMap.2 ⟨_, mem_commonLabels.1 hl, rfl⟩
    unfold Checker.labelled
    dsimp only
    rw [hl, Nesting.openLabels_relabelled hn, Nesting.openLabels_relabelled hn]
    refine ⟨⟨LabelSource.checkLabel_label stem _ _, ?_, fun x hx => ?_, fun y hy => ?_⟩,
      .mk hn (Nat.le_trans hi ?_) (Nat.le_trans hj ?_)⟩
    · exact (LabelSource.next_free ⟨stem, i⟩ _).trans (LabelSource.next_free ⟨stem, j⟩ _).symm
    · rw [h.sameName_next hs hl hi hleft hx, h.sameName_next hs hl hj hright hx]
    · rw [hl] at hy
      cases hy
    · exact Nat.le_of_lt (LabelSource.lt_next ⟨stem, i⟩ _)
    · exact Nat.le_of_lt (LabelSource.lt_next ⟨stem, j⟩ _)

end

open Statement

section

variable {stem : String} {least : Nat}

mutual

/-- **Statements are checked alike** under labels of which they know alike. -/
theorem Statement.check_agree {pairs : List (Option String × Option String)} : ∀ s : Statement,
    s.Hygienic stem least pairs → Agree stem least pairs Any s.check s.check
  | .foreign _, _ => .throw _ _
  | .delimiter _, _ => .throw _ _
  | .empty, _ => .pure trivial
  | .declareVariables names _ _, _ =>
    .bind_eq (resolveAll_agree _) fun _ =>
      .bind_eq (forM_agree declareVariable_agree names) fun _ => .pure trivial
  | .declareCondition name _, _ => .bind_eq (declareCondition_agree name) fun _ => .pure trivial
  | .declareCursor name _, _ =>
    .bind_eq (resolveAll_agree _) fun _ =>
      .bind_eq (declareCursor_agree name) fun _ => .pure trivial
  | .declareHandler _ conditions body, h =>
    .bind_eq declareHandler_agree fun _ => .bind_eq (resolveConditions_agree conditions) fun _ =>
      .bind_eq states_agree fun _ => .bind (child_none_agree .handler) fun _ _ hp =>
        .bind (keepStates_agree (within_agree hp (.bind_eq unknownStates_agree fun _ =>
          Statement.check_agree body (h.inside nofun (.head _) body (.head _))))) fun _ _ _ =>
            .pure trivial
  | .block b, h =>
    .bind_eq noteStatement_agree fun _ =>
      .bind (Block.check_agree b h) fun _ _ _ => .pure trivial
  | .iterate label, h =>
    .bind_eq noteStatement_agree fun _ =>
      .bind_eq (iterateTarget_agree (h.alike label ⟨[], _, .here, .iterate⟩)) fun _ => .pure trivial
  | .leave label, h =>
    .bind_eq noteStatement_agree fun _ =>
      .bind_eq (leaveTarget_agree (h.alike label ⟨[], _, .here, .leave⟩)) fun _ => .pure trivial
  | .openCursor name, _ =>
    .bind_eq noteStatement_agree fun _ =>
      .bind_eq (useCursor_agree .open name) fun _ => .pure trivial
  | .fetch name targets, _ =>
    .bind_eq noteStatement_agree fun _ => .bind_eq (fetch_agree name targets) fun _ => .pure trivial
  | .closeCursor name, _ =>
    .bind_eq noteStatement_agree fun _ =>
      .bind_eq (useCursor_agree .close name) fun _ => .pure trivial
  | .select query, _ =>
    .bind_eq noteStatement_agree fun _ => .bind_eq (resolveAll_agree _) fun _ =>
      .bind_eq (resolveTargets_agree query.into) fun _ => .pure trivial
  | .insert _, _ =>
    .bind_eq noteStatement_agree fun _ => .bind_eq (resolveAll_agree _) fun _ => .pure trivial
  | .set assigned, _ =>
    .bind_eq noteStatement_agree fun _ =>
      .bind_eq (assignments_agree assigned) fun _ => .pure trivial
  | .call _ _, _ =>
    .bind_eq noteStatement_agree fun _ => .bind_eq (resolveAll_agree _) fun _ => .pure trivial
  | .signal condition _ _, _ =>
    .bind_eq noteStatement_agree fun _ => .bind_eq (resolveConditions_agree [condition]) fun _ =>
      .bind_eq (resolveAll_agree _) fun _ => .pure trivial
  | .raw sql, _ =>
    .bind_eq noteStatement_agree fun _ => .bind_eq (rawText_agree sql) fun _ => .pure trivial
  | .loop label body, h => by
    have hs : (Statement.loop label body).scopeKind? = some .loop := rfl
    exact .bind_eq noteStatement_agree fun _ =>
      .bind (labelOr_agree h hs) fun l l' hl =>
        .bind (child_agree hl.valid hl.taken .loop) fun _ _ hp =>
          .bind (within_agree hp (Statement.checkAll_agree body (hl.inside h (.head _))))
            fun _ _ _ => .pure trivial
  | .whileLoop label test body, h => by
    have hs : (Statement.whileLoop label test body).scopeKind? = some .loop := rfl
    exact .bind_eq noteStatement_agree fun _ =>
      .bind (labelOr_agree h hs) fun l l' hl => .bind_eq (resolveAll_agree _) fun _ =>
        .bind (child_agree hl.valid hl.taken .loop) fun _ _ hp =>
          .bind (within_agree hp (Statement.checkAll_agree body (hl.inside h (.head _))))
            fun _ _ _ => .pure trivial
  | .repeatLoop label test body, h => by
    have hs : (Statement.repeatLoop label test body).scopeKind? = some .loop := rfl
    exact .bind_eq noteStatement_agree fun _ =>
      .bind (labelOr_agree h hs) fun l l' hl =>
        .bind (child_agree hl.valid hl.taken .loop) fun _ _ hp =>
          .bind (within_agree hp (.bind (Statement.checkAll_agree body (hl.inside h (.head _)))
            fun _ _ _ => .bind_eq (resolveAll_agree _) fun _ => .pure trivial)) fun _ _ _ =>
              .pure trivial
  | .ifElse branches otherwise, h =>
    .bind_eq noteStatement_agree fun _ => .bind_eq states_agree fun before =>
      .bind (IfBranch.checkAll_agree before branches fun _ hb =>
          h.inside nofun (List.mem_append_left _ (List.mem_map_of_mem hb))) fun ⟨_, _⟩ ⟨_, _⟩ hr =>
        .bind (Statement.checkElse_agree before otherwise fun _ hbody =>
            h.inside nofun (List.mem_append_right _ (Option.mem_toList.2 hbody)))
          fun ⟨_, _⟩ ⟨_, _⟩ hr' => by
          cases hr
          cases hr'
          exact .bind_eq (setStates_agree _) fun _ => .pure trivial
  | .cases _ whens otherwise, h =>
    .bind_eq noteStatement_agree fun _ => .bind_eq (resolveAll_agree _) fun _ =>
      .bind_eq states_agree fun before =>
      .bind (CaseWhen.checkAll_agree before whens fun _ hw =>
          h.inside nofun (List.mem_append_left _ (List.mem_map_of_mem hw))) fun ⟨_, _⟩ ⟨_, _⟩ hr =>
        .bind (Statement.checkElse_agree before otherwise fun _ hbody =>
            h.inside nofun (List.mem_append_right _ (Option.mem_toList.2 hbody)))
          fun ⟨_, _⟩ ⟨_, _⟩ hr' => by
          cases hr
          cases hr'
          exact .bind_eq (setStates_agree _) fun _ => .pure trivial

theorem Statement.checkAll_agree {pairs : List (Option String × Option String)} :
    ∀ ss : List Statement, (∀ s ∈ ss, s.Hygienic stem least pairs) →
      Agree stem least pairs Any (Statement.checkAll ss) (Statement.checkAll ss)
  | [], _ => .pure trivial
  | s :: ss, h =>
    .bind (Statement.check_agree s (h s (.head _))) fun _ _ _ =>
      .bind (Statement.checkAll_agree ss fun t ht => h t (.tail _ ht)) fun _ _ _ => .pure trivial

theorem Statement.checkElse_agree {pairs : List (Option String × Option String)}
    (before : List CursorState) : ∀ otherwise : Option (List Statement),
      (∀ body, otherwise = some body → ∀ s ∈ body, s.Hygienic stem least ((none, none) :: pairs)) →
      Agree stem least pairs (fun r r' => r.2 = r'.2) (Statement.checkElse before otherwise)
        (Statement.checkElse before otherwise)
  | none, _ => .pure rfl
  | some body, h =>
    .bind_eq (setStates_agree before) fun _ => .bind (child_none_agree .branch) fun _ _ hp =>
      .bind (within_agree hp (Statement.checkAll_agree body (h body rfl))) fun _ _ _ =>
        .bind_eq states_agree fun _ => .pure rfl

theorem Block.check_agree {pairs : List (Option String × Option String)} : ∀ b : Block,
    (Statement.block b).Hygienic stem least pairs → Agree stem least pairs Any b.check b.check
  | ⟨ss, none, _⟩, h =>
    .bind (child_none_agree .block) fun _ _ hp =>
      .bind (R := Any) (within_agree hp (.bind view_agree fun _ _ _ =>
        .bind (Statement.checkAll_agree ss (h.inside nofun (.head _))) fun _ _ _ => .pure trivial))
          fun _ _ _ => .pure trivial
  | ⟨ss, some l, _⟩, h =>
    have hl := (h.alike l (Statement.mentions_label rfl)).hasName
    .bind (child_agree .rfl hl .block) fun _ _ hp =>
      .bind (R := Any) (within_agree hp (.bind view_agree fun _ _ _ =>
        .bind (Statement.checkAll_agree ss (h.inside (fun _ => Text.eq_some_of_nonEmpty) (.head _)))
          fun _ _ _ => .pure trivial)) fun _ _ _ => .pure trivial

theorem IfBranch.checkAll_agree {pairs : List (Option String × Option String)}
    (before : List CursorState) : ∀ branches : List IfBranch,
    (∀ b ∈ branches, ∀ s ∈ b.statements, s.Hygienic stem least ((none, none) :: pairs)) →
      Agree stem least pairs (fun r r' => r.2 = r'.2) (IfBranch.checkAll before branches)
        (IfBranch.checkAll before branches)
  | [], _ => .pure rfl
  | ⟨test, body⟩ :: rest, h =>
    .bind_eq (setStates_agree before) fun _ => .bind_eq (resolveAll_agree _) fun _ =>
      .bind (child_none_agree .branch) fun _ _ hp =>
        .bind (within_agree hp (Statement.checkAll_agree body (h ⟨test, body⟩ (.head _))))
          fun _ _ _ => .bind_eq states_agree fun outcome =>
            .bind (IfBranch.checkAll_agree before rest fun _ hb => h _ (.tail _ hb)) fun _ _ hr =>
              .pure (congrArg (outcome :: ·) hr)

theorem CaseWhen.checkAll_agree {pairs : List (Option String × Option String)}
    (before : List CursorState) : ∀ whens : List CaseWhen,
    (∀ w ∈ whens, ∀ s ∈ w.statements, s.Hygienic stem least ((none, none) :: pairs)) →
      Agree stem least pairs (fun r r' => r.2 = r'.2) (CaseWhen.checkAll before whens)
        (CaseWhen.checkAll before whens)
  | [], _ => .pure rfl
  | ⟨test, body⟩ :: rest, h =>
    .bind_eq (setStates_agree before) fun _ => .bind_eq (resolveAll_agree _) fun _ =>
      .bind (child_none_agree .branch) fun _ _ hp =>
        .bind (within_agree hp (Statement.checkAll_agree body (h ⟨test, body⟩ (.head _))))
          fun _ _ _ => .bind_eq states_agree fun outcome =>
            .bind (CaseWhen.checkAll_agree before rest fun _ hb => h _ (.tail _ hb)) fun _ _ hr =>
              .pure (congrArg (outcome :: ·) hr)

end

end

/-! ## Acceptance -/

/-- A loop without a label around one that has the first label that can be generated. -/
def innerLabel : Statement := .loop none [.loop (some "loop_1") [.raw "SET @a = 1"]]

/-- The number that is used next decides whether the loop is accepted: the generated label is given
before the label inside is met. -/
theorem innerLabel_rejected :
    ((emptyBuilder.withLabels ⟨"loop", 0⟩).perform (.statements [innerLabel])).1.isOk = false ∧
      ((emptyBuilder.withLabels ⟨"loop", 1⟩).perform (.statements [innerLabel])).1.isOk = true := by
  decide +kernel

/-- A statement is accepted where the builder takes statements and the check succeeds. -/
theorem Builder.isOk_perform (b : Builder) (s : Statement) :
    (b.perform (.statements [s])).1.isOk =
      (!b.consumed && b.takesStatements && (s.check b.checker).1.isOk) := by
  cases hl : b.consumed with
  | true =>
    have hadd : add s b = (.error (.structural .consumed), b) := bind_of_error (live_error hl)
    rw [perform_statement hadd]
    rfl
  | false =>
    cases ht : b.takesStatements with
    | false =>
      have hadd : add s b = (.error (.structural (.whenExpected b.inner.construct.describe)),
          { b with opened := none }) := by
        unfold add
        rw [bind_of_ok (live_apply hl), bind_of_ok (modify_apply _ b),
          bind_of_error (needScope_error (b := { b with opened := none }) ht)]
      rw [perform_statement hadd]
      rfl
    | true =>
      rcases hs : s.check b.checker with ⟨e | s', c⟩
      · rw [perform_statement (add_error hl ht hs)]
        rfl
      · rw [perform_statement (add_ok hl ht hs)]
        rfl

/-- The labels that are open in a builder, as those of two runs. -/
def Builder.samePairs (b : Builder) : List (Option String × Option String) :=
  b.checker.nesting.scopes.map fun s => (s.label, s.label)

theorem Builder.commonLabels_samePairs (b : Builder) :
    commonLabels b.samePairs = b.checker.nesting.openLabels := by
  unfold commonLabels samePairs Nesting.openLabels
  rw [List.filterMap_map]
  exact congrArg (List.filterMap · _) (funext fun s => if_pos rfl)

/-- A builder with two sources of labels gives twins. -/
theorem Builder.withLabels_twins (b : Builder) (stem : String) {least i j : Nat} (hi : least ≤ i)
    (hj : least ≤ j) : (b.withLabels ⟨stem, i⟩).checker.Twins stem least b.samePairs
      (b.withLabels ⟨stem, j⟩).checker := by
  have hlength : b.checker.nesting.scopes.length = b.samePairs.length := (List.length_map _).symm
  have h : Checker.Twins stem least b.samePairs _ _ := .mk hlength hi hj
  have hfst : b.samePairs.map (·.1) = b.checker.nesting.scopes.map (·.label) := List.map_map
  have hsnd : b.samePairs.map (·.2) = b.checker.nesting.scopes.map (·.label) := List.map_map
  rwa [hfst, hsnd, Nesting.relabelled_self] at h

/-- **Generated labels do not decide whether a statement is accepted.** Where in each loop that has
no label the names that look like labels of later numbers are labels of constructs around the loop,
a statement is accepted from one number on if and only if it is from any other one. -/
theorem accepted_whatever_number {b : Builder} {s : Statement} {stem : String} {i j : Nat}
    (h : s.SparesLabels b.checker.nesting.openLabels stem (min i j)) :
    ((b.withLabels ⟨stem, i⟩).perform (.statements [s])).1.isOk =
      ((b.withLabels ⟨stem, j⟩).perform (.statements [s])).1.isOk := by
  have hsame : ∀ p ∈ b.samePairs, p.1 = p.2 := by
    intro p hp
    obtain ⟨scope, _, rfl⟩ := List.mem_map.1 hp
    rfl
  have hs : s.Hygienic stem (min i j) b.samePairs :=
    ⟨fun x _ p hp => by rw [hsame p hp], b.commonLabels_samePairs ▸ h⟩
  have htwins := b.withLabels_twins stem (Nat.min_le_left i j) (Nat.min_le_right i j)
  have hcheck := (s.check_agree hs htwins).1.isOk_eq
  rw [Builder.isOk_perform, Builder.isOk_perform, hcheck]
  rfl

/-- The only name in the loop is the label inside. -/
theorem innerLabel_mentions {x : String} (h : innerLabel.Mentions x) : x = "loop_1" := by
  have heverywhere : innerLabel.Everywhere fun u => Statement.Names x u → x = "loop_1" := by
    refine Statement.everywhere_iff.2 ⟨fun hx => ?_, fun body hbody t ht => ?_⟩
    · obtain ⟨⟨⟩⟩ := hx
    · obtain rfl := List.mem_singleton.1 hbody
      obtain rfl := List.mem_singleton.1 ht
      refine Statement.everywhere_iff.2 ⟨fun hx => ?_, fun body hbody t ht => ?_⟩
      · obtain ⟨⟨⟩⟩ := hx
        rfl
      · obtain rfl := List.mem_singleton.1 hbody
        obtain rfl := List.mem_singleton.1 ht
        refine Statement.everywhere_iff.2 ⟨fun hx => ?_, nofun⟩
        obtain ⟨⟨⟩⟩ := hx
  obtain ⟨levels, u, hu, hx⟩ := h
  exact heverywhere hu hx

/-- The loop whose label inside has the first number is accepted from all later numbers on alike. -/
theorem innerLabel_accepted :
    innerLabel.SparesLabels emptyBuilder.checker.nesting.openLabels "loop" (min 1 5) ∧
      ((emptyBuilder.withLabels ⟨"loop", 1⟩).perform (.statements [innerLabel])).1.isOk =
        ((emptyBuilder.withLabels ⟨"loop", 5⟩).perform (.statements [innerLabel])).1.isOk := by
  have hspares : innerLabel.SparesLabels emptyBuilder.checker.nesting.openLabels "loop"
      (min 1 5) := by
    intro levels t ht _ _ x n hx hn hsame
    obtain ⟨_, u, hu, hnames⟩ := hx
    have hfirst : x = LabelSource.label "loop" 1 :=
      (innerLabel_mentions ⟨_, u, ht.trans hu, hnames⟩).trans (by decide +kernel)
    rw [hfirst] at hsame
    have hone := LabelSource.label_injective hsame
    exact absurd hn (by rw [← hone]; decide)
  exact ⟨hspares, accepted_whatever_number hspares⟩

end StoredSql
