import StoredSql.Proofs.CheckFrame
import StoredSql.Proofs.Places

/-!
# Where labels are taken

A check takes a label for each loop that has none and for nothing else. So what each loop does to
the source of labels is what the whole check does to it (`Statement.check_labels`): where all loops
have labels, the source stays as it is (`Statement.labels_of_named`), and at all events it goes on
from the numbers that are used (`LabelSource.MovesOn`).
-/

namespace StoredSql

open Check Stepwise

/-! ## Sources of labels -/

namespace LabelSource

theorem le_seek (stem : String) (taken : List String) (fuel n : Nat) :
    n ≤ seek stem taken fuel n := by
  induction fuel generalizing n with
  | zero => exact Nat.le_refl n
  | succ fuel ih =>
    rw [seek]
    split
    · exact Nat.le_of_succ_le (ih (n + 1))
    · exact Nat.le_refl n

instance : Std.Refl (@Eq LabelSource) where
  refl _ := rfl

/-- The same stem, with more numbers used. -/
structure MovesOn (r s : LabelSource) : Prop where
  stem : s.stem = r.stem
  last : r.last ≤ s.last

instance : Std.Refl MovesOn where
  refl _ := ⟨rfl, Nat.le_refl _⟩

instance : Trans MovesOn MovesOn MovesOn where
  trans h h' := ⟨h'.stem.trans h.stem, Nat.le_trans h.last h'.last⟩

/-- The next label has a number that has not been used. -/
theorem lt_next (source : LabelSource) (taken : List String) :
    source.last < (source.next taken).2.last :=
  le_seek source.stem taken taken.length (source.last + 1)

theorem next_movesOn (source : LabelSource) (taken : List String) :
    source.MovesOn (source.next taken).2 :=
  ⟨rfl, Nat.le_of_lt (source.lt_next taken)⟩

end LabelSource

namespace Checker

/-- The sources of labels are related. -/
def Labels (R : LabelSource → LabelSource → Prop) (c c' : Checker) : Prop := R c.labels c'.labels

variable {R : LabelSource → LabelSource → Prop}

instance [Std.Refl R] : Std.Refl (Labels R) where
  refl c := Std.Refl.refl (r := R) c.labels

instance [Trans R R R] : Trans (Labels R) (Labels R) (Labels R) where
  trans h h' := Trans.trans (r := R) (s := R) (t := R) h h'

end Checker

/-! ## Checks -/

/-- What happens to the source of labels where a loop gets its label. -/
def Statement.LabelsBy (R : LabelSource → LabelSource → Prop) (s : Statement) : Prop :=
  s.scopeKind? = some .loop → ∀ c : Checker, c.Labels R (c.labelled s.label?).2

namespace Check

variable {α : Type} {R : LabelSource → LabelSource → Prop}

theorem within_labels {s : Scope} {act : Check α} (h : Keeps (Checker.Labels R) act) :
    Keeps (Checker.Labels R) (within s act) :=
  fun c => h (c.entered s)

theorem keepStates_labels {states : List CursorState} {act : Check α}
    (h : Keeps (Checker.Labels R) act) : Keeps (Checker.Labels R) (keepStates states act) := h

theorem change_labels [Std.Refl R] (f : Nesting → Except Error Nesting) :
    Keeps (Checker.Labels R) (change f) := by
  intro c
  rcases h : f c.nesting with e | n
  · rw [change_of_error h]
    exact Std.Refl.refl (r := R) c.labels
  · rw [change_of_ok h]
    exact Std.Refl.refl (r := R) c.labels

theorem declare_labels [Std.Refl R] (f : Scope → Except Error Unit × Scope) :
    Keeps (Checker.Labels R) (declare f) :=
  fun c => Std.Refl.refl (r := R) c.labels

theorem fetch_labels [Std.Refl R] [Trans R R R] (name : String) (targets : List String) :
    Keeps (Checker.Labels R) (Check.fetch name targets) :=
  .bind (ask_keeps _) fun _ => .bind (ask_keeps _) fun _ => change_labels _

theorem labelOr_labels {s : Statement} (h : s.LabelsBy R) (hs : s.scopeKind? = some .loop) :
    Keeps (Checker.Labels R) (labelOr s.label?) := by
  intro c
  rw [labelOr_apply]
  exact h hs c

end Check

open Statement

section

variable {R : LabelSource → LabelSource → Prop} [Std.Refl R] [Trans R R R]

mutual

/-- **A check does to the source of labels what its loops do.** -/
theorem Statement.check_labels : ∀ s : Statement, s.Everywhere (LabelsBy R) →
    Keeps (Checker.Labels R) s.check
  | .foreign _, _ => .throw _
  | .delimiter _, _ => .throw _
  | .empty, _ => .pure _
  | .declareVariables names _ _, _ =>
    .bind (ask_keeps _) fun _ =>
      .bind (forM_keeps (fun _ => declare_labels _) names) fun _ => .pure _
  | .declareCondition _ _, _ => .bind (declare_labels _) fun _ => .pure _
  | .declareCursor _ _, _ =>
    .bind (ask_keeps _) fun _ => .bind (declare_labels _) fun _ => .pure _
  | .declareHandler _ _ body, h =>
    .bind (declare_labels _) fun _ => .bind (ask_keeps _) fun _ => .bind (ask_keeps _) fun _ =>
      .bind (ask_keeps _) fun _ =>
        .bind (keepStates_labels (within_labels (.bind (change_labels _) fun _ =>
          Statement.check_labels body (h.held (.head _) body (.head _))))) fun _ => .pure _
  | .block b, h =>
    .bind (change_labels _) fun _ =>
      .bind (Block.check_labels b (h.held (.head _))) fun _ => .pure _
  | .loop label body, h =>
    .bind (change_labels _) fun _ =>
      .bind (labelOr_labels (s := .loop label body) (h .here) rfl) fun _ =>
        .bind (ask_keeps _) fun _ =>
          .bind (within_labels (Statement.checkAll_labels body (h.held (.head _)))) fun _ => .pure _
  | .whileLoop label test body, h =>
    .bind (change_labels _) fun _ =>
      .bind (labelOr_labels (s := .whileLoop label test body) (h .here) rfl) fun _ =>
        .bind (ask_keeps _) fun _ => .bind (ask_keeps _) fun _ =>
          .bind (within_labels (Statement.checkAll_labels body (h.held (.head _)))) fun _ => .pure _
  | .repeatLoop label test body, h =>
    .bind (change_labels _) fun _ =>
      .bind (labelOr_labels (s := .repeatLoop label test body) (h .here) rfl) fun _ =>
        .bind (ask_keeps _) fun _ =>
          .bind (within_labels (.bind (Statement.checkAll_labels body (h.held (.head _))) fun _ =>
            .bind (ask_keeps _) fun _ => .pure _)) fun _ => .pure _
  | .ifElse branches otherwise, h =>
    .bind (change_labels _) fun _ => .bind (ask_keeps _) fun before =>
      .bind (IfBranch.checkAll_labels before branches fun _ hb =>
          h.held (List.mem_append_left _ (List.mem_map_of_mem hb))) fun _ =>
        .bind (Statement.checkElse_labels before otherwise fun _ hbody =>
            h.held (List.mem_append_right _ (Option.mem_toList.2 hbody))) fun _ =>
          .bind (change_labels _) fun _ => .pure _
  | .cases _ whens otherwise, h =>
    .bind (change_labels _) fun _ => .bind (ask_keeps _) fun _ => .bind (ask_keeps _) fun before =>
      .bind (CaseWhen.checkAll_labels before whens fun _ hw =>
          h.held (List.mem_append_left _ (List.mem_map_of_mem hw))) fun _ =>
        .bind (Statement.checkElse_labels before otherwise fun _ hbody =>
            h.held (List.mem_append_right _ (Option.mem_toList.2 hbody))) fun _ =>
          .bind (change_labels _) fun _ => .pure _
  | .iterate _, _ => .bind (change_labels _) fun _ => .bind (ask_keeps _) fun _ => .pure _
  | .leave _, _ => .bind (change_labels _) fun _ => .bind (ask_keeps _) fun _ => .pure _
  | .openCursor _, _ => .bind (change_labels _) fun _ => .bind (change_labels _) fun _ => .pure _
  | .fetch name targets, _ =>
    .bind (change_labels _) fun _ => .bind (fetch_labels name targets) fun _ => .pure _
  | .closeCursor _, _ => .bind (change_labels _) fun _ => .bind (change_labels _) fun _ => .pure _
  | .select _, _ =>
    .bind (change_labels _) fun _ => .bind (ask_keeps _) fun _ =>
      .bind (ask_keeps _) fun _ => .pure _
  | .insert _, _ => .bind (change_labels _) fun _ => .bind (ask_keeps _) fun _ => .pure _
  | .set pairs, _ =>
    .bind (change_labels _) fun _ => .bind (assignments_keeps pairs) fun _ => .pure _
  | .call _ _, _ => .bind (change_labels _) fun _ => .bind (ask_keeps _) fun _ => .pure _
  | .signal _ _ _, _ =>
    .bind (change_labels _) fun _ => .bind (ask_keeps _) fun _ =>
      .bind (ask_keeps _) fun _ => .pure _
  | .raw sql, _ => .bind (change_labels _) fun _ => .bind (rawText_keeps sql) fun _ => .pure _

theorem Statement.checkAll_labels : ∀ ss : List Statement, (∀ s ∈ ss, s.Everywhere (LabelsBy R)) →
    Keeps (Checker.Labels R) (Statement.checkAll ss)
  | [], _ => .pure _
  | s :: ss, h =>
    .bind (Statement.check_labels s (h s (.head _))) fun _ =>
      .bind (Statement.checkAll_labels ss fun t ht => h t (.tail _ ht)) fun _ => .pure _

theorem Statement.checkElse_labels (before : List CursorState) :
    ∀ otherwise : Option (List Statement),
      (∀ body, otherwise = some body → ∀ s ∈ body, s.Everywhere (LabelsBy R)) →
      Keeps (Checker.Labels R) (Statement.checkElse before otherwise)
  | none, _ => .pure _
  | some body, h =>
    .bind (change_labels _) fun _ => .bind (ask_keeps _) fun _ =>
      .bind (within_labels (Statement.checkAll_labels body (h body rfl))) fun _ =>
        .bind (ask_keeps _) fun _ => .pure _

theorem Block.check_labels : ∀ b : Block, (∀ s ∈ b.statements, s.Everywhere (LabelsBy R)) →
    Keeps (Checker.Labels R) b.check
  | ⟨ss, _, _⟩, h =>
    .bind (ask_keeps _) fun _ =>
      .bind (within_labels (.bind (ask_keeps _) fun _ =>
        .bind (Statement.checkAll_labels ss h) fun _ => .pure _)) fun _ => .pure _

theorem IfBranch.checkAll_labels (before : List CursorState) : ∀ branches : List IfBranch,
    (∀ b ∈ branches, ∀ s ∈ b.statements, s.Everywhere (LabelsBy R)) →
      Keeps (Checker.Labels R) (IfBranch.checkAll before branches)
  | [], _ => .pure _
  | ⟨test, body⟩ :: rest, h =>
    .bind (change_labels _) fun _ => .bind (ask_keeps _) fun _ => .bind (ask_keeps _) fun _ =>
      .bind (within_labels (Statement.checkAll_labels body (h ⟨test, body⟩ (.head _)))) fun _ =>
        .bind (ask_keeps _) fun _ =>
          .bind (IfBranch.checkAll_labels before rest fun _ hb => h _ (.tail _ hb)) fun _ => .pure _

theorem CaseWhen.checkAll_labels (before : List CursorState) : ∀ whens : List CaseWhen,
    (∀ w ∈ whens, ∀ s ∈ w.statements, s.Everywhere (LabelsBy R)) →
      Keeps (Checker.Labels R) (CaseWhen.checkAll before whens)
  | [], _ => .pure _
  | ⟨test, body⟩ :: rest, h =>
    .bind (change_labels _) fun _ => .bind (ask_keeps _) fun _ => .bind (ask_keeps _) fun _ =>
      .bind (within_labels (Statement.checkAll_labels body (h ⟨test, body⟩ (.head _)))) fun _ =>
        .bind (ask_keeps _) fun _ =>
          .bind (CaseWhen.checkAll_labels before rest fun _ hw => h _ (.tail _ hw)) fun _ => .pure _

end

end

namespace Statement

/-- Whether a statement, if it is a loop, has a label of its own. -/
def IsNamed (s : Statement) : Prop :=
  s.scopeKind? = some .loop → (Text.nonEmpty s.label?).isSome = true

/-- Statements whose loops all have labels take none. -/
theorem labels_of_named {ss : List Statement} (h : ∀ s ∈ ss, s.Everywhere IsNamed) :
    Keeps (Checker.Labels Eq) (checkAll ss) := by
  refine checkAll_labels ss fun s hs levels t ht hloop c => ?_
  obtain ⟨l, hl⟩ := Option.isSome_iff_exists.1 (h s hs ht hloop)
  rw [Checker.labelled_of_nonEmpty hl]
  rfl

end Statement

theorem Checker.labelled_movesOn (label : Option String) (c : Checker) :
    c.Labels LabelSource.MovesOn (c.labelled label).2 := by
  unfold labelled
  cases Text.nonEmpty label with
  | some l => exact Std.Refl.refl (r := LabelSource.MovesOn) c.labels
  | none => exact c.labels.next_movesOn c.nesting.openLabels

/-- Whatever is checked, no number is used twice. -/
theorem Statement.everywhere_movesOn (s : Statement) :
    s.Everywhere (LabelsBy LabelSource.MovesOn) :=
  fun _ t _ _ c => c.labelled_movesOn t.label?

end StoredSql
