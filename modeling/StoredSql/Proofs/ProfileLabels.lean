import StoredSql.Profile
import StoredSql.Proofs.BuilderSteps
import StoredSql.Proofs.CallEnds
import StoredSql.Proofs.FreshLabels

/-!
# Generated labels and profiles

The stem of generated labels comes from a profile, which takes every word for it, in any script.
A label has to be plain, though. So a loop that is opened without a label gets a free one in all
states of a builder that has its stem from a profile, and it is opened exactly if the stem is an
ASCII text (`Profile.generated_labels`); else each such call fails, whatever the number of the label
(`Profile.accented_stem_fails`).
-/

namespace StoredSql

open Check Stepwise

/-! ## Words and plain names -/

namespace Text

theorem isStart_iff_of_isWordStart {c : Char} (h : isWordStart c = true) :
    Identifier.isStart c = true ↔ c.val < 128 := by
  constructor
  · intro hstart
    have hpart : Identifier.isPart c = true := by rw [Identifier.isPart, hstart, Bool.true_or]
    exact Scan.val_lt_of_isPart hpart
  · intro hval
    rw [isWordStart, if_pos hval] at h
    rw [Identifier.isStart, h, Bool.true_or]

theorem isPart_iff_of_isWordPart {c : Char} (h : isWordPart c = true) :
    Identifier.isPart c = true ↔ c.val < 128 := by
  constructor
  · exact Scan.val_lt_of_isPart
  · intro hval
    rw [isWordPart, if_pos hval] at h
    simp only [Identifier.isPart, Identifier.isStart, Bool.or_eq_true] at h ⊢
    rcases h with (halpha | hdigit) | hline
    · exact .inl (.inl (.inl halpha))
    · exact .inr hdigit
    · exact .inl (.inl (.inr hline))

end Text

/-- **The labels of a stem.** A construct can be labelled with a number and a word before it exactly
if the word is ASCII, whatever the number. -/
theorem LabelSource.checkLabel_label_iff {stem : String} (h : Text.isWord stem = true) (n : Nat) :
    Identifier.checkLabel (label stem n) = .ok (label stem n) ↔ Text.IsAscii stem := by
  rw [Identifier.checkLabel_eq_ok_iff, not_isReserved_label]
  unfold Text.isWord at h
  unfold Text.IsAscii
  split at h
  · cases h
  · rename_i c cs hstem
    obtain ⟨hc, hcs⟩ := Bool.and_eq_true_iff.1 h
    rw [isPlain_label_cons hstem, hstem, Bool.and_eq_true, List.forall_mem_cons,
      Text.isStart_iff_of_isWordStart hc, List.all_eq_true]
    have hall : (∀ d ∈ cs, Identifier.isPart d = true) ↔ ∀ d ∈ cs, d.val < 128 :=
      forall₂_congr fun d hd => Text.isPart_iff_of_isWordPart (List.all_eq_true.1 hcs d hd)
    rw [hall]
    exact ⟨fun h => h.2.1, fun h => ⟨rfl, h, rfl⟩⟩

/-- A label that a construct cannot have for its stem is refused as one that is not plain. -/
theorem LabelSource.checkLabel_label_error {stem : String} (h : Text.isWord stem = true)
    (hstem : ¬ Text.IsAscii stem) (n : Nat) : Identifier.checkLabel (label stem n) =
      .error (.naming (.labelNotPlain (Text.quoted (label stem n)))) := by
  have hplain : Identifier.isPlain (label stem n) = false := by
    refine Bool.eq_false_iff.2 fun hplain => hstem ((checkLabel_label_iff h n).1 ?_)
    exact Identifier.checkLabel_eq_ok_iff.2 ⟨rfl, hplain, not_isReserved_label stem n⟩
  rw [Identifier.checkLabel, Identifier.checkShownLabel, hplain]
  rfl

/-! ## Accepted profiles -/

theorem Profile.isWord_of_ofEntries {s : Surroundings} {name path : String}
    {entries : List (String × Outline)} {p : Profile}
    (h : ofEntries s name path entries = .ok p) : Text.isWord p.labelStem.asText = true := by
  unfold ofEntries at h
  simp only [Outcome.bind_eq_ok, Outcome.pure_eq_ok] at h
  obtain ⟨_, _, _, _, stem, hstem, rfl⟩ := h
  unfold checkStem at hstem
  split at hstem
  · rename_i hword
    cases hstem
    exact hword.2
  · cases hstem

/-! ## Opening a loop that has no label -/

section

variable {n : Nesting} {l : String} (kind : ScopeKind)

theorem Nesting.child_of_free (h : Scope.hasName n.openLabels l = false)
    (hl : Identifier.checkLabel l = .ok l) :
    ∃ scope, n.child kind (some l) = .ok scope ∧ scope.label = some l := by
  refine ⟨{ kind := kind, label := some l, rows := n.inner.rows }, child_eq_ok.2 ⟨?_, rfl⟩, rfl⟩
  rintro _ ⟨⟩
  exact ⟨hl, h⟩

theorem Nesting.child_of_label_error {e : Error} (h : Identifier.checkLabel l = .error e) :
    n.child kind (some l) = .error e := by
  unfold child
  simp only [h]
  rfl

end

namespace Checker

/-- A statement that has come leaves the open labels. -/
theorem openLabels_noted (c : Checker) : c.noted.nesting.openLabels = c.nesting.openLabels := by
  have hlabel : c.nesting.inner.noteStatement.label = c.nesting.inner.label :=
    congrArg (·.label) c.nesting.inner.noteStatement_eq
  unfold Nesting.openLabels noted Nesting.scopes
  rw [List.filterMap_cons, List.filterMap_cons, hlabel]

/-- The label that a construct gets where it has none: it has a number, and it is free. -/
theorem labelled_none (c : Checker) : ∃ n, 1 ≤ n ∧
    (c.labelled none).1 = LabelSource.label c.labels.stem n ∧
    Scope.hasName c.nesting.openLabels (LabelSource.label c.labels.stem n) = false :=
  ⟨_, Nat.le_trans (Nat.le_add_left 1 _) (LabelSource.le_seek _ _ _ _), rfl,
    c.labels.next_free c.nesting.openLabels⟩

end Checker

namespace Construct

variable {label : Operand} (construct : String → Construct) {c : Checker} {l : String}

theorem givenLabel_of_isFalsy (h : label.outline.isFalsy = true) : givenLabel label = .ok none := by
  unfold givenLabel
  rw [if_pos h]
  rfl

/-- A loop without a label goes into its scope under the next free label. -/
theorem ofLoop_unlabelled_ok (h : label.outline.isFalsy = true) (hl : (c.noted.labelled none).1 = l)
    (hlabel : Identifier.checkLabel l = .ok l) :
    ∃ scope, scope.label = some l ∧
      ofLoop label construct c = (.ok (construct l), (c.noted.labelled none).2.entered scope) := by
  obtain ⟨n, _, hn, hfree⟩ := c.noted.labelled_none
  rw [← hn, hl] at hfree
  obtain ⟨scope, hscope, hname⟩ := Nesting.child_of_free .loop hfree hlabel
  subst hl
  exact ⟨scope, hname,
    ofLoop_eq_ok.2 ⟨none, scope, givenLabel_of_isFalsy h, hscope, rfl, rfl⟩⟩

theorem ofLoop_unlabelled_error {e : Error} (h : label.outline.isFalsy = true)
    (hl : (c.noted.labelled none).1 = l) (hlabel : Identifier.checkLabel l = .error e) :
    ofLoop label construct c = (.error e, (c.noted.labelled none).2) := by
  subst hl
  exact ofLoop_eq_error.2 (.inr ⟨none, givenLabel_of_isFalsy h,
    Nesting.child_of_label_error .loop hlabel, rfl⟩)

end Construct

namespace Builder

variable {b b₀ : Builder} {call : Call}

/-- Whether a call opens a loop that is given no label, with a test that can stand there. -/
inductive OpensUnlabelled (b : Builder) : Call → Prop
  | loop {label : Operand} : label.outline.isFalsy = true → OpensUnlabelled b (.openLoop label)
  | whileLoop {test label : Operand} : label.outline.isFalsy = true →
      b.checker.nesting.resolveAll test.variableNames = .ok () →
      OpensUnlabelled b (.openWhile test label)
  | repeatLoop {label : Operand} : label.outline.isFalsy = true →
      OpensUnlabelled b (.openRepeat label)

/-- All calls that open loops do it in the same way. -/
theorem OpensUnlabelled.act_eq (h : b.OpensUnlabelled call) :
    ∃ (check : Check Construct) (construct : String → Construct) (label : Operand),
      act call = opens check ∧ check b.checker = Construct.ofLoop label construct b.checker ∧
      label.outline.isFalsy = true ∧ ∀ l, (construct l).takesStatements = true := by
  cases h with
  | loop hlabel => exact ⟨_, _, _, rfl, rfl, hlabel, fun _ => rfl⟩
  | @whileLoop test label hlabel htest =>
    refine ⟨_, (.whileLoop · test), label, rfl, ?_, hlabel, fun _ => rfl⟩
    exact bind_of_ok (resolveAll_eq.2 ⟨htest, rfl⟩)
  | repeatLoop hlabel => exact ⟨_, _, _, rfl, rfl, hlabel, fun _ => rfl⟩

/-- A loop that is given no label gets a free one, and whether it is opened is a matter of whether
that label is one. -/
theorem perform_unlabelled (hlive : b.consumed = false) (htakes : b.takesStatements = true)
    (hcall : b.OpensUnlabelled call) : ∃ n l, 1 ≤ n ∧
      l = LabelSource.label b.checker.labels.stem n ∧
      Scope.hasName b.checker.nesting.openLabels l = false ∧
      (Identifier.checkLabel l = .ok l →
        (b.perform call).1 = .ok () ∧ (b.perform call).2.currentLabel = some l) ∧
      ∀ e, Identifier.checkLabel l = .error e → (b.perform call).1 = .error e := by
  obtain ⟨check, construct, label, hact, hcheck, hlabel, hconstruct⟩ := hcall.act_eq
  obtain ⟨n, hn, hl, hfree⟩ := b.checker.noted.labelled_none
  rw [Checker.openLabels_noted] at hfree
  refine ⟨n, _, hn, rfl, hfree, fun hok => ?_, fun e herror => ?_⟩
  · obtain ⟨scope, hscope, hof⟩ :=
      Construct.ofLoop_unlabelled_ok construct hlabel hl hok
    have hperform : b.perform call = _ :=
      (congrFun hact b).trans (opens_ok hlive htakes (hcheck.trans hof))
    rw [hperform]
    refine ⟨rfl, (if_pos (hconstruct _)).trans ?_⟩
    show (List.filterMap (·.label) (scope :: _)).head? = _
    rw [List.filterMap_cons, hscope]
    rfl
  · have hof := Construct.ofLoop_unlabelled_error construct hlabel hl herror
    have hperform : b.perform call = _ :=
      (congrFun hact b).trans (opens_error hlive htakes (hcheck.trans hof))
    rw [hperform]

end Builder

/-! ## Labels from profiles -/

/-- The stem that a builder has from a profile. -/
def Profile.stem (p : Profile) : String := p.labelStem.asText

/-- **The labels that profiles give.** With the stem of an accepted profile, all labels can be given
or none: those of an ASCII stem can. After any calls to a builder that has its stem from the profile,
each call that opens a loop without a label takes a label that is free, and opens the loop under that
label if the stem is ASCII; else it fails, as the label is not plain. -/
theorem Profile.generated_labels {s : Surroundings} {name path : String}
    {entries : List (String × Outline)} {p : Profile} (hp : ofEntries s name path entries = .ok p) :
    (∀ n, Identifier.checkLabel (LabelSource.label p.stem n) = .ok (LabelSource.label p.stem n) ↔
      Text.IsAscii p.stem) ∧
    ∀ (head : ProgramHead) (label : Operand) (b₀ : Builder) (calls : List Call) (call : Call),
      Builder.start head label p.stem = .ok b₀ →
      (b₀.run calls).consumed = false → (b₀.run calls).takesStatements = true →
      (b₀.run calls).OpensUnlabelled call →
      ∃ n l, 1 ≤ n ∧ l = LabelSource.label p.stem n ∧
        Scope.hasName (b₀.run calls).checker.nesting.openLabels l = false ∧
        (Text.IsAscii p.stem → ((b₀.run calls).perform call).1 = .ok () ∧
          ((b₀.run calls).perform call).2.currentLabel = some l) ∧
        (¬ Text.IsAscii p.stem → ((b₀.run calls).perform call).1 =
          .error (.naming (.labelNotPlain (Text.quoted l)))) := by
  have hword : Text.isWord p.stem = true := isWord_of_ofEntries hp
  refine ⟨LabelSource.checkLabel_label_iff hword, ?_⟩
  intro head label b₀ calls call hb hlive htakes hcall
  obtain ⟨n, l, hn, hl, hfree, hok, herror⟩ := Builder.perform_unlabelled hlive htakes hcall
  rw [(Builder.run_start hb calls).2] at hl
  subst hl
  refine ⟨n, _, hn, rfl, hfree, fun hascii => ?_, fun hascii => ?_⟩
  · exact hok ((LabelSource.checkLabel_label_iff hword n).2 hascii)
  · exact herror _ (LabelSource.checkLabel_label_error hword hascii n)

/-- A profile with a stem of its own and all else as usual. -/
def Profile.ofStem (stem : String) : Profile := { name := "dev", labelStem := .text stem }

/-- **A profile with an accent** is accepted, and no loop can be opened without a label. -/
theorem Profile.accented_stem_fails :
    ofEntries {} "dev" "profiles.yaml" [("label_prefix", .text "é")] = .ok (ofStem "é") ∧
    ∃ b₀, Builder.start .block (.value .null) (ofStem "é").stem = .ok b₀ ∧
      b₀.consumed = false ∧ b₀.takesStatements = true ∧
      (b₀.perform (.openLoop (.value .null))).1 = .error (.naming (.labelNotPlain "'é_1'")) := by
  refine ⟨rfl, _, rfl, rfl, rfl, ?_⟩
  decide +kernel

/-- Where a loop has a label of the stem, the next one without a label gets another one. -/
theorem Profile.step_labels :
    ofEntries {} "dev" "profiles.yaml" [("label_prefix", .text "step")] = .ok (ofStem "step") ∧
    ∃ b₀, Builder.start .block (.value .null) (ofStem "step").stem = .ok b₀ ∧
      (b₀.run [.openLoop (.value (.text "STEP_1"))]).OpensUnlabelled (.openRepeat (.value .null)) ∧
      ((b₀.run [.openLoop (.value (.text "STEP_1"))]).perform (.openRepeat (.value .null))).1 =
        .ok () := by
  have hp : ofEntries {} "dev" "profiles.yaml" [("label_prefix", .text "step")] =
    .ok (ofStem "step") := rfl
  have hascii : Text.IsAscii (ofStem "step").stem := by decide
  refine ⟨hp, _, rfl, .repeatLoop rfl, ?_⟩
  obtain ⟨_, _, _, _, _, hok, _⟩ := (generated_labels hp).2 .block (.value .null) _
    [.openLoop (.value (.text "STEP_1"))] (.openRepeat (.value .null)) rfl (by decide +kernel)
    (by decide +kernel) (.repeatLoop rfl)
  exact (hok hascii).1

end StoredSql
