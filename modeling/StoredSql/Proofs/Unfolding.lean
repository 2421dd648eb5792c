import StoredSql.Proofs.BranchCalls

/-!
# Both ways of putting a statement together

A statement that is given to a builder as it is and the calls that put it together again come to the
same (`calls_agree`): they fail alike, and where they succeed they leave the same statement, apart from
the views of blocks, and the same checker.
-/

namespace StoredSql

mutual

/-- The calls for a well-made statement do what its check does. -/
theorem Statement.unfolds : ∀ s : Statement, s.isMade = true → s.Unfolds
  | .declareHandler action conditions body, h => by
    simp only [Statement.isMade, Bool.and_eq_true, bne_iff_ne, Bool.not_eq_true'] at h
    obtain ⟨⟨⟨hundo, hne⟩, _⟩, hbody⟩ := h
    cases body with
    | block b =>
      obtain ⟨ss, _ | label, view⟩ := b
      · exact Statement.unfolds_handler hundo hne (Statement.allUnfold ss hbody)
      · exact Statement.unfolds_of_calls rfl
    | _ => exact Statement.unfolds_of_calls rfl
  | .block ⟨body, label, view⟩, h => Statement.unfolds_block (Statement.allUnfold body h)
  | .ifElse branches otherwise, h => by
    simp only [Statement.isMade, Bool.and_eq_true, Bool.not_eq_true'] at h
    obtain ⟨⟨hne, hbranches⟩, helse⟩ := h
    exact Statement.unfolds_ifElse (by rintro rfl; cases hne)
      (IfBranch.bodiesUnfold branches hbranches) (Statement.elseUnfolds otherwise helse)
  | .cases operand whens otherwise, h => by
    simp only [Statement.isMade, Bool.and_eq_true, Bool.or_eq_true, Bool.not_eq_true'] at h
    obtain ⟨⟨⟨hne, hkind⟩, hwhens⟩, helse⟩ := h
    have hsearched : operand = none → whens.all (·.isSearched) = true := by
      rintro rfl
      simpa using hkind
    exact Statement.unfolds_cases (by rintro rfl; cases hne) hsearched
      (CaseWhen.bodiesUnfold whens hwhens) (Statement.elseUnfolds otherwise helse)
  | .loop label body, h => by
    simp only [Statement.isMade, Bool.and_eq_true, Bool.not_eq_true'] at h
    exact Statement.unfolds_loop h.1 (Statement.allUnfold body h.2)
  | .whileLoop label test body, h => by
    simp only [Statement.isMade, Bool.and_eq_true, Bool.not_eq_true'] at h
    exact Statement.unfolds_whileLoop h.1 (Statement.allUnfold body h.2)
  | .repeatLoop label test body, h => by
    simp only [Statement.isMade, Bool.and_eq_true, Bool.not_eq_true'] at h
    exact Statement.unfolds_repeatLoop h.1 (Statement.allUnfold body h.2)
  | .declareVariables .., _ => Statement.unfolds_of_calls rfl
  | .declareCondition .., _ => Statement.unfolds_of_calls rfl
  | .declareCursor .., _ => Statement.unfolds_of_calls rfl
  | .iterate _, _ => Statement.unfolds_of_calls rfl
  | .leave _, _ => Statement.unfolds_of_calls rfl
  | .openCursor _, _ => Statement.unfolds_of_calls rfl
  | .fetch .., _ => Statement.unfolds_of_calls rfl
  | .closeCursor _, _ => Statement.unfolds_of_calls rfl
  | .select _, _ => Statement.unfolds_of_calls rfl
  | .insert _, _ => Statement.unfolds_of_calls rfl
  | .set _, _ => Statement.unfolds_of_calls rfl
  | .raw _, _ => Statement.unfolds_of_calls rfl
  | .empty, _ => Statement.unfolds_of_calls rfl
  | .delimiter _, _ => Statement.unfolds_of_calls rfl
  | .call .., _ => Statement.unfolds_of_calls rfl
  | .signal .., _ => Statement.unfolds_of_calls rfl
  | .foreign _, _ => Statement.unfolds_of_calls rfl

theorem Statement.allUnfold : ∀ ss : List Statement, Statement.areMade ss = true →
    Statement.AllUnfold ss
  | [], _ => Statement.allUnfold_nil
  | s :: ss, h => by
    simp only [Statement.areMade, Bool.and_eq_true] at h
    exact Statement.allUnfold_cons (Statement.unfolds s h.1) (Statement.allUnfold ss h.2)

theorem IfBranch.bodiesUnfold : ∀ branches : List IfBranch, IfBranch.areMade branches = true →
    ∀ test body, IfBranch.mk test body ∈ branches → Statement.BodyUnfolds body
  | [], _ => by simp
  | ⟨test, body⟩ :: rest, h => by
    simp only [IfBranch.areMade, Bool.and_eq_true, Bool.not_eq_true'] at h
    intro test' body' hmem
    rcases List.mem_cons.1 hmem with he | hmem
    · cases he
      exact ⟨Statement.allUnfold body h.1.2, h.1.1⟩
    · exact IfBranch.bodiesUnfold rest h.2 test' body' hmem

theorem CaseWhen.bodiesUnfold : ∀ whens : List CaseWhen, CaseWhen.areMade whens = true →
    ∀ test body, CaseWhen.mk test body ∈ whens → Statement.BodyUnfolds body
  | [], _ => by simp
  | ⟨test, body⟩ :: rest, h => by
    simp only [CaseWhen.areMade, Bool.and_eq_true, Bool.not_eq_true'] at h
    intro test' body' hmem
    rcases List.mem_cons.1 hmem with he | hmem
    · cases he
      exact ⟨Statement.allUnfold body h.1.2, h.1.1⟩
    · exact CaseWhen.bodiesUnfold rest h.2 test' body' hmem

theorem Statement.elseUnfolds : ∀ otherwise : Option (List Statement),
    Statement.elseIsMade otherwise = true → Statement.ElseUnfolds otherwise
  | none, _ => fun _ hbody => by cases hbody
  | some body, h => by
    simp only [Statement.elseIsMade, Bool.and_eq_true, Bool.not_eq_true'] at h
    intro body' hbody
    cases hbody
    exact ⟨Statement.allUnfold body h.2, h.1⟩

end

/-- **Both ways of putting a statement together agree.** Wherever a statement may come to a builder
that is not used up: given as it is or construct by construct, it is refused with the same error, or
it comes to the innermost construct as the same statement, apart from what blocks tell of the names
visible where they begin, and the same names, phases, states of cursors and numbers of labels are
left. -/
theorem calls_agree (s : Statement) (hs : s.isMade = true) (b : Builder)
    (hl : b.consumed = false) (ht : b.takesStatements = true) :
    (∃ c s₁ s₂ n₁ n₂ o₁ o₂, b.perform (.statements [s]) = (.ok (), b.adding c [s₁] n₁ o₁) ∧
      b.runAll s.calls = (.ok (), b.adding c [s₂] n₂ o₂) ∧ s₁.withoutViews = s₂.withoutViews) ∨
    (∃ e b₁ b₂, b.perform (.statements [s]) = (.error e, b₁) ∧
      b.runAll s.calls = (.error e, b₂)) := by
  have hfollows := s.unfolds hs b hl ht
  rcases hc : s.check b.checker with ⟨e | s₁, c⟩
  · obtain ⟨b₂, hrun⟩ := hfollows.error e c (Statement.checkAll_singleton_error.2 hc)
    exact .inr ⟨e, _, b₂, Builder.perform_statement (Builder.add_error hl ht hc), hrun⟩
  · obtain ⟨ss, n, o, hviews, hrun⟩ :=
      hfollows.ok [s₁] c (Statement.checkAll_singleton_ok.2 ⟨s₁, hc, rfl⟩)
    obtain _ | ⟨s₂, _ | ⟨_, _⟩⟩ := ss
    · cases hviews
    · have hs₂ : s₂.withoutViews = s₁.withoutViews := (List.cons.inj hviews).1
      exact .inl ⟨c, s₁, s₂, b.serials, n, none, o,
        Builder.perform_statement (Builder.add_ok hl ht hc), hrun, hs₂.symm⟩
    · cases (List.cons.inj hviews).2

/-- The rows of a cursor. -/
def letters : SelectQuery where
  items := [⟨.column none "letter", none⟩]
  source := some (.table { name := "letters" })

/-- A block with a construct of each kind in it; its loop gets a label of the builder. -/
def letterLoop : Statement := .block ⟨[
  .declareVariables ["x", "done"] { type := .int } none,
  .declareCursor "c" letters,
  .declareHandler .continue [.notFound] (.block ⟨[.set [("done", .literal (.int 1))]], none, none⟩),
  .openCursor "c",
  .loop none [
    .fetch "c" ["x"],
    .ifElse [⟨.isTrue (.variable "done"), [.leave "loop_1"]⟩] (some [.iterate "LOOP_1"])],
  .cases (some (.variable "x")) [⟨.literal (.int 1), [.closeCursor "c"]⟩] none], some "scan", none⟩

/-- The block is taken both as it is and call by call. -/
theorem letterLoop_agrees :
    letterLoop.isMade = true ∧ emptyBuilder.consumed = false ∧
      emptyBuilder.takesStatements = true ∧
      ∃ c s₁ s₂ n₁ n₂ o₁ o₂,
        emptyBuilder.perform (.statements [letterLoop]) = (.ok (), emptyBuilder.adding c [s₁] n₁ o₁) ∧
        emptyBuilder.runAll letterLoop.calls = (.ok (), emptyBuilder.adding c [s₂] n₂ o₂) ∧
        s₁.withoutViews = s₂.withoutViews := by
  refine ⟨by decide, rfl, rfl, ?_⟩
  have hok : (emptyBuilder.perform (.statements [letterLoop])).1.isOk = true := by decide +kernel
  rcases calls_agree letterLoop (by decide) emptyBuilder rfl rfl with h | ⟨e, b₁, b₂, h, _⟩
  · exact h
  · rw [h] at hok
    cases hok

end StoredSql
