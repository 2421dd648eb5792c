import StoredSql.Proofs.CheckAgain

/-!
# What failing checks leave behind

A check that fails may have done part of its work: names that it has declared stay declared, and
cursors stay in the states they have reached (`Checker.known`). Most checks do nothing before the
last step that can fail; these are the checks of `Statement.isAtomic`.
-/

namespace StoredSql

open Check Stepwise

variable {c c' d : Checker} {e : Error}

/-! ## Older scopes -/

namespace Checker

/-- The scopes of a checker at a later time: what is declared and the states may differ. -/
def Ages (c c' : Checker) : Prop := List.Forall₂ Scope.Becomes c.nesting.scopes c'.nesting.scopes

/-- What a checker knows of names and cursors. -/
def known (c : Checker) : List (List String × List String × List Cursor) :=
  c.nesting.scopes.map fun s => (s.variableNames, s.conditions, s.cursors)

theorem Ages.trans {b : Checker} (h : b.Ages c) (h' : c.Ages d) : b.Ages d :=
  forall₂_trans h h' Scope.Becomes.trans

theorem Ages.left (h : c.Ages c') : c.left.Ages c'.left := by
  obtain ⟨⟨r, rs⟩, _⟩ := c
  obtain ⟨⟨s, ss⟩, _⟩ := c'
  obtain ⟨hr, hrs⟩ := List.forall₂_cons.1 h
  cases hrs with
  | nil => exact .cons hr .nil
  | cons hr' hrs' => exact .cons hr' hrs'

theorem Ages.leaveScopes (h : c.Ages c') (n : Nat) :
    (c.leaveScopes n).Ages (c'.leaveScopes n) := by
  induction n generalizing c c' with
  | zero => exact h
  | succ n ih => exact ih h.left

theorem ages_of_stateless {ss ts : List Scope}
    (h : ts.map Scope.stateless = ss.map Scope.stateless) : List.Forall₂ Scope.Becomes ss ts := by
  induction ss generalizing ts with
  | nil =>
    rw [List.map_eq_nil_iff.1 h]
    exact .nil
  | cons s ss ih =>
    cases ts with
    | nil => cases h
    | cons t ts =>
      obtain ⟨hst, hss⟩ := List.cons.inj h
      exact .cons (.of_stateless hst) (ih hss)

theorem Still.ages (h : c.Still c') : c.Ages c' := ages_of_stateless h

theorem Onward.ages (h : c.Onward c') : c.Ages c' := .cons h.inner (ages_of_stateless h.outer)

theorem Earlier.ages (h : d.Earlier c) : d.Ages c :=
  List.Forall₂.imp (fun _ _ hrs => hrs.becomes) h

/-- Where also what is known is the same, only phases differ. -/
theorem Ages.earlier (h : d.Ages c) (hknown : d.known = c.known) : d.Earlier c := by
  have hscopes : ∀ {rs ss : List Scope}, List.Forall₂ Scope.Becomes rs ss →
      rs.map (fun s => (s.variableNames, s.conditions, s.cursors)) =
        ss.map (fun s => (s.variableNames, s.conditions, s.cursors)) →
      List.Forall₂ Scope.Earlier rs ss := by
    intro rs ss hrs hk
    induction hrs with
    | nil => exact .nil
    | cons hr _ ih =>
      rename_i r s rs ss
      obtain ⟨hrk, hk⟩ := List.cons.inj hk
      refine .cons ⟨?_, hr.phase⟩ (ih hk)
      simp only [Prod.mk.injEq] at hrk
      unfold Scope.phaseless
      rw [hr.kind, hr.label, hr.rows, hrk.1, hrk.2.1, hrk.2.2]
  exact hscopes h hknown

end Checker

/-! ## Checks that fail without a trace -/

/-- Nothing that is known of names and cursors differs. -/
def Checker.SameKnown (c c' : Checker) : Prop := c'.known = c.known

instance : Std.Refl Checker.SameKnown where
  refl _ := rfl

instance : Trans Checker.SameKnown Checker.SameKnown Checker.SameKnown where
  trans h h' := Eq.trans h' h

namespace Check

variable {α β : Type}

/-- Whether nothing new is known where a check has failed. -/
def Traceless (act : Check α) : Prop :=
  ∀ ⦃c : Checker⦄ ⦃e : Error⦄ ⦃c' : Checker⦄, act c = (.error e, c') → c.SameKnown c'

theorem Traceless.of_keeps {act : Check α} (h : Keeps Checker.SameKnown act) : Traceless act :=
  fun _ _ _ hact => h.apply hact

/-- Steps that change nothing may come first. -/
theorem Traceless.after {x : Check α} {f : α → Check β} (hx : Keeps Checker.SameKnown x)
    (hf : ∀ a, Traceless (f a)) : Traceless (x >>= f) := by
  intro c e c' h
  rcases bind_error.1 h with h | ⟨a, t, ht, h⟩
  · exact Traceless.of_keeps hx h
  · have hct := hx c
    rw [ht] at hct
    exact Trans.trans hct (hf a h)

/-- Nothing that can fail may come last. -/
theorem Traceless.giving {x : Check α} (hx : Traceless x) (f : α → β) :
    Traceless (x >>= fun a => pure (f a)) := by
  intro c e c' h
  rcases bind_error.1 h with h | ⟨a, t, _, h⟩
  · exact hx h
  · cases (pure_eq.1 h).1

theorem noteStatement_known : Keeps Checker.SameKnown noteStatement := by
  intro c
  show c.noted.known = c.known
  unfold Checker.noted Scope.noteStatement Checker.known
  split <;> rfl

theorem change_traceless (f : Nesting → Except Error Nesting) : Traceless (change f) := by
  intro c e c' h
  rcases hn : f c.nesting with e' | n
  · rw [change_of_error hn] at h
    cases h
    exact rfl
  · rw [change_of_ok hn] at h
    cases h

theorem declare_traceless {f : Scope → Except Error Unit × Scope}
    (hf : ∀ {s t : Scope} {e : Error}, f s = (.error e, t) → ∃ phase, t = { s with phase }) :
    Traceless (declare f) := by
  intro c e c' h
  rcases hs : f c.nesting.inner with ⟨e' | u, t⟩
  · obtain ⟨phase, rfl⟩ := hf hs
    simp only [declare, hs] at h
    cases h
    exact rfl
  · simp only [declare, hs] at h
    cases h

theorem declareIn_traceless (phase : DeclarationPhase) (what : String) (taken : Scope → Bool)
    (twice : Error) (add : Scope → Scope) :
    Traceless (declare (·.declareIn phase what taken twice add)) := by
  apply declare_traceless
  intro s t e h
  unfold Scope.declareIn at h
  rcases hs : s.enterPhase phase what with e' | s'
  · rw [hs] at h
    cases h
    exact ⟨s.phase, rfl⟩
  · rw [hs] at h
    dsimp only at h
    by_cases ht : taken s' = true
    · rw [if_pos ht] at h
      cases h
      exact ⟨phase, (Scope.enterPhase_eq hs).1⟩
    · rw [if_neg ht] at h
      cases h

theorem declareHandler_known : Keeps Checker.SameKnown (declare (·.declareHandler)) := by
  intro c
  have hdeclare : declare (·.declareHandler) c = (c.nesting.inner.declareHandler.1,
      { c with nesting := { c.nesting with inner := c.nesting.inner.declareHandler.2 } }) := rfl
  rw [hdeclare]
  unfold Scope.declareHandler
  rcases hs : c.nesting.inner.enterPhase .handlers "DECLARE ... HANDLER" with e | s
  · exact rfl
  · rw [(Scope.enterPhase_eq hs).1]
    exact rfl

theorem fetch_traceless (name : String) (targets : List String) :
    Traceless (Check.fetch name targets) :=
  .after (ask_keeps _) fun _ => .after (ask_keeps _) fun _ => change_traceless _

end Check

/-- Whether a statement does nothing before the last step of its check that can fail, or has it
undone. -/
def Statement.isAtomic : Statement → Bool
  | declareVariables names _ _ => names.length ≤ 1
  | block _ | loop _ _ | whileLoop _ _ _ | repeatLoop _ _ _ | ifElse _ _ | cases _ _ _ => false
  | _ => true

/-- What the body of a handler does to states is undone, whether it succeeds or fails. -/
theorem handler_known (action : HandlerAction) (conditions : List ConditionValue)
    (body : Statement) :
    Keeps Checker.SameKnown (Statement.declareHandler action conditions body).check := by
  rw [Statement.check]
  refine .bind declareHandler_known fun _ => .bind (ask_keeps _) fun _ => fun c => ?_
  rw [states_bind, child_none_bind]
  rcases h : body.check c.handling with ⟨r, d⟩
  have hkept : keepStates c.nesting.states (within { kind := .handler, rows := c.nesting.inner.rows }
      (do change fun n => .ok n.withUnknownStates; body.check)) c =
      (r, d.left.withStates c.nesting.states) :=
    keepStates_eq.2 ⟨_, within_eq.2 ⟨d, h, rfl⟩, rfl⟩
  have hknown : c.SameKnown (d.left.withStates c.nesting.states) := by
    unfold Checker.SameKnown Checker.known
    show (d.left.withStates c.nesting.states).nesting.scopes.map _ = _
    rw [Statement.handling_undone h]
  cases r with
  | error e =>
    rw [bind_of_error hkept]
    exact hknown
  | ok body' =>
    rw [bind_of_ok hkept]
    exact hknown

/-- **A check that fails at once leaves no trace**: of names and cursors the same is known. -/
theorem Statement.check_traceless : ∀ {s : Statement}, s.isAtomic = true → Traceless s.check
  | .foreign _, _ => .of_keeps (.throw _)
  | .delimiter _, _ => .of_keeps (.throw _)
  | .empty, _ => .of_keeps (.pure _)
  | .declareVariables [] _ _, _ =>
    .after (ask_keeps _) fun _ => .after (.pure _) fun _ => .of_keeps (.pure _)
  | .declareVariables [name] type initial, _ => by
    refine .after (ask_keeps _) fun _ => ?_
    have hone : ([name].forM fun name => declare (·.declareVariable name)) =
        declare (·.declareVariable name) >>= fun _ => pure () := rfl
    rw [hone]
    exact .giving (.giving (declareIn_traceless _ _ _ _ _) _) fun _ => _
  | .declareVariables (_ :: _ :: _) _ _, h => absurd h (by simp [isAtomic])
  | .declareCondition _ _, _ => .giving (declareIn_traceless _ _ _ _ _) fun _ => _
  | .declareCursor _ _, _ =>
    .after (ask_keeps _) fun _ => .giving (declareIn_traceless _ _ _ _ _) fun _ => _
  | .declareHandler action conditions body, _ => .of_keeps (handler_known action conditions body)
  | .iterate _, _ =>
    .after noteStatement_known fun _ => .after (ask_keeps _) fun _ => .of_keeps (.pure _)
  | .leave _, _ =>
    .after noteStatement_known fun _ => .after (ask_keeps _) fun _ => .of_keeps (.pure _)
  | .openCursor _, _ => .after noteStatement_known fun _ => .giving (change_traceless _) fun _ => _
  | .fetch name targets, _ =>
    .after noteStatement_known fun _ => .giving (fetch_traceless name targets) fun _ => _
  | .closeCursor _, _ => .after noteStatement_known fun _ => .giving (change_traceless _) fun _ => _
  | .select _, _ =>
    .after noteStatement_known fun _ => .after (ask_keeps _) fun _ => .after (ask_keeps _) fun _ =>
      .of_keeps (.pure _)
  | .insert _, _ =>
    .after noteStatement_known fun _ => .after (ask_keeps _) fun _ => .of_keeps (.pure _)
  | .set pairs, _ =>
    .after noteStatement_known fun _ => .after (assignments_keeps pairs) fun _ =>
      .of_keeps (.pure _)
  | .call _ _, _ =>
    .after noteStatement_known fun _ => .after (ask_keeps _) fun _ => .of_keeps (.pure _)
  | .signal _ _ _, _ =>
    .after noteStatement_known fun _ => .after (ask_keeps _) fun _ => .after (ask_keeps _) fun _ =>
      .of_keeps (.pure _)
  | .raw sql, _ =>
    .after noteStatement_known fun _ => .after (rawText_keeps sql) fun _ => .of_keeps (.pure _)

/-! ## Statements that are made -/

variable {α : Type}

/-- Whether what is made, if it can be, is a statement that leaves no trace, or that may leave one. -/
def Makes (atomic : Bool) (r : Except Error Statement) : Prop := ∀ s, r = .ok s → s.isAtomic = atomic

variable {atomic : Bool}

theorem makes_ok {s : Statement} (h : s.isAtomic = atomic) : Makes atomic (.ok s) := by
  rintro _ ⟨⟩
  exact h

theorem makes_error (e : Error) : Makes atomic (.error e) := nofun

theorem Makes.bind {x : Except Error α} {f : α → Except Error Statement}
    (hf : ∀ a, Makes atomic (f a)) : Makes atomic (x >>= f) := by
  intro s h
  obtain ⟨a, _, ha⟩ := Outcome.bind_eq_ok.1 h
  exact hf a s ha

theorem Makes.map {x : Except Error α} {f : α → Statement} (hf : ∀ a, (f a).isAtomic = atomic) :
    Makes atomic (x.map f) := by
  intro s h
  obtain ⟨a, _, rfl⟩ := Outcome.map_eq_ok.1 h
  exact hf a

theorem Makes.guarded {p : Prop} [Decidable p] {r : Except Error Statement} (e : Error)
    (hr : Makes atomic r) : Makes atomic (if p then throw e >>= fun _ : Unit => r else r) := by
  split
  · exact makes_error e
  · exact hr

namespace Statement

theorem makeDeclareCondition_atomic (name : String) (value : ConditionValue) :
    Makes true (makeDeclareCondition name value) := by
  unfold makeDeclareCondition
  split
  · exact makes_ok rfl
  · exact makes_error _

theorem makeDeclareCursor_atomic (name : String) (query : Operand) :
    Makes true (makeDeclareCursor name query) := by
  unfold makeDeclareCursor
  split
  · split
    · exact makes_ok rfl
    · exact makes_error _
  · exact makes_error _
  · exact makes_error _

theorem makeDeclareHandler_atomic (action : Outline) (conditions : List ConditionValue)
    (body : Statement) : Makes true (makeDeclareHandler action conditions body) :=
  .bind fun _ => .guarded _ (.guarded _ (.bind fun _ => makes_ok rfl))

theorem makeFetch_atomic (name : String) (targets : List String) :
    Makes true (makeFetch name targets) := by
  unfold makeFetch
  split
  · exact makes_error _
  · exact makes_ok rfl

theorem makeSet_atomic (pairs : List (String × Operand)) : Makes true (makeSet pairs) :=
  .bind fun _ => .guarded _ (makes_ok rfl)

theorem makeCall_atomic (name : String) (args : List Operand) : Makes true (makeCall name args) :=
  .bind fun _ => makes_ok rfl

theorem makeSignal_atomic (condition : ConditionValue) (message number : Operand) :
    Makes true (makeSignal condition message number) :=
  .guarded _ (.bind fun _ => .bind fun _ => makes_ok rfl)

theorem makeDeclare_atomic (names : List String) (type : Column) (initial : Operand) :
    Makes (names.length ≤ 1) (makeDeclare names type initial) := by
  refine .guarded _ (.guarded _ ?_)
  split
  · exact makes_error _
  · exact .bind fun _ => makes_ok rfl

end Statement

end StoredSql
