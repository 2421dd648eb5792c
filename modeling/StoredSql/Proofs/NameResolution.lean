import StoredSql.Proofs.Declarations
import StoredSql.Proofs.References

/-!
# Names that statements use

Where a statement is accepted, all names that it uses are found at its place (`Statement.check_finds`,
`Checker.Takes.findsUsed`). A variable is found (`Nesting.resolveVariable_eq_ok`) if it is seen, which is
to say that it is one of the names of the scopes there or needs no declaration, and if it is no column
of a row that is not there; one that is assigned to, if its row may be written besides
(`Nesting.resolveTarget_eq_ok`).
-/

namespace StoredSql

open Check Stepwise

/-- The names of a kind that a statement uses. -/
def Statement.used (kind : DeclaredKind) (s : Statement) : List String :=
  match kind with
  | .var => s.references ++ s.targets
  | .condition => s.conditionNames
  | .cursor => s.cursorNames

/-! ## Seeing names -/

namespace Nesting

/-- Whether a variable needs no declaration: one of the session, or a column of a row. -/
def IsFree (rows : RowAccess) (name : String) : Prop :=
  isSession name = true ∨ ∃ row, rowOf? name = some row ∧ row ∈ rows.readable

/-- Whether a name is seen: it is declared in one of the scopes, or needs no declaration. -/
def Sees (n : Nesting) (kind : DeclaredKind) (name : String) : Prop :=
  (∃ s ∈ n.scopes, Scope.hasName (s.names kind) name = true) ∨
    (kind = .var ∧ IsFree n.inner.rows name)

variable {n : Nesting} {name : String} {u : Unit}

/-- Whether a variable may be read, if it is seen: where it is a column of a row, the row must be one
that is there. -/
def Reads (rows : RowAccess) (name : String) : Prop :=
  isSession name = true ∨ ∀ row, rowOf? name = some row → row ∈ rows.readable

/-- Whether a name may be assigned to, if it stands for something: where it is a column of a row,
the row must be one that may be written. -/
def Writes (rows : RowAccess) (name : String) : Prop :=
  isSession name = true ∨ ∀ row, rowOf? name = some row → row ∈ rows.readable ∧ row ∈ rows.writable

/-- A variable may be read where it is seen and is no column of a row that is not there. -/
theorem resolveVariable_eq_ok : n.resolveVariable name = .ok u ↔
    n.Sees .var name ∧ Reads n.inner.rows name := by
  unfold resolveVariable Sees IsFree Reads
  cases hsession : isSession name with
  | true => simp
  | false =>
    cases hrow : rowOf? name with
    | none => simp [Scope.names]
    | some row => by_cases hreadable : row ∈ n.inner.rows.readable <;> simp [hreadable]

/-- A name may be assigned to where it is seen and is no column that may only be read. -/
theorem resolveTarget_eq_ok : n.resolveTarget name = .ok u ↔
    n.Sees .var name ∧ Writes n.inner.rows name := by
  unfold resolveTarget resolveVariable Sees IsFree Writes
  cases hsession : isSession name with
  | true => simp
  | false =>
    cases hrow : rowOf? name with
    | none => simp [Scope.names]
    | some row =>
      by_cases hreadable : row ∈ n.inner.rows.readable <;>
        by_cases hwritable : row ∈ n.inner.rows.writable <;>
          simp [hreadable, hwritable]

theorem resolveVariable_of_resolveAll {names : List String} (h : n.resolveAll names = .ok u) :
    ∀ name ∈ names, n.resolveVariable name = .ok () :=
  Outcome.forM_eq_ok.1 h

theorem sees_of_resolveCondition (h : n.resolveCondition name = .ok u) :
    n.Sees .condition name := by
  unfold resolveCondition at h
  split at h
  · rename_i hany
    exact .inl (List.any_eq_true.1 hany)
  · cases h

theorem sees_of_cursor {cursor : Cursor} (h : n.cursor name = .ok cursor) : n.Sees .cursor name := by
  unfold Nesting.cursor at h
  split at h
  · rename_i found hfound
    have hname := List.find?_some hfound
    obtain ⟨s, hs, hmem⟩ := List.mem_flatMap.1 (List.mem_of_find?_eq_some hfound)
    refine .inl ⟨s, hs, List.any_eq_true.2 ⟨found.name, List.mem_map_of_mem hmem, ?_⟩⟩
    exact Text.sameName_iff.2 (Text.sameName_iff.1 hname).symm
  · cases h

theorem sees_of_useCursor {verb : CursorVerb} {m : Nesting} (h : n.useCursor verb name = .ok m) :
    n.Sees .cursor name := by
  obtain ⟨cursor, hcursor, _⟩ := Outcome.bind_eq_ok.1 h
  exact sees_of_cursor hcursor

end Nesting

namespace Checker

variable {c c' : Checker} {kind : DeclaredKind} {name : String}

/-- What is seen does not depend on phases and states. -/
theorem Moves.sees (h : c.Moves c') (hname : c'.nesting.Sees kind name) :
    c.nesting.Sees kind name := by
  rcases hname with ⟨s, hs, hname⟩ | ⟨rfl, hfree⟩
  · rcases List.mem_cons.1 hs with rfl | hs
    · rw [h.names] at hname
      exact .inl ⟨_, List.mem_cons_self, hname⟩
    · obtain ⟨t, ht, hname⟩ := exists_name_of_stateless h.outer ⟨s, hs, hname⟩
      exact .inl ⟨t, List.mem_cons_of_mem _ ht, hname⟩
  · rw [h.onward.inner.rows] at hfree
    exact .inr ⟨rfl, hfree⟩

theorem Moves.rows (h : c.Moves c') : c'.nesting.inner.rows = c.nesting.inner.rows :=
  h.onward.inner.rows

theorem Moves.resolveVariable (h : c.Moves c') (hname : c'.nesting.resolveVariable name = .ok ()) :
    c.nesting.resolveVariable name = .ok () := by
  obtain ⟨hsees, hreads⟩ := Nesting.resolveVariable_eq_ok.1 hname
  exact Nesting.resolveVariable_eq_ok.2 ⟨h.sees hsees, h.rows ▸ hreads⟩

theorem Moves.resolveTarget (h : c.Moves c') (hname : c'.nesting.resolveTarget name = .ok ()) :
    c.nesting.resolveTarget name = .ok () := by
  obtain ⟨hsees, hwrites⟩ := Nesting.resolveTarget_eq_ok.1 hname
  exact Nesting.resolveTarget_eq_ok.2 ⟨h.sees hsees, h.rows ▸ hwrites⟩

end Checker

/-! ## Checks -/

variable {c c' : Checker} {u : Unit} {name : String}

theorem assignments_find {pairs : List (String × Expr)} (h : assignments pairs c = (.ok u, c')) :
    ∀ pair ∈ pairs, (∀ name ∈ pair.2.references, c.nesting.resolveVariable name = .ok ()) ∧
      c.nesting.resolveTarget pair.1 = .ok () := by
  induction pairs with
  | nil => nofun
  | cons pair pairs ih =>
    obtain ⟨target, value⟩ := pair
    rw [assignments] at h
    simp only [bind_ok, resolveAll_eq, ask_eq] at h
    obtain ⟨_, _, ⟨hvalue, rfl⟩, _, _, ⟨htarget, rfl⟩, hrest⟩ := h
    intro pair hpair
    rcases List.mem_cons.1 hpair with rfl | hpair
    · rw [← Expr.variableNames_outline]
      exact ⟨Nesting.resolveVariable_of_resolveAll hvalue, htarget⟩
    · exact ih hrest pair hpair

theorem fetch_finds {cursor : String} {targets : List String}
    (h : Check.fetch cursor targets c = (.ok u, c')) :
    c.nesting.Sees .cursor cursor ∧ ∀ name ∈ targets, c.nesting.resolveTarget name = .ok () := by
  unfold Check.fetch at h
  simp only [bind_ok, ask_eq] at h
  obtain ⟨_, _, ⟨hcursor, rfl⟩, _, _, ⟨htargets, rfl⟩, _⟩ := h
  exact ⟨Nesting.sees_of_cursor hcursor, Outcome.forM_eq_ok.1 htargets⟩

/-- The initial value of a declaration or the message of a signal. -/
theorem finds_initial {initial : Option Expr}
    (h : c.nesting.resolveAll ((initial.map (·.outline.variableNames)).getD []) = .ok u) :
    ∀ name ∈ (initial.map (·.references)).getD [], c.nesting.resolveVariable name = .ok () := by
  cases initial with
  | none => nofun
  | some value =>
    show ∀ name ∈ value.references, _
    rw [← Expr.variableNames_outline]
    exact Nesting.resolveVariable_of_resolveAll h

/-- Whether all names that a statement uses are found. -/
structure Nesting.FindsUsed (n : Nesting) (s : Statement) : Prop where
  references : ∀ name ∈ s.references, n.resolveVariable name = .ok ()
  targets : ∀ name ∈ s.targets, n.resolveTarget name = .ok ()
  conditions : ∀ name ∈ s.conditionNames, n.Sees .condition name
  cursors : ∀ name ∈ s.cursorNames, n.Sees .cursor name

/-- A statement that uses no names but those of variables that it reads. -/
theorem Nesting.FindsUsed.ofReferences {n : Nesting} {s : Statement}
    (h : ∀ name ∈ s.references, n.resolveVariable name = .ok ())
    (hs : s.targets = [] ∧ s.conditionNames = [] ∧ s.cursorNames = []) : n.FindsUsed s := by
  refine ⟨h, ?_, ?_, ?_⟩
  · rw [hs.1]
    exact List.forall_mem_nil _
  · rw [hs.2.1]
    exact List.forall_mem_nil _
  · rw [hs.2.2]
    exact List.forall_mem_nil _

theorem Nesting.FindsUsed.sees {n : Nesting} {s : Statement} (h : n.FindsUsed s)
    (kind : DeclaredKind) : ∀ name ∈ s.used kind, n.Sees kind name := by
  intro name hname
  cases kind with
  | var =>
    rcases List.mem_append.1 hname with hname | hname
    · exact (Nesting.resolveVariable_eq_ok.1 (h.references name hname)).1
    · exact (Nesting.resolveTarget_eq_ok.1 (h.targets name hname)).1
  | condition => exact h.conditions name hname
  | cursor => exact h.cursors name hname

theorem Checker.Moves.findsUsed {s : Statement} (h : c.Moves c') (hs : c'.nesting.FindsUsed s) :
    c.nesting.FindsUsed s where
  references name hname := h.resolveVariable (hs.references name hname)
  targets name hname := h.resolveTarget (hs.targets name hname)
  conditions name hname := h.sees (hs.conditions name hname)
  cursors name hname := h.sees (hs.cursors name hname)

theorem sees_of_resolveConditions {conditions : List ConditionValue} {n : Nesting}
    (h : (conditions.filterMap (·.name?)).forM n.resolveCondition = .ok u) :
    ∀ name ∈ conditions.filterMap (·.name?), n.Sees .condition name :=
  fun name hname =>
    Nesting.sees_of_resolveCondition (u := ()) (Outcome.forM_eq_ok.1 h name hname)

/-- What is executed and holds no statements uses only names that are found. -/
theorem Statement.executed_finds {s s' : Statement} (hleaf : s.scopeKind? = none)
    (hs : s.phase? = some .body) (h : s.check c = (.ok s', c')) : c.noted.nesting.FindsUsed s := by
  cases s with
  | openCursor cursor =>
    rw [Statement.check, noteStatement_bind] at h
    obtain ⟨_, _, huse, _⟩ := bind_ok.1 h
    exact ⟨List.forall_mem_nil _, List.forall_mem_nil _, List.forall_mem_nil _,
      List.forall_mem_singleton.2 (Nesting.sees_of_useCursor (change_ok huse))⟩
  | closeCursor cursor =>
    rw [Statement.check, noteStatement_bind] at h
    obtain ⟨_, _, huse, _⟩ := bind_ok.1 h
    exact ⟨List.forall_mem_nil _, List.forall_mem_nil _, List.forall_mem_nil _,
      List.forall_mem_singleton.2 (Nesting.sees_of_useCursor (change_ok huse))⟩
  | fetch cursor targets =>
    rw [Statement.check, noteStatement_bind] at h
    obtain ⟨_, _, hfetch, _⟩ := bind_ok.1 h
    obtain ⟨hcursor, htargets⟩ := fetch_finds hfetch
    exact ⟨List.forall_mem_nil _, htargets, List.forall_mem_nil _,
      List.forall_mem_singleton.2 hcursor⟩
  | select query =>
    rw [Statement.check, noteStatement_bind] at h
    simp only [bind_ok, resolveAll_eq, ask_eq] at h
    obtain ⟨_, _, ⟨hquery, rfl⟩, _, _, ⟨htargets, rfl⟩, _⟩ := h
    rw [SelectQuery.variableNames_outline] at hquery
    exact ⟨Nesting.resolveVariable_of_resolveAll hquery, Outcome.forM_eq_ok.1 htargets,
      List.forall_mem_nil _, List.forall_mem_nil _⟩
  | insert query =>
    rw [Statement.check, noteStatement_bind] at h
    simp only [bind_ok, resolveAll_eq] at h
    obtain ⟨_, _, ⟨hquery, rfl⟩, _⟩ := h
    rw [InsertQuery.variableNames_outline] at hquery
    exact .ofReferences (Nesting.resolveVariable_of_resolveAll hquery) ⟨rfl, rfl, rfl⟩
  | set assignments =>
    rw [Statement.check, noteStatement_bind] at h
    obtain ⟨_, _, hassign, _⟩ := bind_ok.1 h
    have hfinds := assignments_find hassign
    refine ⟨fun name hname => ?_, fun name hname => ?_, List.forall_mem_nil _,
      List.forall_mem_nil _⟩
    · obtain ⟨pair, hpair, hname⟩ := List.mem_flatMap.1 hname
      exact (hfinds pair hpair).1 name hname
    · obtain ⟨pair, hpair, rfl⟩ := List.mem_map.1 hname
      exact (hfinds pair hpair).2
  | call procedure args =>
    rw [Statement.check, noteStatement_bind] at h
    simp only [bind_ok, resolveAll_eq] at h
    obtain ⟨_, _, ⟨hargs, rfl⟩, _⟩ := h
    rw [Expr.flatMap_variableNames] at hargs
    exact .ofReferences (Nesting.resolveVariable_of_resolveAll hargs) ⟨rfl, rfl, rfl⟩
  | signal condition message number =>
    rw [Statement.check, noteStatement_bind] at h
    simp only [bind_ok, resolveAll_eq, resolveConditions, ask_eq] at h
    obtain ⟨_, _, ⟨hcondition, rfl⟩, _, _, ⟨hmessage, rfl⟩, _⟩ := h
    refine ⟨finds_initial hmessage, List.forall_mem_nil _, fun name hname => ?_,
      List.forall_mem_nil _⟩
    refine sees_of_resolveConditions hcondition name ?_
    have hnamed : condition.name? = some name := Option.mem_toList.1 hname
    exact List.mem_filterMap.2 ⟨condition, List.mem_singleton_self _, hnamed⟩
  | declareVariables names _ _ => cases names <;> cases hs
  | declareCondition _ _ => cases hs
  | declareCursor _ _ => cases hs
  | empty => cases hs
  | declareHandler _ _ _ => cases hleaf
  | block _ => cases hleaf
  | ifElse _ _ => cases hleaf
  | cases _ _ _ => cases hleaf
  | loop _ _ => cases hleaf
  | whileLoop _ _ _ => cases hleaf
  | repeatLoop _ _ _ => cases hleaf
  | _ => exact .ofReferences (List.forall_mem_nil _) ⟨rfl, rfl, rfl⟩

/-- **What is accepted and holds no statements uses only names that are found.** -/
theorem Statement.check_finds {s s' : Statement} (hleaf : s.scopeKind? = none)
    (h : s.check c = (.ok s', c')) : c.nesting.FindsUsed s := by
  cases s with
  | declareVariables names type initial =>
    rw [Statement.check] at h
    simp only [bind_ok, resolveAll_eq] at h
    obtain ⟨_, _, ⟨hinitial, rfl⟩, _⟩ := h
    exact .ofReferences (finds_initial hinitial) ⟨rfl, rfl, rfl⟩
  | declareCursor cursor query =>
    rw [Statement.check] at h
    simp only [bind_ok, resolveAll_eq] at h
    obtain ⟨_, _, ⟨hquery, rfl⟩, _⟩ := h
    rw [SelectQuery.variableNames_outline] at hquery
    exact .ofReferences (Nesting.resolveVariable_of_resolveAll hquery) ⟨rfl, rfl, rfl⟩
  | declareCondition _ _ =>
    exact .ofReferences (List.forall_mem_nil _) ⟨rfl, rfl, rfl⟩
  | empty => exact .ofReferences (List.forall_mem_nil _) ⟨rfl, rfl, rfl⟩
  | declareHandler _ _ _ => cases hleaf
  | _ => exact c.moves_noted.findsUsed (Statement.executed_finds hleaf rfl h)

/-- The tests of a statement are what it refers to, if it holds statements. -/
theorem Statement.references_of_holder {s : Statement} {k : ScopeKind} (hs : s.scopeKind? = some k) :
    s.references = s.tests.flatMap (·.variableNames) := by
  cases s with
  | ifElse branches otherwise =>
    simp [references, tests, List.flatMap_map, Condition.variableNames_outline]
  | cases operand whens otherwise =>
    cases operand <;> simp [references, tests, List.flatMap_map, Expr.variableNames_outline]
  | whileLoop label test body => simp [references, tests, Condition.variableNames_outline]
  | repeatLoop label test body => simp [references, tests, Condition.variableNames_outline]
  | declareHandler _ _ _ => rfl
  | block _ => rfl
  | loop _ _ => rfl
  | _ => cases hs

/-- What holds statements uses only names that are found where it has its place. -/
theorem Checker.Takes.findsUsed {P : Checker → List Statement → Prop} {s : Statement} {k : ScopeKind}
    (h : c.Takes P s k) : c.nesting.FindsUsed s := by
  have hreferences : ∀ name ∈ s.references, c.nesting.resolveVariable name = .ok () := by
    rw [Statement.references_of_holder h.kind]
    intro name hname
    obtain ⟨test, htest, hname⟩ := List.mem_flatMap.1 hname
    exact Nesting.resolveVariable_of_resolveAll (h.tests test htest) name hname
  have hconditions : ∀ name ∈ s.handles, c.nesting.Sees .condition name :=
    fun name hname => Nesting.sees_of_resolveCondition (h.handles name hname)
  have hkind := h.kind
  cases s with
  | declareHandler _ _ _ =>
    exact ⟨hreferences, List.forall_mem_nil _, hconditions, List.forall_mem_nil _⟩
  | block _ => exact .ofReferences hreferences ⟨rfl, rfl, rfl⟩
  | ifElse _ _ => exact .ofReferences hreferences ⟨rfl, rfl, rfl⟩
  | cases _ _ _ => exact .ofReferences hreferences ⟨rfl, rfl, rfl⟩
  | loop _ _ => exact .ofReferences hreferences ⟨rfl, rfl, rfl⟩
  | whileLoop _ _ _ => exact .ofReferences hreferences ⟨rfl, rfl, rfl⟩
  | repeatLoop _ _ _ => exact .ofReferences hreferences ⟨rfl, rfl, rfl⟩
  | _ => cases hkind

/-! ## Rows -/

variable {s : Statement}

/-- Whether a statement finds all rows that it reads and writes. -/
def Statement.FindsRows (rows : RowAccess) (s : Statement) : Prop :=
  (∀ name ∈ s.references, Nesting.Reads rows name) ∧ ∀ name ∈ s.targets, Nesting.Writes rows name

theorem Nesting.FindsUsed.findsRows {n : Nesting} (h : n.FindsUsed s) :
    s.FindsRows n.inner.rows :=
  ⟨fun name hname => (Nesting.resolveVariable_eq_ok.1 (h.references name hname)).2,
    fun name hname => (Nesting.resolveTarget_eq_ok.1 (h.targets name hname)).2⟩

/-- Each accepted statement finds the rows that it reads and writes. -/
theorem findsRows_ensured : Ensured Statement.FindsRows where
  leaf hleaf h := (Statement.check_finds hleaf h).findsRows
  holder h := h.findsUsed.findsRows

end StoredSql
