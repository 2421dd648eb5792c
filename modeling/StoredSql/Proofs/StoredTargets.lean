import StoredSql.Proofs.BuiltNames
import StoredSql.Proofs.Contracts
import StoredSql.Proofs.GivenLeaves
import StoredSql.Proofs.StoredNames

/-!
# Where programs store rows

The variables that a statement assigns to are looked up where it is added, and so are those that the
query of a SELECT statement stores its row in: each of them is declared or given to the program, and
none is a column of a row that may only be read (`built_stores_resolve`). The exception is a
query inside of another statement, be it the query of new rows or one in an expression: nobody looks
at the names that it stores in (`insertedRow_unresolved`).
-/

namespace StoredSql

open Check Stepwise

variable {s : Statement}

/-! ## Scopes at places -/

/-- The scope at a level, with the variables that are declared in it before the place. -/
def Level.scope (rows : RowAccess) (l : Level) : Scope where
  kind := l.holder.scopeKind?.getD .block
  label := l.holder.label?
  rows := rows
  variableNames := l.declared .var

namespace ProgramHead

/-- The scopes at a place of a program, from those of the statements around it to that of the
program. -/
def nestingAt (head : ProgramHead) : List Level → Nesting
  | [] => ⟨{ kind := .program, rows := head.rows, variableNames := head.parameterNames }, []⟩
  | l :: levels => (head.nestingAt levels).within (l.scope head.rows)

variable {head : ProgramHead} {levels : List Level} {name : String}

theorem rows_nestingAt (head : ProgramHead) (levels : List Level) :
    (head.nestingAt levels).inner.rows = head.rows := by
  cases levels <;> rfl

theorem scope_mem_nestingAt {l : Level} (hl : l ∈ levels) :
    l.scope head.rows ∈ (head.nestingAt levels).scopes := by
  induction levels with
  | nil => cases hl
  | cons l' levels ih =>
    rcases List.mem_cons.1 hl with rfl | hl
    · exact List.mem_cons_self
    · exact List.mem_cons_of_mem _ (ih hl)

theorem parameters_mem_nestingAt (head : ProgramHead) (levels : List Level) :
    ∃ s ∈ (head.nestingAt levels).scopes, s.variableNames = head.parameterNames := by
  induction levels with
  | nil => exact ⟨_, List.mem_cons_self, rfl⟩
  | cons l levels ih =>
    obtain ⟨s, hs, hnames⟩ := ih
    exact ⟨s, List.mem_cons_of_mem _ hs, hnames⟩

/-- A variable that resolves at a place is seen in the scopes there. -/
theorem sees_nestingAt (h : Resolves head levels .var name) :
    (head.nestingAt levels).Sees .var name := by
  cases h with
  | declared hl hname => exact .inl ⟨_, scope_mem_nestingAt hl, hname⟩
  | parameter hname =>
    obtain ⟨s, hs, hnames⟩ := head.parameters_mem_nestingAt levels
    exact .inl ⟨s, hs, (show s.names .var = head.parameterNames from hnames) ▸ hname⟩
  | session hsession => exact .inr ⟨rfl, .inl hsession⟩
  | row hrow hreadable =>
    exact .inr ⟨rfl, .inr ⟨_, hrow, (head.rows_nestingAt levels).symm ▸ hreadable⟩⟩

end ProgramHead

/-! ## Queries of cursors -/

/-- **Calls hand over plain cursors**, if those that they are given as they are are plain. -/
theorem Call.given_plain (call : Call)
    (h : Statement.LeavesAll Statement.IsPlain call.prebuilt) :
    Statement.LeavesAll Statement.IsPlain call.given := by
  refine Statement.leavesAll_iff.2 (call.given_cases ?leaf (Statement.leavesAll_iff.1 h) ?handler)
  case leaf =>
    rintro s ⟨hleaf, hplain⟩ t ht
    rw [Statement.allLeaves_of_leaf hleaf] at ht
    exact List.mem_singleton.1 ht ▸ hplain
  case handler =>
    rintro action conditions body s hbody hs
    obtain ⟨_, _, _, _, _, rfl⟩ := Statement.makeDeclareHandler_eq_ok.1 hs
    exact Statement.leavesAll_of_held rfl fun held hheld => List.mem_singleton.1 hheld ▸ hbody

/-! ## Programs -/

/-- Where only the query of a statement itself stores its row, the names are those that the
statement assigns to. -/
theorem Statement.targets_of_stores (hplain : s.IsPlain) (hinner : s.innerStores = []) :
    ∀ name ∈ s.stores, name ∈ s.targets := by
  intro name hname
  cases s with
  | select query =>
    have hquery : query.innerStores = [] := hinner
    rwa [stores_select, hquery, List.append_nil] at hname
  | declareCursor cursor query =>
    have hquery : query.innerStores = [] := hinner
    rw [stores_declareCursor, hquery, hplain cursor query rfl] at hname
    cases hname
  | _ =>
    rw [innerStores] at hinner
    · rw [hinner] at hname
      cases hname
    all_goals nofun

/-- **Rows are stored in variables of their scope.** Where all calls have succeeded, each name that
a query of a statement stores its row in may be assigned to in the scopes at the place of the
statement, if no query inside of another statement or query stores its row. The cursors among the
statements that calls are given as they are must be ones that can be made. -/
theorem built_stores_resolve {head : ProgramHead} {label : Operand} {stem : String}
    {b b' b'' : Builder} {p : Program} {calls : List Call}
    (hmade : ∀ call ∈ calls, Statement.LeavesAll Statement.IsPlain call.prebuilt)
    (hb : Builder.start head label stem = .ok b) (hcalls : b.runAll calls = (.ok (), b'))
    (hbuild : b'.build = (.ok p, b'')) {levels : List Level} {s : Statement}
    (hs : Stands (.block p.body) levels s) (hinner : s.innerStores = []) :
    ∀ name ∈ s.stores, (head.nestingAt levels).resolveTarget name = .ok () := by
  have hplain : s.IsPlain := by
    intro cursor query hquery
    have hleaf : s.scopeKind? = none := hquery ▸ rfl
    obtain ⟨call, hcall, hgiven⟩ :=
      Builder.run_leaves hb ((Builder.run_of_runAll hcalls).symm ▸ hbuild) hs hleaf
    exact call.given_plain (hmade call hcall) s hgiven cursor query hquery
  have hnames := Builder.runAll_kept namesDeclared_upheld calls
    (Builder.kept_start namesDeclared_upheld hb) hcalls
  have hwrites := Builder.runAll_kept findsRows_ensured.upheld calls
    (Builder.kept_start findsRows_ensured.upheld hb) hcalls
  obtain ⟨d, hd, hdeclared⟩ := Builder.kept_build hnames hbuild
  obtain ⟨d', hd', hwritten⟩ := Builder.kept_build hwrites hbuild
  intro name hname
  have htarget := Statement.targets_of_stores hplain hinner name hname
  cases hs with
  | here => cases htarget
  | @inside _ t _ before after levels hmem ht =>
    have hmem' : before ++ t :: after = p.body.statements := List.mem_singleton.1 hmem
    have hused : name ∈ s.used .var := List.mem_append_right _ htarget
    have hresolves : Resolves head (_ ++ [⟨.block p.body, before⟩]) .var name :=
      resolves_of_finds hd (hdeclared.finds before t after hmem'.symm _ s ht .var name hused)
    have hrows : d'.nesting.inner.rows = head.rows := hd'.rows
    refine Nesting.resolveTarget_eq_ok.2 ⟨ProgramHead.sees_nestingAt hresolves, ?_⟩
    rw [ProgramHead.rows_nestingAt, ← hrows]
    exact (hwritten t (hmem' ▸ by simp) ht).2 name htarget

/-- Calls for a query in a block of a trigger that stores in a variable, under another spelling of
its name, and in the row of the trigger. -/
def rowKept : List Call := [
  .declare ["a"] { type := .int } (.value .null),
  .openBlock (.value .null),
  .select (.query {
    items := [⟨.literal (.int 1), none⟩, ⟨.literal (.int 2), none⟩], into := ["A", "NEW.b"] }),
  .endBlock]

/-- Both may be assigned to there. -/
theorem rowKept_resolves : ∃ head b b' b'' p levels s,
    (∀ call ∈ rowKept, Statement.LeavesAll Statement.IsPlain call.prebuilt) ∧
      Builder.start head (.value .null) Builder.usualStem = .ok b ∧
      b.runAll rowKept = (.ok (), b') ∧ b'.build = (.ok p, b'') ∧
      Stands (.block p.body) levels s ∧ s.innerStores = [] ∧ s.stores = ["A", "NEW.b"] ∧
      ∀ name ∈ s.stores, (head.nestingAt levels).resolveTarget name = .ok () := by
  have hshape : ((Builder.start (.trigger "g" { name := "t" } .before .insert) (.value .null)
      Builder.usualStem).toOption.any fun b => (b.runAll rowKept).1.isOk &&
        (b.runAll rowKept).2.build.1.toOption.any fun p => p.body.statements.any fun t =>
          t.held.any fun body => body.any fun s =>
            s.innerStores == [] && s.stores == ["A", "NEW.b"]) = true := by decide +kernel
  rcases hstart : Builder.start (.trigger "g" { name := "t" } .before .insert) (.value .null)
    Builder.usualStem with e | b
  · rw [hstart] at hshape
    cases hshape
  rw [hstart] at hshape
  obtain ⟨hok, hshape⟩ := Bool.and_eq_true_iff.1 hshape
  rcases hcalls : b.runAll rowKept with ⟨e | u, b'⟩
  · rw [hcalls] at hok
    cases hok
  rw [hcalls] at hshape
  rcases hbuild : b'.build with ⟨e | p, b''⟩
  · rw [hbuild] at hshape
    cases hshape
  rw [hbuild] at hshape
  obtain ⟨t, ht, hshape⟩ := List.any_eq_true.1 hshape
  obtain ⟨body, hbody, hshape⟩ := List.any_eq_true.1 hshape
  obtain ⟨s, hs, hshape⟩ := List.any_eq_true.1 hshape
  obtain ⟨hinner, hstores⟩ := Bool.and_eq_true_iff.1 hshape
  obtain ⟨before, after, hstatements⟩ := List.append_of_mem ht
  obtain ⟨before', after', rfl⟩ := List.append_of_mem hs
  have hheld : before ++ t :: after ∈ (Statement.block p.body).held :=
    List.mem_singleton.2 hstatements.symm
  have hstands : Stands (.block p.body) [⟨t, before'⟩, ⟨.block p.body, before⟩] s :=
    .inside hheld (.inside hbody .here)
  have hmade : ∀ call ∈ rowKept, Statement.LeavesAll Statement.IsPlain call.prebuilt := by
    have hprebuilt : ∀ call ∈ rowKept, call.prebuilt = [] := by simp [rowKept, Call.prebuilt]
    intro call hcall
    rw [hprebuilt call hcall]
    exact Statement.leavesAll_nil
  exact ⟨_, b, b', b'', p, _, s, hmade, hstart, hcalls, hbuild, hstands, beq_iff_eq.1 hinner,
    beq_iff_eq.1 hstores,
    built_stores_resolve hmade hstart hcalls hbuild hstands (beq_iff_eq.1 hinner)⟩

/-- A call for a new row from a query that stores its row in a variable. -/
def insertedRow : List Call := [
  .insert (.rows {
    table := { name := "t" }, columns := ["a"],
    select := some { items := [⟨.literal (.int 1), none⟩], into := ["v"] } })]

/-- **Nobody looks at the names that the query of new rows stores in**: here there is no such
variable. -/
theorem insertedRow_unresolved : ∃ b b' b'' p levels s,
    Builder.start .block (.value .null) Builder.usualStem = .ok b ∧
      b.runAll insertedRow = (.ok (), b') ∧ b'.build = (.ok p, b'') ∧
      Stands (.block p.body) levels s ∧ "v" ∈ s.stores ∧
      (ProgramHead.block.nestingAt levels).resolveTarget "v" =
        .error (.undeclared .variable "v") := by
  have hok : (emptyBuilder.runAll insertedRow).1.isOk = true := by decide +kernel
  have hshape : ((emptyBuilder.runAll insertedRow).2.build.1.toOption.any fun p =>
      p.body.statements.head?.any fun s => s.stores.contains "v") = true := by
    decide +kernel
  rcases hcalls : emptyBuilder.runAll insertedRow with ⟨e | u, b'⟩
  · rw [hcalls] at hok
    cases hok
  rw [hcalls] at hshape
  rcases hbuild : b'.build with ⟨e | p, b''⟩
  · rw [hbuild] at hshape
    cases hshape
  rw [hbuild] at hshape
  have hfirst : (p.body.statements.head?.any fun s => s.stores.contains "v") = true := hshape
  cases hstatements : p.body.statements with
  | nil =>
    rw [hstatements] at hfirst
    cases hfirst
  | cons s after =>
    rw [hstatements] at hfirst
    have hheld : [] ++ s :: after ∈ (Statement.block p.body).held :=
      List.mem_singleton.2 hstatements.symm
    have hsession : Nesting.isSession "v" = false := by decide +kernel
    have hrow : Nesting.rowOf? "v" = none := by decide +kernel
    have hresolve : (ProgramHead.block.nestingAt [⟨.block p.body, []⟩]).resolveTarget "v" =
        .error (.undeclared .variable "v") := by
      simp only [Nesting.resolveTarget, Nesting.resolveVariable, hsession, hrow]
      rfl
    exact ⟨emptyBuilder, b', b'', p, _, s, rfl, hcalls, hbuild, .inside hheld .here,
      List.contains_iff_mem.1 hfirst, hresolve⟩

end StoredSql
