import StoredSql.Proofs.References
import StoredSql.Proofs.UpheldChecks

/-!
# Names that queries store their rows in

A query may name variables that take its row. A query can stand in nearly every part of a statement,
so the names are searched for in the outlines (`Outline.intoNames`), as references to variables are.
The names that the queries of a statement store in (`Statement.stores`) are all that there are in
its outline, apart from those of the statements that it holds (`Statement.mem_intoNames_iff`).
-/

namespace StoredSql

/-! ## The search -/

namespace Outline

/-- The kind of the nodes that are queries. -/
def queryKind : String := "SelectQuery"

/-- The names that a query stores its row in, from its fields. -/
def intoField (fields : List (String × Outline)) : List String :=
  match fields.lookup "into" with
  | some (tuple names) => names.filterMap text?
  | _ => []

mutual

/-- The names that queries in a value store their rows in, wherever the queries stand in it. -/
def intoNames : Outline → List String
  | value _ => []
  | member .. => []
  | list items => intoNamesOfList items
  | tuple items => intoNamesOfList items
  | mapping entries => intoNamesOfFields entries
  | node kind fields _ =>
    (if kind = queryKind then intoField fields else []) ++ intoNamesOfFields fields
  | hidden _ => []

def intoNamesOfList : List Outline → List String
  | [] => []
  | o :: os => intoNames o ++ intoNamesOfList os

def intoNamesOfFields : List (String × Outline) → List String
  | [] => []
  | (_, o) :: fields => intoNames o ++ intoNamesOfFields fields

end

variable {name : String}

theorem intoNamesOfList_eq (os : List Outline) : intoNamesOfList os = os.flatMap intoNames := by
  induction os with
  | nil => rfl
  | cons o os ih => exact congrArg (o.intoNames ++ ·) ih

theorem intoNamesOfFields_eq (fields : List (String × Outline)) :
    intoNamesOfFields fields = fields.flatMap fun field => field.2.intoNames := by
  induction fields with
  | nil => rfl
  | cons field fields ih => exact congrArg (field.2.intoNames ++ ·) ih

@[simp] theorem intoNames_text (s : String) : (text s).intoNames = [] := rfl

@[simp] theorem intoNames_null : null.intoNames = [] := rfl

@[simp] theorem intoNames_word {α : Type} [Keyword α] (a : α) : (word a).intoNames = [] := rfl

@[simp] theorem intoNames_tuple (os : List Outline) :
    (tuple os).intoNames = os.flatMap intoNames := intoNamesOfList_eq os

@[simp] theorem intoNames_texts (ss : List String) : (texts ss).intoNames = [] := by
  rw [texts, intoNames_tuple, List.flatMap_map]
  exact List.flatMap_eq_nil_iff.2 fun _ _ => rfl

@[simp] theorem intoNames_textIfAny (s : Option String) : (optional text s).intoNames = [] := by
  cases s <;> rfl

theorem mem_intoNames_optional {α : Type} {f : α → Outline} {a : Option α} :
    name ∈ (optional f a).intoNames ↔ ∃ o ∈ (a.map f).toList, name ∈ o.intoNames := by
  cases a <;> simp [optional]

/-- A node that is no query is searched field by field. -/
theorem mem_intoNames_node {kind : String} {fields : List (String × Outline)}
    {note : Option (String × Outline)} (h : kind ≠ queryKind) :
    name ∈ (node kind fields note).intoNames ↔ ∃ field ∈ fields, name ∈ field.2.intoNames := by
  rw [intoNames, if_neg h, List.nil_append, intoNamesOfFields_eq, List.mem_flatMap]

theorem intoNames_query (fields : List (String × Outline)) :
    (plain "SelectQuery" fields).intoNames =
      intoField fields ++ fields.flatMap fun field => field.2.intoNames := by
  rw [plain, intoNames, if_pos (by rfl), intoNamesOfFields_eq]

end Outline

open Outline

/-- The names that the queries inside of a query store their rows in. -/
def SelectQuery.innerStores (q : SelectQuery) : List String :=
  ({ q with into := [] } : SelectQuery).outline.intoNames

/-- A query stores its own row, and those inside of it store theirs. -/
theorem SelectQuery.intoNames_outline (q : SelectQuery) :
    q.outline.intoNames = q.into ++ q.innerStores := by
  obtain ⟨items, source, joins, filter, groupBy, orderBy, limit, distinct, into⟩ := q
  have hinto : (into.map text).filterMap text? = into := by
    rw [List.filterMap_map]
    exact List.filterMap_some
  unfold innerStores
  rw [SelectQuery.outline, SelectQuery.outline, intoNames_query, intoNames_query]
  simp [intoField, texts, List.lookup_cons, hinto]

/-! ## Statements -/

namespace Statement

variable {name : String} {s : Statement}

/-- The names that the queries of a statement store their rows in, besides those of the statements
that it holds. -/
def stores (s : Statement) : List String :=
  match s.scopeKind? with
  | none => s.outline.intoNames
  | some _ => s.tests.flatMap intoNames

/-- The same without the names that the query of the statement itself stores its row in. -/
def innerStores : Statement → List String
  | declareCursor _ query => query.innerStores
  | select query => query.innerStores
  | s => s.stores

theorem stores_select (query : SelectQuery) :
    (select query).stores = query.into ++ query.innerStores := by
  show (plain "SelectStmt" [("query", query.outline)]).intoNames = _
  rw [plain, intoNames, if_neg (by decide), intoNamesOfFields_eq, List.flatMap_singleton,
    query.intoNames_outline, List.nil_append]

theorem stores_declareCursor (cursor : String) (query : SelectQuery) :
    (declareCursor cursor query).stores = query.into ++ query.innerStores := by
  show (plain "DeclareCursor" [("name", .text cursor), ("query", query.outline)]).intoNames = _
  rw [plain, intoNames, if_neg (by decide), intoNamesOfFields_eq, List.flatMap_cons,
    List.flatMap_singleton, query.intoNames_outline, intoNames_text, List.nil_append,
    List.nil_append]

/-! ### What a statement holds -/

theorem sizeOf_held {body : List Statement} {t : Statement} (hbody : body ∈ s.held)
    (ht : t ∈ body) : sizeOf t < sizeOf s := by
  have hlt := List.sizeOf_lt_of_mem ht
  cases s with
  | declareHandler action conditions act =>
    obtain rfl := List.mem_singleton.1 hbody
    obtain rfl := List.mem_singleton.1 ht
    simp +arith
  | block b =>
    obtain ⟨statements, label, view⟩ := b
    obtain rfl := List.mem_singleton.1 hbody
    simp only [block.sizeOf_spec, Block.mk.sizeOf_spec] at hlt ⊢
    omega
  | ifElse branches otherwise =>
    rcases List.mem_append.1 hbody with hbody | hbody
    · obtain ⟨⟨test, statements⟩, hbranch, rfl⟩ := List.mem_map.1 hbody
      have hbranch' := List.sizeOf_lt_of_mem hbranch
      simp only [IfBranch.statements, IfBranch.mk.sizeOf_spec, ifElse.sizeOf_spec] at hlt hbranch' ⊢
      omega
    · obtain rfl := Option.mem_toList.1 hbody
      simp only [ifElse.sizeOf_spec, Option.some.sizeOf_spec]
      omega
  | cases operand whens otherwise =>
    rcases List.mem_append.1 hbody with hbody | hbody
    · obtain ⟨⟨test, statements⟩, hwhen, rfl⟩ := List.mem_map.1 hbody
      have hwhen' := List.sizeOf_lt_of_mem hwhen
      simp only [CaseWhen.statements, CaseWhen.mk.sizeOf_spec, cases.sizeOf_spec] at hlt hwhen' ⊢
      omega
    · obtain rfl := Option.mem_toList.1 hbody
      simp only [cases.sizeOf_spec, Option.some.sizeOf_spec]
      omega
  | loop label statements =>
    obtain rfl := List.mem_singleton.1 hbody
    rw [loop.sizeOf_spec]
    omega
  | whileLoop label test statements =>
    obtain rfl := List.mem_singleton.1 hbody
    rw [whileLoop.sizeOf_spec]
    omega
  | repeatLoop label test statements =>
    obtain rfl := List.mem_singleton.1 hbody
    rw [repeatLoop.sizeOf_spec]
    omega
  | _ => cases hbody

/-- What holds of a statement as soon as it holds of all that the statement holds, holds of every
statement. -/
theorem held_induction {P : Statement → Prop}
    (h : ∀ s : Statement, (∀ body ∈ s.held, ∀ t ∈ body, P t) → P s) (s : Statement) : P s :=
  h s fun _ _ t _ => held_induction h t
termination_by sizeOf s
decreasing_by exact sizeOf_held ‹_› ‹_›

/-! ### Names that are stored in what a statement holds -/

theorem mem_intoNames_outlines {ss : List Statement} :
    name ∈ (tuple (outlines ss)).intoNames ↔ ∃ t ∈ ss, name ∈ t.outline.intoNames := by
  rw [intoNames_tuple]
  induction ss with
  | nil => simp [outlines]
  | cons s ss ih =>
    rw [outlines, List.flatMap_cons, List.mem_append, ih, List.exists_mem_cons_iff]

theorem mem_intoNames_outlinesIfAny {otherwise : Option (List Statement)} :
    name ∈ (outlinesIfAny otherwise).intoNames ↔
      ∃ body ∈ otherwise.toList, ∃ t ∈ body, name ∈ t.outline.intoNames := by
  cases otherwise with
  | none => simp [outlinesIfAny]
  | some body =>
    rw [outlinesIfAny, mem_intoNames_outlines, Option.toList_some, List.exists_mem_cons_iff]
    simp

/-- A test, and the statements that belong to it. -/
theorem mem_intoNames_tested {kind test body : String} {o : Outline} {ss : List Statement}
    (h : kind ≠ queryKind) :
    name ∈ (plain kind [(test, o), (body, tuple (outlines ss))]).intoNames ↔
      name ∈ o.intoNames ∨ ∃ t ∈ ss, name ∈ t.outline.intoNames := by
  rw [plain, mem_intoNames_node h, List.exists_mem_cons_iff, List.exists_mem_cons_iff,
    mem_intoNames_outlines]
  simp

theorem mem_intoNames_branches {branches : List IfBranch} :
    name ∈ (tuple (IfBranch.outlines branches)).intoNames ↔
      name ∈ branches.flatMap (·.test.outline.intoNames) ∨
        ∃ body ∈ branches.map (·.statements), ∃ t ∈ body, name ∈ t.outline.intoNames := by
  rw [intoNames_tuple]
  induction branches with
  | nil => simp [IfBranch.outlines]
  | cons branch rest ih =>
    obtain ⟨test, body⟩ := branch
    rw [IfBranch.outlines, List.flatMap_cons, List.mem_append, ih, List.map_cons,
      List.exists_mem_cons_iff, List.flatMap_cons, List.mem_append, or_or_or_comm, IfBranch.outline,
      mem_intoNames_tested (by decide)]
    rfl

theorem mem_intoNames_whens {whens : List CaseWhen} :
    name ∈ (tuple (CaseWhen.outlines whens)).intoNames ↔
      name ∈ whens.flatMap (·.test.outline.intoNames) ∨
        ∃ body ∈ whens.map (·.statements), ∃ t ∈ body, name ∈ t.outline.intoNames := by
  rw [intoNames_tuple]
  induction whens with
  | nil => simp [CaseWhen.outlines]
  | cons arm rest ih =>
    obtain ⟨test, body⟩ := arm
    rw [CaseWhen.outlines, List.flatMap_cons, List.mem_append, ih, List.map_cons,
      List.exists_mem_cons_iff, List.flatMap_cons, List.mem_append, or_or_or_comm, CaseWhen.outline,
      mem_intoNames_tested (by decide)]
    rfl

/-- What stands after a test of a statement that holds others. -/
theorem mem_stores_of_holder {k : ScopeKind} (hs : s.scopeKind? = some k) :
    name ∈ s.stores ↔ ∃ o ∈ s.tests, name ∈ o.intoNames := by
  rw [stores, hs, List.mem_flatMap]

/-- What is stored in a statement is stored by its own queries or in what it holds. -/
theorem mem_intoNames_outline : name ∈ s.outline.intoNames ↔
    name ∈ s.stores ∨ ∃ body ∈ s.held, ∃ t ∈ body, name ∈ t.outline.intoNames := by
  cases s with
  | declareHandler action conditions body =>
    have hconditions : ∀ c ∈ conditions, c.outline.intoNames = [] := by
      intro c _
      cases c <;> rfl
    rw [outline, plain, mem_intoNames_node (by decide), mem_stores_of_holder rfl]
    simp +contextual [held, tests, hconditions]
  | block b =>
    obtain ⟨statements, label, view⟩ := b
    rw [outline, Block.outline, mem_intoNames_node (by decide), mem_stores_of_holder rfl]
    simp [held, tests, Block.statements, -intoNames_tuple, mem_intoNames_outlines]
  | ifElse branches otherwise =>
    rw [outline, plain, mem_intoNames_node (by decide), mem_stores_of_holder rfl]
    simp only [List.exists_mem_cons_iff, List.not_mem_nil, false_and, exists_false, or_false,
      mem_intoNames_branches, mem_intoNames_outlinesIfAny, held, tests, List.mem_append,
      or_and_right, exists_or, or_assoc, List.mem_flatMap, List.mem_map, exists_exists_and_eq_and]
  | cases operand whens otherwise =>
    rw [outline, plain, mem_intoNames_node (by decide), mem_stores_of_holder rfl]
    simp only [List.exists_mem_cons_iff, List.not_mem_nil, false_and, exists_false, or_false,
      mem_intoNames_whens, mem_intoNames_optional, mem_intoNames_outlinesIfAny, held, tests,
      List.mem_append, or_and_right, exists_or, or_assoc, List.mem_flatMap, List.mem_map,
      exists_exists_and_eq_and]
    exact (or_congr_right or_left_comm).trans or_left_comm
  | loop label body =>
    rw [outline, plain, mem_intoNames_node (by decide), mem_stores_of_holder rfl]
    simp [held, tests, -intoNames_tuple, mem_intoNames_outlines]
  | whileLoop label test body =>
    rw [outline, plain, mem_intoNames_node (by decide), mem_stores_of_holder rfl]
    simp [held, tests, -intoNames_tuple, mem_intoNames_outlines]
  | repeatLoop label test body =>
    rw [outline, plain, mem_intoNames_node (by decide), mem_stores_of_holder rfl]
    simp [held, tests, -intoNames_tuple, mem_intoNames_outlines]
  | _ => simp [stores, scopeKind?, held]

theorem mem_intoNames_of_stands {levels : List Level} {t : Statement} (h : Stands s levels t)
    (hname : name ∈ t.stores) : name ∈ s.outline.intoNames := by
  induction h with
  | here => exact mem_intoNames_outline.2 (.inl hname)
  | @inside s u t before after levels hbody _ ih =>
    exact mem_intoNames_outline.2 (.inr ⟨_, hbody, u, by simp, ih hname⟩)

/-- **No name that a row is stored in is missed**: those in the outline of a statement are those
that the statements in it store in, each with its own queries. -/
theorem mem_intoNames_iff : name ∈ s.outline.intoNames ↔
    ∃ levels t, Stands s levels t ∧ name ∈ t.stores := by
  refine ⟨fun hname => ?_, fun ⟨_, _, ht, hname⟩ => mem_intoNames_of_stands ht hname⟩
  induction s using held_induction with
  | h s ih =>
    rcases mem_intoNames_outline.1 hname with hname | ⟨body, hbody, t, ht, hname⟩
    · exact ⟨[], s, .here, hname⟩
    · obtain ⟨levels, u, hu, hname⟩ := ih body hbody t ht hname
      obtain ⟨before, after, rfl⟩ := List.append_of_mem ht
      exact ⟨_, u, .inside hbody hu, hname⟩

end Statement

end StoredSql
