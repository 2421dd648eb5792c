import StoredSql.Proofs.Places

/-!
# References to variables

The variables that expressions, conditions, queries and statements refer to, part by part. They are
those that their outlines are searched for (`Expr.variableNames_outline` and the lemmas like it), so
that the search misses no part of a query.
-/

namespace StoredSql

/-! ## Expressions and queries -/

namespace RowCount

/-- The variables that a count of rows refers to. -/
def references : RowCount → List String
  | .number _ => []
  | .variable name => [name]

end RowCount

namespace RowLimit

/-- The variables that a limit refers to. -/
def references (l : RowLimit) : List String :=
  l.count.references ++ (l.offset.map (·.references)).getD []

end RowLimit

mutual

/-- The variables that an expression refers to. What is no expression is known by its outline
only. -/
def Expr.references : Expr → List String
  | .column _ _ => []
  | .variable name => [name]
  | .literal _ => []
  | .call _ args => Expr.allReferences args
  | .arithmetic left _ right => left.references ++ right.references
  | .raw _ => []
  | .subquery q => q.references
  | .condition c => c.references
  | .foreign o => o.variableNames

def Expr.allReferences : List Expr → List String
  | [] => []
  | e :: es => e.references ++ Expr.allReferences es

/-- The variables that a condition refers to. -/
def Condition.references : Condition → List String
  | .compare left test => left.references ++ test.references
  | .and cs => Condition.allReferences cs
  | .or cs => Condition.allReferences cs
  | .not c => c.references
  | .isTrue e => e.references
  | .exists q => q.references
  | .foreign e => e.references

def Condition.allReferences : List Condition → List String
  | [] => []
  | c :: cs => c.references ++ Condition.allReferences cs

def Condition.referencesIfAny : Option Condition → List String
  | none => []
  | some c => c.references

/-- The variables to the right of an operator. -/
def Test.references : Test → List String
  | .binary _ right => right.references
  | .isNull => []
  | .isNotNull => []
  | .inValues values => Expr.allReferences values
  | .inQuery q => q.references
  | .between low high => low.references ++ high.references

/-- The variables that a source refers to. -/
def Source.references : Source → List String
  | .table _ => []
  | .query q _ => q.references
  | .foreign o => o.variableNames

def Source.referencesIfAny : Option Source → List String
  | none => []
  | some s => s.references

def SelectItem.references : SelectItem → List String
  | ⟨expr, _⟩ => expr.references

def SelectItem.allReferences : List SelectItem → List String
  | [] => []
  | i :: items => i.references ++ SelectItem.allReferences items

/-- The variables that a join refers to. -/
def Join.references : Join → List String
  | ⟨_, source, condition, _⟩ => source.references ++ Condition.referencesIfAny condition

def Join.allReferences : List Join → List String
  | [] => []
  | j :: joins => j.references ++ Join.allReferences joins

/-- The variables that a grouping refers to. -/
def GroupBy.references : GroupBy → List String
  | ⟨columns, having, _⟩ => Expr.allReferences columns ++ Condition.referencesIfAny having

def GroupBy.referencesIfAny : Option GroupBy → List String
  | none => []
  | some g => g.references

def SortKey.references : SortKey → List String
  | ⟨expr, _⟩ => expr.references

def SortKey.allReferences : List SortKey → List String
  | [] => []
  | k :: keys => k.references ++ SortKey.allReferences keys

/-- The variables that a query refers to, in all of its clauses. -/
def SelectQuery.references : SelectQuery → List String
  | ⟨items, source, joins, filter, groupBy, orderBy, limit, _, _⟩ =>
    SelectItem.allReferences items ++ Source.referencesIfAny source ++ Join.allReferences joins
      ++ Condition.referencesIfAny filter ++ GroupBy.referencesIfAny groupBy
      ++ SortKey.allReferences orderBy ++ (limit.map (·.references)).getD []

end

/-! ### The search by outlines -/

namespace Outline

@[simp] theorem variableNames_text (s : String) : (text s).variableNames = [] := rfl

@[simp] theorem variableNames_bool (b : Bool) : (bool b).variableNames = [] := rfl

@[simp] theorem variableNames_null : null.variableNames = [] := rfl

@[simp] theorem variableNames_word {α : Type} [Keyword α] (a : α) : (word a).variableNames = [] :=
  rfl

@[simp] theorem variableNames_value (v : Value) : (value v).variableNames = [] := rfl

@[simp] theorem variableNames_texts (ss : List String) : (texts ss).variableNames = [] := by
  unfold texts
  show variableNamesOfList (ss.map text) = []
  induction ss with
  | nil => rfl
  | cons s ss ih => exact ih

@[simp] theorem variableNames_textIfAny (s : Option String) :
    (optional text s).variableNames = [] := by
  cases s <;> rfl

@[simp] theorem variableNames_tuple (os : List Outline) :
    (tuple os).variableNames = os.flatMap variableNames := by
  show variableNamesOfList os = _
  induction os with
  | nil => rfl
  | cons o os ih => exact congrArg (o.variableNames ++ ·) ih

theorem variableNames_optional {α : Type} (f : α → Outline) (a : Option α) :
    (optional f a).variableNames = (a.map fun a => (f a).variableNames).getD [] := by
  cases a <;> rfl

theorem variableNamesOfFields_eq (fields : List (String × Outline)) :
    variableNamesOfFields fields = fields.flatMap fun field => field.2.variableNames := by
  induction fields with
  | nil => rfl
  | cons field fields ih => exact congrArg (field.2.variableNames ++ ·) ih

/-- A node that is no reference itself is searched field by field. -/
theorem variableNames_plain {kind : String} {fields : List (String × Outline)}
    (h : kind ≠ variableKind) :
    (plain kind fields).variableNames = fields.flatMap fun field => field.2.variableNames := by
  have hfields : (plain kind fields).variableNames = variableNamesOfFields fields := if_neg h
  rw [hfields, variableNamesOfFields_eq]

end Outline

open Outline

theorem TableRef.variableNames_outline (t : TableRef) : t.outline.variableNames = [] := by
  rw [TableRef.outline, variableNames_plain (by decide)]
  simp

theorem RowCount.variableNames_outline (n : RowCount) : n.outline.variableNames = n.references := by
  cases n <;> rfl

theorem RowLimit.variableNames_outline (l : RowLimit) :
    l.outline.variableNames = l.references := by
  rw [RowLimit.outline, RowLimit.references, variableNames_plain (by decide)]
  simp [variableNames_optional, RowCount.variableNames_outline]

mutual

theorem Expr.variableNames_outline : ∀ e : Expr, e.outline.variableNames = e.references
  | .column table _ => by
    rw [Expr.outline, Expr.references, variableNames_plain (by decide)]
    simp
  | .variable _ => rfl
  | .literal _ => rfl
  | .call _ args => by
    rw [Expr.outline, Expr.references, variableNames_plain (by decide)]
    simp [Expr.variableNames_outlines args]
  | .arithmetic left _ right => by
    rw [Expr.outline, Expr.references, variableNames_plain (by decide)]
    simp [Expr.variableNames_outline left, Expr.variableNames_outline right]
  | .raw _ => rfl
  | .subquery q => by
    rw [Expr.outline, Expr.references, variableNames_plain (by decide)]
    simp [SelectQuery.variableNames_outline q]
  | .condition c => Condition.variableNames_outline c
  | .foreign _ => rfl

theorem Expr.variableNames_outlines : ∀ es : List Expr,
    (Expr.outlines es).flatMap variableNames = Expr.allReferences es
  | [] => rfl
  | e :: es => by
    rw [Expr.outlines, Expr.allReferences, List.flatMap_cons, Expr.variableNames_outline e,
      Expr.variableNames_outlines es]

theorem Condition.variableNames_outline : ∀ c : Condition, c.outline.variableNames = c.references
  | .compare left test => by
    rw [Condition.outline, Condition.references, variableNames_plain (by decide)]
    simp [Expr.variableNames_outline left, Test.variableNames_outline test]
  | .and cs => by
    rw [Condition.outline, Condition.references, variableNames_plain (by decide)]
    simp [Condition.variableNames_outlines cs]
  | .or cs => by
    rw [Condition.outline, Condition.references, variableNames_plain (by decide)]
    simp [Condition.variableNames_outlines cs]
  | .not c => by
    rw [Condition.outline, Condition.references, variableNames_plain (by decide)]
    simp [Condition.variableNames_outline c]
  | .isTrue e => by
    rw [Condition.outline, Condition.references, variableNames_plain (by decide)]
    simp [Expr.variableNames_outline e]
  | .exists q => by
    rw [Condition.outline, Condition.references, variableNames_plain (by decide)]
    simp [SelectQuery.variableNames_outline q]
  | .foreign e => Expr.variableNames_outline e

theorem Condition.variableNames_outlines : ∀ cs : List Condition,
    (Condition.outlines cs).flatMap variableNames = Condition.allReferences cs
  | [] => rfl
  | c :: cs => by
    rw [Condition.outlines, Condition.allReferences, List.flatMap_cons,
      Condition.variableNames_outline c, Condition.variableNames_outlines cs]

theorem Condition.variableNames_outlineIfAny : ∀ c : Option Condition,
    (Condition.outlineIfAny c).variableNames = Condition.referencesIfAny c
  | none => rfl
  | some c => Condition.variableNames_outline c

theorem Test.variableNames_outline : ∀ t : Test, t.outline.2.variableNames = t.references
  | .binary _ right => Expr.variableNames_outline right
  | .isNull => rfl
  | .isNotNull => rfl
  | .inValues values => by
    rw [Test.outline, Test.references, variableNames_tuple, Expr.variableNames_outlines values]
  | .inQuery q => by
    rw [Test.outline, Test.references, variableNames_plain (by decide)]
    simp [SelectQuery.variableNames_outline q]
  | .between low high => by
    rw [Test.outline, Test.references, variableNames_tuple]
    simp [Expr.variableNames_outline low, Expr.variableNames_outline high]

theorem Source.variableNames_outline : ∀ s : Source, s.outline.variableNames = s.references
  | .table t => t.variableNames_outline
  | .query q _ => by
    rw [Source.outline, Source.references, variableNames_plain (by decide)]
    simp [SelectQuery.variableNames_outline q]
  | .foreign _ => rfl

theorem Source.variableNames_outlineIfAny : ∀ s : Option Source,
    (Source.outlineIfAny s).variableNames = Source.referencesIfAny s
  | none => rfl
  | some s => Source.variableNames_outline s

theorem SelectItem.variableNames_outline : ∀ i : SelectItem, i.outline.variableNames = i.references
  | ⟨expr, asName⟩ => by
    rw [SelectItem.outline, SelectItem.references, variableNames_plain (by decide)]
    simp [Expr.variableNames_outline expr]

theorem SelectItem.variableNames_outlines : ∀ items : List SelectItem,
    (SelectItem.outlines items).flatMap variableNames = SelectItem.allReferences items
  | [] => rfl
  | i :: items => by
    rw [SelectItem.outlines, SelectItem.allReferences, List.flatMap_cons,
      SelectItem.variableNames_outline i, SelectItem.variableNames_outlines items]

theorem Join.variableNames_outline : ∀ j : Join, j.outline.variableNames = j.references
  | ⟨_, source, condition, _⟩ => by
    rw [Join.outline, Join.references, variableNames_plain (by decide)]
    simp [Source.variableNames_outline source, Condition.variableNames_outlineIfAny condition]

theorem Join.variableNames_outlines : ∀ joins : List Join,
    (Join.outlines joins).flatMap variableNames = Join.allReferences joins
  | [] => rfl
  | j :: joins => by
    rw [Join.outlines, Join.allReferences, List.flatMap_cons, Join.variableNames_outline j,
      Join.variableNames_outlines joins]

theorem GroupBy.variableNames_outline : ∀ g : GroupBy, g.outline.variableNames = g.references
  | ⟨columns, having, _⟩ => by
    rw [GroupBy.outline, GroupBy.references, variableNames_plain (by decide)]
    simp [Expr.variableNames_outlines columns, Condition.variableNames_outlineIfAny having]

theorem GroupBy.variableNames_outlineIfAny : ∀ g : Option GroupBy,
    (GroupBy.outlineIfAny g).variableNames = GroupBy.referencesIfAny g
  | none => rfl
  | some g => GroupBy.variableNames_outline g

theorem SortKey.variableNames_outline : ∀ k : SortKey, k.outline.variableNames = k.references
  | ⟨expr, _⟩ => by
    rw [SortKey.outline, SortKey.references, variableNames_plain (by decide)]
    simp [Expr.variableNames_outline expr]

theorem SortKey.variableNames_outlines : ∀ keys : List SortKey,
    (SortKey.outlines keys).flatMap variableNames = SortKey.allReferences keys
  | [] => rfl
  | k :: keys => by
    rw [SortKey.outlines, SortKey.allReferences, List.flatMap_cons, SortKey.variableNames_outline k,
      SortKey.variableNames_outlines keys]

/-- **The search by outlines reaches every clause of a query.** -/
theorem SelectQuery.variableNames_outline : ∀ q : SelectQuery,
    q.outline.variableNames = q.references
  | ⟨items, source, joins, filter, groupBy, orderBy, limit, _, _⟩ => by
    rw [SelectQuery.outline, SelectQuery.references, variableNames_plain (by decide)]
    simp [variableNames_optional, RowLimit.variableNames_outline,
      SelectItem.variableNames_outlines items, Source.variableNames_outlineIfAny source,
      Join.variableNames_outlines joins, Condition.variableNames_outlineIfAny filter,
      GroupBy.variableNames_outlineIfAny groupBy, SortKey.variableNames_outlines orderBy]

end

/-- The variables that the way in which new rows go in refers to; what is no such way is known by its
outline only. -/
def RowMode.references : RowMode → List String
  | .known _ => []
  | .foreign o => o.variableNames

theorem RowMode.variableNames_outline (m : RowMode) : m.outline.variableNames = m.references := by
  cases m <;> rfl

/-- The variables that new rows refer to. -/
def InsertQuery.references (q : InsertQuery) : List String :=
  q.rows.flatMap Expr.allReferences ++ (q.select.map (·.references)).getD []
    ++ q.mode.references ++ q.onDuplicate.flatMap (·.2.references)

theorem InsertQuery.variableNames_outline (q : InsertQuery) :
    q.outline.variableNames = q.references := by
  rw [InsertQuery.outline, InsertQuery.references, variableNames_plain (by decide)]
  simp [variableNames_optional, List.flatMap_map, TableRef.variableNames_outline,
    RowMode.variableNames_outline, Expr.variableNames_outlines, SelectQuery.variableNames_outline,
    Expr.variableNames_outline]

theorem Expr.flatMap_variableNames (es : List Expr) :
    es.flatMap (·.outline.variableNames) = Expr.allReferences es := by
  induction es with
  | nil => rfl
  | cons e es ih => rw [List.flatMap_cons, ih, Expr.variableNames_outline, Expr.allReferences]

/-! ## Statements -/

namespace Statement

/-- The variables that a statement refers to, besides those that the statements in it do. -/
def references : Statement → List String
  | declareVariables _ _ initial => (initial.map (·.references)).getD []
  | declareCursor _ query => query.references
  | ifElse branches _ => branches.flatMap (·.test.references)
  | cases operand whens _ =>
    (operand.map (·.references)).getD [] ++ whens.flatMap (·.test.references)
  | whileLoop _ test _ => test.references
  | repeatLoop _ test _ => test.references
  | select query => query.references
  | insert query => query.references
  | set assignments => assignments.flatMap (·.2.references)
  | call _ args => Expr.allReferences args
  | signal _ message _ => (message.map (·.references)).getD []
  | _ => []

/-- The variables that a statement assigns to. -/
def targets : Statement → List String
  | fetch _ targets => targets
  | select query => query.into
  | set assignments => assignments.map (·.1)
  | _ => []

/-- The conditions that a statement names. -/
def conditionNames : Statement → List String
  | declareHandler _ conditions _ => conditions.filterMap (·.name?)
  | signal condition _ _ => condition.name?.toList
  | _ => []

/-- The cursors that a statement names. -/
def cursorNames : Statement → List String
  | openCursor name => [name]
  | fetch name _ => [name]
  | closeCursor name => [name]
  | _ => []

end Statement

end StoredSql
