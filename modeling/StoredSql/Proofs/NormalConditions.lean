import StoredSql.Proofs.Contracts
import StoredSql.QueryText
import StoredSql.Select

/-!
# The normal form of conditions

Conjunctions and disjunctions are made by `Condition.all` and `Condition.any` only, which put the
parts of a part in its place. They look at one level; that there is no deeper one is an invariant of
all that is put together with them (`Composed`): within it no conjunction holds a conjunction and no
disjunction is empty or holds a disjunction, in any depth and also in queries
(`composed_conditions_normal`). A conjunction then asks for nothing only if it has no parts, so that
unwrapping a condition, which writing one begins with (`Condition.unwrap`), never has parts to leave
out.
-/

namespace StoredSql

open Outcome

/-! ## Parts -/

/-- The expressions that a value is tested for. -/
def Test.parts : Test → List Expr
  | .binary _ right => [right]
  | .isNull => []
  | .isNotNull => []
  | .inValues values => values
  | .inQuery q => [.subquery q]
  | .between low high => [low, high]

/-- The query that a source is. -/
def Source.parts : Source → List Expr
  | .query q _ => [.subquery q]
  | _ => []

/-- The source and the condition of a join. -/
def Join.parts (j : Join) : List Expr := j.source.parts ++ j.condition.toList.map .condition

/-- The columns of a grouping and its condition. -/
def GroupBy.parts (g : GroupBy) : List Expr := g.columns ++ g.having.toList.map .condition

/-- The expressions, conditions and queries that a query is made of. -/
def SelectQuery.parts (q : SelectQuery) : List Expr :=
  q.items.map (·.expr) ++ q.source.toList.flatMap Source.parts ++ q.joins.flatMap Join.parts
    ++ q.filter.toList.map .condition ++ q.groupBy.toList.flatMap GroupBy.parts
    ++ q.orderBy.map (·.expr)

/-- The expressions, conditions and queries that a condition is made of. -/
def Condition.parts : Condition → List Expr
  | .compare left test => left :: test.parts
  | .and cs => cs.map .condition
  | .or cs => cs.map .condition
  | .not c => [.condition c]
  | .isTrue e => [e]
  | .exists q => [.subquery q]
  | .foreign e => [e]

/-- The expressions, conditions and queries that an expression is made of. -/
def Expr.parts : Expr → List Expr
  | .call _ args => args
  | .arithmetic left _ right => [left, right]
  | .subquery q => q.parts
  | .condition c => c.parts
  | _ => []

/-- Whether an expression stands in another one, in any depth. -/
inductive Expr.Within (x : Expr) : Expr → Prop
  | self : Within x x
  | part {e p : Expr} (hp : p ∈ e.parts) (h : Within x p) : Within x e

/-! ## What is put together -/

/-- Whether an expression is a conjunction or a disjunction. -/
def Expr.isConnective : Expr → Bool
  | .condition (.and _) => true
  | .condition (.or _) => true
  | _ => false

/-- An expression that callers can put together: conjunctions and disjunctions as they are made of
conditions, and anything else from any parts. -/
inductive Composed : Expr → Prop
  | other {e : Expr} (he : e.isConnective = false) (hparts : ∀ p ∈ e.parts, Composed p) : Composed e
  | all {os : List Operand} {c : Condition}
      (hos : ∀ o ∈ os, ∀ d, o.condition? = some d → Composed (.condition d))
      (h : Condition.all os = .ok c) : Composed (.condition c)
  | any {os : List Operand} {c : Condition}
      (hos : ∀ o ∈ os, ∀ d, o.condition? = some d → Composed (.condition d))
      (h : Condition.any os = .ok c) : Composed (.condition c)

namespace Condition

/-- What is put in the place of the operands. -/
theorem flatten_eq_ok {name : String} {parts : Condition → List Condition} {os : List Operand}
    {cs : List Condition} (h : flatten name parts os = .ok cs) :
    ∃ ds : List Condition, os.map Operand.condition? = ds.map some ∧ cs = ds.flatMap parts := by
  induction os generalizing cs with
  | nil =>
    obtain rfl := Except.ok.inj h
    exact ⟨[], rfl, rfl⟩
  | cons o os ih =>
    rw [flatten] at h
    split at h
    · rename_i d hd
      obtain ⟨rest, hrest, rfl⟩ := map_eq_ok.1 h
      obtain ⟨ds, hds, rfl⟩ := ih hrest
      exact ⟨d :: ds, by rw [List.map_cons, hd, hds, List.map_cons], List.flatMap_cons.symm⟩
    · cases h

theorem flatten_operands (name : String) (parts : Condition → List Condition)
    (cs : List Condition) : flatten name parts (cs.map operand) = .ok (cs.flatMap parts) := by
  induction cs with
  | nil => rfl
  | cons c cs ih =>
    show (flatten name parts (cs.map operand)).map (parts c ++ ·) = _
    rw [ih]
    rfl

/-- A condition is among the conditions that operands are. -/
theorem exists_of_mem_conditions {os : List Operand} {ds : List Condition} {d : Condition}
    (h : os.map Operand.condition? = ds.map some) (hd : d ∈ ds) :
    ∃ o ∈ os, o.condition? = some d := by
  have hmem : some d ∈ os.map Operand.condition? := h ▸ List.mem_map_of_mem hd
  simpa using hmem

end Condition

/-! ## Normal form -/

/-- A conjunction without conjunctions among its parts, a disjunction that has parts and no
disjunctions among them, or any other condition. -/
def Condition.IsNormal : Condition → Prop
  | .and cs => ∀ c ∈ cs, ∀ ds, c ≠ .and ds
  | .or cs => cs ≠ [] ∧ ∀ c ∈ cs, ∀ ds, c ≠ .or ds
  | _ => True

/-- Whether all conditions in an expression, in any depth, are in normal form. -/
def Expr.IsNormal (e : Expr) : Prop := ∀ c, Expr.Within (.condition c) e → c.IsNormal

namespace Expr.IsNormal

variable {e p : Expr} {c : Condition}

theorem self (h : IsNormal (.condition c)) : c.IsNormal := h c .self

theorem part (h : e.IsNormal) (hp : p ∈ e.parts) : p.IsNormal := fun c hc => h c (.part hp hc)

/-- A condition is in normal form in any depth if its parts are and it is at its outermost. -/
theorem of_parts (hparts : ∀ p ∈ c.parts, p.IsNormal) (hc : c.IsNormal) :
    IsNormal (.condition c) := by
  intro d hd
  cases hd with
  | self => exact hc
  | part hp hd => exact hparts _ hp d hd

end Expr.IsNormal

namespace Condition

theorem mem_conjuncts {c d : Condition} (h : c ∈ d.conjuncts) :
    c = d ∨ Expr.condition c ∈ d.parts := by
  unfold conjuncts at h
  split at h
  · exact .inr (List.mem_map_of_mem h)
  · exact .inl (List.mem_singleton.1 h)

theorem mem_disjuncts {c d : Condition} (h : c ∈ d.disjuncts) :
    c = d ∨ Expr.condition c ∈ d.parts := by
  unfold disjuncts at h
  split at h
  · exact .inr (List.mem_map_of_mem h)
  · exact .inl (List.mem_singleton.1 h)

/-- The parts of a conjunction, and a condition that is none, are no conjunctions. -/
theorem ne_and_of_mem_conjuncts {c d : Condition} (hd : d.IsNormal) (h : c ∈ d.conjuncts)
    (ds : List Condition) : c ≠ .and ds := by
  unfold conjuncts at h
  split at h
  · exact hd c h ds
  · rename_i hne
    obtain rfl := List.mem_singleton.1 h
    exact hne ds

theorem ne_or_of_mem_disjuncts {c d : Condition} (hd : d.IsNormal) (h : c ∈ d.disjuncts)
    (ds : List Condition) : c ≠ .or ds := by
  unfold disjuncts at h
  split at h
  · exact hd.2 c h ds
  · rename_i hne
    obtain rfl := List.mem_singleton.1 h
    exact hne ds

/-- What is put in the place of operands in normal form is in normal form, and part of one that
is. -/
theorem isNormal_of_mem_flatten {name : String} {parts : Condition → List Condition}
    (hparts : ∀ {c d}, c ∈ parts d → c = d ∨ Expr.condition c ∈ d.parts) {os : List Operand}
    (hos : ∀ o ∈ os, ∀ d, o.condition? = some d → Expr.IsNormal (.condition d))
    {cs : List Condition} (h : flatten name parts os = .ok cs) {c : Condition} (hc : c ∈ cs) :
    Expr.IsNormal (.condition c) ∧ ∃ d : Condition, d.IsNormal ∧ c ∈ parts d := by
  obtain ⟨ds, hds, rfl⟩ := flatten_eq_ok h
  obtain ⟨d, hmem, hcd⟩ := List.mem_flatMap.1 hc
  obtain ⟨o, ho, hod⟩ := exists_of_mem_conditions hds hmem
  have hd := hos o ho d hod
  refine ⟨?_, d, hd.self, hcd⟩
  rcases hparts hcd with rfl | hpart
  · exact hd
  · exact hd.part hpart

theorem isNormal_all {os : List Operand} {c : Condition}
    (hos : ∀ o ∈ os, ∀ d, o.condition? = some d → Expr.IsNormal (.condition d))
    (h : all os = .ok c) : Expr.IsNormal (.condition c) := by
  obtain ⟨cs, hcs, rfl⟩ := map_eq_ok.1 h
  have hmem := fun c hc => isNormal_of_mem_flatten mem_conjuncts hos hcs (c := c) hc
  refine .of_parts (fun p hp => ?_) fun c hc => ?_
  · obtain ⟨c, hc, rfl⟩ := List.mem_map.1 hp
    exact (hmem c hc).1
  · obtain ⟨-, d, hd, hcd⟩ := hmem c hc
    exact ne_and_of_mem_conjuncts hd hcd

theorem isNormal_any {os : List Operand} {c : Condition}
    (hos : ∀ o ∈ os, ∀ d, o.condition? = some d → Expr.IsNormal (.condition d))
    (h : any os = .ok c) : Expr.IsNormal (.condition c) := by
  obtain ⟨cs, hcs, h⟩ := bind_eq_ok.1 h
  have hmem := fun c hc => isNormal_of_mem_flatten mem_disjuncts hos hcs (c := c) hc
  split at h
  · cases h
  rename_i hne
  obtain rfl := Except.ok.inj h
  refine .of_parts (fun p hp => ?_) ⟨fun hnil => hne (by rw [hnil]; rfl), fun c hc => ?_⟩
  · obtain ⟨c, hc, rfl⟩ := List.mem_map.1 hp
    exact (hmem c hc).1
  · obtain ⟨-, d, hd, hcd⟩ := hmem c hc
    exact ne_or_of_mem_disjuncts hd hcd

end Condition

/-- **What is put together is in normal form.** -/
theorem Composed.isNormal {e : Expr} (h : Composed e) : e.IsNormal := by
  induction h with
  | @other e he _ ih =>
    intro c hc
    cases hc with
    | self =>
      cases c with
      | and _ => cases he
      | or _ => cases he
      | _ => exact trivial
    | part hp hc => exact ih _ hp c hc
  | all _ h ih => exact Condition.isNormal_all ih h
  | any _ h ih => exact Condition.isNormal_any ih h

/-! ## Unwrapping -/

namespace Condition

/-- What a turn of unwrapping does: it ends, goes on with a part, or ends with a conjunction without
the parts that ask for nothing. -/
inductive Turn where
  | done
  | onward (c : Condition)
  | rebuilt (c : Condition)

/-- A turn of unwrapping. -/
def turn : Condition → Turn
  | .and cs =>
    match cs.filter (!·.isTrivial) with
    | [c] => .onward c
    | kept =>
      if kept.length ≠ cs.length then .rebuilt (.and (kept.flatMap conjuncts)) else .done
  | .or [c] => .onward c
  | _ => .done

theorem sizeOf_lt_of_turn {c d : Condition} (h : c.turn = .onward d) : sizeOf d < sizeOf c := by
  unfold turn at h
  split at h
  · rename_i cs
    split at h
    · rename_i e he
      obtain rfl := Turn.onward.inj h
      have hmem : e ∈ cs := (List.mem_filter.1 (he ▸ List.mem_singleton_self e)).1
      have := List.sizeOf_lt_of_mem hmem
      simp only [and.sizeOf_spec]
      omega
    · split at h <;> cases h
  · obtain rfl := Turn.onward.inj h
    simp only [or.sizeOf_spec, List.cons.sizeOf_spec]
    omega
  · cases h

/-- A condition without the conjunctions and disjunctions of one part around it: what is written of
it is seen at its outermost. -/
def unwrap (c : Condition) : Condition :=
  match _h : c.turn with
  | .done => c
  | .onward d => d.unwrap
  | .rebuilt d => d
termination_by sizeOf c
decreasing_by exact sizeOf_lt_of_turn _h

variable {c e : Condition} {cs : List Condition}

theorem isTrivial_eq_false (h : ∀ ds, c ≠ .and ds) : c.isTrivial = false := by
  unfold isTrivial
  split
  · rename_i ds
    exact absurd rfl (h ds)
  · rfl

theorem shape_ne_trivial (h : ∀ ds, c ≠ .and ds) : c.shape ≠ .trivial := by
  cases c with
  | and ds => exact absurd rfl (h ds)
  | or ds =>
    unfold shape Shape.ofAny
    split
    · simp
    · rename_i hne
      assumption
    · simp
  | isTrue e => cases e <;> simp [shape]
  | _ => simp [shape]

/-- A conjunction in normal form asks for nothing only if it has no parts. -/
theorem isTrivial_and_iff (h : IsNormal (.and cs)) : (and cs).isTrivial = true ↔ cs = [] := by
  cases cs with
  | nil => simp [isTrivial, allTrivial]
  | cons c cs => simp [isTrivial, allTrivial, isTrivial_eq_false (h c List.mem_cons_self)]

theorem filter_isTrivial (h : IsNormal (.and cs)) : cs.filter (!·.isTrivial) = cs :=
  List.filter_eq_self.2 fun c hc => by rw [isTrivial_eq_false (h c hc)]; rfl

/-- What a turn goes on with is the only part of the condition. -/
theorem eq_of_turn_onward (h : c.IsNormal) (ht : c.turn = .onward e) :
    c = .and [e] ∨ c = .or [e] := by
  unfold turn at ht
  split at ht
  · rename_i cs
    rw [filter_isTrivial h] at ht
    split at ht
    · obtain rfl := Turn.onward.inj ht
      exact .inl rfl
    · split at ht <;> cases ht
  · obtain rfl := Turn.onward.inj ht
    exact .inr rfl
  · cases ht

theorem mem_parts_of_turn (h : c.IsNormal) (ht : c.turn = .onward e) :
    Expr.condition e ∈ c.parts := by
  rcases eq_of_turn_onward h ht with rfl | rfl <;> exact List.mem_singleton_self _

/-- A conjunction in normal form is never rebuilt. -/
theorem turn_ne_rebuilt (h : c.IsNormal) (d : Condition) : c.turn ≠ .rebuilt d := by
  intro ht
  unfold turn at ht
  split at ht
  · rw [filter_isTrivial h] at ht
    split at ht
    · cases ht
    · rw [if_neg (· rfl)] at ht
      cases ht
  · cases ht
  · cases ht

theorem conditionText_of_turn (d : Dialect) (h : c.IsNormal) (ht : c.turn = .onward e) :
    d.conditionText c = d.conditionText e := by
  rcases eq_of_turn_onward h ht with rfl | rfl
  · have hshape : e.shape ≠ .trivial := shape_ne_trivial (h e (List.mem_singleton_self e))
    cases htext : d.conditionText e <;>
      simp [Dialect.conditionText, Dialect.conditionTexts, htext, shapes, Shape.textOfAll, Shape.kept,
        hshape, bind, Except.bind, pure, Except.pure]
  · cases htext : d.conditionText e <;>
      simp [Dialect.conditionText, Dialect.conditionTexts, htext, Shape.textOfAny, Text.joinWith,
        bind, Except.bind, pure, Except.pure]

/-- **A condition is written as what it unwraps to.** -/
theorem conditionText_unwrap (d : Dialect) (h : Expr.IsNormal (.condition c)) :
    d.conditionText c.unwrap = d.conditionText c := by
  fun_induction unwrap c with
  | case1 c _ => rfl
  | case2 c e ht ih =>
    rw [ih (h.part (mem_parts_of_turn h.self ht)), conditionText_of_turn d h.self ht]
  | case3 c e ht => exact absurd ht (turn_ne_rebuilt h.self e)

theorem shape_and (h : IsNormal (.and cs)) : (and cs).shape = match cs with
    | [] => .trivial
    | [c] => c.shape
    | _ => .conjunction := by
  match cs with
  | [] => rfl
  | [c] =>
    have hc : c.shape ≠ .trivial := shape_ne_trivial (h c List.mem_cons_self)
    simp [shape, shapes, Shape.ofAll, hc]
  | c :: c' :: cs =>
    have hc : c.shape ≠ .trivial := shape_ne_trivial (h c List.mem_cons_self)
    have hc' : c'.shape ≠ .trivial :=
      shape_ne_trivial (h c' (List.mem_cons_of_mem _ List.mem_cons_self))
    simp [shape, shapes, Shape.ofAll, hc, hc']

theorem shape_or (cs : List Condition) : (or cs).shape = match cs with
    | [c] => if c.shape = .trivial then .truth else c.shape
    | _ => .disjunction := by
  match cs with
  | [] => rfl
  | [c] =>
    simp only [shape, shapes]
    split
    · rename_i hc
      rw [hc, Shape.ofAny]
    · rename_i hc
      cases hs : c.shape <;> first | exact absurd hs hc | rfl
  | c :: c' :: cs => simp [shape, shapes, Shape.ofAny]

theorem shape_ne_truth_of_done (h : c.IsNormal) (ht : c.turn = .done) : c.shape ≠ .truth := by
  cases c with
  | and cs =>
    rw [shape_and h]
    unfold turn at ht
    simp only [filter_isTrivial h] at ht
    split
    · simp
    · cases ht
    · simp
  | or cs =>
    rw [shape_or]
    split
    · cases ht
    · simp
  | isTrue e => cases e <;> simp [shape]
  | _ => simp [shape]

/-- **The shape of a condition is that of what it unwraps to**, but for a conjunction of nothing
within a disjunction. -/
theorem shape_unwrap (h : Expr.IsNormal (.condition c)) :
    c.unwrap.shape = if c.shape = .truth then .trivial else c.shape := by
  fun_induction unwrap c with
  | case1 c ht => rw [if_neg (shape_ne_truth_of_done h.self ht)]
  | case2 c e ht ih =>
    rw [ih (h.part (mem_parts_of_turn h.self ht))]
    rcases eq_of_turn_onward h.self ht with rfl | rfl
    · rw [shape_and h.self]
    · rw [shape_or]
      by_cases htrivial : e.shape = .trivial <;> simp [htrivial]
  | case3 c e ht => exact absurd ht (turn_ne_rebuilt h.self e)

/-- Unwrapping comes to its end, with a part of the condition. -/
theorem turn_unwrap (h : Expr.IsNormal (.condition c)) :
    c.unwrap.turn = .done ∧ c.unwrap.IsNormal := by
  fun_induction unwrap c with
  | case1 c ht => exact ⟨ht, h.self⟩
  | case2 c e ht ih => exact ih (h.part (mem_parts_of_turn h.self ht))
  | case3 c e ht => exact absurd ht (turn_ne_rebuilt h.self e)

/-- **A condition counts as empty exactly if it unwraps to a conjunction of nothing.** -/
theorem isEmpty_iff_unwrap (h : Expr.IsNormal (.condition c)) :
    Condition.isEmpty (some c) = true ↔ c.unwrap = .and [] := by
  have hempty : Condition.isEmpty (some c) = true ↔ c.unwrap.shape = .trivial := by
    rw [shape_unwrap h]
    show c.shape.isEmpty = true ↔ _
    cases c.shape <;> simp [Shape.isEmpty]
  rw [hempty]
  refine ⟨fun hshape => ?_, fun heq => by rw [heq]; rfl⟩
  obtain ⟨hdone, hnormal⟩ := turn_unwrap h
  revert hshape hdone hnormal
  generalize c.unwrap = u
  intro hshape hdone hnormal
  cases u with
  | and cs =>
    rw [shape_and hnormal] at hshape
    unfold turn at hdone
    simp only [filter_isTrivial hnormal] at hdone
    split at hshape
    · rfl
    · cases hdone
    · cases hshape
  | _ => exact absurd hshape (shape_ne_trivial (by simp))

end Condition
/-! ## The ways to make a condition -/

mutual

/-- The expressions and queries that an operand brings. -/
def Operand.exprs : Operand → List Expr
  | .expr e => [e]
  | .query q => [.subquery q]
  | .draft d => [.subquery d.parts]
  | .list items => Operand.allExprs items
  | .tuple items => Operand.allExprs items
  | _ => []

def Operand.allExprs : List Operand → List Expr
  | [] => []
  | o :: os => o.exprs ++ Operand.allExprs os

end

/-- Whether an operand brings only what is put together. -/
def Operand.IsComposed (o : Operand) : Prop := ∀ e ∈ o.exprs, Composed e

/-- The ways to make a condition of operands. -/
inductive Condition.MadeOf : List Operand → Condition → Prop
  | test {left right : Operand} {op : CompareOp} {c : Condition}
      (h : ofTest left op right = .ok c) : MadeOf [left, right] c
  | equal {left right : Operand} {c : Condition} (h : ofEqual left right = .ok c) :
      MadeOf [left, right] c
  | unequal {left right : Operand} {c : Condition} (h : ofUnequal left right = .ok c) :
      MadeOf [left, right] c
  | member {left values : Operand} {c : Condition} (h : ofMember left values = .ok c) :
      MadeOf [left, values] c
  | truth {o : Operand} {c : Condition} (h : ofTruth o = .ok c) : MadeOf [o] c
  | rows {o : Operand} {c : Condition} (h : ofRows o = .ok c) : MadeOf [o] c
  | all {os : List Operand} {c : Condition} (h : all os = .ok c) : MadeOf os c
  | any {os : List Operand} {c : Condition} (h : any os = .ok c) : MadeOf os c
  | anyOf {os : List Operand} {c : Condition} (h : anyOf os = .ok c) : MadeOf os c
  | negate {o : Operand} {c : Condition} (h : negate o = .ok c) : MadeOf [o] c
  | narrow {existing : Option Condition} {o : Operand} {c : Condition}
      (h : narrow existing o = .ok c) : MadeOf (o :: existing.toList.map operand) c

/-- An expression without parts is put together of nothing. -/
theorem Composed.of_parts_nil {e : Expr} (he : e.isConnective = false) (hparts : e.parts = []) :
    Composed e :=
  .other he fun _ hp => absurd (hparts ▸ hp) List.not_mem_nil

theorem composed_ofValue (v : Value) : Yields Composed (fun _ => True) (Expr.ofValue v) := by
  unfold Expr.ofValue
  split
  · split
    · exact Composed.of_parts_nil rfl rfl
    · trivial
  · split
    · exact Composed.of_parts_nil rfl rfl
    · trivial
  · exact Composed.of_parts_nil rfl rfl
  · exact Composed.of_parts_nil rfl rfl

theorem composed_ofColumnName (name : String) : Composed (Expr.ofColumnName name) := by
  unfold Expr.ofColumnName
  split <;> exact .of_parts_nil rfl rfl

namespace Operand.IsComposed

variable {o : Operand} {items : List Operand}

theorem toExpr (ho : o.IsComposed) : Yields Composed (fun _ => True) o.toExpr := by
  cases o with
  | expr e => exact ho e (List.mem_singleton_self e)
  | value v => exact composed_ofValue v
  | _ => trivial

theorem toColumn (ho : o.IsComposed) : Yields Composed (fun _ => True) o.toColumn := by
  unfold Operand.toColumn
  split
  · rename_i e
    exact ho e (List.mem_singleton_self e)
  · split
    · exact composed_ofColumnName _
    · trivial

/-- A draft that is built keeps its clauses. -/
theorem build_eq_parts (d : SelectDraft) : Yields (· = d.parts) (fun _ => True) d.build := by
  have hcheck : Yields (· = d.parts) (fun _ => True) d.parts.check := by
    unfold SelectQuery.check
    split
    · trivial
    · split
      · trivial
      · exact rfl
  exact hcheck.bind fun q hq => .guarded trivial hq

theorem built (ho : o.IsComposed) : Yields IsComposed (fun _ => True) o.built := by
  cases o with
  | draft d =>
    refine (build_eq_parts d).map fun q hq => ?_
    subst hq
    exact ho
  | rowsDraft d => exact (yields_true d.build).map fun q _ e he => absurd he List.not_mem_nil
  | _ => exact ho

theorem of_allExprs (h : ∀ e ∈ allExprs items, Composed e) : ∀ i ∈ items, i.IsComposed := by
  induction items with
  | nil => exact fun _ hi => absurd hi List.not_mem_nil
  | cons o os ih =>
    rw [allExprs, List.forall_mem_append] at h
    exact List.forall_mem_cons.2 ⟨h.1, ih h.2⟩

/-- Items that are plain values are put together of nothing. -/
theorem of_map {α : Type} {as : List α} {f : α → Operand} (hf : ∀ a, (f a).exprs = []) :
    ∀ i ∈ as.map f, i.IsComposed := by
  intro i hi e he
  obtain ⟨a, -, rfl⟩ := List.mem_map.1 hi
  rw [hf a] at he
  cases he

theorem sequence? (ho : o.IsComposed) (h : o.sequence? = some items) :
    ∀ i ∈ items, i.IsComposed := by
  unfold Operand.sequence? items? at h
  split at h
  · cases h
  · cases h
  · cases h
  split at h
  · obtain rfl := Option.some.inj h
    exact of_allExprs ho
  · obtain rfl := Option.some.inj h
    exact of_allExprs ho
  · obtain rfl := Option.some.inj h
    exact of_map fun _ => rfl
  · obtain rfl := Option.some.inj h
    exact of_map fun _ => rfl
  · obtain rfl := Option.some.inj h
    exact of_map fun _ => rfl
  · obtain ⟨s, -, rfl⟩ := Option.map_eq_some_iff.1 h
    exact of_map fun _ => rfl
  · cases h

end Operand.IsComposed

namespace Condition

theorem readTest_composed {op : CompareOp} {right : Operand} (ho : right.IsComposed) :
    Yields (fun t : Test => ∀ p ∈ t.parts, Composed p) (fun _ => True) (readTest op right) := by
  have hnil : ∀ p ∈ ([] : List Expr), Composed p := fun _ hp => absurd hp List.not_mem_nil
  unfold readTest
  split
  · split
    · exact hnil
    · trivial
  · split
    · exact hnil
    · trivial
  · split
    · exact List.forall_mem_singleton.2 (ho _ (List.mem_singleton_self _))
    · split
      · trivial
      · rename_i items hitems
        exact (Yields.mapM fun i hi => (ho.sequence? hitems i hi).toExpr).bind fun es hes =>
          .guarded trivial hes
  · split
    · trivial
    · rename_i low high hitems
      have hitem := ho.sequence? hitems
      exact (hitem low (by simp)).toExpr.bind fun l hl => (hitem high (by simp)).toExpr.bind
        fun h hh => .pure (List.forall_mem_cons.2 ⟨hl, List.forall_mem_singleton.2 hh⟩)
    · trivial
  · exact ho.toExpr.bind fun e he => .pure (List.forall_mem_singleton.2 he)

theorem ofTest_composed {left right : Operand} {op : CompareOp} (hl : left.IsComposed)
    (hr : right.IsComposed) :
    Yields (fun c => Composed (.condition c)) (fun _ => True) (ofTest left op right) := by
  unfold ofTest
  refine hl.toColumn.bind fun l hl => (readTest_composed hr).bind fun t ht => .pure ?_
  exact .other rfl (List.forall_mem_cons.2 ⟨hl, ht⟩)

theorem ofEqual_composed {left right : Operand} (hl : left.IsComposed) (hr : right.IsComposed) :
    Yields (fun c => Composed (.condition c)) (fun _ => True) (ofEqual left right) := by
  unfold ofEqual
  split
  · exact ofTest_composed hl hr
  · exact ofTest_composed hl hr

theorem ofUnequal_composed {left right : Operand} (hl : left.IsComposed) (hr : right.IsComposed) :
    Yields (fun c => Composed (.condition c)) (fun _ => True) (ofUnequal left right) := by
  unfold ofUnequal
  split
  · exact ofTest_composed hl hr
  · exact ofTest_composed hl hr

theorem ofMember_composed {left values : Operand} (hl : left.IsComposed) (hv : values.IsComposed) :
    Yields (fun c => Composed (.condition c)) (fun _ => True) (ofMember left values) := by
  unfold ofMember
  split
  · rename_i d
    refine (Operand.IsComposed.build_eq_parts d).bind fun q hq => ofTest_composed hl ?_
    subst hq
    exact hv
  · exact ofTest_composed hl hv

theorem ofTruth_composed {o : Operand} (ho : o.IsComposed) :
    Yields (fun c => Composed (.condition c)) (fun _ => True) (ofTruth o) := by
  unfold ofTruth
  split
  · exact .other rfl (List.forall_mem_singleton.2 (.of_parts_nil rfl rfl))
  · exact ho.toExpr.map fun e he => .other rfl (List.forall_mem_singleton.2 he)

theorem ofRows_composed {o : Operand} (ho : o.IsComposed) :
    Yields (fun c => Composed (.condition c)) (fun _ => True) (ofRows o) := by
  refine ho.built.map fun o ho => ?_
  unfold keepRows
  split
  · exact .other rfl (List.forall_mem_singleton.2 (ho _ (List.mem_singleton_self _)))
  · exact .other rfl (List.forall_mem_singleton.2 (.of_parts_nil rfl rfl))

theorem condition_composed {o : Operand} (ho : o.IsComposed) {d : Condition}
    (h : o.condition? = some d) : Composed (.condition d) := by
  unfold Operand.condition? at h
  split at h
  · obtain rfl := Option.some.inj h
    exact ho _ (List.mem_singleton_self _)
  · cases h

/-- **What is made of operands that are put together is put together.** -/
theorem MadeOf.composed {os : List Operand} {c : Condition} (h : MadeOf os c)
    (hos : ∀ o ∈ os, o.IsComposed) : Composed (.condition c) := by
  have hconditions : ∀ o ∈ os, ∀ d, o.condition? = some d → Composed (.condition d) :=
    fun o ho d hd => condition_composed (hos o ho) hd
  cases h with
  | test h => exact (ofTest_composed (hos _ (by simp)) (hos _ (by simp))).of_ok h
  | equal h => exact (ofEqual_composed (hos _ (by simp)) (hos _ (by simp))).of_ok h
  | unequal h => exact (ofUnequal_composed (hos _ (by simp)) (hos _ (by simp))).of_ok h
  | member h => exact (ofMember_composed (hos _ (by simp)) (hos _ (by simp))).of_ok h
  | truth h => exact (ofTruth_composed (hos _ (by simp))).of_ok h
  | rows h => exact (ofRows_composed (hos _ (by simp))).of_ok h
  | all h => exact .all hconditions h
  | any h => exact .any hconditions h
  | anyOf h =>
    unfold Condition.anyOf at h
    split at h
    · cases h
    · exact .any hconditions h
  | @negate o _ h =>
    unfold Condition.negate at h
    split at h
    · rename_i d hd
      obtain rfl := Except.ok.inj h
      exact .other rfl (List.forall_mem_singleton.2 (hconditions o (by simp) d hd))
    · cases h
  | @narrow existing o _ h =>
    unfold Condition.narrow at h
    split at h
    · cases h
    rename_i d hd
    have hd := hconditions o (by simp) d hd
    split at h
    · obtain rfl := Except.ok.inj h
      exact hd
    · rename_i e
      refine .all (List.forall_mem_cons.2 ⟨hconditions e.operand (by simp),
        List.forall_mem_singleton.2 fun f hf => ?_⟩) h
      obtain rfl := Option.some.inj hf
      exact hd

end Condition

/-! ## Flattening in any order -/

namespace Condition

/-- A conjunction within a conjunction is flattened, whatever stands around it. -/
theorem all_append_all (xs ys zs : List Condition) :
    ∃ a b, all (ys.map operand) = .ok a ∧ all ((xs ++ [a] ++ zs).map operand) = .ok b ∧
      all ((xs ++ ys ++ zs).map operand) = .ok b := by
  have hall : ∀ cs : List Condition, all (cs.map operand) = .ok (.and (cs.flatMap conjuncts)) :=
    fun cs => by rw [all, flatten_operands]; rfl
  refine ⟨_, _, hall ys, hall _, ?_⟩
  rw [hall]
  simp [conjuncts]

theorem disjuncts_ne_nil {c : Condition} (h : c.IsNormal) : c.disjuncts ≠ [] := by
  unfold disjuncts
  split
  · exact h.1
  · nofun

/-- A disjunction of some conditions within a disjunction is flattened, whatever stands around
it. -/
theorem any_append_any {xs ys zs : List Condition} (hys : ys ≠ [])
    (hnormal : ∀ c ∈ ys, c.IsNormal) :
    ∃ a b, any (ys.map operand) = .ok a ∧ any ((xs ++ [a] ++ zs).map operand) = .ok b ∧
      any ((xs ++ ys ++ zs).map operand) = .ok b := by
  have hany : ∀ cs : List Condition, cs.flatMap disjuncts ≠ [] →
      any (cs.map operand) = .ok (.or (cs.flatMap disjuncts)) := by
    intro cs hcs
    rw [any, flatten_operands]
    exact if_neg fun h => hcs (List.isEmpty_iff.1 h)
  have hne : ys.flatMap disjuncts ≠ [] := by
    cases ys with
    | nil => exact absurd rfl hys
    | cons c ys => simp [disjuncts_ne_nil (hnormal c List.mem_cons_self)]
  refine ⟨_, _, hany ys hne, hany _ ?_, ?_⟩
  · simp [disjuncts, hne]
  · rw [hany]
    · simp [disjuncts]
    · simp [hne]

end Condition

/-- **Conditions are in normal form.** In what callers put together, in any depth, no conjunction
holds a conjunction, and no disjunction is empty or holds a disjunction; a conjunction asks for
nothing only if it has no parts, and unwrapping never rebuilds one. Conditions are combined at once
or part by part with the same result, and a conjunction of nothing adds nothing. -/
theorem composed_conditions_normal :
    (∀ e, Composed e →
      (∀ c, Expr.Within (.condition c) e → c.IsNormal ∧ ∀ d, c.turn ≠ .rebuilt d) ∧
      ∀ cs, Expr.Within (.condition (.and cs)) e →
        ((Condition.and cs).isTrivial = true ↔ cs = [])) ∧
    (Condition.all [] = .ok (.and []) ∧ ∀ xs ys zs : List Condition,
      ∃ a b, Condition.all (ys.map Condition.operand) = .ok a ∧
        Condition.all ((xs ++ [a] ++ zs).map Condition.operand) = .ok b ∧
        Condition.all ((xs ++ ys ++ zs).map Condition.operand) = .ok b) ∧
    ∀ xs ys zs : List Condition, ys ≠ [] → (∀ c ∈ ys, Composed (.condition c)) →
      ∃ a b, Condition.any (ys.map Condition.operand) = .ok a ∧
        Condition.any ((xs ++ [a] ++ zs).map Condition.operand) = .ok b ∧
        Condition.any ((xs ++ ys ++ zs).map Condition.operand) = .ok b := by
  refine ⟨fun e he => ?_, ⟨rfl, Condition.all_append_all⟩, fun xs ys zs hys hcomposed => ?_⟩
  · have hnormal := he.isNormal
    refine ⟨fun c hc => ⟨hnormal c hc, Condition.turn_ne_rebuilt (hnormal c hc)⟩, fun cs hcs => ?_⟩
    exact Condition.isTrivial_and_iff (hnormal _ hcs)
  · exact Condition.any_append_any hys fun c hc => (hcomposed c hc).isNormal.self

/-- A conjunction that is extended by another condition, in a query. -/
theorem nested_conditions_normal :
    let x : Condition := .isTrue (.variable "x")
    let q : SelectQuery := { items := [⟨.variable "y", none⟩], filter := some (.and [x, x, x]) }
    Condition.all [x.operand, x.operand] = .ok (.and [x, x]) ∧
      Condition.all [(Condition.and [x, x]).operand, x.operand] = .ok (.and [x, x, x]) ∧
      Expr.Within (.condition (.and [x, x, x])) (.subquery q) ∧ (Condition.and [x, x, x]).IsNormal ∧
      ∃ a b, Condition.any [x.operand, x.operand] = .ok a ∧
        Condition.any [x.operand, a.operand] = .ok b ∧
        Condition.any [x.operand, x.operand, x.operand] = .ok b := by
  intro x q
  have hx : Composed (.condition x) :=
    .other rfl (List.forall_mem_singleton.2 (.of_parts_nil rfl rfl))
  have hall : ∀ (cs : List Condition) {c : Condition}, (∀ d ∈ cs, Composed (.condition d)) →
      Condition.all (cs.map Condition.operand) = .ok c → Composed (.condition c) := by
    intro cs c hcs h
    refine .all (fun o ho d hd => ?_) h
    obtain ⟨e, he, rfl⟩ := List.mem_map.1 ho
    obtain rfl := Option.some.inj hd
    exact hcs e he
  have hpair : Composed (.condition (.and [x, x])) := hall [x, x] (by simp [hx]) rfl
  have htriple : Composed (.condition (.and [x, x, x])) :=
    hall [.and [x, x], x] (by simp [hx, hpair]) rfl
  have hq : Composed (.subquery q) := by
    refine .other rfl (List.forall_mem_cons.2 ⟨.of_parts_nil rfl rfl, ?_⟩)
    exact List.forall_mem_singleton.2 htriple
  have hwithin : Expr.Within (.condition (.and [x, x, x])) (.subquery q) :=
    .part (List.mem_cons_of_mem _ (List.mem_singleton_self _)) .self
  obtain ⟨hnormal, -, hany⟩ := composed_conditions_normal
  refine ⟨rfl, rfl, hwithin, ((hnormal _ hq).1 _ hwithin).1, ?_⟩
  exact hany [x] [x, x] [] (List.cons_ne_nil _ _) (by simp [hx])

end StoredSql
