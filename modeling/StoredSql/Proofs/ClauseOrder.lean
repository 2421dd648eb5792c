import Mathlib.Data.List.Sort
import StoredSql.Rendering

/-!
# Clauses in any order

Each step in putting a query together writes one clause, and reads no other: what it comes to is
settled by what the query has for that clause (`SelectDraft.clausesAfter_eq`). So of a run of steps
only those of a clause matter for it (`SelectDraft.run_clause`). Steps that are put in another order,
but for those of the same clause, fail as before and lead to the same draft (`reordered_steps`).
-/

namespace StoredSql

/-- The clauses of a query. -/
inductive SelectClause where
  | items | source | joins | filter | grouping | order | limit | distinct | into
deriving DecidableEq, Repr

/-- What a query may have for a clause. -/
def SelectClause.Value : SelectClause → Type
  | items => List SelectItem
  | source => Option Source
  | joins => List Join
  | filter => Option Condition
  | grouping => Option GroupBy
  | order => List SortKey
  | limit => Option RowLimit
  | distinct => Bool
  | into => List String

/-- The clause that a step writes. -/
def SelectStep.clause : SelectStep → SelectClause
  | select .. => .items
  | selectAs .. => .items
  | distinct .. => .distinct
  | source .. => .source
  | rename .. => .source
  | join .. => .joins
  | crossJoin .. => .joins
  | filter .. => .filter
  | groupBy .. => .grouping
  | having .. => .grouping
  | orderBy .. => .order
  | limit .. => .limit
  | into .. => .into

namespace SelectQuery

/-- What a query has for a clause. -/
def clause (q : SelectQuery) : (c : SelectClause) → c.Value
  | .items => q.items
  | .source => q.source
  | .joins => q.joins
  | .filter => q.filter
  | .grouping => q.groupBy
  | .order => q.orderBy
  | .limit => q.limit
  | .distinct => q.distinct
  | .into => q.into

/-- The query with another value for a clause. -/
def withClause (q : SelectQuery) : (c : SelectClause) → c.Value → SelectQuery
  | .items, v => { q with items := v }
  | .source, v => { q with source := v }
  | .joins, v => { q with joins := v }
  | .filter, v => { q with filter := v }
  | .grouping, v => { q with groupBy := v }
  | .order, v => { q with orderBy := v }
  | .limit, v => { q with limit := v }
  | .distinct, v => { q with distinct := v }
  | .into, v => { q with into := v }

variable {q q' : SelectQuery} {c c' : SelectClause}

@[simp] theorem clause_withClause (v : c.Value) : (q.withClause c v).clause c = v := by
  cases c <;> rfl

theorem clause_withClause_of_ne (h : c' ≠ c) (v : c.Value) :
    (q.withClause c v).clause c' = q.clause c' := by
  cases c <;> cases c' <;> first | rfl | exact absurd rfl h

/-- A query is nothing but its clauses. -/
theorem eq_of_clauses (h : ∀ c, q.clause c = q'.clause c) : q = q' := by
  obtain ⟨items, source, joins, filter, groupBy, orderBy, limit, distinct, into⟩ := q
  obtain ⟨items', source', joins', filter', groupBy', orderBy', limit', distinct', into'⟩ := q'
  obtain rfl : items = items' := h .items
  obtain rfl : source = source' := h .source
  obtain rfl : joins = joins' := h .joins
  obtain rfl : filter = filter' := h .filter
  obtain rfl : groupBy = groupBy' := h .grouping
  obtain rfl : orderBy = orderBy' := h .order
  obtain rfl : limit = limit' := h .limit
  obtain rfl : distinct = distinct' := h .distinct
  obtain rfl : into = into' := h .into
  rfl

end SelectQuery

/-! ## One step -/

/-- What a step makes of the clause that it writes, seen on a query that has no other one. -/
def SelectStep.write (s : SelectStep) (v : s.clause.Value) : Except Error s.clause.Value :=
  (SelectDraft.clausesAfter (SelectDraft.empty.parts.withClause s.clause v) s).map
    (·.clause s.clause)

namespace SelectDraft

/-- **A step reads and writes nothing but its clause.** -/
theorem clausesAfter_eq (q : SelectQuery) (s : SelectStep) :
    clausesAfter q s = (s.write (q.clause s.clause)).map (q.withClause s.clause) := by
  cases s with
  | select columns =>
    simp only [SelectStep.write, clausesAfter]
    cases columns.mapM Operand.toColumn <;> rfl
  | selectAs column asName =>
    simp only [SelectStep.write, clausesAfter]
    cases column.toColumn <;> rfl
  | distinct flag => rfl
  | source source asName =>
    simp only [SelectStep.write, clausesAfter]
    cases Source.ofOperand source asName <;> rfl
  | rename asName =>
    obtain ⟨items, source, joins, filter, groupBy, orderBy, limit, distinct, into⟩ := q
    cases source with
    | none => rfl
    | some source =>
      simp only [SelectStep.write, clausesAfter, withAlias, SelectStep.clause, SelectQuery.clause,
        SelectQuery.withClause]
      cases Source.ofOperand (.source source) asName <;> rfl
  | join kind source condition shared asName =>
    simp only [SelectStep.write, clausesAfter, withJoin]
    cases (Keyword.read (Text.upper kind) : Except Error JoinKind) with
    | error e => rfl
    | ok kind =>
      by_cases hc : kind = JoinKind.cross
      · subst hc
        rfl
      · cases Source.ofOperand source asName with
        | error e =>
          simp only [bind, Except.bind, hc, if_false]
          rfl
        | ok source =>
          simp only [bind, Except.bind, hc, if_false]
          cases Join.make kind source (condition.ifAny.map (·.keepCondition)) shared <;> rfl
  | crossJoin source asName =>
    simp only [SelectStep.write, clausesAfter]
    cases Source.ofOperand source asName with
    | error e => rfl
    | ok source =>
      simp only [bind, Except.bind]
      cases Join.make .cross source none [] <;> rfl
  | filter condition =>
    obtain ⟨items, source, joins, filter, groupBy, orderBy, limit, distinct, into⟩ := q
    simp only [SelectStep.write, clausesAfter, SelectStep.clause, SelectQuery.clause,
      SelectQuery.withClause]
    cases Condition.narrow filter condition <;> rfl
  | groupBy columns having rollup =>
    simp only [SelectStep.write, clausesAfter]
    cases GroupBy.make columns (having.ifAny.map (·.keepCondition)) rollup <;> rfl
  | having condition =>
    obtain ⟨items, source, joins, filter, groupBy, orderBy, limit, distinct, into⟩ := q
    cases groupBy with
    | none => rfl
    | some grouping =>
      simp only [SelectStep.write, clausesAfter, withHaving, SelectStep.clause, SelectQuery.clause,
        SelectQuery.withClause]
      cases Condition.narrow grouping.having condition <;> rfl
  | orderBy column direction =>
    simp only [SelectStep.write, clausesAfter]
    cases SortKey.make column direction <;> rfl
  | limit count offset =>
    simp only [SelectStep.write, clausesAfter]
    cases RowLimit.make count offset.ifAny <;> rfl
  | into targets =>
    simp only [SelectStep.write, clausesAfter]
    cases targets.isEmpty <;> rfl

/-- The draft after a step. A step that fails leaves it as it was. -/
def next (d : SelectDraft) (s : SelectStep) : SelectDraft := (d.after s).toOption.getD d

/-- Why a step fails, if it does. -/
def failure? (d : SelectDraft) (s : SelectStep) : Option Error :=
  match d.after s with
  | .ok _ => none
  | .error e => some e

variable {d d' : SelectDraft} {s : SelectStep} {c : SelectClause}

theorem failure?_congr (h : d.parts.clause s.clause = d'.parts.clause s.clause) :
    d.failure? s = d'.failure? s := by
  unfold failure? after
  rw [clausesAfter_eq, clausesAfter_eq, h]
  cases s.write (d'.parts.clause s.clause) <;> rfl

theorem next_clause_congr (h : d.parts.clause s.clause = d'.parts.clause s.clause) :
    (d.next s).parts.clause s.clause = (d'.next s).parts.clause s.clause := by
  unfold next after
  rw [clausesAfter_eq, clausesAfter_eq, h]
  cases s.write (d'.parts.clause s.clause) with
  | error e => exact h
  | ok v => exact (SelectQuery.clause_withClause v).trans (SelectQuery.clause_withClause v).symm

theorem next_clause_of_ne (h : s.clause ≠ c) :
    (d.next s).parts.clause c = d.parts.clause c := by
  unfold next after
  rw [clausesAfter_eq]
  cases s.write (d.parts.clause s.clause) with
  | error e => rfl
  | ok v => exact SelectQuery.clause_withClause_of_ne h.symm v

/-! ## Runs -/

/-- The draft after a run of steps. -/
def run (d : SelectDraft) (steps : List SelectStep) : SelectDraft := steps.foldl next d

/-- Why a step of a run fails, if it does. -/
def failureAt (d : SelectDraft) (steps : List SelectStep) (i : Fin steps.length) : Option Error :=
  (d.run (steps.take i)).failure? steps[i]

/-- What a run makes of a clause is what the steps of the clause make of it. -/
theorem run_clause (h : d.parts.clause c = d'.parts.clause c) (steps : List SelectStep) :
    (d.run steps).parts.clause c = (d'.run (steps.filter (·.clause = c))).parts.clause c := by
  induction steps generalizing d d' with
  | nil => exact h
  | cons s steps ih =>
    by_cases hc : s.clause = c
    · subst hc
      rw [List.filter_cons_of_pos (by simp)]
      exact ih (next_clause_congr h)
    · rw [List.filter_cons_of_neg (by simp [hc])]
      exact ih ((next_clause_of_ne hc).trans h)

end SelectDraft

/-! ## Reordering -/

/-- Steps in another order: each has a place among the others, and steps of one clause come in the
order that they had. -/
structure Reordering (steps steps' : List SelectStep) where
  place : Fin steps.length ≃ Fin steps'.length
  same : ∀ i, steps'[place i] = steps[i]
  keeps : ∀ i j, i < j → steps[i].clause = steps[j].clause → place i < place j

/-- What is kept of the front of a list, place by place. -/
theorem filter_take_eq {α : Type} (p : α → Bool) (xs : List α) (k : Nat) :
    (xs.take k).filter p =
      ((List.finRange xs.length).filter fun i : Fin xs.length => decide (i < k) && p xs[i]).map
        fun i => xs[i] := by
  induction xs generalizing k with
  | nil => simp
  | cons x xs ih =>
    cases k with
    | zero => simp
    | succ k =>
      have hrest : ((List.finRange (xs.length + 1)).filter
          fun i : Fin (xs.length + 1) => decide (i < k + 1) && p (x :: xs)[i]).map
            (fun i => (x :: xs)[i]) = [x].filter p ++ (xs.take k).filter p := by
        rw [List.finRange_succ, ih k]
        cases hx : p x <;> simp [hx, List.filter_map, Function.comp_def]
      exact (List.filter_append [x] (xs.take k)).trans hrest.symm

namespace Reordering

variable {steps steps' : List SelectStep} (ρ : Reordering steps steps')
include ρ

theorem place_lt_iff {i j : Fin steps.length} (h : steps[i].clause = steps[j].clause) :
    ρ.place i < ρ.place j ↔ i < j := by
  refine ⟨fun hp => ?_, fun hi => ρ.keeps i j hi h⟩
  rcases lt_trichotomy i j with hi | rfl | hi
  · exact hi
  · exact absurd hp (lt_irrefl _)
  · exact absurd hp (ρ.keeps j i hi h.symm).asymm

/-- Where the fronts of both runs have the same steps of a clause, they have them in one order. -/
theorem filter_take {c : SelectClause} (k k' : Nat)
    (h : ∀ i, steps[i].clause = c → (ρ.place i < k' ↔ i < k)) :
    (steps'.take k').filter (·.clause = c) = (steps.take k).filter (·.clause = c) := by
  have hplaces : ((List.finRange steps.length).filter fun i : Fin steps.length =>
        decide (i < k) && decide (steps[i].clause = c)).map ρ.place =
      (List.finRange steps'.length).filter fun j : Fin steps'.length =>
        decide (j < k') && decide (steps'[j].clause = c) := by
    -- both are in order, and have the same members
    refine List.Pairwise.eq_of_mem_iff (r := (· < ·)) ?_ ?_ fun j => ?_
    · rw [List.pairwise_map]
      refine ((List.sortedLT_finRange _).pairwise.filter _).imp_of_mem ?_
      intro i j hi hj hij
      simp only [List.mem_filter, List.mem_finRange, true_and, Bool.and_eq_true,
        decide_eq_true_eq] at hi hj
      exact ρ.keeps i j hij (hi.2.trans hj.2.symm)
    · exact (List.sortedLT_finRange _).pairwise.filter _
    · obtain ⟨i, rfl⟩ := ρ.place.surjective j
      have hclause : steps'[ρ.place i].clause = steps[i].clause := by rw [ρ.same]
      have hfront := h i
      rw [List.mem_map_of_injective ρ.place.injective]
      simp only [List.mem_filter, List.mem_finRange, true_and, Bool.and_eq_true, decide_eq_true_eq,
        hclause]
      constructor
      · rintro ⟨hi, hc⟩
        exact ⟨(hfront hc).2 hi, hc⟩
      · rintro ⟨hi, hc⟩
        exact ⟨(hfront hc).1 hi, hc⟩
  rw [filter_take_eq, filter_take_eq, ← hplaces, List.map_map]
  exact List.map_congr_left fun i _ => ρ.same i

end Reordering

variable {steps steps' : List SelectStep}

/-- **Clauses may be given in any order.** -/
theorem reordered_steps (d : SelectDraft) (ρ : Reordering steps steps') :
    (∀ i, d.failureAt steps' (ρ.place i) = d.failureAt steps i) ∧
      d.run steps' = d.run steps ∧
      (d.run steps').build = (d.run steps).build ∧
      ∀ D : Dialect,
        D.renderOperand (.draft (d.run steps')) = D.renderOperand (.draft (d.run steps)) := by
  have hrun : d.run steps' = d.run steps := by
    refine congrArg SelectDraft.mk (?_ : (d.run steps').parts = (d.run steps).parts)
    refine SelectQuery.eq_of_clauses fun c => ?_
    have hsteps : steps'.filter (·.clause = c) = steps.filter (·.clause = c) := by
      simpa using ρ.filter_take steps.length steps'.length fun i _ => by simp
    rw [SelectDraft.run_clause rfl steps', hsteps, ← SelectDraft.run_clause rfl steps]
  refine ⟨fun i => ?_, hrun, by rw [hrun], fun D => by rw [hrun]⟩
  have hfront : (steps'.take (ρ.place i)).filter (·.clause = steps[i].clause) =
      (steps.take i).filter (·.clause = steps[i].clause) :=
    ρ.filter_take i (ρ.place i) fun j hj => ρ.place_lt_iff hj
  unfold SelectDraft.failureAt
  rw [ρ.same]
  apply SelectDraft.failure?_congr
  rw [SelectDraft.run_clause rfl, hfront, ← SelectDraft.run_clause rfl]

/-- A query that is put together source first. -/
def sourceFirst : List SelectStep :=
  [.rename (some "u"), .source (.value (.text "t")) none, .rename (some "u"),
    .select [.value (.text "id")]]

/-- The same query, put together columns first. -/
def columnsFirst : List SelectStep :=
  [.select [.value (.text "id")], .rename (some "u"), .source (.value (.text "t")) none,
    .rename (some "u")]

/-- The columns, given last, are given first. -/
def columnsMoved : Reordering sourceFirst columnsFirst where
  place := (⟨(· + 1), (· - 1), (by decide : ∀ i : Fin 4, i + 1 - 1 = i),
    (by decide : ∀ i : Fin 4, i - 1 + 1 = i)⟩ : Fin 4 ≃ Fin 4)
  same
    | ⟨0, _⟩ | ⟨1, _⟩ | ⟨2, _⟩ | ⟨3, _⟩ => rfl
  keeps := by decide

/-- Wherever the columns are given, there is nothing to rename before there is a source. -/
theorem columnsMoved_steps :
    SelectDraft.empty.failureAt columnsFirst (columnsMoved.place ⟨0, by decide⟩) =
        some (.query .nothingToAlias) ∧
      SelectDraft.empty.run columnsFirst = SelectDraft.empty.run sourceFirst ∧
      (SelectDraft.empty.run columnsFirst).parts.source = some (.table ⟨none, "t", some "u"⟩) := by
  have h := reordered_steps SelectDraft.empty columnsMoved
  exact ⟨h.1 ⟨0, by decide⟩, h.2.1, congrArg (·.parts.source) h.2.1⟩

end StoredSql
