import StoredSql.Proofs.ClauseOrder
import StoredSql.Proofs.Outcome

/-!
# Aliases of sources

A step that gives a source writes it in one place of the query: the base, or one more join
(`SelectStep.Gives`). What stands there then has the alias that was given. Later steps leave it as
it is unless they write the base again, and the text of the query shows the alias in that place
(`SelectDraft.keepsAlias_of_sourceAt?`). So a source that is given an alias keeps it
(`given_aliases_kept`), with one exception: a query that is a source already has an alias, and keeps
that one, whatever alias it is given (`Operand.aliasUnder`, `aliasedQuery_not_renamed`).
-/

namespace StoredSql

open Outcome

/-- A place of a query that has a source. -/
inductive SourcePlace where
  | base
  | joined (i : Nat)
deriving DecidableEq, Repr

/-! ## Sources and their texts -/

namespace Source

/-- The alias of a source. -/
def asName? : Source → Option String
  | .table t => t.asName
  | .query _ asName => some asName
  | .foreign _ => none

/-- The text of a source without its alias. -/
def bareText (D : Dialect) : Source → Except Error String
  | .table t => D.tableName t.schema t.name
  | .query q _ => (Dialect.selectText D q).map Shape.parenthesized
  | .foreign o => .error (.kind (.source o.kindName))

end Source

namespace SelectQuery

/-- The source in a place. -/
def sourceAt? (q : SelectQuery) : SourcePlace → Option Source
  | .base => q.source
  | .joined i => (q.joins[i]?).map fun j => j.source

theorem sourceAt?_joined {q : SelectQuery} {i : Nat} {s : Source} :
    q.sourceAt? (.joined i) = some s ↔ ∃ j, q.joins[i]? = some j ∧ j.source = s :=
  Option.map_eq_some_iff

/-- What the clause of a place begins with. -/
def wordAt (q : SelectQuery) : SourcePlace → String
  | .base => "FROM"
  | .joined i => ((q.joins[i]?).map fun j => Keyword.word j.kind ++ " JOIN").getD ""

/-- The texts of the clauses in front of a place. -/
def textsBefore (D : Dialect) (q : SelectQuery) (p : SourcePlace) : Except Error (List String) := do
  let items ← Dialect.itemTexts D q.items
  let head := ["SELECT"] ++ (if q.distinct then ["DISTINCT"] else []) ++ [Dialect.commas items]
  match p with
  | .base => pure head
  | .joined i => do
    let source ← Dialect.sourceParts D q.source
    let joins ← Dialect.joinTexts D (q.joins.take i)
    pure (head ++ source ++ joins)

/-- Whether a text of the query shows the source of a place under an alias: behind all clauses in
front of the place, and in front of what a join asks for and of all other clauses. -/
def ShowsAlias (D : Dialect) (q : SelectQuery) (p : SourcePlace) (a text : String) : Prop :=
  ∃ s before bare name asked after, q.sourceAt? p = some s ∧ q.textsBefore D p = .ok before ∧
    s.bareText D = .ok bare ∧ D.identifier a = .ok name ∧
    (asked = "" ∨ ∃ rest, asked = " ON " ++ rest ∨ asked = " USING " ++ rest) ∧
    text = Text.joinWith " "
      (before ++ (q.wordAt p ++ " " ++ bare ++ " AS " ++ name ++ asked) :: after)

end SelectQuery

variable {D : Dialect} {a text : String}

/-- A source with an alias is written with the alias behind it. -/
theorem Source.sourceText_eq_ok {s : Source} (hs : s.asName? = some a) (ha : a ≠ "")
    (h : Dialect.sourceText D s = .ok text) :
    ∃ bare name, s.bareText D = .ok bare ∧ D.identifier a = .ok name ∧
      text = bare ++ " AS " ++ name := by
  cases s with
  | table t =>
    obtain ⟨schema, name, asName⟩ := t
    obtain rfl : asName = some a := hs
    have halias : Text.nonEmpty (some a) = some a := by rw [Text.nonEmpty_some, if_neg ha]
    rw [Dialect.sourceText, Dialect.tableAlias, bind_eq_ok] at h
    obtain ⟨bare, hbare, h⟩ := h
    simp only [halias, bind_eq_ok, pure_eq_ok] at h
    obtain ⟨name, hname, rfl⟩ := h
    exact ⟨bare, name, hbare, hname, rfl⟩
  | query q asName =>
    obtain rfl : asName = a := Option.some.inj hs
    simp only [Dialect.sourceText, bind_eq_ok, pure_eq_ok] at h
    obtain ⟨t, ht, name, hname, rfl⟩ := h
    exact ⟨_, name, by rw [bareText, ht]; rfl, hname, rfl⟩
  | foreign o => cases hs

/-- So is the source of a join, between the words and what the join asks for. -/
theorem Dialect.joinText_eq_ok {j : Join} (hs : j.source.asName? = some a) (ha : a ≠ "")
    (h : Dialect.joinText D j = .ok text) :
    ∃ bare name asked, j.source.bareText D = .ok bare ∧ D.identifier a = .ok name ∧
      (asked = "" ∨ ∃ rest, asked = " ON " ++ rest ∨ asked = " USING " ++ rest) ∧
      text = Keyword.word j.kind ++ " JOIN" ++ " " ++ bare ++ " AS " ++ name ++ asked := by
  obtain ⟨kind, source, condition, shared⟩ := j
  rw [Dialect.joinText, bind_eq_ok] at h
  obtain ⟨t, ht, h⟩ := h
  obtain ⟨bare, name, hbare, hname, rfl⟩ := Source.sourceText_eq_ok hs ha ht
  have hhead : Keyword.word kind ++ " JOIN " ++ (bare ++ " AS " ++ name) =
      Keyword.word kind ++ " JOIN" ++ " " ++ bare ++ " AS " ++ name := by
    have hword : " JOIN " = " JOIN" ++ " " := rfl
    simp only [hword, String.append_assoc]
  dsimp only at h
  rw [hhead] at h
  refine ⟨bare, name, ?_⟩
  split at h
  · cases h
  split at h
  · obtain rfl := pure_eq_ok.1 h
    exact ⟨"", hbare, hname, .inl rfl, (String.append_empty ..).symm⟩
  split at h
  · simp only [bind_eq_ok, pure_eq_ok] at h
    obtain ⟨columns, _, rfl⟩ := h
    exact ⟨" USING " ++ Shape.parenthesized columns, hbare, hname, .inr ⟨_, .inr rfl⟩,
      String.append_assoc ..⟩
  · simp only [bind_eq_ok, pure_eq_ok] at h
    obtain ⟨condition, _, rfl⟩ := h
    exact ⟨" ON " ++ Text.joinWith "" condition, hbare, hname, .inr ⟨_, .inl rfl⟩,
      String.append_assoc ..⟩

theorem Dialect.joinTexts_append {js js' : List Join} {texts : List String}
    (h : Dialect.joinTexts D (js ++ js') = .ok texts) :
    ∃ ts ts', Dialect.joinTexts D js = .ok ts ∧ Dialect.joinTexts D js' = .ok ts' ∧
      texts = ts ++ ts' := by
  induction js generalizing texts with
  | nil => exact ⟨[], texts, rfl, h, rfl⟩
  | cons j js ih =>
    simp only [List.cons_append, Dialect.joinTexts, bind_eq_ok, pure_eq_ok] at h
    obtain ⟨t, ht, more, hmore, rfl⟩ := h
    obtain ⟨ts, ts', hts, hts', rfl⟩ := ih hmore
    refine ⟨t :: ts, ts', ?_, hts', rfl⟩
    simp only [Dialect.joinTexts, bind_eq_ok, pure_eq_ok]
    exact ⟨t, ht, ts, hts, rfl⟩

/-- **The text of a query shows the alias of each source in its place.** -/
theorem SelectQuery.showsAlias_of_selectText {q : SelectQuery} {p : SourcePlace} {s : Source}
    (hs : q.sourceAt? p = some s) (hsa : s.asName? = some a) (ha : a ≠ "")
    (h : Dialect.selectText D q = .ok text) : q.ShowsAlias D p a text := by
  obtain ⟨items, source, joins, filter, groupBy, orderBy, limit, distinct, into⟩ := q
  simp only [Dialect.selectText, bind_eq_ok, pure_eq_ok] at h
  obtain ⟨itemTexts, hitems, sources, hsource, joinTexts, hjoins, filters, _, groups, _, keys, _,
    limits, _, intos, _, rfl⟩ := h
  let head := ["SELECT"] ++ (if distinct then ["DISTINCT"] else []) ++ [Dialect.commas itemTexts]
  let others := filters ++ groups ++
    (if keys.isEmpty then [] else ["ORDER BY " ++ Dialect.commas keys]) ++ limits ++ intos
  cases p with
  | base =>
    obtain rfl : source = some s := hs
    simp only [Dialect.sourceParts, bind_eq_ok, pure_eq_ok] at hsource
    obtain ⟨t, ht, rfl⟩ := hsource
    obtain ⟨bare, name, hbare, hname, rfl⟩ := Source.sourceText_eq_ok hsa ha ht
    refine ⟨s, head, bare, name, "", joinTexts ++ others, rfl, ?_, hbare, hname, .inl rfl, ?_⟩
    · simp only [textsBefore, bind_eq_ok, pure_eq_ok]
      exact ⟨itemTexts, hitems, rfl⟩
    · have hword : "FROM " = "FROM" ++ " " := rfl
      simp only [wordAt, head, others, hword, List.append_assoc, List.cons_append, List.nil_append,
        String.append_assoc, String.append_empty]
  | joined i =>
    obtain ⟨j, hj, rfl⟩ := sourceAt?_joined.1 hs
    obtain ⟨hi, hget⟩ := List.getElem?_eq_some_iff.1 hj
    have hsplit : joins = joins.take i ++ j :: joins.drop (i + 1) := by
      rw [← hget, List.getElem_cons_drop, List.take_append_drop]
    rw [hsplit] at hjoins
    obtain ⟨front, rest, hfront, hrest, rfl⟩ := Dialect.joinTexts_append hjoins
    simp only [Dialect.joinTexts, bind_eq_ok, pure_eq_ok] at hrest
    obtain ⟨t, ht, more, _, rfl⟩ := hrest
    obtain ⟨bare, name, asked, hbare, hname, hasked, rfl⟩ := Dialect.joinText_eq_ok hsa ha ht
    refine ⟨j.source, head ++ sources ++ front, bare, name, asked, more ++ others, hs, ?_, hbare,
      hname, hasked, ?_⟩
    · simp only [textsBefore, bind_eq_ok, pure_eq_ok]
      exact ⟨itemTexts, hitems, sources, hsource, front, hfront, rfl⟩
    · simp only [wordAt, hj, Option.map_some, Option.getD_some, head, others, List.append_assoc,
        List.cons_append, List.nil_append]

/-! ## Steps that leave a source as it is -/

theorem Join.source_of_make {kind : JoinKind} {source : Source} {condition : Option Condition}
    {shared : List String} {j : Join} (h : make kind source condition shared = .ok j) :
    j.source = source := by
  unfold make at h
  split at h
  · cases h
  split at h
  · split at h <;> cases h
    rfl
  · split at h <;> cases h
    rfl

namespace SelectDraft

variable {d d' : SelectDraft} {p : SourcePlace} {s : Source} {step : SelectStep}

/-- A step that joins adds one join, with the source that it is given. -/
theorem withJoin_eq_ok {q q' : SelectQuery} {kind : String} {o condition : Operand}
    {shared : List String} {asName : Option String}
    (h : withJoin q kind o condition shared asName = .ok q') :
    ∃ join, Source.ofOperand o asName = .ok join.source ∧
      q' = { q with joins := q.joins ++ [join] } := by
  simp only [withJoin, bind_eq_ok] at h
  obtain ⟨kind, _, h⟩ := h
  split at h
  · cases h
  simp only [bind_eq_ok, pure_eq_ok] at h
  obtain ⟨s, hs, join, hjoin, rfl⟩ := h
  exact ⟨join, by rw [hs, Join.source_of_make hjoin], rfl⟩

theorem crossJoin_eq_ok {q q' : SelectQuery} {o : Operand} {asName : Option String}
    (h : clausesAfter q (.crossJoin o asName) = .ok q') :
    ∃ join, Source.ofOperand o asName = .ok join.source ∧
      q' = { q with joins := q.joins ++ [join] } := by
  simp only [clausesAfter, bind_eq_ok, pure_eq_ok] at h
  obtain ⟨s, hs, join, hjoin, rfl⟩ := h
  exact ⟨join, by rw [hs, Join.source_of_make hjoin], rfl⟩

/-- Joins are only added. -/
theorem joins_next (d : SelectDraft) (step : SelectStep) :
    d.parts.joins <+: (d.next step).parts.joins := by
  by_cases hc : step.clause = .joins
  · unfold next
    cases hafter : d.after step with
    | error e => exact List.prefix_rfl
    | ok d' =>
      obtain ⟨q', hq', rfl⟩ := map_eq_ok.1 hafter
      cases step with
      | join kind source condition shared asName =>
        obtain ⟨join, _, rfl⟩ := withJoin_eq_ok hq'
        exact List.prefix_append _ _
      | crossJoin source asName =>
        obtain ⟨join, _, rfl⟩ := crossJoin_eq_ok hq'
        exact List.prefix_append _ _
      | _ => cases hc
  · have hkept : (d.next step).parts.joins = d.parts.joins := next_clause_of_ne (c := .joins) hc
    exact hkept.symm ▸ List.prefix_rfl

theorem next_of_failure? (h : (d.failure? step).isSome = true) : d.next step = d := by
  unfold failure? at h
  unfold next
  cases hafter : d.after step with
  | ok d' =>
    rw [hafter] at h
    cases h
  | error e => rfl

/-- A step that does not write the base leaves each source in its place. -/
theorem sourceAt?_next (hs : d.parts.sourceAt? p = some s)
    (h : step.clause = .source → p = .base → (d.failure? step).isSome = true) :
    (d.next step).parts.sourceAt? p = some s := by
  by_cases hwrites : step.clause = .source ∧ p = .base
  · rw [next_of_failure? (h hwrites.1 hwrites.2)]
    exact hs
  cases p with
  | base =>
    have hkept : (d.next step).parts.source = d.parts.source :=
      next_clause_of_ne (c := .source) fun hc => hwrites ⟨hc, rfl⟩
    exact hkept.trans hs
  | joined i =>
    obtain ⟨j, hj, rfl⟩ := SelectQuery.sourceAt?_joined.1 hs
    obtain ⟨more, hmore⟩ := d.joins_next step
    obtain ⟨hi, _⟩ := List.getElem?_eq_some_iff.1 hj
    have hkept : (d.next step).parts.joins[i]? = some j := by
      rw [← hmore, List.getElem?_append_left hi, hj]
    exact SelectQuery.sourceAt?_joined.2 ⟨j, hkept, rfl⟩

theorem sourceAt?_run {later : List SelectStep} (hs : d.parts.sourceAt? p = some s)
    (h : ∀ i : Fin later.length, (later.get i).clause = .source → p = .base →
      (d.failureAt later i).isSome = true) :
    (d.run later).parts.sourceAt? p = some s := by
  induction later generalizing d with
  | nil => exact hs
  | cons step later ih => exact ih (sourceAt?_next hs (h 0)) fun i => h i.succ

/-- What is built is what has been put together. -/
theorem eq_parts_of_build {q : SelectQuery} (h : d.build = .ok q) : q = d.parts := by
  simp only [build, bind_eq_ok] at h
  obtain ⟨q', hcheck, h⟩ := h
  have hparts : q' = d.parts := by
    unfold SelectQuery.check at hcheck
    split at hcheck
    · cases hcheck
    · split at hcheck <;> cases hcheck
      rfl
  split at h
  · cases h
  · exact (pure_eq_ok.1 h).symm.trans hparts

/-- Whether the source in a place keeps an alias: whatever steps come later, if those fail that
would write the source again, the source has the alias in the query that is built, and the text of
that query shows it. -/
def KeepsAlias (d : SelectDraft) (p : SourcePlace) (a : String) : Prop :=
  ∀ later : List SelectStep,
    (∀ i : Fin later.length, (later.get i).clause = .source → p = .base →
      (d.failureAt later i).isSome = true) →
    ∀ q, (d.run later).build = .ok q →
      (∃ s, q.sourceAt? p = some s ∧ s.asName? = some a) ∧
        ∀ D text, Dialect.selectText D q = .ok text → q.ShowsAlias D p a text

theorem keepsAlias_of_sourceAt? (hs : d.parts.sourceAt? p = some s) (hsa : s.asName? = some a)
    (ha : a ≠ "") : d.KeepsAlias p a := by
  intro later hlater q hq
  have hkept := sourceAt?_run hs hlater
  rw [← eq_parts_of_build hq] at hkept
  exact ⟨⟨s, hkept, hsa⟩, fun D text htext => q.showsAlias_of_selectText hkept hsa ha htext⟩

end SelectDraft

/-! ## Steps that give a source -/

/-- What a source can be made of: the name of a table, a table, a query with an alias, a query, and
a query in the making. -/
inductive Operand.IsSource : Operand → Prop
  | name {v : Value} (h : v.text?.isSome = true) : IsSource (.value v)
  | table (t : TableRef) : IsSource (.source (.table t))
  | aliased (q : SelectQuery) {b : String} (h : b ≠ "") : IsSource (.source (.query q b))
  | query (q : SelectQuery) : IsSource (.query q)
  | draft (d : SelectDraft) : IsSource (.draft d)

/-- The alias that the source has which is made of an operand and of the alias `a`. -/
def Operand.aliasUnder (a : String) : Operand → String
  | .source (.query _ b) => b
  | _ => a

theorem Operand.aliasUnder_ne_empty {o : Operand} (ho : o.IsSource) (ha : a ≠ "") :
    o.aliasUnder a ≠ "" := by
  cases ho with
  | aliased q hb => exact hb
  | _ => exact ha

theorem Source.ofQuery_eq_ok {q : SelectQuery} {s : Source} (ha : a ≠ "")
    (h : ofQuery q (some a) = .ok s) : s = .query q a := by
  rw [ofQuery, Text.nonEmpty_some, if_neg ha] at h
  exact (Except.ok.inj h).symm

theorem TableRef.asName_ofName (name : String) (schema asName : Option String) :
    (ofName name schema asName).asName = asName := by
  unfold ofName
  split <;> rfl

theorem Source.asName?_of_ofOperand {o : Operand} {s : Source} (ho : o.IsSource) (ha : a ≠ "")
    (h : ofOperand o (some a) = .ok s) : s.asName? = some (o.aliasUnder a) := by
  cases ho with
  | @name v hv =>
    obtain ⟨t, ht⟩ := Option.isSome_iff_exists.1 hv
    simp only [ofOperand, Operand.text?, ht] at h
    obtain rfl := Except.ok.inj h
    exact TableRef.asName_ofName _ _ _
  | table t =>
    simp only [ofOperand, Text.nonEmpty_some, if_neg ha] at h
    obtain rfl := Except.ok.inj h
    rfl
  | aliased q hb =>
    obtain rfl := Except.ok.inj h
    rfl
  | query q =>
    rw [ofQuery_eq_ok ha h]
    rfl
  | draft d =>
    obtain ⟨q, _, h⟩ := bind_eq_ok.1 h
    rw [ofQuery_eq_ok ha h]
    rfl

/-- The steps that give a source an alias: what they make the source of, and where they write it. -/
inductive SelectStep.Gives (q : SelectQuery) (a : String) :
    SelectStep → Operand → SourcePlace → Prop
  | source (o : Operand) : Gives q a (.source o (some a)) o .base
  | rename {s : Source} (h : q.source = some s) : Gives q a (.rename (some a)) (.source s) .base
  | join (kind : String) (o condition : Operand) (shared : List String) :
    Gives q a (.join kind o condition shared (some a)) o (.joined q.joins.length)
  | crossJoin (o : Operand) : Gives q a (.crossJoin o (some a)) o (.joined q.joins.length)

/-- A step that gives a source and succeeds has written it. -/
theorem SelectDraft.sourceAt?_after {d d' : SelectDraft} {step : SelectStep} {o : Operand}
    {p : SourcePlace} (hg : step.Gives d.parts a o p) (h : d.after step = .ok d') :
    ∃ s, Source.ofOperand o (some a) = .ok s ∧ d'.parts.sourceAt? p = some s := by
  obtain ⟨q', hq', rfl⟩ := map_eq_ok.1 h
  cases hg with
  | source =>
    simp only [clausesAfter, bind_eq_ok, pure_eq_ok] at hq'
    obtain ⟨s, hs, rfl⟩ := hq'
    exact ⟨s, hs, rfl⟩
  | @rename s hbase =>
    simp only [clausesAfter, withAlias, hbase, bind_eq_ok, pure_eq_ok] at hq'
    obtain ⟨s, hs, rfl⟩ := hq'
    exact ⟨s, hs, rfl⟩
  | join kind o condition shared =>
    obtain ⟨join, hs, rfl⟩ := withJoin_eq_ok hq'
    exact ⟨join.source, hs, by simp [SelectQuery.sourceAt?]⟩
  | crossJoin o =>
    obtain ⟨join, hs, rfl⟩ := crossJoin_eq_ok hq'
    exact ⟨join.source, hs, by simp [SelectQuery.sourceAt?]⟩

theorem SelectDraft.sourceAt?_start {d : SelectDraft} {o : Operand} (ho : o.IsSource)
    (h : start o (some a) = .ok d) :
    ∃ s, Source.ofOperand o (some a) = .ok s ∧ d.parts.sourceAt? .base = some s := by
  have hgiven : o.isNull = false := by
    cases ho with
    | @name v hv => cases v <;> first | rfl | cases hv
    | _ => rfl
  rw [start, hgiven, if_neg Bool.false_ne_true, bind_eq_ok] at h
  obtain ⟨s, hs, h⟩ := h
  obtain rfl := pure_eq_ok.1 h
  exact ⟨s, hs, rfl⟩

/-- **A source that is given an alias keeps it**, whether a query starts with it or a step gives it:
in what is built and in its text, until a step writes the source again. A query that was a source
before keeps the alias that it had. -/
theorem given_aliases_kept {o : Operand} (ho : o.IsSource) (ha : a ≠ "") :
    (∀ d, SelectDraft.start o (some a) = .ok d → d.KeepsAlias .base (o.aliasUnder a)) ∧
      ∀ (d d' : SelectDraft) (step : SelectStep) (p : SourcePlace), step.Gives d.parts a o p →
        d.after step = .ok d' → d'.KeepsAlias p (o.aliasUnder a) := by
  have hne := Operand.aliasUnder_ne_empty ho ha
  constructor
  · intro d hstart
    obtain ⟨s, hmade, hs⟩ := SelectDraft.sourceAt?_start ho hstart
    exact SelectDraft.keepsAlias_of_sourceAt? hs (Source.asName?_of_ofOperand ho ha hmade) hne
  · intro d d' step p hg hafter
    obtain ⟨s, hmade, hs⟩ := SelectDraft.sourceAt?_after hg hafter
    exact SelectDraft.keepsAlias_of_sourceAt? hs (Source.asName?_of_ofOperand ho ha hmade) hne

/-- A query of one column. -/
def idQuery : SelectDraft :=
  ⟨{ SelectDraft.empty.parts with
    items := [⟨.column none "id", none⟩], source := some (.table ⟨none, "t", none⟩) }⟩

/-- A table with an alias. -/
def aliasedTable : SelectDraft :=
  ⟨{ SelectDraft.empty.parts with source := some (.table ⟨none, "t", some "a"⟩) }⟩

/-- The table joined to a query with an alias. -/
def aliasedJoin : SelectDraft :=
  ⟨{ aliasedTable.parts with joins := [⟨.cross, .query idQuery.parts "u", none, []⟩] }⟩

theorem aliasedJoin_kept :
    SelectDraft.start (.text "t") (some "a") = .ok aliasedTable ∧
      aliasedTable.KeepsAlias .base "a" ∧
      aliasedTable.after (.crossJoin (.draft idQuery) (some "u")) = .ok aliasedJoin ∧
      aliasedJoin.KeepsAlias (.joined 0) "u" ∧
      ∃ q, (aliasedJoin.run [.select [.text "*"]]).build = .ok q ∧
        Dialect.selectText {} q =
          .ok "SELECT * FROM t AS a CROSS JOIN (SELECT id FROM t) AS u" := by
  have htable := given_aliases_kept (a := "a") (o := .text "t") (.name rfl) (by decide)
  have hquery := given_aliases_kept (a := "u") (.draft idQuery) (by decide)
  have hjoined : aliasedTable.after (.crossJoin (.draft idQuery) (some "u")) =
    .ok aliasedJoin := rfl
  exact ⟨rfl, htable.1 _ rfl, hjoined, hquery.2 _ _ _ _ (.crossJoin _) hjoined, _, rfl, rfl⟩

/-- A query of one column, of a query with an alias. -/
def aliasedQuery : SelectDraft :=
  ⟨{ idQuery.parts with source := some (.query idQuery.parts "u") }⟩

/-- Another alias is accepted for the query, and lost. -/
theorem aliasedQuery_not_renamed :
    aliasedQuery.after (.rename (some "v")) = .ok aliasedQuery ∧
      ¬ aliasedQuery.KeepsAlias .base "v" ∧
      ∃ q, aliasedQuery.build = .ok q ∧
        Dialect.selectText {} q = .ok "SELECT id FROM (SELECT id FROM t) AS u" := by
  refine ⟨rfl, fun h => ?_, _, rfl, rfl⟩
  obtain ⟨⟨s, hs, hsa⟩, _⟩ := h [] (fun i => i.elim0) _ rfl
  obtain rfl := Option.some.inj hs
  exact absurd hsa (by decide)

end StoredSql
