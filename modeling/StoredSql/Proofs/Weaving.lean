import StoredSql.Proofs.Contracts
import StoredSql.Proofs.Directives
import StoredSql.Proofs.NameText
import StoredSql.Proofs.RawText
import StoredSql.QueryText

/-!
# How texts are put together

The text of an expression, a condition or a query is woven (`Woven`): of fixed words, names in
backticks, literals and raw texts, with quiet characters or an operator between them, and with
parentheses around texts that are woven themselves. What stands between two of them begins no
directive, whatever it follows, and a single space stands only in front of a text that begins with
a word of its own (`Led`). What is asked of the text of a query, such as that no quote in it stays
open, need only be looked at strand by strand; the walk along the mutual recursion of the text is
made here once (`led_selectText` and the lemmas beside it). It also finds what no part of a query
fails for (`Error.IsOfText`): want of a delimiter, which only a whole program can, and a label, which
only statements have.
-/

namespace StoredSql

/-- Whether an error is about a part of a program, and not about the delimiter after it. -/
def Error.IsOfPart (e : Error) : Prop := e ≠ .naming .noFreeDelimiter

/-- Whether an error is about a label. -/
def Error.IsOfLabel : Error → Prop
  | .naming (.labelNotPlain _) => True
  | .naming (.labelReserved _) => True
  | _ => False

/-- Whether an error is about a text in a statement: its labels are none of them. -/
def Error.IsOfText : Error → Prop
  | .naming .noFreeDelimiter => False
  | .naming (.labelNotPlain _) => False
  | .naming (.labelReserved _) => False
  | _ => True

theorem Error.IsOfText.isOfPart {e : Error} (h : e.IsOfText) : e.IsOfPart := by
  rintro rfl
  exact h

theorem Error.IsOfText.notOfLabel {e : Error} (h : e.IsOfText) : ¬ e.IsOfLabel := by
  intro hlabel
  unfold IsOfLabel at hlabel
  split at hlabel
  · exact h
  · exact h
  · exact hlabel

namespace Scan

open Quotes (Heads Separates Begins)

/-- A text that begins with a word of its own, which no directive begins with. -/
def Leads (t : String) : Prop := ∃ u v, t = u ++ v ∧ IsWord u ∧ Heads u

theorem Leads.begins {t : String} (h : Leads t) : Begins t := by
  obtain ⟨u, v, rfl, -, hu⟩ := h
  exact ⟨u, v, rfl, hu⟩

theorem Leads.append {a : String} (h : Leads a) (b : String) : Leads (a ++ b) := by
  obtain ⟨u, v, rfl, hu⟩ := h
  exact ⟨u, v ++ b, String.append_assoc, hu⟩

/-- A text that is put together from words, names, literals and raw texts of one kind. -/
inductive Woven (R : String → Prop) : String → Prop where
  | word {t : String} (h : IsWord t) : Woven R t
  | name {n t : String} (h : Dialect.backquoted n = .ok t) : Woven R t
  | literal {v : Value} {t : String} (h : Dialect.literal v = .ok t) : Woven R t
  | raw {t : String} (h : R t) : Woven R t
  | clause {w t : String} (hw : IsWord w) (hh : Heads w) (ht : Woven R t) : Woven R (w ++ t)
  | glued {a g b : String} (ha : Woven R a) (hg : IsWord g) (hs : Separates g)
      (hb : Woven R b) : Woven R (a ++ g ++ b)
  | spaced {a b : String} (ha : Woven R a) (hb : Woven R b) (hl : Begins b) :
      Woven R (a ++ " " ++ b)
  | operated {a b : String} (ha : Woven R a) (op : ArithmeticOp) (hb : Woven R b) :
      Woven R (a ++ (" " ++ Keyword.word op ++ " ") ++ b)
  | hung {a b : String} (ha : Woven R a) (hb : Woven R b) :
      Woven R (a ++ Shape.parenthesized b)

namespace Woven

variable {R : String → Prop} {t : String}

theorem empty : Woven R "" := .word (by decide)

theorem parenthesized (h : Woven R t) : Woven R (Shape.parenthesized t) := by
  simpa using Woven.hung empty h

theorem joinWith {g : String} (hg : IsWord g) (hs : Separates g) {ts : List String}
    (h : ∀ t ∈ ts, Woven R t) : Woven R (Text.joinWith g ts) := by
  fun_induction Text.joinWith g ts with
  | case1 => exact empty
  | case2 t => exact h t (by simp)
  | case3 t u rest ih =>
    exact (h t (by simp)).glued hg hs (ih fun v hv => h v (List.mem_cons_of_mem _ hv))

theorem commas {ts : List String} (h : ∀ t ∈ ts, Woven R t) : Woven R (Dialect.commas ts) :=
  joinWith (by decide) (by decide) h

theorem operand {e : Expr} (h : Woven R t) : Woven R (Dialect.operand e t) := by
  unfold Dialect.operand
  split
  · exact h.parenthesized
  · exact h

theorem nested {c : Condition} (h : Woven R t) : Woven R (Dialect.nested c t) := by
  unfold Dialect.nested
  split
  · exact h
  · exact h
  · exact h.parenthesized

/-- A conjunction of woven texts, some in parentheses and some left out. -/
theorem textOfAll {parts : List (Shape × String)} (h : ∀ p ∈ parts, Woven R p.2) :
    Woven R (Shape.textOfAll parts) := by
  have hkept : ∀ p ∈ Shape.kept parts, Woven R p.2 := fun p hp => h p (List.mem_filter.1 hp).1
  unfold Shape.textOfAll
  split
  · exact .word (by decide)
  · rename_i p e
    exact hkept p (by rw [e]; simp)
  · refine joinWith (by decide) (by decide) ?_
    intro t ht
    obtain ⟨p, hp, rfl⟩ := List.mem_map.1 ht
    unfold Shape.conjunct
    split
    · exact (hkept p hp).parenthesized
    · exact hkept p hp

theorem textOfAny {ts : List String} (h : ∀ t ∈ ts, Woven R t) : Woven R (Shape.textOfAny ts) :=
  joinWith (by decide) (by decide) h

theorem textOfNot {s : Shape} (h : Woven R t) : Woven R (Shape.textOfNot s t) := by
  refine clause (by decide) (by decide) ?_
  split
  · exact h.parenthesized
  · exact h

theorem countText (n : Nat) : Woven R (countText n) :=
  @Woven.literal R (.int (.ofNat n)) _ rfl

end Woven

/-- A woven text that begins with a word of its own. -/
structure Led (R : String → Prop) (t : String) : Prop where
  woven : Woven R t
  leads : Leads t

namespace Led

variable {R : String → Prop} {w a g b t : String}

theorem word (hw : IsWord w) (hh : Heads w) : Led R w :=
  ⟨.word hw, w, "", String.append_empty.symm, hw, hh⟩

theorem clause (hw : IsWord w) (hh : Heads w) (h : Woven R t) : Led R (w ++ t) :=
  ⟨h.clause hw hh, w, t, rfl, hw, hh⟩

theorem glued (ha : Led R a) (hg : IsWord g) (hs : Separates g) (hb : Woven R b) :
    Led R (a ++ g ++ b) :=
  ⟨ha.woven.glued hg hs hb, (ha.leads.append g).append b⟩

theorem spaced (ha : Led R a) (hb : Led R b) : Led R (a ++ " " ++ b) :=
  ⟨ha.woven.spaced hb.woven hb.leads.begins, (ha.leads.append " ").append b⟩

theorem hung (ha : Led R a) (hb : Woven R b) : Led R (a ++ Shape.parenthesized b) :=
  ⟨ha.woven.hung hb, ha.leads.append _⟩

theorem spacedHung (ha : Led R a) (hb : Woven R b) : Led R (a ++ " " ++ Shape.parenthesized b) :=
  ⟨ha.woven.spaced hb.parenthesized (Quotes.begins_parenthesized b), (ha.leads.append " ").append _⟩

/-- Clauses with spaces between them. -/
theorem joinWith {ts : List String} (h : Led R t) (hts : ∀ u ∈ ts, Led R u) :
    Led R (Text.joinWith " " (t :: ts)) := by
  induction ts generalizing t with
  | nil => exact h
  | cons u ts ih =>
    exact h.spaced (ih (hts u (by simp)) fun v hv => hts v (List.mem_cons_of_mem _ hv))

end Led

/-- Clauses behind any text. -/
theorem Woven.joinWith_led {R : String → Prop} {t : String} {ts : List String} (h : Woven R t)
    (hts : ∀ u ∈ ts, Led R u) : Woven R (Text.joinWith " " (t :: ts)) := by
  cases ts with
  | nil => exact h
  | cons u ts =>
    have hrest := Led.joinWith (hts u (by simp)) fun v hv => hts v (List.mem_cons_of_mem _ hv)
    exact h.spaced hrest.woven hrest.leads.begins

/-! ## Names -/

open Outcome

theorem isOfText_of_backquoted {name : String} {e : Error} (h : Dialect.backquoted name = .error e) :
    e.IsOfText := by
  simp only [Dialect.backquoted] at h
  repeat' split at h
  all_goals cases h
  all_goals exact trivial

theorem isOfText_of_literal {v : Value} {e : Error} (h : Dialect.literal v = .error e) :
    e.IsOfText := by
  cases v with
  | float x =>
    rw [Dialect.literal] at h
    split at h <;> cases h
    exact trivial
  | decimal d =>
    cases d <;> cases h <;> exact trivial
  | datetime t =>
    rw [Dialect.literal] at h
    split at h <;> cases h
    exact trivial
  | _ => cases h

section
variable {d : Dialect} (hd : d.kind.complete = true) (R : String → Prop)
include hd

theorem woven_quoteIdentifier (name : String) :
    Yields (Woven R) Error.IsOfText (d.quoteIdentifier name) := by
  rw [Dialect.quoteIdentifier, if_pos hd]
  cases h : Dialect.backquoted name with
  | ok text => exact .name h
  | error e => exact isOfText_of_backquoted h

theorem woven_identifier (name : String) :
    Yields (Woven R) Error.IsOfText (d.identifier name) := by
  unfold Dialect.identifier
  split
  · exact woven_quoteIdentifier hd R name
  · rename_i hq
    refine Woven.word (isWord_of_isPlain ?_)
    rw [Identifier.mustQuote] at hq
    cases hplain : Identifier.isPlain name <;> simp_all

theorem woven_qualifiedName (name : String) :
    Yields (Woven R) Error.IsOfText (d.qualifiedName name) := by
  unfold Dialect.qualifiedName
  exact (Yields.mapM fun part _ => woven_identifier hd R part).bind fun parts hparts =>
    .pure (.joinWith (by decide) (by decide) hparts)

theorem woven_tableName (schema : Option String) (name : String) :
    Yields (Woven R) Error.IsOfText (d.tableName schema name) := by
  unfold Dialect.tableName
  refine (woven_identifier hd R name).bind fun table htable => ?_
  split
  · rename_i s _
    exact (woven_identifier hd R s).bind fun s hs =>
      .pure (hs.glued (by decide) (by decide) htable)
  · exact .pure htable

/-- A text, and behind it the name that it is given. -/
theorem woven_withAlias {text : String} (h : Woven R text) (asName : Option String) :
    Yields (Woven R) Error.IsOfText (d.withAlias text asName) := by
  unfold Dialect.withAlias
  split
  · rename_i a _
    exact (woven_identifier hd R a).bind fun a ha => .pure (h.glued (by decide) (by decide) ha)
  · exact .pure h

theorem woven_tableAlias (schema : Option String) (name : String) (asName : Option String) :
    Yields (Woven R) Error.IsOfText (d.tableAlias schema name asName) :=
  (woven_tableName hd R schema name).bind fun _ htable => woven_withAlias hd R htable asName

theorem woven_columnList (columns : List String) :
    Yields (Woven R) Error.IsOfText (d.columnList columns) := by
  unfold Dialect.columnList
  split
  · exact .pure (.word (by decide))
  · exact (Yields.mapM fun column _ => woven_identifier hd R column).bind fun names hnames =>
      .pure (.commas hnames)

theorem woven_variableName (name : String) :
    Yields (Woven R) Error.IsOfText (d.variableName name) := by
  unfold Dialect.variableName
  split
  · rename_i rest e
    split
    · rename_i hp
      exact Woven.word (isWord_session e hp)
    · exact (woven_quoteIdentifier hd R _).map fun quoted hquoted =>
        .clause (by decide) (by decide) hquoted
  · split
    · exact woven_qualifiedName hd R name
    · exact woven_identifier hd R name

/-! ## Parts without expressions -/

theorem woven_rowCountText (c : RowCount) :
    Yields (Woven R) Error.IsOfText (d.rowCountText c) := by
  cases c with
  | number n => exact Woven.countText n
  | «variable» name => exact woven_variableName hd R name

theorem led_limitParts (l : Option RowLimit) :
    Yields (fun ts => ∀ t ∈ ts, Led R t) Error.IsOfText (d.limitParts l) := by
  cases l with
  | none => exact fun _ ht => absurd ht List.not_mem_nil
  | some l =>
    unfold Dialect.limitParts
    refine (woven_rowCountText hd R l.count).bind fun count hcount => ?_
    have hlimit : Led R ("LIMIT " ++ count) := .clause (by decide) (by decide) hcount
    split
    · exact .pure (by simpa using hlimit)
    · refine (woven_rowCountText hd R _).bind fun offset hoffset => .pure ?_
      have hoff : Led R ("OFFSET " ++ offset) := .clause (by decide) (by decide) hoffset
      simpa using ⟨hlimit, hoff⟩

theorem led_intoParts (into : List String) :
    Yields (fun ts => ∀ t ∈ ts, Led R t) Error.IsOfText (d.intoParts into) := by
  unfold Dialect.intoParts
  split
  · exact .pure (by simp)
  · refine (Yields.mapM fun name _ => woven_variableName hd R name).bind fun names hnames => .pure ?_
    have hinto : Led R ("INTO " ++ Text.joinWith ", " names) :=
      .clause (by decide) (by decide) (.commas hnames)
    simpa using hinto

/-- A column behind its table, if it has one. -/
theorem woven_ofTable {column : String} (h : Woven R column) (table : Option String) :
    Yields (Woven R) Error.IsOfText (match Text.nonEmpty table with
      | some t => do pure ((← d.qualifiedName t) ++ "." ++ column)
      | none => pure column : Except Error String) := by
  split
  · rename_i t _
    exact (woven_qualifiedName hd R t).bind fun q hq => .pure (hq.glued (by decide) (by decide) h)
  · exact .pure h

end

theorem woven_literal (R : String → Prop) (v : Value) :
    Yields (Woven R) Error.IsOfText (Dialect.literal v) := by
  cases h : Dialect.literal v with
  | ok text => exact .literal h
  | error e => exact isOfText_of_literal h

theorem led_modeText (R : String → Prop) (m : RowMode) :
    Yields (Led R) Error.IsOfText (Dialect.modeText m) := by
  cases m with
  | known mode => cases mode <;> exact Led.word (by decide) (by decide)
  | «foreign» o => exact trivial

/-! ## The walk -/

section
set_option linter.unusedSectionVars false
variable {d : Dialect} (hd : d.kind.complete = true) {p : String → Bool} {R : String → Prop}
  (hp : ∀ sql, p sql = true → R sql)
include hd hp

mutual

theorem woven_exprText : ∀ {e : Expr}, e.rawAll p = true →
    Yields (Woven R) Error.IsOfText (Dialect.exprText d e)
  | .column table name, _ => by
    rw [Dialect.exprText]
    split
    · exact woven_ofTable hd R (.word (by decide)) table
    · exact (woven_identifier hd R name).bind fun column hcolumn =>
        woven_ofTable hd R hcolumn table
  | .variable name, _ => by
    rw [Dialect.exprText]
    exact woven_variableName hd R name
  | .literal v, _ => by
    rw [Dialect.exprText]
    exact woven_literal R v
  | .call f args, hr => by
    rw [Expr.rawAll] at hr
    rw [Dialect.exprText]
    exact (woven_exprTexts hr).bind fun texts htexts =>
      .pure (.hung (.word (isWord_upper f)) (.commas htexts))
  | .arithmetic left op right, hr => by
    rw [Expr.rawAll, Bool.and_eq_true] at hr
    rw [Dialect.exprText]
    refine (woven_exprText hr.1).bind fun l hl => ?_
    refine (woven_exprText hr.2).bind fun r hright => .pure ?_
    simpa only [String.append_assoc] using Woven.operated hl.operand op hright.operand
  | .raw sql, hr => by
    rw [Expr.rawAll] at hr
    rw [Dialect.exprText]
    exact Woven.raw (hp sql hr)
  | .subquery q, hr => by
    rw [Expr.rawAll] at hr
    rw [Dialect.exprText]
    exact (led_selectText hr).bind fun text htext => .pure htext.woven.parenthesized
  | .condition c, hr => by
    rw [Expr.rawAll] at hr
    rw [Dialect.exprText]
    exact (woven_conditionText hr).bind fun text htext => .pure htext.nested
  | .foreign o, _ => by
    rw [Dialect.exprText]
    exact trivial

theorem woven_exprTexts : ∀ {es : List Expr}, Expr.rawAllOf p es = true →
    Yields (fun ts => ∀ t ∈ ts, Woven R t) Error.IsOfText (Dialect.exprTexts d es)
  | [], _ => by
    rw [Dialect.exprTexts]
    exact fun _ ht => absurd ht List.not_mem_nil
  | e :: es, hr => by
    rw [Expr.rawAllOf, Bool.and_eq_true] at hr
    rw [Dialect.exprTexts]
    exact (woven_exprText hr.1).bind fun text htext => (woven_exprTexts hr.2).bind
      fun texts htexts => .pure (List.forall_mem_cons.2 ⟨htext, htexts⟩)

theorem woven_conditionText : ∀ {c : Condition}, c.rawAll p = true →
    Yields (Woven R) Error.IsOfText (Dialect.conditionText d c)
  | .compare left test, hr => by
    rw [Condition.rawAll, Bool.and_eq_true] at hr
    rw [Dialect.conditionText]
    exact (woven_exprText hr.1).bind fun l hl => (led_testText hr.2).bind fun text htext =>
      .pure (hl.spaced htext.woven htext.leads.begins)
  | .and cs, hr => by
    rw [Condition.rawAll] at hr
    rw [Dialect.conditionText]
    exact (woven_conditionTexts hr).bind fun texts htexts =>
      .pure (.textOfAll fun part hpart => htexts part.2 (List.of_mem_zip hpart).2)
  | .or cs, hr => by
    rw [Condition.rawAll] at hr
    rw [Dialect.conditionText]
    exact (woven_conditionTexts hr).bind fun texts htexts => .pure (.textOfAny htexts)
  | .not c, hr => by
    rw [Condition.rawAll] at hr
    rw [Dialect.conditionText]
    exact (woven_conditionText hr).bind fun text htext => .pure htext.textOfNot
  | .isTrue e, hr => by
    rw [Condition.rawAll] at hr
    rw [Dialect.conditionText]
    exact woven_exprText hr
  | .exists q, hr => by
    rw [Condition.rawAll] at hr
    rw [Dialect.conditionText]
    exact (led_selectText hr).bind fun text htext =>
      .pure (.clause (by decide) (by decide) htext.woven.parenthesized)
  | .foreign e, _ => by
    rw [Dialect.conditionText]
    exact trivial

theorem woven_conditionTexts : ∀ {cs : List Condition}, Condition.rawAllOf p cs = true →
    Yields (fun ts => ∀ t ∈ ts, Woven R t) Error.IsOfText (Dialect.conditionTexts d cs)
  | [], _ => by
    rw [Dialect.conditionTexts]
    exact fun _ ht => absurd ht List.not_mem_nil
  | c :: cs, hr => by
    rw [Condition.rawAllOf, Bool.and_eq_true] at hr
    rw [Dialect.conditionTexts]
    exact (woven_conditionText hr.1).bind fun text htext => (woven_conditionTexts hr.2).bind
      fun texts htexts => .pure (List.forall_mem_cons.2 ⟨htext, htexts⟩)

theorem led_testText : ∀ {t : Test}, t.rawAll p = true →
    Yields (Led R) Error.IsOfText (Dialect.testText d t)
  | .binary op right, hr => by
    rw [Test.rawAll] at hr
    rw [Dialect.testText]
    have hop : IsWord (op.word ++ " ") ∧ Heads (op.word ++ " ") := by
      cases op <;> decide
    exact (woven_exprText hr).bind fun text htext => .pure (.clause hop.1 hop.2 htext)
  | .isNull, _ => by
    rw [Dialect.testText]
    exact Led.word (by decide) (by decide)
  | .isNotNull, _ => by
    rw [Dialect.testText]
    exact Led.word (by decide) (by decide)
  | .inValues values, hr => by
    rw [Test.rawAll] at hr
    rw [Dialect.testText]
    exact (woven_exprTexts hr).bind fun texts htexts =>
      .pure (.clause (by decide) (by decide) (Woven.commas htexts).parenthesized)
  | .inQuery q, hr => by
    rw [Test.rawAll] at hr
    rw [Dialect.testText]
    exact (led_selectText hr).bind fun text htext =>
      .pure (.clause (by decide) (by decide) htext.woven.parenthesized)
  | .between low high, hr => by
    rw [Test.rawAll, Bool.and_eq_true] at hr
    rw [Dialect.testText]
    exact (woven_exprText hr.1).bind fun l hl => (woven_exprText hr.2).bind fun r hright =>
      .pure ((Led.clause (by decide) (by decide) hl).glued (by decide) (by decide) hright)

theorem woven_sourceText : ∀ {s : Source}, s.rawAll p = true →
    Yields (Woven R) Error.IsOfText (Dialect.sourceText d s)
  | .table table, _ => by
    rw [Dialect.sourceText]
    exact woven_tableAlias hd R table.schema table.name table.asName
  | .query q asName, hr => by
    rw [Source.rawAll] at hr
    rw [Dialect.sourceText]
    exact (led_selectText hr).bind fun text htext => (woven_identifier hd R asName).bind
      fun a ha => .pure (htext.woven.parenthesized.glued (by decide) (by decide) ha)
  | .foreign o, _ => by
    rw [Dialect.sourceText]
    exact trivial

theorem led_sourceParts : ∀ {s : Option Source}, Source.rawAllIfAny p s = true →
    Yields (fun ts => ∀ t ∈ ts, Led R t) Error.IsOfText (Dialect.sourceParts d s)
  | none, _ => by
    rw [Dialect.sourceParts]
    exact fun _ ht => absurd ht List.not_mem_nil
  | some s, hr => by
    rw [Source.rawAllIfAny] at hr
    rw [Dialect.sourceParts]
    refine (woven_sourceText hr).bind fun text htext => .pure ?_
    have hfrom : Led R ("FROM " ++ text) := .clause (by decide) (by decide) htext
    simpa using hfrom

theorem woven_itemText : ∀ {i : SelectItem}, i.rawAll p = true →
    Yields (Woven R) Error.IsOfText (Dialect.itemText d i)
  | ⟨expr, asName⟩, hr => by
    rw [SelectItem.rawAll] at hr
    rw [Dialect.itemText]
    exact (woven_exprText hr).bind fun text htext => woven_withAlias hd R htext asName

theorem woven_itemTexts : ∀ {is : List SelectItem}, SelectItem.rawAllOf p is = true →
    Yields (fun ts => ∀ t ∈ ts, Woven R t) Error.IsOfText (Dialect.itemTexts d is)
  | [], _ => by
    rw [Dialect.itemTexts]
    exact fun _ ht => absurd ht List.not_mem_nil
  | i :: is, hr => by
    rw [SelectItem.rawAllOf, Bool.and_eq_true] at hr
    rw [Dialect.itemTexts]
    exact (woven_itemText hr.1).bind fun text htext => (woven_itemTexts hr.2).bind
      fun texts htexts => .pure (List.forall_mem_cons.2 ⟨htext, htexts⟩)

theorem led_joinText : ∀ {j : Join}, j.rawAll p = true →
    Yields (Led R) Error.IsOfText (Dialect.joinText d j)
  | ⟨kind, source, condition, shared⟩, hr => by
    rw [Join.rawAll, Bool.and_eq_true] at hr
    rw [Dialect.joinText]
    refine (woven_sourceText hr.1).bind fun source hsource => ?_
    have hhead : Led R (Keyword.word kind ++ " JOIN " ++ source) := by
      have hkind : Led R (Keyword.word kind) := by
        cases kind <;> exact .word (by decide) (by decide)
      exact hkind.glued (by decide) (by decide) hsource
    dsimp only
    split
    · exact trivial
    split
    · exact .pure hhead
    split
    · exact (woven_columnList hd R shared).bind fun columns hcolumns =>
        .pure (hhead.glued (by decide) (by decide) hcolumns.parenthesized)
    · refine (woven_conditionIfAny hr.2).bind fun parts hparts => .pure ?_
      exact hhead.glued (by decide) (by decide) hparts

theorem led_joinTexts : ∀ {js : List Join}, Join.rawAllOf p js = true →
    Yields (fun ts => ∀ t ∈ ts, Led R t) Error.IsOfText (Dialect.joinTexts d js)
  | [], _ => by
    rw [Dialect.joinTexts]
    exact fun _ ht => absurd ht List.not_mem_nil
  | j :: js, hr => by
    rw [Join.rawAllOf, Bool.and_eq_true] at hr
    rw [Dialect.joinTexts]
    exact (led_joinText hr.1).bind fun text htext => (led_joinTexts hr.2).bind
      fun texts htexts => .pure (List.forall_mem_cons.2 ⟨htext, htexts⟩)

theorem woven_conditionIfAny : ∀ {c : Option Condition}, Condition.rawAllIfAny p c = true →
    Yields (fun ts => Woven R (Text.joinWith "" ts)) Error.IsOfText (Dialect.conditionIfAny d c)
  | none, _ => by
    rw [Dialect.conditionIfAny]
    exact Woven.empty
  | some c, hr => by
    rw [Condition.rawAllIfAny] at hr
    rw [Dialect.conditionIfAny]
    exact (woven_conditionText hr).bind fun text htext => .pure htext

theorem led_filterParts {word : String} (hw : IsWord (word ++ " ")) (hh : Heads (word ++ " ")) :
    ∀ {c : Option Condition}, Condition.rawAllIfAny p c = true →
      Yields (fun ts => ∀ t ∈ ts, Led R t) Error.IsOfText (Dialect.filterParts d word c)
  | none, _ => by
    rw [Dialect.filterParts]
    exact fun _ ht => absurd ht List.not_mem_nil
  | some c, hr => by
    rw [Condition.rawAllIfAny] at hr
    rw [Dialect.filterParts]
    split
    · exact .pure (by simp)
    · refine (woven_conditionText hr).bind fun text htext => .pure ?_
      have hclause : Led R (word ++ " " ++ text) := .clause hw hh htext
      simpa using hclause

theorem led_groupParts : ∀ {g : Option GroupBy}, GroupBy.rawAllIfAny p g = true →
    Yields (fun ts => ∀ t ∈ ts, Led R t) Error.IsOfText (Dialect.groupParts d g)
  | none, _ => by
    rw [Dialect.groupParts]
    exact fun _ ht => absurd ht List.not_mem_nil
  | some ⟨columns, having, rollup⟩, hr => by
    rw [GroupBy.rawAllIfAny, Bool.and_eq_true] at hr
    rw [Dialect.groupParts]
    refine (woven_exprTexts hr.1).bind fun columnTexts hcolumns => ?_
    refine (led_filterParts (by decide) (by decide) hr.2).bind fun havingParts hhaving => .pure ?_
    have hgroup : Led R ("GROUP BY " ++ Dialect.commas columnTexts) :=
      .clause (by decide) (by decide) (.commas hcolumns)
    have hrollup : ∀ t ∈ (if rollup then ["WITH ROLLUP"] else []), Led R t := by
      cases rollup
      · simp
      · simpa using Led.word (by decide) (by decide)
    simp only [List.cons_append, List.nil_append, List.mem_cons, List.mem_append]
    rintro t (rfl | ht | ht)
    · exact hgroup
    · exact hrollup t ht
    · exact hhaving t ht

theorem woven_sortKeyText : ∀ {k : SortKey}, k.rawAll p = true →
    Yields (Woven R) Error.IsOfText (Dialect.sortKeyText d k)
  | ⟨expr, direction⟩, hr => by
    rw [SortKey.rawAll] at hr
    rw [Dialect.sortKeyText]
    have hdir : Led R (Keyword.word direction) := by
      cases direction <;> exact .word (by decide) (by decide)
    exact (woven_exprText hr).bind fun text htext => .pure (htext.spaced hdir.woven hdir.leads.begins)

theorem woven_sortKeyTexts : ∀ {ks : List SortKey}, SortKey.rawAllOf p ks = true →
    Yields (fun ts => ∀ t ∈ ts, Woven R t) Error.IsOfText (Dialect.sortKeyTexts d ks)
  | [], _ => by
    rw [Dialect.sortKeyTexts]
    exact fun _ ht => absurd ht List.not_mem_nil
  | k :: ks, hr => by
    rw [SortKey.rawAllOf, Bool.and_eq_true] at hr
    rw [Dialect.sortKeyTexts]
    exact (woven_sortKeyText hr.1).bind fun text htext => (woven_sortKeyTexts hr.2).bind
      fun texts htexts => .pure (List.forall_mem_cons.2 ⟨htext, htexts⟩)

theorem led_selectText : ∀ {q : SelectQuery}, q.rawAll p = true →
    Yields (Led R) Error.IsOfText (Dialect.selectText d q)
  | ⟨items, source, joins, filter, groupBy, orderBy, limit, distinct, into⟩, hr => by
    simp only [SelectQuery.rawAll, Bool.and_eq_true] at hr
    obtain ⟨⟨⟨⟨⟨hitems, hsource⟩, hjoins⟩, hfilter⟩, hgroup⟩, hkeys⟩ := hr
    rw [Dialect.selectText]
    refine (woven_itemTexts hitems).bind fun itemTexts hitems => ?_
    refine (led_sourceParts hsource).bind fun sourceParts hsource => ?_
    refine (led_joinTexts hjoins).bind fun joinTexts hjoins => ?_
    refine (led_filterParts (by decide) (by decide) hfilter).bind fun filterParts hfilter => ?_
    refine (led_groupParts hgroup).bind fun groupParts hgroup => ?_
    refine (woven_sortKeyTexts hkeys).bind fun keyTexts hkeys => ?_
    refine (led_limitParts hd R limit).bind fun limitParts hlimit => ?_
    refine (led_intoParts hd R into).bind fun intoParts hinto => .pure ?_
    have horder : ∀ t ∈ (if keyTexts.isEmpty then [] else
        ["ORDER BY " ++ Dialect.commas keyTexts]), Led R t := by
      have hby : Led R ("ORDER BY " ++ Dialect.commas keyTexts) :=
        .clause (by decide) (by decide) (.commas hkeys)
      split
      · simp
      · simpa using hby
    have hrest : ∀ t ∈ sourceParts ++ (joinTexts ++ (filterParts ++ (groupParts
        ++ ((if keyTexts.isEmpty then [] else ["ORDER BY " ++ Dialect.commas keyTexts])
          ++ (limitParts ++ intoParts))))), Led R t := by
      simp only [List.mem_append]
      rintro t (ht | ht | ht | ht | ht | ht | ht)
      · exact hsource t ht
      · exact hjoins t ht
      · exact hfilter t ht
      · exact hgroup t ht
      · exact horder t ht
      · exact hlimit t ht
      · exact hinto t ht
    simp only [List.append_assoc, List.cons_append, List.nil_append]
    have hclauses := (Woven.commas hitems).joinWith_led hrest
    cases distinct
    · exact .clause (by decide) (by decide) hclauses
    · exact (Led.word (by decide) (by decide)).spaced (.clause (by decide) (by decide) hclauses)

end

theorem woven_rowText {row : List Expr} (hr : Expr.rawAllOf p row = true) :
    Yields (Woven R) Error.IsOfText (d.rowText row) :=
  (woven_exprTexts hd hp hr).bind fun _ htexts => .pure (Woven.commas htexts).parenthesized

theorem woven_updateText {update : String × Expr} (hr : update.2.rawAll p = true) :
    Yields (Woven R) Error.IsOfText (d.updateText update) :=
  (woven_identifier hd R update.1).bind fun _ hcolumn => (woven_exprText hd hp hr).bind
    fun _ htext => .pure (hcolumn.glued (by decide) (by decide) htext)

theorem led_newRowsText {q : InsertQuery} (hr : q.rawAll p = true) :
    Yields (Led R) Error.IsOfText (d.newRowsText q) := by
  simp only [InsertQuery.rawAll, Bool.and_eq_true, List.all_eq_true] at hr
  unfold Dialect.newRowsText
  split
  · rename_i s e
    have hs : s.rawAll p = true := by simpa [e] using hr.1.2
    exact led_selectText hd hp hs
  · exact (Yields.mapM fun row hrow => woven_rowText hd hp (hr.1.1 row hrow)).bind
      fun rows hrows => .pure (.clause (by decide) (by decide) (.commas hrows))

theorem led_insertText {q : InsertQuery} (hr : q.rawAll p = true) :
    Yields (Led R) Error.IsOfText (d.insertText q) := by
  have hupdates : ∀ u ∈ q.onDuplicate, u.2.rawAll p = true := by
    simp only [InsertQuery.rawAll, Bool.and_eq_true, List.all_eq_true] at hr
    exact hr.2
  have hrest : ∀ table columns, Woven R table → (∀ t, Led R t → Led R (t ++ columns)) →
      Yields (Led R) Error.IsOfText (do
        let rows ← d.newRowsText q
        let updates ← q.onDuplicate.mapM d.updateText
        pure ((← Dialect.modeText q.mode) ++ " INTO " ++ table ++ columns ++ " " ++ rows
          ++ (if updates.isEmpty then ""
              else " ON DUPLICATE KEY UPDATE " ++ Dialect.commas updates))) := by
    intro table columns htable hcolumns
    refine (led_newRowsText hd hp hr).bind fun rows hrows => ?_
    refine (Yields.mapM fun u hu => woven_updateText hd hp (hupdates u hu)).bind
      fun updates hupdates => ?_
    refine (led_modeText R q.mode).bind fun mode hmode => .pure ?_
    have hhead : Led R (mode ++ " INTO " ++ table ++ columns ++ " " ++ rows) :=
      (hcolumns _ (hmode.glued (by decide) (by decide) htable)).spaced hrows
    split
    · simpa using hhead
    · rw [← String.append_assoc]
      exact hhead.glued (by decide) (by decide) (.commas hupdates)
  unfold Dialect.insertText
  refine (woven_tableName hd R q.table.schema q.table.name).bind fun table htable => ?_
  split
  · exact hrest table "" htable fun t ht => by simpa using ht
  · refine (woven_columnList hd R q.columns).bind fun columns hcolumns =>
      hrest table _ htable fun t ht => ?_
    rw [← String.append_assoc]
    exact ht.spacedHung hcolumns

end

end Scan
end StoredSql
