import StoredSql.Proofs.TermReading

/-!
# Reading arithmetic back

What the reader of operators finds in the text of an expression is the operator tree of the
expression, in which a value that is taken for a truth value counts as the value itself
(`Expr.operators`). Parentheses are written around an operation that is an operand; but they are
left out around one that is taken for a truth value there, and such an operation has to bind tightly
enough where it stands (`Grouping.isKept`). If all do, the text keeps the grouping
(`arithmetic_reads`); if one does not, a neighbour takes its operand (`bareSum_captured`).

The walk along the mutual recursion of the text (`told_expr`) finds that the text of an expression is
that of its grouping; what is read of a grouping is then looked at without conditions in between
(`Grouping.reads`).
-/

namespace StoredSql

open Outcome Scan OperatorTree TermReading

/-! ## Grouping -/

/-- The operations in an expression as they are written, with those in parentheses enclosed. -/
inductive Grouping where
  | operand (e : Expr)
  | operation (left : Grouping) (op : ArithmeticOp) (right : Grouping)
  | enclosed (inner : Grouping)

namespace Grouping

/-- The operator tree, which does not tell where the parentheses are. -/
def tree : Grouping → OperatorTree Expr
  | operand e => .operand e
  | operation left op right => .operation left.tree op right.tree
  | enclosed inner => inner.tree

/-- How tightly the text binds: what is no bare operation more than any operator. -/
def binding : Grouping → Nat
  | operation _ op _ => op.binding
  | _ => 2

/-- Whether each operation that is an operand of another one and is not enclosed binds tightly
enough: on the left as tightly as the other one, on the right more tightly. -/
def isKept : Grouping → Bool
  | operand _ => true
  | operation left op right =>
    left.isKept && right.isKept && op.binding ≤ left.binding && op.binding < right.binding
  | enclosed inner => inner.isKept

/-- The text. -/
def text (d : Dialect) : Grouping → Except Error String
  | operand e => Dialect.exprText d e
  | operation left op right => do
    let l ← left.text d
    let r ← right.text d
    pure (l ++ " " ++ Keyword.word op ++ " " ++ r)
  | enclosed inner => (inner.text d).map Shape.parenthesized

/-- The grouping of an expression in the place of an operand. -/
def ofOperand (e : Expr) (g : Grouping) : Grouping :=
  match e with
  | .arithmetic .. => enclosed g
  | _ => g

/-- The grouping of a condition in the place of an expression: an operation that it wraps, or the
condition as an operand. -/
def ofNested (c : Condition) : Option Grouping → Grouping
  | some g => if g.tree.isOperation then enclosed g else operand (.condition c)
  | none => operand (.condition c)

/-- The same, but what is taken for a truth value is written as it is. -/
def ofCondition (c : Condition) (g? : Option Grouping) : Grouping :=
  match c, g? with
  | .isTrue _, some g => g
  | _, g? => ofNested c g?

end Grouping

mutual

/-- The grouping of an expression. -/
def Expr.grouping : Expr → Grouping
  | .arithmetic left op right =>
    .operation (.ofOperand left left.grouping) op (.ofOperand right right.grouping)
  | .condition c => .ofCondition c c.grouping?
  | e => .operand e

/-- The grouping of the expression that a condition is nothing but a wrapper of: a condition that is
taken for true, and a conjunction or disjunction of one part that is written. -/
def Condition.grouping? : Condition → Option Grouping
  | .isTrue e => some e.grouping
  | .and cs =>
    match Shape.kept (Condition.groupings cs) with
    | [p] => p.2
    | _ => none
  | .or cs =>
    match Condition.groupings cs with
    | [p] => p.2
    | _ => none
  | _ => none

def Condition.groupings : List Condition → List (Shape × Option Grouping)
  | [] => []
  | c :: cs => (c.shape, c.grouping?) :: Condition.groupings cs

end

/-- The operator tree of an expression. -/
def Expr.operators (e : Expr) : OperatorTree Expr := e.grouping.tree

theorem Grouping.tree_ofOperand (e : Expr) (g : Grouping) : (ofOperand e g).tree = g.tree := by
  unfold ofOperand
  split <;> rfl

/-- An operation is one of the tree, whatever the operands are. -/
theorem Expr.operators_arithmetic (left : Expr) (op : ArithmeticOp) (right : Expr) :
    (Expr.arithmetic left op right).operators = .operation left.operators op right.operators := by
  rw [operators, grouping, Grouping.tree, Grouping.tree_ofOperand, Grouping.tree_ofOperand]
  rfl

/-- A value that is taken for a truth value stays the value that it is. -/
theorem Expr.operators_isTrue (e : Expr) :
    (Expr.condition (.isTrue e)).operators = e.operators := by
  rw [operators, grouping, Condition.grouping?]
  rfl

/-! ## What is written -/

namespace Grouping

/-- Each operand is a term by itself, and what is enclosed is an operation. -/
def Sound (d : Dialect) : Grouping → Prop
  | operand e => ∀ t, Dialect.exprText d e = .ok t → IsLeaf t
  | operation left _ right => left.Sound d ∧ right.Sound d
  | enclosed inner => inner.Sound d ∧ inner.tree.isOperation = true

variable {d : Dialect} {g : Grouping} {t : String}

theorem isConnector_operator (op : ArithmeticOp) : IsConnector (Keyword.word op) := by
  cases op <;> decide

theorem piece_text (hs : g.Sound d) (h : g.text d = .ok t) : Piece t := by
  induction g generalizing t with
  | operand e => exact (hs t h).piece
  | operation left op right ihl ihr =>
    simp only [text, bind_eq_ok, pure_eq_ok] at h
    obtain ⟨l, hl, r, hr, rfl⟩ := h
    have hglued := (ihl hs.1 hl).glued (glue_operator op) (ihr hs.2 hr)
    simpa only [String.append_assoc] using hglued
  | enclosed inner ih =>
    obtain ⟨u, hu, rfl⟩ := map_eq_ok.1 h
    exact (ih hs.1 hu).parenthesized.piece

theorem halts (hs : g.Sound d) (h : g.text d = .ok t) : Halts (terms t) := by
  induction g generalizing t with
  | operand e =>
    rw [(hs t h).terms]
    exact halts_singleton t
  | operation left op right ihl ihr =>
    simp only [text, bind_eq_ok, pure_eq_ok] at h
    obtain ⟨l, hl, r, hr, rfl⟩ := h
    rw [terms_joined (piece_text hs.1 hl).contained (isConnector_operator op)]
    exact (ihl hs.1 hl).append (ihr hs.2 hr)
  | enclosed inner _ =>
    obtain ⟨u, hu, rfl⟩ := map_eq_ok.1 h
    rw [(isTerm_parenthesized (piece_text hs.1 hu)).terms]
    exact halts_singleton _

/-- What is no operation is one operand. -/
theorem isLeaf_text (hs : g.Sound d) (h : g.text d = .ok t) (ho : g.tree.isOperation = false) :
    IsLeaf t := by
  cases g with
  | operand e => exact hs t h
  | operation left op right => cases ho
  | enclosed inner =>
    have hinner := hs.2
    rw [show inner.tree.isOperation = false from ho] at hinner
    cases hinner

/-- **The operations are read as they are grouped**, where no parentheses are missing. -/
theorem reads (hs : g.Sound d) (hk : g.isKept = true) (h : g.text d = .ok t) {n : Nat}
    (hn : t.length ≤ n) :
    ∃ tree, g.tree.mapM (Dialect.exprText d) = .ok tree ∧
      tree.isOperation = g.tree.isOperation ∧
      Reads (ofTerm (readUpTo n)) g.binding (terms t) tree := by
  induction g generalizing t n with
  | operand e =>
    refine ⟨.operand t, map_eq_ok.2 ⟨t, h, rfl⟩, rfl, fun sum product => ?_⟩
    rw [(hs t h).terms, run_cons, TermReading.step, ofTerm_of_isLeaf (hs t h)]
    rfl
  | operation left op right ihl ihr =>
    simp only [text, bind_eq_ok, pure_eq_ok] at h
    obtain ⟨l, hl, r, hr, rfl⟩ := h
    simp only [isKept, Bool.and_eq_true, decide_eq_true_eq] at hk
    obtain ⟨⟨⟨hkl, hkr⟩, hleft⟩, hright⟩ := hk
    simp only [String.length_append] at hn
    obtain ⟨treel, htreel, -, hreadl⟩ := ihl hs.1 hkl hl (n := n) (by omega)
    obtain ⟨treer, htreer, -, hreadr⟩ := ihr hs.2 hkr hr (n := n) (by omega)
    refine ⟨.operation treel op treer, ?_, rfl, ?_⟩
    · simp only [tree, OperatorTree.mapM, bind_eq_ok, pure_eq_ok]
      exact ⟨treel, htreel, treer, htreer, rfl⟩
    · rw [terms_joined (piece_text hs.1 hl).contained (isConnector_operator op)]
      exact hreadl.operation hreadr hleft hright
  | enclosed inner ih =>
    obtain ⟨u, hu, rfl⟩ := map_eq_ok.1 h
    have hlength : (Shape.parenthesized u).length = 1 + u.length + 1 := by
      rw [Shape.parenthesized, String.length_append, String.length_append]
      rfl
    obtain ⟨n, rfl⟩ : ∃ m, n = m + 1 := ⟨n - 1, by omega⟩
    obtain ⟨tree, htree, hoperation, hread⟩ := ih hs.1 hk hu (n := n) (by omega)
    refine ⟨tree, htree, hoperation, fun sum product => ?_⟩
    have hterm := isTerm_parenthesized (piece_text hs.1 hu)
    have hinner : readUpTo (n + 1) u = some tree := hread.finish
    have hsome : ofTerm (readUpTo (n + 1)) (Shape.parenthesized u) = some tree := by
      rw [ofTerm, if_pos hterm.operand, enclosed?_parenthesized, Option.bind_some, hinner,
        Option.filter_some, hoperation, hs.2]
      rfl
    rw [hterm.terms, run_cons, TermReading.step, hsome]
    rfl

end Grouping

/-! ## What the text of an expression is -/

/-- What is known of the text of an expression or a condition: it is that of the grouping, if there
is one, and no operation if there is none. -/
def Told (d : Dialect) (g? : Option Grouping) (t : String) : Prop :=
  match g? with
  | some g => g.Sound d ∧ g.text d = .ok t
  | none => Halts (terms t) ∧ NoOperation t

namespace Told

variable {d : Dialect} {g : Grouping} {g? : Option Grouping} {e : Expr} {t u : String}

theorem halts (h : Told d g? t) : Halts (terms t) := by
  cases g? with
  | none => exact h.1
  | some g => exact g.halts h.1 h.2

theorem noOperation (h : Told d g? t) (ho : ∀ g, g? = some g → g.tree.isOperation = false) :
    NoOperation t := by
  cases g? with
  | none => exact h.2
  | some g => exact noOperation_of_isLeaf (Grouping.isLeaf_text h.1 h.2 (ho g rfl))

theorem of_isLeaf (h : IsLeaf t) : Told d none t := by
  refine ⟨?_, noOperation_of_isLeaf h⟩
  rw [h.terms]
  exact halts_singleton t

theorem of_refused (h : Refused (terms t)) : Told d none t := by
  refine ⟨fun inner sum product r hr => ?_, noOperation_of_refused h⟩
  rw [h] at hr
  cases hr

theorem operand (h : Dialect.exprText d e = .ok t) (ht : IsLeaf t) :
    Told d (some (.operand e)) t := by
  refine ⟨fun u hu => ?_, h⟩
  obtain rfl := Except.ok.inj (h.symm.trans hu)
  exact ht

/-- An operation in the place of an operand is enclosed. -/
theorem ofOperand (h : Told d (some e.grouping) t) :
    Told d (some (.ofOperand e e.grouping)) (Dialect.operand e t) := by
  unfold Grouping.ofOperand Dialect.operand
  cases e with
  | arithmetic left op right =>
    exact ⟨⟨h.1, rfl⟩, map_eq_ok.2 ⟨t, h.2, rfl⟩⟩
  | _ => exact h

/-- A condition in parentheses, in the place of an expression. -/
theorem ofNested {c : Condition} (h : Told d g? t) (hp : Piece t)
    (htext : Dialect.exprText d (.condition c) = .ok (Shape.parenthesized t)) :
    Told d (some (.ofNested c g?)) (Shape.parenthesized t) := by
  have hoperand : (∀ g, g? = some g → g.tree.isOperation = false) →
      Told d (some (.operand (.condition c))) (Shape.parenthesized t) :=
    fun ho => .operand htext (isLeaf_parenthesized hp (h.noOperation ho))
  cases g? with
  | none => exact hoperand fun g hg => by cases hg
  | some g =>
    rw [Grouping.ofNested]
    split
    · rename_i ho
      exact ⟨⟨h.1, ho⟩, map_eq_ok.2 ⟨t, h.2, rfl⟩⟩
    · rename_i ho
      refine hoperand fun g' hg => ?_
      obtain rfl := Option.some.inj hg
      rwa [Bool.not_eq_true] at ho

/-- A text with a word behind it that is no operator. -/
theorem of_halts {w : String} (h : Halts (terms t)) (hp : Piece t) (hw : IsConnector w)
    (hop : (Keyword.ofWord? w : Option ArithmeticOp) = none) (u : String) :
    Told d none (t ++ (" " ++ w ++ " ") ++ u) := by
  have htext : t ++ (" " ++ w ++ " ") ++ u = t ++ " " ++ w ++ " " ++ u := by
    simp only [String.append_assoc]
  rw [htext]
  refine of_refused ?_
  rw [terms_joined hp.contained hw]
  exact h.refused hop _

end Told

/-! ## Conditions -/

/-- A part of a condition, and its text. -/
structure ConditionPart (d : Dialect) where
  shape : Shape
  grouping? : Option Grouping
  text : String
  told : Told d grouping? text
  piece : Piece text

namespace ConditionPart

variable {d : Dialect}

theorem conjunct (p : ConditionPart d) :
    Piece (Shape.conjunct (p.shape, p.text)) ∧
      Halts (terms (Shape.conjunct (p.shape, p.text))) := by
  unfold Shape.conjunct
  split
  · refine ⟨p.piece.parenthesized.piece, ?_⟩
    rw [(isTerm_parenthesized p.piece).terms]
    exact halts_singleton _
  · exact ⟨p.piece, p.told.halts⟩

/-- The text of a conjunction. -/
theorem told_all (ps : List (ConditionPart d)) :
    Told d (match Shape.kept (ps.map fun p => (p.shape, p.grouping?)) with
      | [p] => p.2
      | _ => none) (Shape.textOfAll (ps.map fun p => (p.shape, p.text))) := by
  have hgroupings : Shape.kept (ps.map fun p => (p.shape, p.grouping?))
      = (ps.filter fun p => p.shape ≠ .trivial).map fun p => (p.shape, p.grouping?) :=
    List.filter_map
  have htexts : Shape.kept (ps.map fun p => (p.shape, p.text))
      = (ps.filter fun p => p.shape ≠ .trivial).map fun p => (p.shape, p.text) :=
    List.filter_map
  rw [Shape.textOfAll, hgroupings, htexts]
  generalize (ps.filter fun p => p.shape ≠ .trivial) = ks
  match ks with
  | [] => exact .of_isLeaf (isLeaf_of_isBareTerm (isBareTerm_literal (v := .bool true) rfl))
  | [p] => exact p.told
  | p :: q :: ks =>
    obtain ⟨hpiece, hhalts⟩ := p.conjunct
    exact .of_halts hhalts hpiece (w := "AND") (by decide) rfl _

/-- The text of a disjunction. -/
theorem told_any (ps : List (ConditionPart d)) :
    Told d (match ps.map fun p => (p.shape, p.grouping?) with
      | [p] => p.2
      | _ => none) (Shape.textOfAny (ps.map text)) := by
  match ps with
  | [] => exact .of_refused (refused_of_first rfl [])
  | [p] => exact p.told
  | p :: q :: ps => exact .of_halts p.told.halts p.piece (w := "OR") (by decide) rfl _

end ConditionPart

/-! ## Operands -/

section
variable {d : Dialect} (hd : d.kind.complete = true) {t : String}
include hd

theorem isBareTerm_column {table : Option String} {name : String}
    (h : Dialect.exprText d (.column table name) = .ok t) : IsBareTerm t := by
  have hstar : Whole "*" := .of_isWord (by decide) (by decide) ⟨_, _, rfl, by decide⟩ (by decide)
  rw [Dialect.exprText] at h
  cases htable : Text.nonEmpty table with
  | none =>
    simp only [htable] at h
    split at h
    · obtain rfl := pure_eq_ok.1 h
      exact hstar.isBareTerm
    · rw [bind_pure] at h
      exact (whole_identifier hd h).isBareTerm
  | some u =>
    have hbehind : ∀ column, Whole column →
        (do pure ((← d.qualifiedName u) ++ "." ++ column)) = .ok t → IsBareTerm t := by
      intro column hcolumn h
      simp only [bind_eq_ok, pure_eq_ok] at h
      obtain ⟨q, hq, rfl⟩ := h
      exact ((whole_qualifiedName hd hq).dotted hcolumn).isBareTerm
    simp only [htable] at h
    split at h
    · exact hbehind "*" hstar h
    · obtain ⟨column, hcolumn, h⟩ := bind_eq_ok.1 h
      exact hbehind column (whole_identifier hd hcolumn) h

theorem isBareTerm_call {f : FunctionName} {args : List Expr}
    (hr : (Expr.call f args).isRawFree = true) (h : Dialect.exprText d (.call f args) = .ok t) :
    IsBareTerm t := by
  have hpiece := piece_exprText hd hr h
  rw [Dialect.exprText, bind_eq_ok] at h
  obtain ⟨texts, htexts, h⟩ := h
  obtain rfl := pure_eq_ok.1 h
  have hargs : Piece (Dialect.commas texts) := by
    rw [Expr.isRawFree_eq, Expr.rawAll] at hr
    exact (Woven.commas ((woven_exprTexts hd noRawText hr).of_ok htexts)).piece
  have hname : ' ' ∉ (Text.upper f.text).toList ∧ '(' ∉ (Text.upper f.text).toList := by
    have hchars := Identifier.forall_of_allUpToLineEnd (allUpToLineEnd_upper f)
    constructor <;> exact fun hc => absurd (hchars _ hc) (by decide)
  refine Whole.isBareTerm ⟨hpiece, ?_, ?_, ?_⟩
  · rw [String.toList_append]
    exact .append (tail_of_quiet (isWord_upper f).isQuiet).piece
      (uncut_of_not_mem hname.1) (uncut_parenthesized hargs)
  · obtain ⟨c, cs, hupper⟩ := List.exists_cons_of_ne_nil (upper_ne_nil f)
    rw [hupper] at hname
    rw [String.toList_append, hupper]
    exact ⟨c, _, rfl, (List.ne_of_not_mem_cons hname.2).symm⟩
  · refine isOperand_of_mem (c := '(') ?_ (by decide)
    simp [Shape.parenthesized]

omit hd in
/-- A query begins with its word. -/
theorem selectText_eq {q : SelectQuery} (h : Dialect.selectText d q = .ok t) :
    ∃ rest, t = "SELECT" ++ " " ++ rest := by
  obtain ⟨items, source, joins, filter, groupBy, orderBy, limit, distinct, into⟩ := q
  simp only [Dialect.selectText, bind_eq_ok, pure_eq_ok] at h
  obtain ⟨items, -, source, -, joins, -, filter, -, groups, -, keys, -, limit, -, into, -, rfl⟩ := h
  have hbegins : ∀ texts : List String, texts ≠ [] →
      ∃ rest, Text.joinWith " " ("SELECT" :: texts) = "SELECT" ++ " " ++ rest := by
    intro texts hne
    obtain ⟨text, texts, rfl⟩ := List.exists_cons_of_ne_nil hne
    exact ⟨_, rfl⟩
  simp only [List.append_assoc, List.singleton_append]
  exact hbegins _ (by simp)

/-- A query in parentheses. -/
theorem isLeaf_subquery {q : SelectQuery} (hr : q.isRawFree = true)
    (h : Dialect.selectText d q = .ok t) : IsLeaf (Shape.parenthesized t) := by
  refine isLeaf_parenthesized (piece_selectText hd hr h) (noOperation_of_refused ?_)
  obtain ⟨rest, rfl⟩ := selectText_eq h
  rw [terms_behind (by decide)]
  exact refused_of_first rfl _

theorem isBareTerm_exists {q : SelectQuery} (hr : q.isRawFree = true)
    (h : Dialect.conditionText d (.exists q) = .ok t) : IsBareTerm t := by
  have hpiece := piece_conditionText hd (c := .exists q) hr h
  rw [Dialect.conditionText, bind_eq_ok] at h
  obtain ⟨u, hu, h⟩ := h
  obtain rfl := pure_eq_ok.1 h
  have huncut : Uncut Fresh (Shape.parenthesized u).toList := fun p hp =>
    uncut_parenthesized (piece_selectText hd hr hu) p hp.rested
  refine ⟨⟨hpiece, ?_, ?_⟩, ?_⟩
  · exact terms_united (w := "EXISTS") ⟨_, rfl, rfl, rfl⟩ rfl huncut
      (by simp [belongs, Shape.toList_parenthesized])
  · exact isOperand_of_mem (c := '(') (by simp [Shape.parenthesized]) (by decide)
  · exact ⟨'E', "XISTS ".toList ++ (Shape.parenthesized u).toList, by simp, by decide⟩

end

/-! ## The walk -/

/-- A test begins with a word that is no operator. -/
theorem testText_eq {d : Dialect} {test : Test} {t : String} (h : Dialect.testText d test = .ok t) :
    ∃ w rest, t = w ++ " " ++ rest ∧ IsConnector w ∧
      (Keyword.ofWord? w : Option ArithmeticOp) = none := by
  cases test with
  | binary op right =>
    simp only [Dialect.testText, bind_eq_ok, pure_eq_ok] at h
    obtain ⟨r, -, rfl⟩ := h
    refine ⟨op.word, r, rfl, ?_⟩
    cases op <;> exact ⟨by decide, rfl⟩
  | isNull =>
    obtain rfl := Except.ok.inj h
    exact ⟨"IS", "NULL", rfl, by decide, rfl⟩
  | isNotNull =>
    obtain rfl := Except.ok.inj h
    exact ⟨"IS", "NOT NULL", rfl, by decide, rfl⟩
  | inValues values =>
    simp only [Dialect.testText, bind_eq_ok, pure_eq_ok] at h
    obtain ⟨ts, -, rfl⟩ := h
    exact ⟨"IN", _, rfl, by decide, rfl⟩
  | inQuery q =>
    simp only [Dialect.testText, bind_eq_ok, pure_eq_ok] at h
    obtain ⟨u, -, rfl⟩ := h
    exact ⟨"IN", _, rfl, by decide, rfl⟩
  | between low high =>
    simp only [Dialect.testText, bind_eq_ok, pure_eq_ok] at h
    obtain ⟨l, -, u, -, rfl⟩ := h
    refine ⟨"BETWEEN", l ++ " AND " ++ u, ?_, by decide, rfl⟩
    simp only [← String.append_assoc]
    rfl

section
set_option linter.unusedSectionVars false
variable {d : Dialect} (hd : d.kind.complete = true)
include hd

mutual

theorem told_expr : ∀ {e : Expr} {t : String}, e.isRawFree = true →
    Dialect.exprText d e = .ok t → Told d (some e.grouping) t
  | .column table name, t, _, h => .operand h (isLeaf_of_isBareTerm (isBareTerm_column hd h))
  | .variable name, t, _, h => by
    refine .operand h (isLeaf_of_isBareTerm ?_)
    rw [Dialect.exprText] at h
    exact (whole_variableName hd h).isBareTerm
  | .literal v, t, _, h => by
    refine .operand h (isLeaf_of_isBareTerm ?_)
    rw [Dialect.exprText] at h
    exact isBareTerm_literal h
  | .call f args, t, hr, h => .operand h (isLeaf_of_isBareTerm (isBareTerm_call hd hr h))
  | .arithmetic left op right, t, hr, h => by
    rw [Expr.isRawFree, Bool.and_eq_true] at hr
    simp only [Dialect.exprText, bind_eq_ok, pure_eq_ok] at h
    obtain ⟨l, hl, r, hright, rfl⟩ := h
    obtain ⟨hsl, htl⟩ := (told_expr hr.1 hl).ofOperand
    obtain ⟨hsr, htr⟩ := (told_expr hr.2 hright).ofOperand
    rw [Expr.grouping]
    refine ⟨⟨hsl, hsr⟩, ?_⟩
    simp only [Grouping.text, bind_eq_ok, pure_eq_ok]
    exact ⟨_, htl, _, htr, rfl⟩
  | .raw sql, t, hr, _ => by cases hr
  | .subquery q, t, hr, h => by
    refine .operand h ?_
    simp only [Dialect.exprText, bind_eq_ok, pure_eq_ok] at h
    obtain ⟨u, hu, rfl⟩ := h
    exact isLeaf_subquery hd hr hu
  | .condition c, t, hr, h => by
    rw [Expr.isRawFree] at hr
    have htext := h
    simp only [Dialect.exprText, bind_eq_ok, pure_eq_ok] at h
    obtain ⟨u, hu, rfl⟩ := h
    have htold := told_condition hr hu
    have hpiece := piece_conditionText hd hr hu
    rw [Expr.grouping]
    cases c with
    | isTrue e => exact htold
    | «exists» q => exact .operand htext (isLeaf_of_isBareTerm (isBareTerm_exists hd hr hu))
    | compare left test => exact htold.ofNested hpiece htext
    | and cs => exact htold.ofNested hpiece htext
    | or cs => exact htold.ofNested hpiece htext
    | not c => exact htold.ofNested hpiece htext
    | «foreign» e => exact htold.ofNested hpiece htext
  | .foreign o, t, _, h => by
    rw [Dialect.exprText] at h
    cases h

theorem told_condition : ∀ {c : Condition} {t : String}, c.isRawFree = true →
    Dialect.conditionText d c = .ok t → Told d c.grouping? t
  | .compare left test, t, hr, h => by
    rw [Condition.isRawFree, Bool.and_eq_true] at hr
    simp only [Dialect.conditionText, bind_eq_ok, pure_eq_ok] at h
    obtain ⟨l, hl, u, hu, rfl⟩ := h
    obtain ⟨w, rest, rfl, hw, hop⟩ := testText_eq hu
    have htold : Told d none (l ++ (" " ++ w ++ " ") ++ rest) :=
      .of_halts (told_expr hr.1 hl).halts (piece_exprText hd hr.1 hl) hw hop rest
    show Told d none _
    simpa only [String.append_assoc] using htold
  | .and cs, t, hr, h => by
    rw [Condition.isRawFree] at hr
    simp only [Dialect.conditionText, bind_eq_ok, pure_eq_ok] at h
    obtain ⟨ts, hts, rfl⟩ := h
    obtain ⟨ps, hshapes, hgroupings, rfl⟩ := told_conditions hr hts
    have htold := ConditionPart.told_all ps
    rw [Condition.grouping?, hshapes, hgroupings, List.zip_map']
    exact htold
  | .or cs, t, hr, h => by
    rw [Condition.isRawFree] at hr
    simp only [Dialect.conditionText, bind_eq_ok, pure_eq_ok] at h
    obtain ⟨ts, hts, rfl⟩ := h
    obtain ⟨ps, _, hgroupings, rfl⟩ := told_conditions hr hts
    rw [Condition.grouping?, hgroupings]
    exact ConditionPart.told_any ps
  | .not c, t, hr, h => by
    simp only [Dialect.conditionText, bind_eq_ok, pure_eq_ok] at h
    obtain ⟨u, hu, rfl⟩ := h
    refine .of_refused ?_
    rw [Shape.textOfNot, show "NOT " = "NOT" ++ " " from rfl, terms_behind (by decide)]
    exact refused_of_first rfl _
  | .isTrue e, t, hr, h => by
    rw [Condition.isRawFree] at hr
    rw [Dialect.conditionText] at h
    exact told_expr hr h
  | .exists q, t, hr, h => .of_isLeaf (isLeaf_of_isBareTerm (isBareTerm_exists hd hr h))
  | .foreign e, t, _, h => by
    rw [Dialect.conditionText] at h
    cases h

theorem told_conditions : ∀ {cs : List Condition} {ts : List String},
    Condition.allRawFree cs = true → Dialect.conditionTexts d cs = .ok ts →
    ∃ ps : List (ConditionPart d), Condition.shapes cs = ps.map (·.shape) ∧
      Condition.groupings cs = ps.map (fun p => (p.shape, p.grouping?)) ∧
      ts = ps.map (·.text)
  | [], ts, _, h => by
    rw [Dialect.conditionTexts] at h
    obtain rfl := Except.ok.inj h
    exact ⟨[], rfl, rfl, rfl⟩
  | c :: cs, ts, hr, h => by
    rw [Condition.allRawFree, Bool.and_eq_true] at hr
    simp only [Dialect.conditionTexts, bind_eq_ok, pure_eq_ok] at h
    obtain ⟨t, ht, us, hus, rfl⟩ := h
    obtain ⟨ps, hshapes, hgroupings, rfl⟩ := told_conditions hr.2 hus
    refine ⟨⟨c.shape, c.grouping?, t, told_condition hr.1 ht, piece_conditionText hd hr.1 ht⟩ :: ps,
      ?_, ?_, rfl⟩
    · rw [Condition.shapes, hshapes]
      rfl
    · rw [Condition.groupings, hgroupings]
      rfl

end

end

/-- **Arithmetic keeps its grouping.** If a complete dialect writes an expression without raw text,
the operators in the text are read as they are grouped in the expression, and each operand is read as
it is written by itself. This asks that an operation that is taken for a truth value and so stands
without parentheses in another one binds tightly enough there. -/
theorem arithmetic_reads {d : Dialect} (hd : d.kind.complete = true) {e : Expr} {text : String}
    (hr : e.isRawFree = true) (hk : e.grouping.isKept = true) (h : d.renderExpr e = .ok text) :
    ∃ tree, e.operators.mapM d.renderExpr = .ok tree ∧ OperatorTree.read text = some tree := by
  have hrender : d.renderExpr = Dialect.exprText d := by
    funext e
    rw [Dialect.renderExpr, Dialect.orMark, if_pos hd]
  rw [hrender] at h ⊢
  obtain ⟨hs, htext⟩ := told_expr hd hr h
  obtain ⟨tree, htree, -, hreads⟩ := Grouping.reads hs hk htext (Nat.le_refl _)
  exact ⟨tree, htree, hreads.finish⟩

/-- A product that is taken for a truth value, in a sum with a text that looks like an operator; a
conjunction that is nothing but a difference; and an `EXISTS` and a test as operands. -/
def wrappedArithmetic : Expr :=
  .arithmetic
    (.arithmetic
      (.condition (.isTrue (.arithmetic (.column (some "t") "a b") .mul (.literal (.int (-2))))))
      .add (.literal (.text "DIV (1")))
    .sub
    (.arithmetic
      (.condition (.and [.and [], .isTrue (.arithmetic (.variable "@x") .sub (.literal (.int 1)))]))
      .intDiv
      (.arithmetic (.condition (.exists { items := [⟨.column none "*", none⟩] })) .add
        (.condition (.compare (.column none "c") .isNull))))

/-- All operators are read where they belong. -/
theorem wrappedArithmetic_reads :
    let text := "(t.`a b` * -2 + 'DIV (1') - ((@x - 1) DIV (EXISTS (SELECT *) + (c IS NULL)))"
    Dialect.renderExpr {} wrappedArithmetic = .ok text ∧
      OperatorTree.read text = some (.operation
          (.operation (.operation (.operand "t.`a b`") .mul (.operand "-2")) .add
            (.operand "'DIV (1'"))
          .sub
          (.operation (.operation (.operand "@x") .sub (.operand "1")) .intDiv
            (.operation (.operand "EXISTS (SELECT *)") .add (.operand "(c IS NULL)")))) := by
  obtain ⟨tree, htree, hread⟩ := arithmetic_reads (d := {}) rfl (e := wrappedArithmetic) rfl rfl rfl
  obtain rfl := Except.ok.inj ((rfl : _ = Except.ok _).symm.trans htree)
  exact ⟨rfl, hread⟩

/-- A sum that is taken for a truth value has no parentheses in a product, and so the product takes
the right operand of the sum. -/
theorem bareSum_captured :
    let sum := Expr.arithmetic (.column none "a") .add (.literal (.int 1))
    let product := Expr.arithmetic (.condition (.isTrue sum)) .mul (.literal (.int 2))
    product.isRawFree = true ∧ Dialect.renderExpr {} product = .ok "a + 1 * 2" ∧
      product.operators.mapM (Dialect.renderExpr {}) = .ok (.operation
        (.operation (.operand "a") .add (.operand "1")) .mul (.operand "2")) ∧
      OperatorTree.read "a + 1 * 2" = some (.operation (.operand "a") .add
        (.operation (.operand "1") .mul (.operand "2"))) :=
  ⟨rfl, rfl, rfl, rfl⟩

end StoredSql
