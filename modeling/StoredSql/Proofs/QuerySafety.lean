import StoredSql.Proofs.LiteralText
import StoredSql.Proofs.Weaving
import StoredSql.Rendering

/-!
# The text of queries stays in its place

Only raw text can bring marks of code into the text of an expression, a condition, a query or an
insertion. Without raw text, whatever the names and the values are, a scan of the text ends outside
quotes with its parentheses closed, and meets no semicolon and no beginning of a comment outside
quotes (`renderedText_contained`). Such a text is woven without raw texts, and each of its strands is
a piece: the induction is on how the text is woven.
-/

namespace StoredSql

/-! ## Without raw text -/

mutual

/-- Whether an expression holds no raw text, in any depth. -/
def Expr.isRawFree : Expr → Bool
  | .column .. => true
  | .variable _ => true
  | .literal _ => true
  | .call _ args => Expr.allRawFree args
  | .arithmetic left _ right => left.isRawFree && right.isRawFree
  | .raw _ => false
  | .subquery q => q.isRawFree
  | .condition c => c.isRawFree
  | .foreign _ => true

def Expr.allRawFree : List Expr → Bool
  | [] => true
  | e :: es => e.isRawFree && Expr.allRawFree es

/-- Whether a condition holds no raw text. -/
def Condition.isRawFree : Condition → Bool
  | .compare left test => left.isRawFree && test.isRawFree
  | .and cs => Condition.allRawFree cs
  | .or cs => Condition.allRawFree cs
  | .not c => c.isRawFree
  | .isTrue e => e.isRawFree
  | .exists q => q.isRawFree
  | .foreign e => e.isRawFree

def Condition.allRawFree : List Condition → Bool
  | [] => true
  | c :: cs => c.isRawFree && Condition.allRawFree cs

def Condition.isRawFreeIfAny : Option Condition → Bool
  | none => true
  | some c => c.isRawFree

/-- Whether a test holds no raw text. -/
def Test.isRawFree : Test → Bool
  | .binary _ right => right.isRawFree
  | .isNull => true
  | .isNotNull => true
  | .inValues values => Expr.allRawFree values
  | .inQuery q => q.isRawFree
  | .between low high => low.isRawFree && high.isRawFree

/-- Whether a source holds no raw text. -/
def Source.isRawFree : Source → Bool
  | .table _ => true
  | .query q _ => q.isRawFree
  | .foreign _ => true

def Source.isRawFreeIfAny : Option Source → Bool
  | none => true
  | some s => s.isRawFree

/-- Whether a column of the result holds no raw text. -/
def SelectItem.isRawFree : SelectItem → Bool
  | ⟨expr, _⟩ => expr.isRawFree

def SelectItem.allRawFree : List SelectItem → Bool
  | [] => true
  | i :: items => i.isRawFree && SelectItem.allRawFree items

/-- Whether a join holds no raw text. -/
def Join.isRawFree : Join → Bool
  | ⟨_, source, condition, _⟩ => source.isRawFree && Condition.isRawFreeIfAny condition

def Join.allRawFree : List Join → Bool
  | [] => true
  | j :: joins => j.isRawFree && Join.allRawFree joins

def GroupBy.isRawFreeIfAny : Option GroupBy → Bool
  | none => true
  | some ⟨columns, having, _⟩ => Expr.allRawFree columns && Condition.isRawFreeIfAny having

/-- Whether a sort key holds no raw text. -/
def SortKey.isRawFree : SortKey → Bool
  | ⟨expr, _⟩ => expr.isRawFree

def SortKey.allRawFree : List SortKey → Bool
  | [] => true
  | k :: keys => k.isRawFree && SortKey.allRawFree keys

/-- Whether a query holds no raw text. -/
def SelectQuery.isRawFree : SelectQuery → Bool
  | ⟨items, source, joins, filter, groupBy, orderBy, _, _, _⟩ =>
    SelectItem.allRawFree items && Source.isRawFreeIfAny source && Join.allRawFree joins
      && Condition.isRawFreeIfAny filter && GroupBy.isRawFreeIfAny groupBy
      && SortKey.allRawFree orderBy

end

/-- Whether new rows hold no raw text. -/
def InsertQuery.isRawFree (q : InsertQuery) : Bool :=
  q.rows.all Expr.allRawFree && q.select.all SelectQuery.isRawFree
    && q.onDuplicate.all fun update => update.2.isRawFree

/-! To hold no raw text is to hold only raw texts that pass a test that none passes. -/

theorem Expr.isRawFree_eq (e : Expr) : e.isRawFree = e.rawAll fun _ => false := by
  delta Expr.isRawFree Expr.rawAll
  rfl

theorem Condition.isRawFree_eq (c : Condition) : c.isRawFree = c.rawAll fun _ => false := by
  delta Condition.isRawFree Condition.rawAll
  rfl

theorem SelectQuery.isRawFree_eq (q : SelectQuery) : q.isRawFree = q.rawAll fun _ => false := by
  delta SelectQuery.isRawFree SelectQuery.rawAll
  rfl

theorem InsertQuery.isRawFree_eq (q : InsertQuery) : q.isRawFree = q.rawAll fun _ => false := by
  delta InsertQuery.isRawFree InsertQuery.rawAll Expr.allRawFree Expr.rawAllOf SelectQuery.isRawFree
    SelectQuery.rawAll Expr.isRawFree Expr.rawAll
  rfl

namespace Scan

/-! ## Woven texts are pieces -/

theorem glue_of_isWord {g : String} (h : IsWord g) (hne : g.toList ≠ []) : Glue g :=
  glue_of_quiet h.isQuiet hne

/-- An operator between spaces, be it a minus or a slash. -/
theorem glue_operator (op : ArithmeticOp) : Glue (" " ++ Keyword.word op ++ " ") := by
  have hmark : ∀ m, m = '-' ∨ m = '/' → Moves Rested Fresh [' ', m, ' '] := fun m hm =>
    Moves.cons (moves_isQuiet rfl) fun p d hp => moves_mark hm rfl (by decide) p d hp.rested
  cases op with
  | sub => exact hmark '-' (.inl rfl)
  | div => exact hmark '/' (.inr rfl)
  | add => exact glue_of_isWord (by decide) (by decide)
  | mul => exact glue_of_isWord (by decide) (by decide)
  | intDiv => exact glue_of_isWord (by decide) (by decide)
  | mod => exact glue_of_isWord (by decide) (by decide)

/-- A text that is woven without raw texts is a piece. -/
theorem Woven.piece {t : String} (h : Woven (fun _ => False) t) : Piece t := by
  induction h with
  | word h => exact (tail_of_quiet h.isQuiet).piece
  | name h => exact piece_backquoted h
  | literal h => exact piece_literal h
  | raw h => exact h.elim
  | clause hw hh _ ih => exact ((glue_of_isWord hw hh.ne_nil).append_piece ih).piece
  | glued _ hg hs _ iha ihb => exact iha.glued (glue_of_isWord hg hs.ne_nil) ihb
  | spaced _ _ _ iha ihb => exact iha.glued (glue_of_isWord (by decide) (by decide)) ihb
  | operated _ op _ iha ihb => exact iha.glued (glue_operator op) ihb
  | hung _ _ iha ihb => exact iha.append_tail ihb.parenthesized

/-- Where no raw text passes the test, none is woven in. -/
theorem noRawText : ∀ sql : String, (fun _ => false) sql = true → (fun _ => False) sql :=
  fun _ h => Bool.noConfusion h

section
variable {d : Dialect} (hd : d.kind.complete = true) {t : String}
include hd

theorem piece_exprText {e : Expr} (hr : e.isRawFree = true) (h : Dialect.exprText d e = .ok t) :
    Piece t := by
  rw [Expr.isRawFree_eq] at hr
  exact ((woven_exprText hd noRawText hr).of_ok h).piece

theorem piece_conditionText {c : Condition} (hr : c.isRawFree = true)
    (h : Dialect.conditionText d c = .ok t) : Piece t := by
  rw [Condition.isRawFree_eq] at hr
  exact ((woven_conditionText hd noRawText hr).of_ok h).piece

theorem piece_selectText {q : SelectQuery} (hr : q.isRawFree = true)
    (h : Dialect.selectText d q = .ok t) : Piece t := by
  rw [SelectQuery.isRawFree_eq] at hr
  exact ((led_selectText hd noRawText hr).of_ok h).woven.piece

theorem piece_insertText {q : InsertQuery} (hr : q.isRawFree = true)
    (h : d.insertText q = .ok t) : Piece t := by
  rw [InsertQuery.isRawFree_eq] at hr
  exact ((led_insertText hd noRawText hr).of_ok h).woven.piece

end

end Scan

/-- **Text without raw parts is contained.** Whatever stands in the names and the values of an
expression, a condition, a query or an insertion that holds no raw text: if a complete dialect
writes it, a scan of the text ends outside quotes with all parentheses closed, and finds no
semicolon and no beginning of a comment outside quotes. -/
theorem renderedText_contained (d : Dialect) (hd : d.kind.complete = true) :
    (∀ (e : Expr) (text : String), e.isRawFree = true → d.renderExpr e = .ok text →
      Scan.Contained text) ∧
    (∀ (c : Condition) (text : String), c.isRawFree = true → d.renderCondition c = .ok text →
      Scan.Contained text) ∧
    (∀ (q : SelectQuery) (text : String), q.isRawFree = true → d.renderSelect q = .ok text →
      Scan.Contained text) ∧
    (∀ (q : InsertQuery) (text : String), q.isRawFree = true → d.renderInsert q = .ok text →
      Scan.Contained text) := by
  refine ⟨fun e text hr h => ?_, fun c text hr h => ?_, fun q text hr h => ?_,
    fun q text hr h => ?_⟩
  · rw [Dialect.renderExpr, Dialect.orMark, if_pos hd] at h
    exact (Scan.piece_exprText hd hr h).contained
  · rw [Dialect.renderCondition, if_pos hd] at h
    exact (Scan.piece_conditionText hd hr h).contained
  · rw [Dialect.renderSelect, Dialect.orMark, if_pos hd] at h
    exact (Scan.piece_selectText hd hr h).contained
  · rw [Dialect.renderInsert, Dialect.orMark, if_pos hd] at h
    exact (Scan.piece_insertText hd hr h).contained

/-- A text and names that try to leave their quotes, and minus signs that follow one another. -/
def hostileExpr : Expr :=
  .arithmetic (.literal (.text "\\'; -- ")) .sub
    (.arithmetic (.column (some "`;") "a`b") .div (.literal (.int (-1))))

/-- The expression tested in a query. -/
def hostileCondition : Condition := .and [.compare hostileExpr (.binary .lt (.literal (.int (-2))))]

/-- The condition over rows of another query. -/
def hostileQuery : SelectQuery where
  items := [⟨hostileExpr, some "/*"⟩]
  source := some (.query { items := [⟨.literal (.bytes [0x27]), none⟩] } ")#")
  filter := some hostileCondition

/-- The rows of the query inserted. -/
def hostileInsert : InsertQuery where
  table := { name := "-- x" }
  select := some hostileQuery

/-- All four have a text, and it is contained. -/
theorem hostileText_contained :
    (Dialect.renderExpr {} hostileExpr = .ok "'\\\\''; -- ' - (```;`.`a``b` / -1)" ∧
      Scan.Contained "'\\\\''; -- ' - (```;`.`a``b` / -1)") ∧
    (∃ text, Dialect.renderCondition {} hostileCondition = .ok text ∧ Scan.Contained text) ∧
    (∃ text, Dialect.renderSelect {} hostileQuery = .ok text ∧ Scan.Contained text) ∧
    (∃ text, Dialect.renderInsert {} hostileInsert = .ok text ∧ Scan.Contained text) := by
  obtain ⟨hexpr, hcondition, hselect, hinsert⟩ := renderedText_contained {} rfl
  exact ⟨⟨rfl, hexpr hostileExpr _ rfl rfl⟩, ⟨_, rfl, hcondition hostileCondition _ rfl rfl⟩,
    ⟨_, rfl, hselect hostileQuery _ rfl rfl⟩, ⟨_, rfl, hinsert hostileInsert _ rfl rfl⟩⟩

end StoredSql
