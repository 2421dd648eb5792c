import StoredSql.Proofs.Places
import StoredSql.Proofs.Weaving
import StoredSql.StatementText

/-!
# How the parts of statements are put together

The parts that statements add to those of queries are woven as well: conditions of handlers, labels,
assignments, types of columns and parameters. A statement that is one text ends in the semicolon
behind a woven text (`Ended`). The first line of one that holds statements begins with a word or
with its label (`Head`).
-/

namespace StoredSql.Scan

open Outcome

/-- A woven text with a word of its own in front, and the semicolon behind it. -/
def Ended (R : String → Prop) (t : String) : Prop := ∃ u, Led R u ∧ t = u ++ ";"

section
variable (R : String → Prop)

theorem Woven.quotedText (s : String) : Woven R (Dialect.quotedText s) :=
  @Woven.literal R (.text s) _ rfl

/-- A label fails for its own reasons only. -/
theorem woven_checkLabel (label : String) :
    Yields (Woven R) (fun e => Identifier.checkLabel label = .error e)
      (Identifier.checkLabel label) := by
  cases h : Identifier.checkLabel label with
  | ok l =>
    obtain ⟨rfl, hplain, -⟩ := Identifier.checkLabel_eq_ok_iff.1 h
    exact .word (isWord_of_isPlain hplain)
  | error e => exact rfl

/-- What the first line of a construct says: it begins with a word, or with the label of one of the
statements, which a word follows. -/
inductive Head (ss : List Statement) : String → Prop where
  | led {t : String} (h : Led R t) : Head ss t
  | labelled {s : Statement} {l t : String} (hs : s ∈ ss) (hl : s.label? = some l)
      (hplain : Identifier.isPlain l = true) (h : Led R t) : Head ss (l ++ ": " ++ t)

theorem Head.woven {R : String → Prop} {ss : List Statement} {t : String} (h : Head R ss t) :
    Woven R t := by
  cases h with
  | led h => exact h.woven
  | labelled _ _ hplain h =>
    exact (Woven.word (isWord_of_isPlain hplain)).glued (by decide) (by decide) h.woven

theorem head_labelled {R : String → Prop} (s : Statement) (ss : List Statement) {t : String}
    (h : Led R t) : Yields (Head R (s :: ss))
      (fun e => ∃ l, s.label? = some l ∧ Identifier.checkLabel l = .error e)
      (Dialect.labelled s.label? t) := by
  unfold Dialect.labelled
  split
  · rename_i l hl
    have hlabel := Text.eq_some_of_nonEmpty hl
    cases hcheck : Identifier.checkLabel l with
    | ok l' =>
      obtain ⟨rfl, hplain, -⟩ := Identifier.checkLabel_eq_ok_iff.1 hcheck
      exact Head.labelled List.mem_cons_self hlabel hplain h
    | error e => exact ⟨l, hlabel, hcheck⟩
  · exact .pure (.led h)

theorem led_columnType (c : Column) : Led R (Dialect.columnType c) := by
  have hname : Led R c.type.name := by
    cases c.type <;> exact .word (by decide) (by decide)
  have hmodified : ∀ t u, Led R t → (u = "" ∨ ∃ m : ColumnAttribute, u = " " ++ Keyword.word m) →
      Led R (t ++ u) := by
    rintro t _ ht (rfl | ⟨m, rfl⟩)
    · simpa using ht
    · rw [← String.append_assoc]
      exact ht.spaced (by cases m <;> exact .word (by decide) (by decide))
  unfold Dialect.columnType
  refine hmodified _ _ ?base ?modifier
  case base =>
    split
    · refine hname.hung (.joinWith (by decide) (by decide) fun t ht => ?_)
      obtain ⟨s, -, rfl⟩ := List.mem_map.1 ht
      exact .quotedText R s
    · split
      · exact hname.hung ((Woven.countText _).glued (by decide) (by decide) (.countText _))
      · exact hname.hung (.countText _)
      · simpa using hname
  case modifier =>
    split
    · exact .inl rfl
    · exact .inl rfl
    · exact .inr ⟨_, rfl⟩

end

section
variable {d : Dialect} (hd : d.kind.complete = true) (R : String → Prop)
include hd

theorem woven_conditionValueText (c : ConditionValue) :
    Yields (Woven R) Error.IsOfText (d.conditionValueText c) := by
  cases c with
  | sqlError code => exact Woven.countText code
  | sqlState state => exact (Woven.quotedText R state).clause (by decide) (by decide)
  | condition name => exact woven_identifier hd R name
  | sqlWarning => exact Woven.word (by decide)
  | notFound => exact Woven.word (by decide)
  | sqlException => exact Woven.word (by decide)

theorem woven_parameterText (mode : ParameterMode) (name : String) (type : Column) :
    Yields (Woven R) Error.IsOfText (d.parameterText mode name type) := by
  have hmode : IsWord (Keyword.word mode ++ " ") ∧ Quotes.Heads (Keyword.word mode ++ " ") := by
    cases mode <;> decide
  have htype := led_columnType R type
  exact (woven_identifier hd R name).bind fun n hn =>
    .pure ((hn.clause hmode.1 hmode.2).spaced htype.woven htype.leads.begins)

end

section
variable {d : Dialect} (hd : d.kind.complete = true) {p : String → Bool} {R : String → Prop}
  (hp : ∀ sql, p sql = true → R sql)
include hd hp

theorem woven_assignmentText {a : String × Expr} (hr : a.2.rawAll p = true) :
    Yields (Woven R) Error.IsOfText (d.assignmentText a) :=
  (woven_variableName hd R a.1).bind fun _ htarget => (woven_exprText hd hp hr).bind
    fun _ htext => .pure (htarget.glued (by decide) (by decide) htext)

theorem woven_whenText (searched : Bool) {test : Expr} (hr : test.rawAll p = true) :
    Yields (Woven R) Error.IsOfText (d.whenText searched test) := by
  unfold Dialect.whenText
  split
  · rw [Expr.rawAll] at hr
    exact woven_conditionText hd hp hr
  · exact trivial
  · exact woven_exprText hd hp hr

theorem ended_callText (name : String) {args : List Expr} (hr : Expr.rawAllOf p args = true) :
    Yields (Ended R) Error.IsOfText (d.callText name args ";") :=
  (woven_exprTexts hd hp hr).bind fun _ hargs => (woven_qualifiedName hd R name).bind
    fun _ hname => .pure ⟨_, (Led.clause (by decide) (by decide) hname).hung (.commas hargs), rfl⟩

theorem ended_signalText (condition : ConditionValue) {message : Option Expr}
    (number : Option Nat) (hr : message.all (Expr.rawAll p) = true) :
    Yields (Ended R) Error.IsOfText (d.signalText condition message number) := by
  have hitems : ∀ {c : String} {items : List String}, Woven R c → (∀ t ∈ items, Woven R t) →
      Ended R ("SIGNAL " ++ c
        ++ (if items.isEmpty then "" else " SET " ++ Dialect.commas items) ++ ";") := by
    intro c items hc hitems
    have hsignal : Led R ("SIGNAL " ++ c) := .clause (by decide) (by decide) hc
    refine ⟨_, ?_, rfl⟩
    split
    · simpa using hsignal
    · rw [← String.append_assoc]
      exact hsignal.glued (by decide) (by decide) (.commas hitems)
  have hnumber : ∀ n, Woven R ("MYSQL_ERRNO = " ++ countText n) := fun n =>
    (Woven.countText n).clause (by decide) (by decide)
  unfold Dialect.signalText
  refine (woven_conditionValueText hd R condition).bind fun c hc => ?_
  dsimp only
  split
  · refine .pure (hitems hc ?_)
    cases number with
    | none => simp
    | some n => simpa using hnumber n
  · refine (woven_exprText hd hp hr).bind fun t ht => .pure (hitems hc ?_)
    have hset : Woven R ("MESSAGE_TEXT = " ++ t) := ht.clause (by decide) (by decide)
    refine List.forall_mem_cons.2 ⟨hset, ?_⟩
    cases number with
    | none => simp
    | some n => simpa using hnumber n

theorem ended_declareText (names : List String) (type : Column) {initial : Option Expr}
    (hr : initial.all (Expr.rawAll p) = true) :
    Yields (Ended R) Error.IsOfText (d.declareText names type initial) := by
  unfold Dialect.declareText
  refine (Yields.mapM fun name _ => woven_identifier hd R name).bind fun names hnames => ?_
  have htyped : Led R ("DECLARE " ++ Dialect.commas names ++ " " ++ Dialect.columnType type) :=
    (Led.clause (by decide) (by decide) (.commas hnames)).spaced (led_columnType R type)
  dsimp only
  split
  · exact .pure ⟨_, htyped, by simp⟩
  · refine (woven_exprText hd hp hr).bind fun t ht => .pure ⟨_, ?_, rfl⟩
    rw [← String.append_assoc]
    exact htyped.glued (by decide) (by decide) ht

end

end StoredSql.Scan
