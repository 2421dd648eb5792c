import StoredSql.Proofs.CleanText
import StoredSql.Proofs.FramedCalls
import StoredSql.Proofs.NameReading
import StoredSql.Proofs.TextLines
import StoredSql.Rendering

/-!
# No directive in a body

A change of the delimiter has no place in the body of a program. A builder refuses it as a statement
and as the start of a raw statement, so no tree that it gives has one at any depth, and no line of the
body that begins outside quotes is a directive (`built_without_directives`), but for lines that raw
texts bring along behind their line breaks: only the start of a raw statement is looked at
(`directiveBehind_rendered`). A label that is the word itself with a line end behind it, which passes
for a plain name, makes such a line too.
-/

namespace StoredSql

open Quotes Outcome Check Stepwise

namespace Quotes

/-! ## Texts -/

/-- A text that closes its quotes and has no directive behind a line break outside of them. -/
structure Undirected (t : String) : Prop where
  closed : after .outside t.toList = .outside
  free : directiveFree .outside t.toList = true

namespace Undirected

variable {s t : String}

theorem append (hs : Undirected s) (ht : Undirected t) (hapart : Apart t.toList) :
    Undirected (s ++ t) where
  closed := by
    rw [String.toList_append, after_append, hs.closed]
    exact ht.closed
  free := by
    rw [String.toList_append]
    refine directiveFree_append hs.free ?_ hapart
    rw [hs.closed]
    exact ht.free

/-- Behind a text without line breaks outside quotes. -/
theorem behind (hs : Clean (· ≠ '\n') s) (ht : Undirected t) : Undirected (s ++ t) where
  closed := by
    rw [String.toList_append, after_append, hs.closed]
    exact ht.closed
  free := by
    rw [String.toList_append]
    refine directiveFree_of_unquoted hs.outside ?_
    rw [hs.closed]
    exact ht.free

theorem of_clean (h : Clean (· ≠ '\n') t) : Undirected t := by
  simpa using behind h (t := "") ⟨rfl, rfl⟩

end Undirected

open Scan

theorem clean_unbroken {w : String} (hw : IsWord w) (h : '\n' ∉ w.toList) : Clean (· ≠ '\n') w := by
  refine Clean.of_forall fun c hc => ⟨(not_quote_of_isTame (hw.isTame c hc)).1, ?_⟩
  rintro rfl
  exact h hc

/-- No line begins within a word. -/
theorem undirected_word {w : String} (hw : IsWord w) : Undirected w where
  closed := (clean_word (P := fun _ => True) (fun _ _ => trivial) hw).closed
  free := by
    have hread : ∀ cs : List Char, isTameLine cs = true → directiveFree .outside cs = true := by
      intro cs hcs
      induction cs with
      | nil => rfl
      | cons c cs ih =>
        obtain ⟨rfl, rfl⟩ | ⟨hc, hcs⟩ := Identifier.allUpToLineEnd_cons.1 hcs
        · rfl
        · obtain ⟨htame, hne⟩ := Bool.and_eq_true_iff.1 hc
          rw [directiveFree, step, (not_quote_of_isTame htame).1, hne, ih hcs]
          rfl
    exact hread _ hw

theorem undirected_literal {v : Value} {t : String} (h : Dialect.literal v = .ok t) :
    Undirected t := by
  cases literalForm h with
  | word h => exact undirected_word h
  | number negative _ hcs hmore =>
    refine .of_clean (clean_number ?_ negative hcs hmore)
    rintro c hc rfl
    exact absurd hc (by decide)
  | tagged hw hcs ht =>
    have hunbroken : ∀ w ∈ tagWords, '\n' ∉ w.toList := by decide
    exact .of_clean (clean_tagged (clean_unbroken hw (hunbroken _ ht)) hcs)
  | quoted s => exact .of_clean (clean_quotedText s)

/-- Texts of which no character is a quote or a line break. -/
theorem clean_of_all (h : (t.toList.all fun c => Quote.ofChar? c == none && c != '\n') = true) :
    Clean (· ≠ '\n') t :=
  Clean.of_forall fun c hc => by simpa using List.all_eq_true.1 h c hc

theorem undirected_operator {a b : String} (ha : Undirected a) (op : ArithmeticOp)
    (hb : Undirected b) : Undirected (a ++ (" " ++ Keyword.word op ++ " ") ++ b) := by
  have hclean : Clean (· ≠ '\n') (" " ++ Keyword.word op ++ " ") := by
    cases op <;> exact clean_of_all (by decide)
  have hseparates : Separates (" " ++ Keyword.word op ++ " ") := by
    cases op <;> decide
  rw [String.append_assoc]
  refine ha.append (.behind hclean hb) ?_
  rw [String.toList_append]
  exact hseparates.apart _

theorem undirected_parenthesized {t : String} (h : Undirected t) :
    Undirected (Shape.parenthesized t) := by
  rw [Shape.parenthesized, String.append_assoc]
  have hend : Separates ")" := by decide
  refine .behind (clean_of_all (by decide)) (h.append (.of_clean (clean_of_all (by decide))) ?_)
  simpa using hend.apart []

theorem apart_parenthesized (t : String) : Apart (Shape.parenthesized t).toList := by
  have hbegin : Separates "(" := by decide
  rw [Shape.parenthesized, String.append_assoc, String.toList_append]
  exact hbegin.apart _

theorem apart_spaced {t : String} (h : isDirective t.toList = false) : Apart (" " ++ t).toList := by
  rw [String.toList_append]
  refine apart_of_breaksWord rfl ?_
  have hgap : isDirective (" ".toList ++ t.toList) = isDirective t.toList := isDirective_gap rfl _
  rw [hgap, h]

end Quotes

/-- **A woven text has a directive behind a line break only where a raw text has one.** -/
theorem Scan.Woven.undirected {R : String → Prop} (hR : ∀ t, R t → Undirected t) {t : String}
    (h : Woven R t) : Undirected t := by
  have hspace : Clean (· ≠ '\n') " " := clean_unbroken (by decide) (by decide)
  induction h with
  | word h => exact undirected_word h
  | name h => exact .of_clean (clean_backquoted h)
  | literal h => exact undirected_literal h
  | raw h => exact hR _ h
  | clause hw hh _ ih => exact .behind (clean_unbroken hw hh.unbroken) ih
  | glued _ hg hs _ iha ihb =>
    rw [String.append_assoc]
    refine iha.append (.behind (clean_unbroken hg hs.unbroken) ihb) ?_
    rw [String.toList_append]
    exact hs.apart _
  | spaced _ _ hl iha ihb =>
    rw [String.append_assoc]
    exact iha.append (.behind hspace ihb) (apart_spaced hl.not_isDirective)
  | operated _ op _ iha ihb => exact undirected_operator iha op ihb
  | hung _ _ iha ihb => exact iha.append (undirected_parenthesized ihb) (apart_parenthesized _)

/-! ## Raw statements -/

namespace Quotes

variable {t : String}

theorem Undirected.semicolon (h : Undirected t) : Undirected (t ++ ";") := by
  have hend : Separates ";" := by decide
  exact h.append (.of_clean (clean_of_all (by decide))) (by simpa using hend.apart [])

theorem not_isDirective_semicolon (h : isDirective t.toList = false) :
    isDirective (t ++ ";").toList = false := by
  have hend : Separates ";" := by decide
  rw [String.toList_append]
  simpa using hend.apart [] _ h

/-- White space at the end of a text keeps no line of it from being a directive. -/
theorem undirected_trimEnd (h : Undirected t) (hfirst : isDirective t.toList = false) :
    Undirected (Text.trimEnd t) ∧ isDirective (Text.trimEnd t).toList = false := by
  obtain ⟨ws, hws, ht⟩ := Text.trimEndChars_eq t.toList
  have hkept : ∀ cs, isDirective (cs ++ ws) = isDirective cs := by
    intro cs
    rw [isDirective, firstWord_append_blanks cs hws, isDirective]
  have hclosed := h.closed
  have hfree := directiveFree_iff.1 h.free
  rw [ht, after_append] at hclosed
  rw [ht, hkept] at hfirst
  rw [Text.trimEnd, String.toList_ofList]
  refine ⟨⟨?_, ?_⟩, hfirst⟩
  · rw [String.toList_ofList]
    exact eq_outside_of_after hws hclosed
  · rw [String.toList_ofList, directiveFree_iff]
    intro before rest hsplit hbefore
    rw [← hkept]
    refine hfree before (rest ++ ws) ?_ hbefore
    rw [ht, hsplit, List.append_assoc, List.cons_append]

theorem undirected_trimStart (h : Undirected t) (hfirst : isDirective t.toList = false) :
    Undirected (Text.trimStart t) ∧ isDirective (Text.trimStart t).toList = false := by
  obtain ⟨ws, hws, ht⟩ := Text.trimStartChars_eq t.toList
  have hclosed := h.closed
  have hfree := h.free
  rw [ht] at hfirst hfree
  rw [ht, after_append, after_isBlank hws] at hclosed
  obtain ⟨hfirst, hfree⟩ := (directiveFree_blanks hws).1 ⟨hfirst, hfree⟩
  have htext : (Text.trimStart t).toList = Text.trimStartChars t.toList := String.toList_ofList
  exact ⟨⟨by rw [htext, hclosed], by rw [htext, hfree]⟩, by rw [htext, hfirst]⟩

/-- What is finished of a raw statement begins no directive if the statement does not. -/
theorem Undirected.finished {sql : String} (h : Undirected (Text.trimStart sql))
    (hfirst : isDirective (Text.trimStart sql).toList = false) :
    Undirected (Dialect.finished sql) ∧ isDirective (Dialect.finished sql).toList = false := by
  obtain ⟨ws, hws, hsql⟩ := Text.trimStartChars_eq sql.toList
  have hclosed := h.closed
  have hfree := h.free
  rw [Text.trimStart, String.toList_ofList] at hclosed hfree hfirst
  obtain ⟨hfirst, hfree⟩ := (directiveFree_blanks hws).2 ⟨hfirst, hfree⟩
  rw [← hsql] at hfirst hfree
  have hwhole : Undirected sql := ⟨by rw [hsql, after_append, after_isBlank hws, hclosed], hfree⟩
  obtain ⟨htrimmed, hfirst⟩ := undirected_trimEnd hwhole hfirst
  unfold Dialect.finished
  split
  · exact ⟨htrimmed, hfirst⟩
  · exact ⟨htrimmed.semicolon, not_isDirective_semicolon hfirst⟩

theorem after_spaces {p : Place} (hp : ∀ q, p ≠ .escaped q) {pad : List Char}
    (hpad : ∀ c ∈ pad, c = ' ') : after p pad = p := by
  induction pad with
  | nil => rfl
  | cons c pad ih =>
    have hstep : step p ' ' = p := by
      cases p with
      | outside => rfl
      | within q => cases q <;> rfl
      | escaped q => exact absurd rfl (hp q)
    show after (step p c) pad = p
    rw [hpad c List.mem_cons_self, hstep]
    exact ih fun d hd => hpad d (List.mem_cons_of_mem _ hd)

/-- No reader stands behind a backslash at the start of a line. -/
theorem step_break_ne_escaped (p : Place) (q : Quote) : step p '\n' ≠ .escaped q := by
  cases p with
  | outside => nofun
  | within r => cases r <;> nofun
  | escaped r => nofun

/-- Spaces in front of the lines of a text make no line a directive that was none. -/
theorem linesFree_padded {pad : List Char} (hpad : ∀ c ∈ pad, c = ' ') {p : Place}
    (hp : ∀ q, p ≠ .escaped q) {ls : List (List Char)} (hne : ls ≠ []) (hls : ∀ l ∈ ls, '\n' ∉ l)
    (hfirst : p = .outside → isDirective (Text.joinChars '\n' ls) = false)
    (hfree : directiveFree p (Text.joinChars '\n' ls) = true) :
    linesFree p (ls.map fun l => if l.isEmpty then l else pad ++ l) = true ∧
      afterLines p (ls.map fun l => if l.isEmpty then l else pad ++ l)
        = step (after p (Text.joinChars '\n' ls)) '\n' := by
  have hgaps : ∀ c ∈ pad, isGap c = true := by
    intro c hc
    rw [hpad c hc]
    rfl
  have hafter : ∀ {p : Place}, (∀ q, p ≠ .escaped q) → ∀ l : List Char,
      after p (if l.isEmpty then l else pad ++ l) = after p l := by
    intro p hp l
    split
    · rfl
    · rw [after_append, after_spaces hp hpad]
  have hdirective : ∀ l : List Char,
      isDirective (if l.isEmpty then l else pad ++ l) = isDirective l := by
    intro l
    split
    · rfl
    · exact isDirective_gaps hgaps l
  have hunbroken : ∀ {l : List Char}, '\n' ∉ l → '\n' ∉ if l.isEmpty then l else pad ++ l := by
    intro l hl
    split
    · exact hl
    · intro hmem
      rcases List.mem_append.1 hmem with hmem | hmem
      · exact absurd (hpad _ hmem) (by decide)
      · exact hl hmem
  induction ls generalizing p with
  | nil => exact absurd rfl hne
  | cons l ls ih =>
    have hl := hunbroken (hls l List.mem_cons_self)
    cases ls with
    | nil =>
      have hfirst : p = .outside → isDirective l = false := hfirst
      simp only [List.map_cons, List.map_nil, linesFree, afterLines, hafter hp, hdirective,
        directiveFree_of_unbroken hl, Bool.and_true, Text.joinChars, and_true]
      simpa using Decidable.imp_iff_not_or.1 hfirst
    | cons l' ls =>
      rw [Text.joinChars] at hfirst hfree ⊢
      have hrest := directiveFree_suffix hfree
      rw [directiveFree, Bool.and_eq_true] at hrest
      have hnext : step (after p l) '\n' = .outside →
          isDirective (Text.joinChars '\n' (l' :: ls)) = false := by
        intro hplace
        have hplace := eq_outside_of_step (by decide) hplace
        simpa [hplace] using hrest.1
      obtain ⟨hfree', hafter'⟩ := ih (step_break_ne_escaped _) (List.cons_ne_nil _ _)
        (fun l hl => hls l (List.mem_cons_of_mem _ hl)) hnext hrest.2
      have hfirst : p = .outside → isDirective l = false := by
        intro h
        have hl := hfirst h
        rwa [isDirective, firstWord_append_break] at hl
      rw [List.map_cons, linesFree, afterLines, hafter hp, hdirective,
        directiveFree_of_unbroken hl, hfree', hafter', after_append]
      refine ⟨?_, rfl⟩
      simpa using Decidable.imp_iff_not_or.1 hfirst

end Quotes

/-! ## Rows -/

section
variable {r : Row} {i : Nat}

/-- The indent is nothing to a row. -/
theorem Row.lined_iff : Lined [(r.text i).toList] ↔
    Undirected r.said ∧ isDirective r.said.toList = false := by
  have hblank : ∀ c ∈ List.replicate (i * r.level) ' ', Text.isBlank c = true := by
    intro c hc
    rw [List.eq_of_mem_replicate hc]
    rfl
  rw [lined_singleton, Row.text, Dialect.spaces, String.toList_append, String.toList_ofList,
    after_append, after_isBlank hblank, ← and_assoc, directiveFree_blanks hblank]
  exact ⟨fun h => ⟨⟨h.2, h.1.2⟩, h.1.1⟩, fun h => ⟨⟨h.2, h.1.free⟩, h.1.closed⟩⟩

theorem Row.said_undirected (h : Undirected r.content)
    (hfirst : isDirective r.content.toList = false) :
    Undirected r.said ∧ isDirective r.said.toList = false := by
  rw [Row.said_eq]
  split
  · exact ⟨h.semicolon, not_isDirective_semicolon hfirst⟩
  · exact ⟨h, hfirst⟩

end

theorem Row.lines_ofRaw (i level : Nat) (sql : String) :
    (Row.ofRaw level sql).map (fun r => (r.text i).toList)
      = (Text.splitChars '\n' (Dialect.finished sql).toList).map fun l =>
        if l.isEmpty then l else List.replicate (i * level) ' ' ++ l := by
  rw [Row.ofRaw, List.map_map, Text.splitAll, List.map_map]
  refine List.map_congr_left fun l _ => ?_
  have hempty : (String.ofList l).isEmpty = l.isEmpty := by
    cases l <;> simp [String.isEmpty_iff]
  simp only [Function.comp_apply, Row.text, Row.said_eq, Dialect.spaces, String.toList_append,
    String.toList_ofList, hempty]
  split <;> simp

theorem Row.lined_ofRaw (i level : Nat) {sql : String} (h : Undirected (Text.trimStart sql))
    (hfirst : isDirective (Text.trimStart sql).toList = false) :
    Lined ((Row.ofRaw level sql).map fun r => (r.text i).toList) := by
  obtain ⟨hfinished, hfirst⟩ := h.finished hfirst
  have hjoin := Text.joinChars_splitChars '\n' (Dialect.finished sql).toList
  have hpad : ∀ c ∈ List.replicate (i * level) ' ', c = ' ' :=
    fun c hc => List.eq_of_mem_replicate hc
  obtain ⟨hfree, hafter⟩ := linesFree_padded hpad (p := .outside) nofun
    (Text.splitChars_ne_nil '\n' (Dialect.finished sql).toList)
    (fun l hl => Text.not_mem_of_mem_splitChars hl) (fun _ => by rw [hjoin]; exact hfirst)
    (by rw [hjoin]; exact hfinished.free)
  rw [Row.lines_ofRaw]
  refine ⟨hfree, hafter.trans ?_⟩
  rw [hjoin, hfinished.closed]
  rfl

/-! ## Statements -/

/-- Whether a statement begins no line that is a directive. -/
structure Statement.IsUndirected (s : Statement) : Prop where
  first : ∀ sql, s = .raw sql → isDirective (Text.trimStart sql).toList = false
  label : ∀ l, s.label? = some l → Text.upper l ≠ "DELIMITER\n"

theorem not_isDirective_label {l : String} (hplain : Identifier.isPlain l = true)
    (hl : Text.upper l ≠ "DELIMITER\n") (t : String) :
    isDirective (l ++ ": " ++ t).toList = false := by
  rw [isDirective, beq_eq_false_iff_ne]
  have hword : ∀ {w : String}, Identifier.isWord w = true →
      w.toList ≠ [] ∧ ∀ c ∈ w.toList, Text.isBlank c = false := by
    intro w hw
    obtain ⟨hne, hparts⟩ := Identifier.isPart_of_isWord hw
    exact ⟨hne, fun c hc => Identifier.isBlank_of_isPart (hparts c hc)⟩
  rcases Identifier.isPlain_iff.1 hplain with hw | ⟨w, hw, rfl⟩
  · -- the colon belongs to the first word
    obtain ⟨-, hblank⟩ := hword hw
    have hlist : (l ++ ": " ++ t).toList = (l.toList ++ [':']) ++ ' ' :: t.toList := by simp
    have hcolon : ∀ c ∈ l.toList ++ [':'], Text.isBlank c = false :=
      List.forall_mem_append.2 ⟨hblank, List.forall_mem_singleton.2 (by decide)⟩
    rw [hlist, firstWord_word (by simp) hcolon (by decide), List.flatMap_append]
    intro he
    have hmem : ':' ∈ directiveWord := by
      rw [← he]
      exact List.mem_append_right _ (by decide)
    exact absurd hmem (by decide)
  · obtain ⟨hne, hblank⟩ := hword hw
    have hlist : (w ++ "\n" ++ ": " ++ t).toList = w.toList ++ '\n' :: (": " ++ t).toList := by simp
    rw [hlist, firstWord_word hne hblank (by decide)]
    intro he
    refine hl ?_
    rw [Text.upper, String.toList_append, List.flatMap_append, he]
    rfl

theorem Scan.Head.not_isDirective {R : String → Prop} {ss : List Statement} {t : String}
    (h : Head R ss t) (hss : ∀ s ∈ ss, s.IsUndirected) : isDirective t.toList = false := by
  cases h with
  | led h => exact h.leads.begins.not_isDirective
  | labelled hs hl hplain _ => exact not_isDirective_label hplain ((hss _ hs).label _ hl) _

/-- **Rows are no directives**, if raw texts bring none along and raw statements begin with none. -/
theorem layout_lined {R : String → Prop} (hR : ∀ t, R t → Undirected t) {r : RawRule}
    (hr : ∀ sql, r.statement sql = true → Undirected (Text.trimStart sql)) :
    Layout R r fun ss rows => (∀ s ∈ ss, s.IsUndirected) →
      ∀ i, Lined (rows.map fun row => (row.text i).toList) where
  nil _ _ := .nil
  append h h' hss i := by
    rw [List.map_append]
    exact (h (fun s hs => hss s (List.mem_append_left _ hs)) i).append
      (h' (fun s hs => hss s (List.mem_append_right _ hs)) i)
  headed level ht h hss i := by
    refine .cons (Row.lined_iff.2 ?_) (h hss i)
    exact Row.said_undirected (ht.woven.undirected hR) (ht.not_isDirective hss)
  ended level _ h ht hss i := by
    rw [List.map_append]
    refine (h (fun s hs => hss s (List.mem_cons_of_mem _ hs)) i).append (Row.lined_iff.2 ?_)
    exact Row.said_undirected (ht.woven.undirected hR) ht.leads.begins.not_isDirective
  hung {ss rows t} level action conditions body ht h hss i := by
    have hrows := h (fun s hs => hss s (List.mem_cons_of_mem _ hs)) i
    have ht' := ht.woven.undirected hR
    have hfirst := ht.leads.begins.not_isDirective
    match rows with
    | [] => exact Row.lined_iff.2 (Row.said_undirected ht' hfirst)
    | [row] =>
      obtain ⟨hrow, hdirective⟩ := Row.lined_iff.1 hrows
      obtain ⟨hsaid, hdirective⟩ := undirected_trimStart hrow hdirective
      have htext : (⟨level, t ++ " " ++ Text.trimStart row.content, row.ended⟩ : Row).said
          = t ++ (" " ++ Text.trimStart row.said) := by
        rw [Row.said_eq, Row.said_eq]
        cases row.ended
        · exact String.append_assoc
        · simp [Text.trimStart_append_semicolon, String.append_assoc]
      have hspace : Undirected (" " ++ Text.trimStart row.said) :=
        .behind (clean_unbroken (by decide) (by decide)) hsaid
      refine Row.lined_iff.2 ?_
      rw [htext]
      refine ⟨ht'.append hspace (apart_spaced hdirective), ?_⟩
      exact (ht.leads.append _).begins.not_isDirective
    | _ :: _ :: _ =>
      exact .cons (Row.lined_iff.2 (Row.said_undirected ht' hfirst)) hrows
  empty _ i := Row.lined_iff.2 (Row.said_undirected (undirected_word (by decide)) rfl)
  raw level h hss i := Row.lined_ofRaw i level (hr _ h)
    ((hss _ (List.mem_singleton_self _)).first _ rfl)

/-! ## Blocks -/

/-- Raw texts that close their quotes and have no directive behind a line break outside of them.
What a raw statement begins with does not count, nor does a change of the delimiter. -/
def RawRule.undirected : RawRule where
  fragment t := isClosed t && directiveFree .outside t.toList
  statement sql :=
    isClosed (Text.trimStart sql) && directiveFree .outside (Text.trimStart sql).toList
  directive := true

theorem undirected_of_rule {t : String}
    (h : (isClosed t && directiveFree .outside t.toList) = true) : Undirected t :=
  ⟨of_decide_eq_true (Bool.and_eq_true_iff.1 h).1, (Bool.and_eq_true_iff.1 h).2⟩

/-- Whether no line of a text that begins outside quotes is a directive. -/
def NoDirectives (t : String) : Prop :=
  ∀ before line, t.toList = before ++ line → (before = [] ∨ before.getLast? = some '\n') →
    after .outside before = .outside → isDirective line = false

theorem noDirectives_joinWith {ls : List String}
    (h : linesFree .outside (ls.map String.toList) = true) :
    NoDirectives (Text.joinWith "\n" ls) := by
  obtain ⟨hfirst, hfree⟩ := directiveFree_joinWith h
  rintro before line htext (rfl | hbreak) hbefore
  · rw [List.nil_append] at htext
    rw [← htext]
    exact hfirst rfl
  · obtain ⟨before, rfl⟩ := List.getLast?_eq_some_iff.1 hbreak
    rw [after_append] at hbefore
    rw [List.append_assoc, List.singleton_append] at htext
    exact directiveFree_iff.1 hfree before line htext (eq_outside_of_step (by decide) hbefore)

/-- The lines of a block are no directives. -/
theorem Dialect.blockLines_undirected {d : Dialect} (hd : d.kind.complete = true) {b : Block}
    (hb : b.rawAll .undirected = true) (hnodes : ∀ s ∈ (Statement.block b).nodes, s.IsUndirected)
    {terminator : String} (hbreak : '\n' ∉ terminator.toList) {ls : List String}
    (h : d.blockLines 0 terminator b = .ok ls) : NoDirectives (Text.joinWith "\n" ls) := by
  obtain ⟨statements, label, scope⟩ := b
  have hlayout : Layout Undirected .undirected fun ss rows => (∀ s ∈ ss, s.IsUndirected) →
      ∀ i, Lined (rows.map fun row => (row.text i).toList) :=
    layout_lined (fun _ h => h) fun _ => undirected_of_rule
  obtain ⟨head, body, hhead, hbody, rfl⟩ := blockLines_eq_ok.1 h
  rw [Block.rawAll] at hb
  obtain ⟨rows, hrows, rfl⟩ := (laid_bodyLines hd (fun _ => undirected_of_rule) hlayout
    (fun _ _ => trivial) hb (.any _) fun _ => by decide).of_ok d.indent hbody
  have hhead : Scan.Head Undirected [.block ⟨statements, label, scope⟩] head :=
    (Scan.head_labelled (.block ⟨statements, label, scope⟩) []
      (.word (by decide) (by decide))).of_ok hhead
  have hrows : Lined ((rows.map (Row.text d.indent)).map String.toList) := by
    rw [List.map_map]
    exact hrows (fun s hs => hnodes s (List.mem_cons_of_mem _ hs)) d.indent
  have hfirst : Lined [head.toList] := lined_singleton.2 ⟨hhead.not_isDirective
    (List.forall_mem_singleton.2 (hnodes _ List.mem_cons_self)),
    (hhead.woven.undirected fun _ h => h).free, (hhead.woven.undirected fun _ h => h).closed⟩
  have hpad : d.pad 0 = "" := by simp [Dialect.pad, Dialect.spaces]
  refine noDirectives_joinWith ?_
  rw [hpad, String.empty_append, String.empty_append, List.map_cons, List.map_append,
    ← List.singleton_append, ← List.append_assoc, linesFree_append, (hfirst.append hrows).closed]
  refine ⟨(hfirst.append hrows).free, ?_⟩
  -- nothing is behind the last line, so that it may leave quotes open
  have hend : Heads "END" := by decide
  have hlast : '\n' ∉ ("END" ++ terminator).toList := by
    rw [String.toList_append, List.mem_append]
    exact not_or_intro (by decide) hbreak
  have hdirective : isDirective ("END" ++ terminator).toList = false := by
    rw [String.toList_append]
    exact not_isDirective_of_isFirm hend.firm _
  rw [List.map_singleton, linesFree, hdirective, directiveFree_of_unbroken hlast]
  rfl

/-! ## Programs -/

/-- Whether a statement is no directive and begins with none. -/
structure Statement.LeavesDelimiter (s : Statement) : Prop where
  kind : ∀ text, s ≠ .delimiter text
  first : ∀ sql, s = .raw sql → isDirective (Text.trimStart sql).toList = false

/-- A text begins with its first word, but for white space. -/
theorem firstWord_trimStart (sql : String) :
    firstWord (Text.trimStart sql).toList <+: (Text.trimStart sql).toList := by
  rw [Text.trimStart, String.toList_ofList, Text.trimStartChars, firstWord]
  cases htrimmed : sql.toList.dropWhile Text.isBlank with
  | nil => exact List.prefix_rfl
  | cons c cs =>
    have hc := List.head_dropWhile_not Text.isBlank (l := sql.toList) (by simp [htrimmed])
    simp only [htrimmed, List.head_cons] at hc
    rw [List.dropWhile_cons_of_neg (by simp [isGap, hc])]
    exact List.takeWhile_prefix _

/-- A raw statement that passes its check begins with no directive. -/
theorem Check.not_isDirective_of_rawText {sql : String} {c c' : Checker} {u : Unit}
    (h : rawText sql c = (.ok u, c')) : isDirective (Text.trimStart sql).toList = false := by
  unfold rawText at h
  split at h
  · cases h
  · rename_i hstart
    rw [isDirective, beq_eq_false_iff_ne]
    intro he
    refine hstart (Text.startsWithChars_iff.2 ?_)
    obtain ⟨rest, hrest⟩ := firstWord_trimStart sql
    have hupper : (Text.upper (Text.trimStart sql)).toList
        = directiveWord ++ rest.flatMap Text.upperChar := by
      rw [Text.upper, String.toList_ofList, ← hrest, List.flatMap_append, he]
    exact ⟨_, hupper.symm⟩

theorem leavesDelimiter_ensured : Ensured fun _ => Statement.LeavesDelimiter where
  leaf {c c' s} _ h := by
    constructor
    · rintro text rfl
      cases h
    · rintro sql rfl
      rw [Statement.check, noteStatement_bind] at h
      obtain ⟨_, _, hraw, _⟩ := bind_ok.1 h
      exact Check.not_isDirective_of_rawText hraw
  holder {P c s kind} h := by
    have hkind := h.kind
    constructor
    · rintro text rfl
      cases hkind
    · rintro sql rfl
      cases hkind

/-- **No directive reaches the body of a program**, whatever calls have failed on the way: no
statement of it at any depth is one, and no line of it that begins outside quotes, as long as raw
texts close their quotes and have none behind a line break outside of them, and as no label is the
word with a line end behind it. -/
theorem built_without_directives {head : ProgramHead} {label : Operand} {stem : String}
    {b b' : Builder} {p : Program} (calls : List Call)
    (hb : Builder.start head label stem = .ok b) (hbuild : (b.run calls).build = (.ok p, b')) :
    (Statement.block p.body).Everywhere (fun s => ∀ text, s ≠ .delimiter text) ∧
      ∀ {d : Dialect} {terminator : String} {ls : List String}, d.kind.complete = true →
        '\n' ∉ terminator.toList → p.body.rawAll .undirected = true →
        (∀ s ∈ (Statement.block p.body).nodes, ∀ l, s.label? = some l →
          Text.upper l ≠ "DELIMITER\n") →
        d.blockLines 0 terminator p.body = .ok ls → NoDirectives (Text.joinWith "\n" ls) := by
  have hleaves := Program.everywhere leavesDelimiter_ensured calls hb hbuild
  refine ⟨fun _ _ hs => (hleaves hs).kind, fun hd hbreak hraw hlabels hls => ?_⟩
  refine Dialect.blockLines_undirected hd hraw (fun s hs => ?_) hbreak hls
  exact ⟨(hleaves.nodes s hs).first, hlabels s hs⟩

/-- Calls for a handler that a directive fails in, and for raw statements that have the word within
quotes and behind another one. -/
def quotedDirective : List Call := [
  .openHandler (.text "EXIT") [.sqlException],
  .raw "\n  Delimiter //",
  .raw "SET @c =\n  1",
  .endHandler,
  .raw "SET @a = 'x\ndelimiter y';\nSET @b = 'delimiter'"]

/-- The block that is built with the calls. -/
def quotedDirectiveText : String :=
  Text.joinWith "\n" ["BEGIN", "  DECLARE EXIT HANDLER FOR SQLEXCEPTION", "    BEGIN",
    "      SET @c =", "        1;", "    END;", "  SET @a = 'x", "  delimiter y';",
    "  SET @b = 'delimiter';", "END;"]

/-- None of its lines is a directive, as the only one that begins with the word is within quotes. -/
theorem quotedDirective_undirected : ∃ b p b' ls,
    Builder.start .block (.value .null) Builder.usualStem = .ok b ∧
      (b.run quotedDirective).build = (.ok p, b') ∧
      Dialect.blockLines {} 0 ";" p.body = .ok ls ∧ Text.joinWith "\n" ls = quotedDirectiveText ∧
      (Statement.block p.body).Everywhere (fun s => ∀ text, s ≠ .delimiter text) ∧
      NoDirectives quotedDirectiveText := by
  have hshape : ((emptyBuilder.run quotedDirective).build.1.toOption.any fun p =>
      (p.body.rawAll .undirected && (Statement.block p.body).nodes.all fun s =>
          s.label?.all fun l => Text.upper l != "DELIMITER\n")
        && (Dialect.blockLines {} 0 ";" p.body).toOption.any fun ls =>
          Text.joinWith "\n" ls == quotedDirectiveText) = true := by decide +kernel
  rcases hbuild : (emptyBuilder.run quotedDirective).build with ⟨e | p, b'⟩
  · rw [hbuild] at hshape
    cases hshape
  rcases hlines : Dialect.blockLines {} 0 ";" p.body with e | ls
  · simp [hbuild, hlines, Except.toOption] at hshape
  simp only [hbuild, hlines, Except.toOption, Option.any_some, Bool.and_eq_true, beq_iff_eq]
    at hshape
  obtain ⟨⟨hraw, hlabels⟩, htext⟩ := hshape
  have hstart : Builder.start .block (.value .null) Builder.usualStem = .ok emptyBuilder := rfl
  obtain ⟨hkinds, hfree⟩ := built_without_directives quotedDirective hstart hbuild
  refine ⟨emptyBuilder, p, b', ls, hstart, hbuild, hlines, htext, hkinds, ?_⟩
  rw [← htext]
  refine hfree rfl (by decide) hraw (fun s hs l hl => ?_) hlines
  have hlabel := List.all_eq_true.1 hlabels s hs
  rw [hl] at hlabel
  simpa using hlabel

/-- A raw statement with a directive on a line of its own. -/
def directiveBehind : String := "SET @a = 1;\nDELIMITER //"

/-- The block that is built with it has the directive. -/
theorem directiveBehind_rendered : ∃ b p b',
    Builder.start .block (.value .null) Builder.usualStem = .ok emptyBuilder ∧
      emptyBuilder.runAll [.raw directiveBehind] = (.ok (), b) ∧ b.build = (.ok p, b') ∧
      Dialect.renderBlock {} p.body ";" = .ok "BEGIN\n  SET @a = 1;\n  DELIMITER //;\nEND;" ∧
      ¬ NoDirectives "BEGIN\n  SET @a = 1;\n  DELIMITER //;\nEND;" := by
  have hcalled : (emptyBuilder.runAll [.raw directiveBehind]).1.isOk = true := by decide +kernel
  have hshape : ((emptyBuilder.runAll [.raw directiveBehind]).2.build.1.toOption.any fun p =>
      (Dialect.renderBlock {} p.body ";").toOption
        == some "BEGIN\n  SET @a = 1;\n  DELIMITER //;\nEND;") = true := by decide +kernel
  rcases hcalls : emptyBuilder.runAll [.raw directiveBehind] with ⟨e | u, b⟩
  · rw [hcalls] at hcalled
    cases hcalled
  rw [hcalls] at hshape
  rcases hbuild : b.build with ⟨e | p, b'⟩
  · rw [hbuild] at hshape
    cases hshape
  rw [hbuild] at hshape
  refine ⟨b, p, b', rfl, rfl, hbuild, eq_ok_of_toOption (beq_iff_eq.1 hshape), fun hnone => ?_⟩
  have hline := hnone "BEGIN\n  SET @a = 1;\n".toList "  DELIMITER //;\nEND;".toList (by decide)
    (.inr (by decide)) (by decide)
  exact absurd hline (by decide)

end StoredSql
