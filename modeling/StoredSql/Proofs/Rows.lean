import StoredSql.Proofs.StatementStrands

/-!
# The rows of statements

A line of a statement is a row: how deep it stands, what it says, and whether a semicolon ends its
statement there. The indent of the dialect only decides how many spaces stand in front of it, so a
statement has the same rows with every indent (`Laid`).

What holds of the rows of a tree is found by closing it under the ways in which rows are put
together (`Layout`), a clause for each of them. The walk along the mutual recursion of the lines is
made here once (`laid_lines` and the theorems beside it); each reading of rows only has to show its
clauses.
-/

namespace StoredSql

open Outcome Scan

/-! ## Dialects that differ in their indent -/

/-- The dialect with another indent. -/
def Dialect.indented (d : Dialect) (indent : Nat) : Dialect := { d with indent := indent }

/-- Only lines are indented: the texts in them do not depend on the indent. -/
theorem Dialect.indented_texts (d : Dialect) (i : Nat) :
    (d.indented i).identifier = d.identifier
      ∧ (d.indented i).qualifiedName = d.qualifiedName
      ∧ (d.indented i).variableName = d.variableName
      ∧ (d.indented i).conditionValueText = d.conditionValueText
      ∧ exprText (d.indented i) = exprText d
      ∧ conditionText (d.indented i) = conditionText d
      ∧ selectText (d.indented i) = selectText d
      ∧ (d.indented i).insertText = d.insertText
      ∧ (d.indented i).assignmentText = d.assignmentText
      ∧ (d.indented i).whenText = d.whenText
      ∧ (d.indented i).callText = d.callText
      ∧ (d.indented i).signalText = d.signalText
      ∧ (d.indented i).declareText = d.declareText := by
  have hexpr : exprText (d.indented i) = exprText d := by delta exprText; rfl
  have hexprs : exprTexts (d.indented i) = exprTexts d := by delta exprTexts; rfl
  have hcondition : conditionText (d.indented i) = conditionText d := by delta conditionText; rfl
  have hselect : selectText (d.indented i) = selectText d := by delta selectText; rfl
  refine ⟨rfl, rfl, rfl, rfl, hexpr, hcondition, hselect, ?_, ?_, ?_, ?_, ?_, ?_⟩
  · funext q
    have hrow : (d.indented i).rowText = d.rowText := by
      funext row
      rw [rowText, hexprs, rowText]
    have hrows : (d.indented i).newRowsText = d.newRowsText := by
      funext q
      rw [newRowsText, hselect, hrow, newRowsText]
    have hupdate : (d.indented i).updateText = d.updateText := by
      funext u
      rw [updateText, hexpr, updateText]
      rfl
    rw [insertText, hrows, hupdate, insertText]
    rfl
  · funext a
    rw [assignmentText, hexpr, assignmentText]
    rfl
  · funext searched test
    unfold whenText
    cases searched <;> cases test <;> simp only [hexpr, hcondition]
  · funext name args terminator
    rw [callText, hexprs, callText]
    rfl
  · funext condition message number
    unfold signalText
    cases message <;> simp only [hexpr] <;> rfl
  · funext names type initial
    unfold declareText
    cases initial <;> simp only [hexpr] <;> rfl

/-- A block has its head, the lines of its statements and its last word. -/
theorem Dialect.blockLines_eq_ok {d : Dialect} {depth : Int} {terminator : String}
    {statements : List Statement} {label : Option String} {scope : Option ScopeView}
    {ls : List String} : d.blockLines depth terminator ⟨statements, label, scope⟩ = .ok ls ↔
      ∃ head body, labelled label "BEGIN" = .ok head ∧
        d.bodyLines (depth + 1) statements = .ok body ∧
        ls = (d.pad depth ++ head) :: (body ++ [d.pad depth ++ "END" ++ terminator]) := by
  simp only [blockLines, bind_eq_ok, pure_eq_ok]
  constructor
  · rintro ⟨head, hhead, body, hbody, rfl⟩
    exact ⟨head, body, hhead, hbody, rfl⟩
  · rintro ⟨head, body, hhead, hbody, rfl⟩
    exact ⟨head, hhead, body, hbody, rfl⟩

/-- A case has its head, the lines of its arms and its last words. -/
theorem Dialect.lines_cases_eq_ok {d : Dialect} {depth : Int} {operand : Option Expr}
    {whens : List CaseWhen} {otherwise : Option (List Statement)} {ls : List String}
    (h : d.lines depth (.cases operand whens otherwise) = .ok ls) :
    ∃ head rows others, d.whenLines depth operand.isNone whens = .ok rows ∧
      d.elseLines (depth + 1) (depth + 2) otherwise = .ok others ∧
      ls = (d.pad depth ++ head) :: (rows ++ others ++ [d.pad depth ++ "END CASE;"]) := by
  cases operand <;> simp only [lines, bind_eq_ok, pure_eq_ok] at h
  case none =>
    obtain ⟨_, rfl, rows, hrows, others, hothers, rfl⟩ := h
    exact ⟨_, rows, others, hrows, hothers, rfl⟩
  case some e =>
    obtain ⟨test, _, _, rfl, rows, hrows, others, hothers, rfl⟩ := h
    exact ⟨_, rows, others, hrows, hothers, rfl⟩

/-! ## Rows -/

/-- A line of a statement. -/
structure Row where
  level : Nat
  content : String
  ended : Bool

namespace Row

/-- What a row says, with its semicolon if it has one. -/
def said (r : Row) : String := r.content ++ if r.ended then ";" else ""

theorem said_eq (r : Row) : r.said = if r.ended then r.content ++ ";" else r.content := by
  rw [said]
  split
  · rfl
  · exact String.append_empty

/-- The line that a row is with an indent. -/
def text (indent : Nat) (r : Row) : String := Dialect.spaces (indent * r.level) ++ r.said

/-- The rows of a handler: what it does follows on its row if that is one row. -/
def hung (header : String) (level : Nat) : List Row → List Row
  | [r] => [⟨level, header ++ " " ++ Text.trimStart r.content, r.ended⟩]
  | rows => ⟨level, header, false⟩ :: rows

end Row

/-- A statement that is given as a text, without white space at its end and with a semicolon
there. -/
def Dialect.finished (sql : String) : String :=
  if (Text.trimEnd sql).endsWith ";" then Text.trimEnd sql else Text.trimEnd sql ++ ";"

/-- The rows of a statement that is given as a text. -/
def Row.ofRaw (level : Nat) (sql : String) : List Row :=
  (Text.splitAll '\n' (Dialect.finished sql)).map fun line =>
    ⟨if line.isEmpty then 0 else level, line, false⟩

/-- Whether a statement ends in a semicolon of its own. A handler ends in that of what it does; raw
statements and changes of the delimiter end as they are written. -/
def Statement.isTerminated : Statement → Bool
  | .declareHandler .. => false
  | .raw _ => false
  | .empty => false
  | .delimiter _ => false
  | .foreign _ => false
  | _ => true

theorem Row.rawLines_eq (i level : Nat) (sql : String) :
    Dialect.rawLines (Dialect.spaces (i * level)) sql = (Row.ofRaw level sql).map (Row.text i) := by
  rw [Row.ofRaw, List.map_map]
  refine List.map_congr_left fun line _ => ?_
  show _ = Dialect.spaces (i * if line.isEmpty then 0 else level) ++ (line ++ "")
  rw [String.append_empty]
  cases line.isEmpty
  · rfl
  · exact String.empty_append.symm

theorem Text.trimStart_spaces_append (n : Nat) (t : String) :
    trimStart (Dialect.spaces n ++ t) = trimStart t := by
  have hblank : ∀ c ∈ List.replicate n ' ', isBlank c = true := by
    intro c hc
    rw [List.eq_of_mem_replicate hc]
    rfl
  rw [trimStart, trimStart, trimStartChars, trimStartChars, Dialect.spaces, String.toList_append,
    String.toList_ofList, List.dropWhile_append_of_pos hblank]

/-- The semicolon of a row is no white space. -/
theorem Text.trimStart_append_semicolon (t : String) :
    trimStart (t ++ ";") = trimStart t ++ ";" := by
  have hend : ([';'] : List Char).dropWhile isBlank = [';'] := by decide
  have hlist : (t ++ ";").toList = t.toList ++ [';'] := by simp
  rw [trimStart, trimStart, trimStartChars, trimStartChars, hlist, List.dropWhile_append, hend]
  split
  · rename_i h
    rw [List.isEmpty_iff.1 h]
    rfl
  · rw [String.ofList_append]

theorem Row.handlerLines_eq (i level : Nat) (header : String) (rows : List Row) :
    Dialect.handlerLines (Dialect.spaces (i * level) ++ header) (rows.map (Row.text i))
      = (Row.hung header level rows).map (Row.text i) := by
  match rows with
  | [] => simp [Dialect.handlerLines, Row.hung, Row.text, Row.said]
  | [⟨l, content, ended⟩] =>
    cases ended <;>
      simp [Dialect.handlerLines, Row.hung, Row.text, Row.said, Text.trimStart_spaces_append,
        Text.trimStart_append_semicolon, String.append_assoc]
  | r :: r' :: rest => simp [Dialect.handlerLines, Row.hung, Row.text, Row.said]

/-! ## The same rows with every indent -/

/-- Lines that are the same rows with every indent, or fail with the same error. -/
def Laid (W : List Row → Prop) (E : Error → Prop) (f : Nat → Except Error (List String)) : Prop :=
  ∃ x : Except Error (List Row), Yields W E x ∧ ∀ i, f i = x.map (List.map (Row.text i))

namespace Laid

variable {α : Type} {Q : α → Prop} {W W' : List Row → Prop} {E : Error → Prop}

theorem rows {f : Nat → Except Error (List String)} (rows : List Row) (h : W rows)
    (hf : ∀ i, f i = .ok (rows.map (Row.text i))) : Laid W E f := ⟨.ok rows, h, hf⟩

theorem fail {e : Error} (h : E e) : Laid W E fun _ => .error e := ⟨.error e, h, fun _ => rfl⟩

/-- A step without lines. -/
theorem step {E' : Error → Prop} {x : Except Error α} {g : α → Nat → Except Error (List String)}
    (hE : ∀ e, E' e → E e) (hx : Yields Q E' x) (h : ∀ a, Q a → Laid W E (g a)) :
    Laid W E fun i => x >>= fun a => g a i := by
  cases x with
  | ok a => exact h a hx
  | error e => exact fail (hE e hx)

/-- Lines that further ones are made of. -/
theorem bind {f : Nat → Except Error (List String)}
    {g : List String → Nat → Except Error (List String)} (hf : Laid W E f)
    (h : ∀ rows, W rows → Laid W' E fun i => g (rows.map (Row.text i)) i) :
    Laid W' E fun i => f i >>= fun ls => g ls i := by
  obtain ⟨x, hx, hf⟩ := hf
  cases x with
  | ok rows =>
    obtain ⟨y, hy, hg⟩ := h rows hx
    exact ⟨y, hy, fun i => by dsimp only; rw [hf i]; exact hg i⟩
  | error e => exact ⟨.error e, hx, fun i => by dsimp only; rw [hf i]; rfl⟩

theorem of_ok {f : Nat → Except Error (List String)} (h : Laid W E f) (i : Nat) {ls : List String}
    (hls : f i = .ok ls) : ∃ rows, W rows ∧ ls = rows.map (Row.text i) := by
  obtain ⟨x, hx, hf⟩ := h
  obtain ⟨rows, rfl, rfl⟩ := map_eq_ok.1 ((hf i).symm.trans hls)
  exact ⟨rows, hx, rfl⟩

theorem yields {f : Nat → Except Error (List String)} (h : Laid W E f) (i : Nat) :
    Yields (fun _ => True) E (f i) := by
  obtain ⟨x, hx, hf⟩ := h
  rw [hf i]
  exact hx.map fun _ _ => trivial

end Laid

/-! ## The walk -/

/-- Whether the labels of statements, and those that are left or iterated, fail in one way only. -/
def LabelsFail (E : Error → Prop) (ss : List Statement) : Prop :=
  ∀ s ∈ ss, ∀ l, s.Names l → ∀ e, Identifier.checkLabel l = .error e → E e

namespace LabelsFail

variable {E : Error → Prop} {s : Statement} {ss ss' : List Statement}

/-- Where errors do not matter, labels may fail in any way. -/
theorem any (ss : List Statement) : LabelsFail (fun _ => True) ss := fun _ _ _ _ _ _ => trivial

theorem head (h : LabelsFail E (s :: ss)) (e : Error) :
    (∃ l, s.label? = some l ∧ Identifier.checkLabel l = .error e) → E e := by
  rintro ⟨l, hl, he⟩
  exact h s List.mem_cons_self l (.label hl) e he

theorem tail (h : LabelsFail E (s :: ss)) : LabelsFail E ss :=
  fun t ht => h t (List.mem_cons_of_mem _ ht)

theorem left (h : LabelsFail E (ss ++ ss')) : LabelsFail E ss :=
  fun t ht => h t (List.mem_append_left _ ht)

theorem right (h : LabelsFail E (ss ++ ss')) : LabelsFail E ss' :=
  fun t ht => h t (List.mem_append_right _ ht)

end LabelsFail

/-- What holds of the rows of statements, closed under the ways in which they are put together. `R`
tells which texts stand in the place of expressions, `r` which ones in the place of statements. -/
structure Layout (R : String → Prop) (r : RawRule) (W : List Statement → List Row → Prop) :
    Prop where
  nil : W [] []
  append {ss ss' : List Statement} {rows rows' : List Row} (h : W ss rows) (h' : W ss' rows') :
    W (ss ++ ss') (rows ++ rows')
  headed {ss : List Statement} {rows : List Row} {t : String} (level : Nat) (ht : Head R ss t)
    (h : W ss rows) : W ss (⟨level, t, false⟩ :: rows)
  ended {s : Statement} {ss : List Statement} {rows : List Row} {t : String} (level : Nat)
    (hs : s.isTerminated = true) (h : W ss rows) (ht : Led R t) :
    W (s :: ss) (rows ++ [⟨level, t, true⟩])
  hung {ss : List Statement} {rows : List Row} {t : String} (level : Nat) (action : HandlerAction)
    (conditions : List ConditionValue) (body : Statement) (ht : Led R t) (h : W ss rows) :
    W (.declareHandler action conditions body :: ss) (Row.hung t level rows)
  empty : W [.empty] [⟨0, "", false⟩]
  raw {sql : String} (level : Nat) (h : r.statement sql = true) : W [.raw sql] (Row.ofRaw level sql)

section
variable {d : Dialect} (hd : d.kind.complete = true) {r : RawRule} {R : String → Prop}
  (hr : ∀ sql, r.fragment sql = true → R sql) {W : List Statement → List Row → Prop}
  (hW : Layout R r W) {E : Error → Prop}

namespace Layout
include hW

theorem and {W' : List Statement → List Row → Prop} (hW' : Layout R r W') :
    Layout R r fun ss rows => W ss rows ∧ W' ss rows where
  nil := ⟨hW.nil, hW'.nil⟩
  append h h' := ⟨hW.append h.1 h'.1, hW'.append h.2 h'.2⟩
  headed level ht h := ⟨hW.headed level ht h.1, hW'.headed level ht h.2⟩
  ended level hs h ht := ⟨hW.ended level hs h.1 ht, hW'.ended level hs h.2 ht⟩
  hung level action conditions body ht h :=
    ⟨hW.hung level action conditions body ht h.1, hW'.hung level action conditions body ht h.2⟩
  empty := ⟨hW.empty, hW'.empty⟩
  raw level h := ⟨hW.raw level h, hW'.raw level h⟩

/-- A statement of one row. -/
theorem single {s : Statement} {depth : Int} {t : String} (hs : s.isTerminated = true)
    (ht : Led R t) {f : Nat → Except Error (List String)}
    (hf : ∀ i, f i = .ok [(d.indented i).pad depth ++ (t ++ ";")]) :
    Laid (W [s]) E f := by
  refine .rows [⟨depth.toNat, t, true⟩] (hW.ended _ hs hW.nil ht) fun i => ?_
  rw [hf i]
  rfl

/-- A statement of a word and one more text. -/
theorem worded {s : Statement} {depth : Int} {w : String} {x : Except Error String}
    {E' : Error → Prop} (hs : s.isTerminated = true) (hw : IsWord w) (hh : Quotes.Heads w)
    (hE : ∀ e, E' e → E e) (hx : Yields (Woven R) E' x) :
    Laid (W [s]) E fun i => x >>= fun t => .ok [(d.indented i).pad depth ++ w ++ t ++ ";"] := by
  refine .step hE hx fun t ht => ?_
  have hled : Led R (w ++ t) := .clause hw hh ht
  exact hW.single hs hled fun i => by simp only [String.append_assoc]; rfl

/-- Rows under a head. -/
theorem under {ss : List Statement} {rows : List Row} {depth : Int} {t : String} (ht : Head R ss t)
    (h : W ss rows) {f : Nat → Except Error (List String)}
    (hf : ∀ i, f i = .ok (((d.indented i).pad depth ++ t) :: rows.map (Row.text i))) :
    Laid (W ss) E f := by
  refine .rows _ (hW.headed depth.toNat ht h) fun i => ?_
  rw [hf i, List.map_cons, Row.text, Row.said, if_neg (by simp), String.append_empty]
  rfl

/-- A statement with other ones between its words. -/
theorem framed {s : Statement} {ss : List Statement} {rows : List Row} {depth : Int}
    {t t' : String} (hs : s.isTerminated = true) (ht : Head R (s :: ss) t) (h : W ss rows)
    (ht' : Led R t') {f : Nat → Except Error (List String)}
    (hf : ∀ i, f i = .ok (((d.indented i).pad depth ++ t)
      :: (rows.map (Row.text i) ++ [(d.indented i).pad depth ++ (t' ++ ";")]))) :
    Laid (W (s :: ss)) E f := by
  have hrows : ∀ i, f i = .ok (((d.indented i).pad depth ++ t)
      :: (rows ++ [Row.mk depth.toNat t' true]).map (Row.text i)) := by
    intro i
    rw [hf i, List.map_append]
    rfl
  exact hW.under ht (hW.ended depth.toNat hs h ht') hrows

end Layout

/-- What may stand in a statement only may stand deeper in it. -/
theorem deeper {r : RawRule} {depth n : Int} (h : r.directive = true → 0 < depth) (hn : 0 ≤ n) :
    r.directive = true → 0 < depth + n :=
  fun hdirective => Int.add_pos_of_pos_of_nonneg (h hdirective) hn

section
set_option linter.unusedSectionVars false
variable (hE : ∀ e, e.IsOfText → E e)
include hd hr hW hE

mutual

theorem laid_lines : ∀ {s : Statement} {depth : Int}, s.rawAll r = true → LabelsFail E s.nodes →
    (r.directive = true → 0 < depth) →
    Laid (W s.nodes) E fun i => Dialect.lines (d.indented i) depth s
  | .declareVariables names type initial, depth, hs, _, _ => by
    rw [Statement.rawAll] at hs
    simp only [Dialect.lines, Dialect.indented_texts]
    refine .step hE (ended_declareText hd hr names type hs) ?_
    rintro _ ⟨t, ht, rfl⟩
    exact hW.single rfl ht fun i => rfl
  | .declareCondition name value, depth, _, _, _ => by
    simp only [Dialect.lines, Dialect.indented_texts]
    refine .step hE (woven_identifier hd R name) fun n hn => ?_
    refine .step hE (woven_conditionValueText hd R value) fun v hv => ?_
    have ht : Led R ("DECLARE " ++ n ++ " CONDITION FOR " ++ v) :=
      (Led.clause (by decide) (by decide) hn).glued (by decide) (by decide) hv
    exact hW.single rfl ht fun i => by simp only [String.append_assoc]; rfl
  | .declareCursor name query, depth, hs, _, _ => by
    rw [Statement.rawAll] at hs
    simp only [Dialect.lines, Dialect.indented_texts]
    refine .step hE (woven_identifier hd R name) fun n hn => ?_
    refine .step hE (led_selectText hd hr hs) fun q hq => ?_
    have ht : Led R ("DECLARE " ++ n ++ " CURSOR FOR " ++ q) :=
      (Led.clause (by decide) (by decide) hn).glued (by decide) (by decide) hq.woven
    exact hW.single rfl ht fun i => by simp only [String.append_assoc]; rfl
  | .declareHandler action conditions body, depth, hs, hlabels, hdepth => by
    rw [Statement.rawAll] at hs
    have haction : Led R ("DECLARE " ++ Keyword.word action) :=
      .clause (by decide) (by decide) (.word (by cases action <;> decide))
    simp only [Dialect.lines, Dialect.indented_texts]
    refine .step hE (Yields.mapM fun c _ => woven_conditionValueText hd R c) fun cs hcs => ?_
    refine .bind (laid_lines hs hlabels.tail (deeper hdepth (by decide))) fun rows hrows => ?_
    have ht : Led R ("DECLARE " ++ Keyword.word action ++ " HANDLER FOR " ++ Dialect.commas cs) :=
      haction.glued (by decide) (by decide) (.commas hcs)
    refine .rows _ (hW.hung depth.toNat action conditions body ht hrows) fun i => ?_
    rw [← Row.handlerLines_eq]
    simp only [String.append_assoc]
    rfl
  | .block b, depth, hs, hlabels, hdepth => by
    rw [Statement.rawAll] at hs
    simp only [Dialect.lines]
    exact laid_blockLines hs hlabels (deeper hdepth (by decide))
  | .ifElse branches otherwise, depth, hs, hlabels, hdepth => by
    rw [Statement.rawAll, Bool.and_eq_true] at hs
    have hdeep : r.directive = true → 0 < depth + 1 := deeper hdepth (by decide)
    simp only [Dialect.lines]
    refine .bind (laid_branchLines (by decide) (by decide) hs.1 hlabels.tail.left hdeep)
      fun rows hrows => ?_
    refine .bind (laid_elseLines hs.2 hlabels.tail.right hdeep) fun others hothers => ?_
    have ht : Led R "END IF" := .word (by decide) (by decide)
    exact .rows _ (hW.ended depth.toNat rfl (hW.append hrows hothers) ht) fun i => by
      simp only [List.map_append]; rfl
  | .cases operand whens otherwise, depth, hs, hlabels, hdepth => by
    simp only [Statement.rawAll, Bool.and_eq_true] at hs
    have hrest : ∀ t, Led R t → Laid (W (Statement.cases operand whens otherwise).nodes)
        E fun i => (do
          let whens ← Dialect.whenLines (d.indented i) depth operand.isNone whens
          let otherwise ← Dialect.elseLines (d.indented i) (depth + 1) (depth + 2) otherwise
          pure (((d.indented i).pad depth ++ t)
            :: (whens ++ otherwise ++ [(d.indented i).pad depth ++ "END CASE;"]))) := by
      intro t ht
      have hdeep : r.directive = true → 0 < depth + 2 := deeper hdepth (by decide)
      refine .bind (laid_whenLines hs.1.2 hlabels.tail.left hdeep) fun rows hrows => ?_
      refine .bind (laid_elseLines hs.2 hlabels.tail.right hdeep) fun others hothers => ?_
      have hend : Led R "END CASE" := .word (by decide) (by decide)
      exact hW.framed rfl (.led ht) (hW.append hrows hothers) hend fun i => by
        rw [List.map_append]; rfl
    simp only [Dialect.lines, Dialect.indented_texts]
    cases operand with
    | none => exact hrest _ (.word (by decide) (by decide))
    | some e =>
      exact .step hE (woven_exprText hd hr hs.1.1) fun t ht =>
        hrest _ (.clause (by decide) (by decide) ht)
  | .loop label body, depth, hs, hlabels, hdepth => by
    rw [Statement.rawAll] at hs
    have hword : Led R "LOOP" := .word (by decide) (by decide)
    simp only [Dialect.lines]
    refine .step hlabels.head (head_labelled (.loop label body) (Statement.nodesOf body) hword)
      fun t ht => ?_
    refine .bind (laid_bodyLines hs hlabels.tail (deeper hdepth (by decide))) fun rows hrows => ?_
    have hend : Led R "END LOOP" := .word (by decide) (by decide)
    exact hW.framed rfl ht hrows hend fun i => rfl
  | .whileLoop label c body, depth, hs, hlabels, hdepth => by
    rw [Statement.rawAll, Bool.and_eq_true] at hs
    simp only [Dialect.lines, Dialect.indented_texts]
    refine .step hE (woven_conditionText hd hr hs.1) fun test htest => ?_
    have hhead : Led R ("WHILE " ++ test ++ " DO") := by
      simpa using (Led.clause (by decide) (by decide) htest).glued (by decide) (by decide) .empty
    refine .step hlabels.head
      (head_labelled (.whileLoop label c body) (Statement.nodesOf body) hhead) fun t ht => ?_
    refine .bind (laid_bodyLines hs.2 hlabels.tail (deeper hdepth (by decide))) fun rows hrows => ?_
    have hend : Led R "END WHILE" := .word (by decide) (by decide)
    exact hW.framed rfl ht hrows hend fun i => rfl
  | .repeatLoop label c body, depth, hs, hlabels, hdepth => by
    rw [Statement.rawAll, Bool.and_eq_true] at hs
    have hword : Led R "REPEAT" := .word (by decide) (by decide)
    simp only [Dialect.lines, Dialect.indented_texts]
    refine .step hlabels.head
      (head_labelled (.repeatLoop label c body) (Statement.nodesOf body) hword) fun t ht => ?_
    refine .bind (laid_bodyLines hs.2 hlabels.tail (deeper hdepth (by decide))) fun rows hrows => ?_
    refine .step hE (woven_conditionText hd hr hs.1) fun test htest => ?_
    have hend : Led R ("UNTIL " ++ test ++ " END REPEAT") := by
      simpa using (Led.clause (by decide) (by decide) htest).glued (by decide) (by decide) .empty
    exact hW.framed rfl ht hrows hend fun i => by simp only [String.append_assoc]; rfl
  | .iterate label, depth, _, hlabels, _ => by
    simp only [Dialect.lines]
    exact hW.worded rfl (by decide) (by decide) (hlabels _ List.mem_cons_self label .iterate)
      (woven_checkLabel R label)
  | .leave label, depth, _, hlabels, _ => by
    simp only [Dialect.lines]
    exact hW.worded rfl (by decide) (by decide) (hlabels _ List.mem_cons_self label .leave)
      (woven_checkLabel R label)
  | .openCursor name, depth, _, _, _ => by
    simp only [Dialect.lines, Dialect.indented_texts]
    exact hW.worded rfl (by decide) (by decide) hE (woven_identifier hd R name)
  | .fetch name targets, depth, _, _, _ => by
    simp only [Dialect.lines, Dialect.indented_texts]
    refine .step hE (Yields.mapM fun t _ => woven_variableName hd R t) fun ts hts => ?_
    refine .step hE (woven_identifier hd R name) fun n hn => ?_
    have ht : Led R ("FETCH " ++ n ++ " INTO " ++ Dialect.commas ts) :=
      (Led.clause (by decide) (by decide) hn).glued (by decide) (by decide) (.commas hts)
    exact hW.single rfl ht fun i => by simp only [String.append_assoc]; rfl
  | .closeCursor name, depth, _, _, _ => by
    simp only [Dialect.lines, Dialect.indented_texts]
    exact hW.worded rfl (by decide) (by decide) hE (woven_identifier hd R name)
  | .select query, depth, hs, _, _ => by
    rw [Statement.rawAll] at hs
    simp only [Dialect.lines, Dialect.indented_texts]
    refine .step hE (led_selectText hd hr hs) fun t ht => ?_
    exact hW.single rfl ht fun i => by simp only [String.append_assoc]; rfl
  | .insert query, depth, hs, _, _ => by
    rw [Statement.rawAll] at hs
    simp only [Dialect.lines, Dialect.indented_texts]
    refine .step hE (led_insertText hd hr hs) fun t ht => ?_
    exact hW.single rfl ht fun i => by simp only [String.append_assoc]; rfl
  | .set assignments, depth, hs, _, _ => by
    rw [Statement.rawAll, List.all_eq_true] at hs
    simp only [Dialect.lines, Dialect.indented_texts]
    refine .step hE (Yields.mapM fun a ha => woven_assignmentText hd hr (hs a ha)) fun ts hts => ?_
    have ht : Led R ("SET " ++ Dialect.commas ts) :=
      .clause (by decide) (by decide) (.commas hts)
    exact hW.single rfl ht fun i => by simp only [String.append_assoc]; rfl
  | .raw sql, depth, hs, _, _ => by
    rw [Statement.rawAll] at hs
    simp only [Dialect.lines]
    exact .rows _ (hW.raw depth.toNat hs) fun i => by
      rw [← Row.rawLines_eq]
      rfl
  | .empty, _, _, _, _ => by
    simp only [Dialect.lines]
    exact .rows _ hW.empty fun i => by simp [Row.text, Row.said, Dialect.spaces]
  | .call name args, depth, hs, _, _ => by
    rw [Statement.rawAll] at hs
    simp only [Dialect.lines, Dialect.indented_texts]
    refine .step hE (ended_callText hd hr name hs) ?_
    rintro _ ⟨t, ht, rfl⟩
    exact hW.single rfl ht fun i => rfl
  | .signal condition message number, depth, hs, _, _ => by
    rw [Statement.rawAll] at hs
    simp only [Dialect.lines, Dialect.indented_texts]
    refine .step hE (ended_signalText hd hr condition number hs) ?_
    rintro _ ⟨t, ht, rfl⟩
    exact hW.single rfl ht fun i => rfl
  | .delimiter text, depth, hs, _, hdepth => by
    rw [Statement.rawAll] at hs
    have hdeep : ¬ depth ≤ 0 := by have := hdepth hs; omega
    simp only [Dialect.lines, if_neg hdeep]
    exact .fail (hE _ trivial)
  | .foreign o, _, _, _, _ => by
    simp only [Dialect.lines]
    exact .fail (hE _ trivial)

theorem laid_bodyLines : ∀ {ss : List Statement} {depth : Int}, Statement.rawAllOf r ss = true →
    LabelsFail E (Statement.nodesOf ss) → (r.directive = true → 0 < depth) →
    Laid (W (Statement.nodesOf ss)) E fun i =>
      Dialect.bodyLines (d.indented i) depth ss
  | [], _, _, _, _ => by
    simp only [Dialect.bodyLines]
    exact .rows _ hW.nil fun i => rfl
  | s :: ss, depth, hs, hlabels, hdepth => by
    rw [Statement.rawAllOf, Bool.and_eq_true] at hs
    simp only [Dialect.bodyLines]
    refine .bind (laid_lines hs.1 hlabels.left hdepth) fun rows hrows => ?_
    refine .bind (laid_bodyLines hs.2 hlabels.right hdepth) fun others hothers => ?_
    exact .rows _ (hW.append hrows hothers) fun i => by rw [List.map_append]; rfl

theorem laid_elseLines : ∀ {otherwise : Option (List Statement)} {depth bodyDepth : Int},
    Statement.rawAllIfAny r otherwise = true → LabelsFail E (Statement.nodesIfAny otherwise) →
    (r.directive = true → 0 < bodyDepth) →
    Laid (W (Statement.nodesIfAny otherwise)) E fun i =>
      Dialect.elseLines (d.indented i) depth bodyDepth otherwise
  | none, _, _, _, _, _ => by
    simp only [Dialect.elseLines]
    exact .rows _ hW.nil fun i => rfl
  | some ss, depth, bodyDepth, hs, hlabels, hdepth => by
    rw [Statement.rawAllIfAny] at hs
    simp only [Dialect.elseLines]
    refine .bind (laid_bodyLines hs hlabels hdepth) fun rows hrows => ?_
    have ht : Led R "ELSE" := .word (by decide) (by decide)
    exact hW.under (.led ht) hrows fun i => rfl

theorem laid_blockLines : ∀ {b : Block} {depth : Int}, b.rawAll r = true →
    LabelsFail E (.block b :: b.nodes) → (r.directive = true → 0 < depth + 1) →
    Laid (W (.block b :: b.nodes)) E fun i =>
      Dialect.blockLines (d.indented i) depth ";" b
  | ⟨statements, label, scope⟩, depth, hb, hlabels, hdepth => by
    rw [Block.rawAll] at hb
    have hword : Led R "BEGIN" := .word (by decide) (by decide)
    simp only [Dialect.blockLines]
    refine .step hlabels.head (head_labelled (.block ⟨statements, label, scope⟩)
      (Statement.nodesOf statements) hword) fun t ht => ?_
    refine .bind (laid_bodyLines hb hlabels.tail hdepth) fun rows hrows => ?_
    have hend : Led R "END" := .word (by decide) (by decide)
    exact hW.framed rfl ht hrows hend fun i => by simp only [String.append_assoc]; rfl

theorem laid_branchLines : ∀ {branches : List IfBranch} {depth : Int} {word : String},
    IsWord word → Quotes.Heads word → IfBranch.rawAllOf r branches = true →
    LabelsFail E (IfBranch.nodesOf branches) → (r.directive = true → 0 < depth + 1) →
    Laid (W (IfBranch.nodesOf branches)) E fun i =>
      Dialect.branchLines (d.indented i) depth word branches
  | [], _, _, _, _, _, _, _ => by
    simp only [Dialect.branchLines]
    exact .rows _ hW.nil fun i => rfl
  | ⟨test, body⟩ :: rest, depth, word, hword, hheads, hs, hlabels, hdepth => by
    simp only [IfBranch.rawAllOf, Bool.and_eq_true] at hs
    simp only [Dialect.branchLines, Dialect.indented_texts]
    refine .step hE (woven_conditionText hd hr hs.1.1) fun test htest => ?_
    refine .bind (laid_bodyLines hs.1.2 hlabels.left hdepth) fun rows hrows => ?_
    refine .bind (laid_branchLines (by decide) (by decide) hs.2 hlabels.right hdepth)
      fun others hothers => ?_
    have ht : Led R (word ++ test ++ " THEN") := by
      simpa using (Led.clause hword hheads htest).glued (by decide) (by decide) .empty
    exact hW.under (.led ht) (hW.append hrows hothers) fun i => by
      simp only [List.map_append, String.append_assoc]; rfl

theorem laid_whenLines : ∀ {whens : List CaseWhen} {depth : Int} {searched : Bool},
    CaseWhen.rawAllOf r whens = true → LabelsFail E (CaseWhen.nodesOf whens) →
    (r.directive = true → 0 < depth + 2) →
    Laid (W (CaseWhen.nodesOf whens)) E fun i =>
      Dialect.whenLines (d.indented i) depth searched whens
  | [], _, _, _, _, _ => by
    simp only [Dialect.whenLines]
    exact .rows _ hW.nil fun i => rfl
  | ⟨test, body⟩ :: rest, depth, searched, hs, hlabels, hdepth => by
    simp only [CaseWhen.rawAllOf, Bool.and_eq_true] at hs
    simp only [Dialect.whenLines, Dialect.indented_texts]
    refine .step hE (woven_whenText hd hr searched hs.1.1) fun test htest => ?_
    refine .bind (laid_bodyLines hs.1.2 hlabels.left hdepth) fun rows hrows => ?_
    refine .bind (laid_whenLines hs.2 hlabels.right hdepth) fun others hothers => ?_
    have ht : Led R ("WHEN " ++ test ++ " THEN") := by
      simpa using (Led.clause (by decide) (by decide) htest).glued (by decide) (by decide) .empty
    exact hW.under (.led ht) (hW.append hrows hothers) fun i => by
      simp only [List.map_append, String.append_assoc]; rfl

end

end

end

end StoredSql
