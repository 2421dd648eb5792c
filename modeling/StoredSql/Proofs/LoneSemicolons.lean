import StoredSql.Proofs.FilledBodies
import StoredSql.Proofs.HeldLines
import StoredSql.Proofs.Indentation
import StoredSql.Proofs.NameReading
import StoredSql.Proofs.ProgramUnits

/-!
# Lone semicolons

What stands in the text of a program for an empty statement is a semicolon with nothing before it.
Whatever calls a program comes from, each of its bodies has a statement to execute, and the
statement is part of the text with something said before its semicolon, but for raw statements that
say nothing themselves (`built_statements_said`). A line of the text that has semicolons only comes
from a raw statement as well, or begins within a row: in a quoted token, in a raw expression or behind
a name that ends in a line break. What raw statements say is asked for by handlers only
(`muteLoop_rendered`).
-/

namespace StoredSql

open Outcome Scan

/-! ## Texts -/

namespace Text

variable {s t u : String}

/-- Whether a text says something besides white space and semicolons. -/
def speaks (t : String) : Bool := t.toList.any fun c => !isBlank c && c != ';'

/-- Whether a line has semicolons, and nothing else but white space. -/
def isLone (line : String) : Bool := line.toList.contains ';' && !speaks line

/-- A text that ends in a semicolon, with something said before it. -/
def IsSentence (t : String) : Prop := ∃ u, t = u ++ ";" ∧ speaks u = true

/-- A text whose first line says something. -/
def Opens (t : String) : Prop := ∃ u v, t = u ++ v ∧ '\n' ∉ u.toList ∧ speaks u = true

theorem speaks_append (s t : String) : speaks (s ++ t) = (speaks s || speaks t) := by
  simp [speaks]

theorem speaks_of_mem {c : Char} (h : c ∈ t.toList) (hblank : isBlank c = false) (hne : c ≠ ';') :
    speaks t = true :=
  List.any_eq_true.2 ⟨c, h, by simp [hblank, hne]⟩

theorem speaks_blanks (h : ∀ c ∈ t.toList, isBlank c = true) : speaks t = false :=
  List.any_eq_false.2 fun c hc => by simp [h c hc]

theorem isBlank_of_mem_spaces {n : Nat} : ∀ c ∈ (Dialect.spaces n).toList, isBlank c = true := by
  intro c hc
  rw [Dialect.spaces, String.toList_ofList] at hc
  rw [List.eq_of_mem_replicate hc]
  rfl

theorem isLone_spaces_append (n : Nat) (t : String) :
    isLone (Dialect.spaces n ++ t) = isLone t := by
  have hnone : ';' ∉ (Dialect.spaces n).toList :=
    fun h => absurd (isBlank_of_mem_spaces _ h) (by decide)
  rw [isLone, isLone, speaks_append, speaks_blanks isBlank_of_mem_spaces, Bool.false_or,
    String.toList_append]
  simp [hnone]

theorem not_isLone_of_speaks (h : speaks t = true) : isLone t = false := by
  rw [isLone, h, Bool.not_true, Bool.and_false]

theorem IsSentence.behind (h : IsSentence t) (s : String) : IsSentence (s ++ t) := by
  obtain ⟨u, rfl, hu⟩ := h
  exact ⟨s ++ u, String.append_assoc.symm, by rw [speaks_append, hu, Bool.or_true]⟩

theorem Opens.append (h : Opens t) (s : String) : Opens (t ++ s) := by
  obtain ⟨u, v, rfl, hu⟩ := h
  exact ⟨u, v ++ s, String.append_assoc, hu⟩

theorem Opens.speaks (h : Opens t) : speaks t = true := by
  obtain ⟨u, v, rfl, -, hu⟩ := h
  rw [speaks_append, hu, Bool.true_or]

theorem Opens.indented (h : Opens t) (n : Nat) : Opens (Dialect.spaces n ++ t) := by
  obtain ⟨u, v, rfl, hbreak, hu⟩ := h
  refine ⟨Dialect.spaces n ++ u, v, String.append_assoc.symm, ?_, ?_⟩
  · rw [String.toList_append, List.mem_append]
    refine not_or_intro (fun hmem => ?_) hbreak
    rw [Dialect.spaces, String.toList_ofList] at hmem
    exact absurd (List.eq_of_mem_replicate hmem) (by decide)
  · rw [speaks_append, hu, Bool.or_true]

/-- Each line behind the first one of a text that opens is none of semicolons only. -/
theorem Opens.mem_tail (h : Opens t) {line : String} (hline : line ∈ splitAll '\n' t)
    (hlone : isLone line = true) : line ∈ (splitAll '\n' t).tail := by
  obtain ⟨u, v, rfl, hbreak, hu⟩ := h
  obtain ⟨first, rest, -, hsplit⟩ := splitChars_append hbreak v.toList
  rw [splitAll, String.toList_append, hsplit] at hline ⊢
  rcases List.mem_cons.1 hline with rfl | hline
  · rw [String.ofList_append, String.ofList_toList, not_isLone_of_speaks] at hlone
    · cases hlone
    · rw [speaks_append, hu, Bool.true_or]
  · exact hline

end Text

/-! ## Rows that say something -/

open Text

theorem Scan.Leads.opens {t : String} (h : Leads t) : Opens t := by
  obtain ⟨u, v, rfl, hw, hheads⟩ := h
  refine ⟨u, v, rfl, hheads.unbroken, ?_⟩
  have hfirst : Quotes.firstWord u.toList ≠ [] := by
    intro hnil
    have hfirm := hheads.firm
    rw [Quotes.isFirm, hnil] at hfirm
    cases hfirm
  obtain ⟨c, cs, hc⟩ := List.exists_cons_of_ne_nil hfirst
  have hmem : c ∈ (u.toList.dropWhile Quotes.isGap).takeWhile (!isBlank ·) := by
    rw [← Quotes.firstWord, hc]
    exact List.mem_cons_self
  have hblank : isBlank c = false := by
    simpa using List.all_eq_true.1 (List.all_takeWhile (p := (!isBlank ·))) c hmem
  have hu : c ∈ u.toList :=
    (List.dropWhile_suffix _).subset ((List.takeWhile_prefix _).subset hmem)
  exact speaks_of_mem hu hblank (Quotes.not_quote_of_isTame (hw.isTame c hu)).2

theorem Scan.Head.opens {R : String → Prop} {ss : List Statement} {t : String} (h : Head R ss t) :
    Opens t := by
  cases h with
  | led h => exact h.leads.opens
  | labelled _ _ hplain _ =>
    obtain ⟨w, rest, hw, rfl⟩ := Identifier.exists_word_of_isPlain hplain
    obtain ⟨hne, hparts⟩ := Identifier.isPart_of_isWord hw
    obtain ⟨c, cs, hcs⟩ := List.exists_cons_of_ne_nil hne
    have hmem : c ∈ w.toList := hcs ▸ List.mem_cons_self
    rw [String.append_assoc, String.append_assoc]
    refine ⟨w, _, rfl, fun hbreak => absurd (hparts _ hbreak) (by decide),
      speaks_of_mem hmem (Identifier.isBlank_of_isPart (hparts c hmem)) ?_⟩
    rintro rfl
    exact absurd (hparts _ hmem) (by decide)

/-- What a row of statements says: nothing, something on its first line, or a line of a raw one. -/
inductive Row.Of (ss : List Statement) (r : Row) : Prop
  | blank (h : r.said = "")
  | opens (h : Opens r.said)
  | raw {sql : String} (hs : .raw sql ∈ ss) (h : r.said ∈ splitAll '\n' (Dialect.finished sql))

theorem Row.Of.mono {ss ss' : List Statement} {r : Row} (h : r.Of ss) (hss : ss ⊆ ss') :
    r.Of ss' := by
  cases h with
  | blank h => exact .blank h
  | opens h => exact .opens h
  | raw hs h => exact .raw (hss hs) h

/-- **Every row says something at its beginning**, but for empty lines and raw statements. -/
theorem layout_rows (R : String → Prop) (r : RawRule) :
    Layout R r fun ss rows => ∀ row ∈ rows, row.Of ss where
  nil := List.forall_mem_nil _
  append h h' := List.forall_mem_append.2
    ⟨fun row hrow => (h row hrow).mono (List.subset_append_left _ _),
      fun row hrow => (h' row hrow).mono (List.subset_append_right _ _)⟩
  headed level ht h := List.forall_mem_cons.2 ⟨.opens (ht.opens.append _), h⟩
  ended level _ h ht := List.forall_mem_append.2
    ⟨fun row hrow => (h row hrow).mono (List.subset_cons_self _ _),
      List.forall_mem_singleton.2 (.opens (ht.leads.opens.append _))⟩
  hung {ss rows t} level action conditions body ht h := by
    match rows with
    | [] => exact List.forall_mem_singleton.2 (.opens (ht.leads.opens.append _))
    | [row] =>
      exact List.forall_mem_singleton.2
        (.opens (((ht.leads.append _).append _).opens.append _))
    | _ :: _ :: _ =>
      refine List.forall_mem_cons.2 ⟨.opens (ht.leads.opens.append _), fun row hrow => ?_⟩
      exact (h row hrow).mono (List.subset_cons_self _ _)
  empty := List.forall_mem_singleton.2 (.blank rfl)
  raw level _ row hrow := by
    obtain ⟨line, hline, rfl⟩ := List.mem_map.1 hrow
    refine .raw (List.mem_singleton_self _) ?_
    rw [Row.said_eq]
    exact hline

/-- A line of semicolons only is one of a raw statement, or it begins within a row. -/
theorem Row.Of.lone {ss : List Statement} {r : Row} (h : r.Of ss) {i : Nat} {line : String}
    (hline : line ∈ splitAll '\n' (r.text i)) (hlone : isLone line = true) :
    line ∈ (splitAll '\n' (r.text i)).tail ∨ ∃ sql, .raw sql ∈ ss ∧
      ∃ l ∈ splitAll '\n' (Dialect.finished sql), isLone l = true := by
  have hspaces : '\n' ∉ (Dialect.spaces (i * r.level)).toList := by
    rw [Dialect.spaces, String.toList_ofList]
    exact fun hmem => absurd (List.eq_of_mem_replicate hmem) (by decide)
  cases h with
  | blank h =>
    rw [Row.text, h, String.append_empty, splitAll_of_unbroken hspaces] at hline
    rw [List.mem_singleton.1 hline, ← String.append_empty (s := Dialect.spaces _),
      isLone_spaces_append] at hlone
    cases hlone
  | opens h => exact .inl ((h.indented _).mem_tail hline hlone)
  | @raw sql hs h =>
    have hbreak : '\n' ∉ (r.text i).toList := by
      obtain ⟨cs, hcs, hsaid⟩ := List.mem_map.1 h
      rw [Row.text, String.toList_append, List.mem_append, ← hsaid, String.toList_ofList]
      exact not_or_intro hspaces (not_mem_of_mem_splitChars hcs)
    rw [splitAll_of_unbroken hbreak] at hline
    rw [List.mem_singleton.1 hline, Row.text, isLone_spaces_append] at hlone
    exact .inr ⟨sql, hs, _, h, hlone⟩

theorem Dialect.blockLines_lone {d : Dialect} (hd : d.kind.complete = true) {b : Block}
    {terminator : String} {ls : List String} (h : d.blockLines 0 terminator b = .ok ls)
    {line : String} (hline : line ∈ splitAll '\n' (joinWith "\n" ls)) (hlone : isLone line = true) :
    (∃ l ∈ ls, line ∈ (splitAll '\n' l).tail) ∨ ∃ sql, .raw sql ∈ b.nodes ∧
      ∃ l ∈ splitAll '\n' (finished sql), isLone l = true := by
  obtain ⟨statements, label, scope⟩ := b
  obtain ⟨head, body, hhead, hbody, rfl⟩ := blockLines_eq_ok.1 h
  obtain ⟨rows, hrows, rfl⟩ := (laid_bodyLines hd (fun _ _ => trivial)
    (layout_rows (fun _ => True) .any) (fun _ _ => trivial) (rawAll_any.2.1 statements) (.any _)
    fun _ => by decide).of_ok d.indent hbody
  have hopens : Opens (d.pad 0 ++ head) ∧ Opens (d.pad 0 ++ "END" ++ terminator) := by
    have hhead : Scan.Head (fun _ => True) [.block ⟨statements, label, scope⟩] head :=
      (head_labelled (.block ⟨statements, label, scope⟩) []
        (.word (by decide) (by decide))).of_ok hhead
    have hend : Opens "END" := ⟨"END", "", rfl, by decide, by decide⟩
    exact ⟨hhead.opens.indented _, (hend.indented _).append _⟩
  rw [splitAll_joinWith (List.cons_ne_nil _ _)] at hline
  obtain ⟨l, hl, hline⟩ := List.mem_flatMap.1 hline
  have htail : Opens l → ∃ l ∈ _, line ∈ (splitAll '\n' l).tail :=
    fun hopens => ⟨l, hl, hopens.mem_tail hline hlone⟩
  rcases List.mem_cons.1 hl with rfl | hmem
  · exact .inl (htail hopens.1)
  rcases List.mem_append.1 hmem with hmem | hmem
  · obtain ⟨row, hrow, rfl⟩ := List.mem_map.1 hmem
    exact ((hrows row hrow).lone hline hlone).imp_left fun h => ⟨_, hl, h⟩
  · obtain rfl := List.mem_singleton.1 hmem
    exact .inl (htail hopens.2)

/-! ## Statements that are sentences -/

/-- Whether a statement is an empty line, or a raw one that says nothing. -/
def Statement.isMute : Statement → Bool
  | .empty => true
  | .raw sql => !speaks sql
  | _ => false

namespace Text

theorem isSentence_of_led {R : String → Prop} {t : String} (h : Led R t) (pad : String) :
    IsSentence (pad ++ (t ++ ";")) :=
  .behind ⟨t, rfl, h.leads.opens.speaks⟩ pad

theorem joinWith_concat_append (ls : List String) (s t : String) :
    joinWith "\n" (ls ++ [s ++ t]) = joinWith "\n" (ls ++ [s]) ++ t := by
  rw [← Dialect.endWith_concat, Dialect.joinWith_endWith (by simp)]

theorem speaks_joinWith (ls : List String) : speaks (joinWith "\n" ls) = ls.any speaks := by
  fun_induction joinWith "\n" ls with
  | case1 => rfl
  | case2 l => rw [List.any_cons, List.any_nil, Bool.or_false]
  | case3 l l' rest ih =>
    have hbreak : speaks "\n" = false := by decide
    rw [speaks_append, speaks_append, hbreak, Bool.or_false, ih]
    rfl

/-- Lines whose last one is a sentence. -/
theorem isSentence_concat (ls : List String) {l : String} (h : IsSentence l) :
    IsSentence (joinWith "\n" (ls ++ [l])) := by
  obtain ⟨u, rfl, hu⟩ := h
  refine ⟨_, joinWith_concat_append ls u ";", ?_⟩
  rw [speaks_joinWith, List.any_append, List.any_cons, hu, Bool.true_or, Bool.or_true]

theorem speaks_trimEnd (t : String) : speaks (trimEnd t) = speaks t := by
  obtain ⟨ws, hws, ht⟩ := trimEndChars_eq t.toList
  have hsplit : t = trimEnd t ++ String.ofList ws := by
    rw [trimEnd, ← String.ofList_append, ← ht, String.ofList_toList]
  have hblank : speaks (String.ofList ws) = false := speaks_blanks (by rwa [String.toList_ofList])
  conv_rhs => rw [hsplit, speaks_append, hblank, Bool.or_false]

end Text

namespace Dialect

variable {d : Dialect} {depth : Int} {s t : Statement} {ls : List String}

/-- A raw statement ends in a semicolon, and says before it what its text says. -/
theorem finished_said (sql : String) : ∃ u, finished sql = u ++ ";" ∧ speaks u = speaks sql := by
  unfold finished
  split
  · rename_i hend
    have hslice : (trimEnd sql).toSlice.endsWith ";" = true := hend
    obtain ⟨u, hu⟩ := String.Slice.endsWith_string_iff.1 hslice
    rw [String.copy_toSlice] at hu
    have htext : trimEnd sql = String.ofList u ++ ";" := by
      rw [← String.toList_inj, String.toList_append, String.toList_ofList, hu]
    have hsemicolon : speaks ";" = false := by decide
    refine ⟨String.ofList u, htext, ?_⟩
    rw [← speaks_trimEnd sql, htext, speaks_append, hsemicolon, Bool.or_false]
  · exact ⟨trimEnd sql, rfl, speaks_trimEnd sql⟩

/-- The lines of a raw statement end in a semicolon, and say before it what its text says. -/
theorem rawLines_said (n : Nat) (sql : String) :
    ∃ u, joinWith "\n" (rawLines (spaces n) sql) = u ++ ";" ∧ speaks u = speaks sql := by
  obtain ⟨u, hfinished, hsays⟩ := finished_said sql
  have hsemicolon : '\n' ∉ [';'] := by decide
  obtain ⟨init, last, hu, hsplit⟩ := splitChars_append_behind u.toList hsemicolon
  let indented (line : String) : String := if line.isEmpty then line else spaces n ++ line
  have hindented : ∀ line, speaks (indented line) = speaks line := by
    intro line
    show speaks (if line.isEmpty then line else spaces n ++ line) = speaks line
    split
    · rfl
    · rw [speaks_append, speaks_blanks isBlank_of_mem_spaces, Bool.false_or]
  have hlines : rawLines (spaces n) sql
      = (init.map String.ofList).map indented ++ [spaces n ++ String.ofList last ++ ";"] := by
    have hlast : indented (String.ofList (last ++ [';']))
        = spaces n ++ String.ofList last ++ ";" := by
      show (if _ then _ else _) = _
      rw [if_neg (by simp), String.ofList_append, String.append_assoc]
    show (splitAll '\n' (finished sql)).map indented = _
    rw [splitAll, hfinished, String.toList_append]
    show ((splitChars '\n' (u.toList ++ [';'])).map String.ofList).map indented = _
    rw [hsplit, List.map_append, List.map_append, List.map_singleton, List.map_singleton, hlast]
  rw [hlines, joinWith_concat_append]
  refine ⟨_, rfl, ?_⟩
  have hwhole : speaks u = (splitAll '\n' u).any speaks := by
    rw [← speaks_joinWith, joinWith_splitAll]
  have hinit : ((init.map String.ofList).map indented).any speaks
      = (init.map String.ofList).any speaks := by
    rw [List.any_map]
    exact List.any_congr rfl hindented
  have hlast : speaks (spaces n ++ String.ofList last) = speaks (String.ofList last) := by
    rw [speaks_append, speaks_blanks isBlank_of_mem_spaces, Bool.false_or]
  rw [← hsays, hwhole, splitAll, hu, speaks_joinWith, List.map_append, List.any_append,
    List.any_append, hinit, List.map_singleton, List.any_cons, List.any_cons, hlast]

/-- A handler ends as what it does. -/
theorem isSentence_handlerLines {header u : String} {own : List String}
    (hheader : speaks header = true) (h : joinWith "\n" own = u ++ ";") :
    IsSentence (joinWith "\n" (handlerLines header own)) := by
  match own with
  | [] =>
    have hlist := congrArg String.toList h
    simp [joinWith] at hlist
  | [line] =>
    obtain rfl : line = u ++ ";" := h
    refine ⟨header ++ " " ++ trimStart u, ?_, ?_⟩
    · rw [String.append_assoc, ← trimStart_append_semicolon]
      rfl
    · rw [speaks_append, speaks_append, hheader, Bool.true_or, Bool.true_or]
  | l :: l' :: rest =>
    refine ⟨header ++ "\n" ++ u, ?_, ?_⟩
    · rw [String.append_assoc, ← h]
      rfl
    · rw [speaks_append, speaks_append, hheader, Bool.true_or, Bool.true_or]

/-- **Statements are sentences**, but for empty lines and for raw statements that say nothing; these
end in a semicolon as well. -/
theorem lines_said (hd : d.kind.complete = true) (s : Statement) {depth : Int} {ls : List String}
    (hdepth : 0 < depth) (hbodies : s.Everywhere Statement.HasBodies) (hne : s.isEmpty = false)
    (h : d.lines depth s = .ok ls) :
    ∃ u, joinWith "\n" ls = u ++ ";" ∧ (s.isMute = false → speaks u = true) := by
  have hsentence : ∀ {s : Statement} {t : String}, IsSentence t →
      ∃ u, t = u ++ ";" ∧ (s.isMute = false → speaks u = true) :=
    fun ⟨u, ht, hu⟩ => ⟨u, ht, fun _ => hu⟩
  have hline : ∀ {p w u : String}, speaks w = true → IsSentence (p ++ w ++ u ++ ";") :=
    fun hw => ⟨_, rfl, by rw [speaks_append, speaks_append, hw, Bool.or_true, Bool.true_or]⟩
  have hend : ∀ {s : Statement} {p w : String} (ls : List String), IsSentence w →
      ∃ u, joinWith "\n" (ls ++ [p ++ w]) = u ++ ";" ∧ (s.isMute = false → speaks u = true) :=
    fun ls hw => hsentence (isSentence_concat ls (hw.behind _))
  have hfragment : ∀ sql, RawRule.any.fragment sql = true → (fun _ => True) sql :=
    fun _ _ => trivial
  have hraw := rawAll_any.1 s
  cases s with
  | declareVariables names type initial =>
    rw [Statement.rawAll] at hraw
    simp only [lines, bind_eq_ok, pure_eq_ok] at h
    obtain ⟨t, ht, rfl⟩ := h
    obtain ⟨u, hu, rfl⟩ := (ended_declareText hd hfragment names type hraw).of_ok ht
    exact hsentence (isSentence_of_led hu _)
  | declareCondition name value =>
    simp only [lines, bind_eq_ok, pure_eq_ok] at h
    obtain ⟨n, _, v, _, rfl⟩ := h
    exact hsentence (hline (w := " CONDITION FOR ") (by decide))
  | declareCursor name query =>
    simp only [lines, bind_eq_ok, pure_eq_ok] at h
    obtain ⟨n, _, q, _, rfl⟩ := h
    exact hsentence (hline (w := " CURSOR FOR ") (by decide))
  | declareHandler action conditions body =>
    simp only [lines, bind_eq_ok, pure_eq_ok] at h
    obtain ⟨cs, _, own, hown, rfl⟩ := h
    have hbody : body.isEmpty = false :=
      Statement.isEmpty_of_checkHandlerBody ((hbodies .here).handles rfl)
    have heverywhere :=
      hbodies.held (List.mem_singleton_self [body]) body (List.mem_singleton_self _)
    obtain ⟨u, hu, -⟩ := lines_said hd body (by omega) heverywhere hbody hown
    have hword : speaks "DECLARE " = true := by decide
    refine hsentence (isSentence_handlerLines ?_ hu)
    simp only [speaks_append, hword, Bool.or_true, Bool.true_or]
  | block b =>
    obtain ⟨statements, label, scope⟩ := b
    rw [lines] at h
    obtain ⟨head, rows, _, _, rfl⟩ := blockLines_eq_ok.1 h
    rw [String.append_assoc]
    exact hend (_ :: rows) ⟨"END", rfl, by decide⟩
  | ifElse branches otherwise =>
    simp only [lines, bind_eq_ok, pure_eq_ok] at h
    obtain ⟨rows, _, others, _, rfl⟩ := h
    exact hend _ ⟨"END IF", rfl, by decide⟩
  | cases operand whens otherwise =>
    obtain ⟨head, rows, others, _, _, rfl⟩ := lines_cases_eq_ok h
    exact hend (_ :: (rows ++ others)) ⟨"END CASE", rfl, by decide⟩
  | loop label body =>
    simp only [lines, bind_eq_ok, pure_eq_ok] at h
    obtain ⟨head, _, rows, _, rfl⟩ := h
    exact hend (_ :: rows) ⟨"END LOOP", rfl, by decide⟩
  | whileLoop label test body =>
    simp only [lines, bind_eq_ok, pure_eq_ok] at h
    obtain ⟨test, _, head, _, rows, _, rfl⟩ := h
    exact hend (_ :: rows) ⟨"END WHILE", rfl, by decide⟩
  | repeatLoop label test body =>
    simp only [lines, bind_eq_ok, pure_eq_ok] at h
    obtain ⟨head, _, rows, _, test, _, rfl⟩ := h
    exact hend (_ :: rows) ⟨" END REPEAT", rfl, by decide⟩
  | iterate label =>
    simp only [lines, bind_eq_ok, pure_eq_ok] at h
    obtain ⟨l, _, rfl⟩ := h
    exact hsentence (hline (w := "ITERATE ") (by decide))
  | leave label =>
    simp only [lines, bind_eq_ok, pure_eq_ok] at h
    obtain ⟨l, _, rfl⟩ := h
    exact hsentence (hline (w := "LEAVE ") (by decide))
  | openCursor name =>
    simp only [lines, bind_eq_ok, pure_eq_ok] at h
    obtain ⟨n, _, rfl⟩ := h
    exact hsentence (hline (w := "OPEN ") (by decide))
  | fetch name targets =>
    simp only [lines, bind_eq_ok, pure_eq_ok] at h
    obtain ⟨ts, _, n, _, rfl⟩ := h
    exact hsentence (hline (w := " INTO ") (by decide))
  | closeCursor name =>
    simp only [lines, bind_eq_ok, pure_eq_ok] at h
    obtain ⟨n, _, rfl⟩ := h
    exact hsentence (hline (w := "CLOSE ") (by decide))
  | select query =>
    rw [Statement.rawAll] at hraw
    simp only [lines, bind_eq_ok, pure_eq_ok] at h
    obtain ⟨t, ht, rfl⟩ := h
    have hled := (led_selectText hd hfragment hraw).of_ok ht
    rw [String.append_assoc]
    exact hsentence (isSentence_of_led hled _)
  | insert query =>
    rw [Statement.rawAll] at hraw
    simp only [lines, bind_eq_ok, pure_eq_ok] at h
    obtain ⟨t, ht, rfl⟩ := h
    have hled := (led_insertText hd hfragment hraw).of_ok ht
    rw [String.append_assoc]
    exact hsentence (isSentence_of_led hled _)
  | set assignments =>
    simp only [lines, bind_eq_ok, pure_eq_ok] at h
    obtain ⟨ts, _, rfl⟩ := h
    exact hsentence (hline (w := "SET ") (by decide))
  | raw sql =>
    rw [lines] at h
    obtain rfl := Except.ok.inj h
    obtain ⟨u, hu, hsays⟩ := rawLines_said (d.indent * depth.toNat) sql
    exact ⟨u, hu, fun hmute => hsays.trans (by simpa [Statement.isMute] using hmute)⟩
  | empty => cases hne
  | call name args =>
    rw [Statement.rawAll] at hraw
    simp only [lines, bind_eq_ok, pure_eq_ok] at h
    obtain ⟨t, ht, rfl⟩ := h
    obtain ⟨u, hu, rfl⟩ := (ended_callText hd hfragment name hraw).of_ok ht
    exact hsentence (isSentence_of_led hu _)
  | signal condition message number =>
    rw [Statement.rawAll] at hraw
    simp only [lines, bind_eq_ok, pure_eq_ok] at h
    obtain ⟨t, ht, rfl⟩ := h
    obtain ⟨u, hu, rfl⟩ := (ended_signalText hd hfragment condition number hraw).of_ok ht
    exact hsentence (isSentence_of_led hu _)
  | delimiter text =>
    rw [lines, if_neg (by omega)] at h
    cases h
  | foreign o =>
    rw [lines] at h
    cases h

/-- Whether some lines show a statement as a sentence. -/
def States (d : Dialect) (ls : List String) (t : Statement) : Prop :=
  ∃ depth own, d.lines depth t = .ok own ∧ IsSentence (joinWith "\n" own) ∧ Shown own ls

/-- Whether each list of statements that a statement holds has one to execute, and some lines show
all of its statements as sentences, but for those that are mute. Blocks may do without, and no handler
executes white space. -/
structure StatesBodies (d : Dialect) (ls : List String) (s : Statement) : Prop where
  executes (hblock : ∀ b, s ≠ .block b) : ∀ body ∈ s.held, ∃ t ∈ body, t.isEmpty = false
  states (hblock : ∀ b, s ≠ .block b) :
    ∀ body ∈ s.held, ∀ t ∈ body, t.isMute = false → d.States ls t
  handles {action : HandlerAction} {conditions : List ConditionValue} {sql : String}
    (h : s = .declareHandler action conditions (.raw sql)) : (trim sql).isEmpty = false

/-- A block states all bodies in it. -/
theorem blockLines_stated (hd : d.kind.complete = true) {b : Block}
    (hb : (Statement.block b).Everywhere Statement.HasBodies) {terminator : String}
    (h : d.blockLines 0 terminator b = .ok ls) :
    (Statement.block b).Everywhere (d.StatesBodies ls) := by
  intro levels s hs
  have hbodies : s.Everywhere Statement.HasBodies := fun _ _ ht => hb (hs.trans ht)
  refine ⟨fun hblock body hbody => ?_, fun hblock body hbody t ht hmute => ?_, fun h => ?_⟩
  · obtain ⟨t, ht, hempty⟩ := List.all_eq_false.1 ((hbodies .here).filled hblock body hbody)
    exact ⟨t, ht, Bool.not_eq_true _ ▸ hempty⟩
  · obtain ⟨n, own, hown, hshown⟩ := blockLines_stands h hs (hblock b)
    obtain ⟨m, rows, hrows, hheld⟩ := lines_held hown hbody
    obtain ⟨own', hown', hpart⟩ := bodyLines_mem hrows ht
    have hempty : t.isEmpty = false := by
      cases t with
      | empty => cases hmute
      | _ => rfl
    obtain ⟨u, hu, hspeaks⟩ := lines_said hd t (by omega) (hbodies.held hbody t ht) hempty hown'
    exact ⟨_, own', hown', ⟨u, hu, hspeaks hmute⟩,
      ((Shown.of_isInfix hpart).trans hheld).trans hshown⟩
  · exact Statement.isEmpty_trim_of_checkHandlerBody ((hbodies .here).handles h)

end Dialect

/-! ## Programs -/

/-- **A program has no empty statements but raw ones**, whatever calls have failed on the way: each
of its branches, arms, loops and handlers has a statement to execute, and the text shows the
statement as a sentence if it is no raw one that says nothing, which is a semicolon at least in a
handler. Each line of the text that has semicolons only begins within a row, or comes from a raw
statement. What calls are given as it is must be made. -/
theorem built_statements_said {head : ProgramHead} {label : Operand} {stem : String}
    {b b' : Builder} {p : Program} {calls : List Call}
    (hmade : ∀ call ∈ calls, Statement.areMade call.prebuilt = true)
    (hb : Builder.start head label stem = .ok b) (hbuild : (b.run calls).build = (.ok p, b'))
    {d : Dialect} {terminator : String} {ls : List String} (hd : d.kind.complete = true)
    (hls : d.blockLines 0 terminator p.body = .ok ls) :
    (Statement.block p.body).Everywhere (d.StatesBodies ls) ∧
      ∀ line ∈ splitAll '\n' (joinWith "\n" ls), isLone line = true →
        (∃ l ∈ ls, line ∈ (splitAll '\n' l).tail) ∨ ∃ sql, .raw sql ∈ p.body.nodes ∧
          ∃ l ∈ splitAll '\n' (Dialect.finished sql), isLone l = true :=
  ⟨Dialect.blockLines_stated hd (built_hasBodies hmade hb hbuild) hls,
    fun _ hline hlone => Dialect.blockLines_lone hd hls hline hlone⟩

/-- Calls for a handler, for a loop that is refused as it has an empty line only, and for a
conditional. -/
def saidBranches : List Call := [
  .declareHandler (.text "EXIT") [.sqlException] (.raw "ROLLBACK"),
  .openLoop (.value .null), .empty, .endLoop,
  .openIf (Condition.isTrue (.literal (.int 1))).operand, .raw "SET @a = 1",
  .otherwise, .empty, .raw "SET @a = 2;", .endIf]

/-- The block that is built with the calls. -/
def saidBranchesText : String :=
  joinWith "\n" ["BEGIN", "  DECLARE EXIT HANDLER FOR SQLEXCEPTION ROLLBACK;", "  IF 1 THEN",
    "    SET @a = 1;", "  ELSE", "", "    SET @a = 2;", "  END IF;", "END;"]

/-- All of its bodies are stated, and none of its lines has semicolons only. -/
theorem saidBranches_said : ∃ b p b' ls,
    (∀ call ∈ saidBranches, Statement.areMade call.prebuilt = true) ∧
      Builder.start .block (.value .null) Builder.usualStem = .ok b ∧
      (b.run saidBranches).build = (.ok p, b') ∧ Dialect.blockLines {} 0 ";" p.body = .ok ls ∧
      joinWith "\n" ls = saidBranchesText ∧
      (Statement.block p.body).Everywhere (Dialect.StatesBodies {} ls) ∧
      ∀ line ∈ splitAll '\n' saidBranchesText, isLone line = false := by
  have hmade : ∀ call ∈ saidBranches, Statement.areMade call.prebuilt = true :=
    List.all_eq_true.1 (by decide +kernel)
  have hshape : ((emptyBuilder.run saidBranches).build.1.toOption.any fun p =>
      (p.body.nodes.all fun s => match s with
        | .raw sql => (splitAll '\n' (Dialect.finished sql)).all (!isLone ·)
        | _ => true)
        && (Dialect.blockLines {} 0 ";" p.body).toOption.any fun ls =>
          joinWith "\n" ls == saidBranchesText && ls.all fun l => (splitAll '\n' l).tail.isEmpty)
      = true := by decide +kernel
  rcases hbuild : (emptyBuilder.run saidBranches).build with ⟨e | p, b'⟩
  · rw [hbuild] at hshape
    cases hshape
  rcases hlines : Dialect.blockLines {} 0 ";" p.body with e | ls
  · simp [hbuild, hlines, Except.toOption] at hshape
  simp only [hbuild, hlines, Except.toOption, Option.any_some, Bool.and_eq_true, beq_iff_eq]
    at hshape
  obtain ⟨hraws, htext, htails⟩ := hshape
  have hstart : Builder.start .block (.value .null) Builder.usualStem = .ok emptyBuilder := rfl
  obtain ⟨hstated, hlone⟩ := built_statements_said hmade hstart hbuild rfl hlines
  refine ⟨emptyBuilder, p, b', ls, hmade, hstart, hbuild, hlines, htext, hstated,
    fun line hline => Bool.eq_false_iff.2 fun h => ?_⟩
  rw [← htext] at hline
  rcases hlone line hline h with ⟨l, hl, hline⟩ | ⟨sql, hsql, l, hl, hlone⟩
  · rw [List.isEmpty_iff.1 (List.all_eq_true.1 htails l hl)] at hline
    cases hline
  · have hnot := List.all_eq_true.1 (List.all_eq_true.1 hraws _ hsql) l hl
    rw [hlone] at hnot
    cases hnot

/-- Calls for a loop of a raw statement without a text. -/
def muteLoop : List Call := [.openLoop (.value (.text "l")), .raw "", .endLoop]

/-- **The loop is accepted and has a semicolon only**, though a handler that does the same is
refused. -/
theorem muteLoop_rendered : ∃ b p b',
    Builder.start .block (.value .null) Builder.usualStem = .ok emptyBuilder ∧
      emptyBuilder.runAll muteLoop = (.ok (), b) ∧ b.build = (.ok p, b') ∧
      Dialect.renderBlock {} p.body ";" = .ok "BEGIN\n  l: LOOP\n    ;\n  END LOOP;\nEND;" ∧
      "    ;" ∈ splitAll '\n' "BEGIN\n  l: LOOP\n    ;\n  END LOOP;\nEND;" ∧ trim "    ;" = ";" ∧
      Statement.checkHandlerBody (.raw "")
        = .error (.structural (.handlerBodyKind (Statement.raw "").kindName)) := by
  have hcalled : (emptyBuilder.runAll muteLoop).1.isOk = true := by decide +kernel
  have hshape : ((emptyBuilder.runAll muteLoop).2.build.1.toOption.any fun p =>
      (Dialect.renderBlock {} p.body ";").toOption
        == some "BEGIN\n  l: LOOP\n    ;\n  END LOOP;\nEND;") = true := by decide +kernel
  rcases hcalls : emptyBuilder.runAll muteLoop with ⟨e | u, b⟩
  · rw [hcalls] at hcalled
    cases hcalled
  rw [hcalls] at hshape
  rcases hbuild : b.build with ⟨e | p, b'⟩
  · rw [hbuild] at hshape
    cases hshape
  rw [hbuild] at hshape
  exact ⟨b, p, b', rfl, rfl, hbuild, eq_ok_of_toOption (beq_iff_eq.1 hshape), by decide, by decide,
    rfl⟩

end StoredSql
