import StoredSql.Proofs.BuiltPrograms
import StoredSql.Proofs.CleanText
import StoredSql.Proofs.TextLines
import StoredSql.Rendering

/-!
# What the indent changes

With every indent a block has the same pieces between the white space outside quotes, and the pieces
of its raw statements are among them, as long as its raw texts close the quotes that they open and no
raw statement has a line break within quotes (`block_pieces_eq`). Where it has one, the spaces of the
indent go into the quoted token behind that line break (`brokenLiteral_padded`).
-/

namespace StoredSql

open Quotes Outcome

/-! ## Lines of raw statements -/

namespace Quotes

theorem after_of_closesLinesFrom {p : Place} {cs : List Char} (h : closesLinesFrom p cs = true) :
    after p cs = .outside := by
  induction cs generalizing p with
  | nil => exact of_decide_eq_true h
  | cons c cs ih =>
    rw [closesLinesFrom, Bool.and_eq_true] at h
    exact ih h.2

/-- White space at the end of a text keeps no line from closing its quotes. -/
theorem closesLinesFrom_of_append {p : Place} {cs ws : List Char}
    (hws : ∀ c ∈ ws, Text.isBlank c = true) (h : closesLinesFrom p (cs ++ ws) = true) :
    closesLinesFrom p cs = true := by
  induction cs generalizing p with
  | nil => exact decide_eq_true (eq_outside_of_after hws (after_of_closesLinesFrom h))
  | cons c cs ih =>
    rw [List.cons_append, closesLinesFrom, Bool.and_eq_true] at h
    rw [closesLinesFrom, Bool.and_eq_true]
    exact ⟨h.1, ih h.2⟩

theorem closesLinesFrom_append_semicolon {p : Place} {cs : List Char}
    (h : closesLinesFrom p cs = true) : closesLinesFrom p (cs ++ [';']) = true := by
  induction cs generalizing p with
  | nil =>
    obtain rfl : p = .outside := of_decide_eq_true h
    rfl
  | cons c cs ih =>
    rw [closesLinesFrom, Bool.and_eq_true] at h
    rw [List.cons_append, closesLinesFrom, Bool.and_eq_true]
    exact ⟨h.1, ih h.2⟩

/-- The first line is read where the text begins, every other one outside quotes. -/
theorem closed_of_splitChars {p : Place} {cs : List Char} (h : closesLinesFrom p cs = true) :
    ∃ l ls, Text.splitChars '\n' cs = l :: ls ∧ after p l = .outside ∧
      ∀ l ∈ ls, after .outside l = .outside := by
  induction cs generalizing p with
  | nil => exact ⟨[], [], rfl, of_decide_eq_true h, by simp⟩
  | cons c cs ih =>
    rw [closesLinesFrom, Bool.and_eq_true] at h
    obtain ⟨l, ls, hsplit, hl, hls⟩ := ih h.2
    by_cases hc : c = '\n'
    · subst hc
      obtain rfl : p = .outside := by simpa using h.1
      refine ⟨[], l :: ls, by rw [Text.splitChars, hsplit]; rfl, rfl, ?_⟩
      exact List.forall_mem_cons.2 ⟨hl, hls⟩
    · exact ⟨c :: l, ls, by rw [Text.splitChars, hsplit]; exact if_neg hc, hl, hls⟩

end Quotes

theorem Dialect.closesLines_finished {sql : String} (h : closesLines sql = true) :
    closesLines (finished sql) = true := by
  obtain ⟨ws, hws, hsql⟩ := Text.trimEndChars_eq sql.toList
  rw [closesLines, hsql] at h
  have htrimmed : closesLinesFrom .outside (Text.trimEnd sql).toList = true := by
    rw [Text.trimEnd, String.toList_ofList]
    exact closesLinesFrom_of_append hws h
  unfold finished
  split
  · exact htrimmed
  · rw [closesLines, String.toList_append]
    exact closesLinesFrom_append_semicolon htrimmed

theorem Dialect.isClosed_of_mem_lines {sql line : String} (h : closesLines sql = true)
    (hline : line ∈ Text.splitAll '\n' (finished sql)) : isClosed line = true := by
  obtain ⟨l, ls, hsplit, hl, hls⟩ := closed_of_splitChars (Dialect.closesLines_finished h)
  rw [Text.splitAll, hsplit] at hline
  obtain ⟨cs, hcs, rfl⟩ := List.mem_map.1 hline
  have hclosed : ∀ cs ∈ l :: ls, after .outside cs = .outside := List.forall_mem_cons.2 ⟨hl, hls⟩
  refine decide_eq_true ?_
  rw [String.toList_ofList, hclosed cs hcs]

/-! ## Rows -/

/-- Clean texts of which only the quotes matter. -/
theorem Quotes.clean_of_isClosed {t : String} (h : isClosed t = true) : Clean (fun _ => True) t :=
  ⟨of_decide_eq_true h, fun _ _ => trivial⟩

theorem Quotes.pieces_trimStart_append (t u : String) :
    pieces (Text.trimStart t ++ u) = pieces (t ++ u) := by
  obtain ⟨ws, hws, ht⟩ := Text.trimStartChars_eq t.toList
  have hsplit : t = String.ofList ws ++ Text.trimStart t := by
    rw [Text.trimStart, ← String.ofList_append, ← ht, String.ofList_toList]
  calc pieces (Text.trimStart t ++ u)
      = pieces (String.ofList ws ++ (Text.trimStart t ++ u)) := (pieces_blanks_append hws _).symm
    _ = pieces (t ++ u) := by rw [← String.append_assoc, ← hsplit]

namespace Row

/-- Spaces in front of a row are no part of its pieces. -/
theorem pieces_text (i : Nat) (r : Row) : pieces (r.text i) = pieces r.said := by
  refine pieces_blanks_append (fun c hc => ?_) _
  rw [List.eq_of_mem_replicate hc]
  rfl

theorem isClosed_text {i : Nat} {r : Row} (h : Clean (fun _ => True) r.content) :
    isClosed (r.text i) = true := by
  have hspaces : Clean (fun _ => True) (Dialect.spaces (i * r.level)) := by
    refine Clean.of_forall fun c hc => ⟨?_, trivial⟩
    rw [Dialect.spaces, String.toList_ofList] at hc
    rw [List.eq_of_mem_replicate hc]
    rfl
  have hend : Clean (fun _ => True) (if r.ended then ";" else "") := by
    cases r.ended <;> exact ⟨rfl, fun _ _ => trivial⟩
  exact (hspaces.append (h.append hend)).isClosed

end Row

/-- The pieces of raw statements are among those of the rows. -/
theorem layout_raw {R : String → Prop} (hR : ∀ t, R t → Clean (fun _ => True) t) {r : RawRule}
    (hraw : ∀ sql, r.statement sql = true → closesLines sql = true) :
    Layout R r fun ss rows => ∀ sql, .raw sql ∈ ss →
      pieces (Dialect.finished sql) <:+: rows.flatMap fun row => pieces row.said where
  nil sql h := absurd h List.not_mem_nil
  append {ss ss' rows rows'} h h' sql hsql := by
    rw [List.flatMap_append]
    rcases List.mem_append.1 hsql with hsql | hsql
    · exact (h sql hsql).trans (List.prefix_append _ _).isInfix
    · exact (h' sql hsql).trans (List.suffix_append _ _).isInfix
  headed level _ h sql hsql := (h sql hsql).trans (List.suffix_append _ _).isInfix
  ended {s ss rows t} level hs h _ sql hsql := by
    rw [List.flatMap_append]
    rcases List.mem_cons.1 hsql with rfl | hsql
    · cases hs
    · exact (h sql hsql).trans (List.prefix_append _ _).isInfix
  hung {ss rows t} level action conditions body ht h sql hsql := by
    have hsql : .raw sql ∈ ss := (List.mem_cons.1 hsql).resolve_left nofun
    refine (h sql hsql).trans ?_
    match rows with
    | [] => exact List.nil_infix
    | [row] =>
      have hclosed : isClosed t = true := (ht.woven.clean (fun _ _ => trivial) hR).isClosed
      have hsaid : pieces (⟨level, t ++ " " ++ Text.trimStart row.content, row.ended⟩ : Row).said
          = pieces t ++ pieces row.said := by
        have hblank := pieces_append_blank hclosed (c := ' ')
          (t := Text.trimStart row.content ++ if row.ended then ";" else "") (by decide)
        rw [pieces_trimStart_append] at hblank
        rw [Row.said, String.append_assoc]
        exact hblank
      rw [Row.hung, List.flatMap_singleton, List.flatMap_singleton, hsaid]
      exact (List.suffix_append _ _).isInfix
    | _ :: _ :: _ => exact (List.suffix_append _ _).isInfix
  empty sql hsql := absurd hsql (by simp)
  raw {sql} level h sql' hsql := by
    obtain rfl : sql' = sql := by simpa using hsql
    have hrows : ((Row.ofRaw level sql').flatMap fun row => pieces row.said)
        = (Text.splitAll '\n' (Dialect.finished sql')).flatMap pieces := by
      rw [Row.ofRaw, List.flatMap_map]
      simp [Row.said]
    have hlines := pieces_joinWith_lines fun l hl =>
      Dialect.isClosed_of_mem_lines (hraw _ h) (List.dropLast_subset _ hl)
    rw [Text.joinWith_splitAll] at hlines
    exact (hlines.trans hrows.symm) ▸ List.infix_rfl

/-! ## Blocks -/

/-- Raw texts that close their quotes, raw statements without a line break within quotes. -/
def RawRule.closed : RawRule := ⟨isClosed, closesLines, true⟩

/-- The pieces of a block: those of its head, of its rows and of its last line. -/
theorem pieces_block {head last : String} {rows : List Row} {i : Nat}
    (hhead : isClosed head = true) (hrows : ∀ r ∈ rows, Clean (fun _ => True) r.content) :
    pieces (Text.joinWith "\n" (head :: (rows.map (Row.text i) ++ [last])))
      = pieces head ++ (rows.flatMap (fun r => pieces r.said) ++ pieces last) := by
  have hclosed : ∀ l ∈ head :: rows.map (Row.text i), isClosed l = true := by
    refine List.forall_mem_cons.2 ⟨hhead, fun l hl => ?_⟩
    obtain ⟨r, hr, rfl⟩ := List.mem_map.1 hl
    exact Row.isClosed_text (hrows r hr)
  have hlines : ∀ l ∈ (head :: (rows.map (Row.text i) ++ [last])).dropLast, isClosed l = true := by
    rw [← List.cons_append, List.dropLast_concat]
    exact hclosed
  rw [pieces_joinWith_lines hlines, List.flatMap_cons, List.flatMap_append, List.flatMap_map,
    List.flatMap_singleton]
  simp only [Row.pieces_text]

/-- **The indent is cosmetic.** Where raw texts close their quotes and raw statements have no line
break within quotes, a block has the same pieces with every indent, and those of its raw statements
are among them. -/
theorem block_pieces_eq {d : Dialect} (hd : d.kind.complete = true) {b : Block}
    (hb : b.rawAll RawRule.closed = true) {terminator : String} {i j : Nat} {ti tj : String}
    (hi : (d.indented i).renderBlock b terminator = .ok ti)
    (hj : (d.indented j).renderBlock b terminator = .ok tj) :
    pieces ti = pieces tj ∧
      ∀ sql, .raw sql ∈ b.nodes → pieces (Dialect.finished sql) <:+: pieces ti := by
  obtain ⟨statements, label, scope⟩ := b
  rw [Block.rawAll] at hb
  have hR : ∀ t, isClosed t = true → Clean (fun _ => True) t := fun _ => clean_of_isClosed
  have hclean := layout_clean (r := RawRule.closed) (fun _ _ => trivial) hR fun sql h line hline =>
    clean_of_isClosed (Dialect.isClosed_of_mem_lines h hline)
  have hdeep : RawRule.closed.directive = true → (0 : Int) < 0 + 1 := fun _ => by decide
  obtain ⟨x, hx, hlines⟩ :=
    laid_bodyLines hd (fun _ h => h) (hclean.and (layout_raw hR fun _ h => h)) (fun _ _ => trivial)
      hb (.any _) hdeep
  -- the head and the last line are not indented, so the texts differ in the rows between them only
  have htext : ∀ {k t}, (d.indented k).renderBlock ⟨statements, label, scope⟩ terminator = .ok t →
      ∃ head rows, Dialect.labelled label "BEGIN" = .ok head ∧ x = .ok rows ∧
        t = Text.joinWith "\n" (head :: (rows.map (Row.text k) ++ ["END" ++ terminator])) := by
    intro k t h
    have hd : (d.indented k).kind.complete = true := hd
    rw [Dialect.renderBlock, Dialect.orMark, if_pos hd] at h
    obtain ⟨ls, hls, ht⟩ := bind_eq_ok.1 h
    obtain ⟨head, body, hhead, hbody, rfl⟩ := Dialect.blockLines_eq_ok.1 hls
    obtain ⟨rows, rfl, rfl⟩ := map_eq_ok.1 ((hlines k).symm.trans hbody)
    have hpad : (d.indented k).pad 0 = "" := by
      simp [Dialect.pad, Dialect.spaces]
    rw [hpad, String.empty_append, String.empty_append] at ht
    exact ⟨head, rows, hhead, rfl, (pure_eq_ok.1 ht).symm⟩
  obtain ⟨head, rows, hhead, rfl, rfl⟩ := htext hi
  obtain ⟨head', rows', hhead', hx', rfl⟩ := htext hj
  obtain rfl := Except.ok.inj (hhead.symm.trans hhead')
  obtain rfl := Except.ok.inj hx'
  obtain ⟨hrows, hraw⟩ := hx
  have hclosed : isClosed head = true := by
    have hword : Scan.Led (fun _ => False) "BEGIN" := .word (by decide) (by decide)
    have hled := (Scan.head_labelled (.block ⟨statements, label, scope⟩) [] hword).of_ok hhead
    exact (hled.woven.clean (fun _ _ => trivial) fun _ h => h.elim).isClosed
  rw [pieces_block hclosed hrows, pieces_block hclosed hrows]
  refine ⟨rfl, fun sql hsql => ?_⟩
  exact ((hraw sql hsql).trans (List.prefix_append _ _).isInfix).trans
    (List.suffix_append _ _).isInfix

/-- A block with a raw statement of two lines and a handler. -/
def rawLinesBlock : Block :=
  ⟨[.raw "SET @a = 'x  y',\n  @b = 2 ",
    .declareHandler .exit [.sqlException] (.block ⟨[.leave "l"], none, none⟩)], some "l", none⟩

/-- Its text with the spaces of a level. -/
def rawLinesText (pad : String) : String :=
  Text.joinWith "\n" ["l: BEGIN", pad ++ "SET @a = 'x  y',", pad ++ "  @b = 2;",
    pad ++ "DECLARE EXIT HANDLER FOR SQLEXCEPTION", pad ++ pad ++ "BEGIN",
    pad ++ pad ++ pad ++ "LEAVE l;", pad ++ pad ++ "END;", "END;"]

/-- The spaces leave its pieces and the quoted text alone. -/
theorem rawLinesBlock_pieces_eq :
    (({} : Dialect).indented 0).renderBlock rawLinesBlock ";" = .ok (rawLinesText "") ∧
      (({} : Dialect).indented 4).renderBlock rawLinesBlock ";" = .ok (rawLinesText "    ") ∧
      pieces (rawLinesText "") = pieces (rawLinesText "    ") ∧
      ["SET", "@a", "=", "'x  y',", "@b", "=", "2;"] <:+: pieces (rawLinesText "") := by
  have hraw : rawLinesBlock.rawAll RawRule.closed = true := by decide
  have hflat : (({} : Dialect).indented 0).renderBlock rawLinesBlock ";" = .ok (rawLinesText "") :=
    eq_ok_of_toOption (by decide +kernel)
  have hdeep : (({} : Dialect).indented 4).renderBlock rawLinesBlock ";"
      = .ok (rawLinesText "    ") := eq_ok_of_toOption (by decide +kernel)
  obtain ⟨hpieces, hsql⟩ := block_pieces_eq (d := {}) rfl hraw hflat hdeep
  have hraw : pieces (Dialect.finished "SET @a = 'x  y',\n  @b = 2 ")
      = ["SET", "@a", "=", "'x  y',", "@b", "=", "2;"] := by decide +kernel
  have hinfix := hsql "SET @a = 'x  y',\n  @b = 2 " (List.mem_cons_self ..)
  rw [hraw] at hinfix
  exact ⟨hflat, hdeep, hpieces, hinfix⟩

/-- A raw statement with a line break within quotes. -/
def brokenLiteral : String := "SET @a = 'x\ny'"

/-- The block that is built with it has the spaces of its indent in the quoted token. -/
theorem brokenLiteral_padded : ∃ b b' p,
    Builder.start .block (.value .null) Builder.usualStem = .ok emptyBuilder ∧
      emptyBuilder.runAll [.raw brokenLiteral] = (.ok (), b) ∧ b.build = (.ok p, b') ∧
      (({} : Dialect).indented 0).renderBlock p.body ";" = .ok "BEGIN\nSET @a = 'x\ny';\nEND;" ∧
      (({} : Dialect).indented 2).renderBlock p.body ";"
        = .ok "BEGIN\n  SET @a = 'x\n  y';\nEND;" ∧
      pieces "BEGIN\nSET @a = 'x\ny';\nEND;" ≠ pieces "BEGIN\n  SET @a = 'x\n  y';\nEND;" := by
  have hcalled : (emptyBuilder.runAll [.raw brokenLiteral]).1.isOk = true := by decide +kernel
  have hbuilt : (emptyBuilder.runAll [.raw brokenLiteral]).2.build.1.toOption.any (fun p =>
      ((({} : Dialect).indented 0).renderBlock p.body ";").toOption
          == some "BEGIN\nSET @a = 'x\ny';\nEND;"
        && ((({} : Dialect).indented 2).renderBlock p.body ";").toOption
          == some "BEGIN\n  SET @a = 'x\n  y';\nEND;") = true := by
    decide +kernel
  rcases hcalls : emptyBuilder.runAll [.raw brokenLiteral] with ⟨e | u, b⟩
  · rw [hcalls] at hcalled
    cases hcalled
  rw [hcalls] at hbuilt
  rcases hbuild : b.build with ⟨e | p, b'⟩
  · rw [hbuild] at hbuilt
    cases hbuilt
  rw [hbuild] at hbuilt
  obtain ⟨hflat, hdeep⟩ := Bool.and_eq_true_iff.1 hbuilt
  exact ⟨b, b', p, rfl, rfl, hbuild, eq_ok_of_toOption (beq_iff_eq.1 hflat),
    eq_ok_of_toOption (beq_iff_eq.1 hdeep), by decide⟩

end StoredSql
