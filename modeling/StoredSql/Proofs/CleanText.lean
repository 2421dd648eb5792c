import StoredSql.Proofs.LiteralText
import StoredSql.Proofs.Quotes
import StoredSql.Proofs.Rows

/-!
# Woven texts and rows are clean

A text that is woven of words, names and literals closes the quotes that it opens and has no
semicolon outside quotes, and with raw texts among its strands it is as clean as these are
(`Scan.Woven.clean`). The same holds of the rows of statements (`layout_clean`).
-/

namespace StoredSql.Quotes

open Scan

theorem not_quote_of_isTame {c : Char} (h : isTame c = true) :
    Quote.ofChar? c = none ∧ c ≠ ';' := by
  rw [isTame, Bool.and_eq_true, bne_iff_ne, isQuiet, Bool.not_eq_true', List.contains_eq_mem,
    decide_eq_false_iff_not] at h
  obtain ⟨hquiet, hdouble⟩ := h
  have hne : ∀ m ∈ marks, c ≠ m := by
    rintro m hm rfl
    exact hquiet hm
  exact ⟨by simp [Quote.ofChar?, hdouble, hne '\'' (by decide), hne '\x60' (by decide)],
    hne ';' (by decide)⟩

section
variable {P : Char → Prop} (hP : ∀ c, c ≠ ';' → P c) {t : String}
include hP

theorem clean_word (h : IsWord t) : Clean P t := by
  refine Clean.of_forall fun c hc => ?_
  obtain ⟨hquote, hne⟩ := not_quote_of_isTame (h.isTame c hc)
  exact ⟨hquote, hP c hne⟩

theorem clean_parenthesized (h : Clean P t) : Clean P (Shape.parenthesized t) := by
  have hmark : ∀ m, m = '(' ∨ m = ')' → Clean P (String.ofList [m]) := by
    rintro m (rfl | rfl) <;>
      exact Clean.of_forall fun c hc => by
        obtain rfl := List.mem_singleton.1 (by simpa using hc)
        exact ⟨by decide, hP _ (by decide)⟩
  exact ((hmark '(' (.inl rfl)).append h).append (hmark ')' (.inr rfl))

end

/-! ## Strands -/

theorem inside_doubleBackticks (cs : List Char) : Inside .backtick (Dialect.doubleBackticks cs) := by
  refine Inside.flatMap fun c _ => ?_
  split
  · rename_i hc
    subst hc
    exact ⟨rfl, rfl⟩
  · rename_i hc
    exact Inside.single hc (.inr rfl)

theorem clean_backquoted {P : Char → Prop} {name t : String}
    (h : Dialect.backquoted name = .ok t) : Clean P t := by
  have ht : t = String.ofList
      (Quote.backtick.char :: (Dialect.doubleBackticks name.toList ++ [Quote.backtick.char])) :=
    Dialect.eq_of_backquoted h
  rw [ht]
  exact (inside_doubleBackticks _).clean

/-- An escaped character is read within quotes, whatever it is. -/
theorem inside_escapeChar (c : Char) : Inside .single (Dialect.escapeChar c) := by
  unfold Dialect.escapeChar
  split
  · exact ⟨rfl, rfl⟩
  split
  · exact ⟨rfl, rfl⟩
  split
  · exact ⟨rfl, rfl⟩
  split
  · exact ⟨rfl, rfl⟩
  · rename_i hb hq _ _
    exact Inside.single hq (.inl hb)

theorem clean_quotedText {P : Char → Prop} (s : String) : Clean P (Dialect.quotedText s) := by
  rw [Dialect.quotedText_eq]
  exact (Inside.flatMap fun c _ => inside_escapeChar c).clean

theorem inside_isVerbatim {cs : List Char} (h : ∀ c ∈ cs, isVerbatim c = true) :
    Inside .single cs := by
  rw [← List.flatMap_singleton' cs]
  refine Inside.flatMap fun c hc => ?_
  have hc := h c hc
  simp only [isVerbatim, Bool.and_eq_true, bne_iff_ne, ne_eq] at hc
  exact Inside.single hc.1 (.inl hc.2)

/-- White space in front of a text keeps it clean when it goes. -/
theorem clean_trimStart {P : Char → Prop} {t : String} (h : Clean P t) :
    Clean P (Text.trimStart t) := by
  obtain ⟨ws, hws, ht⟩ := Text.trimStartChars_eq t.toList
  have hafter := h.closed
  have houtside := h.outside
  rw [ht, after_append, after_isBlank hws] at hafter
  rw [ht, unquoted_append, after_isBlank hws] at houtside
  constructor
  · rw [Text.trimStart, String.toList_ofList]
    exact hafter
  · rw [Text.trimStart, String.toList_ofList]
    exact fun c hc => houtside c (List.mem_append_right _ hc)

section
variable {P : Char → Prop}

theorem clean_tagged {word : String} {cs : List Char} (hw : Clean P word)
    (hcs : ∀ c ∈ cs, isVerbatim c = true) : Clean P (Dialect.tagged word cs) := by
  rw [Dialect.tagged_eq]
  exact hw.append (inside_isVerbatim hcs).clean

/-- A number is made of numerals and minus signs. -/
theorem clean_number (hP : ∀ c, isNumeral c = true ∨ c = '-' → P c) (negative : Bool)
    {cs more : List Char} (hcs : ∀ c ∈ cs, isNumeral c = true) (hmore : IsExponent more) :
    Clean P (Number.Decimal.signed negative (cs ++ more)) := by
  have hquote : ∀ c, isNumeral c = true ∨ c = '-' → Quote.ofChar? c = none := by
    rintro c (hc | rfl)
    · exact (not_quote_of_isTame (isTame_of hc (by decide) (by decide))).1
    · decide
  refine Clean.of_forall fun c hc => ?_
  have hc := isNumeral_or_of_mem_signed negative hcs hmore c hc
  exact ⟨hquote c hc, hP c hc⟩

end

section
variable {P : Char → Prop} (hP : ∀ c, c ≠ ';' → P c) {t : String}
include hP

theorem clean_literal {v : Value} (h : Dialect.literal v = .ok t) : Clean P t := by
  cases literalForm h with
  | word h => exact clean_word hP h
  | number negative _ hcs hmore =>
    refine clean_number (fun c hc => hP c ?_) negative hcs hmore
    rintro rfl
    exact absurd hc (by decide)
  | tagged hw hcs => exact clean_tagged (clean_word hP hw) hcs
  | quoted s => exact clean_quotedText s

theorem clean_operator (op : ArithmeticOp) : Clean P (" " ++ Keyword.word op ++ " ") := by
  refine Clean.of_forall fun c hc => ?_
  have hchars : ((" " ++ Keyword.word op ++ " ").toList.all fun c =>
      (Quote.ofChar? c).isNone && c != ';') = true := by
    cases op <;> decide
  obtain ⟨hquote, hend⟩ := Bool.and_eq_true_iff.1 (List.all_eq_true.1 hchars c hc)
  exact ⟨Option.isNone_iff_eq_none.1 hquote, hP c (bne_iff_ne.1 hend)⟩

end

end StoredSql.Quotes

namespace StoredSql

open Quotes

section
variable {P : Char → Prop} (hP : ∀ c, c ≠ ';' → P c) {R : String → Prop}
  (hR : ∀ t, R t → Clean P t)
include hP hR

/-- **A woven text is as clean as the raw texts in it.** -/
theorem Scan.Woven.clean {t : String} (h : Woven R t) : Clean P t := by
  induction h with
  | word h => exact clean_word hP h
  | name h => exact clean_backquoted h
  | literal h => exact clean_literal hP h
  | raw h => exact hR _ h
  | clause hw _ _ ih => exact (clean_word hP hw).append ih
  | glued _ hg _ _ iha ihb => exact (iha.append (clean_word hP hg)).append ihb
  | spaced _ _ _ iha ihb => exact (iha.append (clean_word hP (by decide))).append ihb
  | operated _ op _ iha ihb => exact (iha.append (clean_operator hP op)).append ihb
  | hung _ _ iha ihb => exact iha.append (clean_parenthesized hP ihb)

/-- Rows say what is clean, if the lines of raw statements are. -/
theorem layout_clean {r : RawRule} (hraw : ∀ sql, r.statement sql = true →
    ∀ line ∈ Text.splitAll '\n' (Dialect.finished sql), Clean P line) :
    Layout R r fun _ rows => ∀ row ∈ rows, Clean P row.content where
  nil := by simp
  append h h' row hrow := (List.mem_append.1 hrow).elim (h row) (h' row)
  headed level ht h := List.forall_mem_cons.2 ⟨ht.woven.clean hP hR, h⟩
  ended level _ h ht row hrow := by
    rcases List.mem_append.1 hrow with hrow | hrow
    · exact h row hrow
    · obtain rfl := List.mem_singleton.1 hrow
      exact ht.woven.clean hP hR
  hung {ss rows t} level action conditions body ht h := by
    have ht := ht.woven.clean hP hR
    match rows with
    | [] => exact List.forall_mem_cons.2 ⟨ht, h⟩
    | [row] =>
      refine List.forall_mem_cons.2 ⟨?_, by simp⟩
      exact (ht.append (clean_word hP (by decide))).append (clean_trimStart (h row (by simp)))
    | _ :: _ :: _ => exact List.forall_mem_cons.2 ⟨ht, h⟩
  empty := List.forall_mem_cons.2 ⟨clean_word hP (by decide), by simp⟩
  raw level h row hrow := by
    obtain ⟨line, hline, rfl⟩ := List.mem_map.1 hrow
    exact hraw _ h line hline

end

end StoredSql
