import StoredSql.Proofs.NameText

/-!
# Literals as pieces

Every literal is a piece of text: what is a text stands in single quotes with its quotes and
backslashes escaped, dates, times and bytes have no such characters, and numbers are made of digits,
a point, an exponent and minus signs that never meet.
-/

namespace StoredSql.Scan

/-! ## Quotes -/

/-- Characters between single quotes that stand for themselves. -/
def isVerbatim (c : Char) : Bool := c != '\'' && c != '\\'

theorem moves_isVerbatim {c : Char} (h : isVerbatim c = true) : Moves (· = .text) (· = .text) [c] := by
  rintro _ d rfl
  simp only [isVerbatim, Bool.and_eq_true, bne_iff_ne, ne_eq] at h
  exact ⟨.text, rfl, by simp [run, step, h]⟩

/-- An escaped character is read within quotes, whatever it is. -/
theorem moves_escapeChar (c : Char) :
    Moves (· = .text) (· = .text) (Dialect.escapeChar c) := by
  unfold Dialect.escapeChar
  split
  · rintro _ d rfl; exact ⟨.text, rfl, rfl⟩
  split
  · rintro _ d rfl; exact ⟨.text, rfl, rfl⟩
  split
  · rintro _ d rfl; exact ⟨.text, rfl, rfl⟩
  split
  · rintro _ d rfl; exact ⟨.text, rfl, rfl⟩
  · rename_i hb hq _ _
    exact moves_isVerbatim (by simp [isVerbatim, hb, hq])

theorem moves_openText : Moves Fresh (· = .text) ['\''] := by
  rintro _ d ⟨last, rfl, _⟩
  exact ⟨.text, rfl, rfl⟩

/-- What is read within single quotes, with the quotes around it. -/
theorem moves_quoted {cs : List Char} (h : Moves (· = .text) (· = .text) cs) :
    Moves Fresh Rested ('\'' :: (cs ++ ['\''])) := by
  have hclose : Moves (· = .text) Rested ['\''] := by
    rintro _ d rfl
    exact ⟨.textQuote, .inr (.inl rfl), rfl⟩
  exact moves_openText.cons (h.append hclose)

theorem piece_quotedText (s : String) : Piece (Dialect.quotedText s) := by
  rw [Piece, Dialect.quotedText_eq, String.toList_ofList]
  exact moves_quoted (Moves.flatMap fun c _ => moves_escapeChar c)

theorem piece_tagged {word : String} {cs : List Char} (hw : word.toList.all isQuiet = true)
    (hcs : ∀ c ∈ cs, isVerbatim c = true) : Piece (Dialect.tagged word cs) := by
  rw [Piece, Dialect.tagged_eq, String.toList_append, String.toList_ofList]
  rw [List.all_eq_true] at hw
  exact (moves_freshQuiet hw).append
    (moves_quoted (Moves.of_forall fun c hc => moves_isVerbatim (hcs c hc)))

/-! ## Numbers -/

/-- The same behind a minus, if they do not begin with a star. -/
theorem moves_minus {c : Char} {cs : List Char} (h : ∀ d ∈ c :: cs, isQuiet d = true)
    (hs : c ≠ '*') : Moves Rested Fresh ('-' :: c :: cs) := by
  have hrest : Moves Fresh Fresh cs := moves_freshQuiet fun d hd => h d (by simp [hd])
  exact Moves.append (moves_mark (.inl rfl) (h c (by simp)) hs) hrest

/-- The characters of a number besides the minus. -/
def isNumeral (c : Char) : Bool := c.isDigit || c == '.' || c == 'e' || c == '+'

theorem isQuiet_of_isNumeral {c : Char} (h : isNumeral c = true) : isQuiet c = true :=
  isQuiet_of h (by decide)

theorem ne_star_of_isNumeral {c : Char} (h : isNumeral c = true) : c ≠ '*' := by
  rintro rfl
  exact absurd h (by decide)

theorem isNumeral_of_mem_digits {n : Nat} {c : Char} (h : c ∈ Number.digits n) :
    isNumeral c = true := by
  simp only [isNumeral, Number.isDigit_of_mem_digits h, Bool.true_or]

theorem moves_numerals {cs : List Char} (h : ∀ c ∈ cs, isNumeral c = true) (hne : cs ≠ []) :
    Moves Rested Fresh cs :=
  moves_quiet (fun c hc => isQuiet_of_isNumeral (h c hc)) hne

theorem moves_minus_numerals {cs : List Char} (h : ∀ c ∈ cs, isNumeral c = true) (hne : cs ≠ []) :
    Moves Rested Fresh ('-' :: cs) := by
  cases cs with
  | nil => exact absurd rfl hne
  | cons c cs =>
    exact moves_minus (fun d hd => isQuiet_of_isNumeral (h d hd))
      (ne_star_of_isNumeral (h c (by simp)))

/-- A number with or without a minus in front, and with more behind it. -/
theorem piece_signed_append {negative : Bool} {cs more : List Char}
    (h : ∀ c ∈ cs, isNumeral c = true) (hne : cs ≠ []) (hmore : Moves Fresh Fresh more) :
    Piece (Number.Decimal.signed negative (cs ++ more)) := by
  have hcs : Moves Fresh Rested (cs ++ more) := fun p d hp =>
    ((moves_numerals h hne).append hmore).weaken p d hp.rested
  have hminus : Moves Fresh Rested ('-' :: cs ++ more) := fun p d hp =>
    ((moves_minus_numerals h hne).append hmore).weaken p d hp.rested
  rw [Piece, Number.Decimal.signed, String.toList_ofList]
  split
  · exact hminus
  · exact hcs

theorem isNumeral_of_mem_withPoint {ds : List Char} {places : Nat}
    (h : ∀ c ∈ ds, isNumeral c = true) : ∀ c ∈ Number.withPoint ds places, isNumeral c = true := by
  intro c hc
  unfold Number.withPoint at hc
  split at hc
  · exact h c hc
  split at hc
  · rcases List.mem_append.1 hc with hc | hc
    · exact h c (List.mem_of_mem_take hc)
    · rcases List.mem_cons.1 hc with rfl | hc
      · rfl
      · exact h c (List.mem_of_mem_drop hc)
  · simp only [List.mem_cons, List.mem_append, List.mem_replicate] at hc
    rcases hc with rfl | rfl | ⟨_, rfl⟩ | hc
    · rfl
    · rfl
    · rfl
    · exact h c hc

theorem digits_ne_nil (n : Nat) : Number.digits n ≠ [] := Nat.toDigits_ne_nil

theorem withPoint_ne_nil {ds : List Char} (h : ds ≠ []) (places : Nat) :
    Number.withPoint ds places ≠ [] := by
  unfold Number.withPoint
  split
  · exact h
  split <;> simp

theorem isNumeral_of_mem_positionalDigits {coefficient : Nat} {exponent : Int} :
    ∀ c ∈ Number.Decimal.positionalDigits coefficient exponent, isNumeral c = true := by
  intro c hc
  unfold Number.Decimal.positionalDigits at hc
  split at hc
  · split at hc
    · obtain rfl := List.mem_singleton.1 hc
      rfl
    · rcases List.mem_append.1 hc with hc | hc
      · exact isNumeral_of_mem_digits hc
      · obtain ⟨_, rfl⟩ := List.mem_replicate.1 hc
        rfl
  · exact isNumeral_of_mem_withPoint (fun c hc => isNumeral_of_mem_digits hc) c hc

theorem positionalDigits_ne_nil (coefficient : Nat) (exponent : Int) :
    Number.Decimal.positionalDigits coefficient exponent ≠ [] := by
  unfold Number.Decimal.positionalDigits
  split
  · split <;> simp [digits_ne_nil]
  · exact withPoint_ne_nil (digits_ne_nil _) _

theorem isNumeral_of_mem_significantDigits {n : Nat} :
    ∀ c ∈ Number.significantDigits n, isNumeral c = true := by
  intro c hc
  rw [Number.significantDigits, List.mem_reverse] at hc
  exact isNumeral_of_mem_digits (List.mem_reverse.1 ((List.dropWhile_sublist _).subset hc))

theorem isNumeral_of_mem_shortest {m : Nat} {e : Int} :
    ∀ c ∈ (Number.Binary64.shortest m e).1, isNumeral c = true := by
  intro c hc
  simp only [Number.Binary64.shortest] at hc
  split at hc
  · exact isNumeral_of_mem_significantDigits c hc
  · obtain rfl := List.mem_singleton.1 hc
    rfl

/-- What may follow the digits of a number: nothing, or the sign and the digits of an exponent. -/
inductive IsExponent : List Char → Prop where
  | none : IsExponent []
  | digits {sign : Char} {ds : List Char} (hs : sign = '-' ∨ sign = '+') (hne : ds ≠ [])
      (h : ∀ c ∈ ds, isNumeral c = true) : IsExponent (sign :: ds)

theorem IsExponent.moves {cs : List Char} (h : IsExponent cs) : Moves Fresh Fresh cs := by
  intro p d hp
  cases h with
  | none => exact Moves.nil (fun _ hp => hp) p d hp
  | @digits sign ds hs hne h =>
    obtain rfl | rfl := hs
    · exact moves_minus_numerals h hne p d hp.rested
    · exact moves_numerals (List.forall_mem_cons.2 ⟨rfl, h⟩) (List.cons_ne_nil '+' ds) p d hp.rested

theorem IsExponent.isNumeral_or {cs : List Char} (h : IsExponent cs) :
    ∀ c ∈ cs, isNumeral c = true ∨ c = '-' := by
  cases h with
  | none => simp
  | digits hs _ hds =>
    refine List.forall_mem_cons.2 ⟨?_, fun c hc => .inl (hds c hc)⟩
    rcases hs with rfl | rfl
    · exact .inr rfl
    · exact .inl rfl

/-- The characters of a number. -/
theorem isNumeral_or_of_mem_signed (negative : Bool) {cs more : List Char}
    (h : ∀ c ∈ cs, isNumeral c = true) (hmore : IsExponent more) :
    ∀ c ∈ (Number.Decimal.signed negative (cs ++ more)).toList, isNumeral c = true ∨ c = '-' := by
  have hall : ∀ c ∈ '-' :: (cs ++ more), isNumeral c = true ∨ c = '-' := by
    refine List.forall_mem_cons.2 ⟨.inr rfl, fun c hc => ?_⟩
    rcases List.mem_append.1 hc with hc | hc
    · exact .inl (h c hc)
    · exact hmore.isNumeral_or c hc
  intro c hc
  refine hall c ?_
  rw [Number.Decimal.signed, String.toList_ofList] at hc
  split at hc
  · exact hc
  · exact List.mem_cons_of_mem _ hc

/-- The shortest text of a number has a minus only behind the mark of an exponent, and digits after
it. -/
theorem shortestText_eq {ds : List Char} (h : ∀ c ∈ ds, isNumeral c = true) (place : Int) :
    ∃ cs more, Number.Binary64.shortestText ds place = cs ++ more ∧ cs ≠ [] ∧
      (∀ c ∈ cs, isNumeral c = true) ∧ IsExponent more := by
  have hzeros : ∀ n, ∀ c ∈ List.replicate n '0', isNumeral c = true := by
    intro n c hc
    obtain ⟨_, rfl⟩ := List.mem_replicate.1 hc
    rfl
  unfold Number.Binary64.shortestText
  split
  · split
    · refine ⟨_, [], (List.append_nil _).symm, by simp, ?_, .none⟩
      simp only [List.mem_cons, List.mem_append]
      rintro c (rfl | rfl | hc | hc)
      · rfl
      · rfl
      · exact hzeros _ c hc
      · exact h c hc
    split
    · rename_i hlt
      have hds : ds ≠ [] := by
        rintro rfl
        simp at hlt
      exact ⟨_, [], (List.append_nil _).symm, withPoint_ne_nil hds _,
        isNumeral_of_mem_withPoint h, .none⟩
    · refine ⟨_, [], (List.append_nil _).symm, by simp, ?_, .none⟩
      simp only [List.mem_append, List.mem_cons, List.not_mem_nil, or_false]
      rintro c ((hc | hc) | rfl | rfl)
      · exact h c hc
      · exact hzeros _ c hc
      · rfl
      · rfl
  · have hexp : ∀ c ∈ Number.digits (place - 1).natAbs, isNumeral c = true :=
      fun c hc => isNumeral_of_mem_digits hc
    have hpadded : ∀ c ∈ (if (Number.digits (place - 1).natAbs).length < 2 then
        '0' :: Number.digits (place - 1).natAbs else Number.digits (place - 1).natAbs),
        isNumeral c = true := by
      intro c hc
      split at hc
      · rcases List.mem_cons.1 hc with rfl | hc
        · rfl
        · exact hexp c hc
      · exact hexp c hc
    refine ⟨_ ++ ['e'], _, by rw [List.append_assoc]; rfl, by simp, ?_,
      .digits (by split <;> simp) (by split <;> simp [digits_ne_nil]) hpadded⟩
    intro c hc
    rcases List.mem_append.1 hc with hc | hc
    · split at hc
      · simp only [List.mem_cons] at hc
        rcases hc with rfl | rfl | rfl | hc
        · exact h c (by simp)
        · rfl
        · exact h c (by simp)
        · exact h c (by simp [hc])
      · exact h c hc
    · obtain rfl := List.mem_singleton.1 hc
      rfl

/-! ## Literals -/

theorem isVerbatim_of {p : Char → Bool} {c : Char} (hc : p c = true) (hq : p '\'' = false)
    (hb : p '\\' = false) : isVerbatim c = true := by
  rw [isVerbatim, Bool.and_eq_true, bne_iff_ne, bne_iff_ne]
  constructor
  · rintro rfl
    rw [hq] at hc
    exact Bool.noConfusion hc
  · rintro rfl
    rw [hb] at hc
    exact Bool.noConfusion hc

theorem isVerbatim_of_isNumeral {c : Char} (h : isNumeral c = true) : isVerbatim c = true :=
  isVerbatim_of h (by decide) (by decide)

theorem isVerbatim_of_mem_padded {width n : Nat} :
    ∀ c ∈ Calendar.padded width n, isVerbatim c = true := by
  intro c hc
  rcases List.mem_append.1 hc with hc | hc
  · obtain ⟨_, rfl⟩ := List.mem_replicate.1 hc
    rfl
  · exact isVerbatim_of_isNumeral (isNumeral_of_mem_digits hc)

theorem isVerbatim_of_mem_date (d : Calendar.Date) : ∀ c ∈ d.chars, isVerbatim c = true := by
  intro c hc
  simp only [Calendar.Date.chars, List.mem_append, List.mem_cons] at hc
  rcases hc with hc | rfl | hc | rfl | hc
  all_goals first | rfl | exact isVerbatim_of_mem_padded c hc

theorem isVerbatim_of_mem_clock (t : Calendar.Clock) : ∀ c ∈ t.chars, isVerbatim c = true := by
  intro c hc
  simp only [Calendar.Clock.chars, List.mem_append, List.mem_cons] at hc
  rcases hc with (hc | rfl | hc | rfl | hc) | hc
  · exact isVerbatim_of_mem_padded c hc
  · rfl
  · exact isVerbatim_of_mem_padded c hc
  · rfl
  · exact isVerbatim_of_mem_padded c hc
  · split at hc
    · cases hc
    · rcases List.mem_cons.1 hc with rfl | hc
      · rfl
      · exact isVerbatim_of_mem_padded c hc

theorem isVerbatim_hexDigit (capital : Bool) :
    ∀ d, d < 16 → isVerbatim (Text.hexDigit capital d) = true := by
  cases capital <;> decide

theorem isVerbatim_of_mem_hexDigits {capital : Bool} {width n : Nat} :
    ∀ c ∈ Text.hexDigits capital width n, isVerbatim c = true := by
  induction width generalizing n with
  | zero => simp [Text.hexDigits]
  | succ width ih =>
    intro c hc
    rcases List.mem_append.1 hc with hc | hc
    · exact ih c hc
    · obtain rfl := List.mem_singleton.1 hc
      exact isVerbatim_hexDigit capital _ (Nat.mod_lt _ (by decide))

theorem isVerbatim_of_mem_uuid (u : Uuid) : ∀ c ∈ u.chars, isVerbatim c = true := by
  intro c hc
  have hds : ∀ c ∈ Text.hexDigits false 32 u.bits.toNat, isVerbatim c = true :=
    isVerbatim_of_mem_hexDigits
  simp only [Uuid.chars, List.mem_append, List.mem_cons] at hc
  rcases hc with hc | rfl | hc | rfl | hc | rfl | hc | rfl | hc
  · exact hds c (List.mem_of_mem_take hc)
  · rfl
  · exact hds c (List.mem_of_mem_drop (List.mem_of_mem_take hc))
  · rfl
  · exact hds c (List.mem_of_mem_drop (List.mem_of_mem_take hc))
  · rfl
  · exact hds c (List.mem_of_mem_drop (List.mem_of_mem_take hc))
  · rfl
  · exact hds c (List.mem_of_mem_drop hc)

theorem isVerbatim_of_mem_byteDigits (bs : List UInt8) :
    ∀ c ∈ Dialect.byteDigits bs, isVerbatim c = true := by
  intro c hc
  obtain ⟨b, _, hc⟩ := List.mem_flatMap.1 hc
  exact isVerbatim_of_mem_hexDigits c hc

/-- The words that stand for a value. -/
def valueWords : List String := ["NULL", "TRUE", "FALSE"]

/-- The words in front of characters between quotes. -/
def tagWords : List String := ["", "X", "TIMESTAMP ", "DATE ", "TIME "]

/-- How a literal is written: a word, a number, characters between quotes behind a word, or a text
between quotes. -/
inductive LiteralForm : String → Prop where
  | word {t : String} (h : IsWord t) (ht : t ∈ valueWords) : LiteralForm t
  | number (negative : Bool) {cs more : List Char} (hne : cs ≠ [])
      (hcs : ∀ c ∈ cs, isNumeral c = true) (hmore : IsExponent more) :
      LiteralForm (Number.Decimal.signed negative (cs ++ more))
  | tagged {word : String} {cs : List Char} (hw : IsWord word)
      (hcs : ∀ c ∈ cs, isVerbatim c = true) (ht : word ∈ tagWords) :
      LiteralForm (Dialect.tagged word cs)
  | quoted (s : String) : LiteralForm (Dialect.quotedText s)

theorem LiteralForm.whole (negative : Bool) {cs : List Char} (hne : cs ≠ [])
    (hcs : ∀ c ∈ cs, isNumeral c = true) :
    LiteralForm (Number.Decimal.signed negative cs) := by
  rw [← List.append_nil cs]
  exact .number negative hne hcs .none

theorem literalForm_intText (n : Int) : LiteralForm (Number.intText n) := by
  cases n with
  | ofNat n => exact .whole false (digits_ne_nil n) fun c hc => isNumeral_of_mem_digits hc
  | negSucc n => exact .whole true (digits_ne_nil (n + 1)) fun c hc => isNumeral_of_mem_digits hc

theorem literalForm_floatText {x : Number.Binary64} (h : x.isFinite = true) :
    LiteralForm x.text := by
  cases x with
  | finite negative m e =>
    have hparts : ∃ cs more,
        (if m = 0 then ['0', '.', '0'] else Number.Binary64.shortestText
          (Number.Binary64.shortest m e).1 (Number.Binary64.shortest m e).2) = cs ++ more ∧
        cs ≠ [] ∧ (∀ c ∈ cs, isNumeral c = true) ∧ IsExponent more := by
      split
      · exact ⟨['0', '.', '0'], [], rfl, by simp, by simp [isNumeral], .none⟩
      · exact shortestText_eq isNumeral_of_mem_shortest _
    obtain ⟨cs, more, e, hne, hcs, hmore⟩ := hparts
    have htext := LiteralForm.number negative hne hcs hmore
    rw [← e] at htext
    exact htext
  | infinite negative => cases h
  | notANumber => cases h

/-- Every literal has one of the forms. -/
theorem literalForm {v : Value} {text : String} (h : Dialect.literal v = .ok text) :
    LiteralForm text := by
  unfold Dialect.literal at h
  split at h
  · obtain rfl := Except.ok.inj h
    exact .word (by decide) (by decide)
  · rename_i b
    obtain rfl := Except.ok.inj h
    cases b <;> exact .word (by decide) (by decide)
  · obtain rfl := Except.ok.inj h
    exact literalForm_intText _
  · split at h
    · rename_i hfinite
      obtain rfl := Except.ok.inj h
      exact literalForm_floatText hfinite
    · cases h
  · obtain rfl := Except.ok.inj h
    exact .whole _ (positionalDigits_ne_nil _ _) isNumeral_of_mem_positionalDigits
  · cases h
  · obtain rfl := Except.ok.inj h
    exact .quoted _
  · obtain rfl := Except.ok.inj h
    exact .quoted _
  · obtain rfl := Except.ok.inj h
    exact .tagged (by decide) (isVerbatim_of_mem_byteDigits _) (by decide)
  · obtain rfl := Except.ok.inj h
    exact .tagged (by decide) (isVerbatim_of_mem_byteDigits _) (by decide)
  · split at h
    · rename_i u _
      obtain rfl := Except.ok.inj h
      refine .tagged (by decide) (fun c hc => ?_) (by decide)
      rcases List.mem_append.1 hc with hc | hc
      · exact isVerbatim_of_mem_date _ c hc
      · rcases List.mem_cons.1 hc with rfl | hc
        · rfl
        · exact isVerbatim_of_mem_clock _ c hc
    · cases h
  · obtain rfl := Except.ok.inj h
    exact .tagged (by decide) (isVerbatim_of_mem_date _) (by decide)
  · obtain rfl := Except.ok.inj h
    exact .tagged (by decide) (isVerbatim_of_mem_clock _) (by decide)
  · obtain rfl := Except.ok.inj h
    exact .tagged (by decide) (isVerbatim_of_mem_uuid _) (by decide)

/-- **Every literal is a piece of text.** -/
theorem piece_literal {v : Value} {text : String} (h : Dialect.literal v = .ok text) :
    Piece text := by
  cases literalForm h with
  | word h => exact (tail_of_quiet h.isQuiet).piece
  | number negative hne hcs hmore => exact piece_signed_append hcs hne hmore.moves
  | tagged hw hcs => exact piece_tagged hw.isQuiet hcs
  | quoted s => exact piece_quotedText s

end StoredSql.Scan
