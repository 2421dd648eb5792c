import StoredSql.Proofs.Cutting
import StoredSql.Proofs.NameReading
import StoredSql.Proofs.QuerySafety

/-!
# The words of a text

A text is cut into `words` at the spaces that a scan finds in code with no parenthesis open. What
stands in quotes or in parentheses is not cut, so a name, a number, a call and a text in parentheses
are one word each (`words_eq_singleton`). Some operands are written as two words: `EXISTS` belongs
to the parentheses behind it, and the word for a kind of time to the quotes behind it. The `terms` of
a text are its words, with these put together again. Texts with an operator between them have their
terms with the operator between them (`terms_joined`).
-/

namespace StoredSql.Scan

/-! ## Cutting at spaces -/

/-- Reads a character, if what stands before it could be read. -/
def stepIfAny (s : Option State) (c : Char) : Option State := s.bind (step · c)

/-- Whether a character stands between words: a space in code with no parenthesis open. -/
def partsWords : Option State → Char → Bool
  | some ⟨p, 0⟩, c => c == ' ' && p.isOutside
  | _, _ => false

/-- The words of a text. -/
def words (t : String) : List String :=
  (Text.cutBy stepIfAny partsWords (some start) t.toList).map String.ofList

theorem foldl_stepIfAny (s : State) (cs : List Char) :
    cs.foldl stepIfAny (some s) = run s cs := by
  have hnone : ∀ cs : List Char, cs.foldl stepIfAny none = none := fun cs => by
    induction cs with
    | nil => rfl
    | cons c cs ih => exact ih
  induction cs generalizing s with
  | nil => rfl
  | cons c cs ih =>
    rw [List.foldl_cons, run]
    show cs.foldl stepIfAny (step s c) = _
    cases step s c with
    | none => exact hnone cs
    | some s => exact ih s

theorem partsWords_of_ne {c : Char} (hc : c ≠ ' ') (s : Option State) :
    partsWords s c = false := by
  unfold partsWords
  split
  · simp [hc]
  · rfl

/-- Where the scan is fresh, a text is cut as it is at the start. -/
theorem cutBy_fresh {p : Place} (hp : Fresh p) (cs : List Char) :
    Text.cutBy stepIfAny partsWords (some ⟨p, 0⟩) cs
      = Text.cutBy stepIfAny partsWords (some start) cs := by
  obtain ⟨last, rfl, hminus, hslash⟩ := hp
  cases cs with
  | nil => rfl
  | cons c cs =>
    have hstep : stepIfAny (some ⟨.code last, 0⟩) c = stepIfAny (some start) c := by
      simp [stepIfAny, start, step, stepCode, hminus, hslash]
    rw [Text.cutBy, Text.cutBy, hstep]
    rfl

theorem words_append {a : String} (h : Contained a) (b : String) :
    words (a ++ " " ++ b) = words a ++ words b := by
  obtain ⟨⟨q, _⟩, hrun, hq, rfl⟩ := h
  have htext : (a ++ " " ++ b).toList = a.toList ++ ' ' :: b.toList := by simp
  have hstop : partsWords (a.toList.foldl stepIfAny (some start)) ' ' = true := by
    rw [foldl_stepIfAny, hrun]
    simpa [partsWords] using hq
  have hspace : step ⟨q, 0⟩ ' ' = some ⟨.code (some ' '), 0⟩ := by
    cases q <;> first | exact Bool.noConfusion hq | simp [step, stepCode]
  rw [words, htext, Text.cutBy_append hstop, List.map_append, foldl_stepIfAny, hrun]
  show _ ++ List.map _ (Text.cutBy _ _ (step ⟨q, 0⟩ ' ') _) = _
  rw [hspace, cutBy_fresh (fresh_code (by decide))]
  rfl

/-! ## One word -/

/-- From a place of the kind, with no parenthesis open, the characters are not cut. -/
def Uncut (P : Place → Prop) (cs : List Char) : Prop :=
  ∀ p, P p → Text.isUncut stepIfAny partsWords (some ⟨p, 0⟩) cs = true

section
variable {P Q : Place → Prop} {as bs cs : List Char}

theorem Uncut.append (hm : Moves P Q as) (ha : Uncut P as) (hb : Uncut Q bs) :
    Uncut P (as ++ bs) := by
  intro p hp
  obtain ⟨q, hq, hrun⟩ := hm p 0 hp
  rw [Text.isUncut_append, ha p hp, foldl_stepIfAny, hrun, hb q hq]
  rfl

theorem Uncut.flatMap {α : Type} {f : α → List Char} {xs : List α}
    (hm : ∀ x ∈ xs, Moves P P (f x)) (hu : ∀ x ∈ xs, Uncut P (f x)) : Uncut P (xs.flatMap f) := by
  induction xs with
  | nil => exact fun _ _ => rfl
  | cons x xs ih =>
    rw [List.flatMap_cons]
    exact .append (hm x (by simp)) (hu x (by simp))
      (ih (fun y hy => hm y (by simp [hy])) fun y hy => hu y (by simp [hy]))

theorem uncut_of_not_mem (h : ' ' ∉ cs) : Uncut P cs :=
  fun _ _ => Text.isUncut_of_forall fun _ hc => partsWords_of_ne (ne_of_mem_of_not_mem hc h)

/-- Within quotes one character is not cut, be it a space. -/
theorem uncut_within (hP : ∀ p, P p → p.isOutside = false) (c : Char) : Uncut P [c] := by
  intro p hp
  simp [Text.isUncut, partsWords, hP p hp]

theorem words_eq_singleton {t : String} (h : Uncut Fresh t.toList) : words t = [t] := by
  have huncut := h (.code none) ⟨none, rfl, by simp, by simp⟩
  rw [words, start, Text.cutBy_eq_singleton huncut]
  simp

end

/-- What a scan reads with some parentheses open it also reads with one more of them. -/
theorem step_deeper {p q : Place} {d e : Nat} {c : Char} (h : step ⟨p, d⟩ c = some ⟨q, e⟩) :
    step ⟨p, d + 1⟩ c = some ⟨q, e + 1⟩ := by
  have hcode : ∀ last, stepCode last d c = some ⟨q, e⟩ →
      stepCode last (d + 1) c = some ⟨q, e + 1⟩ := by
    intro last h
    simp only [stepCode] at h ⊢
    grind
  cases p with
  | code last => exact hcode last h
  | textQuote | nameQuote =>
    simp only [step] at h ⊢
    split at h
    · cases h
      simp_all
    · rename_i hc
      rw [if_neg hc]
      exact hcode none h
  | _ => cases h; rfl

/-- Within parentheses nothing is cut. -/
theorem isUncut_deeper {p : Place} {d : Nat} {cs : List Char} {s : State}
    (h : run ⟨p, d⟩ cs = some s) :
    Text.isUncut stepIfAny partsWords (some ⟨p, d + 1⟩) cs = true := by
  induction cs generalizing p d with
  | nil => rfl
  | cons c cs ih =>
    rw [run] at h
    split at h
    · rename_i s' hstep
      obtain ⟨q, e⟩ := s'
      rw [Text.isUncut]
      show (true && Text.isUncut _ _ (step ⟨p, d + 1⟩ c) cs) = true
      rw [step_deeper hstep, ih h]
      rfl
    · cases h

theorem uncut_parenthesized {t : String} (h : Piece t) :
    Uncut Rested (Shape.parenthesized t).toList := by
  intro p hp
  obtain ⟨q, -, hrun⟩ := h (.code (some '(')) 0 ⟨_, rfl, by simp, by simp⟩
  have hopen : stepIfAny (some ⟨p, 0⟩) '(' = some ⟨.code (some '('), 1⟩ := by
    obtain ⟨last, rfl, _, _⟩ | rfl | rfl := hp <;> simp [stepIfAny, step, stepCode]
  rw [Shape.toList_parenthesized, Text.isUncut, partsWords_of_ne (by decide), hopen,
    Text.isUncut_append, isUncut_deeper hrun, Text.isUncut, partsWords_of_ne (by decide)]
  rfl

/-! ## Quotes -/

theorem uncut_doubleBackticks (cs : List Char) :
    Uncut (· = .name) (Dialect.doubleBackticks cs) := by
  refine .flatMap (fun c _ => ?_) fun c _ => ?_
  · simpa [Dialect.doubleBackticks] using moves_doubleBackticks [c]
  · split
    · rename_i hc
      subst hc
      exact uncut_of_not_mem (by decide)
    · exact uncut_within (by rintro _ rfl; rfl) c

theorem uncut_backquoted {name text : String} (h : Dialect.backquoted name = .ok text) :
    Uncut Fresh text.toList := by
  rw [Dialect.toList_of_backquoted h]
  exact .append moves_openName (uncut_of_not_mem (by decide))
    (.append (moves_doubleBackticks _) (uncut_doubleBackticks _) (uncut_of_not_mem (by decide)))

/-- What is not cut within single quotes, with the quotes around it. -/
theorem uncut_quoted {cs : List Char} (hm : Moves (· = .text) (· = .text) cs)
    (hu : Uncut (· = .text) cs) : Uncut Fresh ('\'' :: (cs ++ ['\''])) := by
  exact .append moves_openText (uncut_of_not_mem (by decide))
    (.append hm hu (uncut_of_not_mem (by decide)))

theorem uncut_escapeChar (c : Char) : Uncut (· = .text) (Dialect.escapeChar c) := by
  unfold Dialect.escapeChar
  split
  · exact uncut_of_not_mem (by decide)
  split
  · exact uncut_of_not_mem (by decide)
  split
  · exact uncut_of_not_mem (by decide)
  split
  · exact uncut_of_not_mem (by decide)
  · exact uncut_within (by rintro _ rfl; rfl) c

theorem uncut_quotedText (s : String) : Uncut Fresh (Dialect.quotedText s).toList := by
  rw [Dialect.quotedText_eq, String.toList_ofList]
  exact uncut_quoted (.flatMap fun c _ => moves_escapeChar c)
    (.flatMap (fun c _ => moves_escapeChar c) fun c _ => uncut_escapeChar c)

theorem toList_untagged (cs : List Char) :
    (Dialect.tagged "" cs).toList = '\'' :: (cs ++ ['\'']) := by
  simp [Dialect.tagged_eq]

theorem uncut_tagged {cs : List Char} (h : ∀ c ∈ cs, isVerbatim c = true) :
    Uncut Fresh (Dialect.tagged "" cs).toList := by
  rw [toList_untagged]
  refine uncut_quoted (.of_forall fun c hc => moves_isVerbatim (h c hc)) ?_
  rw [← List.flatMap_singleton' cs]
  exact .flatMap (fun c hc => moves_isVerbatim (h c hc)) fun c _ =>
    uncut_within (by rintro _ rfl; rfl) c

/-! ## Terms -/

/-- The words for kinds of time. -/
def timeWords : List String := ["TIMESTAMP", "DATE", "TIME"]

/-- Whether a word belongs to the word behind it. -/
def belongs (w next : String) : Bool :=
  (w == "EXISTS" && next.toList.head? == some '(')
    || (timeWords.contains w && next.toList.head? == some '\'')

/-- Words, each with what belongs to it. -/
def united : List String → List String
  | w :: w' :: ws =>
    if belongs w w' then (w ++ " " ++ w') :: united ws else w :: united (w' :: ws)
  | ws => ws

/-- The terms of a text. -/
def terms (t : String) : List String := united (words t)

/-- A word between operands, that belongs to neither of them. -/
structure IsConnector (w : String) : Prop where
  contained : Contained w
  words : words w = [w]
  first : w ≠ "EXISTS" ∧ w ∉ timeWords
  last : w.toList.head? ≠ some '(' ∧ w.toList.head? ≠ some '\''

instance (w : String) : Decidable (IsConnector w) :=
  decidable_of_iff (Contained w ∧ Scan.words w = [w] ∧ (w ≠ "EXISTS" ∧ w ∉ timeWords) ∧
      w.toList.head? ≠ some '(' ∧ w.toList.head? ≠ some '\'')
    ⟨fun ⟨hc, hw, hf, hl⟩ => ⟨hc, hw, hf, hl⟩, fun ⟨hc, hw, hf, hl⟩ => ⟨hc, hw, hf, hl⟩⟩

theorem IsConnector.belongs_left {w : String} (h : IsConnector w) (next : String) :
    belongs w next = false := by
  simp [belongs, h.first]

theorem IsConnector.belongs_right {w : String} (h : IsConnector w) (before : String) :
    belongs before w = false := by
  simp [belongs, h.last]

theorem united_append {w : String} (h : IsConnector w) (ws ws' : List String) :
    united (ws ++ w :: ws') = united ws ++ w :: united ws' := by
  have hfirst : united (w :: ws') = w :: united ws' := by
    cases ws' with
    | nil => rfl
    | cons next ws' => rw [united, h.belongs_left]; rfl
  fun_induction united ws with
  | case1 v v' vs hb ih => rw [List.cons_append, List.cons_append, united, if_pos hb, ih]; rfl
  | case2 v v' vs hb ih =>
    rw [List.cons_append, List.cons_append, united, if_neg hb, ← List.cons_append, ih]
    rfl
  | case3 vs hshort =>
    match vs with
    | [] => exact hfirst
    | [v] =>
      rw [List.singleton_append, united, h.belongs_right, hfirst]
      rfl
    | v :: v' :: vs => exact absurd rfl (hshort v v' vs)

theorem terms_joined {a w : String} (ha : Contained a) (hw : IsConnector w) (b : String) :
    terms (a ++ " " ++ w ++ " " ++ b) = terms a ++ w :: terms b := by
  have htext : a ++ " " ++ w ++ " " ++ b = a ++ " " ++ (w ++ " " ++ b) := by
    simp only [String.append_assoc]
  rw [htext, terms, words_append ha, words_append hw.contained, hw.words]
  exact united_append hw _ _

/-- What stands behind a connector has its own terms. -/
theorem terms_behind {w : String} (hw : IsConnector w) (b : String) :
    terms (w ++ " " ++ b) = w :: terms b := by
  rw [terms, words_append hw.contained, hw.words]
  exact united_append hw [] _

theorem terms_eq_singleton {t : String} (h : Uncut Fresh t.toList) : terms t = [t] := by
  rw [terms, words_eq_singleton h]
  rfl

/-- A word and what belongs to it are one term. -/
theorem terms_united {w next : String} (hw : Contained w) (hwords : words w = [w])
    (hnext : Uncut Fresh next.toList) (h : belongs w next = true) :
    terms (w ++ " " ++ next) = [w ++ " " ++ next] := by
  rw [terms, words_append hw, hwords, words_eq_singleton hnext]
  simp [united, h]

/-! ## Operands -/

/-- The words that are no operand: nothing, and those that a negation or a query begins with. -/
def otherWords : List String := ["", "NOT", "SELECT"]

/-- Whether a term may be an operand. -/
def isOperand (t : String) : Bool := !otherWords.contains t

/-- A text with a character that is in no such word is an operand. -/
theorem isOperand_of_mem {t : String} {c : Char} (hc : c ∈ t.toList)
    (hother : ∀ w ∈ otherWords, c ∉ w.toList) : isOperand t = true := by
  rw [isOperand, Bool.not_eq_true', List.contains_eq_mem, decide_eq_false_iff_not]
  exact fun ht => hother t ht hc

/-- A text that is one term and may be an operand. -/
structure IsTerm (t : String) : Prop where
  piece : Piece t
  terms : terms t = [t]
  operand : isOperand t = true

/-- A term that is no text in parentheses. -/
structure IsBareTerm (t : String) : Prop extends IsTerm t where
  starts : ∃ c cs, t.toList = c :: cs ∧ c ≠ '('

/-- A term of one word that does not begin with a parenthesis, so that names may follow it. -/
structure Whole (t : String) : Prop where
  piece : Piece t
  uncut : Uncut Fresh t.toList
  starts : ∃ c cs, t.toList = c :: cs ∧ c ≠ '('
  operand : isOperand t = true

namespace Whole

variable {t u : String}

theorem isBareTerm (h : Whole t) : IsBareTerm t :=
  ⟨⟨h.piece, terms_eq_singleton h.uncut, h.operand⟩, h.starts⟩

/-- Tame characters without a space. -/
theorem of_isWord (h : IsWord t) (hspace : ' ' ∉ t.toList)
    (hstarts : ∃ c cs, t.toList = c :: cs ∧ c ≠ '(') (hoperand : isOperand t = true) : Whole t :=
  ⟨(tail_of_quiet h.isQuiet).piece, uncut_of_not_mem hspace, hstarts, hoperand⟩

/-- A text whose first character begins no parenthesis, and is in no word that is no operand. -/
theorem of_first {c : Char} {cs : List Char} (hp : Piece t) (hu : Uncut Fresh t.toList)
    (htext : t.toList = c :: cs) (hc : c ≠ '(' ∧ ∀ w ∈ otherWords, c ∉ w.toList) : Whole t :=
  ⟨hp, hu, ⟨c, cs, htext, hc.1⟩, isOperand_of_mem (by rw [htext]; exact List.mem_cons_self) hc.2⟩

theorem of_backquoted {name : String} (h : Dialect.backquoted name = .ok t) : Whole t :=
  .of_first (piece_backquoted h) (uncut_backquoted h) (Dialect.toList_of_backquoted h) (by decide)

/-- A word, or a name, behind a dot. -/
theorem dotted (h : Whole t) (h' : Whole u) : Whole (t ++ "." ++ u) := by
  have hdot : Glue "." := glue_of_isWord (by decide) (by decide)
  have htext : (t ++ "." ++ u).toList = t.toList ++ (['.'] ++ u.toList) := by simp
  obtain ⟨c, cs, hc, hne⟩ := h.starts
  refine ⟨h.piece.glued hdot h'.piece, ?_, ⟨c, cs ++ (['.'] ++ u.toList), ?_, hne⟩, ?_⟩
  · rw [htext]
    exact .append h.piece h.uncut (.append hdot (uncut_of_not_mem (by decide)) h'.uncut)
  · rw [htext, hc]
    rfl
  · refine isOperand_of_mem (c := '.') ?_ (by decide)
    rw [htext]
    simp

theorem joinWith {ts : List String} (hne : ts ≠ []) (h : ∀ t ∈ ts, Whole t) :
    Whole (Text.joinWith "." ts) := by
  fun_induction Text.joinWith "." ts with
  | case1 => exact absurd rfl hne
  | case2 t => exact h t (by simp)
  | case3 t u rest ih =>
    exact (h t (by simp)).dotted (ih (List.cons_ne_nil u rest) fun v hv => h v (by simp [hv]))

theorem of_isPlain (hp : Identifier.isPlain t = true) (hr : Identifier.isReserved t = false) :
    Whole t := by
  refine of_isWord (isWord_of_isPlain hp) (fun hc => ?_) ?_ ?_
  · exact absurd (Identifier.isPart_of_isPlainChars hp _ hc) (by decide)
  · rw [Identifier.isPlain] at hp
    cases hcs : t.toList with
    | nil => rw [hcs] at hp; cases hp
    | cons c cs =>
      rw [hcs, Identifier.isPlainChars, Bool.and_eq_true] at hp
      refine ⟨c, cs, rfl, ?_⟩
      rintro rfl
      exact absurd hp.1 (by decide)
  · have hother : ∀ w ∈ otherWords,
        Identifier.isPlain w = false ∨ Identifier.isReserved w = true := by
      decide +kernel
    rw [isOperand, Bool.not_eq_true', List.contains_eq_mem, decide_eq_false_iff_not]
    intro ht
    rcases hother t ht with h | h
    · rw [hp] at h; cases h
    · rw [hr] at h; cases h

/-- A name behind the mark of the session. -/
theorem ofSession (h : Whole t) : Whole ("@" ++ t) := by
  have hmark : Moves Fresh Fresh ['@'] := moves_freshQuiet (List.forall_mem_singleton.2 rfl)
  have htext : ("@" ++ t).toList = ['@'] ++ t.toList := by simp
  refine .of_first ?_ ?_ htext (by decide)
  · rw [Piece, htext]
    exact hmark.append h.piece
  · rw [htext]
    exact .append hmark (uncut_of_not_mem (by decide)) h.uncut

end Whole

open Outcome

section
variable {d : Dialect} (hd : d.kind.complete = true)
include hd

theorem whole_quoteIdentifier {name t : String} (h : d.quoteIdentifier name = .ok t) : Whole t := by
  rw [Dialect.quoteIdentifier, if_pos hd] at h
  exact .of_backquoted h

theorem whole_identifier {name t : String} (h : d.identifier name = .ok t) : Whole t := by
  rw [Dialect.identifier] at h
  split at h
  · exact whole_quoteIdentifier hd h
  · rename_i hq
    rw [Identifier.mustQuote, Bool.or_eq_true, Bool.not_eq_true', not_or, Bool.not_eq_false,
      Bool.not_eq_true] at hq
    obtain rfl := Except.ok.inj h
    exact .of_isPlain hq.1 hq.2

theorem whole_qualifiedName {name t : String} (h : d.qualifiedName name = .ok t) : Whole t := by
  obtain ⟨ts, hne, hts, rfl⟩ := texts_of_qualifiedName h
  refine .joinWith hne ?_
  have hyields : Yields (fun ts => ∀ t ∈ ts, Whole t) (fun _ => True)
      ((Text.splitAll '.' name).mapM d.identifier) := by
    refine Yields.mapM fun part _ => ?_
    cases hpart : d.identifier part with
    | error _ => trivial
    | ok u => exact whole_identifier hd hpart
  exact hyields.of_ok hts

theorem whole_variableName {name t : String} (h : d.variableName name = .ok t) : Whole t := by
  rw [Dialect.variableName] at h
  split at h
  · rename_i rest hname
    split at h
    · rename_i hp
      obtain rfl := Except.ok.inj h
      have hspace : ' ' ∉ rest := by
        intro hc
        have hmem : ' ' ∈ Dialect.withoutDots rest := List.mem_map.2 ⟨' ', hc, by decide⟩
        exact absurd (Identifier.isPart_of_isPlainChars hp _ hmem) (by decide)
      have hquiet := (isWord_session hname hp).isQuiet
      refine .of_first (tail_of_quiet hquiet).piece (uncut_of_not_mem ?_) hname (by decide)
      rw [hname]
      exact List.not_mem_cons_of_ne_of_not_mem (by decide) hspace
    · obtain ⟨q, hq, rfl⟩ := map_eq_ok.1 h
      exact (whole_quoteIdentifier hd hq).ofSession
  · split at h
    · exact whole_qualifiedName hd h
    · exact whole_identifier hd h

end

/-! ## Literals -/

theorem whole_quotedText (s : String) : Whole (Dialect.quotedText s) := by
  have htext : (Dialect.quotedText s).toList
      = '\'' :: (s.toList.flatMap Dialect.escapeChar ++ ['\'']) := by
    rw [Dialect.quotedText_eq, String.toList_ofList]
  exact .of_first (piece_quotedText s) (uncut_quotedText s) htext (by decide)

theorem whole_number {negative : Bool} {cs more : List Char} (hne : cs ≠ [])
    (hcs : ∀ c ∈ cs, isNumeral c = true) (hmore : IsExponent more) :
    Whole (Number.Decimal.signed negative (cs ++ more)) := by
  have hall := isNumeral_or_of_mem_signed negative hcs hmore
  obtain ⟨c, cs, rfl⟩ := List.exists_cons_of_ne_nil hne
  have hc : isNumeral c = true := hcs c (by simp)
  have hmem : c ∈ (Number.Decimal.signed negative (c :: cs ++ more)).toList := by
    rw [Number.Decimal.signed, String.toList_ofList]
    split <;> simp
  refine ⟨piece_signed_append hcs hne hmore.moves, uncut_of_not_mem fun hspace => ?_, ?_, ?_⟩
  · exact absurd (hall _ hspace) (by decide)
  · cases htext : (Number.Decimal.signed negative (c :: cs ++ more)).toList with
    | nil => rw [htext] at hmem; cases hmem
    | cons e es =>
      refine ⟨e, es, rfl, ?_⟩
      rintro rfl
      exact absurd (hall '(' (by rw [htext]; simp)) (by decide)
  · have hother : ∀ w ∈ otherWords, w.toList.any isNumeral = false := by decide
    exact isOperand_of_mem hmem fun w hw hmem => List.any_eq_false.1 (hother w hw) c hmem hc

/-- Characters in quotes behind a word that they belong to, or behind none. -/
theorem isBareTerm_tagged {word : String} {cs : List Char} (hw : word ∈ tagWords)
    (hcs : ∀ c ∈ cs, isVerbatim c = true) : IsBareTerm (Dialect.tagged word cs) := by
  have hquoted := toList_untagged cs
  have htext : Dialect.tagged word cs = word ++ Dialect.tagged "" cs := by
    simp [Dialect.tagged_eq]
  have hword : IsWord word := by
    have hall : ∀ w ∈ tagWords, IsWord w := by decide
    exact hall word hw
  have hpiece := piece_tagged hword.isQuiet hcs
  have hoperand : isOperand (Dialect.tagged word cs) = true := by
    refine isOperand_of_mem (c := '\'') ?_ (by decide)
    rw [htext, String.toList_append, hquoted]
    simp
  have hstarts : ∃ c cs', (Dialect.tagged word cs).toList = c :: cs' ∧ c ≠ '(' := by
    rw [htext, String.toList_append, hquoted]
    cases hchars : word.toList with
    | nil => exact ⟨_, _, rfl, by decide⟩
    | cons c cs' =>
      refine ⟨c, _, rfl, ?_⟩
      rintro rfl
      have htame := hword.isTame '(' (by rw [hchars]; exact List.mem_cons_self)
      cases htame
  have hwhole : ' ' ∉ word.toList → IsBareTerm (Dialect.tagged word cs) := by
    intro hspace
    refine Whole.isBareTerm ⟨hpiece, ?_, hstarts, hoperand⟩
    rw [htext, String.toList_append]
    exact .append (moves_freshQuiet (List.all_eq_true.1 hword.isQuiet)) (uncut_of_not_mem hspace)
      (uncut_tagged hcs)
  have htime : ∀ w, w ∈ timeWords → Piece w → words w = [w] → word = w ++ " " →
      IsBareTerm (Dialect.tagged word cs) := by
    rintro w htime hp hwords rfl
    refine ⟨⟨hpiece, ?_, hoperand⟩, hstarts⟩
    rw [htext]
    refine terms_united hp.contained hwords (uncut_tagged hcs) ?_
    simp [belongs, htime, hquoted]
  simp only [tagWords, List.mem_cons, List.not_mem_nil, or_false] at hw
  obtain rfl | rfl | rfl | rfl | rfl := hw
  · exact hwhole (by decide)
  · exact hwhole (by decide)
  · exact htime "TIMESTAMP" (by decide) (tail_of_quiet (by decide)).piece rfl rfl
  · exact htime "DATE" (by decide) (tail_of_quiet (by decide)).piece rfl rfl
  · exact htime "TIME" (by decide) (tail_of_quiet (by decide)).piece rfl rfl

/-- **Every literal is one term.** -/
theorem isBareTerm_literal {v : Value} {t : String} (h : Dialect.literal v = .ok t) :
    IsBareTerm t := by
  cases literalForm h with
  | word hw ht =>
    have hwhole : Whole t := by
      simp only [valueWords, List.mem_cons, List.not_mem_nil, or_false] at ht
      obtain rfl | rfl | rfl := ht <;>
        exact .of_isWord hw (by decide) ⟨_, _, rfl, by decide⟩ (by decide)
    exact hwhole.isBareTerm
  | number negative hne hcs hmore => exact (whole_number hne hcs hmore).isBareTerm
  | tagged _ hcs ht => exact isBareTerm_tagged ht hcs
  | quoted s => exact (whole_quotedText s).isBareTerm

end StoredSql.Scan
