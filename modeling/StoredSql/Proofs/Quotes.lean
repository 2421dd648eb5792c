import StoredSql.Shape
import StoredSql.Text.Blank

/-!
# Quoted tokens in a text

A reader tells what stands in a text within quotes and what stands outside. Single quotes, double
quotes and backticks open a quoted token that the same character ends; a quote that is written twice
in a token ends it and opens it again. Within single and double quotes a backslash takes the next
character with it. Comments are not told apart: a quote in a comment is read as a quote.

A text is cut at the white space outside quotes into `pieces`, which keep the quoted tokens as they
are. A text that the reader leaves outside quotes is `isClosed`; what follows a closed text is read
as if it stood alone (`pieces_append_blank`). A closed text with only characters of one kind outside
quotes is `Clean`, and so is what clean texts are put together to.
-/

namespace StoredSql

/-- The kinds of quotes. -/
inductive Quote where
  | single
  | double
  | backtick
deriving DecidableEq, Repr

namespace Quote

/-- The character that opens and ends a quoted token. -/
def char : Quote → Char
  | single => '\''
  | double => '"'
  | backtick => '\x60'

/-- The quotes that a character opens. -/
def ofChar? (c : Char) : Option Quote :=
  if c = '\'' then some single else if c = '"' then some double
  else if c = '\x60' then some backtick else none

end Quote

namespace Quotes

/-- Where a reader stands: outside of quotes, within those of a kind, or there behind a
backslash. -/
inductive Place where
  | outside
  | within (quote : Quote)
  | escaped (quote : Quote)
deriving DecidableEq, Repr

/-- Reads a character. -/
def step : Place → Char → Place
  | .outside, c =>
    match Quote.ofChar? c with
    | some q => .within q
    | none => .outside
  | .within q, c =>
    if c = q.char then .outside else if c = '\\' ∧ q ≠ .backtick then .escaped q else .within q
  | .escaped q, _ => .within q

/-- Where a reader stands behind the characters. -/
def after (p : Place) (cs : List Char) : Place := cs.foldl step p

/-- The characters that are no part of a quoted token. -/
def unquoted : Place → List Char → List Char
  | _, [] => []
  | p, c :: cs =>
    if p = .outside ∧ Quote.ofChar? c = none then c :: unquoted (step p c) cs
    else unquoted (step p c) cs

/-- The parts of a text between the blanks that are no part of a quoted token. -/
def cuts : Place → List Char → List (List Char)
  | _, [] => [[]]
  | p, c :: cs =>
    if p = .outside ∧ Text.isBlank c = true then [] :: cuts p cs
    else match cuts (step p c) cs with
      | [] => [[c]]
      | part :: parts => (c :: part) :: parts

/-- The pieces of a text: what stands between white space outside quotes. -/
def pieces (t : String) : List String :=
  ((cuts .outside t.toList).filter (!·.isEmpty)).map String.ofList

/-- Whether all quotes that a text opens are closed in it. -/
def isClosed (t : String) : Bool := after .outside t.toList = .outside

/-- Whether no line break stands within quotes and all quotes are closed at the end. -/
def closesLinesFrom : Place → List Char → Bool
  | p, [] => p = .outside
  | p, c :: cs => (c != '\n' || p = .outside) && closesLinesFrom (step p c) cs

/-- `closesLinesFrom` on strings. -/
def closesLines (t : String) : Bool := closesLinesFrom .outside t.toList

/-! ## Reading on -/

theorem after_append (p : Place) (as bs : List Char) :
    after p (as ++ bs) = after (after p as) bs := List.foldl_append

theorem unquoted_append (p : Place) (as bs : List Char) :
    unquoted p (as ++ bs) = unquoted p as ++ unquoted (after p as) bs := by
  induction as generalizing p with
  | nil => rfl
  | cons a as ih =>
    simp only [List.cons_append, unquoted, ih]
    split <;> rfl

theorem ofChar?_of_isBlank {c : Char} (h : Text.isBlank c = true) : Quote.ofChar? c = none := by
  have hne : c ≠ '\'' ∧ c ≠ '"' ∧ c ≠ '\x60' := by
    refine ⟨?_, ?_, ?_⟩ <;> (rintro rfl; exact absurd h (by decide))
  simp [Quote.ofChar?, hne]

/-- A blank outside quotes is passed over. -/
theorem step_outside_of_isBlank {c : Char} (h : Text.isBlank c = true) :
    step .outside c = .outside := by
  rw [step, ofChar?_of_isBlank h]

/-- A blank ends no quoted token. -/
theorem eq_outside_of_step {p : Place} {c : Char} (h : Text.isBlank c = true)
    (hs : step p c = .outside) : p = .outside := by
  cases p with
  | outside => rfl
  | within q =>
    have hq : c ≠ q.char := by
      rintro rfl
      cases q <;> exact absurd h (by decide)
    have hb : c ≠ '\\' := by
      rintro rfl
      exact absurd h (by decide)
    simp [step, hq, hb] at hs
  | escaped q => cases hs

theorem after_isBlank {ws : List Char} (h : ∀ c ∈ ws, Text.isBlank c = true) :
    after .outside ws = .outside := by
  induction ws with
  | nil => rfl
  | cons c ws ih =>
    show after (step .outside c) ws = .outside
    rw [step_outside_of_isBlank (h c (by simp))]
    exact ih fun d hd => h d (List.mem_cons_of_mem _ hd)

/-- Blanks at the end of a text close no quotes. -/
theorem eq_outside_of_after {p : Place} {ws : List Char} (h : ∀ c ∈ ws, Text.isBlank c = true)
    (hs : after p ws = .outside) : p = .outside := by
  induction ws generalizing p with
  | nil => exact hs
  | cons c ws ih =>
    exact eq_outside_of_step (h c (by simp))
      (ih (fun d hd => h d (List.mem_cons_of_mem _ hd)) hs)

/-! ## Pieces -/

theorem cuts_ne_nil (p : Place) (cs : List Char) : cuts p cs ≠ [] := by
  cases cs with
  | nil => simp [cuts]
  | cons c cs =>
    rw [cuts]
    split
    · simp
    · split <;> simp

/-- A text is cut at a blank that stands outside quotes. -/
theorem cuts_append_blank {p : Place} {as bs : List Char} {c : Char}
    (hp : after p as = .outside) (hc : Text.isBlank c = true) :
    cuts p (as ++ c :: bs) = cuts p as ++ cuts .outside bs := by
  induction as generalizing p with
  | nil =>
    obtain rfl : p = .outside := hp
    simp [cuts, hc]
  | cons a as ih =>
    rw [List.cons_append, cuts, cuts]
    by_cases ha : p = .outside ∧ Text.isBlank a = true
    · rw [if_pos ha, if_pos ha]
      obtain ⟨rfl, hblank⟩ := ha
      have hrest : after (step .outside a) as = .outside := hp
      rw [step_outside_of_isBlank hblank] at hrest
      rw [ih hrest, List.cons_append]
    · rw [if_neg ha, if_neg ha, ih hp]
      cases hcuts : cuts (step p a) as with
      | nil => exact absurd hcuts (cuts_ne_nil _ _)
      | cons part parts => rfl

theorem pieces_append_blank {s t : String} {c : Char} (hs : isClosed s = true)
    (hc : Text.isBlank c = true) :
    pieces (s ++ String.ofList [c] ++ t) = pieces s ++ pieces t := by
  have hcut : cuts .outside (s.toList ++ c :: t.toList)
      = cuts .outside s.toList ++ cuts .outside t.toList :=
    cuts_append_blank (of_decide_eq_true hs) hc
  simp only [pieces, String.toList_append, String.toList_ofList, List.append_assoc,
    List.cons_append, List.nil_append, hcut, List.filter_append, List.map_append]

/-- Lines that close their quotes have their own pieces; the last one may leave quotes open. -/
theorem pieces_joinWith_lines {ls : List String} (h : ∀ l ∈ ls.dropLast, isClosed l = true) :
    pieces (Text.joinWith "\n" ls) = ls.flatMap pieces := by
  fun_induction Text.joinWith "\n" ls with
  | case1 => rfl
  | case2 s => simp
  | case3 s t rest ih =>
    rw [List.dropLast_cons_cons] at h
    have hbreak : pieces (s ++ "\n" ++ Text.joinWith "\n" (t :: rest))
        = pieces s ++ pieces (Text.joinWith "\n" (t :: rest)) :=
      pieces_append_blank (h s (by simp)) (by decide)
    rw [hbreak, ih fun l hl => h l (List.mem_cons_of_mem _ hl)]
    rfl

/-- Blanks in front of a text are no part of its pieces. -/
theorem pieces_blanks_append {ws : List Char} (h : ∀ c ∈ ws, Text.isBlank c = true) (t : String) :
    pieces (String.ofList ws ++ t) = pieces t := by
  induction ws with
  | nil => simp
  | cons c ws ih =>
    have hfirst : pieces ("" ++ String.ofList [c] ++ (String.ofList ws ++ t))
        = pieces (String.ofList ws ++ t) :=
      pieces_append_blank rfl (h c (by simp))
    have hcons : String.ofList (c :: ws) ++ t
        = "" ++ String.ofList [c] ++ (String.ofList ws ++ t) := by
      rw [String.empty_append, ← String.append_assoc, ← String.ofList_append]
      rfl
    rw [hcons, hfirst, ih fun d hd => h d (List.mem_cons_of_mem _ hd)]

/-! ## Clean texts -/

/-- A text that closes its quotes and has only characters of one kind outside them. -/
structure Clean (P : Char → Prop) (t : String) : Prop where
  closed : after .outside t.toList = .outside
  outside : ∀ c ∈ unquoted .outside t.toList, P c

namespace Clean

variable {P : Char → Prop} {s t : String}

theorem isClosed (h : Clean P t) : isClosed t = true := decide_eq_true h.closed

theorem append (hs : Clean P s) (ht : Clean P t) : Clean P (s ++ t) := by
  constructor
  · rw [String.toList_append, after_append, hs.closed]
    exact ht.closed
  · rw [String.toList_append, unquoted_append, hs.closed]
    intro c hc
    rcases List.mem_append.1 hc with hc | hc
    · exact hs.outside c hc
    · exact ht.outside c hc

theorem of_forall (h : ∀ c ∈ t.toList, Quote.ofChar? c = none ∧ P c) : Clean P t := by
  have hread : ∀ cs : List Char, (∀ c ∈ cs, Quote.ofChar? c = none) →
      after .outside cs = .outside ∧ unquoted .outside cs = cs := by
    intro cs hcs
    induction cs with
    | nil => exact ⟨rfl, rfl⟩
    | cons c cs ih =>
      have hc := hcs c (by simp)
      have hstep : step .outside c = .outside := by rw [step, hc]
      obtain ⟨hafter, hunquoted⟩ := ih fun d hd => hcs d (List.mem_cons_of_mem _ hd)
      refine ⟨?_, ?_⟩
      · show after (step .outside c) cs = .outside
        rw [hstep, hafter]
      · rw [unquoted, if_pos ⟨rfl, hc⟩, hstep, hunquoted]
  obtain ⟨hafter, hunquoted⟩ := hread t.toList fun c hc => (h c hc).1
  refine ⟨hafter, fun c hc => ?_⟩
  rw [hunquoted] at hc
  exact (h c hc).2

end Clean

/-- Characters that are read within quotes of a kind. -/
def Inside (q : Quote) (cs : List Char) : Prop :=
  after (.within q) cs = .within q ∧ unquoted (.within q) cs = []

namespace Inside

variable {q : Quote} {as bs : List Char}

theorem nil : Inside q [] := ⟨rfl, rfl⟩

theorem append (ha : Inside q as) (hb : Inside q bs) : Inside q (as ++ bs) := by
  constructor
  · rw [after_append, ha.1, hb.1]
  · rw [unquoted_append, ha.1, ha.2, hb.2]
    rfl

theorem flatMap {α : Type} {f : α → List Char} {xs : List α} (h : ∀ x ∈ xs, Inside q (f x)) :
    Inside q (xs.flatMap f) := by
  induction xs with
  | nil => exact nil
  | cons x xs ih =>
    rw [List.flatMap_cons]
    exact (h x (by simp)).append (ih fun y hy => h y (List.mem_cons_of_mem _ hy))

/-- A character that neither ends the token nor escapes the next one. -/
theorem single {c : Char} (hq : c ≠ q.char) (hb : c ≠ '\\' ∨ q = .backtick) : Inside q [c] := by
  have hstep : step (.within q) c = .within q := by
    rw [step, if_neg hq, if_neg]
    rintro ⟨rfl, hne⟩
    rcases hb with hb | hb
    · exact hb rfl
    · exact hne hb
  exact ⟨hstep, by simp [unquoted]⟩

/-- What is read within quotes is clean with the quotes around it. -/
theorem clean {P : Char → Prop} (h : Inside q as) :
    Clean P (String.ofList (q.char :: (as ++ [q.char]))) := by
  have hopen : step .outside q.char = .within q ∧ Quote.ofChar? q.char ≠ none := by
    cases q <;> decide
  have hclose : after (.within q) [q.char] = .outside ∧ unquoted (.within q) [q.char] = [] := by
    cases q <;> decide
  constructor
  · rw [String.toList_ofList]
    show after (step .outside q.char) (as ++ [q.char]) = .outside
    rw [hopen.1, after_append, h.1, hclose.1]
  · rw [String.toList_ofList, unquoted, if_neg fun hc => hopen.2 hc.2, hopen.1, unquoted_append,
      h.1, h.2, hclose.2]
    simp

end Inside

end Quotes
end StoredSql
