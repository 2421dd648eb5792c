import StoredSql.Proofs.ConditionMeaning
import StoredSql.Proofs.Outcome
import StoredSql.Rendering

/-!
# Reading conditions back

The text of a condition, with its leaves marked, is cut into tokens (`Token.cut`) and read by a
reader that goes from left to right: a negation waits for the next operand, a conjunction is kept
until an `OR` comes, and parentheses are read on their own (`Reading.step`). So `NOT` binds more
tightly than `AND`, and `AND` more tightly than `OR`. What is read is what the condition means
(`rendered_condition_reads`): the parentheses that are left out are those that this reader does not
need.
-/

namespace StoredSql

open Outcome

/-- What a text means: a truth value for each choice of those of the leaves. -/
abbrev Meaning := (Condition → Truth) → Truth

namespace Meaning

def yes : Meaning := fun _ => .yes

def no : Meaning := fun _ => .no

def and (m m' : Meaning) : Meaning := fun v => (m v).and (m' v)

def or (m m' : Meaning) : Meaning := fun v => (m v).or (m' v)

/-- The meaning behind a number of negations. -/
def negated : Nat → Meaning → Meaning
  | 0, m => m
  | n + 1, m => negated n fun v => (m v).not

theorem and_assoc (m m' m'' : Meaning) : (m.and m').and m'' = m.and (m'.and m'') :=
  funext fun _ => Truth.and_assoc _ _ _

theorem or_assoc (m m' m'' : Meaning) : (m.or m').or m'' = m.or (m'.or m'') :=
  funext fun _ => Truth.or_assoc _ _ _

@[simp] theorem yes_and (m : Meaning) : yes.and m = m := funext fun _ => Truth.yes_and _

@[simp] theorem no_or (m : Meaning) : no.or m = m := funext fun _ => Truth.no_or _

end Meaning

/-! ## Tokens -/

/-- A character of a text, or a leaf with its own text. -/
inductive Mark where
  | char (c : Char)
  | leaf (condition : Condition) (text : String)

/-- A token of the text of a condition. -/
inductive Token where
  | opening
  | closing
  | not
  | and
  | or
  | true
  | leaf (condition : Condition) (text : String)

namespace Mark

/-- The characters that a mark stands for. -/
def chars : Mark → List Char
  | char c => [c]
  | leaf _ text => text.toList

/-- The text with the marks. -/
def textOf (ms : List Mark) : String := String.ofList (ms.flatMap chars)

/-- The leaf that a mark is. -/
def leaf? : Mark → Option (Condition × String)
  | char _ => none
  | leaf condition text => some (condition, text)

end Mark

namespace Token

/-- The tokens of a marked text. -/
def cut : List Mark → Option (List Token)
  | [] => some []
  | .leaf c t :: ms => (cut ms).map (leaf c t :: ·)
  | .char '(' :: ms => (cut ms).map (opening :: ·)
  | .char ')' :: ms => (cut ms).map (closing :: ·)
  | .char 'N' :: .char 'O' :: .char 'T' :: .char ' ' :: ms => (cut ms).map (not :: ·)
  | .char 'T' :: .char 'R' :: .char 'U' :: .char 'E' :: ms => (cut ms).map (true :: ·)
  | .char ' ' :: .char 'A' :: .char 'N' :: .char 'D' :: .char ' ' :: ms =>
    (cut ms).map (and :: ·)
  | .char ' ' :: .char 'O' :: .char 'R' :: .char ' ' :: ms => (cut ms).map (or :: ·)
  | _ => none

/-- How a token is written. -/
def marks : Token → List Mark
  | opening => [.char '(']
  | closing => [.char ')']
  | not => "NOT ".toList.map .char
  | and => " AND ".toList.map .char
  | or => " OR ".toList.map .char
  | true => "TRUE".toList.map .char
  | leaf c t => [.leaf c t]

/-- Tokens can be told apart as they are written. -/
theorem cut_marks (ts : List Token) : cut (ts.flatMap marks) = some ts := by
  induction ts with
  | nil => rfl
  | cons t ts ih =>
    have hcons : cut (t.marks ++ ts.flatMap marks) = (cut (ts.flatMap marks)).map (t :: ·) := by
      cases t <;> rfl
    rw [List.flatMap_cons, hcons, ih]
    rfl

/-- The text that tokens are. -/
def textOf (ts : List Token) : String := Mark.textOf (ts.flatMap marks)

theorem textOf_append (ts us : List Token) : textOf (ts ++ us) = textOf ts ++ textOf us := by
  simp [textOf, Mark.textOf]

/-- The leaf that a token is. -/
def leaf? : Token → Option (Condition × String)
  | leaf condition text => some (condition, text)
  | _ => none

/-- The leaves among tokens. -/
def leaves (ts : List Token) : List (Condition × String) := ts.filterMap leaf?

theorem leaves_append (ts us : List Token) : leaves (ts ++ us) = leaves ts ++ leaves us :=
  List.filterMap_append

/-- The leaves among tokens are those of the marked text. -/
theorem filterMap_marks (ts : List Token) :
    (ts.flatMap marks).filterMap Mark.leaf? = leaves ts := by
  induction ts with
  | nil => rfl
  | cons t ts ih =>
    rw [List.flatMap_cons, List.filterMap_append, ih]
    cases t <;> rfl

end Token

/-! ## The reader -/

/-- What has been read between parentheses: the alternatives in front of the last `OR`, and the
conjunction behind it. -/
structure Clause where
  before : Meaning
  last : Meaning

namespace Clause

def empty : Clause := ⟨.no, .yes⟩

/-- What has been read as a whole. -/
def meaning (c : Clause) : Meaning := c.before.or c.last

/-- A further part of the conjunction. -/
def and (c : Clause) (m : Meaning) : Clause := ⟨c.before, c.last.and m⟩

/-- What has been read as an alternative to what follows. -/
def or (c : Clause) : Clause := ⟨c.meaning, .yes⟩

end Clause

/-- Where the reader is: in front of an operand with a number of negations, or behind one. What was
read in front of the open parentheses waits for what is in them. -/
inductive Reading where
  | inFront (clause : Clause) (nots : Nat) (outer : List (Clause × Nat))
  | behind (clause : Clause) (outer : List (Clause × Nat))

namespace Reading

/-- Reads a token, if it can stand there. -/
def step : Reading → Token → Option Reading
  | inFront c n outer, .opening => some (inFront .empty 0 ((c, n) :: outer))
  | inFront c n outer, .not => some (inFront c (n + 1) outer)
  | inFront c n outer, .true => some (behind (c.and (.negated n .yes)) outer)
  | inFront c n outer, .leaf leaf _ => some (behind (c.and (.negated n fun v => v leaf)) outer)
  | behind c outer, .and => some (inFront c 0 outer)
  | behind c outer, .or => some (inFront c.or 0 outer)
  | behind c ((c', n) :: outer), .closing => some (behind (c'.and (.negated n c.meaning)) outer)
  | _, _ => none

/-- Reads tokens one by one. -/
def run (r : Reading) (ts : List Token) : Option Reading := ts.foldlM step r

/-- What tokens mean, if they are a whole condition. -/
def read (ts : List Token) : Option Meaning :=
  match run (inFront .empty 0 []) ts with
  | some (behind c []) => some c.meaning
  | _ => none

theorem run_append (r : Reading) (ts us : List Token) :
    run r (ts ++ us) = (run r ts).bind (run · us) := List.foldlM_append

theorem run_cons (r : Reading) (t : Token) (ts : List Token) :
    run r (t :: ts) = (step r t).bind (run · ts) := rfl

end Reading

/-- `NOT` binds more tightly than `AND`, and `AND` more tightly than `OR`. -/
theorem Reading.read_not_or_and (a b c : Condition) :
    read [.not, .leaf a "a", .or, .leaf b "b", .and, .leaf c "c"]
      = some (.or (fun v => (v a).not) (.and (fun v => v b) fun v => v c)) := by
  simp [read, run, step, Clause.and, Clause.or, Clause.meaning, Clause.empty, Meaning.negated]

/-! ## What is read of tokens -/

/-- What is read of the tokens of a condition by its shape: an alternative, a part of a conjunction,
or an operand, which may have negations in front of it. -/
def Shape.Reads (s : Shape) (ts : List Token) (m : Meaning) : Prop :=
  match s with
  | disjunction => ∀ before outer, ∃ c,
      Reading.run (.inFront ⟨before, .yes⟩ 0 outer) ts = some (.behind c outer) ∧
        c.meaning = before.or m
  | conjunction => ∀ c outer,
      Reading.run (.inFront c 0 outer) ts = some (.behind (c.and m) outer)
  | _ => ∀ c n outer,
      Reading.run (.inFront c n outer) ts = some (.behind (c.and (.negated n m)) outer)

namespace Shape.Reads

variable {s : Shape} {ts us : List Token} {m m' : Meaning}

/-- What is read in the place of an operand is read in the place of a part of a conjunction. -/
theorem part (h : s.Reads ts m) (hs : s ≠ disjunction) : conjunction.Reads ts m := by
  intro c outer
  cases s with
  | disjunction => exact absurd rfl hs
  | conjunction => exact h c outer
  | _ => exact h c 0 outer

theorem alternative (h : s.Reads ts m) : disjunction.Reads ts m := by
  by_cases hs : s = disjunction
  · rw [hs] at h
    exact h
  · intro before outer
    refine ⟨_, h.part hs ⟨before, .yes⟩ outer, ?_⟩
    simp [Clause.and, Clause.meaning]

/-- What stands in parentheses is an operand. -/
theorem enclosed (h : s.Reads ts m) : atom.Reads (.opening :: (ts ++ [.closing])) m := by
  intro c n outer
  obtain ⟨inner, hrun, hmeaning⟩ := h.alternative .no ((c, n) :: outer)
  rw [Reading.run_cons]
  show Reading.run (.inFront ⟨.no, .yes⟩ 0 ((c, n) :: outer)) (ts ++ [.closing]) = _
  rw [Reading.run_append, hrun]
  show some (Reading.behind (c.and (.negated n inner.meaning)) outer) = _
  rw [hmeaning, Meaning.no_or]

/-- A negation is an operand, and so is what it negates. -/
theorem negation (h : ∀ c n outer, Reading.run (.inFront c n outer) ts
    = some (.behind (c.and (.negated n m)) outer)) :
    atom.Reads (.not :: ts) fun v => (m v).not :=
  fun c n outer => h c (n + 1) outer

theorem conj (h : conjunction.Reads ts m) (h' : conjunction.Reads us m') :
    conjunction.Reads (ts ++ .and :: us) (m.and m') := by
  intro c outer
  rw [Reading.run_append, h c outer]
  show Reading.run (.inFront (c.and m) 0 outer) us = _
  rw [h' _ outer]
  simp only [Clause.and, Meaning.and_assoc]

theorem disj (h : disjunction.Reads ts m) (h' : disjunction.Reads us m') :
    disjunction.Reads (ts ++ .or :: us) (m.or m') := by
  intro before outer
  obtain ⟨c, hrun, hmeaning⟩ := h before outer
  obtain ⟨c', hrun', hmeaning'⟩ := h' c.meaning outer
  refine ⟨c', ?_, ?_⟩
  · rw [Reading.run_append, hrun]
    exact hrun'
  · rw [hmeaning', hmeaning, Meaning.or_assoc]

/-- A whole text is read with nothing in front of it. -/
theorem read (h : s.Reads ts m) : Reading.read ts = some m := by
  obtain ⟨c, hrun, hmeaning⟩ := h.alternative .no []
  have hrun : Reading.run (.inFront .empty 0 []) ts = some (.behind c []) := hrun
  rw [Reading.read, hrun]
  show some c.meaning = _
  rw [hmeaning, Meaning.no_or]

/-- What is read in the place of an operand is one, if it is no conjunction either. -/
theorem operand (h : s.Reads ts m) (hs : s ≠ disjunction) (hs' : s ≠ conjunction) :
    atom.Reads ts m := by
  cases s with
  | disjunction => exact absurd rfl hs
  | conjunction => exact absurd rfl hs'
  | _ => exact h

end Shape.Reads

/-! ## What is written -/

/-- A text that is written with leaves in it, and is read with a meaning. -/
def Spells (d : Dialect) (text : String) (s : Shape) (ls : List Condition) (m : Meaning) : Prop :=
  ∃ ts, Token.textOf ts = text ∧ (Token.leaves ts).map Prod.fst = ls ∧
    (∀ p ∈ Token.leaves ts, Dialect.conditionText d p.1 = .ok p.2) ∧ s.Reads ts m

namespace Spells

variable {d : Dialect} {t t' : String} {s s' : Shape} {ls ls' : List Condition} {m m' : Meaning}

theorem mono (h : Spells d t s ls m) (hs : ∀ ts, s.Reads ts m → s'.Reads ts m) :
    Spells d t s' ls m := by
  obtain ⟨ts, htext, hleaves, hrendered, hreads⟩ := h
  exact ⟨ts, htext, hleaves, hrendered, hs ts hreads⟩

theorem leaf {c : Condition} (h : Dialect.conditionText d c = .ok t)
    (hs : ∀ ts m, Shape.atom.Reads ts m → s.Reads ts m) : Spells d t s [c] fun v => v c := by
  refine ⟨[.leaf c t], ?_, rfl, ?_, hs _ _ fun _ _ _ => rfl⟩
  · simp [Token.textOf, Mark.textOf, Token.marks, Mark.chars]
  · simpa [Token.leaves, Token.leaf?] using h

theorem truth (d : Dialect) : Spells d "TRUE" .atom [] .yes :=
  ⟨[.true], rfl, rfl, by simp [Token.leaves, Token.leaf?], fun _ _ _ => rfl⟩

theorem enclosed (h : Spells d t s ls m) : Spells d (Shape.parenthesized t) .atom ls m := by
  obtain ⟨ts, rfl, hleaves, hrendered, hreads⟩ := h
  have hts : Token.leaves (.opening :: (ts ++ [.closing])) = Token.leaves ts := by
    rw [← List.singleton_append, Token.leaves_append, Token.leaves_append]
    exact List.append_nil _
  refine ⟨.opening :: (ts ++ [.closing]), ?_, by rw [hts, hleaves], by rw [hts]; exact hrendered,
    hreads.enclosed⟩
  rw [← List.singleton_append, Token.textOf_append, Token.textOf_append, ← String.append_assoc]
  rfl

theorem negation (h : Spells d t .atom ls m) :
    Spells d ("NOT " ++ t) .atom ls fun v => (m v).not := by
  obtain ⟨ts, rfl, hleaves, hrendered, hreads⟩ := h
  have hts : Token.leaves (.not :: ts) = Token.leaves ts := by
    rw [← List.singleton_append, Token.leaves_append]
    rfl
  refine ⟨.not :: ts, ?_, by rw [hts, hleaves], by rw [hts]; exact hrendered,
    Shape.Reads.negation hreads⟩
  rw [← List.singleton_append, Token.textOf_append]
  rfl

/-- Two texts with a word between them, as they are read with its token. -/
theorem joined {s'' : Shape} (token : Token) {word : String} (op : Meaning → Meaning → Meaning)
    (h : Spells d t s ls m) (h' : Spells d t' s' ls' m') (hword : Token.textOf [token] = word)
    (htoken : Token.leaves [token] = [])
    (hop : ∀ ts us, s.Reads ts m → s'.Reads us m' → s''.Reads (ts ++ token :: us) (op m m')) :
    Spells d (t ++ word ++ t') s'' (ls ++ ls') (op m m') := by
  obtain ⟨ts, rfl, rfl, hrendered, hreads⟩ := h
  obtain ⟨us, rfl, rfl, hrendered', hreads'⟩ := h'
  have hts : Token.leaves (ts ++ token :: us) = Token.leaves ts ++ Token.leaves us := by
    rw [← List.singleton_append, Token.leaves_append, Token.leaves_append, htoken]
    rfl
  refine ⟨ts ++ token :: us, ?_, by rw [hts, List.map_append], ?_, hop ts us hreads hreads'⟩
  · rw [← List.singleton_append, Token.textOf_append, Token.textOf_append, hword,
      String.append_assoc]
  · rw [hts]
    exact fun p hp => (List.mem_append.1 hp).elim (hrendered p) (hrendered' p)

end Spells

/-- A condition and its text. -/
structure Written (d : Dialect) where
  condition : Condition
  text : String
  spells : Spells d text condition.shape condition.leaves fun v => condition.eval v

namespace Written

variable {d : Dialect}

/-- A part of a conjunction, in parentheses if it is a disjunction. -/
theorem conjunct (w : Written d) : Spells d (Shape.conjunct (w.condition.shape, w.text))
    .conjunction w.condition.leaves fun v => w.condition.eval v := by
  unfold Shape.conjunct
  split
  · exact w.spells.enclosed.mono fun _ h => h.part nofun
  · rename_i hs
    exact w.spells.mono fun _ h => h.part hs

theorem conjuncts : ∀ {ws : List (Written d)}, ws ≠ [] →
    Spells d (Text.joinWith " AND " (ws.map fun w => Shape.conjunct (w.condition.shape, w.text)))
      .conjunction (Condition.leavesOf (ws.map condition))
      fun v => Condition.evalAll v (ws.map condition)
  | [w], _ => by
    simpa [Text.joinWith, Condition.leavesOf, Condition.evalAll] using w.conjunct
  | w :: w' :: ws, _ =>
    .joined .and .and w.conjunct (conjuncts (List.cons_ne_nil w' ws)) rfl rfl
      fun _ _ => Shape.Reads.conj

theorem alternatives : ∀ {ws : List (Written d)}, ws ≠ [] →
    Spells d (Text.joinWith " OR " (ws.map text)) .disjunction
      (Condition.leavesOf (ws.map condition)) fun v => Condition.evalAny v (ws.map condition)
  | [w], _ => by
    have hspells := w.spells.mono fun _ h => h.alternative
    simpa [Text.joinWith, Condition.leavesOf, Condition.evalAny] using hspells
  | w :: w' :: ws, _ =>
    .joined .or .or (w.spells.mono fun _ h => h.alternative)
      (alternatives (List.cons_ne_nil w' ws)) rfl rfl fun _ _ => Shape.Reads.disj

theorem shapes_eq (ws : List (Written d)) :
    Condition.shapes (ws.map condition) = ws.map fun w => w.condition.shape := by
  induction ws with
  | nil => rfl
  | cons w ws ih => rw [List.map_cons, Condition.shapes, ih, List.map_cons]

/-- The parts of a conjunction that are left out hold always and have no leaves. -/
theorem kept_eq (ws : List (Written d)) :
    let ks := ws.filter fun w => w.condition.shape ≠ .trivial
    Condition.leavesOf (ws.map condition) = Condition.leavesOf (ks.map condition) ∧
      ∀ v, Condition.evalAll v (ws.map condition) = Condition.evalAll v (ks.map condition) := by
  induction ws with
  | nil => exact ⟨rfl, fun _ => rfl⟩
  | cons w ws ih =>
    obtain ⟨hleaves, heval⟩ := ih
    by_cases hw : w.condition.shape = .trivial
    · obtain ⟨hnone, hyes⟩ := Condition.eval_of_isEmpty (c := w.condition) (by rw [hw]; rfl)
      simp only [hw, List.filter_cons_of_neg, ne_eq, not_true_eq_false, decide_false,
        Bool.false_eq_true, not_false_eq_true, List.map_cons, Condition.leavesOf,
        Condition.evalAll, hnone, hyes, List.nil_append, Truth.yes_and]
      exact ⟨hleaves, heval⟩
    · simp only [List.filter_cons_of_pos, ne_eq, hw, not_false_eq_true, decide_true,
        List.map_cons, Condition.leavesOf, Condition.evalAll]
      exact ⟨by rw [hleaves], fun v => by rw [heval]⟩

theorem conjunction (ws : List (Written d)) :
    Spells d (Shape.textOfAll (ws.map fun w => (w.condition.shape, w.text)))
      (Shape.ofAll (ws.map fun w => w.condition.shape)) (Condition.leavesOf (ws.map condition))
      fun v => Condition.evalAll v (ws.map condition) := by
  obtain ⟨hleaves, heval⟩ := kept_eq ws
  have hkept : Shape.kept (ws.map fun w => (w.condition.shape, w.text))
      = (ws.filter fun w => w.condition.shape ≠ .trivial).map
        fun w => (w.condition.shape, w.text) := List.filter_map
  have hshapes : (ws.map fun w => w.condition.shape).filter (· ≠ .trivial)
      = (ws.filter fun w => w.condition.shape ≠ .trivial).map fun w => w.condition.shape :=
    List.filter_map
  rw [Shape.textOfAll, Shape.ofAll, hkept, hshapes, hleaves, funext heval]
  generalize (ws.filter fun w => w.condition.shape ≠ .trivial) = ks
  match ks with
  | [] => exact (Spells.truth d).mono fun _ h => h
  | [w] => simpa [Condition.leavesOf, Condition.evalAll] using w.spells
  | w :: w' :: ks =>
    have hspells := conjuncts (List.cons_ne_nil w (w' :: ks))
    have hmap : ((w :: w' :: ks).map fun w => Shape.conjunct (w.condition.shape, w.text))
        = ((w :: w' :: ks).map fun w => (w.condition.shape, w.text)).map Shape.conjunct := by
      rw [List.map_map]
      rfl
    rw [hmap] at hspells
    exact hspells

theorem disjunction {ws : List (Written d)} (h : ws ≠ []) :
    Spells d (Shape.textOfAny (ws.map text)) (Shape.ofAny (ws.map fun w => w.condition.shape))
      (Condition.leavesOf (ws.map condition)) fun v => Condition.evalAny v (ws.map condition) := by
  match ws with
  | [w] =>
    have hreads : ∀ ts, w.condition.shape.Reads ts (fun v => w.condition.eval v) →
        (Shape.ofAny [w.condition.shape]).Reads ts fun v => w.condition.eval v := by
      intro ts h
      cases hs : w.condition.shape <;> rw [hs] at h <;> exact h
    simpa [Shape.textOfAny, Text.joinWith, Condition.leavesOf, Condition.evalAny]
      using w.spells.mono hreads
  | w :: w' :: ws =>
    have hshape : Shape.ofAny ((w :: w' :: ws).map fun w => w.condition.shape) = .disjunction := by
      rw [List.map_cons, List.map_cons]
      cases w.condition.shape <;> rfl
    rw [hshape]
    exact alternatives (List.cons_ne_nil w (w' :: ws))

theorem negation (w : Written d) : Spells d (Shape.textOfNot w.condition.shape w.text) .atom
    w.condition.leaves fun v => (w.condition.eval v).not := by
  unfold Shape.textOfNot
  split
  · exact w.spells.enclosed.negation
  · rename_i hs
    refine (w.spells.mono fun _ h => h.operand ?_ ?_).negation <;>
      · intro e
        rw [e] at hs
        exact hs rfl

/-- A condition in the place of a value. -/
theorem nested (w : Written d) :
    Spells d (Dialect.nested w.condition w.text) .atom w.condition.leaves
      fun v => w.condition.eval v := by
  unfold Dialect.nested
  split
  · rename_i e hc
    refine w.spells.mono fun _ h => h.operand ?_ ?_ <;> rw [hc] <;> cases e <;> exact nofun
  · rename_i q hc
    exact w.spells.mono fun _ h => h.operand (by rw [hc]; exact nofun) (by rw [hc]; exact nofun)
  · exact w.spells.enclosed

end Written

/-! ## The walk -/

section
variable {d : Dialect}

mutual

theorem spells_condition : ∀ {c : Condition} {t : String}, c.fillsOrs = true →
    Dialect.conditionText d c = .ok t → Spells d t c.shape c.leaves fun v => c.eval v
  | .compare .., _, _, h => .leaf h fun _ _ h => h
  | .exists _, _, _, h => .leaf h fun _ _ h => h
  | .foreign _, _, _, h => .leaf h fun _ _ h => h
  | .and cs, t, hc, h => by
    rw [Condition.fillsOrs] at hc
    simp only [Dialect.conditionText, bind_eq_ok, pure_eq_ok] at h
    obtain ⟨texts, htexts, rfl⟩ := h
    obtain ⟨ws, rfl, rfl⟩ := written_conditions hc htexts
    have hparts : (Condition.shapes (ws.map Written.condition)).zip (ws.map Written.text)
        = ws.map fun w => (w.condition.shape, w.text) := by
      rw [Written.shapes_eq, List.zip_map']
    rw [hparts, Condition.shape, Written.shapes_eq]
    exact Written.conjunction ws
  | .or cs, t, hc, h => by
    rw [Condition.fillsOrs, Bool.and_eq_true] at hc
    simp only [Dialect.conditionText, bind_eq_ok, pure_eq_ok] at h
    obtain ⟨texts, htexts, rfl⟩ := h
    obtain ⟨ws, rfl, rfl⟩ := written_conditions hc.2 htexts
    have hne : ws ≠ [] := by
      rintro rfl
      cases hc.1
    rw [Condition.shape, Written.shapes_eq]
    exact Written.disjunction hne
  | .not c, t, hc, h => by
    rw [Condition.fillsOrs] at hc
    simp only [Dialect.conditionText, bind_eq_ok, pure_eq_ok] at h
    obtain ⟨text, htext, rfl⟩ := h
    exact Written.negation ⟨c, text, spells_condition hc htext⟩
  | .isTrue (.condition c), t, hc, h => by
    rw [Condition.fillsOrs] at hc
    simp only [Dialect.conditionText, Dialect.exprText, bind_eq_ok, pure_eq_ok] at h
    obtain ⟨text, htext, rfl⟩ := h
    exact Written.nested ⟨c, text, spells_condition hc htext⟩
  | .isTrue (.column ..), _, _, h => .leaf h fun _ _ h => h
  | .isTrue (.variable _), _, _, h => .leaf h fun _ _ h => h
  | .isTrue (.literal _), _, _, h => .leaf h fun _ _ h => h
  | .isTrue (.call ..), _, _, h => .leaf h fun _ _ h => h
  | .isTrue (.arithmetic ..), _, _, h => .leaf h fun _ _ h => h
  | .isTrue (.raw _), _, _, h => .leaf h fun _ _ h => h
  | .isTrue (.subquery _), _, _, h => .leaf h fun _ _ h => h
  | .isTrue (.foreign _), _, _, h => .leaf h fun _ _ h => h

theorem written_conditions : ∀ {cs : List Condition} {ts : List String},
    Condition.allFillOrs cs = true → Dialect.conditionTexts d cs = .ok ts →
    ∃ ws : List (Written d), ws.map Written.condition = cs ∧ ws.map Written.text = ts
  | [], ts, _, h => by
    obtain rfl : [] = ts := by simpa [Dialect.conditionTexts] using h
    exact ⟨[], rfl, rfl⟩
  | c :: cs, ts, hc, h => by
    rw [Condition.allFillOrs, Bool.and_eq_true] at hc
    simp only [Dialect.conditionTexts, bind_eq_ok, pure_eq_ok] at h
    obtain ⟨text, htext, texts, htexts, rfl⟩ := h
    obtain ⟨ws, rfl, rfl⟩ := written_conditions hc.2 htexts
    exact ⟨⟨c, text, spells_condition hc.1 htext⟩ :: ws, rfl, rfl⟩

end

end

/-- **The text of a condition keeps its meaning.** Read back with its leaves marked, it means what
the condition does, whatever the truth values of the leaves are; and a condition that is left out of
a query holds always. -/
theorem rendered_condition_reads {d : Dialect} (hd : d.kind.complete = true) :
    (∀ (c : Condition) (text : String), c.fillsOrs = true → d.renderCondition c = .ok text →
      ∃ ms : List Mark, Mark.textOf ms = text ∧
        (ms.filterMap Mark.leaf?).map Prod.fst = c.leaves ∧
        (∀ p ∈ ms.filterMap Mark.leaf?, Dialect.conditionText d p.1 = .ok p.2) ∧
        (Token.cut ms).bind Reading.read = some fun v => c.eval v) ∧
    (∀ (c : Condition) (v : Condition → Truth),
      Condition.isEmpty (some c) = true → c.eval v = .yes) ∧
    ∀ (c : Condition) (word : String) (v : Condition → Truth),
      Dialect.filterParts d word (some c) = .ok [] → c.eval v = .yes := by
  have hempty : ∀ c v, Condition.isEmpty (some c) = true → c.eval v = .yes :=
    fun c v h => (Condition.eval_of_isEmpty h).2 v
  refine ⟨fun c text hc h => ?_, hempty, fun c word v h => ?_⟩
  · rw [Dialect.renderCondition, if_pos hd] at h
    obtain ⟨ts, htext, hleaves, hrendered, hreads⟩ := spells_condition hc h
    refine ⟨ts.flatMap Token.marks, htext, ?_, ?_, ?_⟩
    · rw [Token.filterMap_marks, hleaves]
    · rw [Token.filterMap_marks]
      exact hrendered
    · rw [Token.cut_marks]
      exact hreads.read
  · rw [Dialect.filterParts] at h
    split at h
    · rename_i hshape
      exact hempty c v hshape
    · obtain ⟨text, -, htext⟩ := bind_eq_ok.1 h
      cases pure_eq_ok.1 htext

/-- A condition with combinations of one part and of none. -/
def tangledCondition : Condition :=
  .and [.or [.compare (.column none "a") .isNull, .not (.isTrue (.variable "b"))], .and [],
    .or [.not (.and [.isTrue (.condition (.or [.isTrue (.variable "b"), .or [.and []]]))])]]

/-- It is read back with the parentheses that are left. -/
theorem tangledCondition_reads :
    Dialect.renderCondition {} tangledCondition = .ok "(a IS NULL OR NOT b) AND NOT (b OR TRUE)" ∧
      (∃ ms : List Mark, Mark.textOf ms = "(a IS NULL OR NOT b) AND NOT (b OR TRUE)" ∧
        (ms.filterMap Mark.leaf?).map Prod.fst = [.compare (.column none "a") .isNull,
          .isTrue (.variable "b"), .isTrue (.variable "b")] ∧
        (Token.cut ms).bind Reading.read = some fun v => tangledCondition.eval v) ∧
      Dialect.filterParts {} "WHERE" (some (.or [.and []])) = .ok [] ∧
      Condition.eval (fun _ => .no) (.or [.and []]) = .yes := by
  obtain ⟨hreads, -, hleft⟩ := rendered_condition_reads (d := {}) rfl
  obtain ⟨ms, htext, hleaves, -, hread⟩ := hreads tangledCondition _ rfl rfl
  exact ⟨rfl, ⟨ms, htext, hleaves, hread⟩, rfl, hleft (.or [.and []]) "WHERE" _ rfl⟩

end StoredSql
