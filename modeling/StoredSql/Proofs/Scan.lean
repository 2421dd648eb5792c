import StoredSql.Shape

/-!
# Scanning the text of SQL

A scan reads a text character by character and tells code from what stands in quotes: texts in
single quotes, in which a backslash takes the next character with it and two quotes stand for one,
and names in backticks, in which two backticks stand for one. In code the scan counts parentheses;
it stops at a semicolon, at a mark that begins a comment, and at a parenthesis that closes nothing.
A text is `Contained` if the scan reads all of it and ends in code with all parentheses closed.

Texts are put together from pieces with something between them. A `Piece` may stand where a scan has
not just read a quote, a minus or a slash, a `Glue` may stand after a piece, and a piece, a glue and
a piece are a piece again (`Piece.glued`); so the pieces of a text can be looked at one by one.
-/

namespace StoredSql.Scan

/-- Where a scan stands. In code it knows the character before, if that was code too. In quotes it
may be behind a backslash, or behind a quote that ends them unless one more follows. -/
inductive Place where
  | code (last : Option Char)
  | text
  | textEscape
  | textQuote
  | name
  | nameQuote
deriving DecidableEq, Repr

/-- Whether a text may end here. -/
def Place.isOutside : Place → Bool
  | .code _ => true
  | .textQuote => true
  | .nameQuote => true
  | _ => false

/-- A place, and the count of open parentheses. -/
structure State where
  place : Place
  depth : Nat
deriving DecidableEq, Repr

/-- Before a text. -/
def start : State := ⟨.code none, 0⟩

/-- Reads a character of code. -/
def stepCode (last : Option Char) (depth : Nat) (c : Char) : Option State :=
  if c = '\'' then some ⟨.text, depth⟩
  else if c = '\x60' then some ⟨.name, depth⟩
  else if c = ';' ∨ c = '#' then none
  else if c = '-' ∧ last = some '-' then none
  else if c = '*' ∧ last = some '/' then none
  else if c = '(' then some ⟨.code (some c), depth + 1⟩
  else if c = ')' then (if depth = 0 then none else some ⟨.code (some c), depth - 1⟩)
  else some ⟨.code (some c), depth⟩

/-- Reads a character. -/
def step : State → Char → Option State
  | ⟨.code last, d⟩, c => stepCode last d c
  | ⟨.text, d⟩, c =>
    some ⟨if c = '\\' then .textEscape else if c = '\'' then .textQuote else .text, d⟩
  | ⟨.textEscape, d⟩, _ => some ⟨.text, d⟩
  | ⟨.textQuote, d⟩, c => if c = '\'' then some ⟨.text, d⟩ else stepCode none d c
  | ⟨.name, d⟩, c => some ⟨if c = '\x60' then .nameQuote else .name, d⟩
  | ⟨.nameQuote, d⟩, c => if c = '\x60' then some ⟨.name, d⟩ else stepCode none d c

/-- Reads characters. -/
def run : State → List Char → Option State
  | s, [] => some s
  | s, c :: cs =>
    match step s c with
    | some s => run s cs
    | none => none

/-- Whether a text ends outside quotes with its parentheses closed, and has no semicolon and no
beginning of a comment outside quotes. -/
def Contained (text : String) : Prop :=
  ∃ s, run start text.toList = some s ∧ s.place.isOutside = true ∧ s.depth = 0

instance (text : String) : Decidable (Contained text) :=
  match h : run start text.toList with
  | none => isFalse fun ⟨_, hs, _⟩ => by rw [h] at hs; cases hs
  | some s =>
    decidable_of_iff (s.place.isOutside = true ∧ s.depth = 0) <| by
      rw [Contained, h]
      simp

theorem run_append (s : State) (as bs : List Char) :
    run s (as ++ bs) = (run s as).bind fun s => run s bs := by
  induction as generalizing s with
  | nil => rfl
  | cons a as ih =>
    simp only [List.cons_append, run]
    cases step s a with
    | none => rfl
    | some s => exact ih s

/-! ## Moves -/

/-- From a place of one kind, the characters lead to one of another kind, with as many parentheses
open as before. -/
def Moves (P Q : Place → Prop) (cs : List Char) : Prop :=
  ∀ p d, P p → ∃ q, Q q ∧ run ⟨p, d⟩ cs = some ⟨q, d⟩

section
variable {P Q R : Place → Prop} {as bs cs : List Char}

theorem Moves.nil (h : ∀ p, P p → Q p) : Moves P Q [] := fun p _ hp => ⟨p, h p hp, rfl⟩

theorem Moves.append (ha : Moves P Q as) (hb : Moves Q R bs) : Moves P R (as ++ bs) := by
  intro p d hp
  obtain ⟨q, hq, ea⟩ := ha p d hp
  obtain ⟨r, hr, eb⟩ := hb q d hq
  exact ⟨r, hr, by rw [run_append, ea]; exact eb⟩

theorem Moves.cons {c : Char} (hc : Moves P Q [c]) (hcs : Moves Q R cs) : Moves P R (c :: cs) :=
  hc.append hcs

/-- Characters one by one, all of them within places of one kind. -/
theorem Moves.of_forall (h : ∀ c ∈ cs, Moves P P [c]) : Moves P P cs := by
  induction cs with
  | nil => exact Moves.nil fun _ hp => hp
  | cons c cs ih => exact (h c (by simp)).cons (ih fun d hd => h d (by simp [hd]))

theorem Moves.flatMap {α : Type} {f : α → List Char} {xs : List α}
    (h : ∀ x ∈ xs, Moves P P (f x)) : Moves P P (xs.flatMap f) := by
  induction xs with
  | nil => exact Moves.nil fun _ hp => hp
  | cons x xs ih =>
    rw [List.flatMap_cons]
    exact (h x (by simp)).append (ih fun y hy => h y (by simp [hy]))

end

/-! ## Code -/

/-- In code, where the next character makes no mark with the one before. -/
def Fresh (p : Place) : Prop := ∃ last, p = .code last ∧ last ≠ some '-' ∧ last ≠ some '/'

/-- Where a piece may end: fresh, or behind a closing quote. -/
def Rested (p : Place) : Prop := Fresh p ∨ p = .textQuote ∨ p = .nameQuote

theorem Fresh.rested {p : Place} (h : Fresh p) : Rested p := .inl h

theorem Rested.isOutside {p : Place} (h : Rested p) : p.isOutside = true := by
  obtain ⟨_, rfl, _⟩ | rfl | rfl := h <;> rfl

/-- What a mark, a quote or a parenthesis begins with. -/
def marks : List Char := ['\'', '\x60', ';', '#', '-', '/', '(', ')']

/-- The characters of code that are no marks. -/
def isQuiet (c : Char) : Bool := !(marks.contains c)

/-- In code a quiet character is read as it is, unless it makes a mark with the one before. -/
theorem stepCode_of_isQuiet {last : Option Char} {d : Nat} {c : Char} (h : isQuiet c = true)
    (hl : c = '*' → last ≠ some '/') : stepCode last d c = some ⟨.code (some c), d⟩ := by
  simp only [isQuiet, marks, List.contains_eq_mem, List.mem_cons, List.not_mem_nil, or_false,
    Bool.not_eq_true', decide_eq_false_iff_not, not_or] at h
  obtain ⟨h1, h2, h3, h4, h5, h6, h7, h8⟩ := h
  simp only [stepCode, h1, h2, h3, h4, h5, h7, h8, or_self, false_and, if_false]
  rw [if_neg fun hc => hl hc.1 hc.2]

theorem fresh_code {c : Char} (h : isQuiet c = true) : Fresh (.code (some c)) :=
  ⟨some c, rfl, by rintro ⟨⟩; simp [isQuiet, marks] at h, by rintro ⟨⟩; simp [isQuiet, marks] at h⟩

theorem moves_isQuiet {c : Char} (h : isQuiet c = true) : Moves Rested Fresh [c] := by
  intro p d hp
  refine ⟨.code (some c), fresh_code h, ?_⟩
  have hq : c ≠ '\'' ∧ c ≠ '\x60' := by
    constructor <;> rintro rfl <;> simp [isQuiet, marks] at h
  obtain ⟨last, rfl, _, hl⟩ | rfl | rfl := hp
  · simp [run, step, stepCode_of_isQuiet h fun _ => hl]
  · simp [run, step, hq.1, @stepCode_of_isQuiet none d c h (by simp)]
  · simp [run, step, hq.2, @stepCode_of_isQuiet none d c h (by simp)]

/-- Quiet characters where the scan is fresh. -/
theorem moves_freshQuiet {cs : List Char} (h : ∀ c ∈ cs, isQuiet c = true) :
    Moves Fresh Fresh cs :=
  Moves.of_forall fun c hc p d hp => moves_isQuiet (h c hc) p d hp.rested

/-- Quiet characters, at least one, between a piece and what follows. -/
theorem moves_quiet {cs : List Char} (h : ∀ c ∈ cs, isQuiet c = true) (hne : cs ≠ []) :
    Moves Rested Fresh cs := by
  cases cs with
  | nil => exact absurd rfl hne
  | cons c cs =>
    exact (moves_isQuiet (h c (by simp))).cons (moves_freshQuiet fun d hd => h d (by simp [hd]))

/-- A minus or a slash is read as it is if what follows makes no mark with it. -/
theorem moves_mark {m c : Char} (hm : m = '-' ∨ m = '/') (hc : isQuiet c = true) (hs : c ≠ '*') :
    Moves Rested Fresh [m, c] := by
  intro p d hp
  refine ⟨.code (some c), fresh_code hc, ?_⟩
  have hmark : step ⟨p, d⟩ m = some ⟨.code (some m), d⟩ := by
    obtain ⟨last, rfl, hl, _⟩ | rfl | rfl := hp <;> obtain rfl | rfl := hm <;>
      simp_all [step, stepCode]
  have hnext : step ⟨.code (some m), d⟩ c = some ⟨.code (some c), d⟩ :=
    stepCode_of_isQuiet hc fun h => absurd h hs
  simp only [run, hmark, hnext]

theorem Moves.weaken {cs : List Char} (h : Moves Rested Fresh cs) : Moves Rested Rested cs :=
  fun p d hp => let ⟨q, hq, e⟩ := h p d hp; ⟨q, hq.rested, e⟩

/-! ## Pieces and what stands between them -/

/-- A text that may stand where the scan is fresh. -/
def Piece (t : String) : Prop := Moves Fresh Rested t.toList

/-- A text that may stand after a piece, and after which one may stand. -/
def Glue (t : String) : Prop := Moves Rested Fresh t.toList

/-- A text that may stand after a piece and belongs to it. -/
def Tail (t : String) : Prop := Moves Rested Rested t.toList

theorem Tail.piece {t : String} (h : Tail t) : Piece t := fun p d hp => h p d hp.rested

theorem Piece.contained {t : String} (h : Piece t) : Contained t := by
  obtain ⟨q, hq, e⟩ := h (.code none) 0 ⟨none, rfl, by simp, by simp⟩
  exact ⟨⟨q, 0⟩, e, hq.isOutside, rfl⟩

theorem Piece.append_tail {a t : String} (ha : Piece a) (ht : Tail t) : Piece (a ++ t) := by
  rw [Piece, String.toList_append]
  exact Moves.append ha ht

theorem Glue.append_piece {g a : String} (hg : Glue g) (ha : Piece a) : Tail (g ++ a) := by
  rw [Tail, String.toList_append]
  exact Moves.append hg ha

theorem Piece.glued {a g b : String} (ha : Piece a) (hg : Glue g) (hb : Piece b) :
    Piece (a ++ g ++ b) := by
  rw [String.append_assoc]
  exact ha.append_tail (hg.append_piece hb)

theorem tail_of_quiet {t : String} (h : t.toList.all isQuiet = true) : Tail t := by
  rw [List.all_eq_true] at h
  exact Moves.of_forall fun c hc => (moves_isQuiet (h c hc)).weaken

theorem glue_of_quiet {t : String} (h : t.toList.all isQuiet = true) (hne : t.toList ≠ []) :
    Glue t := by
  rw [List.all_eq_true] at h
  exact moves_quiet h hne

/-- A piece in parentheses, which may also stand after another one. -/
theorem Piece.parenthesized {t : String} (h : Piece t) : Tail (Shape.parenthesized t) := by
  intro p d hp
  obtain ⟨q, hq, et⟩ := h (.code (some '(')) (d + 1) ⟨_, rfl, by simp, by simp⟩
  have hopen : step ⟨p, d⟩ '(' = some ⟨.code (some '('), d + 1⟩ := by
    obtain ⟨last, rfl, _, _⟩ | rfl | rfl := hp <;> simp [step, stepCode]
  have hclose : step ⟨q, d + 1⟩ ')' = some ⟨.code (some ')'), d⟩ := by
    obtain ⟨last, rfl, _, _⟩ | rfl | rfl := hq <;> simp [step, stepCode]
  refine ⟨.code (some ')'), .inl ⟨_, rfl, by simp, by simp⟩, ?_⟩
  rw [Shape.toList_parenthesized, run, hopen]
  simp only [run_append, et, Option.bind_some, run, hclose]

end StoredSql.Scan
