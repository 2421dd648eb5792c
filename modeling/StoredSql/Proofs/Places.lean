import StoredSql.Scope

/-!
# Places in statements

What a statement holds, and the places inside of it (`Stands`): a place is told by the statements
around it, each with what comes before the place in it.
-/

namespace StoredSql

namespace IfBranch

/-- The condition of a branch. -/
def test : IfBranch → Condition
  | ⟨test, _⟩ => test

/-- The statements of a branch. -/
def statements : IfBranch → List Statement
  | ⟨_, statements⟩ => statements

end IfBranch

namespace CaseWhen

/-- The value or the condition of an arm. -/
def test : CaseWhen → Expr
  | ⟨test, _⟩ => test

/-- The statements of an arm. -/
def statements : CaseWhen → List Statement
  | ⟨_, statements⟩ => statements

end CaseWhen

namespace Statement

/-- The lists of statements that a statement holds, from left to right. -/
def held : Statement → List (List Statement)
  | declareHandler _ _ body => [[body]]
  | block b => [b.statements]
  | ifElse branches otherwise => branches.map (·.statements) ++ otherwise.toList
  | cases _ whens otherwise => whens.map (·.statements) ++ otherwise.toList
  | loop _ body => [body]
  | whileLoop _ _ body => [body]
  | repeatLoop _ _ body => [body]
  | _ => []

/-- The kind of the scopes inside of a statement, if it holds statements. -/
def scopeKind? : Statement → Option ScopeKind
  | declareHandler _ _ _ => some .handler
  | block _ => some .block
  | ifElse _ _ => some .branch
  | cases _ _ _ => some .branch
  | loop _ _ => some .loop
  | whileLoop _ _ _ => some .loop
  | repeatLoop _ _ _ => some .loop
  | _ => none

/-- The label of a block or a loop that has one. -/
def label? : Statement → Option String
  | block b => b.label
  | loop label _ => label
  | whileLoop label _ _ => label
  | repeatLoop label _ _ => label
  | _ => none

theorem held_of_scopeKind? {s : Statement} (h : s.scopeKind? = none) : s.held = [] := by
  cases s <;> first | rfl | cases h

end Statement

/-- One of the statements around a place, with what comes before the place among the statements that
it holds next to the place. -/
structure Level where
  holder : Statement
  before : List Statement

/-- The places inside of a statement: the statements around them, innermost first, and the statement
that stands there. -/
inductive Stands : Statement → List Level → Statement → Prop
  | here {s : Statement} : Stands s [] s
  | inside {s t u : Statement} {before after : List Statement} {levels : List Level} :
      before ++ t :: after ∈ s.held → Stands t levels u → Stands s (levels ++ [⟨s, before⟩]) u

/-- A place among statements to which one more has come: it is that of the last one, or it was there
before. -/
theorem split_of_concat {ss before after : List Statement} {s t : Statement}
    (h : ss ++ [s] = before ++ t :: after) :
    (before = ss ∧ t = s) ∨ ∃ rest, ss = before ++ t :: rest := by
  rcases List.eq_nil_or_concat after with rfl | ⟨rest, last, rfl⟩
  · obtain ⟨rfl, ht⟩ := List.append_inj' h rfl
    exact .inl ⟨rfl, (List.singleton_inj.1 ht).symm⟩
  · rw [List.concat_eq_append, ← List.cons_append, ← List.append_assoc] at h
    exact .inr ⟨rest, (List.append_inj' h rfl).1⟩

/-- The kind of the scopes at a level, and their label. -/
def Level.mark (l : Level) : Option ScopeKind × Option String :=
  (l.holder.scopeKind?, l.holder.label?)

/-- One level outwards. -/
theorem Stands.outward {s u : Statement} {l : Level} {levels : List Level}
    (h : Stands s (l :: levels) u) : Stands s levels l.holder := by
  generalize hl : l :: levels = ls at h
  induction h generalizing l levels with
  | here => cases hl
  | @inside s t u before after inner hmem hstands ih =>
    cases inner with
    | nil =>
      cases hl
      exact .here
    | cons l' inner =>
      cases hl
      exact .inside hmem (ih rfl)

/-- The place of a statement around a place. -/
theorem Stands.around {s u : Statement} {l : Level} {between beyond : List Level}
    (h : Stands s (between ++ l :: beyond) u) : Stands s beyond l.holder := by
  induction between generalizing u with
  | nil => exact h.outward
  | cons l' between ih => exact ih h.outward

/-- A place in a place. -/
theorem Stands.trans {s t u : Statement} {levels levels' : List Level} (h : Stands s levels t)
    (h' : Stands t levels' u) : Stands s (levels' ++ levels) u := by
  induction h with
  | here => rwa [List.append_nil]
  | inside hmem _ ih => exact List.append_assoc .. ▸ .inside hmem (ih h')

/-- A statement that holds none has no places but its own. -/
theorem Stands.of_leaf {s u : Statement} {levels : List Level} (h : Stands s levels u)
    (hs : s.scopeKind? = none) : levels = [] ∧ u = s := by
  cases h with
  | here => exact ⟨rfl, rfl⟩
  | inside hmem _ =>
    rw [Statement.held_of_scopeKind? hs] at hmem
    cases hmem

namespace Statement

/-- Whether a name is the label of a construct that has one, or the label that is left or
iterated. -/
inductive Names (x : String) : Statement → Prop
  | label {s : Statement} : s.label? = some x → Names x s
  | leave : Names x (.leave x)
  | iterate : Names x (.iterate x)

/-- Whether a name is a label, or one that is left or iterated, in a statement. -/
def Mentions (x : String) (s : Statement) : Prop := ∃ levels u, Stands s levels u ∧ Names x u

variable {P : Statement → Prop} {s : Statement}

/-- Whether all that stands in a statement has a property, the statement itself included. -/
def Everywhere (P : Statement → Prop) (s : Statement) : Prop :=
  ∀ ⦃levels : List Level⦄ ⦃t : Statement⦄, Stands s levels t → P t

theorem everywhere_iff : s.Everywhere P ↔ P s ∧ ∀ body ∈ s.held, ∀ t ∈ body, t.Everywhere P := by
  constructor
  · intro h
    refine ⟨h .here, fun body hbody t ht levels u hu => ?_⟩
    obtain ⟨before, after, rfl⟩ := List.append_of_mem ht
    exact h (.inside hbody hu)
  · rintro ⟨hs, hheld⟩ levels t ht
    cases ht with
    | here => exact hs
    | inside hbody ht => exact hheld _ hbody _ (by simp) ht

/-- What has a property everywhere has it in each of the statements that it holds. -/
theorem Everywhere.held (h : s.Everywhere P) {body : List Statement} (hbody : body ∈ s.held) :
    ∀ t ∈ body, t.Everywhere P :=
  (everywhere_iff.1 h).2 body hbody

end Statement

end StoredSql
