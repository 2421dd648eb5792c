import StoredSql.Builder

/-!
# Checks step by step

What a chain of steps on a state does, told by what its steps do. Each step of a check that cannot
fail has its own lemma, which names the checker that it leaves (`noted`, `entered`, `left`,
`withStates`); where a check within a scope or with the states kept ends, the checker inside is known
from the one outside.
-/

namespace StoredSql

/-! ## Chains of steps -/

namespace Stepwise

variable {σ α β : Type}

theorem bind_apply (x : ExceptT Error (StateM σ) α) (f : α → ExceptT Error (StateM σ) β) (s : σ) :
    (x >>= f) s = match x s with
      | (.ok a, t) => f a t
      | (.error e, t) => (.error e, t) := by
  show ExceptT.bindCont f (x s).1 (x s).2 = _
  rcases x s with ⟨_ | _, _⟩ <;> rfl

/-- An answer and a state are told by their parts. -/
theorem pair_eq {r r' : Except Error α} {s t : σ} :
    @Eq (Id (Except Error α × σ)) (r, s) (r', t) ↔ r = r' ∧ s = t := by
  constructor
  · rintro ⟨⟩
    exact ⟨rfl, rfl⟩
  · rintro ⟨rfl, rfl⟩
    rfl

theorem pure_eq {a : α} {r : Except Error α} {s t : σ} :
    (pure a : ExceptT Error (StateM σ) α) s = (r, t) ↔ .ok a = r ∧ s = t :=
  pair_eq

@[simp] theorem pure_apply (a : α) (s : σ) :
    (pure a : ExceptT Error (StateM σ) α) s = (.ok a, s) := rfl

@[simp] theorem throw_apply (e : Error) (s : σ) :
    (throw e : ExceptT Error (StateM σ) α) s = (.error e, s) := rfl

@[simp] theorem get_apply (s : σ) : (get : ExceptT Error (StateM σ) σ) s = (.ok s, s) := rfl

@[simp] theorem set_apply (s t : σ) :
    (set t : ExceptT Error (StateM σ) PUnit) s = (.ok ⟨⟩, t) := rfl

@[simp] theorem modify_apply (f : σ → σ) (s : σ) :
    (modify f : ExceptT Error (StateM σ) PUnit) s = (.ok ⟨⟩, f s) := rfl

/-- A chain succeeds where each of its steps does. -/
theorem bind_ok {x : ExceptT Error (StateM σ) α} {f : α → ExceptT Error (StateM σ) β} {s t : σ}
    {b : β} : (x >>= f) s = (.ok b, t) ↔ ∃ a r, x s = (.ok a, r) ∧ f a r = (.ok b, t) := by
  rw [bind_apply]
  rcases h : x s with ⟨_ | a, r⟩
  · constructor
    · intro hf
      cases hf
    · rintro ⟨_, _, he, _⟩
      cases he
  · constructor
    · intro hf
      exact ⟨a, r, rfl, hf⟩
    · rintro ⟨a', r', he, hf⟩
      cases he
      exact hf

/-- A chain fails in the first of its steps or after it. -/
theorem bind_error {x : ExceptT Error (StateM σ) α} {f : α → ExceptT Error (StateM σ) β} {s t : σ}
    {e : Error} : (x >>= f) s = (.error e, t) ↔
      x s = (.error e, t) ∨ ∃ a r, x s = (.ok a, r) ∧ f a r = (.error e, t) := by
  rw [bind_apply]
  rcases h : x s with ⟨_ | a, r⟩
  · constructor
    · rintro ⟨⟩
      exact .inl rfl
    · rintro (⟨⟨⟩⟩ | ⟨_, _, ⟨⟩, _⟩)
      rfl
  · constructor
    · intro hf
      exact .inr ⟨a, r, rfl, hf⟩
    · rintro (he | ⟨a', r', he, hf⟩)
      · cases he
      · cases he
        exact hf

/-- A chain whose first step succeeds goes on with the rest. -/
theorem bind_of_ok {x : ExceptT Error (StateM σ) α} {f : α → ExceptT Error (StateM σ) β} {s t : σ}
    {a : α} (h : x s = (.ok a, t)) : (x >>= f) s = f a t := by
  rw [bind_apply, h]

/-- A chain whose first step fails does nothing else. -/
theorem bind_of_error {x : ExceptT Error (StateM σ) α} {f : α → ExceptT Error (StateM σ) β}
    {s t : σ} {e : Error} (h : x s = (.error e, t)) : (x >>= f) s = (.error e, t) := by
  rw [bind_apply, h]

end Stepwise

/-! ## The checker that a step leaves -/

namespace Checker

/-- The checker after a statement that is executed has come. -/
def noted (c : Checker) : Checker :=
  { c with nesting := { c.nesting with inner := c.nesting.inner.noteStatement } }

/-- The checker within one more scope. -/
def entered (s : Scope) (c : Checker) : Checker := { c with nesting := c.nesting.within s }

/-- The checker outside its innermost scope. -/
def left (c : Checker) : Checker := { c with nesting := c.nesting.leave }

/-- The checker with its cursors in other states. -/
def withStates (states : List CursorState) (c : Checker) : Checker :=
  { c with nesting := c.nesting.withStates states }

/-- The checker with no state of a cursor known. -/
def withUnknownStates (c : Checker) : Checker := { c with nesting := c.nesting.withUnknownStates }

/-- The label that a construct gets, and the checker after it. -/
def labelled (label : Option String) (c : Checker) : String × Checker :=
  match Text.nonEmpty label with
  | some l => (l, c)
  | none =>
    ((c.labels.next c.nesting.openLabels).1,
      { c with labels := (c.labels.next c.nesting.openLabels).2 })

end Checker

namespace Check

open Stepwise

variable {α β : Type} {c c' : Checker}

/-! ### Steps that cannot fail -/

theorem noteStatement_bind (f : Unit → Check β) (c : Checker) :
    (noteStatement >>= f) c = f () c.noted :=
  bind_of_ok rfl

theorem enter_bind (s : Scope) (f : Unit → Check β) (c : Checker) :
    (enter s >>= f) c = f () (c.entered s) :=
  bind_of_ok rfl

theorem states_bind (f : List CursorState → Check β) (c : Checker) :
    (states >>= f) c = f c.nesting.states c :=
  bind_of_ok rfl

theorem view_bind (f : ScopeView → Check β) (c : Checker) :
    (view >>= f) c = f c.nesting.view c :=
  bind_of_ok rfl

theorem setStates_bind (states : List CursorState) (f : Unit → Check β) (c : Checker) :
    (setStates states >>= f) c = f () (c.withStates states) :=
  bind_of_ok rfl

theorem unknownStates_bind (f : Unit → Check β) (c : Checker) :
    ((change fun n => .ok n.withUnknownStates) >>= f) c = f () c.withUnknownStates :=
  bind_of_ok rfl

theorem mergeStates_bind (before : List CursorState) (outcomes : List (List CursorState))
    (f : Unit → Check β) (c : Checker) : (mergeStates before outcomes >>= f) c =
      f () (c.withStates (Nesting.agreedStates before.length outcomes)) :=
  bind_of_ok rfl

/-- A scope without a label can be gone into at every place. -/
theorem child_none_bind (kind : ScopeKind) (f : Scope → Check β) (c : Checker) :
    (child kind none >>= f) c = f { kind := kind, rows := c.nesting.inner.rows } c :=
  bind_of_ok rfl

/-- There is a label for every construct that has none. -/
theorem labelOr_apply (label : Option String) (c : Checker) :
    labelOr label c = (.ok (c.labelled label).1, (c.labelled label).2) := by
  unfold labelOr Checker.labelled
  cases Text.nonEmpty label <;> rfl

theorem labelOr_bind (label : Option String) (f : String → Check β) (c : Checker) :
    (labelOr label >>= f) c = f (c.labelled label).1 (c.labelled label).2 :=
  bind_of_ok (labelOr_apply label c)

/-! ### Steps that may fail -/

/-- What cannot be made leaves the checker. -/
theorem made_eq {r r' : Except Error α} : made r c = (r', c') ↔ r = r' ∧ c = c' := pair_eq

/-- A question leaves the checker. -/
theorem ask_eq {f : Nesting → Except Error α} {r : Except Error α} :
    ask f c = (r, c') ↔ f c.nesting = r ∧ c = c' := pair_eq

theorem change_of_ok {f : Nesting → Except Error Nesting} {n : Nesting} (h : f c.nesting = .ok n) :
    change f c = (.ok (), { c with nesting := n }) := by
  simp only [change, h]

/-- A change that is not allowed leaves the checker. -/
theorem change_of_error {f : Nesting → Except Error Nesting} {e : Error}
    (h : f c.nesting = .error e) : change f c = (.error e, c) := by
  simp only [change, h]

theorem change_ok {f : Nesting → Except Error Nesting} {u : Unit}
    (h : change f c = (.ok u, c')) :
    f c.nesting = .ok c'.nesting := by
  rcases hf : f c.nesting with e | n
  · rw [change_of_error hf] at h
    cases h
  · rw [change_of_ok hf] at h
    cases h
    exact rfl

theorem change_error {f : Nesting → Except Error Nesting} {e : Error}
    (h : change f c = (.error e, c')) : f c.nesting = .error e := by
  rcases hf : f c.nesting with e' | n
  · rw [change_of_error hf] at h
    cases h
    exact rfl
  · rw [change_of_ok hf] at h
    cases h

/-- A declaration changes the innermost scope, whether it succeeds or fails. -/
theorem declare_eq {f : Scope → Except Error Unit × Scope} {r : Except Error Unit} :
    declare f c = (r, c') ↔ ∃ s, f c.nesting.inner = (r, s) ∧
      { c with nesting := { c.nesting with inner := s } } = c' := by
  unfold declare
  rcases f c.nesting.inner with ⟨r', s⟩
  constructor
  · rintro ⟨⟩
    exact ⟨s, rfl, rfl⟩
  · rintro ⟨s', ⟨⟩, rfl⟩
    rfl

theorem child_eq {kind : ScopeKind} {label : Option String} {r : Except Error Scope} :
    child kind label c = (r, c') ↔ c.nesting.child kind label = r ∧ c = c' := pair_eq

theorem within_apply (s : Scope) (act : Check α) (c : Checker) :
    within s act c = ((act (c.entered s)).1, (act (c.entered s)).2.left) := rfl

theorem keepStates_apply (states : List CursorState) (act : Check α) (c : Checker) :
    keepStates states act c = ((act c).1, (act c).2.withStates states) := rfl

/-- What is done within a scope is seen from outside it. -/
theorem within_eq {s : Scope} {act : Check α} {r : Except Error α} :
    within s act c = (r, c') ↔ ∃ t, act (c.entered s) = (r, t) ∧ t.left = c' := by
  rw [within_apply]
  rcases act (c.entered s) with ⟨r', t⟩
  constructor
  · rintro ⟨⟩
    exact ⟨t, rfl, rfl⟩
  · rintro ⟨t', ⟨⟩, rfl⟩
    rfl

theorem keepStates_eq {states : List CursorState} {act : Check α} {r : Except Error α} :
    keepStates states act c = (r, c') ↔ ∃ t, act c = (r, t) ∧ t.withStates states = c' := by
  rw [keepStates_apply]
  rcases act c with ⟨r', t⟩
  constructor
  · rintro ⟨⟩
    exact ⟨t, rfl, rfl⟩
  · rintro ⟨t', ⟨⟩, rfl⟩
    rfl

end Check
end StoredSql
