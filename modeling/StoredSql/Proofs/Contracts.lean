import StoredSql.Proofs.Outcome

/-!
# What computations promise

A computation that may fail promises something of its result, and something of its error if it
fails (`Outcome.Yields`). A chain promises what its last step promises, given what the steps before
it do.
-/

namespace StoredSql.Outcome

variable {α β : Type} {P : α → Prop} {Q : β → Prop} {E : Error → Prop} {x : Except Error α}

/-- What holds of the result of a computation, and what holds of its error. -/
def Yields (P : α → Prop) (E : Error → Prop) : Except Error α → Prop
  | .ok a => P a
  | .error e => E e

theorem Yields.of_ok {a : α} (h : Yields P E x) (hx : x = .ok a) : P a := by
  rw [hx] at h
  exact h

/-- Of what is not looked at, nothing is promised. -/
theorem yields_true (x : Except Error α) : Yields (fun _ => True) (fun _ => True) x := by
  cases x <;> trivial

/-- What is promised of an error may be weaker. -/
theorem Yields.mono {E' : Error → Prop} (hx : Yields P E x) (hE : ∀ e, E e → E' e) :
    Yields P E' x := by
  cases x with
  | ok a => exact hx
  | error e => exact hE e hx

theorem Yields.guarded {p : Prop} [Decidable p] {e : Error} (he : E e) (hx : Yields P E x) :
    Yields P E (if p then throw e >>= fun _ : Unit => x else x) := by
  split
  · exact he
  · exact hx

theorem Yields.bind {f : α → Except Error β} (hx : Yields P E x)
    (hf : ∀ a, P a → Yields Q E (f a)) : Yields Q E (x >>= f) := by
  cases x with
  | ok a => exact hf a hx
  | error _ => exact hx

theorem Yields.pure {a : α} (h : P a) : Yields P E (Pure.pure a) := h

theorem Yields.map {f : α → β} (hx : Yields P E x) (hf : ∀ a, P a → Q (f a)) :
    Yields Q E (x.map f) := by
  cases x with
  | ok a => exact hf a hx
  | error _ => exact hx

/-- What is promised for each item of a list holds of all that the items give. -/
theorem Yields.mapM {f : α → Except Error β} {as : List α} (hf : ∀ a ∈ as, Yields Q E (f a)) :
    Yields (fun bs => ∀ b ∈ bs, Q b) E (as.mapM f) := by
  induction as with
  | nil => exact fun _ hb => absurd hb List.not_mem_nil
  | cons a as ih =>
    rw [List.mapM_cons]
    refine (hf a (by simp)).bind fun b hb => ?_
    exact (ih fun a ha => hf a (List.mem_cons_of_mem _ ha)).bind fun bs hbs =>
      Yields.pure (List.forall_mem_cons.2 ⟨hb, hbs⟩)

end StoredSql.Outcome
