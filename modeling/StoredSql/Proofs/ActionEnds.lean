import StoredSql.Proofs.BuilderSteps

/-!
# How actions end

An action on a builder ends well where it succeeds with a builder of one kind and fails with one of
another kind (`Builder.Ends`). A chain of steps ends well if its steps do; the steps that leave the
builder as it is have a lemma each.
-/

namespace StoredSql

open Stepwise Check

namespace Builder

variable {α β : Type} {Ok Err : Builder → Prop} {b b' : Builder} {e : Error}

/-- Whether an action that succeeds leaves a builder of one kind, and one that fails a builder of
another kind. -/
structure Ends (Ok Err : Builder → Prop) (b : Builder) (act : Action α) : Prop where
  ok : ∀ {a : α} {b' : Builder}, act b = (.ok a, b') → Ok b'
  error : ∀ {e : Error} {b' : Builder}, act b = (.error e, b') → Err b'

/-- What holds at both ends of an action holds after it. -/
theorem Ends.after {act : Action α} (h : Ends Ok Ok b act) : Ok (act b).2 := by
  rcases hact : act b with ⟨e | a, b'⟩
  · exact h.error hact
  · exact h.ok hact

/-- An action ends like another one that does the same. -/
theorem Ends.of_eq {act act' : Action α} (h : act b = act' b') (h' : Ends Ok Err b' act') :
    Ends Ok Err b act :=
  ⟨fun hact => h'.ok (h ▸ hact), fun hact => h'.error (h ▸ hact)⟩

theorem ends_ok {act : Action α} {a : α} (h : act b = (.ok a, b')) (hb' : Ok b') :
    Ends Ok Err b act := by
  constructor
  · intro _ _ hact
    obtain ⟨_, rfl⟩ := pair_eq.1 (h.symm.trans hact)
    exact hb'
  · intro _ _ hact
    cases (pair_eq.1 (h.symm.trans hact)).1

theorem ends_error {act : Action α} (h : act b = (.error e, b')) (hb' : Err b') :
    Ends Ok Err b act := by
  constructor
  · intro _ _ hact
    cases (pair_eq.1 (h.symm.trans hact)).1
  · intro _ _ hact
    obtain ⟨_, rfl⟩ := pair_eq.1 (h.symm.trans hact)
    exact hb'

theorem Ends.bind {Ok' : Builder → Prop} {x : Action α} {f : α → Action β} (hx : Ends Ok' Err b x)
    (hf : ∀ a b', x b = (.ok a, b') → Ends Ok Err b' (f a)) : Ends Ok Err b (x >>= f) := by
  constructor
  · intro _ _ h
    obtain ⟨a, t, ht, h⟩ := bind_ok.1 h
    exact (hf a t ht).ok h
  · intro _ _ h
    rcases bind_error.1 h with h | ⟨a, t, ht, h⟩
    · exact hx.error h
    · exact (hf a t ht).error h

/-- A step that is known to succeed. -/
theorem ends_of_ok {x : Action α} {f : α → Action β} {a : α} (hx : x b = (.ok a, b'))
    (hf : Ends Ok Err b' (f a)) : Ends Ok Err b (x >>= f) := by
  constructor
  · intro _ _ h
    exact hf.ok ((bind_of_ok hx).symm.trans h)
  · intro _ _ h
    exact hf.error ((bind_of_ok hx).symm.trans h)

theorem ends_of_error {x : Action α} {f : α → Action β} (hx : x b = (.error e, b'))
    (hb' : Err b') : Ends Ok Err b (x >>= f) :=
  ends_error (bind_of_error hx) hb'

/-! ## Steps that leave the builder -/

theorem ends_throw (hb : Err b) (e : Error) : Ends Ok Err b (throw e : Action α) :=
  ends_error rfl hb

theorem ends_live (hb : Err b) {f : Unit → Action α}
    (hf : b.consumed = false → Ends Ok Err b (f ())) : Ends Ok Err b (live >>= f) := by
  cases hl : b.consumed with
  | false => exact ends_of_ok (live_apply hl) (hf hl)
  | true => exact ends_of_error (live_error hl) hb

theorem ends_needScope (hb : Err b) {f : Unit → Action α}
    (hf : b.takesStatements = true → Ends Ok Err b (f ())) :
    Ends Ok Err b (needScope >>= f) := by
  cases ht : b.takesStatements with
  | true => exact ends_of_ok (needScope_apply ht) (hf ht)
  | false => exact ends_of_error (needScope_error ht) hb

theorem ends_made (hb : Err b) {r : Except Error α} {f : α → Action β}
    (hf : ∀ a, r = .ok a → Ends Ok Err b (f a)) : Ends Ok Err b (made r >>= f) := by
  cases r with
  | ok a => exact ends_of_ok rfl (hf a rfl)
  | error e => exact ends_of_error rfl hb

theorem ends_resolveAll (hb : Err b) {names : List String} {f : Unit → Action α}
    (hf : b.checker.nesting.resolveAll names = .ok () → Ends Ok Err b (f ())) :
    Ends Ok Err b (checking (resolveAll names) >>= f) := by
  have hcheck : ∀ r, b.checker.nesting.resolveAll names = r →
      checking (resolveAll names) b = (r, b) :=
    fun r hr => checking_of (resolveAll_eq.2 ⟨hr, rfl⟩)
  rcases htest : b.checker.nesting.resolveAll names with e | u
  · exact ends_of_error (hcheck _ htest) hb
  · exact ends_of_ok (hcheck _ htest) (hf htest)

end Builder
end StoredSql
