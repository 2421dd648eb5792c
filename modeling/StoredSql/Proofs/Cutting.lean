import StoredSql.Text.Parts

/-!
# Cutting a text where a reader says

A text is cut at the characters at which a reader that goes through it stops; these are no part of
any part. Where the reader stops depends on its place, so that it may pass over a character within
quotes and stop at the same one outside. What follows a cut is cut as the reader goes on from there
(`cutBy_append`), and a text in which the reader does not stop is its own only part
(`cutBy_eq_singleton`).
-/

namespace StoredSql.Text

variable {σ : Type} (step : σ → Char → σ) (stops : σ → Char → Bool)

/-- The parts of a text between the characters at which a reader stops. -/
def cutBy : σ → List Char → List (List Char)
  | _, [] => [[]]
  | s, c :: cs =>
    if stops s c = true then [] :: cutBy (step s c) cs
    else match cutBy (step s c) cs with
      | [] => [[c]]
      | part :: parts => (c :: part) :: parts

/-- Whether a reader stops nowhere in a text. -/
def isUncut : σ → List Char → Bool
  | _, [] => true
  | s, c :: cs => !stops s c && isUncut (step s c) cs

variable {step stops} {s : σ} {as bs : List Char}

theorem cutBy_ne_nil : cutBy step stops s as ≠ [] := by
  cases as with
  | nil => simp [cutBy]
  | cons a as =>
    rw [cutBy]
    split
    · simp
    · split <;> simp

theorem cutBy_append {c : Char} (h : stops (as.foldl step s) c = true) :
    cutBy step stops s (as ++ c :: bs)
      = cutBy step stops s as ++ cutBy step stops (step (as.foldl step s) c) bs := by
  induction as generalizing s with
  | nil =>
    rw [List.foldl_nil] at h
    simp [cutBy, h]
  | cons a as ih =>
    rw [List.cons_append, cutBy, cutBy, ih h]
    split
    · rfl
    · cases hparts : cutBy step stops (step s a) as with
      | nil => exact absurd hparts cutBy_ne_nil
      | cons part parts => rfl

theorem cutBy_eq_singleton (h : isUncut step stops s as = true) :
    cutBy step stops s as = [as] := by
  induction as generalizing s with
  | nil => rfl
  | cons a as ih =>
    rw [isUncut, Bool.and_eq_true, Bool.not_eq_true'] at h
    rw [cutBy, ih h.2, if_neg (by simp [h.1])]

theorem isUncut_append : isUncut step stops s (as ++ bs)
    = (isUncut step stops s as && isUncut step stops (as.foldl step s) bs) := by
  induction as generalizing s with
  | nil => rfl
  | cons a as ih =>
    rw [List.cons_append, isUncut, isUncut, ih, List.foldl_cons, Bool.and_assoc]

/-- A text without the characters that a reader can stop at is not cut. -/
theorem isUncut_of_forall (h : ∀ c ∈ as, ∀ s, stops s c = false) :
    isUncut step stops s as = true := by
  induction as generalizing s with
  | nil => rfl
  | cons a as ih =>
    rw [isUncut, h a (by simp) s, ih fun c hc => h c (List.mem_cons_of_mem _ hc)]
    rfl

end StoredSql.Text
