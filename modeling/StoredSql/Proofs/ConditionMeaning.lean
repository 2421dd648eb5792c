import StoredSql.Shape

/-!
# What conditions mean

A condition has one of three truth values as soon as its leaves have: the tests, the queries that
are asked for rows, and the values that are taken for truth values. A value that is a condition
means that condition. A conjunction of nothing holds always, so a condition that counts as empty
does (`Condition.eval_of_isEmpty`).
-/

namespace StoredSql

/-! ## Truth values -/

/-- The truth values. -/
inductive Truth where
  | no
  | unknown
  | yes
deriving DecidableEq, Repr

namespace Truth

def and : Truth → Truth → Truth
  | no, _ => no
  | _, no => no
  | yes, yes => yes
  | _, _ => unknown

def or : Truth → Truth → Truth
  | yes, _ => yes
  | _, yes => yes
  | no, no => no
  | _, _ => unknown

def not : Truth → Truth
  | no => yes
  | unknown => unknown
  | yes => no

@[simp] theorem yes_and (t : Truth) : yes.and t = t := by cases t <;> rfl

@[simp] theorem and_yes (t : Truth) : t.and yes = t := by cases t <;> rfl

@[simp] theorem no_or (t : Truth) : no.or t = t := by cases t <;> rfl

@[simp] theorem or_no (t : Truth) : t.or no = t := by cases t <;> rfl

theorem and_assoc (s t u : Truth) : (s.and t).and u = s.and (t.and u) := by
  cases s <;> cases t <;> cases u <;> rfl

theorem or_assoc (s t u : Truth) : (s.or t).or u = s.or (t.or u) := by
  cases s <;> cases t <;> cases u <;> rfl

end Truth

/-! ## Conditions -/

mutual

/-- The truth value of a condition, when its leaves have those of `v`. -/
def Condition.eval (v : Condition → Truth) : Condition → Truth
  | .and cs => Condition.evalAll v cs
  | .or cs => Condition.evalAny v cs
  | .not c => (c.eval v).not
  | .isTrue (.condition c) => c.eval v
  | c => v c

def Condition.evalAll (v : Condition → Truth) : List Condition → Truth
  | [] => .yes
  | c :: cs => (c.eval v).and (Condition.evalAll v cs)

def Condition.evalAny (v : Condition → Truth) : List Condition → Truth
  | [] => .no
  | c :: cs => (c.eval v).or (Condition.evalAny v cs)

end

mutual

/-- The leaves of a condition, in order. -/
def Condition.leaves : Condition → List Condition
  | .and cs => Condition.leavesOf cs
  | .or cs => Condition.leavesOf cs
  | .not c => c.leaves
  | .isTrue (.condition c) => c.leaves
  | c => [c]

def Condition.leavesOf : List Condition → List Condition
  | [] => []
  | c :: cs => c.leaves ++ Condition.leavesOf cs

end

mutual

/-- Whether no disjunction in a condition is one of nothing. -/
def Condition.fillsOrs : Condition → Bool
  | .and cs => Condition.allFillOrs cs
  | .or cs => !cs.isEmpty && Condition.allFillOrs cs
  | .not c => c.fillsOrs
  | .isTrue (.condition c) => c.fillsOrs
  | _ => true

def Condition.allFillOrs : List Condition → Bool
  | [] => true
  | c :: cs => c.fillsOrs && Condition.allFillOrs cs

end

/-! ## Conditions of nothing -/

/-- All parts of a conjunction that asks for nothing ask for nothing. -/
theorem Shape.isEmpty_of_ofAll {ss : List Shape} (h : (ofAll ss).isEmpty = true) :
    ∀ s ∈ ss, s.isEmpty = true := by
  intro s hs
  by_cases htrivial : s = trivial
  · rw [htrivial]
    rfl
  have hkept : s ∈ ss.filter (· ≠ trivial) := List.mem_filter.2 ⟨hs, by simpa using htrivial⟩
  unfold ofAll at h
  split at h
  · rename_i e
    rw [e] at hkept
    cases hkept
  · rename_i e
    rw [e] at hkept
    obtain rfl := List.mem_singleton.1 hkept
    exact h
  · cases h

/-- A disjunction that asks for nothing has one part. -/
theorem Shape.isEmpty_of_ofAny {ss : List Shape} (h : (ofAny ss).isEmpty = true) :
    ∃ s, ss = [s] ∧ s.isEmpty = true := by
  unfold ofAny at h
  split at h
  · exact ⟨trivial, rfl, rfl⟩
  · exact ⟨_, rfl, h⟩
  · cases h

mutual

/-- A condition that asks for nothing holds always, and has no leaves. -/
theorem Condition.eval_of_isEmpty : ∀ {c : Condition}, c.shape.isEmpty = true →
    c.leaves = [] ∧ ∀ v, c.eval v = .yes
  | .and cs, h => by
    rw [Condition.shape] at h
    exact Condition.evalAll_of_isEmpty (Shape.isEmpty_of_ofAll h)
  | .or [], h => by cases h
  | .or [c], h => by
    obtain ⟨s, hs, hempty⟩ := Shape.isEmpty_of_ofAny h
    obtain rfl : c.shape = s := (List.cons.inj hs).1
    obtain ⟨hleaves, heval⟩ := Condition.eval_of_isEmpty hempty
    refine ⟨?_, fun v => ?_⟩
    · simp [Condition.leaves, Condition.leavesOf, hleaves]
    · simp [Condition.eval, Condition.evalAny, heval]
  | .or (c :: c' :: cs), h => by
    obtain ⟨s, hs, -⟩ := Shape.isEmpty_of_ofAny h
    cases (List.cons.inj hs).2
  | .not _, h => by cases h
  | .compare .., h => by cases h
  | .exists _, h => by cases h
  | .foreign _, h => by cases h
  | .isTrue e, h => by cases e <;> cases h

theorem Condition.evalAll_of_isEmpty : ∀ {cs : List Condition},
    (∀ s ∈ Condition.shapes cs, s.isEmpty = true) →
    Condition.leavesOf cs = [] ∧ ∀ v, Condition.evalAll v cs = .yes
  | [], _ => ⟨rfl, fun _ => rfl⟩
  | c :: cs, h => by
    obtain ⟨hleaves, heval⟩ := Condition.eval_of_isEmpty (h c.shape (by simp [Condition.shapes]))
    obtain ⟨hleavesOf, hall⟩ := Condition.evalAll_of_isEmpty fun s hs =>
      h s (List.mem_cons_of_mem c.shape hs)
    refine ⟨?_, fun v => ?_⟩
    · rw [Condition.leavesOf, hleaves, hleavesOf]
      rfl
    · rw [Condition.evalAll, heval, hall]
      rfl

end

end StoredSql
