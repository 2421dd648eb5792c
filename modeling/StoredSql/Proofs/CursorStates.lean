import Mathlib.Data.List.Forall2
import StoredSql.Proofs.CheckFrame
import StoredSql.Proofs.CursorRuns

/-!
# Cursors as checks know them

A check knows a cursor in a state that covers the one that the cursor has in a run (`Nesting.Allows`).
What is done with a cursor keeps it so; what a check does not allow is not legal in any run that it
allows; and so it is with the states that branches agree on, whichever of them a run takes.
-/

namespace StoredSql

/-! ## States -/

/-- Whether a state that is known leaves it open that the state is another one. -/
def CursorState.Covers (s t : CursorState) : Prop := s = .indeterminate ∨ s = t

namespace CursorState

theorem Covers.refl (s : CursorState) : s.Covers s := .inr rfl

theorem Covers.trans {s t u : CursorState} (h : s.Covers t) (h' : t.Covers u) : s.Covers u := by
  rcases h with rfl | rfl
  · exact .inl rfl
  · exact h'

/-- What is done with a cursor does to its known state what it does to the one in a run. -/
theorem Covers.after {s s' : CursorState} {r r' : LiveState} {verb : CursorVerb}
    (h : s.Covers r.known) (hs : s.after? verb = some s') (hr : r.after? verb = some r') :
    s'.Covers r'.known := by
  rcases h with rfl | rfl
  · cases verb <;> cases r <;> cases hs <;> cases hr <;> simp [Covers, LiveState.known]
  · cases verb <;> cases r <;> cases hs <;> cases hr <;> exact .refl _

/-- What is not allowed in a known state is not legal in a run. -/
theorem Covers.refused {s : CursorState} {r : LiveState} {verb : CursorVerb}
    (h : s.Covers r.known) (hs : s.after? verb = none) : r.after? verb = none := by
  rcases h with rfl | rfl
  · cases verb <;> cases hs
  · cases verb <;> cases r <;> first | rfl | cases hs

/-- What all agree on covers each of them. -/
theorem agreed_covers {ss : List CursorState} {s : CursorState} (h : s ∈ ss) :
    (agreed ss).Covers s := by
  cases ss with
  | nil => cases h
  | cons t ts =>
    rw [agreed]
    by_cases hall : (ts.all (· == t)) = true
    · rw [if_pos hall]
      rcases List.mem_cons.1 h with rfl | hs
      · exact .refl _
      · exact .inr (beq_iff_eq.1 (List.all_eq_true.1 hall s hs)).symm
    · rw [if_neg hall]
      exact .inl rfl

end CursorState

theorem Nesting.agreedStates_covers {outcomes : List (List CursorState)} {states : List CursorState}
    (h : states ∈ outcomes) :
    List.Forall₂ CursorState.Covers (agreedStates states.length outcomes) states := by
  refine List.forall₂_iff_get.2 ⟨by simp [agreedStates], fun i _ hi => ?_⟩
  have hmem : states.getD i .indeterminate ∈ outcomes.map fun states =>
      states.getD i .indeterminate := List.mem_map_of_mem h
  have hcovers := CursorState.agreed_covers hmem
  have hget : states.getD i .indeterminate = states[i] := by simp [hi]
  rw [hget] at hcovers
  simpa [agreedStates] using hcovers

/-! ## Cursors -/

/-- Whether a cursor in a run is as a check knows it. -/
structure Cursor.Allows (c : Cursor) (x : LiveCursor) : Prop where
  name : c.name = x.name
  state : c.state.Covers x.state.known

/-- Whether the cursors of a scope are in a run as a check knows them. -/
def Scope.Allows (s : Scope) (xs : List LiveCursor) : Prop := List.Forall₂ Cursor.Allows s.cursors xs

/-- Whether the cursors of all scopes are in a run as a check knows them. -/
def Nesting.Allows (n : Nesting) (e : Live) : Prop := List.Forall₂ Scope.Allows n.scopes e.scopes

section Cursors

variable {cs : List Cursor} {xs : List LiveCursor} {c : Cursor} {x : LiveCursor} {name : String}

theorem find?_allows (h : List.Forall₂ Cursor.Allows cs xs) (name : String) :
    Option.Rel Cursor.Allows (cs.find? fun c => Text.sameName c.name name)
      (xs.find? fun x => Text.sameName x.name name) := by
  induction h with
  | nil => exact .none
  | @cons c x cs xs hcx _ ih =>
    rw [List.find?_cons, List.find?_cons, hcx.name]
    cases Text.sameName x.name name with
    | true => exact .some hcx
    | false => exact ih

theorem any_allows (h : List.Forall₂ Cursor.Allows cs xs) (name : String) :
    (cs.any fun c => Text.sameName c.name name) = xs.any fun x => Text.sameName x.name name := by
  induction h with
  | nil => rfl
  | cons hcx _ ih => rw [List.any_cons, List.any_cons, hcx.name, ih]

theorem replaceCursor_allows (h : List.Forall₂ Cursor.Allows cs xs) (hcx : c.Allows x) :
    List.Forall₂ Cursor.Allows (Nesting.replaceCursor name c cs) (Live.replace name x xs) := by
  induction h with
  | nil => exact .nil
  | @cons d y ds ys hdy hrest ih =>
    rw [Nesting.replaceCursor, Live.replace, hdy.name]
    by_cases hy : Text.sameName y.name name = true
    · rw [if_pos hy, if_pos hy]
      exact .cons hcx hrest
    · rw [if_neg hy, if_neg hy]
      exact .cons hdy ih

theorem setStates_allows {states later : List CursorState} (h : List.Forall₂ Cursor.Allows cs xs)
    (hstates : List.Forall₂ CursorState.Covers states (cs.map (·.state) ++ later)) :
    List.Forall₂ Cursor.Allows (Scope.setStates cs states) xs := by
  induction h generalizing states with
  | nil =>
    rw [Scope.setStates]
    · exact .nil
    · simp
  | @cons c x cs xs hcx _ ih =>
    cases hstates with
    | cons hstate hstates =>
      rw [Scope.setStates]
      exact .cons ⟨hcx.name, hstate.trans hcx.state⟩ (ih hstates)

end Cursors

/-! ## Scopes -/

section Scopes

variable {ss : List Scope} {xss : List (List LiveCursor)} {c : Cursor} {x : LiveCursor}

theorem flatten_allows (h : List.Forall₂ Scope.Allows ss xss) :
    List.Forall₂ Cursor.Allows (ss.flatMap (·.cursors)) xss.flatten := by
  induction h with
  | nil => exact .nil
  | cons hs _ ih => exact List.rel_append hs ih

theorem replaceInScopes_allows (name : String) (h : List.Forall₂ Scope.Allows ss xss)
    (hcx : c.Allows x) :
    List.Forall₂ Scope.Allows (Nesting.replaceInScopes name c ss) (Live.replaceIn name x xss) := by
  induction h with
  | nil => exact .nil
  | @cons s ys ss yss hs hrest ih =>
    rw [Nesting.replaceInScopes, Live.replaceIn, any_allows hs]
    by_cases hany : (ys.any fun y => Text.sameName y.name name) = true
    · rw [if_pos hany, if_pos hany]
      exact .cons (replaceCursor_allows hs hcx) hrest
    · rw [if_neg hany, if_neg hany]
      exact .cons hs ih

theorem setStatesIn_allows {states : List CursorState} (h : List.Forall₂ Scope.Allows ss xss)
    (hstates : List.Forall₂ CursorState.Covers states (ss.flatMap (·.states))) :
    List.Forall₂ Scope.Allows (Nesting.setStates ss states) xss := by
  induction h generalizing states with
  | nil => exact .nil
  | @cons s xs ss xss hs _ ih =>
    have hcount : s.states.length = s.cursors.length := by simp [Scope.states]
    rw [List.flatMap_cons] at hstates
    rw [Nesting.setStates, ← hcount]
    exact .cons (setStates_allows hs hstates) (ih (List.forall₂_drop_append _ _ _ hstates))

end Scopes

/-! ## Nested scopes -/

namespace Live

theorem use_eq_some {e u : Live} {verb : CursorVerb} {name : String} :
    e.use verb name = some u ↔ ∃ x state, e.cursor? name = some x ∧
      x.state.after? verb = some state ∧
      e.ofScopes (replaceIn name { x with state } e.scopes) = u := by
  unfold use
  simp only [Option.bind_eq_bind, Option.bind_eq_some_iff, Option.pure_def, Option.some.injEq]
  constructor
  · rintro ⟨x, hx, state, hstate, hu⟩
    exact ⟨x, state, hx, hstate, hu⟩
  · rintro ⟨x, state, hx, hstate, hu⟩
    exact ⟨x, hx, state, hstate, hu⟩

theorem scopes_use (e : Live) (name : String) (x : LiveCursor) :
    (e.ofScopes (replaceIn name x e.scopes)).scopes = replaceIn name x e.scopes := by
  unfold scopes
  rw [replaceIn]
  split <;> rfl

end Live

namespace Nesting

variable {n m : Nesting} {e u : Live} {verb : CursorVerb} {name : String}

/-- Only the cursors of the scopes count. -/
theorem Allows.congr (h : n.Allows e)
    (hcursors : m.scopes.map (·.cursors) = n.scopes.map (·.cursors)) : m.Allows e := by
  have hn : List.Forall₂ (List.Forall₂ Cursor.Allows) (n.scopes.map (·.cursors)) e.scopes :=
    List.forall₂_map_left_iff.2 h
  rw [← hcursors] at hn
  unfold Allows Scope.Allows
  exact List.forall₂_map_left_iff.1 hn

theorem Allows.enter {s : Scope} (h : n.Allows e) (hs : s.cursors = []) :
    (n.within s).Allows e.enter := by
  have hinner : s.Allows [] := by
    unfold Scope.Allows
    rw [hs]
    exact .nil
  exact .cons hinner h

theorem Allows.leave (h : n.Allows e) : n.leave.Allows e.leave := by
  obtain ⟨s, ss⟩ := n
  obtain ⟨xs, xss⟩ := e
  obtain ⟨hs, hss⟩ := List.forall₂_cons.1 h
  cases hss with
  | nil => exact .cons hs .nil
  | cons hs' hss => exact .cons hs' hss

theorem Allows.declare (h : n.Allows e) (houter : m.outer = n.outer)
    (hinner : m.inner.cursors = n.inner.cursors ++ [⟨name, .declared⟩]) :
    m.Allows (e.declare name) := by
  obtain ⟨hs, hss⟩ := List.forall₂_cons.1 h
  refine List.forall₂_cons.2 ⟨?_, ?_⟩
  · unfold Scope.Allows
    rw [hinner]
    exact List.rel_append hs (.cons ⟨rfl, .refl _⟩ .nil)
  · rw [houter]
    exact hss

/-- A name finds a cursor in the run where it finds one in the check, and that is as the check knows
it. -/
theorem Allows.cursor_cases (h : n.Allows e) (name : String) :
    (∃ c x, n.cursor name = .ok c ∧ e.cursor? name = some x ∧ c.Allows x) ∨
      (∃ err, n.cursor name = .error err) ∧ e.cursor? name = none := by
  have hrel := find?_allows (flatten_allows h) name
  unfold cursor Live.cursor?
  revert hrel
  generalize (n.scopes.flatMap (·.cursors)).find? _ = found
  generalize e.scopes.flatten.find? _ = found'
  rintro (hcx | _)
  · exact .inl ⟨_, _, rfl, rfl, hcx⟩
  · exact .inr ⟨⟨_, rfl⟩, rfl⟩

theorem after_ok {c d : Cursor} (h : c.after verb = .ok d) :
    ∃ state, c.state.after? verb = some state ∧ d = { c with state } := by
  unfold Cursor.after at h
  split at h
  · rename_i state hstate
    cases h
    exact ⟨state, hstate, rfl⟩
  · cases h

theorem after_of_some {c : Cursor} {state : CursorState} (h : c.state.after? verb = some state) :
    c.after verb = .ok { c with state } := by
  unfold Cursor.after
  rw [h]

/-- **What is done with a cursor** leaves it in the run as the check knows it. -/
theorem Allows.use (h : n.Allows e) (hm : n.useCursor verb name = .ok m)
    (hu : e.use verb name = some u) : m.Allows u := by
  obtain ⟨c, d, hc, hd, rfl⟩ := useCursor_eq_ok.1 hm
  obtain ⟨state, hstate, rfl⟩ := after_ok hd
  obtain ⟨x, live, hx, hlive, rfl⟩ := Live.use_eq_some.1 hu
  rcases h.cursor_cases name with ⟨c', x', hc', hx', hcx⟩ | ⟨_, hnone⟩
  · obtain rfl := Except.ok.inj (hc.symm.trans hc')
    obtain rfl := Option.some.inj (hx.symm.trans hx')
    have hused : Cursor.Allows { c with state } { x with state := live } :=
      ⟨hcx.name, hcx.state.after hstate hlive⟩
    have hreplaced := replaceInScopes_allows name h hused
    unfold Allows
    rw [scopes_useCursor, Live.scopes_use]
    exact hreplaced
  · rw [hx] at hnone
    cases hnone

/-- **What a check refuses** to be done with a cursor is not legal in the run. -/
theorem Allows.refused {err : Error} (h : n.Allows e) (hn : n.useCursor verb name = .error err) :
    e.use verb name = none := by
  cases hu : e.use verb name with
  | none => rfl
  | some u =>
    obtain ⟨x, live, hx, hlive, _⟩ := Live.use_eq_some.1 hu
    rcases h.cursor_cases name with ⟨c, x', hc, hx', hcx⟩ | ⟨_, hnone⟩
    · obtain rfl := Option.some.inj (hx.symm.trans hx')
      cases hstate : c.state.after? verb with
      | none =>
        rw [hcx.state.refused hstate] at hlive
        cases hlive
      | some state =>
        have hok := useCursor_eq_ok.2 ⟨c, { c with state }, hc, after_of_some hstate, rfl⟩
        rw [hn] at hok
        cases hok
    · rw [hx] at hnone
      cases hnone

/-- States that cover those that are known may be set. -/
theorem Allows.withStates {states : List CursorState} (h : n.Allows e)
    (hstates : List.Forall₂ CursorState.Covers states n.states) : (n.withStates states).Allows e := by
  unfold Allows
  rw [scopes_withStates]
  exact setStatesIn_allows h hstates

end Nesting
end StoredSql
