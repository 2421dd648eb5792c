import Mathlib.Data.List.Forall2
import StoredSql.Proofs.CheckFrame

/-!
# Checking again

A statement that a check has given back needs no more to be done to it: the same check gives it back
unchanged. It does so also where the scopes are not yet as far with their declarations
(`Checker.Earlier`), and it never asks for a label.
-/

namespace StoredSql

open Check Stepwise

/-! ## Scopes at an earlier phase -/

/-- A scope without the phase of its declarations. -/
def Scope.phaseless (s : Scope) : Scope := { s with phase := .names }

/-- The same scope, perhaps not yet as far with its declarations. -/
structure Scope.Earlier (r s : Scope) : Prop where
  same : r.phaseless = s.phaseless
  phase : r.phase.rank ≤ s.phase.rank

namespace Scope

theorem Earlier.refl (s : Scope) : s.Earlier s := ⟨rfl, Nat.le_refl _⟩

theorem Earlier.trans {r s t : Scope} (h : r.Earlier s) (h' : s.Earlier t) : r.Earlier t :=
  ⟨h.same.trans h'.same, Nat.le_trans h.phase h'.phase⟩

/-- A change of what a scope has besides its phase. -/
theorem Earlier.map {f : Scope → Scope} (hf : ∀ s, (f s).phaseless = f s.phaseless)
    (hphase : ∀ s, (f s).phase = s.phase) {r s : Scope} (h : r.Earlier s) :
    (f r).Earlier (f s) := by
  refine ⟨?_, ?_⟩
  · rw [hf, hf, h.same]
  · rw [hphase, hphase]
    exact h.phase

theorem Earlier.kind {r s : Scope} (h : r.Earlier s) : r.kind = s.kind :=
  congrArg (·.kind) h.same

theorem Earlier.rows {r s : Scope} (h : r.Earlier s) : r.rows = s.rows :=
  congrArg (·.rows) h.same

theorem Earlier.cursors {r s : Scope} (h : r.Earlier s) : r.cursors = s.cursors :=
  congrArg (·.cursors) h.same

/-- A scope becomes what it is at a later phase. -/
theorem Earlier.becomes {r s : Scope} (h : r.Earlier s) : r.Becomes s := by
  have hs : s = { r with phase := s.phase } :=
    congrArg (fun u => { u with phase := s.phase }) h.same.symm
  rw [hs]
  exact Becomes.of_phase r h.phase

theorem Earlier.withStates {r s : Scope} (h : r.Earlier s) (states : List CursorState) :
    (r.withStates states).Earlier (s.withStates states) :=
  h.map (f := (·.withStates states)) (fun _ => rfl) fun _ => rfl

theorem Earlier.noteStatement {r s : Scope} (h : r.Earlier s) :
    r.noteStatement.Earlier s.noteStatement := by
  unfold Scope.noteStatement
  by_cases hk : s.kind = .block
  · rw [if_pos hk, if_pos (h.kind.trans hk)]
    exact ⟨h.same, Nat.le_refl _⟩
  · rw [if_neg hk, if_neg (h.kind.symm ▸ hk)]
    exact h

/-- A phase that may still come at a place may also come earlier. -/
theorem Earlier.enterPhase {r s t : Scope} {phase : DeclarationPhase} {what : String}
    (h : r.Earlier s) (hs : s.enterPhase phase what = .ok t) :
    ∃ u, r.enterPhase phase what = .ok u ∧ u.Earlier t := by
  unfold Scope.enterPhase at hs
  split at hs
  · cases hs
  · rename_i hk
    split at hs
    · cases hs
    · rename_i hbody
      split at hs
      · cases hs
      · rename_i hrank
        cases hs
        have hphase := h.phase
        have hbody' : r.phase ≠ .body := by
          intro he
          rw [he] at hphase
          revert hbody hphase
          cases s.phase <;> decide
        refine ⟨{ r with phase := phase }, ?_, h.same, Nat.le_refl _⟩
        unfold Scope.enterPhase
        rw [h.kind, if_neg hk, if_neg hbody', if_neg (by omega)]

/-- A declaration whose name is not taken can be made at an earlier phase, too. -/
theorem Earlier.declareIn {phase : DeclarationPhase} {what : String} {twice : Error}
    {taken : Scope → Bool} {add : Scope → Scope} (htaken : ∀ s, taken s.phaseless = taken s)
    (hadd : ∀ s, (add s).phaseless = add s.phaseless) (hphase : ∀ s, (add s).phase = s.phase)
    {r s t : Scope} (h : r.Earlier s) (hs : s.declareIn phase what taken twice add = (.ok (), t)) :
    ∃ u, r.declareIn phase what taken twice add = (.ok (), u) ∧ u.Earlier t := by
  obtain ⟨s', he, hfree, rfl⟩ := Scope.declareIn_eq_ok.1 hs
  obtain ⟨r', hr, hrs⟩ := h.enterPhase he
  have hsame : taken r' = taken s' := by rw [← htaken, hrs.same, htaken]
  exact ⟨_, Scope.declareIn_eq_ok.2 ⟨r', hr, hsame.trans hfree, rfl⟩, hrs.map hadd hphase⟩

theorem Earlier.declareHandler {r s t : Scope} (h : r.Earlier s)
    (hs : s.declareHandler = (.ok (), t)) : ∃ u, r.declareHandler = (.ok (), u) ∧ u.Earlier t := by
  obtain ⟨r', hr, hrs⟩ := h.enterPhase (Scope.declareHandler_eq_ok.1 hs)
  exact ⟨r', Scope.declareHandler_eq_ok.2 hr, hrs⟩

end Scope

namespace Nesting

/-- A nesting without the phases of declarations. -/
def phaseless (n : Nesting) : Nesting := ⟨n.inner.phaseless, n.outer.map Scope.phaseless⟩

variable (n : Nesting)

theorem scopes_phaseless : n.phaseless.scopes = n.scopes.map Scope.phaseless := rfl

theorem openLabels_phaseless : n.phaseless.openLabels = n.openLabels := by
  unfold openLabels
  rw [scopes_phaseless, List.filterMap_map]
  rfl

theorem child_phaseless (kind : ScopeKind) (label : Option String) :
    n.phaseless.child kind label = n.child kind label := by
  unfold child
  rw [openLabels_phaseless]
  rfl

theorem states_phaseless : n.phaseless.states = n.states := by
  unfold states
  rw [scopes_phaseless, List.flatMap_map]
  rfl

theorem any_phaseless (p : Scope → Bool) (hp : ∀ s : Scope, p s.phaseless = p s) :
    n.phaseless.scopes.any p = n.scopes.any p := by
  rw [scopes_phaseless, List.any_map]
  exact congrArg (n.scopes.any ·) (funext hp)

theorem resolveVariable_phaseless (name : String) :
    n.phaseless.resolveVariable name = n.resolveVariable name := by
  have h : n.phaseless.resolveVariable = n.resolveVariable :=
    resolveVariable_congr rfl fun _ => n.any_phaseless _ fun _ => rfl
  rw [h]

theorem resolveTarget_phaseless (name : String) :
    n.phaseless.resolveTarget name = n.resolveTarget name := by
  unfold resolveTarget
  rw [resolveVariable_phaseless]
  rfl

theorem resolveCondition_phaseless (name : String) :
    n.phaseless.resolveCondition name = n.resolveCondition name := by
  unfold resolveCondition
  rw [any_phaseless n (fun s => Scope.hasName s.conditions name) fun _ => rfl]

theorem visibleVariables_phaseless : n.phaseless.visibleVariables = n.visibleVariables := by
  unfold visibleVariables
  rw [scopes_phaseless, List.flatMap_map]
  rfl

theorem view_phaseless : n.phaseless.view = n.view := by
  unfold view
  rw [openLabels_phaseless, visibleVariables_phaseless]

theorem cursor_phaseless (name : String) : n.phaseless.cursor name = n.cursor name := by
  unfold cursor
  rw [scopes_phaseless, List.flatMap_map]
  rfl

theorem findLabel_phaseless (label : String) (ss : List Scope) :
    findLabel label (ss.map Scope.phaseless) = (findLabel label ss).map Scope.phaseless := by
  induction ss with
  | nil => rfl
  | cons s ss ih =>
    rw [List.map_cons, findLabel, findLabel, ih]
    show (if s.label.any (Text.sameName label) = true then _ else if s.kind = .handler then _ else _)
      = _
    by_cases hl : s.label.any (Text.sameName label) = true
    · rw [if_pos hl, if_pos hl]
      rfl
    · rw [if_neg hl, if_neg hl]
      by_cases hk : s.kind = .handler
      · rw [if_pos hk, if_pos hk]
        rfl
      · rw [if_neg hk, if_neg hk]

end Nesting

/-! ## Checkers at an earlier phase -/

theorem forall₂_trans {α : Type} {R : α → α → Prop} {as bs cs : List α} (h : List.Forall₂ R as bs)
    (h' : List.Forall₂ R bs cs) (hR : ∀ {a b c}, R a b → R b c → R a c) :
    List.Forall₂ R as cs := by
  induction h generalizing cs with
  | nil =>
    cases h'
    exact .nil
  | cons hab _ ih =>
    cases h' with
    | cons hbc hbcs => exact .cons (hR hab hbc) (ih hbcs)

namespace Checker

/-- The same scopes, perhaps not yet as far with their declarations; labels may come from
elsewhere. -/
def Earlier (d c : Checker) : Prop := List.Forall₂ Scope.Earlier d.nesting.scopes c.nesting.scopes

variable {c d : Checker}

theorem Earlier.refl (c : Checker) : c.Earlier c :=
  List.forall₂_same.2 fun s _ => Scope.Earlier.refl s

theorem Earlier.trans {b : Checker} (h : b.Earlier c) (h' : c.Earlier d) : b.Earlier d :=
  forall₂_trans h h' Scope.Earlier.trans

theorem Earlier.inner (h : d.Earlier c) : d.nesting.inner.Earlier c.nesting.inner :=
  (List.forall₂_cons.1 h).1

theorem Earlier.outer (h : d.Earlier c) :
    List.Forall₂ Scope.Earlier d.nesting.outer c.nesting.outer :=
  (List.forall₂_cons.1 h).2

theorem Earlier.phaseless (h : d.Earlier c) : d.nesting.phaseless = c.nesting.phaseless := by
  have hmap : ∀ {rs ss : List Scope}, List.Forall₂ Scope.Earlier rs ss →
      rs.map Scope.phaseless = ss.map Scope.phaseless := by
    intro rs ss hrs
    induction hrs with
    | nil => rfl
    | cons hr _ ih => rw [List.map_cons, List.map_cons, hr.same, ih]
  unfold Nesting.phaseless
  rw [h.inner.same, hmap h.outer]

/-- A question that does not look at phases has one answer. -/
theorem Earlier.congr {α : Type} (h : d.Earlier c) (f : Nesting → α)
    (hf : ∀ n : Nesting, f n.phaseless = f n) : f d.nesting = f c.nesting := by
  rw [← hf d.nesting, ← hf c.nesting, h.phaseless]

theorem Earlier.of_nesting {d' : Checker} (h : d.Earlier c) (hd : d'.nesting = d.nesting) :
    d'.Earlier c := by
  unfold Earlier
  rw [hd]
  exact h

theorem Earlier.entered (h : d.Earlier c) (s : Scope) : (d.entered s).Earlier (c.entered s) :=
  .cons (Scope.Earlier.refl s) h

theorem Earlier.left (h : d.Earlier c) : d.left.Earlier c.left := by
  obtain ⟨⟨r, rs⟩, _⟩ := d
  obtain ⟨⟨s, ss⟩, _⟩ := c
  obtain ⟨hr, hrs⟩ := List.forall₂_cons.1 h
  cases hrs with
  | nil => exact .cons hr .nil
  | cons hr' hrs' => exact .cons hr' hrs'

theorem Earlier.noted (h : d.Earlier c) : d.noted.Earlier c.noted :=
  .cons h.inner.noteStatement h.outer

theorem Earlier.withStates (h : d.Earlier c) (states : List CursorState) :
    (d.withStates states).Earlier (c.withStates states) := by
  have hset : ∀ {rs ss : List Scope}, List.Forall₂ Scope.Earlier rs ss → ∀ states,
      List.Forall₂ Scope.Earlier (Nesting.setStates rs states) (Nesting.setStates ss states) := by
    intro rs ss hrs
    induction hrs with
    | nil => exact fun _ => .nil
    | cons hr _ ih =>
      intro states
      rw [Nesting.setStates, Nesting.setStates, hr.cursors]
      exact .cons (hr.withStates states) (ih _)
  show List.Forall₂ Scope.Earlier (d.nesting.withStates states).scopes
    (c.nesting.withStates states).scopes
  rw [Nesting.scopes_withStates, Nesting.scopes_withStates]
  exact hset h states

theorem Earlier.states (h : d.Earlier c) : d.nesting.states = c.nesting.states :=
  h.congr (·.states) Nesting.states_phaseless

theorem Earlier.resolveAll (h : d.Earlier c) (names : List String) :
    d.nesting.resolveAll names = c.nesting.resolveAll names := by
  refine h.congr (·.resolveAll names) fun n => ?_
  unfold Nesting.resolveAll
  rw [funext n.resolveVariable_phaseless]

theorem Earlier.child (h : d.Earlier c) (kind : ScopeKind) (label : Option String) :
    d.nesting.child kind label = c.nesting.child kind label :=
  h.congr (·.child kind label) fun n => n.child_phaseless kind label

theorem Earlier.branched (h : d.Earlier c) (before : List CursorState) :
    (d.branched before).Earlier (c.branched before) := by
  unfold Checker.branched
  rw [(h.withStates before).inner.rows]
  exact (h.withStates before).entered _

theorem Earlier.withUnknownStates (h : d.Earlier c) :
    d.withUnknownStates.Earlier c.withUnknownStates := by
  show (d.withStates _).Earlier (c.withStates _)
  rw [h.states]
  exact h.withStates _

theorem Earlier.handling (h : d.Earlier c) : d.handling.Earlier c.handling := by
  unfold Checker.handling
  rw [h.inner.rows]
  exact (h.entered _).withUnknownStates

/-- Of the two checkers only the later one takes a label. -/
theorem Earlier.labelled (h : d.Earlier c) (label : Option String) :
    d.Earlier (c.labelled label).2 := by
  unfold Earlier
  rw [labelled_nesting]
  exact h

end Checker

/-! ## Steps that can be repeated -/

namespace Check

variable {α β : Type} {c c' d : Checker}

/-- Whether the check succeeds from a checker, with an answer, and leaves the scopes of another one,
perhaps at an earlier phase. It takes no label. -/
def GivesAgain (act : Check α) (d : Checker) (a : α) (c' : Checker) : Prop :=
  ∃ d', act d = (.ok a, d') ∧ d'.Earlier c' ∧ d'.labels = d.labels

/-- Whether a check that succeeds does so again at an earlier phase, with its answer. -/
def Repeatable (act : Check α) : Prop :=
  ∀ ⦃c d : Checker⦄ ⦃a : α⦄ ⦃c' : Checker⦄, d.Earlier c → act c = (.ok a, c') →
    GivesAgain act d a c'

theorem Repeatable.pure (a : α) : Repeatable (pure a : Check α) := by
  intro c d a' c' hd h
  cases h
  exact ⟨d, rfl, hd, rfl⟩

theorem GivesAgain.bind {x : Check α} {f : α → Check β} {a : α} {b : β} (hx : GivesAgain x d a c)
    (hf : ∀ d', d'.Earlier c → GivesAgain (f a) d' b c') : GivesAgain (x >>= f) d b c' := by
  obtain ⟨d₁, hx, hd₁, hl₁⟩ := hx
  obtain ⟨d₂, hf, hd₂, hl₂⟩ := hf d₁ hd₁
  exact ⟨d₂, (bind_of_ok hx).trans hf, hd₂, hl₂.trans hl₁⟩

theorem Repeatable.bind {x : Check α} {f : α → Check β} (hx : Repeatable x)
    (hf : ∀ a, Repeatable (f a)) : Repeatable (x >>= f) := by
  intro c d b c' hd h
  obtain ⟨a, t, ht, hb⟩ := bind_ok.1 h
  exact (hx hd ht).bind fun d' hd' => hf a hd' hb

theorem ask_repeatable {f : Nesting → Except Error α} (hf : ∀ n : Nesting, f n.phaseless = f n) :
    Repeatable (ask f) := by
  intro c d a c' hd h
  obtain ⟨ha, rfl⟩ := ask_eq.1 h
  exact ⟨d, ask_eq.2 ⟨(hd.congr f hf).trans ha, rfl⟩, hd, rfl⟩

theorem resolveAll_repeatable (names : List String) : Repeatable (resolveAll names) :=
  ask_repeatable fun n => by rw [funext n.resolveVariable_phaseless]

theorem resolveTargets_repeatable (targets : List String) :
    Repeatable (ask fun n => targets.forM n.resolveTarget) :=
  ask_repeatable fun n => by rw [funext n.resolveTarget_phaseless]

theorem resolveConditions_repeatable (conditions : List ConditionValue) :
    Repeatable (resolveConditions conditions) :=
  ask_repeatable fun n => by rw [funext n.resolveCondition_phaseless]

theorem noteStatement_repeatable : Repeatable noteStatement := by
  intro c d a c' hd h
  cases h
  exact ⟨d.noted, rfl, hd.noted, rfl⟩

theorem declare_repeatable {f : Scope → Except Error Unit × Scope}
    (hf : ∀ {r s t : Scope}, r.Earlier s → f s = (.ok (), t) →
      ∃ u, f r = (.ok (), u) ∧ u.Earlier t) : Repeatable (declare f) := by
  intro c d a c' hd h
  rcases hs : f c.nesting.inner with ⟨e | u, t⟩
  · simp only [declare, hs] at h
    cases h
  · simp only [declare, hs] at h
    cases h
    obtain ⟨r, hr, hrt⟩ := hf hd.inner hs
    refine ⟨{ d with nesting := { d.nesting with inner := r } }, ?_, .cons hrt hd.outer, rfl⟩
    simp only [declare, hr]

theorem declareVariable_repeatable (name : String) :
    Repeatable (declare (·.declareVariable name)) := by
  apply declare_repeatable
  apply Scope.Earlier.declareIn
  all_goals exact fun _ => rfl

theorem declareCondition_repeatable (name : String) :
    Repeatable (declare (·.declareCondition name)) := by
  apply declare_repeatable
  apply Scope.Earlier.declareIn
  all_goals exact fun _ => rfl

theorem declareCursor_repeatable (name : String) :
    Repeatable (declare (·.declareCursor name)) := by
  apply declare_repeatable
  apply Scope.Earlier.declareIn
  all_goals exact fun _ => rfl

theorem declareHandler_repeatable : Repeatable (declare (·.declareHandler)) :=
  declare_repeatable fun h hs => h.declareHandler hs

theorem forM_repeatable {f : String → Check Unit} (hf : ∀ name, Repeatable (f name))
    (names : List String) : Repeatable (names.forM f) := by
  induction names with
  | nil => exact .pure _
  | cons name names ih => exact .bind (hf name) fun _ => ih

theorem replaceInScopes_earlier (name : String) (c : Cursor) {rs ss : List Scope}
    (h : List.Forall₂ Scope.Earlier rs ss) : List.Forall₂ Scope.Earlier
      (Nesting.replaceInScopes name c rs) (Nesting.replaceInScopes name c ss) := by
  induction h with
  | nil => exact .nil
  | cons hr hrs ih =>
    rename_i r s rs ss
    rw [Nesting.replaceInScopes, Nesting.replaceInScopes, hr.cursors]
    by_cases hany : (s.cursors.any fun d => Text.sameName d.name name) = true
    · rw [if_pos hany, if_pos hany]
      refine .cons ⟨?_, hr.phase⟩ hrs
      exact congrArg (fun t => { t with cursors := Nesting.replaceCursor name c s.cursors }) hr.same
    · rw [if_neg hany, if_neg hany]
      exact .cons hr ih

theorem useCursor_repeatable (verb : CursorVerb) (name : String) :
    Repeatable (change (·.useCursor verb name)) := by
  intro c d a c' hd h
  rcases hn : c.nesting.useCursor verb name with e | n
  · rw [change_of_error hn] at h
    cases h
  · rw [change_of_ok hn] at h
    cases h
    obtain ⟨x, y, hx, hy, rfl⟩ := Nesting.useCursor_eq_ok.1 hn
    have hx' : d.nesting.cursor name = .ok x := (hd.congr (·.cursor name) fun n =>
      n.cursor_phaseless name).trans hx
    have hm := Nesting.useCursor_eq_ok.2 ⟨x, y, hx', hy, rfl⟩
    refine ⟨_, change_of_ok hm, ?_, rfl⟩
    show List.Forall₂ Scope.Earlier (Nesting.ofScopes _ _).scopes (Nesting.ofScopes _ _).scopes
    rw [Nesting.scopes_useCursor, Nesting.scopes_useCursor]
    exact replaceInScopes_earlier name y hd

theorem fetch_repeatable (name : String) (targets : List String) :
    Repeatable (Check.fetch name targets) :=
  .bind (ask_repeatable fun n => n.cursor_phaseless name) fun _ =>
    .bind (resolveTargets_repeatable targets) fun _ => useCursor_repeatable .fetch name

theorem assignments_repeatable (pairs : List (String × Expr)) : Repeatable (assignments pairs) := by
  induction pairs with
  | nil => exact .pure _
  | cons pair pairs ih =>
    exact .bind (resolveAll_repeatable _) fun _ =>
      .bind (ask_repeatable fun n => n.resolveTarget_phaseless pair.1) fun _ => ih

theorem rawText_repeatable (sql : String) : Repeatable (rawText sql) := by
  unfold rawText
  split
  · intro c d a c' hd h
    cases h
  · exact .pure _

theorem iterateTarget_repeatable (label : String) : Repeatable (iterateTarget label) := by
  refine ask_repeatable fun n => ?_
  rw [n.scopes_phaseless, Nesting.findLabel_phaseless]
  cases Nesting.findLabel label n.scopes <;> rfl

theorem leaveTarget_repeatable (label : String) : Repeatable (leaveTarget label) := by
  refine ask_repeatable fun n => ?_
  rw [n.scopes_phaseless, Nesting.findLabel_phaseless]
  cases Nesting.findLabel label n.scopes <;> rfl

/-- Whether a check has no other answer. -/
def Returns (a : α) (act : Check α) : Prop := ∀ ⦃c : Checker⦄ ⦃a' : α⦄ ⦃c' : Checker⦄,
  act c = (.ok a', c') → a' = a

theorem Returns.pure (a : α) : Returns a (pure a : Check α) := by
  intro c a' c' h
  cases h
  rfl

theorem Returns.bind {x : Check β} {f : β → Check α} {a : α} (hf : ∀ b, Returns a (f b)) :
    Returns a (x >>= f) := by
  intro c a' c' h
  obtain ⟨b, t, _, hb⟩ := bind_ok.1 h
  exact hf b hb

/-- A statement that its check gives back as it is. -/
theorem givesAgain_of_returns {s s' : Statement} (hs : Returns s s.check)
    (hcheck : Repeatable s.check) (h : s.check c = (.ok s', c')) (hd : d.Earlier c) :
    GivesAgain s'.check d s' c' := by
  obtain rfl := hs h
  exact hcheck hd h

end Check

open Statement

mutual

/-- **A checked statement needs no more.** What a check has given back, it gives back unchanged,
also where the scopes are not yet as far with their declarations, and it takes no label. -/
theorem Statement.check_again : ∀ (s : Statement) {s' : Statement} {c c' d : Checker},
    s.check c = (.ok s', c') → d.Earlier c → GivesAgain s'.check d s' c'
  | .declareVariables names _ _ =>
    givesAgain_of_returns (.bind fun _ => .bind fun _ => .pure _)
      (.bind (resolveAll_repeatable _) fun _ =>
        .bind (forM_repeatable declareVariable_repeatable names) fun _ => .pure _)
  | .declareCondition name _ =>
    givesAgain_of_returns (.bind fun _ => .pure _)
      (.bind (declareCondition_repeatable name) fun _ => .pure _)
  | .declareCursor name _ =>
    givesAgain_of_returns (.bind fun _ => .bind fun _ => .pure _)
      (.bind (resolveAll_repeatable _) fun _ =>
        .bind (declareCursor_repeatable name) fun _ => .pure _)
  | .declareHandler action conditions body => by
    intro h hd
    obtain ⟨t, u, body', v, ht, hu, hv, rfl, rfl⟩ := check_declareHandler_ok.1 h
    obtain ⟨t₁, ht₁, hte, htl⟩ := declareHandler_repeatable hd ht
    obtain ⟨u₁, hu₁, hue, hul⟩ := resolveConditions_repeatable conditions hte hu
    obtain ⟨v₁, hv₁, hve, hvl⟩ := Statement.check_again body hv hue.handling
    refine ⟨_, check_declareHandler_ok.2 ⟨t₁, u₁, body', v₁, ht₁, hu₁, hv₁, rfl, rfl⟩, ?_, ?_⟩
    · rw [hue.states]
      exact hve.left.withStates _
    · exact hvl.trans (hul.trans htl)
  | .block b => by
    intro h hd
    obtain ⟨b', hb, rfl⟩ := check_block_ok.1 h
    obtain ⟨d', hb', hd', hl⟩ := Block.check_again b hb hd.noted
    exact ⟨d', check_block_ok.2 ⟨b', hb', rfl⟩, hd', hl⟩
  | .loop label body => by
    intro h hd
    obtain ⟨scope, body', t, hscope, hbody, rfl, rfl⟩ := check_loop_ok.1 h
    obtain ⟨t₁, hbody₁, hte, htl⟩ :=
      Statement.checkAll_again body hbody ((hd.noted.labelled label).entered scope)
    refine ⟨t₁.left, check_loop_ok.2 ?_, hte.left, htl⟩
    rw [Checker.labelled_labelled]
    exact ⟨scope, body', t₁, ((hd.noted.labelled label).child ..).trans hscope, hbody₁, rfl, rfl⟩
  | .whileLoop label test body => by
    intro h hd
    obtain ⟨htest, scope, body', t, hscope, hbody, rfl, rfl⟩ := check_whileLoop_ok.1 h
    obtain ⟨t₁, hbody₁, hte, htl⟩ :=
      Statement.checkAll_again body hbody ((hd.noted.labelled label).entered scope)
    refine ⟨t₁.left, check_whileLoop_ok.2 ?_, hte.left, htl⟩
    rw [Checker.labelled_labelled]
    exact ⟨((hd.noted.labelled label).resolveAll _).trans htest, scope, body', t₁,
      ((hd.noted.labelled label).child ..).trans hscope, hbody₁, rfl, rfl⟩
  | .repeatLoop label test body => by
    intro h hd
    obtain ⟨scope, body', t, hscope, hbody, htest, rfl, rfl⟩ := check_repeatLoop_ok.1 h
    obtain ⟨t₁, hbody₁, hte, htl⟩ :=
      Statement.checkAll_again body hbody ((hd.noted.labelled label).entered scope)
    refine ⟨t₁.left, check_repeatLoop_ok.2 ?_, hte.left, htl⟩
    rw [Checker.labelled_labelled]
    exact ⟨scope, body', t₁, ((hd.noted.labelled label).child ..).trans hscope, hbody₁,
      (hte.resolveAll _).trans htest, rfl, rfl⟩
  | .ifElse branches otherwise => by
    intro h hd
    obtain ⟨branches', outcomes, t, otherwise', outcome, u, hbranches, helse, rfl, rfl⟩ :=
      check_ifElse_ok.1 h
    obtain ⟨t₁, hbranches₁, hte, htl⟩ := IfBranch.checkAll_again branches hbranches hd.noted
    obtain ⟨u₁, helse₁, hue, hul⟩ := Statement.checkElse_again otherwise helse hte
    rw [← hd.noted.states] at hbranches₁ helse₁ ⊢
    exact ⟨_, check_ifElse_ok.2 ⟨branches', outcomes, t₁, otherwise', outcome, u₁, hbranches₁,
      helse₁, rfl, rfl⟩, hue.withStates _, hul.trans htl⟩
  | .cases operand whens otherwise => by
    intro h hd
    obtain ⟨hoperand, whens', outcomes, t, otherwise', outcome, u, hwhens, helse, rfl, rfl⟩ :=
      check_cases_ok.1 h
    obtain ⟨t₁, hwhens₁, hte, htl⟩ := CaseWhen.checkAll_again whens hwhens hd.noted
    obtain ⟨u₁, helse₁, hue, hul⟩ := Statement.checkElse_again otherwise helse hte
    rw [← hd.noted.states] at hwhens₁ helse₁ ⊢
    exact ⟨_, check_cases_ok.2 ⟨(hd.noted.resolveAll _).trans hoperand, whens', outcomes, t₁,
      otherwise', outcome, u₁, hwhens₁, helse₁, rfl, rfl⟩, hue.withStates _, hul.trans htl⟩
  | .iterate label =>
    givesAgain_of_returns (.bind fun _ => .bind fun _ => .pure _)
      (.bind noteStatement_repeatable fun _ =>
        .bind (iterateTarget_repeatable label) fun _ => .pure _)
  | .leave label =>
    givesAgain_of_returns (.bind fun _ => .bind fun _ => .pure _)
      (.bind noteStatement_repeatable fun _ =>
        .bind (leaveTarget_repeatable label) fun _ => .pure _)
  | .openCursor name =>
    givesAgain_of_returns (.bind fun _ => .bind fun _ => .pure _)
      (.bind noteStatement_repeatable fun _ =>
        .bind (useCursor_repeatable .open name) fun _ => .pure _)
  | .fetch name targets =>
    givesAgain_of_returns (.bind fun _ => .bind fun _ => .pure _)
      (.bind noteStatement_repeatable fun _ =>
        .bind (fetch_repeatable name targets) fun _ => .pure _)
  | .closeCursor name =>
    givesAgain_of_returns (.bind fun _ => .bind fun _ => .pure _)
      (.bind noteStatement_repeatable fun _ =>
        .bind (useCursor_repeatable .close name) fun _ => .pure _)
  | .select query =>
    givesAgain_of_returns (.bind fun _ => .bind fun _ => .bind fun _ => .pure _)
      (.bind noteStatement_repeatable fun _ => .bind (resolveAll_repeatable _) fun _ =>
        .bind (resolveTargets_repeatable query.into) fun _ => .pure _)
  | .insert _ =>
    givesAgain_of_returns (.bind fun _ => .bind fun _ => .pure _)
      (.bind noteStatement_repeatable fun _ => .bind (resolveAll_repeatable _) fun _ => .pure _)
  | .set pairs =>
    givesAgain_of_returns (.bind fun _ => .bind fun _ => .pure _)
      (.bind noteStatement_repeatable fun _ => .bind (assignments_repeatable pairs) fun _ => .pure _)
  | .raw sql =>
    givesAgain_of_returns (.bind fun _ => .bind fun _ => .pure _)
      (.bind noteStatement_repeatable fun _ => .bind (rawText_repeatable sql) fun _ => .pure _)
  | .empty => givesAgain_of_returns (.pure _) (.pure _)
  | .delimiter _ => fun h _ => by cases h
  | .call _ _ =>
    givesAgain_of_returns (.bind fun _ => .bind fun _ => .pure _)
      (.bind noteStatement_repeatable fun _ => .bind (resolveAll_repeatable _) fun _ => .pure _)
  | .signal condition _ _ =>
    givesAgain_of_returns (.bind fun _ => .bind fun _ => .bind fun _ => .pure _)
      (.bind noteStatement_repeatable fun _ =>
        .bind (resolveConditions_repeatable [condition]) fun _ =>
          .bind (resolveAll_repeatable _) fun _ => .pure _)
  | .foreign _ => fun h _ => by cases h

theorem Statement.checkAll_again : ∀ (ss : List Statement) {ss' : List Statement}
    {c c' d : Checker}, Statement.checkAll ss c = (.ok ss', c') → d.Earlier c →
      GivesAgain (Statement.checkAll ss') d ss' c'
  | [] => by
    intro h hd
    cases h
    exact ⟨_, rfl, hd, rfl⟩
  | s :: ss => by
    intro h hd
    obtain ⟨s', t, rest, hs, hss, rfl⟩ := checkAll_cons_ok.1 h
    obtain ⟨t₁, hs₁, hte, htl⟩ := Statement.check_again s hs hd
    obtain ⟨d', hss₁, hd', hl⟩ := Statement.checkAll_again ss hss hte
    exact ⟨d', checkAll_cons_ok.2 ⟨s', t₁, rest, hs₁, hss₁, rfl⟩, hd', hl.trans htl⟩

theorem Statement.checkElse_again : ∀ (otherwise : Option (List Statement))
    {before : List CursorState} {r : Option (List Statement) × List CursorState}
    {c c' d : Checker}, Statement.checkElse before otherwise c = (.ok r, c') → d.Earlier c →
      GivesAgain (Statement.checkElse before r.1) d r c'
  | none => by
    intro h hd
    cases h
    exact ⟨_, rfl, hd, rfl⟩
  | some body => by
    intro h hd
    obtain ⟨body', t, hbody, rfl, rfl⟩ := checkElse_some_ok.1 h
    obtain ⟨t₁, hbody₁, hte, htl⟩ := Statement.checkAll_again body hbody (hd.branched _)
    exact ⟨t₁.left, checkElse_some_ok.2 ⟨body', t₁, hbody₁, rfl, by rw [hte.left.states]⟩,
      hte.left, htl⟩

theorem Block.check_again : ∀ (b : Block) {b' : Block} {c c' d : Checker},
    b.check c = (.ok b', c') → d.Earlier c → GivesAgain b'.check d b' c'
  | ⟨ss, label, view⟩ => by
    intro h hd
    obtain ⟨scope, ss', t, hscope, hss, rfl, rfl⟩ := Block.check_ok.1 h
    obtain ⟨t₁, hss₁, hte, htl⟩ := Statement.checkAll_again ss hss (hd.entered scope)
    have hview := (hd.entered scope).congr (·.view) Nesting.view_phaseless
    exact ⟨t₁.left, Block.check_ok.2 ⟨scope, ss', t₁, (hd.child .block label).trans hscope, hss₁,
      rfl, by rw [hview]⟩, hte.left, htl⟩

theorem IfBranch.checkAll_again : ∀ (branches : List IfBranch) {before : List CursorState}
    {r : List IfBranch × List (List CursorState)} {c c' d : Checker},
    IfBranch.checkAll before branches c = (.ok r, c') → d.Earlier c →
      GivesAgain (IfBranch.checkAll before r.1) d r c'
  | [] => by
    intro h hd
    cases h
    exact ⟨_, rfl, hd, rfl⟩
  | ⟨test, body⟩ :: rest => by
    intro h hd
    obtain ⟨htest, body', t, rest', outcomes, hbody, hrest, rfl⟩ := IfBranch.checkAll_cons_ok.1 h
    obtain ⟨t₁, hbody₁, hte, htl⟩ := Statement.checkAll_again body hbody (hd.branched _)
    obtain ⟨d', hrest₁, hd', hl⟩ := IfBranch.checkAll_again rest hrest hte.left
    exact ⟨d', IfBranch.checkAll_cons_ok.2 ⟨((hd.withStates _).resolveAll _).trans htest,
      body', t₁, rest', outcomes, hbody₁, hrest₁, by rw [hte.left.states]⟩, hd', hl.trans htl⟩

theorem CaseWhen.checkAll_again : ∀ (whens : List CaseWhen) {before : List CursorState}
    {r : List CaseWhen × List (List CursorState)} {c c' d : Checker},
    CaseWhen.checkAll before whens c = (.ok r, c') → d.Earlier c →
      GivesAgain (CaseWhen.checkAll before r.1) d r c'
  | [] => by
    intro h hd
    cases h
    exact ⟨_, rfl, hd, rfl⟩
  | ⟨test, body⟩ :: rest => by
    intro h hd
    obtain ⟨htest, body', t, rest', outcomes, hbody, hrest, rfl⟩ := CaseWhen.checkAll_cons_ok.1 h
    obtain ⟨t₁, hbody₁, hte, htl⟩ := Statement.checkAll_again body hbody (hd.branched _)
    obtain ⟨d', hrest₁, hd', hl⟩ := CaseWhen.checkAll_again rest hrest hte.left
    exact ⟨d', CaseWhen.checkAll_cons_ok.2 ⟨((hd.withStates _).resolveAll _).trans htest,
      body', t₁, rest', outcomes, hbody₁, hrest₁, by rw [hte.left.states]⟩, hd', hl.trans htl⟩

end

end StoredSql
