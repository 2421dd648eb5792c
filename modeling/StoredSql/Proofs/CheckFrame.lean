import StoredSql.Proofs.CheckParts
import StoredSql.Proofs.Outcome

/-!
# What a check leaves alone

A check of statements, whether it succeeds or fails, moves only the innermost scope on: around it,
nothing but the states of cursors changes (`Checker.Onward`). What is checked within a scope of its
own changes nothing but states at all (`Checker.Still`). Both are shown step by step: they hold of
each step of a check, and of a chain if they hold of its steps (`Check.Keeps`).
-/

namespace StoredSql

open Check Stepwise

/-! ## Scopes that move on -/

/-- A scope without the states of its cursors. -/
def Scope.stateless (s : Scope) : Scope :=
  { s with cursors := s.cursors.map fun c => { c with state := .declared } }

/-- What statements that come to a scope do not change, and the order in which it declares. What is
declared stays so, and only blocks declare. -/
structure Scope.Becomes (s t : Scope) : Prop where
  kind : t.kind = s.kind
  label : t.label = s.label
  rows : t.rows = s.rows
  phase : s.phase.rank ≤ t.phase.rank
  variableNames : s.variableNames <+: t.variableNames
  conditions : s.conditions <+: t.conditions
  cursors : s.cursors.map (·.name) <+: t.cursors.map (·.name)
  bare : s.kind ≠ .block → t.variableNames = s.variableNames

namespace Scope

theorem Becomes.refl (s : Scope) : s.Becomes s :=
  ⟨rfl, rfl, rfl, Nat.le_refl _, List.prefix_rfl, List.prefix_rfl, List.prefix_rfl, fun _ => rfl⟩

theorem Becomes.trans {s t u : Scope} (h : s.Becomes t) (h' : t.Becomes u) : s.Becomes u where
  kind := h'.kind.trans h.kind
  label := h'.label.trans h.label
  rows := h'.rows.trans h.rows
  phase := Nat.le_trans h.phase h'.phase
  variableNames := h.variableNames.trans h'.variableNames
  conditions := h.conditions.trans h'.conditions
  cursors := h.cursors.trans h'.cursors
  bare hk := (h'.bare (h.kind ▸ hk)).trans (h.bare hk)

theorem map_name_stateless (s : Scope) :
    s.stateless.cursors.map (·.name) = s.cursors.map (·.name) := by
  unfold stateless
  rw [List.map_map]
  rfl

theorem Becomes.of_stateless {s t : Scope} (h : t.stateless = s.stateless) : s.Becomes t := by
  have hnames : t.variableNames = s.variableNames := congrArg (·.variableNames) h
  have hconditions : t.conditions = s.conditions := congrArg (·.conditions) h
  have hcursors : t.cursors.map (·.name) = s.cursors.map (·.name) := by
    rw [← map_name_stateless t, h, map_name_stateless s]
  exact {
    kind := congrArg (·.kind) h
    label := congrArg (·.label) h
    rows := congrArg (·.rows) h
    phase := Nat.le_of_eq (congrArg (·.phase.rank) h.symm)
    variableNames := hnames ▸ List.prefix_rfl
    conditions := hconditions ▸ List.prefix_rfl
    cursors := hcursors ▸ List.prefix_rfl
    bare := fun _ => hnames }

/-- Another phase, not before the one that there is. -/
theorem Becomes.of_phase (s : Scope) {phase : DeclarationPhase} (h : s.phase.rank ≤ phase.rank) :
    s.Becomes { s with phase } :=
  ⟨rfl, rfl, rfl, h, List.prefix_rfl, List.prefix_rfl, List.prefix_rfl, fun _ => rfl⟩

theorem stateless_withStates (s : Scope) (states : List CursorState) :
    (s.withStates states).stateless = s.stateless := by
  have h : ∀ (cs : List Cursor) (ss : List CursorState),
      (setStates cs ss).map (fun c => { c with state := .declared }) =
        cs.map fun c => { c with state := .declared } := by
    intro cs ss
    fun_induction setStates cs ss with
    | case1 c cs s ss ih => exact congrArg (_ :: ·) ih
    | case2 => rfl
  exact congrArg (fun cs => { s with cursors := cs }) (h s.cursors states)

/-- Scopes that differ in states only are one once their states are set. -/
theorem withStates_congr {s t : Scope} (h : t.stateless = s.stateless) {states : List CursorState}
    (hlen : s.cursors.length ≤ states.length) : t.withStates states = s.withStates states := by
  have hset : ∀ (cs ds : List Cursor) (ss : List CursorState), cs.length ≤ ss.length →
      ds.map (fun c => { c with state := .declared }) =
        cs.map (fun c => { c with state := .declared }) → setStates ds ss = setStates cs ss := by
    intro cs
    induction cs with
    | nil =>
      intro ds ss _ hds
      rw [List.map_eq_nil_iff.1 hds]
    | cons c cs ih =>
      intro ds ss hss hds
      cases ds with
      | nil => cases hds
      | cons d ds =>
        cases ss with
        | nil => cases hss
        | cons s ss =>
          obtain ⟨hd, hds⟩ := List.cons.inj hds
          have hname : d.name = c.name := congrArg (·.name) hd
          rw [setStates, setStates, hname, ih ds ss (Nat.le_of_succ_le_succ hss) hds]
  have hcursors := hset s.cursors t.cursors states hlen (congrArg (·.cursors) h)
  have hrest := congrArg (fun u => { u with cursors := setStates s.cursors states }) h
  unfold withStates
  rw [hcursors]
  exact hrest

theorem noteStatement_becomes (s : Scope) : s.Becomes s.noteStatement := by
  unfold noteStatement
  by_cases hk : s.kind = .block
  · rw [if_pos hk]
    refine Becomes.of_phase s ?_
    cases s.phase <;> decide
  · rw [if_neg hk]
    exact Becomes.refl s

theorem enterPhase_eq {s t : Scope} {phase : DeclarationPhase} {what : String}
    (h : s.enterPhase phase what = .ok t) :
    t = { s with phase } ∧ s.phase.rank ≤ phase.rank ∧ s.kind = .block := by
  unfold enterPhase at h
  split at h
  · cases h
  · rename_i hkind
    split at h
    · cases h
    · split at h
      · cases h
      · rename_i hrank
        exact ⟨(Except.ok.inj h).symm, Nat.le_of_not_lt hrank, Decidable.not_not.1 hkind⟩

theorem enterPhase_becomes {s t : Scope} {phase : DeclarationPhase} {what : String}
    (h : s.enterPhase phase what = .ok t) : s.Becomes t := by
  obtain ⟨rfl, hrank, _⟩ := enterPhase_eq h
  exact Becomes.of_phase s hrank

/-- A declaration that is accepted comes in its phase, under a name that is not taken. -/
theorem declareIn_eq_ok {s t : Scope} {phase : DeclarationPhase} {what : String}
    {taken : Scope → Bool} {twice : Error} {add : Scope → Scope} {u : Unit} :
    s.declareIn phase what taken twice add = (.ok u, t) ↔ ∃ r, s.enterPhase phase what = .ok r ∧
      taken r = false ∧ add r = t := by
  unfold declareIn
  rcases s.enterPhase phase what with e | r
  · simp
  · dsimp only
    cases h : taken r <;> simp [h]

theorem declareHandler_eq_ok {s t : Scope} {u : Unit} : s.declareHandler = (.ok u, t) ↔
    s.enterPhase .handlers "DECLARE ... HANDLER" = .ok t := by
  unfold declareHandler
  rcases s.enterPhase .handlers "DECLARE ... HANDLER" with e | r <;> simp

theorem declareHandler_eq_error {s t : Scope} {e : Error} : s.declareHandler = (.error e, t) ↔
    s.enterPhase .handlers "DECLARE ... HANDLER" = .error e ∧ s = t := by
  unfold declareHandler
  rcases s.enterPhase .handlers "DECLARE ... HANDLER" with e | r <;> simp

theorem declareIn_becomes {phase : DeclarationPhase} {what : String} {taken : Scope → Bool}
    {twice : Error} {add : Scope → Scope}
    (hadd : ∀ t : Scope, t.kind = .block → t.Becomes (add t)) (s : Scope) :
    s.Becomes (s.declareIn phase what taken twice add).2 := by
  unfold declareIn
  rcases h : s.enterPhase phase what with e | t
  · exact Becomes.refl s
  · have hst := enterPhase_becomes h
    have hkind : t.kind = .block := hst.kind.trans (enterPhase_eq h).2.2
    dsimp only
    by_cases ht : taken t = true
    · rw [if_pos ht]
      exact hst
    · rw [if_neg ht]
      exact hst.trans (hadd t hkind)

theorem declareVariable_becomes (name : String) (s : Scope) :
    s.Becomes (s.declareVariable name).2 := by
  apply declareIn_becomes
  intro t hkind
  exact { Becomes.refl t with
    variableNames := List.prefix_append _ _, bare := fun hk => absurd hkind hk }

theorem declareCondition_becomes (name : String) (s : Scope) :
    s.Becomes (s.declareCondition name).2 := by
  apply declareIn_becomes
  intro t _
  exact { Becomes.refl t with conditions := List.prefix_append _ _ }

theorem declareCursor_becomes (name : String) (s : Scope) :
    s.Becomes (s.declareCursor name).2 := by
  apply declareIn_becomes
  intro t _
  refine { Becomes.refl t with cursors := ?_ }
  rw [List.map_append]
  exact List.prefix_append _ _

theorem declareHandler_becomes (s : Scope) : s.Becomes s.declareHandler.2 := by
  unfold declareHandler
  rcases h : s.enterPhase .handlers "DECLARE ... HANDLER" with e | t
  · exact Becomes.refl s
  · exact enterPhase_becomes h

end Scope

namespace Nesting

theorem scopes_ofScopes {n : Nesting} {ss : List Scope} (h : ss ≠ []) :
    (n.ofScopes ss).scopes = ss := by
  cases ss with
  | nil => exact absurd rfl h
  | cons s ss => rfl

theorem setStates_ne_nil (n : Nesting) (states : List CursorState) :
    setStates n.scopes states ≠ [] := by
  simp [scopes, setStates]

theorem scopes_withStates (n : Nesting) (states : List CursorState) :
    (n.withStates states).scopes = setStates n.scopes states :=
  scopes_ofScopes (n.setStates_ne_nil states)

theorem stateless_setStates (ss : List Scope) (states : List CursorState) :
    (setStates ss states).map Scope.stateless = ss.map Scope.stateless := by
  induction ss generalizing states with
  | nil => rfl
  | cons s ss ih =>
    rw [setStates, List.map_cons, List.map_cons, ih, Scope.stateless_withStates]

theorem setStates_congr {ss ts : List Scope} {states : List CursorState}
    (h : ts.map Scope.stateless = ss.map Scope.stateless)
    (hlen : (ss.flatMap (·.states)).length = states.length) :
    setStates ts states = setStates ss states := by
  induction ss generalizing ts states with
  | nil => rw [List.map_eq_nil_iff.1 h]
  | cons s ss ih =>
    cases ts with
    | nil => cases h
    | cons t ts =>
      obtain ⟨hst, hts⟩ := List.cons.inj h
      have hs : s.states.length = s.cursors.length := by simp [Scope.states]
      have hcount : t.cursors.length = s.cursors.length := by
        simpa [Scope.stateless] using congrArg (fun u : Scope => u.cursors.length) hst
      rw [List.flatMap_cons, List.length_append, hs] at hlen
      rw [setStates, setStates, hcount, Scope.withStates_congr hst (by omega)]
      rw [ih hts (by rw [List.length_drop]; omega)]

theorem stateless_replaceCursor {name : String} {c d : Cursor} {cs : List Cursor}
    (hd : cs.find? (fun d => Text.sameName d.name name) = some d) (hc : c.name = d.name) :
    (replaceCursor name c cs).map (fun c => { c with state := .declared }) =
      cs.map fun c => { c with state := .declared } := by
  induction cs with
  | nil => rfl
  | cons x xs ih =>
    rw [List.find?_cons] at hd
    rw [replaceCursor]
    split at hd
    · rename_i hx
      cases hd
      rw [if_pos hx, List.map_cons, List.map_cons, hc]
    · rename_i hx
      rw [if_neg (by simp [hx]), List.map_cons, List.map_cons, ih hd]

theorem stateless_replaceInScopes {name : String} {c d : Cursor} {ss : List Scope}
    (hd : (ss.flatMap (·.cursors)).find? (fun d => Text.sameName d.name name) = some d)
    (hc : c.name = d.name) :
    (replaceInScopes name c ss).map Scope.stateless = ss.map Scope.stateless := by
  induction ss with
  | nil => rfl
  | cons s ss ih =>
    rw [List.flatMap_cons, List.find?_append] at hd
    rw [replaceInScopes]
    by_cases hs : (s.cursors.any fun d => Text.sameName d.name name) = true
    · rw [if_pos hs, List.map_cons, List.map_cons]
      obtain ⟨x, hx, hname⟩ := List.any_eq_true.1 hs
      rcases hfind : s.cursors.find? (fun d => Text.sameName d.name name) with _ | y
      · exact absurd hname (by simpa using List.find?_eq_none.1 hfind x hx)
      · rw [hfind] at hd
        cases hd
        exact congrArg (fun cs => { s with cursors := cs } :: ss.map Scope.stateless)
          (stateless_replaceCursor hfind hc)
    · rw [if_neg hs, List.map_cons, List.map_cons]
      have hnone : s.cursors.find? (fun d => Text.sameName d.name name) = none := by
        simpa using hs
      rw [hnone] at hd
      rw [ih hd]

theorem replaceInScopes_ne_nil (name : String) (c : Cursor) {ss : List Scope} (h : ss ≠ []) :
    replaceInScopes name c ss ≠ [] := by
  cases ss with
  | nil => exact absurd rfl h
  | cons s ss =>
    rw [replaceInScopes]
    split <;> exact List.cons_ne_nil _ _

/-- What is done with a cursor is done with the innermost one of its name. -/
theorem useCursor_eq_ok {n m : Nesting} {verb : CursorVerb} {name : String} :
    n.useCursor verb name = .ok m ↔ ∃ c d, n.cursor name = .ok c ∧ c.after verb = .ok d ∧
      n.ofScopes (replaceInScopes name d n.scopes) = m := by
  unfold useCursor
  simp only [Outcome.bind_eq_ok, Outcome.pure_eq_ok]
  constructor
  · rintro ⟨c, hc, d, hd, hm⟩
    exact ⟨c, d, hc, hd, hm⟩
  · rintro ⟨c, d, hc, hd, hm⟩
    exact ⟨c, hc, d, hd, hm⟩

theorem scopes_useCursor (n : Nesting) (name : String) (c : Cursor) :
    (n.ofScopes (replaceInScopes name c n.scopes)).scopes = replaceInScopes name c n.scopes :=
  scopes_ofScopes (replaceInScopes_ne_nil name c (List.cons_ne_nil _ _))

theorem find?_of_cursor {n : Nesting} {name : String} {c : Cursor} (h : n.cursor name = .ok c) :
    (n.scopes.flatMap (·.cursors)).find? (fun c => Text.sameName c.name name) = some c := by
  unfold cursor at h
  split at h
  · rename_i hsome
    cases h
    exact hsome
  · cases h

/-- What is done with a cursor changes nothing but its state. -/
theorem stateless_useCursor {n m : Nesting} {verb : CursorVerb} {name : String}
    (h : n.useCursor verb name = .ok m) :
    m.scopes.map Scope.stateless = n.scopes.map Scope.stateless := by
  obtain ⟨c, d, hc, hd, rfl⟩ := useCursor_eq_ok.1 h
  have hname : d.name = c.name := by
    unfold Cursor.after at hd
    split at hd
    · cases hd
      rfl
    · cases hd
  rw [scopes_useCursor]
  exact stateless_replaceInScopes (find?_of_cursor hc) hname

end Nesting

/-! ## Checkers that move on -/

namespace Checker

/-- Nothing but the states of cursors differs. -/
def Still (c c' : Checker) : Prop :=
  c'.nesting.scopes.map Scope.stateless = c.nesting.scopes.map Scope.stateless

/-- The innermost scope has moved on; around it nothing but the states of cursors differs. -/
structure Onward (c c' : Checker) : Prop where
  inner : c.nesting.inner.Becomes c'.nesting.inner
  outer : c'.nesting.outer.map Scope.stateless = c.nesting.outer.map Scope.stateless

instance : Std.Refl Still where
  refl _ := rfl

instance : Trans Still Still Still where
  trans h h' := Eq.trans h' h

instance : Std.Refl Onward where
  refl c := ⟨Scope.Becomes.refl c.nesting.inner, rfl⟩

instance : Trans Onward Onward Onward where
  trans h h' := ⟨h.inner.trans h'.inner, h'.outer.trans h.outer⟩

theorem Still.symm {c c' : Checker} (h : Still c c') : Still c' c := Eq.symm h

theorem Still.onward {c c' : Checker} (h : Still c c') : Onward c c' := by
  obtain ⟨hinner, houter⟩ := List.cons.inj h
  exact ⟨Scope.Becomes.of_stateless hinner, houter⟩

/-- Outside a scope that has moved on, all is still the same. -/
theorem Onward.left {c c' : Checker} {s : Scope} (h : Onward (c.entered s) c') :
    Still c c'.left := by
  obtain ⟨⟨inner, _ | ⟨s', ss⟩⟩, labels⟩ := c'
  · cases h.outer
  · exact h.outer

theorem still_withStates (c : Checker) (states : List CursorState) :
    Still c (c.withStates states) := by
  unfold Still
  show (c.nesting.withStates states).scopes.map _ = _
  rw [Nesting.scopes_withStates, Nesting.stateless_setStates]

theorem Still.length_states {c c' : Checker} (h : Still c c') :
    c'.nesting.states.length = c.nesting.states.length := by
  have hcount : ∀ ss : List Scope, (ss.flatMap (·.states)).length =
      ((ss.map Scope.stateless).flatMap (·.states)).length := by
    intro ss
    simp [List.length_flatMap, Scope.states, Scope.stateless, Function.comp_def]
  show (c'.nesting.scopes.flatMap (·.states)).length = (c.nesting.scopes.flatMap (·.states)).length
  rw [hcount, h, ← hcount]

/-- What differs in states only is one once the states of all cursors are set. -/
theorem Still.withStates {c c' : Checker} (h : Still c c') {states : List CursorState}
    (hlen : c.nesting.states.length = states.length) :
    (c'.withStates states).nesting = (c.withStates states).nesting := by
  have hset := Nesting.setStates_congr h hlen
  unfold Checker.withStates Nesting.withStates
  rw [hset]
  exact rfl

theorem still_labelled (c : Checker) (label : Option String) : Still c (c.labelled label).2 := by
  unfold Still
  rw [labelled_nesting]

end Checker

/-! ## Checks, step by step -/

namespace Check

variable {α β : Type} {R : Checker → Checker → Prop}

/-- Whether the checkers before and after a check, whatever its answer, are related. -/
def Keeps (R : Checker → Checker → Prop) (act : Check α) : Prop := ∀ c, R c (act c).2

theorem Keeps.apply {act : Check α} {c c' : Checker} {r : Except Error α} (h : Keeps R act)
    (hact : act c = (r, c')) : R c c' := by
  have hc := h c
  rw [hact] at hc
  exact hc

theorem Keeps.pure [Std.Refl R] (a : α) : Keeps R (pure a : Check α) := fun c => Std.Refl.refl c

theorem Keeps.throw [Std.Refl R] (e : Error) : Keeps R (throw e : Check α) :=
  fun c => Std.Refl.refl c

theorem Keeps.bind [Trans R R R] {x : Check α} {f : α → Check β} (hx : Keeps R x)
    (hf : ∀ a, Keeps R (f a)) : Keeps R (x >>= f) := by
  intro c
  have hx' := hx c
  rw [bind_apply]
  rcases h : x c with ⟨e | a, t⟩
  · rw [h] at hx'
    exact hx'
  · rw [h] at hx'
    exact Trans.trans hx' (hf a t)

theorem Keeps.imp {S : Checker → Checker → Prop} {act : Check α} (h : Keeps R act)
    (hRS : ∀ {c c'}, R c c' → S c c') : Keeps S act :=
  fun c => hRS (h c)

theorem Keeps.onward {x : Check α} (h : Keeps Checker.Still x) : Keeps Checker.Onward x :=
  h.imp Checker.Still.onward

theorem ask_keeps [Std.Refl R] (f : Nesting → Except Error α) : Keeps R (ask f) :=
  fun c => Std.Refl.refl c

theorem forM_keeps [Std.Refl R] [Trans R R R] {f : String → Check Unit}
    (hf : ∀ name, Keeps R (f name)) (names : List String) : Keeps R (names.forM f) := by
  induction names with
  | nil => exact .pure _
  | cons name names ih => exact .bind (hf name) fun _ => ih

theorem assignments_keeps [Std.Refl R] [Trans R R R] (pairs : List (String × Expr)) :
    Keeps R (assignments pairs) := by
  induction pairs with
  | nil => exact .pure _
  | cons pair pairs ih => exact .bind (ask_keeps _) fun _ => .bind (ask_keeps _) fun _ => ih

theorem rawText_keeps [Std.Refl R] (sql : String) : Keeps R (rawText sql) := by
  unfold rawText
  split
  · exact .throw _
  · exact .pure _

theorem within_still {s : Scope} {act : Check α} (h : Keeps Checker.Onward act) :
    Keeps Checker.Still (within s act) :=
  fun c => (h (c.entered s)).left

theorem setStates_still (states : List CursorState) : Keeps Checker.Still (setStates states) :=
  fun c => c.still_withStates states

theorem labelOr_still (label : Option String) : Keeps Checker.Still (labelOr label) := by
  intro c
  rw [labelOr_apply]
  exact c.still_labelled label

theorem useCursor_still (verb : CursorVerb) (name : String) :
    Keeps Checker.Still (change (·.useCursor verb name)) := by
  intro c
  rcases h : c.nesting.useCursor verb name with e | n
  · rw [change_of_error h]
    exact rfl
  · rw [change_of_ok h]
    exact Nesting.stateless_useCursor h

theorem keepStates_still {states : List CursorState} {act : Check α}
    (h : Keeps Checker.Still act) : Keeps Checker.Still (keepStates states act) :=
  fun c => Trans.trans (h c) ((act c).2.still_withStates states)

theorem unknownStates_still :
    Keeps Checker.Still (change fun n => .ok n.withUnknownStates) :=
  fun c => c.still_withStates _

theorem noteStatement_onward : Keeps Checker.Onward noteStatement :=
  fun c => ⟨c.nesting.inner.noteStatement_becomes, rfl⟩

theorem declare_onward {f : Scope → Except Error Unit × Scope}
    (hf : ∀ s : Scope, s.Becomes (f s).2) : Keeps Checker.Onward (declare f) :=
  fun c => ⟨hf c.nesting.inner, rfl⟩

theorem fetch_still (name : String) (targets : List String) :
    Keeps Checker.Still (Check.fetch name targets) :=
  .bind (ask_keeps _) fun _ => .bind (ask_keeps _) fun _ => useCursor_still .fetch name

end Check

open Check

mutual

/-- **A check moves only the innermost scope on**, whether it succeeds or fails. -/
theorem Statement.check_onward : ∀ s : Statement, Keeps Checker.Onward s.check
  | .foreign _ => .throw _
  | .delimiter _ => .throw _
  | .empty => .pure _
  | .declareVariables _ _ _ =>
    .bind (ask_keeps _) fun _ =>
      .bind (forM_keeps (fun name => declare_onward (Scope.declareVariable_becomes name)) _)
        fun _ => .pure _
  | .declareCondition name _ =>
    .bind (declare_onward (Scope.declareCondition_becomes name)) fun _ => .pure _
  | .declareCursor name _ =>
    .bind (ask_keeps _) fun _ =>
      .bind (declare_onward (Scope.declareCursor_becomes name)) fun _ => .pure _
  | .declareHandler _ _ body =>
    .bind (declare_onward Scope.declareHandler_becomes) fun _ =>
      .bind (ask_keeps _) fun _ => .bind (ask_keeps _) fun _ => .bind (ask_keeps _) fun _ =>
        .bind (Keeps.onward (keepStates_still (within_still
          (.bind unknownStates_still.onward fun _ => Statement.check_onward body)))) fun _ => .pure _
  | .block b => .bind noteStatement_onward fun _ => .bind (Block.check_still b).onward fun _ => .pure _
  | .loop _ body =>
    .bind noteStatement_onward fun _ => .bind (labelOr_still _).onward fun _ =>
      .bind (ask_keeps _) fun _ =>
        .bind (within_still (Statement.checkAll_onward body)).onward fun _ => .pure _
  | .whileLoop _ _ body =>
    .bind noteStatement_onward fun _ => .bind (labelOr_still _).onward fun _ =>
      .bind (ask_keeps _) fun _ => .bind (ask_keeps _) fun _ =>
        .bind (within_still (Statement.checkAll_onward body)).onward fun _ => .pure _
  | .repeatLoop _ _ body =>
    .bind noteStatement_onward fun _ => .bind (labelOr_still _).onward fun _ =>
      .bind (ask_keeps _) fun _ =>
        .bind (within_still (.bind (Statement.checkAll_onward body) fun _ =>
          .bind (ask_keeps _) fun _ => .pure _)).onward fun _ => .pure _
  | .ifElse branches otherwise =>
    .bind noteStatement_onward fun _ => .bind (ask_keeps _) fun before =>
      .bind (IfBranch.checkAll_still before branches).onward fun _ =>
        .bind (Statement.checkElse_still before otherwise).onward fun _ =>
          .bind (setStates_still _).onward fun _ => .pure _
  | .cases _ whens otherwise =>
    .bind noteStatement_onward fun _ => .bind (ask_keeps _) fun _ =>
      .bind (ask_keeps _) fun before =>
        .bind (CaseWhen.checkAll_still before whens).onward fun _ =>
          .bind (Statement.checkElse_still before otherwise).onward fun _ =>
            .bind (setStates_still _).onward fun _ => .pure _
  | .iterate _ => .bind noteStatement_onward fun _ => .bind (ask_keeps _) fun _ => .pure _
  | .leave _ => .bind noteStatement_onward fun _ => .bind (ask_keeps _) fun _ => .pure _
  | .openCursor name =>
    .bind noteStatement_onward fun _ => .bind (useCursor_still .open name).onward fun _ => .pure _
  | .fetch name targets =>
    .bind noteStatement_onward fun _ => .bind (fetch_still name targets).onward fun _ => .pure _
  | .closeCursor name =>
    .bind noteStatement_onward fun _ => .bind (useCursor_still .close name).onward fun _ => .pure _
  | .select _ =>
    .bind noteStatement_onward fun _ => .bind (ask_keeps _) fun _ => .bind (ask_keeps _) fun _ =>
      .pure _
  | .insert _ => .bind noteStatement_onward fun _ => .bind (ask_keeps _) fun _ => .pure _
  | .set pairs =>
    .bind noteStatement_onward fun _ => .bind (assignments_keeps pairs) fun _ => .pure _
  | .call _ _ => .bind noteStatement_onward fun _ => .bind (ask_keeps _) fun _ => .pure _
  | .signal _ _ _ =>
    .bind noteStatement_onward fun _ => .bind (ask_keeps _) fun _ => .bind (ask_keeps _) fun _ =>
      .pure _
  | .raw sql => .bind noteStatement_onward fun _ => .bind (rawText_keeps sql) fun _ => .pure _

theorem Statement.checkAll_onward : ∀ ss : List Statement,
    Keeps Checker.Onward (Statement.checkAll ss)
  | [] => .pure _
  | s :: ss => .bind (Statement.check_onward s) fun _ =>
    .bind (Statement.checkAll_onward ss) fun _ => .pure _

theorem Statement.checkElse_still (before : List CursorState) :
    ∀ otherwise : Option (List Statement), Keeps Checker.Still (Statement.checkElse before otherwise)
  | none => .pure _
  | some ss =>
    .bind (setStates_still before) fun _ => .bind (ask_keeps _) fun _ =>
      .bind (within_still (Statement.checkAll_onward ss)) fun _ => .bind (ask_keeps _) fun _ =>
        .pure _

theorem Block.check_still : ∀ b : Block, Keeps Checker.Still b.check
  | ⟨ss, _, _⟩ =>
    .bind (ask_keeps _) fun _ =>
      .bind (within_still (.bind (ask_keeps _) fun _ =>
        .bind (Statement.checkAll_onward ss) fun _ => .pure _)) fun _ => .pure _

theorem IfBranch.checkAll_still (before : List CursorState) :
    ∀ branches : List IfBranch, Keeps Checker.Still (IfBranch.checkAll before branches)
  | [] => .pure _
  | ⟨_, body⟩ :: rest =>
    .bind (setStates_still before) fun _ => .bind (ask_keeps _) fun _ => .bind (ask_keeps _) fun _ =>
      .bind (within_still (Statement.checkAll_onward body)) fun _ => .bind (ask_keeps _) fun _ =>
        .bind (IfBranch.checkAll_still before rest) fun _ => .pure _

theorem CaseWhen.checkAll_still (before : List CursorState) :
    ∀ whens : List CaseWhen, Keeps Checker.Still (CaseWhen.checkAll before whens)
  | [] => .pure _
  | ⟨_, body⟩ :: rest =>
    .bind (setStates_still before) fun _ => .bind (ask_keeps _) fun _ => .bind (ask_keeps _) fun _ =>
      .bind (within_still (Statement.checkAll_onward body)) fun _ => .bind (ask_keeps _) fun _ =>
        .bind (CaseWhen.checkAll_still before rest) fun _ => .pure _

end

/-- What the body of a handler does to the states of cursors is undone. -/
theorem Statement.handling_undone {body : Statement} {c d : Checker} {r : Except Error Statement}
    (h : body.check c.handling = (r, d)) :
    (d.left.withStates c.nesting.states).nesting = c.nesting := by
  have hbody := (Statement.check_onward body).apply h
  have hentered : (c.entered { kind := .handler, rows := c.nesting.inner.rows }).Onward d :=
    Trans.trans (Checker.still_withStates _ _).onward hbody
  have hundone : (d.left.withStates c.nesting.states).nesting =
      (c.withStates c.nesting.states).nesting := hentered.left.withStates rfl
  rw [c.withStates_states] at hundone
  exact hundone

end StoredSql
