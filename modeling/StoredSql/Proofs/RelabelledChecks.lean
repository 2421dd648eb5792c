import StoredSql.Proofs.CheckFrame

/-!
# Checks under other labels

Two checkers whose scopes differ in labels only are twins (`Checker.Twins`). No step of a check but
those that look for a label or take one tells twins apart, and chains of such steps lead from twins
to twins (`Check.Agree`).
-/

namespace StoredSql

open Check Stepwise

/-! ## Scopes under other labels -/

namespace Scope

/-- Scopes under other labels, both from the innermost outwards. -/
def relabelAll : List (Option String) → List Scope → List Scope
  | _, [] => []
  | labels, s :: ss => { s with label := labels.headD none } :: relabelAll labels.tail ss

/-- Scopes under their own labels. -/
theorem relabelAll_self (ss : List Scope) : relabelAll (ss.map (·.label)) ss = ss := by
  induction ss with
  | nil => rfl
  | cons s ss ih => exact congrArg (s :: ·) ih

theorem map_label_relabelAll {labels : List (Option String)} {ss : List Scope}
    (h : ss.length = labels.length) : (relabelAll labels ss).map (·.label) = labels := by
  induction ss generalizing labels with
  | nil => exact (List.eq_nil_of_length_eq_zero h.symm).symm
  | cons s ss ih =>
    cases labels with
    | nil => cases h
    | cons l labels => exact congrArg (l :: ·) (ih (Nat.succ.inj h))

variable (labels : List (Option String)) (ss : List Scope)

theorem any_relabelAll {p : Scope → Bool} (hp : ∀ s l, p { s with label := l } = p s) :
    (relabelAll labels ss).any p = ss.any p := by
  induction ss generalizing labels with
  | nil => rfl
  | cons s ss ih => rw [relabelAll, List.any_cons, List.any_cons, hp, ih]

theorem flatMap_relabelAll {α : Type} {f : Scope → List α}
    (hf : ∀ s l, f { s with label := l } = f s) :
    (relabelAll labels ss).flatMap f = ss.flatMap f := by
  induction ss generalizing labels with
  | nil => rfl
  | cons s ss ih => rw [relabelAll, List.flatMap_cons, List.flatMap_cons, hf, ih]

end Scope

namespace Nesting

/-- A nesting under other labels, from the innermost outwards. -/
def relabelled (labels : List (Option String)) (n : Nesting) : Nesting :=
  ⟨{ n.inner with label := labels.headD none }, Scope.relabelAll labels.tail n.outer⟩

variable (labels : List (Option String)) (n : Nesting)

theorem scopes_relabelled : (n.relabelled labels).scopes = Scope.relabelAll labels n.scopes := rfl

theorem relabelled_self : n.relabelled (n.scopes.map (·.label)) = n :=
  congrArg (Nesting.mk n.inner) (Scope.relabelAll_self n.outer)

theorem openLabels_relabelled {α : Type} {as : List α} {n : Nesting}
    (h : n.scopes.length = as.length) (label : α → Option String) :
    (n.relabelled (as.map label)).openLabels = as.filterMap label := by
  have hlabels : (n.relabelled (as.map label)).scopes.map (·.label) = as.map label :=
    Scope.map_label_relabelAll (h.trans (List.length_map _).symm)
  calc (n.relabelled (as.map label)).openLabels
    _ = ((n.relabelled (as.map label)).scopes.map (·.label)).filterMap id := by
      rw [List.filterMap_map]
      rfl
    _ = as.filterMap label := by
      rw [hlabels, List.filterMap_map]
      rfl

theorem resolveVariable_relabelled :
    (n.relabelled labels).resolveVariable = n.resolveVariable :=
  resolveVariable_congr rfl fun _ => Scope.any_relabelAll labels n.scopes fun _ _ => rfl

theorem resolveTarget_relabelled : (n.relabelled labels).resolveTarget = n.resolveTarget := by
  funext name
  unfold resolveTarget
  rw [resolveVariable_relabelled]
  rfl

theorem resolveCondition_relabelled :
    (n.relabelled labels).resolveCondition = n.resolveCondition := by
  funext name
  unfold resolveCondition
  rw [scopes_relabelled, Scope.any_relabelAll labels n.scopes fun _ _ => rfl]

theorem states_relabelled : (n.relabelled labels).states = n.states :=
  Scope.flatMap_relabelAll labels n.scopes fun _ _ => rfl

theorem cursor_relabelled (name : String) : (n.relabelled labels).cursor name = n.cursor name := by
  unfold cursor
  rw [scopes_relabelled, Scope.flatMap_relabelAll labels n.scopes fun _ _ => rfl]

theorem setStates_relabelAll (ss : List Scope) (states : List CursorState) :
    setStates (Scope.relabelAll labels ss) states =
      Scope.relabelAll labels (setStates ss states) := by
  induction ss generalizing labels states with
  | nil => rfl
  | cons s ss ih =>
    rw [Scope.relabelAll, setStates, setStates, Scope.relabelAll, ih]
    rfl

theorem replaceInScopes_relabelAll (name : String) (c : Cursor) (ss : List Scope) :
    replaceInScopes name c (Scope.relabelAll labels ss) =
      Scope.relabelAll labels (replaceInScopes name c ss) := by
  induction ss generalizing labels with
  | nil => rfl
  | cons s ss ih =>
    rw [Scope.relabelAll, replaceInScopes, replaceInScopes]
    split
    · rfl
    · rw [Scope.relabelAll, ih]

theorem ofScopes_relabelAll (ss : List Scope) :
    (n.relabelled labels).ofScopes (Scope.relabelAll labels ss) =
      (n.ofScopes ss).relabelled labels := by
  cases ss <;> rfl

theorem withStates_relabelled (states : List CursorState) :
    (n.relabelled labels).withStates states = (n.withStates states).relabelled labels := by
  unfold withStates
  rw [scopes_relabelled, setStates_relabelAll, ofScopes_relabelAll]

theorem useCursor_relabelled (verb : CursorVerb) (name : String) :
    (n.relabelled labels).useCursor verb name =
      (n.useCursor verb name).map (·.relabelled labels) := by
  unfold useCursor
  rw [cursor_relabelled]
  cases n.cursor name with
  | error e => rfl
  | ok c =>
    show (c.after verb >>= fun d => _) = (c.after verb >>= fun d => _).map _
    cases c.after verb with
    | error e => rfl
    | ok d =>
      show Except.ok _ = Except.ok _
      rw [scopes_relabelled, replaceInScopes_relabelAll, ofScopes_relabelAll]

/-- A label is found in the same kind of construct where it is told from other labels alike. -/
theorem findLabel_relabelAll {label : String} {pairs : List (Option String × Option String)}
    (h : ∀ p ∈ pairs, p.1.any (Text.sameName label) = p.2.any (Text.sameName label))
    (ss : List Scope) :
    (findLabel label (Scope.relabelAll (pairs.map (·.1)) ss)).map (·.kind) =
      (findLabel label (Scope.relabelAll (pairs.map (·.2)) ss)).map (·.kind) := by
  induction ss generalizing pairs with
  | nil => rfl
  | cons s ss ih =>
    have hhead : ((pairs.map (·.1)).headD none).any (Text.sameName label) =
        ((pairs.map (·.2)).headD none).any (Text.sameName label) := by
      cases pairs with
      | nil => rfl
      | cons p pairs => exact h p (by simp)
    have htail := ih fun p hp => h p (List.mem_of_mem_tail hp)
    rw [List.map_tail, List.map_tail] at htail
    simp only [Scope.relabelAll, findLabel, hhead]
    split
    · rfl
    · split
      · rfl
      · exact htail

end Nesting

/-! ## Twins -/

/-- Two checkers whose scopes differ in labels only. Their labels come from one stem and have
numbers from `least` on. -/
inductive Checker.Twins (stem : String) (least : Nat)
    (pairs : List (Option String × Option String)) : Checker → Checker → Prop
  | mk {n : Nesting} {i j : Nat} (hn : n.scopes.length = pairs.length) (hi : least ≤ i)
      (hj : least ≤ j) : Twins stem least pairs ⟨n.relabelled (pairs.map (·.1)), ⟨stem, i⟩⟩
        ⟨n.relabelled (pairs.map (·.2)), ⟨stem, j⟩⟩

/-- A scope under two labels. -/
def Scope.Pair (p : Option String × Option String) (r s : Scope) : Prop :=
  ∃ t : Scope, r = { t with label := p.1 } ∧ s = { t with label := p.2 }

/-- Either both computations succeed, with related results, or both fail. -/
def Outcome.Both {α β : Type} (R : α → β → Prop) : Except Error α → Except Error β → Prop
  | .ok a, .ok b => R a b
  | .error _, .error _ => True
  | _, _ => False

/-- Whatever the results are. -/
abbrev Outcome.Any {α β : Type} (_ : α) (_ : β) : Prop := True

theorem Outcome.both_self {α : Type} (r : Except Error α) : Both Eq r r := by
  cases r
  · trivial
  · rfl

theorem Outcome.Both.isOk_eq {α β : Type} {R : α → β → Prop} {x : Except Error α}
    {y : Except Error β} (h : Both R x y) : x.isOk = y.isOk := by
  cases x <;> cases y <;> first | rfl | exact False.elim h

namespace Check

open Outcome

variable {α β γ δ : Type} {stem : String} {least : Nat}
  {pairs : List (Option String × Option String)}

/-- Whether two checks of twins have related answers and leave twins. -/
def Agree (stem : String) (least : Nat) (pairs : List (Option String × Option String))
    (R : α → β → Prop) (x : Check α) (y : Check β) : Prop :=
  ∀ ⦃d c : Checker⦄, d.Twins stem least pairs c →
    Both R (x d).1 (y c).1 ∧ (x d).2.Twins stem least pairs (y c).2

theorem Agree.pure {R : α → β → Prop} {a : α} {b : β} (h : R a b) :
    Agree stem least pairs R (pure a) (pure b) := fun _ _ hdc => ⟨h, hdc⟩

theorem Agree.throw {R : α → β → Prop} (e e' : Error) :
    Agree stem least pairs R (throw e) (throw e') := fun _ _ hdc => ⟨trivial, hdc⟩

theorem Agree.bind {R : α → β → Prop} {S : γ → δ → Prop} {x : Check α} {y : Check β}
    {f : α → Check γ} {g : β → Check δ} (hx : Agree stem least pairs R x y)
    (hf : ∀ a b, R a b → Agree stem least pairs S (f a) (g b)) :
    Agree stem least pairs S (x >>= f) (y >>= g) := by
  intro d c hdc
  have hxy := hx hdc
  rw [bind_apply, bind_apply]
  generalize x d = r at hxy ⊢
  generalize y c = t at hxy ⊢
  obtain ⟨e | a, d'⟩ := r
  · obtain ⟨e' | b, c'⟩ := t
    · exact ⟨trivial, hxy.2⟩
    · exact False.elim hxy.1
  · obtain ⟨e' | b, c'⟩ := t
    · exact False.elim hxy.1
    · exact hf a b hxy.1 hxy.2

/-- Steps after which it does not matter what their answers are. -/
theorem Agree.bind_eq {S : γ → δ → Prop} {x y : Check α} {f : α → Check γ} {g : α → Check δ}
    (hx : Agree stem least pairs Eq x y) (hf : ∀ a, Agree stem least pairs S (f a) (g a)) :
    Agree stem least pairs S (x >>= f) (y >>= g) :=
  hx.bind fun a _ h => h ▸ hf a

/-- A question that does not look at labels. -/
theorem ask_agree {f : Nesting → Except Error α} (hf : ∀ labels n, f (n.relabelled labels) = f n) :
    Agree stem least pairs Eq (ask f) (ask f) := by
  rintro _ _ ⟨hn, hi, hj⟩
  refine ⟨?_, .mk hn hi hj⟩
  show Both Eq (f _) (f _)
  rw [hf, hf]
  exact both_self _

/-- A change that does not look at labels and leaves the scopes at their places. -/
theorem change_agree {f : Nesting → Except Error Nesting}
    (hf : ∀ labels n, f (n.relabelled labels) = (f n).map (·.relabelled labels))
    (hlength : ∀ {n m}, f n = .ok m → m.scopes.length = n.scopes.length) :
    Agree stem least pairs Eq (change f) (change f) := by
  rintro _ _ ⟨hn, hi, hj⟩
  rename_i n i j
  rcases hm : f n with e | m
  · have hfails : ∀ labels, f (n.relabelled labels) = .error e := fun labels => by
      rw [hf, hm]
      rfl
    rw [change_of_error (hfails _), change_of_error (hfails _)]
    exact ⟨trivial, .mk hn hi hj⟩
  · have hsucceeds : ∀ labels, f (n.relabelled labels) = .ok (m.relabelled labels) :=
      fun labels => by
        rw [hf, hm]
        rfl
    rw [change_of_ok (hsucceeds _), change_of_ok (hsucceeds _)]
    exact ⟨rfl, .mk ((hlength hm).trans hn) hi hj⟩

theorem declare_agree {f : Scope → Except Error Unit × Scope}
    (hf : ∀ s l, f { s with label := l } = ((f s).1, { (f s).2 with label := l })) :
    Agree stem least pairs Eq (declare f) (declare f) := by
  rintro _ _ ⟨hn, hi, hj⟩
  rename_i n i j
  have hdeclare : ∀ labels (s : LabelSource), declare f ⟨n.relabelled labels, s⟩ =
      ((f n.inner).1, ⟨{ n with inner := (f n.inner).2 }.relabelled labels, s⟩) := by
    intro labels s
    unfold declare Nesting.relabelled
    dsimp only
    rw [hf]
  rw [hdeclare, hdeclare]
  exact ⟨both_self _, .mk hn hi hj⟩

theorem resolveAll_agree (names : List String) :
    Agree stem least pairs Eq (resolveAll names) (resolveAll names) :=
  ask_agree fun labels n => by rw [n.resolveVariable_relabelled labels]

theorem resolveTargets_agree (targets : List String) : Agree stem least pairs Eq
    (ask fun n => targets.forM n.resolveTarget) (ask fun n => targets.forM n.resolveTarget) :=
  ask_agree fun labels n => by rw [n.resolveTarget_relabelled labels]

theorem resolveConditions_agree (conditions : List ConditionValue) :
    Agree stem least pairs Eq (resolveConditions conditions) (resolveConditions conditions) :=
  ask_agree fun labels n => by rw [n.resolveCondition_relabelled labels]

/-- A question that is not asked again; what is seen where labels differ may differ. -/
theorem view_agree : Agree stem least pairs Any view view := by
  rintro _ _ ⟨hn, hi, hj⟩
  exact ⟨trivial, .mk hn hi hj⟩

theorem states_agree : Agree stem least pairs Eq states states :=
  ask_agree fun labels n => congrArg Except.ok (n.states_relabelled labels)

theorem length_of_stateless {n m : Nesting}
    (h : m.scopes.map Scope.stateless = n.scopes.map Scope.stateless) :
    m.scopes.length = n.scopes.length := by
  simpa using congrArg List.length h

theorem setStates_agree (states : List CursorState) :
    Agree stem least pairs Eq (setStates states) (setStates states) := by
  refine change_agree (fun labels n => congrArg Except.ok (n.withStates_relabelled labels states))
    fun {n m} h => length_of_stateless ?_
  cases h
  rw [Nesting.scopes_withStates, Nesting.stateless_setStates]

theorem unknownStates_agree : Agree stem least pairs Eq
    (change fun n => .ok n.withUnknownStates) (change fun n => .ok n.withUnknownStates) := by
  refine change_agree (fun labels n => ?_) fun {n m} h => length_of_stateless ?_
  · show Except.ok _ = Except.ok _
    rw [Nesting.withUnknownStates, n.states_relabelled, n.withStates_relabelled]
    rfl
  · cases h
    rw [Nesting.withUnknownStates, Nesting.scopes_withStates, Nesting.stateless_setStates]

theorem noteStatement_agree : Agree stem least pairs Eq noteStatement noteStatement := by
  refine change_agree (fun labels n => ?_) fun {n m} h => by cases h; rfl
  show Except.ok _ = Except.ok _
  unfold Nesting.relabelled Scope.noteStatement
  dsimp only
  split <;> rfl

theorem useCursor_agree (verb : CursorVerb) (name : String) : Agree stem least pairs Eq
    (change (·.useCursor verb name)) (change (·.useCursor verb name)) :=
  change_agree (fun labels n => n.useCursor_relabelled labels verb name) fun h =>
    length_of_stateless (Nesting.stateless_useCursor h)

theorem fetch_agree (name : String) (targets : List String) :
    Agree stem least pairs Eq (Check.fetch name targets) (Check.fetch name targets) :=
  .bind_eq (ask_agree fun labels n => n.cursor_relabelled labels name) fun _ =>
    .bind_eq (resolveTargets_agree targets) fun _ => useCursor_agree .fetch name

theorem forM_agree {f : String → Check Unit}
    (hf : ∀ name, Agree stem least pairs Eq (f name) (f name))
    (names : List String) : Agree stem least pairs Eq (names.forM f) (names.forM f) := by
  induction names with
  | nil => exact .pure rfl
  | cons name names ih => exact .bind_eq (hf name) fun _ => ih

theorem assignments_agree (assigned : List (String × Expr)) :
    Agree stem least pairs Eq (assignments assigned) (assignments assigned) := by
  induction assigned with
  | nil => exact .pure rfl
  | cons assignment assigned ih =>
    exact .bind_eq (resolveAll_agree _) fun _ =>
      .bind_eq (ask_agree fun labels n => by rw [n.resolveTarget_relabelled labels]) fun _ => ih

theorem rawText_agree (sql : String) :
    Agree stem least pairs Eq (rawText sql) (rawText sql) := by
  unfold rawText
  split
  · exact .throw _ _
  · exact .pure rfl

/-! ### Declarations -/

theorem enterPhase_relabelled (phase : DeclarationPhase) (what : String) (s : Scope)
    (l : Option String) : Scope.enterPhase { s with label := l } phase what =
      (s.enterPhase phase what).map fun t => { t with label := l } := by
  unfold Scope.enterPhase
  dsimp only
  split
  · rfl
  · split
    · rfl
    · split <;> rfl

theorem declareIn_relabelled {phase : DeclarationPhase} {what : String} {taken : Scope → Bool}
    {twice : Error} {add : Scope → Scope} (htaken : ∀ s l, taken { s with label := l } = taken s)
    (hadd : ∀ s l, add { s with label := l } = { add s with label := l }) (s : Scope)
    (l : Option String) : Scope.declareIn { s with label := l } phase what taken twice add =
      ((s.declareIn phase what taken twice add).1,
        { (s.declareIn phase what taken twice add).2 with label := l }) := by
  unfold Scope.declareIn
  rw [enterPhase_relabelled]
  cases s.enterPhase phase what with
  | error e => rfl
  | ok t =>
    dsimp only [Except.map]
    rw [htaken, hadd]
    split <;> rfl

theorem declareVariable_agree (name : String) : Agree stem least pairs Eq
    (declare (·.declareVariable name)) (declare (·.declareVariable name)) :=
  declare_agree (declareIn_relabelled (fun _ _ => rfl) fun _ _ => rfl)

theorem declareCondition_agree (name : String) : Agree stem least pairs Eq
    (declare (·.declareCondition name)) (declare (·.declareCondition name)) :=
  declare_agree (declareIn_relabelled (fun _ _ => rfl) fun _ _ => rfl)

theorem declareCursor_agree (name : String) : Agree stem least pairs Eq
    (declare (·.declareCursor name)) (declare (·.declareCursor name)) :=
  declare_agree (declareIn_relabelled (fun _ _ => rfl) fun _ _ => rfl)

theorem declareHandler_agree :
    Agree stem least pairs Eq (declare (·.declareHandler)) (declare (·.declareHandler)) := by
  refine declare_agree fun s l => ?_
  unfold Scope.declareHandler
  rw [enterPhase_relabelled]
  cases s.enterPhase .handlers "DECLARE ... HANDLER" <;> rfl

/-! ### Scopes inside -/

/-- Twins leave a scope under two labels as twins. -/
theorem twins_left {p : Option String × Option String} {d c : Checker} (hne : pairs ≠ [])
    (h : d.Twins stem least (p :: pairs) c) : d.left.Twins stem least pairs c.left := by
  obtain ⟨hn, hi, hj⟩ := h
  rename_i n i j
  obtain ⟨s, ss⟩ := n
  cases ss with
  | nil => exact absurd (List.eq_nil_of_length_eq_zero (Nat.succ.inj hn).symm) hne
  | cons t ts => exact .mk (n := ⟨t, ts⟩) (Nat.succ.inj hn) hi hj

/-- Twins go into a scope under two labels, and are twins again when they have left it. -/
theorem within_agree {p : Option String × Option String} {r s : Scope} {R : α → β → Prop}
    {x : Check α} {y : Check β} (hp : Scope.Pair p r s)
    (h : Agree stem least (p :: pairs) R x y) :
    Agree stem least pairs R (within r x) (within s y) := by
  rintro _ _ ⟨hn, hi, hj⟩
  rename_i n i j
  obtain ⟨t, rfl, rfl⟩ := hp
  have hinside := h (.mk (n := n.within t) (congrArg Nat.succ hn) hi hj)
  have hne : pairs ≠ [] := by
    rintro rfl
    cases hn
  exact ⟨hinside.1, twins_left hne hinside.2⟩

theorem keepStates_agree {states : List CursorState} {R : α → β → Prop} {x : Check α} {y : Check β}
    (h : Agree stem least pairs R x y) :
    Agree stem least pairs R (keepStates states x) (keepStates states y) := by
  intro d c hdc
  have hxy := h hdc
  exact ⟨hxy.1, (setStates_agree states hxy.2).2⟩

theorem child_none_agree (kind : ScopeKind) :
    Agree stem least pairs (Scope.Pair (none, none)) (child kind none) (child kind none) := by
  rintro _ _ ⟨hn, hi, hj⟩
  rename_i n i j
  exact ⟨⟨{ kind := kind, rows := n.inner.rows }, rfl, rfl⟩, .mk hn hi hj⟩

/-- Two labels that both can be given and are both free, or neither. -/
theorem child_agree {l l' : String}
    (hvalid : Identifier.checkLabel l = .ok l ↔ Identifier.checkLabel l' = .ok l')
    (htaken : Scope.hasName (pairs.filterMap (·.1)) l = Scope.hasName (pairs.filterMap (·.2)) l')
    (kind : ScopeKind) : Agree stem least pairs (Scope.Pair (some l, some l'))
      (child kind (some l)) (child kind (some l')) := by
  rintro _ _ ⟨hn, hi, hj⟩
  rename_i n i j
  refine ⟨?_, .mk hn hi hj⟩
  show Both _ (Nesting.child _ kind (some l)) (Nesting.child _ kind (some l'))
  unfold Nesting.child
  dsimp only
  rw [Nesting.openLabels_relabelled hn, Nesting.openLabels_relabelled hn]
  rcases hl : Identifier.checkLabel l with e | m
  · rcases hl' : Identifier.checkLabel l' with e' | m'
    · trivial
    · obtain rfl := (Identifier.checkLabel_eq_ok_iff.1 hl').1
      exact absurd (hl.symm.trans (hvalid.2 hl')) nofun
  · obtain rfl := (Identifier.checkLabel_eq_ok_iff.1 hl).1
    rw [hvalid.1 hl]
    dsimp only [bind, Except.bind]
    rw [htaken]
    split
    · trivial
    · exact ⟨{ kind := kind, rows := n.inner.rows }, rfl, rfl⟩

/-! ### Labels that are looked for -/

section

variable {label : String}
  (h : ∀ p ∈ pairs, p.1.any (Text.sameName label) = p.2.any (Text.sameName label))

include h

/-- A question about the kind of the construct that has a label. -/
theorem askFound_agree {f : Nesting → Except Error Unit}
    (hf : ∀ n m : Nesting, (Nesting.findLabel label n.scopes).map (·.kind) =
      (Nesting.findLabel label m.scopes).map (·.kind) → f n = f m) :
    Agree stem least pairs Eq (ask f) (ask f) := by
  rintro _ _ ⟨hn, hi, hj⟩
  rename_i n i j
  refine ⟨?_, .mk hn hi hj⟩
  have hfound := Nesting.findLabel_relabelAll h n.scopes
  rw [← Nesting.scopes_relabelled, ← Nesting.scopes_relabelled] at hfound
  show Both Eq (f _) (f _)
  rw [hf _ _ hfound]
  exact both_self _

theorem iterateTarget_agree :
    Agree stem least pairs Eq (iterateTarget label) (iterateTarget label) := by
  refine askFound_agree h fun n m hkind => ?_
  cases hn : Nesting.findLabel label n.scopes <;> cases hm : Nesting.findLabel label m.scopes <;>
    rw [hn, hm] at hkind
  · cases hkind
  · cases hkind
  · rename_i r s
    have hsame : r.kind = s.kind := Option.some.inj hkind
    dsimp only
    rw [hsame]

theorem leaveTarget_agree :
    Agree stem least pairs Eq (leaveTarget label) (leaveTarget label) := by
  refine askFound_agree h fun n m hkind => ?_
  cases hn : Nesting.findLabel label n.scopes <;> cases hm : Nesting.findLabel label m.scopes <;>
    rw [hn, hm] at hkind
  · cases hkind
  · cases hkind

end

end Check
end StoredSql
