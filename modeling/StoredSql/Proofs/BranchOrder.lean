import StoredSql.Proofs.LoopLabels
import StoredSql.Proofs.Outcome

/-!
# Branches on their own

The branches of a conditional are checked one after the other, but each as if it were the only one:
what one of them does to the states of cursors is put back before the next. Where no branch takes a
label, a conditional is therefore accepted where each of its branches is accepted on its own, and
the states after it are those that the outcomes agree on, whatever the order of the branches
(`branches_independent`). Conditionals and cases are one thing here, a `Fork`.
-/

namespace StoredSql

open Check Stepwise

/-! ## Ways through a statement -/

/-- A branch or an arm: the names that its test refers to, and its statements. -/
structure Way where
  test : List String
  body : List Statement

namespace Way

/-- The check of a way on its own: its test, and its statements in a scope of theirs. It tells the
states after them. -/
def alone (w : Way) : Check (List CursorState) := do
  resolveAll w.test
  let scope ← child .branch none
  let _ ← within scope (Statement.checkAll w.body)
  states

/-- The states after a way that is taken on its own, if it is accepted. -/
def outcome? (w : Way) (c : Checker) : Option (List CursorState) :=
  match w.alone c with
  | (.ok outcome, _) => some outcome
  | (.error _, _) => none

end Way

/-- The way that a branch is. -/
def IfBranch.way (b : IfBranch) : Way := ⟨b.test.outline.variableNames, b.statements⟩

/-- The way that an arm is. -/
def CaseWhen.way (w : CaseWhen) : Way := ⟨w.test.outline.variableNames, w.statements⟩

/-- A statement that branches: the names that its operand refers to, its branches, and what is done
if none of them is taken. -/
structure Fork where
  operand : List String := []
  ways : List Way
  otherwise : Option (List Statement)

namespace Fork

/-- What is done if no branch is taken is one more way, without a test. -/
def elseWay (otherwise : Option (List Statement)) : List Way :=
  (otherwise.map (⟨[], ·⟩)).toList

/-- The states that may stay, where nothing is done if no branch is taken. -/
def staying (otherwise : Option (List Statement)) (before : List CursorState) :
    List (List CursorState) :=
  if otherwise.isNone then [before] else []

/-- The branches, and what is done if none of them is taken. -/
def allWays (f : Fork) : List Way := f.ways ++ elseWay f.otherwise

/-- The states after each way on its own, and those that may stay. -/
def outcomes (f : Fork) (c : Checker) : List (List CursorState) :=
  f.allWays.filterMap (·.outcome? c) ++ staying f.otherwise c.nesting.states

/-- The checker with the states that all ways agree on. -/
def merged (f : Fork) (c : Checker) : Checker :=
  c.withStates (Nesting.agreedStates c.nesting.states.length (f.outcomes c))

end Fork

/-- The fork that a conditional or a case is. -/
def Statement.fork? : Statement → Option Fork
  | .ifElse branches otherwise => some { ways := branches.map (·.way), otherwise }
  | .cases operand whens otherwise =>
    some ⟨(operand.map (·.outline.variableNames)).getD [], whens.map (·.way), otherwise⟩
  | _ => none

/-- The same conditional or case but for the order of its branches. -/
inductive Statement.Permuted : Statement → Statement → Prop
  | ifElse {branches branches' : List IfBranch} (otherwise : Option (List Statement)) :
      branches.Perm branches' → Permuted (.ifElse branches otherwise) (.ifElse branches' otherwise)
  | cases (operand : Option Expr) {whens whens' : List CaseWhen}
      (otherwise : Option (List Statement)) : whens.Perm whens' →
      Permuted (.cases operand whens otherwise) (.cases operand whens' otherwise)

theorem Statement.Permuted.fork {s t : Statement} {f : Fork} (h : s.Permuted t)
    (hf : s.fork? = some f) :
    ∃ ways, t.fork? = some { f with ways } ∧ f.ways.Perm ways := by
  cases h with
  | ifElse otherwise hperm =>
    cases hf
    exact ⟨_, rfl, hperm.map _⟩
  | cases operand otherwise hperm =>
    cases hf
    exact ⟨_, rfl, hperm.map _⟩

/-! ## States that all agree on -/

namespace CursorState

variable {ss ts : List CursorState} {s t : CursorState}

theorem agreed_of_forall (hne : ss ≠ []) (h : ∀ t ∈ ss, t = s) : agreed ss = s := by
  cases ss with
  | nil => exact absurd rfl hne
  | cons t ss =>
    obtain ⟨rfl, hss⟩ := List.forall_mem_cons.1 h
    have hall : ss.all (· == t) = true := List.all_eq_true.2 fun u hu => beq_iff_eq.2 (hss u hu)
    rw [agreed, if_pos hall]

theorem agreed_of_ne (hs : s ∈ ss) (ht : t ∈ ss) (hne : s ≠ t) : agreed ss = .indeterminate := by
  cases ss with
  | nil => rfl
  | cons u ss =>
    rw [agreed, if_neg]
    intro hall
    have hu : ∀ v ∈ u :: ss, v = u :=
      List.forall_mem_cons.2 ⟨rfl, fun v hv => beq_iff_eq.1 (List.all_eq_true.1 hall v hv)⟩
    exact hne ((hu s hs).trans (hu t ht).symm)

theorem agreed_eq_iff (hne : ss ≠ []) : agreed ss = s ↔
    (∀ t ∈ ss, t = s) ∨ s = .indeterminate ∧ ∃ t ∈ ss, ∃ u ∈ ss, t ≠ u := by
  constructor
  · rintro rfl
    by_cases hall : ∃ s, ∀ t ∈ ss, t = s
    · obtain ⟨s, hs⟩ := hall
      exact .inl ((agreed_of_forall hne hs).symm ▸ hs)
    · obtain ⟨t, ht⟩ := List.exists_mem_of_ne_nil ss hne
      have hdiffer : ∃ u ∈ ss, u ≠ t := by
        simpa using not_exists.1 hall t
      obtain ⟨u, hu, hut⟩ := hdiffer
      exact .inr ⟨agreed_of_ne hu ht hut, u, hu, t, ht, hut⟩
  · rintro (h | ⟨rfl, t, ht, u, hu, htu⟩)
    · exact agreed_of_forall hne h
    · exact agreed_of_ne ht hu htu

/-- States agree in any order. -/
theorem agreed_perm (h : ss.Perm ts) : agreed ss = agreed ts := by
  cases ss with
  | nil => rw [h.nil_eq]
  | cons s ss =>
    by_cases hall : ∀ t ∈ s :: ss, t = s
    · have hts : ts ≠ [] := fun hts => nomatch (hts ▸ h).eq_nil
      rw [agreed_of_forall (List.cons_ne_nil s ss) hall,
        agreed_of_forall hts fun t ht => hall t (h.mem_iff.2 ht)]
    · simp only [Classical.not_forall] at hall
      obtain ⟨t, ht, hne⟩ := hall
      rw [agreed_of_ne ht (.head _) hne, agreed_of_ne (h.mem_iff.1 ht) (h.mem_iff.1 (.head _)) hne]

end CursorState

theorem Nesting.agreedStates_perm {outcomes outcomes' : List (List CursorState)} (count : Nat)
    (h : outcomes.Perm outcomes') :
    agreedStates count outcomes = agreedStates count outcomes' := by
  unfold agreedStates
  refine List.map_congr_left fun i _ => ?_
  exact CursorState.agreed_perm (h.map _)

theorem Nesting.length_agreedStates (count : Nat) (outcomes : List (List CursorState)) :
    (agreedStates count outcomes).length = count := by
  simp [agreedStates]

/-- The state of a cursor is the one that it has in all outcomes; it is indeterminate where two of
them differ. -/
theorem Nesting.getElem?_agreedStates {count i : Nat} {outcomes : List (List CursorState)}
    {state : CursorState} (hi : i < count) (hne : outcomes ≠ [])
    (hlen : ∀ o ∈ outcomes, o.length = count) :
    (agreedStates count outcomes)[i]? = some state ↔ (∀ o ∈ outcomes, o[i]? = some state) ∨
      state = .indeterminate ∧ ∃ o ∈ outcomes, ∃ o' ∈ outcomes, o[i]? ≠ o'[i]? := by
  have hstate (o : List CursorState) (ho : o ∈ outcomes) :
      o[i]? = some (o.getD i .indeterminate) := by
    have hio : i < o.length := (hlen o ho).symm ▸ hi
    rw [List.getD_eq_getElem?_getD, List.getElem?_eq_getElem hio, Option.getD_some]
  have hne' : outcomes.map (fun states => states.getD i .indeterminate) ≠ [] := by simpa using hne
  have hagreed : (agreedStates count outcomes)[i]? =
      some (CursorState.agreed (outcomes.map fun states => states.getD i .indeterminate)) := by
    simp [agreedStates, hi]
  rw [hagreed, Option.some.injEq, CursorState.agreed_eq_iff hne']
  refine or_congr ?_ (and_congr_right fun _ => ?_)
  · rw [List.forall_mem_map]
    refine forall₂_congr fun o ho => ?_
    rw [hstate o ho, Option.some.injEq]
  · constructor
    · rintro ⟨_, ht, _, hu, htu⟩
      obtain ⟨o, ho, rfl⟩ := List.mem_map.1 ht
      obtain ⟨o', ho', rfl⟩ := List.mem_map.1 hu
      exact ⟨o, ho, o', ho', by rwa [hstate o ho, hstate o' ho', ne_eq, Option.some.injEq]⟩
    · rintro ⟨o, ho, o', ho', h⟩
      rw [hstate o ho, hstate o' ho', ne_eq, Option.some.injEq] at h
      exact ⟨_, List.mem_map_of_mem ho, _, List.mem_map_of_mem ho', h⟩

/-! ## Ways one after the other -/

namespace Checker

/-- Nothing but the states of cursors differs, not even where labels come from. -/
structure OnlyStates (c d : Checker) : Prop where
  still : c.Still d
  labels : d.labels = c.labels

variable {c d e : Checker}

theorem OnlyStates.refl (c : Checker) : c.OnlyStates c := ⟨Std.Refl.refl c, rfl⟩

theorem OnlyStates.trans (h : c.OnlyStates d) (h' : d.OnlyStates e) : c.OnlyStates e :=
  ⟨Trans.trans h.still h'.still, h'.labels.trans h.labels⟩

theorem onlyStates_withStates (c : Checker) (states : List CursorState) :
    c.OnlyStates (c.withStates states) :=
  ⟨c.still_withStates states, rfl⟩

theorem OnlyStates.withStates (h : c.OnlyStates d) {states : List CursorState}
    (hlen : c.nesting.states.length = states.length) :
    d.withStates states = c.withStates states := by
  have hnesting := h.still.withStates hlen
  have hlabels : (d.withStates states).labels = (c.withStates states).labels := h.labels
  rcases hd : d.withStates states with ⟨n, labels⟩
  rcases hc : c.withStates states with ⟨m, labels'⟩
  rw [hd, hc] at hnesting hlabels
  exact (congrArg (Checker.mk · labels) hnesting).trans (congrArg (Checker.mk m) hlabels)

/-- Where the states from before are set, all is as before. -/
theorem OnlyStates.restored (h : c.OnlyStates d) : d.withStates c.nesting.states = c :=
  (h.withStates rfl).trans c.withStates_states

end Checker

namespace Way

variable {w : Way} {c d : Checker} {outcome : List CursorState}

theorem alone_ok : w.alone c = (.ok outcome, d) ↔ c.nesting.resolveAll w.test = .ok () ∧
    ∃ body t, Statement.checkAll w.body
        (c.entered { kind := .branch, rows := c.nesting.inner.rows }) = (.ok body, t) ∧
      t.left = d ∧ d.nesting.states = outcome := by
  unfold alone
  simp only [bind_ok, resolveAll_eq, child_none_bind, within_eq]
  constructor
  · rintro ⟨_, _, ⟨htest, rfl⟩, body, _, ⟨t, hbody, rfl⟩, hstates⟩
    cases hstates
    exact ⟨htest, body, t, hbody, rfl, rfl⟩
  · rintro ⟨htest, body, t, hbody, rfl, rfl⟩
    exact ⟨_, _, ⟨htest, rfl⟩, body, _, ⟨t, hbody, rfl⟩, rfl⟩

theorem outcome?_of_alone (h : w.alone c = (.ok outcome, d)) : w.outcome? c = some outcome := by
  unfold outcome?
  rw [h]

theorem alone_of_outcome? (h : w.outcome? c = some outcome) :
    ∃ d, w.alone c = (.ok outcome, d) := by
  unfold outcome? at h
  split at h
  · rename_i d hd
    cases h
    exact ⟨d, hd⟩
  · cases h

/-- A way whose loops all have labels changes nothing but states. -/
theorem alone_onlyStates (hw : ∀ s ∈ w.body, s.Everywhere Statement.IsNamed)
    (h : w.alone c = (.ok outcome, d)) : c.OnlyStates d := by
  obtain ⟨_, body, t, hbody, rfl, _⟩ := alone_ok.1 h
  exact ⟨((Statement.checkAll_onward w.body).apply hbody).left,
    ((Statement.labels_of_named hw).apply hbody).symm⟩

end Way

/-- Takes ways one after the other, each from the states before all of them. -/
def Check.takeAll (before : List CursorState) : List Way → Check (List (List CursorState))
  | [] => pure []
  | w :: ws => do
    setStates before
    let outcome ← w.alone
    let outcomes ← takeAll before ws
    pure (outcome :: outcomes)

namespace Check

variable {before outcome : List CursorState} {outcomes : List (List CursorState)} {w : Way}
  {ws later : List Way} {c c' d u : Checker}

theorem takeAll_cons_ok : takeAll before (w :: ws) u = (.ok outcomes, d) ↔
    ∃ outcome t rest, w.alone (u.withStates before) = (.ok outcome, t) ∧
      takeAll before ws t = (.ok rest, d) ∧ outcome :: rest = outcomes := by
  rw [takeAll, setStates_bind]
  simp only [bind_ok, pure_eq, Except.ok.injEq]
  constructor
  · rintro ⟨outcome, t, hw, rest, _, hws, rfl, rfl⟩
    exact ⟨outcome, t, rest, hw, hws, rfl⟩
  · rintro ⟨outcome, t, rest, hw, hws, rfl⟩
    exact ⟨outcome, t, hw, rest, _, hws, rfl, rfl⟩

theorem takeAll_append_ok : takeAll before (ws ++ later) u = (.ok outcomes, d) ↔
    ∃ first t rest, takeAll before ws u = (.ok first, t) ∧
      takeAll before later t = (.ok rest, d) ∧ first ++ rest = outcomes := by
  induction ws generalizing u outcomes with
  | nil =>
    constructor
    · intro h
      exact ⟨[], u, outcomes, rfl, h, rfl⟩
    · rintro ⟨_, _, rest, h, hrest, rfl⟩
      cases h
      exact hrest
  | cons w ws ih =>
    simp only [List.cons_append, takeAll_cons_ok, ih]
    constructor
    · rintro ⟨outcome, t, _, hw, ⟨first, r, rest, hws, hlater, rfl⟩, rfl⟩
      exact ⟨outcome :: first, r, rest, ⟨outcome, t, first, hw, hws, rfl⟩, hlater, rfl⟩
    · rintro ⟨_, r, rest, ⟨outcome, t, first, hw, hws, rfl⟩, hlater, rfl⟩
      exact ⟨outcome, t, _, hw, ⟨first, r, rest, hws, hlater, rfl⟩, rfl⟩

/-- Ways one after the other are accepted where each of them is on its own. -/
theorem takeAll_ok_iff (hws : ∀ w ∈ ws, ∀ s ∈ w.body, s.Everywhere Statement.IsNamed)
    (hu : c.OnlyStates u) :
    (∃ d, takeAll c.nesting.states ws u = (.ok outcomes, d) ∧ c.OnlyStates d) ↔
      (∀ w ∈ ws, (w.outcome? c).isSome = true) ∧ ws.filterMap (·.outcome? c) = outcomes := by
  induction ws generalizing u outcomes with
  | nil =>
    constructor
    · rintro ⟨d, h, _⟩
      cases h
      exact ⟨nofun, rfl⟩
    · rintro ⟨_, rfl⟩
      exact ⟨u, rfl, hu⟩
  | cons w ws ih =>
    obtain ⟨hw, hws⟩ := List.forall_mem_cons.1 hws
    simp only [takeAll_cons_ok, hu.restored, List.forall_mem_cons]
    constructor
    · rintro ⟨d, ⟨outcome, t, rest, halone, hrest, rfl⟩, hd⟩
      obtain ⟨hsome, rfl⟩ := (ih hws (Way.alone_onlyStates hw halone)).1 ⟨d, hrest, hd⟩
      have houtcome := Way.outcome?_of_alone halone
      exact ⟨⟨Option.isSome_iff_exists.2 ⟨outcome, houtcome⟩, hsome⟩,
        List.filterMap_cons_some houtcome⟩
    · rintro ⟨⟨hsome, hrest⟩, rfl⟩
      obtain ⟨outcome, houtcome⟩ := Option.isSome_iff_exists.1 hsome
      obtain ⟨t, halone⟩ := Way.alone_of_outcome? houtcome
      obtain ⟨d, hd, honly⟩ := (ih hws (Way.alone_onlyStates hw halone)).2 ⟨hrest, rfl⟩
      have hcons : (w :: ws).filterMap (·.outcome? c) = outcome :: ws.filterMap (·.outcome? c) :=
        List.filterMap_cons_some houtcome
      exact ⟨d, ⟨outcome, t, _, halone, hd, hcons.symm⟩, honly⟩

theorem takeAll_onlyStates (hws : ∀ w ∈ ws, ∀ s ∈ w.body, s.Everywhere Statement.IsNamed)
    (h : takeAll before ws u = (.ok outcomes, d)) : u.OnlyStates d := by
  induction ws generalizing u outcomes with
  | nil =>
    cases h
    exact .refl d
  | cons w ws ih =>
    obtain ⟨hw, hws⟩ := List.forall_mem_cons.1 hws
    obtain ⟨_, t, _, halone, hrest, _⟩ := takeAll_cons_ok.1 h
    exact ((u.onlyStates_withStates before).trans (Way.alone_onlyStates hw halone)).trans
      (ih hws hrest)

end Check

/-! ## Statements that branch -/

section

variable {before : List CursorState} {outcomes all : List (List CursorState)} {c c' : Checker}

theorem IfBranch.checkAll_ways (branches : List IfBranch) :
    (∃ branches', IfBranch.checkAll before branches c = (.ok (branches', outcomes), c')) ↔
      takeAll before (branches.map (·.way)) c = (.ok outcomes, c') := by
  induction branches generalizing c outcomes with
  | nil =>
    constructor
    · rintro ⟨_, h⟩
      cases h
      rfl
    · intro h
      cases h
      exact ⟨[], rfl⟩
  | cons branch branches ih =>
    obtain ⟨test, body⟩ := branch
    rw [List.map_cons, takeAll_cons_ok]
    simp only [checkAll_cons_ok, ← ih, Way.alone_ok]
    constructor
    · rintro ⟨_, htest, body', t, rest, outcomes, hbody, hrest, he⟩
      cases he
      exact ⟨_, _, outcomes, ⟨htest, body', t, hbody, rfl, rfl⟩, ⟨rest, hrest⟩, rfl⟩
    · rintro ⟨_, _, outcomes, ⟨htest, body', t, hbody, rfl, rfl⟩, ⟨rest, hrest⟩, rfl⟩
      exact ⟨_, htest, body', t, rest, outcomes, hbody, hrest, rfl⟩

theorem CaseWhen.checkAll_ways (whens : List CaseWhen) :
    (∃ whens', CaseWhen.checkAll before whens c = (.ok (whens', outcomes), c')) ↔
      takeAll before (whens.map (·.way)) c = (.ok outcomes, c') := by
  induction whens generalizing c outcomes with
  | nil =>
    constructor
    · rintro ⟨_, h⟩
      cases h
      rfl
    · intro h
      cases h
      exact ⟨[], rfl⟩
  | cons arm whens ih =>
    obtain ⟨test, body⟩ := arm
    rw [List.map_cons, takeAll_cons_ok]
    simp only [checkAll_cons_ok, ← ih, Way.alone_ok]
    constructor
    · rintro ⟨_, htest, body', t, rest, outcomes, hbody, hrest, he⟩
      cases he
      exact ⟨_, _, outcomes, ⟨htest, body', t, hbody, rfl, rfl⟩, ⟨rest, hrest⟩, rfl⟩
    · rintro ⟨_, _, outcomes, ⟨htest, body', t, hbody, rfl, rfl⟩, ⟨rest, hrest⟩, rfl⟩
      exact ⟨_, htest, body', t, rest, outcomes, hbody, hrest, rfl⟩

/-- The check of what is done if no branch is taken is the check of one more way. -/
theorem Statement.checkElse_way (otherwise : Option (List Statement)) :
    (∃ otherwise' outcome, checkElse before otherwise c = (.ok (otherwise', outcome), c') ∧
        [outcome] = outcomes) ↔
      ∃ last, takeAll before (Fork.elseWay otherwise) c = (.ok last, c') ∧
        last ++ Fork.staying otherwise before = outcomes := by
  cases otherwise with
  | none =>
    constructor
    · rintro ⟨_, _, h, rfl⟩
      cases h
      exact ⟨[], rfl, rfl⟩
    · rintro ⟨_, h, rfl⟩
      cases h
      exact ⟨none, before, rfl, rfl⟩
  | some body =>
    simp only [checkElse_some_ok, Fork.elseWay, Option.map_some, Option.toList_some,
      takeAll_cons_ok, Way.alone_ok]
    constructor
    · rintro ⟨_, _, ⟨body', t, hbody, rfl, he⟩, rfl⟩
      cases he
      exact ⟨_, ⟨_, _, [], ⟨rfl, body', t, hbody, rfl, rfl⟩, rfl, rfl⟩, rfl⟩
    · rintro ⟨_, ⟨_, _, _, ⟨_, body', t, hbody, rfl, rfl⟩, hrest, rfl⟩, rfl⟩
      cases hrest
      exact ⟨some body', _, ⟨body', t, hbody, rfl, rfl⟩, rfl⟩

/-- Branches and then what is done if none is taken are ways one after the other. -/
theorem Check.takeAll_allWays (f : Fork) :
    (∃ outcomes t otherwise outcome, takeAll before f.ways c = (.ok outcomes, t) ∧
        Statement.checkElse before f.otherwise t = (.ok (otherwise, outcome), c') ∧
        outcomes ++ [outcome] = all) ↔
      ∃ outcomes, takeAll before f.allWays c = (.ok outcomes, c') ∧
        outcomes ++ Fork.staying f.otherwise before = all := by
  unfold Fork.allWays
  simp only [takeAll_append_ok]
  constructor
  · rintro ⟨outcomes, t, otherwise, outcome, hways, helse, rfl⟩
    obtain ⟨last, hlast, he⟩ :=
      (Statement.checkElse_way f.otherwise).1 ⟨otherwise, outcome, helse, rfl⟩
    refine ⟨_, ⟨outcomes, t, last, hways, hlast, rfl⟩, ?_⟩
    rw [List.append_assoc, he]
  · rintro ⟨_, ⟨outcomes, t, last, hways, hlast, rfl⟩, rfl⟩
    obtain ⟨otherwise, outcome, helse, he⟩ :=
      (Statement.checkElse_way f.otherwise).2 ⟨last, hlast, rfl⟩
    refine ⟨outcomes, t, otherwise, outcome, hways, helse, ?_⟩
    rw [List.append_assoc, he]

end

namespace Statement

variable {s t : Statement} {f : Fork} {c c' : Checker}

/-- What is checked of a statement that branches are its ways, one after the other. -/
theorem check_fork (hf : s.fork? = some f) : (∃ s', s.check c = (.ok s', c')) ↔
    c.noted.nesting.resolveAll f.operand = .ok () ∧ ∃ all u,
      (∃ outcomes, takeAll c.noted.nesting.states f.allWays c.noted = (.ok outcomes, u) ∧
        outcomes ++ Fork.staying f.otherwise c.noted.nesting.states = all) ∧
      u.withStates (Nesting.agreedStates c.noted.nesting.states.length all) = c' := by
  simp only [← takeAll_allWays]
  cases s with
  | ifElse branches otherwise =>
    cases hf
    simp only [check_ifElse_ok, ← IfBranch.checkAll_ways]
    constructor
    · rintro ⟨_, branches', outcomes, t, otherwise', outcome, u, hbranches, helse, rfl, rfl⟩
      exact ⟨rfl, _, u, ⟨outcomes, t, otherwise', outcome, ⟨branches', hbranches⟩, helse, rfl⟩, rfl⟩
    · rintro ⟨-, _, u, ⟨outcomes, t, otherwise', outcome, ⟨branches', hbranches⟩, helse, rfl⟩, rfl⟩
      exact ⟨_, branches', outcomes, t, otherwise', outcome, u, hbranches, helse, rfl, rfl⟩
  | cases operand whens otherwise =>
    cases hf
    simp only [check_cases_ok, ← CaseWhen.checkAll_ways]
    constructor
    · rintro ⟨_, hoperand, whens', outcomes, t, otherwise', outcome, u, hwhens, helse, rfl, rfl⟩
      exact ⟨hoperand, _, u, ⟨outcomes, t, otherwise', outcome, ⟨whens', hwhens⟩, helse, rfl⟩, rfl⟩
    · rintro ⟨hoperand, _, u, ⟨outcomes, t, otherwise', outcome, ⟨whens', hwhens⟩, helse, rfl⟩,
        rfl⟩
      exact ⟨_, hoperand, whens', outcomes, t, otherwise', outcome, u, hwhens, helse, rfl, rfl⟩
  | _ => cases hf

/-- A fork whose loops all have labels is checked as its ways are on their own. -/
theorem check_fork_iff (hf : s.fork? = some f)
    (hnamed : ∀ w ∈ f.allWays, ∀ t ∈ w.body, t.Everywhere IsNamed) :
    (∃ s', s.check c = (.ok s', c')) ↔ c.noted.nesting.resolveAll f.operand = .ok () ∧
      (∀ w ∈ f.allWays, (w.outcome? c.noted).isSome = true) ∧ c' = f.merged c.noted := by
  rw [check_fork hf]
  refine and_congr_right fun _ => ?_
  have hcount (outcomes : List (List CursorState)) : c.noted.nesting.states.length =
      (Nesting.agreedStates c.noted.nesting.states.length outcomes).length :=
    (Nesting.length_agreedStates _ _).symm
  constructor
  · rintro ⟨_, u, ⟨outcomes, hways, rfl⟩, rfl⟩
    have hu := takeAll_onlyStates hnamed hways
    obtain ⟨hsome, rfl⟩ := (takeAll_ok_iff hnamed (.refl c.noted)).1 ⟨u, hways, hu⟩
    exact ⟨hsome, hu.withStates (hcount _)⟩
  · rintro ⟨hsome, rfl⟩
    obtain ⟨u, hways, hu⟩ := (takeAll_ok_iff hnamed (.refl c.noted)).2 ⟨hsome, rfl⟩
    exact ⟨_, u, ⟨_, hways, rfl⟩, hu.withStates (hcount _)⟩

/-- The statements of the ways are among those that the statement holds. -/
theorem body_of_way (hf : s.fork? = some f) {w : Way} (hw : w ∈ f.allWays) : w.body ∈ s.held := by
  have helse (otherwise : Option (List Statement)) (hw : w ∈ Fork.elseWay otherwise) :
      w.body ∈ otherwise.toList := by
    obtain ⟨body, hbody, rfl⟩ := Option.map_eq_some_iff.1 (Option.mem_toList.1 hw)
    exact Option.mem_toList.2 hbody
  cases s with
  | ifElse branches otherwise =>
    cases hf
    rcases List.mem_append.1 hw with hw | hw
    · obtain ⟨b, hb, rfl⟩ := List.mem_map.1 hw
      exact List.mem_append_left _ (List.mem_map_of_mem hb)
    · exact List.mem_append_right _ (helse otherwise hw)
  | cases operand whens otherwise =>
    cases hf
    rcases List.mem_append.1 hw with hw | hw
    · obtain ⟨arm, harm, rfl⟩ := List.mem_map.1 hw
      exact List.mem_append_left _ (List.mem_map_of_mem harm)
    · exact List.mem_append_right _ (helse otherwise hw)
  | _ => cases hf

end Statement

namespace Fork

variable {f : Fork} {c : Checker} {ways : List Way}

theorem allWays_perm (h : f.ways.Perm ways) : f.allWays.Perm ({ f with ways } : Fork).allWays :=
  h.append_right _

theorem merged_perm (h : f.ways.Perm ways) : ({ f with ways } : Fork).merged c = f.merged c := by
  have houtcomes : ({ f with ways } : Fork).outcomes c |>.Perm (f.outcomes c) :=
    ((allWays_perm h).symm.filterMap _).append_right _
  unfold merged
  rw [Nesting.agreedStates_perm _ houtcomes]

theorem states_merged (f : Fork) (c : Checker) : (f.merged c).nesting.states =
    Nesting.agreedStates c.nesting.states.length (f.outcomes c) :=
  Nesting.states_withStates (Nesting.length_agreedStates _ _).symm

/-- There is an outcome, since a way is taken or the states stay. -/
theorem outcomes_ne_nil (h : ∀ w ∈ f.allWays, (w.outcome? c).isSome = true) :
    f.outcomes c ≠ [] := by
  intro hnil
  obtain ⟨hways, hstaying⟩ := List.append_eq_nil_iff.1 hnil
  rcases hf : f.otherwise with _ | body
  · rw [hf] at hstaying
    cases hstaying
  · have hbody : (⟨[], body⟩ : Way) ∈ f.allWays := by
      rw [allWays, hf]
      exact List.mem_append_right _ (.head _)
    obtain ⟨o, ho⟩ := Option.isSome_iff_exists.1 (h _ hbody)
    have hmem : o ∈ f.allWays.filterMap (·.outcome? c) := List.mem_filterMap.2 ⟨_, hbody, ho⟩
    rw [hways] at hmem
    cases hmem

theorem length_of_mem_outcomes {o : List CursorState} (ho : o ∈ f.outcomes c) :
    o.length = c.nesting.states.length := by
  rcases List.mem_append.1 ho with ho | ho
  · obtain ⟨w, _, hw⟩ := List.mem_filterMap.1 ho
    obtain ⟨d, hd⟩ := Way.alone_of_outcome? hw
    obtain ⟨_, body, t, hbody, rfl, rfl⟩ := Way.alone_ok.1 hd
    exact ((Statement.checkAll_onward w.body).apply hbody).left.length_states
  · unfold staying at ho
    split at ho
    · rw [List.mem_singleton.1 ho]
    · cases ho

end Fork

theorem Checker.states_noted (c : Checker) : c.noted.nesting.states = c.nesting.states := by
  have hinner : c.nesting.inner.noteStatement.states = c.nesting.inner.states := by
    rw [Scope.noteStatement_eq]
    rfl
  exact congrArg (· ++ c.nesting.outer.flatMap Scope.states) hinner

/-- **Branches are independent.** A conditional or a case whose loops all have labels is accepted
where its operand and each of its branches on its own are, and nothing but states has changed after
it: each cursor has the state that it has in all outcomes, and an indeterminate one if two outcomes
differ. So the order of the branches does not matter. -/
theorem branches_independent {s : Statement} {f : Fork} (hf : s.fork? = some f)
    (hs : s.Everywhere Statement.IsNamed) (c : Checker) :
    (∀ c', (∃ s', s.check c = (.ok s', c')) ↔ c.noted.nesting.resolveAll f.operand = .ok () ∧
      (∀ w ∈ f.allWays, (w.outcome? c.noted).isSome = true) ∧ c' = f.merged c.noted) ∧
    (∀ s' c', s.check c = (.ok s', c') → ∀ i < c.nesting.states.length, ∀ state,
      c'.nesting.states[i]? = some state ↔ (∀ o ∈ f.outcomes c.noted, o[i]? = some state) ∨
        state = .indeterminate ∧
          ∃ o ∈ f.outcomes c.noted, ∃ o' ∈ f.outcomes c.noted, o[i]? ≠ o'[i]?) ∧
    ∀ t, s.Permuted t → ∀ c',
      (∃ s', s.check c = (.ok s', c')) ↔ ∃ t', t.check c = (.ok t', c') := by
  have hnamed : ∀ w ∈ f.allWays, ∀ t ∈ w.body, t.Everywhere Statement.IsNamed :=
    fun w hw => hs.held (Statement.body_of_way hf hw)
  have hcheck (c' : Checker) : (∃ s', s.check c = (.ok s', c')) ↔
      c.noted.nesting.resolveAll f.operand = .ok () ∧
        (∀ w ∈ f.allWays, (w.outcome? c.noted).isSome = true) ∧ c' = f.merged c.noted :=
    Statement.check_fork_iff hf hnamed
  refine ⟨hcheck, fun s' c' h i hi state => ?_, fun t ht c' => ?_⟩
  · obtain ⟨_, hsome, rfl⟩ := (hcheck c').1 ⟨s', h⟩
    rw [Fork.states_merged]
    exact Nesting.getElem?_agreedStates (c.states_noted.symm ▸ hi) (Fork.outcomes_ne_nil hsome)
      fun _ => Fork.length_of_mem_outcomes
  · obtain ⟨ways, hg, hperm⟩ := ht.fork hf
    have hall := Fork.allWays_perm hperm
    rw [hcheck c', Statement.check_fork_iff hg fun w hw => hnamed w (hall.mem_iff.2 hw),
      Fork.merged_perm hperm]
    refine and_congr_right fun _ => and_congr_left fun _ => ?_
    exact forall_congr' fun w => imp_congr_left hall.mem_iff

/-- A conditional that opens a cursor, in a loop, in one branch only. -/
def opensInOne : Statement := .ifElse
  [⟨.isTrue (.variable "x"), [.loop (some "again") [.openCursor "c", .leave "again"]]⟩,
    ⟨.isTrue (.variable "x"), [.set [("x", .literal (.int 1))]]⟩] none

/-- A block that has declared a variable and a cursor. -/
def withCursor : Checker where
  nesting := ⟨{ kind := .block, variableNames := ["x"], cursors := [⟨"c", .declared⟩] }, []⟩
  labels := ⟨"loop", 0⟩

/-- What one branch opens and the others do not is indeterminate. -/
theorem opensInOne_disagrees : ∃ f, opensInOne.fork? = some f ∧
    opensInOne.Everywhere Statement.IsNamed ∧
    f.outcomes withCursor.noted = [[.opened], [.declared], [.declared]] ∧
    ∃ s' c', opensInOne.check withCursor = (.ok s', c') ∧
      c'.nesting.states[0]? = some .indeterminate := by
  have hfork : opensInOne.fork? = some _ := rfl
  have hleaf {t : Statement} (ht : t.scopeKind? = none) : t.Everywhere Statement.IsNamed := by
    intro levels u hu hloop
    rw [(hu.of_leaf ht).2, ht] at hloop
    cases hloop
  have hnamed : opensInOne.Everywhere Statement.IsNamed := by
    refine Statement.everywhere_iff.2 ⟨nofun, ?_⟩
    simp only [opensInOne, Statement.held, List.map_cons, List.map_nil, Option.toList_none,
      List.append_nil, IfBranch.statements, List.forall_mem_cons, List.not_mem_nil, false_imp_iff,
      implies_true, and_true]
    refine ⟨Statement.everywhere_iff.2 ⟨fun _ => rfl, ?_⟩, hleaf rfl⟩
    simpa only [Statement.held, List.forall_mem_singleton, List.forall_mem_cons] using
      ⟨hleaf rfl, hleaf rfl⟩
  obtain ⟨hcheck, hstates, _⟩ := branches_independent hfork hnamed withCursor
  obtain ⟨s', h⟩ := (hcheck _).2 ⟨rfl, by decide +kernel, rfl⟩
  refine ⟨_, hfork, hnamed, by decide +kernel, s', _, h, ?_⟩
  refine (hstates s' _ h 0 (by decide) .indeterminate).2
    (.inr ⟨rfl, [.opened], ?_, [.declared], ?_⟩)
  all_goals decide +kernel

end StoredSql
