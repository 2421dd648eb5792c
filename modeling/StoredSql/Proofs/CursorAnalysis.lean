import StoredSql.Proofs.CursorStates
import StoredSql.Proofs.CursorVisits
import StoredSql.Proofs.Residue

/-!
# The cursors of a checked program

A check follows the cursors through all runs at once. Each step of it keeps them as it knows them:
statements that do nothing with cursors, those that do something with one, and branches, where it goes
on with what they agree on (`Runs.allows`). So where a check succeeds it knows the cursors after every
run, and where it fails over one, no run gets past that place (`cursors_exact`).
-/

namespace StoredSql

open Check Stepwise Statement

/-! ## Steps that leave cursors alone -/

/-- Nothing differs in the cursors. -/
def Checker.SameCursors (c c' : Checker) : Prop :=
  c'.nesting.scopes.map (·.cursors) = c.nesting.scopes.map (·.cursors)

instance : Std.Refl Checker.SameCursors where
  refl _ := rfl

instance : Trans Checker.SameCursors Checker.SameCursors Checker.SameCursors where
  trans h h' := Eq.trans h' h

theorem Checker.SameKnown.cursors {c c' : Checker} (h : c.SameKnown c') : c.SameCursors c' := by
  have hcursors := congrArg (List.map (·.2.2)) h
  simpa [Checker.SameCursors, Checker.known, Function.comp_def] using hcursors

namespace Check

theorem noteStatement_cursors : Keeps Checker.SameCursors noteStatement :=
  noteStatement_known.imp Checker.SameKnown.cursors

theorem declareIn_cursors {phase : DeclarationPhase} {what : String} {taken : Scope → Bool}
    {twice : Error} {add : Scope → Scope} (hadd : ∀ s, (add s).cursors = s.cursors) :
    Keeps Checker.SameCursors (declare (·.declareIn phase what taken twice add)) := by
  intro c
  have hinner : (c.nesting.inner.declareIn phase what taken twice add).2.cursors =
      c.nesting.inner.cursors := by
    unfold Scope.declareIn
    rcases h : c.nesting.inner.enterPhase phase what with e | s
    · exact rfl
    · obtain ⟨rfl, _⟩ := Scope.enterPhase_eq h
      dsimp only
      split
      · exact rfl
      · rw [hadd]
  exact congrArg (fun cs => cs :: c.nesting.outer.map (·.cursors)) hinner

theorem declareVariable_cursors (name : String) :
    Keeps Checker.SameCursors (declare (·.declareVariable name)) :=
  declareIn_cursors fun _ => rfl

end Check

/-- Past a statement that does nothing with cursors they are as they were. -/
theorem Statement.check_plain : ∀ {s : Statement}, s.isPlain = true →
    Keeps Checker.SameCursors s.check
  | .foreign _, _ => .throw _
  | .delimiter _, _ => .throw _
  | .empty, _ => .pure _
  | .declareVariables names _ _, _ =>
    .bind (ask_keeps _) fun _ =>
      .bind (forM_keeps declareVariable_cursors names) fun _ => .pure _
  | .declareCondition _ _, _ => .bind (declareIn_cursors fun _ => rfl) fun _ => .pure _
  | .declareHandler action conditions body, _ =>
    (handler_known action conditions body).imp Checker.SameKnown.cursors
  | .iterate _, _ => .bind noteStatement_cursors fun _ => .bind (ask_keeps _) fun _ => .pure _
  | .select _, _ =>
    .bind noteStatement_cursors fun _ => .bind (ask_keeps _) fun _ => .bind (ask_keeps _) fun _ =>
      .pure _
  | .insert _, _ => .bind noteStatement_cursors fun _ => .bind (ask_keeps _) fun _ => .pure _
  | .set pairs, _ =>
    .bind noteStatement_cursors fun _ => .bind (assignments_keeps pairs) fun _ => .pure _
  | .call _ _, _ => .bind noteStatement_cursors fun _ => .bind (ask_keeps _) fun _ => .pure _
  | .signal _ _ _, _ =>
    .bind noteStatement_cursors fun _ => .bind (ask_keeps _) fun _ => .bind (ask_keeps _) fun _ =>
      .pure _
  | .raw sql, _ =>
    .bind noteStatement_cursors fun _ => .bind (rawText_keeps sql) fun _ => .pure _

/-! ## Steps that do something with a cursor -/

namespace Statement

variable {s s' : Statement} {verb : CursorVerb} {name : String} {c c' : Checker} {e : Error}

theorem check_use_ok (hs : s.cursorUse? = some (verb, name)) (h : s.check c = (.ok s', c')) :
    c.noted.nesting.useCursor verb name = .ok c'.nesting := by
  cases s with
  | openCursor _ =>
    cases hs
    rw [check, noteStatement_bind] at h
    obtain ⟨_, t, hchange, hgive⟩ := bind_ok.1 h
    cases hgive
    exact change_ok hchange
  | fetch _ _ =>
    cases hs
    rw [check, noteStatement_bind] at h
    obtain ⟨_, t, hfetch, hgive⟩ := bind_ok.1 h
    cases hgive
    obtain ⟨_, _, hcursor, hfetch⟩ := bind_ok.1 hfetch
    obtain ⟨_, rfl⟩ := ask_eq.1 hcursor
    obtain ⟨_, _, htargets, hchange⟩ := bind_ok.1 hfetch
    obtain ⟨_, rfl⟩ := ask_eq.1 htargets
    exact change_ok hchange
  | closeCursor _ =>
    cases hs
    rw [check, noteStatement_bind] at h
    obtain ⟨_, t, hchange, hgive⟩ := bind_ok.1 h
    cases hgive
    exact change_ok hchange
  | _ => cases hs

/-- A check that fails over the state of a cursor has been refused what is to be done with it. -/
theorem check_use_error (hs : s.cursorUse? = some (verb, name)) (h : s.check c = (.error e, c'))
    (he : e.isCursorState = true) : c.noted.nesting.useCursor verb name = .error e := by
  cases s with
  | openCursor _ =>
    cases hs
    rw [check, noteStatement_bind] at h
    rcases bind_error.1 h with hchange | ⟨_, _, _, hgive⟩
    · exact change_error hchange
    · cases hgive
  | fetch name targets =>
    cases hs
    rw [check, noteStatement_bind] at h
    rcases bind_error.1 h with hfetch | ⟨_, _, _, hgive⟩
    · rcases bind_error.1 hfetch with hcursor | ⟨_, _, hcursor, hfetch⟩
      · obtain ⟨hnone, _⟩ := ask_eq.1 hcursor
        unfold Nesting.useCursor
        rw [hnone]
        exact rfl
      · obtain ⟨_, rfl⟩ := ask_eq.1 hcursor
        rcases bind_error.1 hfetch with htargets | ⟨_, _, htargets, hchange⟩
        · exact not_spared (resolveTargets_spares targets c.noted) (congrArg Prod.fst htargets) he
        · obtain ⟨_, rfl⟩ := ask_eq.1 htargets
          exact change_error hchange
    · cases hgive
  | closeCursor _ =>
    cases hs
    rw [check, noteStatement_bind] at h
    rcases bind_error.1 h with hchange | ⟨_, _, _, hgive⟩
    · exact change_error hchange
    · cases hgive
  | _ => cases hs

/-- A cursor that is declared comes behind the others of its scope. -/
theorem check_declareCursor_ok {query : SelectQuery}
    (h : (declareCursor name query).check c = (.ok s', c')) :
    c'.nesting.outer = c.nesting.outer ∧
      c'.nesting.inner.cursors = c.nesting.inner.cursors ++ [⟨name, .declared⟩] := by
  rw [check] at h
  obtain ⟨_, _, hnames, h⟩ := bind_ok.1 h
  obtain ⟨_, rfl⟩ := resolveAll_eq.1 hnames
  obtain ⟨_, t, hdeclare, hgive⟩ := bind_ok.1 h
  cases hgive
  obtain ⟨r, hr, rfl⟩ := declare_eq.1 hdeclare
  obtain ⟨_, hphase, _, rfl⟩ := Scope.declareIn_eq_ok.1 hr
  obtain ⟨rfl, _⟩ := Scope.enterPhase_eq hphase
  exact ⟨rfl, rfl⟩

end Statement

/-! ## Into a construct and out of it -/

section Inside

variable {c c' t u : Checker} {e : Live}

theorem Checker.allows_noted (h : c.nesting.Allows e) : c.noted.nesting.Allows e :=
  h.congr (noteStatement_cursors c)

theorem Checker.allows_entered {kind : ScopeKind} {label : Option String} {scope : Scope}
    (h : c.nesting.Allows e) (hscope : c.nesting.child kind label = .ok scope) :
    (c.entered scope).nesting.Allows e.enter := by
  obtain ⟨_, rfl⟩ := Nesting.child_eq_ok.1 hscope
  exact h.enter rfl

/-- Each branch is checked with the cursors as they are in front of all of them. -/
theorem Checker.allows_branched (h : c.nesting.Allows e) (hstill : c.Still t) :
    (t.branched c.nesting.states).nesting.Allows e.enter := by
  have hback : (t.withStates c.nesting.states).nesting = c.nesting := by
    rw [hstill.withStates rfl, c.withStates_states]
  refine Nesting.Allows.enter ?_ rfl
  rw [hback]
  exact h

/-- Behind the branches the check goes on with what they agree on. -/
theorem Checker.allows_merged {outcomes : List (List CursorState)} {count : Nat}
    (h : u.nesting.Allows e) (hstill : u.Still c') (hcount : c'.nesting.states.length = count)
    (hmem : u.nesting.states ∈ outcomes) :
    (c'.withStates (Nesting.agreedStates count outcomes)).nesting.Allows e := by
  obtain rfl := hcount.symm.trans hstill.length_states
  have hcovers := Nesting.agreedStates_covers hmem
  have hlen := hcovers.length_eq.symm
  rw [hstill.withStates hlen]
  exact h.withStates hcovers

theorem IfBranch.checkAll_mem {before : List CursorState} {branches branches' : List IfBranch}
    {outcomes : List (List CursorState)} {body : List Statement}
    (h : IfBranch.checkAll before branches c = (.ok (branches', outcomes), c'))
    (hmem : body ∈ branches.map fun ⟨_, ss⟩ => ss) : ∃ t body' u, c.Still t ∧
      Statement.checkAll body (t.branched before) = (.ok body', u) ∧ u.left.Still c' ∧
      u.left.nesting.states ∈ outcomes := by
  induction branches generalizing c branches' outcomes with
  | nil => cases hmem
  | cons branch branches ih =>
    obtain ⟨test, first⟩ := branch
    obtain ⟨_, checked, u, rest, outcomes', hbody, hrest, he⟩ := IfBranch.checkAll_cons_ok.1 h
    cases he
    have hstill := (IfBranch.checkAll_still before branches).apply hrest
    rcases List.mem_cons.1 hmem with rfl | hmem
    · exact ⟨c, checked, u, rfl, hbody, hstill, List.mem_cons_self⟩
    · have hleft : c.Still u.left := Trans.trans (c.still_withStates before)
        ((Statement.checkAll_onward first).apply hbody).left
      obtain ⟨t, checked', u', ht, hchecked, hu', hout⟩ := ih hrest hmem
      exact ⟨t, checked', u', Trans.trans hleft ht, hchecked, hu', List.mem_cons_of_mem _ hout⟩

theorem CaseWhen.checkAll_mem {before : List CursorState} {whens whens' : List CaseWhen}
    {outcomes : List (List CursorState)} {body : List Statement}
    (h : CaseWhen.checkAll before whens c = (.ok (whens', outcomes), c'))
    (hmem : body ∈ whens.map fun ⟨_, ss⟩ => ss) : ∃ t body' u, c.Still t ∧
      Statement.checkAll body (t.branched before) = (.ok body', u) ∧ u.left.Still c' ∧
      u.left.nesting.states ∈ outcomes := by
  induction whens generalizing c whens' outcomes with
  | nil => cases hmem
  | cons arm whens ih =>
    obtain ⟨test, first⟩ := arm
    obtain ⟨_, checked, u, rest, outcomes', hbody, hrest, he⟩ := CaseWhen.checkAll_cons_ok.1 h
    cases he
    have hstill := (CaseWhen.checkAll_still before whens).apply hrest
    rcases List.mem_cons.1 hmem with rfl | hmem
    · exact ⟨c, checked, u, rfl, hbody, hstill, List.mem_cons_self⟩
    · have hleft : c.Still u.left := Trans.trans (c.still_withStates before)
        ((Statement.checkAll_onward first).apply hbody).left
      obtain ⟨t, checked', u', ht, hchecked, hu', hout⟩ := ih hrest hmem
      exact ⟨t, checked', u', Trans.trans hleft ht, hchecked, hu', List.mem_cons_of_mem _ hout⟩

/-- What is done otherwise is checked as a branch, with no statements if nothing is to be done. -/
theorem Statement.checkElse_inside {before outcome : List CursorState}
    {otherwise otherwise' : Option (List Statement)}
    (h : checkElse before otherwise c = (.ok (otherwise', outcome), c'))
    (hlen : c.nesting.states.length = before.length) : ∃ body' u,
      checkAll (otherwise.getD []) (c.branched before) = (.ok body', u) ∧ u.left.Still c' ∧
        u.left.nesting.states = outcome := by
  cases otherwise with
  | none =>
    cases h
    exact ⟨[], c.branched before, rfl, (c.still_withStates before).symm,
      Nesting.states_withStates hlen⟩
  | some body =>
    obtain ⟨body', u, hbody, rfl, he⟩ := checkElse_some_ok.1 h
    cases he
    exact ⟨body', u, hbody, rfl, rfl⟩

end Inside

namespace Statement

variable {s s' : Statement} {body : List Statement} {c c' : Checker}

/-- Branches, or arms, and what is done otherwise: each is checked from the cursors in front of them,
and what they agree on covers what each of them leaves. -/
theorem branches_inside {bs : List (List Statement)} {otherwise otherwise' : Option (List Statement)}
    {outcomes : List (List CursorState)} {outcome : List CursorState} {t w : Checker}
    (hstill : c.Still t)
    (helse : checkElse c.nesting.states otherwise t = (.ok (otherwise', outcome), w))
    (hbs : ∀ body ∈ bs, ∃ d body' u, c.Still d ∧
      checkAll body (d.branched c.nesting.states) = (.ok body', u) ∧ u.left.Still t ∧
      u.left.nesting.states ∈ outcomes)
    (hbody : body ∈ bs ++ [otherwise.getD []]) : ∃ d body' u, checkAll body d = (.ok body', u) ∧
      (∀ e, c.nesting.Allows e → d.nesting.Allows e.enter) ∧
      ∀ e, u.left.nesting.Allows e → (w.withStates (Nesting.agreedStates c.nesting.states.length
        (outcomes ++ [outcome]))).nesting.Allows e := by
  have hafter := (checkElse_still _ otherwise).apply helse
  have hcount := (Trans.trans hstill hafter : c.Still w).length_states
  rcases List.mem_append.1 hbody with hbranch | hlast
  · obtain ⟨d, body', u, hd, hchecked, hu, hout⟩ := hbs body hbranch
    have huw : u.left.Still w := Trans.trans hu hafter
    refine ⟨_, body', u, hchecked, fun _ he => Checker.allows_branched he hd, fun _ he => ?_⟩
    exact Checker.allows_merged he huw hcount (List.mem_append_left _ hout)
  · obtain rfl := List.mem_singleton.1 hlast
    obtain ⟨other, u, hother, hu, rfl⟩ := checkElse_inside helse hstill.length_states
    refine ⟨_, other, u, hother, fun _ he => Checker.allows_branched he hstill, fun _ he => ?_⟩
    exact Checker.allows_merged he hu hcount (List.mem_append_right _ List.mem_cons_self)

/-- A check goes every way that a run can go through a construct: it comes to the statements inside
with the cursors that the run has there, and out of the construct with those that the run has left. -/
theorem check_inside (h : s.check c = (.ok s', c')) (hbody : body ∈ s.bodies) :
    ∃ d body' u, checkAll body d = (.ok body', u) ∧
      (∀ e, c.nesting.Allows e → d.nesting.Allows e.enter) ∧
      ∀ e, u.left.nesting.Allows e → c'.nesting.Allows e := by
  cases s with
  | block b =>
    obtain ⟨ss, label, view⟩ := b
    obtain rfl : body = ss := by simpa [bodies] using hbody
    obtain ⟨b', hb, _⟩ := check_block_ok.1 h
    obtain ⟨scope, ss', u, hscope, hss, rfl, _⟩ := Block.check_ok.1 hb
    have hin : ∀ e, c.nesting.Allows e → (c.noted.entered scope).nesting.Allows e.enter :=
      fun e he => Checker.allows_entered (Checker.allows_noted he) hscope
    exact ⟨_, ss', u, hss, hin, fun _ he => he⟩
  | ifElse branches otherwise =>
    obtain ⟨branches', outcomes, t, otherwise', outcome, w, hbranches, helse, rfl, _⟩ :=
      check_ifElse_ok.1 h
    have hstill := (IfBranch.checkAll_still _ branches).apply hbranches
    obtain ⟨d, body', u, hchecked, hin, hout⟩ := branches_inside hstill helse
      (fun _ => IfBranch.checkAll_mem hbranches) hbody
    exact ⟨d, body', u, hchecked, fun e he => hin e (Checker.allows_noted he), hout⟩
  | cases operand whens otherwise =>
    obtain ⟨_, whens', outcomes, t, otherwise', outcome, w, hwhens, helse, rfl, _⟩ :=
      check_cases_ok.1 h
    have hstill := (CaseWhen.checkAll_still _ whens).apply hwhens
    obtain ⟨d, body', u, hchecked, hin, hout⟩ := branches_inside hstill helse
      (fun _ => CaseWhen.checkAll_mem hwhens) hbody
    exact ⟨d, body', u, hchecked, fun e he => hin e (Checker.allows_noted he), hout⟩
  | _ => cases hbody

end Statement

/-! ## Runs beside their check -/

variable {ss ss' : List Statement} {s t : Statement} {c c' d : Checker} {e e' v : Live}

/-- **Behind every run the cursors are as the check knows them.** -/
theorem Runs.allows (h : Runs ss e e') (hcheck : checkAll ss c = (.ok ss', c'))
    (he : c.nesting.Allows e) : c'.nesting.Allows e' := by
  induction h generalizing c c' ss' with
  | done e =>
    cases hcheck
    exact he
  | plain hplain _ ih =>
    obtain ⟨_, t, _, hs, hss, _⟩ := checkAll_cons_ok.1 hcheck
    exact ih hss (he.congr ((check_plain hplain).apply hs))
  | declare _ ih =>
    obtain ⟨_, t, _, hs, hss, _⟩ := checkAll_cons_ok.1 hcheck
    obtain ⟨houter, hinner⟩ := check_declareCursor_ok hs
    exact ih hss (he.declare houter hinner)
  | use hs huse _ ih =>
    obtain ⟨_, t, _, hcheck, hss, _⟩ := checkAll_cons_ok.1 hcheck
    exact ih hss ((Checker.allows_noted he).use (check_use_ok hs hcheck) huse)
  | inside hbody _ _ ihbody ih =>
    obtain ⟨_, t, _, hs, hss, _⟩ := checkAll_cons_ok.1 hcheck
    obtain ⟨d, body', u, hchecked, hin, hout⟩ := check_inside hs hbody
    have hbehind := ihbody hchecked (hin _ he)
    exact ih hss (hout _ hbehind.leave)

/-- A run that comes into a construct comes there with the cursors that the check knows there. -/
theorem Statement.LeadsTo.allows {i : Nat} {body body' : List Statement}
    (h : s.LeadsTo c i body d) (hbody : s.bodies[i]? = some body') (he : c.nesting.Allows e) :
    body' = body ∧ d.nesting.Allows e.enter := by
  have hnoted := Checker.allows_noted he
  cases h with
  | block hscope =>
    cases hbody
    exact ⟨rfl, Checker.allows_entered hnoted hscope⟩
  | branch hearlier _ =>
    have hstill := (IfBranch.checkAll_still _ _).apply hearlier
    refine ⟨?_, Checker.allows_branched hnoted hstill⟩
    simpa [bodies, eq_comm] using hbody
  | noBranch hbranches =>
    have hstill := (IfBranch.checkAll_still _ _).apply hbranches
    refine ⟨?_, Checker.allows_branched hnoted hstill⟩
    simpa [bodies, eq_comm] using hbody
  | arm _ hearlier _ =>
    have hstill := (CaseWhen.checkAll_still _ _).apply hearlier
    refine ⟨?_, Checker.allows_branched hnoted hstill⟩
    simpa [bodies, eq_comm] using hbody
  | noArm _ hwhens =>
    have hstill := (CaseWhen.checkAll_still _ _).apply hwhens
    refine ⟨?_, Checker.allows_branched hnoted hstill⟩
    simpa [bodies, eq_comm] using hbody
  | _ => cases hbody

/-- **A run and a check that come to one place** come to one statement there, and the cursors are as
the check knows them. -/
theorem Visits.allows {place : List Nat} (h : Visits ss c place s d) (hrun : Reaches ss e place t v)
    (he : c.nesting.Allows e) : t = s ∧ d.nesting.Allows v := by
  induction h generalizing e with
  | here =>
    cases hrun
    exact ⟨rfl, he⟩
  | later hs _ ih =>
    cases hrun with
    | later hone hrest =>
      have hchecked := checkAll_singleton_ok.2 ⟨_, hs, rfl⟩
      exact ih hrest (hone.allows hchecked he)
  | inside hleads _ ih =>
    cases hrun with
    | inside hbody hrest =>
      obtain ⟨rfl, hin⟩ := hleads.allows hbody he
      exact ih hrest hin

/-- **The analysis of cursors is exact** for statements without loops. Where the check of a statement
succeeds, it knows the cursors after every run: each is in the state that it has in the run, or in an
indeterminate one. Where it fails over the state of a cursor, it does so at a place where something is
done with one, and that is legal in no run that comes there. The cursors in front of the statement may
be any that the check knows them to be. -/
theorem cursors_exact (s : Statement) (c : Checker) :
    (∀ s' c' e e', s.check c = (.ok s', c') → c.nesting.Allows e → Runs [s] e e' →
      c'.nesting.Allows e') ∧
    ∀ err c', s.check c = (.error err, c') → err.isCursorState = true →
      ∃ place t d d' verb name, Visits [s] c place t d ∧ t.cursorUse? = some (verb, name) ∧
        t.check d = (.error err, d') ∧ ∀ e u v, c.nesting.Allows e → Reaches [s] e place u v →
          u = t ∧ v.use verb name = none := by
  constructor
  · intro s' c' e e' hs he hrun
    exact hrun.allows (checkAll_singleton_ok.2 ⟨s', hs, rfl⟩) he
  · intro err c' hs herr
    obtain ⟨place, t, d, d', ⟨verb, name⟩, hvisits, huse, ht⟩ := located s hs herr
    refine ⟨place, t, d, d', verb, name, hvisits, huse, ht, fun e u v he hrun => ?_⟩
    obtain ⟨rfl, hv⟩ := hvisits.allows hrun he
    exact ⟨rfl, (Checker.allows_noted hv).refused (check_use_error huse ht herr)⟩

/-- A cursor that is declared, as a check knows it. -/
def declaredCursor : Checker :=
  ⟨⟨{ kind := .block, cursors := [⟨"c", .declared⟩] }, [{ kind := .program }]⟩, ⟨"loop", 0⟩⟩

/-- The cursors of a run, of which one is declared, in a state. -/
def oneCursor (state : LiveState) : Live := ⟨[⟨"c", state⟩], [[]]⟩

theorem declaredCursor_allows : declaredCursor.nesting.Allows (oneCursor .declared) :=
  .cons (.cons ⟨rfl, .refl _⟩ .nil) (.cons .nil .nil)

/-- A cursor that each branch opens. -/
def openedEither : Statement := .ifElse [⟨.and [], [.openCursor "c"]⟩] (some [.openCursor "C"])

/-- A cursor that one of two branches opens twice. -/
def openedTwice : Statement :=
  .ifElse [⟨.and [], [.openCursor "c"]⟩] (some [.openCursor "c", .openCursor "C"])

/-- A cursor that each branch opens is open behind them, and one that a branch opens twice is refused
where no run gets past. -/
theorem opened_exact : (∃ s' c', openedEither.check declaredCursor = (.ok s', c') ∧
      c'.nesting.Allows (oneCursor .opened)) ∧
    ∃ err c', openedTwice.check declaredCursor = (.error err, c') ∧ ∃ place t verb name,
      t.cursorUse? = some (verb, name) ∧ ∀ u v,
        Reaches [openedTwice] (oneCursor .declared) place u v → u = t ∧ v.use verb name = none := by
  constructor
  · have hok : (openedEither.check declaredCursor).1.isOk = true := by decide +kernel
    have hrun : Runs [openedEither] (oneCursor .declared) (oneCursor .opened) :=
      .inside (List.mem_append_right _ List.mem_cons_self)
        (.use rfl (by decide +kernel : _ = some ⟨[], [[⟨"c", .opened⟩], []]⟩) (.done _)) (.done _)
    rcases h : openedEither.check declaredCursor with ⟨err | s', c'⟩
    · rw [h] at hok
      cases hok
    · exact ⟨s', c', rfl, (cursors_exact openedEither declaredCursor).1 s' c' _ _ h
        declaredCursor_allows hrun⟩
  · have herr : (match (openedTwice.check declaredCursor).1 with
        | .ok _ => false
        | .error err => err.isCursorState) = true := by decide +kernel
    rcases h : openedTwice.check declaredCursor with ⟨err | s', c'⟩
    · rw [h] at herr
      obtain ⟨place, t, _, _, verb, name, _, huse, _, hrefused⟩ :=
        (cursors_exact openedTwice declaredCursor).2 err c' h herr
      exact ⟨err, c', rfl, place, t, verb, name, huse,
        fun u v hrun => hrefused _ u v declaredCursor_allows hrun⟩
    · rw [h] at herr
      cases herr

end StoredSql
