import StoredSql.Proofs.CheckParts
import StoredSql.Proofs.CursorRuns
import StoredSql.Proofs.Outcome

/-!
# Cursors in checks of programs

Where a check comes on its way (`Visits`), with the scopes that it has there. A check that fails over
the state of a cursor fails at a statement that it has come to, which does something with a cursor
(`Statement.located`).
-/

namespace StoredSql

open Check Stepwise

/-! ## Checks on their way -/

/-- What a check does in a statement before it comes to the statements inside: it comes to those of a
number, in the order of `Statement.bodies` where that has them, with a checker. -/
inductive Statement.LeadsTo : Statement → Checker → Nat → List Statement → Checker → Prop
  | block {body : List Statement} {label : Option String} {view : Option ScopeView} {c : Checker}
      {scope : Scope} : c.noted.nesting.child .block label = .ok scope →
      LeadsTo (.block ⟨body, label, view⟩) c 0 body (c.noted.entered scope)
  | handler {action : HandlerAction} {conditions : List ConditionValue} {body : Statement}
      {c t u : Checker} : declare (·.declareHandler) c = (.ok (), t) →
      resolveConditions conditions t = (.ok (), u) →
      LeadsTo (.declareHandler action conditions body) c 0 [body] u.handling
  | loop {label : Option String} {body : List Statement} {c : Checker} {scope : Scope} :
      (c.noted.labelled label).2.nesting.child .loop (some (c.noted.labelled label).1) =
        .ok scope →
      LeadsTo (.loop label body) c 0 body ((c.noted.labelled label).2.entered scope)
  | whileLoop {label : Option String} {test : Condition} {body : List Statement} {c : Checker}
      {scope : Scope} :
      (c.noted.labelled label).2.nesting.resolveAll test.outline.variableNames = .ok () →
      (c.noted.labelled label).2.nesting.child .loop (some (c.noted.labelled label).1) =
        .ok scope →
      LeadsTo (.whileLoop label test body) c 0 body ((c.noted.labelled label).2.entered scope)
  | repeatLoop {label : Option String} {test : Condition} {body : List Statement} {c : Checker}
      {scope : Scope} :
      (c.noted.labelled label).2.nesting.child .loop (some (c.noted.labelled label).1) =
        .ok scope →
      LeadsTo (.repeatLoop label test body) c 0 body ((c.noted.labelled label).2.entered scope)
  | branch {earlier later : List IfBranch} {test : Condition} {body : List Statement}
      {otherwise : Option (List Statement)} {c t : Checker}
      {r : List IfBranch × List (List CursorState)} :
      IfBranch.checkAll c.noted.nesting.states earlier c.noted = (.ok r, t) →
      (t.withStates c.noted.nesting.states).nesting.resolveAll test.outline.variableNames =
        .ok () →
      LeadsTo (.ifElse (earlier ++ ⟨test, body⟩ :: later) otherwise) c earlier.length body
        (t.branched c.noted.nesting.states)
  | noBranch {branches : List IfBranch} {body : List Statement} {c t : Checker}
      {r : List IfBranch × List (List CursorState)} :
      IfBranch.checkAll c.noted.nesting.states branches c.noted = (.ok r, t) →
      LeadsTo (.ifElse branches (some body)) c branches.length body
        (t.branched c.noted.nesting.states)
  | arm {operand : Option Expr} {earlier later : List CaseWhen} {test : Expr}
      {body : List Statement} {otherwise : Option (List Statement)} {c t : Checker}
      {r : List CaseWhen × List (List CursorState)} :
      c.noted.nesting.resolveAll ((operand.map (·.outline.variableNames)).getD []) = .ok () →
      CaseWhen.checkAll c.noted.nesting.states earlier c.noted = (.ok r, t) →
      (t.withStates c.noted.nesting.states).nesting.resolveAll test.outline.variableNames =
        .ok () →
      LeadsTo (.cases operand (earlier ++ ⟨test, body⟩ :: later) otherwise) c earlier.length body
        (t.branched c.noted.nesting.states)
  | noArm {operand : Option Expr} {whens : List CaseWhen} {body : List Statement} {c t : Checker}
      {r : List CaseWhen × List (List CursorState)} :
      c.noted.nesting.resolveAll ((operand.map (·.outline.variableNames)).getD []) = .ok () →
      CaseWhen.checkAll c.noted.nesting.states whens c.noted = (.ok r, t) →
      LeadsTo (.cases operand whens (some body)) c whens.length body
        (t.branched c.noted.nesting.states)

/-- Checks on their way: they come to a statement at a place, with a checker. Places are told as for
runs (`Reaches`). -/
inductive Visits : List Statement → Checker → List Nat → Statement → Checker → Prop
  | here {s : Statement} {ss : List Statement} {c : Checker} : Visits (s :: ss) c [0] s c
  | later {s s' t : Statement} {ss : List Statement} {c u d : Checker} {i : Nat}
      {place : List Nat} : s.check c = (.ok s', u) → Visits ss u (i :: place) t d →
      Visits (s :: ss) c ((i + 1) :: place) t d
  | inside {s t : Statement} {body ss : List Statement} {c u d : Checker} {i : Nat}
      {place : List Nat} : s.LeadsTo c i body u → Visits body u place t d →
      Visits (s :: ss) c (0 :: i :: place) t d

/-- Whether the check of statements fails at a statement that does something with a cursor. -/
def Refuses (ss : List Statement) (c : Checker) (e : Error) : Prop :=
  ∃ place t d d' use, Visits ss c place t d ∧ t.cursorUse? = some use ∧ t.check d = (.error e, d')

/-! ## Failures over the state of a cursor -/

/-- Whether an error is about the state of a cursor. -/
def Error.isCursorState : Error → Bool
  | cursorState _ _ _ => true
  | _ => false

/-- Whether what fails does not fail over the state of a cursor. -/
def Spared {α : Type} (r : Except Error α) : Prop := ∀ e, r = .error e → e.isCursorState = false

section Spared

variable {α β : Type}

theorem spared_ok (a : α) : Spared (.ok a) := nofun

theorem spared_error {e : Error} (h : e.isCursorState = false) :
    Spared (.error e : Except Error α) := by
  rintro _ ⟨⟩
  exact h

theorem Spared.bind {x : Except Error α} {f : α → Except Error β} (hx : Spared x)
    (hf : ∀ a, Spared (f a)) : Spared (x >>= f) := by
  intro e h
  cases x with
  | error e' =>
    cases h
    exact hx e rfl
  | ok a => exact hf a e h

theorem forM_spared {f : String → Except Error Unit} (hf : ∀ name, Spared (f name))
    (names : List String) : Spared (names.forM f) := by
  induction names with
  | nil => exact spared_ok _
  | cons name names ih => exact (hf name).bind fun _ => ih

namespace Nesting

variable (n : Nesting)

theorem resolveVariable_spared (name : String) : Spared (n.resolveVariable name) := by
  unfold resolveVariable
  split
  · exact spared_ok _
  · split
    · split
      · exact spared_ok _
      · exact spared_error rfl
    · split
      · exact spared_ok _
      · exact spared_error rfl

theorem resolveTarget_spared (name : String) : Spared (n.resolveTarget name) := by
  unfold resolveTarget
  split
  · split
    · exact spared_error rfl
    · exact n.resolveVariable_spared name
  · exact n.resolveVariable_spared name

theorem resolveCondition_spared (name : String) : Spared (n.resolveCondition name) := by
  unfold resolveCondition
  split
  · exact spared_ok _
  · exact spared_error rfl

theorem resolveAll_spared (names : List String) : Spared (n.resolveAll names) :=
  forM_spared n.resolveVariable_spared names

theorem child_spared (kind : ScopeKind) (label : Option String) : Spared (n.child kind label) := by
  cases label with
  | none => exact spared_ok _
  | some l =>
    have hlabel : Spared (Identifier.checkLabel l) := by
      unfold Identifier.checkLabel Identifier.checkShownLabel
      split
      · exact spared_error rfl
      · split
        · exact spared_error rfl
        · exact spared_ok _
    refine hlabel.bind fun l => ?_
    split
    · exact spared_error rfl
    · exact spared_ok _

end Nesting

end Spared

namespace Check

variable {α β : Type}

/-- Whether a check never fails over the state of a cursor. -/
def Spares (act : Check α) : Prop := ∀ c, Spared (act c).1

theorem spares_pure (a : α) : Spares (pure a : Check α) := fun _ => spared_ok a

theorem spares_throw {e : Error} (h : e.isCursorState = false) : Spares (throw e : Check α) :=
  fun _ => spared_error h

theorem Spares.bind {x : Check α} {f : α → Check β} (hx : Spares x) (hf : ∀ a, Spares (f a)) :
    Spares (x >>= f) := by
  intro c
  have hxc := hx c
  rw [bind_apply]
  rcases h : x c with ⟨e | a, t⟩
  · rw [h] at hxc
    intro e' he
    cases he
    exact hxc _ rfl
  · exact hf a t

theorem ask_spares {f : Nesting → Except Error α} (hf : ∀ n, Spared (f n)) : Spares (ask f) :=
  fun c => hf c.nesting

theorem noteStatement_spares : Spares noteStatement := fun _ => spared_ok _

theorem resolveAll_spares (names : List String) : Spares (resolveAll names) :=
  ask_spares fun n => n.resolveAll_spared names

theorem resolveTargets_spares (targets : List String) :
    Spares (ask fun n => targets.forM n.resolveTarget) :=
  ask_spares fun n => forM_spared n.resolveTarget_spared targets

theorem resolveConditions_spares (conditions : List ConditionValue) :
    Spares (resolveConditions conditions) :=
  ask_spares fun n => forM_spared n.resolveCondition_spared _

theorem enterPhase_spared (s : Scope) (phase : DeclarationPhase) (what : String) :
    Spared (s.enterPhase phase what) := by
  unfold Scope.enterPhase
  split
  · exact spared_error rfl
  · split
    · exact spared_error rfl
    · split
      · exact spared_error rfl
      · exact spared_ok _

theorem declareIn_spares (phase : DeclarationPhase) (what : String) (taken : Scope → Bool)
    {twice : Error} (htwice : twice.isCursorState = false) (add : Scope → Scope) :
    Spares (declare (·.declareIn phase what taken twice add)) := by
  intro c
  show Spared (c.nesting.inner.declareIn phase what taken twice add).1
  have hphase := enterPhase_spared c.nesting.inner phase what
  unfold Scope.declareIn
  rcases h : c.nesting.inner.enterPhase phase what with e | s
  · rw [h] at hphase
    exact spared_error (hphase e rfl)
  · dsimp only
    split
    · exact spared_error htwice
    · exact spared_ok _

theorem declareHandler_spares : Spares (declare (·.declareHandler)) := by
  intro c
  show Spared c.nesting.inner.declareHandler.1
  have hphase := enterPhase_spared c.nesting.inner .handlers "DECLARE ... HANDLER"
  unfold Scope.declareHandler
  rcases h : c.nesting.inner.enterPhase .handlers "DECLARE ... HANDLER" with e | s
  · rw [h] at hphase
    exact spared_error (hphase e rfl)
  · exact spared_ok _

theorem forM_spares {f : String → Check Unit} (hf : ∀ name, Spares (f name)) (names : List String) :
    Spares (names.forM f) := by
  induction names with
  | nil => exact spares_pure _
  | cons name names ih => exact (hf name).bind fun _ => ih

theorem assignments_spares (pairs : List (String × Expr)) : Spares (assignments pairs) := by
  induction pairs with
  | nil => exact spares_pure _
  | cons pair pairs ih =>
    exact (resolveAll_spares _).bind fun _ =>
      (ask_spares fun n => n.resolveTarget_spared pair.1).bind fun _ => ih

theorem rawText_spares (sql : String) : Spares (rawText sql) := by
  unfold rawText
  split
  · exact spares_throw rfl
  · exact spares_pure _

theorem iterateTarget_spares (label : String) : Spares (iterateTarget label) := by
  refine ask_spares fun n => ?_
  split
  · exact spared_error rfl
  · split
    · exact spared_ok _
    · exact spared_error rfl

theorem leaveTarget_spares (label : String) : Spares (leaveTarget label) := by
  refine ask_spares fun n => ?_
  split
  · exact spared_error rfl
  · exact spared_ok _

end Check

/-- Whether a check that fails over the state of a cursor does so at a statement that does something
with one. -/
def Located (s : Statement) : Prop :=
  ∀ ⦃c c' : Checker⦄ ⦃e : Error⦄, s.check c = (.error e, c') → e.isCursorState = true →
    Refuses [s] c e

theorem located_of_spares {s : Statement} (h : Spares s.check) : Located s := by
  intro c c' e hs he
  have hspared : e.isCursorState = false := by
    have hc := h c
    rw [hs] at hc
    exact hc e rfl
  rw [hspared] at he
  cases he

theorem located_of_use {s : Statement} {use : CursorVerb × String} (h : s.cursorUse? = some use) :
    Located s :=
  fun _ _ _ hs _ => ⟨[0], s, _, _, use, .here, h, hs⟩

theorem Refuses.later {s s' : Statement} {ss : List Statement} {c d : Checker} {e : Error}
    (hs : s.check c = (.ok s', d)) (h : Refuses ss d e) : Refuses (s :: ss) c e := by
  obtain ⟨place, t, u, u', use, hvisits, huse, ht⟩ := h
  cases place with
  | nil => cases hvisits
  | cons i place => exact ⟨_, t, u, u', use, .later hs hvisits, huse, ht⟩

theorem Refuses.first {s : Statement} {ss : List Statement} {c : Checker} {e : Error}
    (h : Refuses [s] c e) : Refuses (s :: ss) c e := by
  obtain ⟨place, t, u, u', use, hvisits, huse, ht⟩ := h
  cases hvisits with
  | here => exact ⟨_, _, _, u', use, .here, huse, ht⟩
  | later _ hnil => cases hnil
  | inside hleads hbody => exact ⟨_, t, u, u', use, .inside hleads hbody, huse, ht⟩

theorem Refuses.inside {s : Statement} {body : List Statement} {c d : Checker} {i : Nat} {e : Error}
    (hleads : s.LeadsTo c i body d) (h : Refuses body d e) : Refuses [s] c e := by
  obtain ⟨place, t, u, u', use, hvisits, huse, ht⟩ := h
  exact ⟨_, t, u, u', use, .inside hleads hvisits, huse, ht⟩

theorem not_spared {α : Type} {r : Except Error α} {e : Error} {P : Prop} (hr : Spared r)
    (h : r = .error e) (he : e.isCursorState = true) : P := by
  rw [hr e h] at he
  cases he

open Statement

mutual

/-- **A check that fails over the state of a cursor fails where something is done with one**, at a
statement that it has come to. -/
theorem Statement.located : ∀ s : Statement, Located s
  | .foreign _ => located_of_spares (spares_throw rfl)
  | .delimiter _ => located_of_spares (spares_throw rfl)
  | .empty => located_of_spares (spares_pure _)
  | .declareVariables names _ _ =>
    located_of_spares ((resolveAll_spares _).bind fun _ =>
      (forM_spares (fun _ => declareIn_spares _ _ _ rfl _) names).bind fun _ => spares_pure _)
  | .declareCondition _ _ =>
    located_of_spares ((declareIn_spares _ _ _ rfl _).bind fun _ => spares_pure _)
  | .declareCursor _ _ =>
    located_of_spares ((resolveAll_spares _).bind fun _ =>
      (declareIn_spares _ _ _ rfl _).bind fun _ => spares_pure _)
  | .declareHandler action conditions body => by
    intro c c' e h he
    rcases check_declareHandler_error h with h | ⟨t, ht, h | ⟨u, v, hu, hbody, _⟩⟩
    · exact not_spared (declareHandler_spares c) (congrArg Prod.fst h) he
    · exact not_spared (resolveConditions_spares conditions t) (congrArg Prod.fst h) he
    · exact .inside (.handler ht hu) (Statement.located body hbody he)
  | .block ⟨ss, label, view⟩ => by
    intro c c' e h he
    rcases Block.check_error (check_block_error h) with h | ⟨scope, t, hscope, hss⟩
    · exact not_spared (Nesting.child_spared _ _ _) h he
    · exact .inside (.block hscope) (Statement.allLocated ss hss he)
  | .loop label body => by
    intro c c' e h he
    rcases check_loop_error h with h | ⟨scope, t, hscope, hbody⟩
    · exact not_spared (Nesting.child_spared _ _ _) h he
    · exact .inside (.loop hscope) (Statement.allLocated body hbody he)
  | .whileLoop label test body => by
    intro c c' e h he
    rcases check_whileLoop_error h with h | ⟨htest, h | ⟨scope, t, hscope, hbody⟩⟩
    · exact not_spared (Nesting.resolveAll_spared _ _) h he
    · exact not_spared (Nesting.child_spared _ _ _) h he
    · exact .inside (.whileLoop htest hscope) (Statement.allLocated body hbody he)
  | .repeatLoop label test body => by
    intro c c' e h he
    rcases check_repeatLoop_error h with h | ⟨scope, t, hscope, hbody | ⟨_, _, h⟩⟩
    · exact not_spared (Nesting.child_spared _ _ _) h he
    · exact .inside (.repeatLoop hscope) (Statement.allLocated body hbody he)
    · exact not_spared (Nesting.resolveAll_spared _ _) h he
  | .ifElse branches otherwise => by
    intro c c' e h he
    rcases check_ifElse_error h with h | ⟨r, t, hr, helse⟩
    · obtain ⟨i, body, d, hleads, hbody⟩ :=
        IfBranch.located branches [] otherwise rfl h he
      exact .inside hleads hbody
    · obtain ⟨body, d, hsome, hd, hbody⟩ := Statement.elseLocated otherwise helse he
      subst hsome hd
      exact .inside (.noBranch hr) hbody
  | .cases operand whens otherwise => by
    intro c c' e h he
    rcases check_cases_error h with h | ⟨hoperand, h | ⟨r, t, hr, helse⟩⟩
    · exact not_spared (Nesting.resolveAll_spared _ _) h he
    · obtain ⟨i, body, d, hleads, hbody⟩ :=
        CaseWhen.located whens [] operand otherwise hoperand rfl h he
      exact .inside hleads hbody
    · obtain ⟨body, d, hsome, hd, hbody⟩ := Statement.elseLocated otherwise helse he
      subst hsome hd
      exact .inside (.noArm hoperand hr) hbody
  | .iterate label =>
    located_of_spares (noteStatement_spares.bind fun _ =>
      (iterateTarget_spares label).bind fun _ => spares_pure _)
  | .leave label =>
    located_of_spares (noteStatement_spares.bind fun _ =>
      (leaveTarget_spares label).bind fun _ => spares_pure _)
  | .openCursor _ => located_of_use rfl
  | .fetch _ _ => located_of_use rfl
  | .closeCursor _ => located_of_use rfl
  | .select query =>
    located_of_spares (noteStatement_spares.bind fun _ => (resolveAll_spares _).bind fun _ =>
      (resolveTargets_spares query.into).bind fun _ => spares_pure _)
  | .insert _ =>
    located_of_spares (noteStatement_spares.bind fun _ => (resolveAll_spares _).bind fun _ =>
      spares_pure _)
  | .set pairs =>
    located_of_spares (noteStatement_spares.bind fun _ => (assignments_spares pairs).bind fun _ =>
      spares_pure _)
  | .call _ _ =>
    located_of_spares (noteStatement_spares.bind fun _ => (resolveAll_spares _).bind fun _ =>
      spares_pure _)
  | .signal condition _ _ =>
    located_of_spares (noteStatement_spares.bind fun _ =>
      (resolveConditions_spares [condition]).bind fun _ => (resolveAll_spares _).bind fun _ =>
        spares_pure _)
  | .raw sql =>
    located_of_spares (noteStatement_spares.bind fun _ => (rawText_spares sql).bind fun _ =>
      spares_pure _)

theorem Statement.allLocated : ∀ (ss : List Statement) {c c' : Checker} {e : Error},
    checkAll ss c = (.error e, c') → e.isCursorState = true → Refuses ss c e
  | [] => by
    intro h
    cases h
  | s :: ss => by
    intro h he
    rcases checkAll_cons_error.1 h with h | ⟨s', d, hs, h⟩
    · exact (Statement.located s h he).first
    · exact (Statement.allLocated ss h he).later hs

theorem Statement.elseLocated : ∀ (otherwise : Option (List Statement)) {before : List CursorState}
    {c c' : Checker} {e : Error}, checkElse before otherwise c = (.error e, c') →
      e.isCursorState = true → ∃ body d, otherwise = some body ∧ d = c.branched before ∧
        Refuses body d e
  | none => by
    intro h
    cases h
  | some body => by
    intro h he
    obtain ⟨t, hbody⟩ := checkElse_some_error h
    exact ⟨body, _, rfl, rfl, Statement.allLocated body hbody he⟩

theorem IfBranch.located : ∀ (later earlier : List IfBranch)
    (otherwise : Option (List Statement)) {c t c' : Checker}
    {r : List IfBranch × List (List CursorState)} {e : Error},
    IfBranch.checkAll c.noted.nesting.states earlier c.noted = (.ok r, t) →
      IfBranch.checkAll c.noted.nesting.states later t = (.error e, c') →
      e.isCursorState = true → ∃ i body d,
        Statement.LeadsTo (.ifElse (earlier ++ later) otherwise) c i body d ∧ Refuses body d e
  | [], _, _ => by
    intro _ h
    cases h
  | ⟨test, body⟩ :: later, earlier, otherwise => by
    intro hearlier h he
    rcases IfBranch.checkAll_cons_error h with h | ⟨htest, u, hbody | ⟨body', hbody, hlater⟩⟩
    · exact not_spared (Nesting.resolveAll_spared _ _) h he
    · exact ⟨_, _, _, .branch hearlier htest, Statement.allLocated body hbody he⟩
    · have hone := IfBranch.checkAll_cons_ok.2
        ⟨htest, body', u, [], [], hbody, IfBranch.checkAll_nil _ _, rfl⟩
      have hnext := IfBranch.checkAll_append_ok hearlier hone
      obtain ⟨i, body, d, hleads, hrefuses⟩ := IfBranch.located later _ otherwise hnext hlater he
      rw [List.append_assoc] at hleads
      exact ⟨i, body, d, hleads, hrefuses⟩

theorem CaseWhen.located : ∀ (later earlier : List CaseWhen) (operand : Option Expr)
    (otherwise : Option (List Statement)) {c t c' : Checker}
    {r : List CaseWhen × List (List CursorState)} {e : Error},
    c.noted.nesting.resolveAll ((operand.map (·.outline.variableNames)).getD []) = .ok () →
      CaseWhen.checkAll c.noted.nesting.states earlier c.noted = (.ok r, t) →
      CaseWhen.checkAll c.noted.nesting.states later t = (.error e, c') →
      e.isCursorState = true → ∃ i body d,
        Statement.LeadsTo (.cases operand (earlier ++ later) otherwise) c i body d ∧
          Refuses body d e
  | [], _, _, _ => by
    intro _ _ h
    cases h
  | ⟨test, body⟩ :: later, earlier, operand, otherwise => by
    intro hoperand hearlier h he
    rcases CaseWhen.checkAll_cons_error h with h | ⟨htest, u, hbody | ⟨body', hbody, hlater⟩⟩
    · exact not_spared (Nesting.resolveAll_spared _ _) h he
    · exact ⟨_, _, _, .arm hoperand hearlier htest, Statement.allLocated body hbody he⟩
    · have hone := CaseWhen.checkAll_cons_ok.2
        ⟨htest, body', u, [], [], hbody, CaseWhen.checkAll_nil _ _, rfl⟩
      have hnext := CaseWhen.checkAll_append_ok hearlier hone
      obtain ⟨i, body, d, hleads, hrefuses⟩ :=
        CaseWhen.located later _ operand otherwise hoperand hnext hlater he
      rw [List.append_assoc] at hleads
      exact ⟨i, body, d, hleads, hrefuses⟩

end

end StoredSql
