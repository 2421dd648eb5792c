import StoredSql.Proofs.CheckParts
import StoredSql.Proofs.Outcome

/-!
# Statements as they are made

Which statements the makers of constructs let through (`isMade`), and what is left of a statement
where what is visible at the beginning of its blocks does not count (`withoutViews`). Neither a check
nor a block's view changes whether there is something to execute.
-/

namespace StoredSql

open Check Stepwise

/-! ## Well-made constructs -/

mutual

/-- Whether the constructs in a statement are such as their makers give. -/
def Statement.isMade : Statement → Bool
  | .declareHandler action conditions body =>
    action != .undo && !conditions.isEmpty && (Statement.checkHandlerBody body).isOk && body.isMade
  | .block ⟨statements, _, _⟩ => Statement.areMade statements
  | .ifElse branches otherwise =>
    !branches.isEmpty && IfBranch.areMade branches && Statement.elseIsMade otherwise
  | .cases operand whens otherwise =>
    !whens.isEmpty && (operand.isSome || whens.all (·.isSearched)) && CaseWhen.areMade whens
      && Statement.elseIsMade otherwise
  | .loop _ body => !body.all Statement.isEmpty && Statement.areMade body
  | .whileLoop _ _ body => !body.all Statement.isEmpty && Statement.areMade body
  | .repeatLoop _ _ body => !body.all Statement.isEmpty && Statement.areMade body
  | _ => true

def Statement.areMade : List Statement → Bool
  | [] => true
  | s :: ss => s.isMade && Statement.areMade ss

def Statement.elseIsMade : Option (List Statement) → Bool
  | none => true
  | some ss => !ss.all Statement.isEmpty && Statement.areMade ss

def IfBranch.areMade : List IfBranch → Bool
  | [] => true
  | ⟨_, body⟩ :: rest =>
    !body.all Statement.isEmpty && Statement.areMade body && IfBranch.areMade rest

def CaseWhen.areMade : List CaseWhen → Bool
  | [] => true
  | ⟨_, body⟩ :: rest =>
    !body.all Statement.isEmpty && Statement.areMade body && CaseWhen.areMade rest

end

namespace Statement

variable {body : List Statement} {s : Statement}

theorem checkBody_eq_ok {part : String} {u : Unit} :
    checkBody part body = .ok u ↔ body.all isEmpty = false := by
  unfold checkBody
  split <;> simp_all

theorem checkBody_ok (part : String) (h : body.all isEmpty = false) : checkBody part body = .ok () :=
  checkBody_eq_ok.2 h

theorem makeLoop_eq_ok {label : Option String} :
    makeLoop label body = .ok s ↔ body.all isEmpty = false ∧ s = .loop label body := by
  unfold makeLoop
  simp only [Outcome.bind_eq_ok, checkBody_eq_ok, Outcome.pure_eq_ok]
  constructor
  · rintro ⟨_, hne, rfl⟩
    exact ⟨hne, rfl⟩
  · rintro ⟨hne, rfl⟩
    exact ⟨(), hne, rfl⟩

theorem makeWhile_eq_ok {label : Option String} {test : Operand} :
    makeWhile label test body = .ok s ↔ ∃ c, test.condition? = some c ∧
      body.all isEmpty = false ∧ s = .whileLoop label c body := by
  unfold makeWhile
  cases test.condition? with
  | none => simp
  | some c =>
    simp only [Outcome.bind_eq_ok, checkBody_eq_ok, Outcome.pure_eq_ok]
    constructor
    · rintro ⟨_, hne, rfl⟩
      exact ⟨c, rfl, hne, rfl⟩
    · rintro ⟨_, ⟨⟩, hne, rfl⟩
      exact ⟨(), hne, rfl⟩

theorem makeRepeat_eq_ok {label : Option String} {test : Operand} :
    makeRepeat label test body = .ok s ↔ ∃ c, test.condition? = some c ∧
      body.all isEmpty = false ∧ s = .repeatLoop label c body := by
  unfold makeRepeat
  cases test.condition? with
  | none => simp
  | some c =>
    simp only [Outcome.bind_eq_ok, checkBody_eq_ok, Outcome.pure_eq_ok]
    constructor
    · rintro ⟨_, hne, rfl⟩
      exact ⟨c, rfl, hne, rfl⟩
    · rintro ⟨_, ⟨⟩, hne, rfl⟩
      exact ⟨(), hne, rfl⟩

/-- The makers of loops give well-made loops of well-made statements. -/
theorem isMade_of_makeLoop {label : Option String} (hbody : areMade body = true)
    (h : makeLoop label body = .ok s) : s.isMade = true := by
  obtain ⟨hne, rfl⟩ := makeLoop_eq_ok.1 h
  simp [isMade, hne, hbody]

theorem isMade_of_makeWhile {label : Option String} {test : Operand} (hbody : areMade body = true)
    (h : makeWhile label test body = .ok s) : s.isMade = true := by
  obtain ⟨_, _, hne, rfl⟩ := makeWhile_eq_ok.1 h
  simp [isMade, hne, hbody]

theorem isMade_of_makeRepeat {label : Option String} {test : Operand} (hbody : areMade body = true)
    (h : makeRepeat label test body = .ok s) : s.isMade = true := by
  obtain ⟨_, _, hne, rfl⟩ := makeRepeat_eq_ok.1 h
  simp [isMade, hne, hbody]

theorem makeDeclareHandler_eq_ok {action : Outline} {conditions : List ConditionValue}
    {act : Statement} : makeDeclareHandler action conditions act = .ok s ↔
      ∃ a, action.toMember = .ok a ∧ a ≠ HandlerAction.undo ∧ conditions.isEmpty = false ∧
        checkHandlerBody act = .ok () ∧ s = .declareHandler a conditions act := by
  unfold makeDeclareHandler
  rw [Outcome.bind_eq_ok]
  refine exists_congr fun a => and_congr_right fun _ => ?_
  by_cases hundo : a = HandlerAction.undo
  · simp [hundo]
  · cases hconditions : conditions.isEmpty with
    | true => simp [hundo]
    | false =>
      simp only [hundo, if_false, Bool.false_eq_true, Outcome.bind_eq_ok, Outcome.pure_eq_ok,
        ne_eq, not_false_eq_true, true_and]
      constructor
      · rintro ⟨_, hbody, rfl⟩
        exact ⟨hbody, rfl⟩
      · rintro ⟨hbody, rfl⟩
        exact ⟨(), hbody, rfl⟩

/-- A handler is well-made if what it does is. -/
theorem isMade_of_makeDeclareHandler {action : Outline} {conditions : List ConditionValue}
    {act : Statement} (hact : act.isMade = true)
    (h : makeDeclareHandler action conditions act = .ok s) : s.isMade = true := by
  obtain ⟨a, _, hundo, hconditions, hbody, rfl⟩ := makeDeclareHandler_eq_ok.1 h
  simp [isMade, hundo, hconditions, hbody, hact, Except.isOk, Except.toBool]

end Statement

theorem IfBranch.make_eq_ok {test : Operand} {body : List Statement} {branch : IfBranch} :
    IfBranch.make test body = .ok branch ↔ ∃ c, test.condition? = some c ∧
      body.all Statement.isEmpty = false ∧ branch = ⟨c, body⟩ := by
  unfold IfBranch.make
  cases test.condition? with
  | none => simp
  | some c =>
    simp only [Outcome.bind_eq_ok, Statement.checkBody_eq_ok, Outcome.pure_eq_ok]
    constructor
    · rintro ⟨_, hne, rfl⟩
      exact ⟨c, rfl, hne, rfl⟩
    · rintro ⟨_, ⟨⟩, hne, rfl⟩
      exact ⟨(), hne, rfl⟩

theorem CaseWhen.make_eq_ok {test : Operand} {body : List Statement} {arm : CaseWhen} :
    CaseWhen.make test body = .ok arm ↔ ∃ e, test.toExpr = .ok e ∧
      body.all Statement.isEmpty = false ∧ arm = ⟨e, body⟩ := by
  unfold CaseWhen.make
  simp only [Outcome.bind_eq_ok, Statement.checkBody_eq_ok, Outcome.pure_eq_ok]
  constructor
  · rintro ⟨e, he, _, hne, rfl⟩
    exact ⟨e, he, hne, rfl⟩
  · rintro ⟨e, he, hne, rfl⟩
    exact ⟨e, he, (), hne, rfl⟩

/-- A branch is well-made if its statements are. -/
theorem IfBranch.areMade_of_make {test : Operand} {body : List Statement} {branch : IfBranch}
    (hbody : Statement.areMade body = true) (h : IfBranch.make test body = .ok branch) :
    IfBranch.areMade [branch] = true := by
  obtain ⟨_, _, hne, rfl⟩ := IfBranch.make_eq_ok.1 h
  simp [IfBranch.areMade, hne, hbody]

theorem CaseWhen.areMade_of_make {test : Operand} {body : List Statement} {arm : CaseWhen}
    (hbody : Statement.areMade body = true) (h : CaseWhen.make test body = .ok arm) :
    CaseWhen.areMade [arm] = true := by
  obtain ⟨_, _, hne, rfl⟩ := CaseWhen.make_eq_ok.1 h
  simp [CaseWhen.areMade, hne, hbody]

namespace Statement

variable {s : Statement} {otherwise : Option (List Statement)}

theorem checkBody_forM_eq_ok {part : String} {u : PUnit} :
    otherwise.forM (checkBody part) = .ok u ↔
      ∀ body, otherwise = some body → body.all isEmpty = false := by
  cases otherwise with
  | none => simp [Option.forM]
  | some body => simp [Option.forM, checkBody_eq_ok]

theorem checkBody_forM_ok (part : String)
    (h : ∀ body, otherwise = some body → body.all isEmpty = false) :
    otherwise.forM (checkBody part) = .ok () :=
  checkBody_forM_eq_ok.2 h

theorem elseIsMade_of (hbody : ∀ body, otherwise = some body → areMade body = true)
    (hne : ∀ body, otherwise = some body → body.all isEmpty = false) :
    elseIsMade otherwise = true := by
  cases otherwise with
  | none => rfl
  | some body => simp [elseIsMade, hbody body rfl, hne body rfl]

theorem makeIf_eq_ok {branches : List IfBranch} : makeIf branches otherwise = .ok s ↔
    branches ≠ [] ∧ (∀ body, otherwise = some body → body.all isEmpty = false) ∧
      s = .ifElse branches otherwise := by
  unfold makeIf
  cases branches with
  | nil => simp
  | cons branch branches =>
    simp only [List.isEmpty_cons, if_false, Bool.false_eq_true, Outcome.bind_eq_ok,
      checkBody_forM_eq_ok, Outcome.pure_eq_ok]
    constructor
    · rintro ⟨_, hbody, rfl⟩
      exact ⟨List.cons_ne_nil _ _, hbody, rfl⟩
    · rintro ⟨_, hbody, rfl⟩
      exact ⟨⟨⟩, hbody, rfl⟩

theorem makeCase_eq_ok {operand : Operand} {whens : List CaseWhen} :
    makeCase operand whens otherwise = .ok s ↔ whens ≠ [] ∧
      (operand.isNull = true → whens.all (·.isSearched) = true) ∧ ∃ e,
      operand.ifAny.mapM (·.toExpr) = .ok e ∧
      (∀ body, otherwise = some body → body.all isEmpty = false) ∧
      s = .cases e whens otherwise := by
  unfold makeCase
  by_cases hne : whens = []
  · simp [hne]
  · by_cases hsearched : operand.isNull = true ∧ (!whens.all (·.isSearched)) = true
    · constructor
      · intro h
        simp [hne, hsearched] at h
      · rintro ⟨_, hkind, _⟩
        rw [hkind hsearched.1] at hsearched
        cases hsearched.2
    · have hkind : operand.isNull = true → whens.all (·.isSearched) = true := by
        intro hnull
        cases hall : whens.all (·.isSearched) with
        | true => rfl
        | false =>
          rw [hall] at hsearched
          exact absurd ⟨hnull, rfl⟩ hsearched
      simp only [List.isEmpty_iff, hne, hsearched, if_false, Outcome.bind_eq_ok,
        checkBody_forM_eq_ok, Outcome.pure_eq_ok]
      constructor
      · rintro ⟨e, he, _, hbody, rfl⟩
        exact ⟨hne, hkind, e, he, hbody, rfl⟩
      · rintro ⟨_, _, e, he, hbody, rfl⟩
        exact ⟨e, he, ⟨⟩, hbody, rfl⟩

/-- Only an operand that is there is an expression. -/
theorem isSome_of_mapM_toExpr {operand : Operand} {e : Option Expr} (hnull : operand.isNull = false)
    (h : operand.ifAny.mapM (·.toExpr) = .ok e) : e.isSome = true := by
  unfold Operand.ifAny at h
  rw [hnull] at h
  cases he : operand.toExpr with
  | error _ =>
    simp only [Bool.false_eq_true, if_false, Option.mapM_some, he] at h
    cases h
  | ok _ =>
    simp only [Bool.false_eq_true, if_false, Option.mapM_some, he] at h
    cases h
    rfl

/-- The makers of conditionals and cases give well-made ones of well-made branches and arms. -/
theorem isMade_of_makeIf {branches : List IfBranch} (hbranches : IfBranch.areMade branches = true)
    (helse : ∀ body, otherwise = some body → areMade body = true)
    (h : makeIf branches otherwise = .ok s) : s.isMade = true := by
  obtain ⟨hne, hbody, rfl⟩ := makeIf_eq_ok.1 h
  simp [isMade, hne, hbranches, elseIsMade_of helse hbody]

theorem isMade_of_makeCase {operand : Operand} {whens : List CaseWhen}
    (hwhens : CaseWhen.areMade whens = true)
    (helse : ∀ body, otherwise = some body → areMade body = true)
    (h : makeCase operand whens otherwise = .ok s) : s.isMade = true := by
  obtain ⟨hne, hkind, e, he, hbody, rfl⟩ := makeCase_eq_ok.1 h
  have hkind' : (e.isSome || whens.all (·.isSearched)) = true := by
    cases hnull : operand.isNull with
    | true => rw [hkind hnull, Bool.or_true]
    | false => rw [isSome_of_mapM_toExpr hnull he, Bool.true_or]
  simp [isMade, hne, hkind', hwhens, elseIsMade_of helse hbody]

end Statement

/-! ## Statements without views -/

mutual

/-- The statement with no block telling what is visible where it begins. -/
def Statement.withoutViews : Statement → Statement
  | .declareHandler action conditions body => .declareHandler action conditions body.withoutViews
  | .block ⟨statements, label, _⟩ => .block ⟨Statement.allWithoutViews statements, label, none⟩
  | .ifElse branches otherwise =>
    .ifElse (IfBranch.allWithoutViews branches) (Statement.elseWithoutViews otherwise)
  | .cases operand whens otherwise =>
    .cases operand (CaseWhen.allWithoutViews whens) (Statement.elseWithoutViews otherwise)
  | .loop label body => .loop label (Statement.allWithoutViews body)
  | .whileLoop label test body => .whileLoop label test (Statement.allWithoutViews body)
  | .repeatLoop label test body => .repeatLoop label test (Statement.allWithoutViews body)
  | s => s

def Statement.allWithoutViews : List Statement → List Statement
  | [] => []
  | s :: ss => s.withoutViews :: Statement.allWithoutViews ss

def Statement.elseWithoutViews : Option (List Statement) → Option (List Statement)
  | none => none
  | some ss => some (Statement.allWithoutViews ss)

def IfBranch.allWithoutViews : List IfBranch → List IfBranch
  | [] => []
  | ⟨test, body⟩ :: rest => ⟨test, Statement.allWithoutViews body⟩ :: IfBranch.allWithoutViews rest

def CaseWhen.allWithoutViews : List CaseWhen → List CaseWhen
  | [] => []
  | ⟨test, body⟩ :: rest => ⟨test, Statement.allWithoutViews body⟩ :: CaseWhen.allWithoutViews rest

end

namespace Statement

theorem allWithoutViews_append (ss ts : List Statement) :
    allWithoutViews (ss ++ ts) = allWithoutViews ss ++ allWithoutViews ts := by
  induction ss with
  | nil => rfl
  | cons s ss ih => simp [allWithoutViews, ih]

theorem isEmpty_withoutViews (s : Statement) : s.withoutViews.isEmpty = s.isEmpty := by
  cases s with
  | block b =>
    cases b
    rfl
  | _ => rfl

theorem all_isEmpty_allWithoutViews (ss : List Statement) :
    (allWithoutViews ss).all isEmpty = ss.all isEmpty := by
  induction ss with
  | nil => rfl
  | cons s ss ih => simp [allWithoutViews, ih, isEmpty_withoutViews]

/-- A check leaves what is nothing but a blank line, and only that. -/
theorem isEmpty_check {s s' : Statement} {c c' : Checker} (h : s.check c = (.ok s', c')) :
    s'.isEmpty = s.isEmpty := by
  cases s <;>
    simp only [check, bind_ok, pure_eq, Except.ok.injEq, throw_apply, pair_eq, reduceCtorEq,
      false_and] at h <;>
    grind [isEmpty]

theorem all_isEmpty_checkAll {ss ss' : List Statement} {c c' : Checker}
    (h : checkAll ss c = (.ok ss', c')) : ss'.all isEmpty = ss.all isEmpty := by
  induction ss generalizing ss' c with
  | nil =>
    cases h
    rfl
  | cons s ss ih =>
    obtain ⟨s', t, rest, hs, hss, rfl⟩ := checkAll_cons_ok.1 h
    simp only [List.all_cons, isEmpty_check hs, ih hss]

end Statement

theorem IfBranch.allWithoutViews_append (bs bs' : List IfBranch) :
    allWithoutViews (bs ++ bs') = allWithoutViews bs ++ allWithoutViews bs' := by
  induction bs with
  | nil => rfl
  | cons b bs ih =>
    cases b
    simp [allWithoutViews, ih]

theorem CaseWhen.allWithoutViews_append (ws ws' : List CaseWhen) :
    allWithoutViews (ws ++ ws') = allWithoutViews ws ++ allWithoutViews ws' := by
  induction ws with
  | nil => rfl
  | cons w ws ih =>
    cases w
    simp [allWithoutViews, ih]

end StoredSql
