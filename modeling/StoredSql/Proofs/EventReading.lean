import StoredSql.Proofs.Events

/-!
# Reading events

Events tell what they come from: statements of the same events differ in labels, and in what is
visible where blocks begin, but in nothing else (`Statement.bare_of_events`). Where a list of
statements or branches ends, events go on as no statement and no branch begins, so there is one way to
read them.
-/

namespace StoredSql

mutual

/-- A statement without labels, and without what is visible where blocks begin. -/
def Statement.bare : Statement → Statement
  | .declareHandler action conditions body => .declareHandler action conditions body.bare
  | .block ⟨statements, _, _⟩ => .block ⟨Statement.allBare statements, none, none⟩
  | .ifElse branches otherwise =>
    .ifElse (IfBranch.allBare branches) (Statement.elseBare otherwise)
  | .cases operand whens otherwise =>
    .cases operand (CaseWhen.allBare whens) (Statement.elseBare otherwise)
  | .loop _ body => .loop none (Statement.allBare body)
  | .whileLoop _ test body => .whileLoop none test (Statement.allBare body)
  | .repeatLoop _ test body => .repeatLoop none test (Statement.allBare body)
  | s => s

def Statement.allBare : List Statement → List Statement
  | [] => []
  | s :: ss => s.bare :: Statement.allBare ss

def Statement.elseBare : Option (List Statement) → Option (List Statement)
  | none => none
  | some body => some (Statement.allBare body)

def IfBranch.allBare : List IfBranch → List IfBranch
  | [] => []
  | ⟨test, body⟩ :: rest => ⟨test, Statement.allBare body⟩ :: IfBranch.allBare rest

def CaseWhen.allBare : List CaseWhen → List CaseWhen
  | [] => []
  | ⟨test, body⟩ :: rest => ⟨test, Statement.allBare body⟩ :: CaseWhen.allBare rest

end

/-- Whether a list of statements ends where the events begin. -/
def Event.EndStatements : List Event → Prop
  | .branch _ :: _ | .otherwise :: _ | .goal _ :: _ | .closed :: _ => True
  | _ => False

/-- Whether a list of branches ends where the events begin. -/
def Event.EndBranches : List Event → Prop
  | .otherwise :: _ | .closed :: _ => True
  | _ => False

variable {es fs : List Event}

theorem Event.EndBranches.endStatements (h : Event.EndBranches es) : Event.EndStatements es := by
  cases es with
  | nil => cases h
  | cons e es => cases e <;> trivial

/-- Where a statement begins, no list of statements ends. -/
theorem Statement.not_endStatements {s : Statement} (h : es = s.events ++ fs) :
    ¬ Event.EndStatements es := by
  subst h
  intro hend
  cases s with
  | block b =>
    obtain ⟨statements, label, view⟩ := b
    cases hend
  | _ => cases hend

theorem Statement.endBranches_else (orElse : Option (List Statement)) :
    Event.EndBranches (Statement.elseEvents orElse ++ .closed :: es) := by
  cases orElse <;> trivial

theorem IfBranch.endStatements (branches : List IfBranch) (h : Event.EndBranches es) :
    Event.EndStatements (IfBranch.events branches ++ es) := by
  cases branches with
  | nil => exact h.endStatements
  | cons b rest =>
    obtain ⟨test, body⟩ := b
    trivial

theorem CaseWhen.endStatements (whens : List CaseWhen) (h : Event.EndBranches es) :
    Event.EndStatements (CaseWhen.events whens ++ es) := by
  cases whens with
  | nil => exact h.endStatements
  | cons w rest =>
    obtain ⟨test, body⟩ := w
    trivial

theorem Statement.events_of_leaf {s : Statement} (hs : s.scopeKind? = none) :
    s.events = [.leaf s] := by
  cases s <;> first | rfl | cases hs

theorem Statement.bare_of_leaf {s t : Statement} (hs : s.scopeKind? = none)
    (h : s.events ++ es = t.events ++ fs) : s.bare = t.bare ∧ es = fs := by
  rw [Statement.events_of_leaf hs] at h
  cases ht : t.scopeKind? with
  | none =>
    rw [Statement.events_of_leaf ht] at h
    cases h
    exact ⟨rfl, rfl⟩
  | some k =>
    cases t with
    | block b =>
      obtain ⟨statements, label, view⟩ := b
      cases h
    | declareHandler _ _ _ => cases h
    | ifElse _ _ => cases h
    | cases _ _ _ => cases h
    | loop _ _ => cases h
    | whileLoop _ _ _ => cases h
    | repeatLoop _ _ _ => cases h
    | _ => cases ht

mutual

/-- **Events tell a statement**, but for labels and for what is visible where blocks begin. -/
theorem Statement.bare_of_events : ∀ (s t : Statement) {es fs : List Event},
    s.events ++ es = t.events ++ fs → s.bare = t.bare ∧ es = fs
  | .declareHandler action conditions body, t => by
    intro h
    cases t with
    | declareHandler action' conditions' body' =>
      simp only [Statement.events, List.cons_append, List.cons.injEq, Event.handler.injEq] at h
      obtain ⟨⟨rfl, rfl⟩, h⟩ := h
      obtain ⟨hbody, hrest⟩ := Statement.bare_of_events body body' h
      exact ⟨by rw [Statement.bare, Statement.bare, hbody], hrest⟩
    | block b =>
      obtain ⟨_, _, _⟩ := b
      cases h
    | _ => cases h
  | .block ⟨body, label, view⟩, t => by
    intro h
    cases t with
    | block b =>
      obtain ⟨body', label', view'⟩ := b
      simp only [Statement.events, List.cons_append, List.append_assoc, List.cons.injEq, true_and,
        List.nil_append] at h
      obtain ⟨hbody, hrest⟩ := Statement.allBare_of_events body body' h trivial trivial
      exact ⟨by rw [Statement.bare, Statement.bare, hbody], List.tail_eq_of_cons_eq hrest⟩
    | _ => cases h
  | .loop label body, t => by
    intro h
    cases t with
    | loop label' body' =>
      simp only [Statement.events, List.cons_append, List.append_assoc, List.cons.injEq, true_and,
        List.nil_append] at h
      obtain ⟨hbody, hrest⟩ := Statement.allBare_of_events body body' h trivial trivial
      exact ⟨by rw [Statement.bare, Statement.bare, hbody], List.tail_eq_of_cons_eq hrest⟩
    | block b =>
      obtain ⟨_, _, _⟩ := b
      cases h
    | _ => cases h
  | .whileLoop label test body, t => by
    intro h
    cases t with
    | whileLoop label' test' body' =>
      simp only [Statement.events, List.cons_append, List.append_assoc, List.cons.injEq,
        List.nil_append, Event.whileLoop.injEq, Option.some.injEq, Expr.condition.injEq] at h
      obtain ⟨rfl, h⟩ := h
      obtain ⟨hbody, hrest⟩ := Statement.allBare_of_events body body' h trivial trivial
      exact ⟨by rw [Statement.bare, Statement.bare, hbody], List.tail_eq_of_cons_eq hrest⟩
    | block b =>
      obtain ⟨_, _, _⟩ := b
      cases h
    | _ => cases h
  | .repeatLoop label test body, t => by
    intro h
    cases t with
    | repeatLoop label' test' body' =>
      simp only [Statement.events, List.cons_append, List.append_assoc, List.cons.injEq, true_and,
        List.nil_append] at h
      obtain ⟨hbody, hrest⟩ := Statement.allBare_of_events body body' h trivial trivial
      simp only [List.cons.injEq, Event.goal.injEq, Option.some.injEq, Expr.condition.injEq,
        true_and] at hrest
      obtain ⟨rfl, hrest⟩ := hrest
      exact ⟨by rw [Statement.bare, Statement.bare, hbody], hrest⟩
    | block b =>
      obtain ⟨_, _, _⟩ := b
      cases h
    | _ => cases h
  | .ifElse branches otherwise, t => by
    intro h
    cases t with
    | ifElse branches' otherwise' =>
      simp only [Statement.events, List.cons_append, List.append_assoc, List.cons.injEq, true_and,
        List.nil_append] at h
      obtain ⟨hbranches, h⟩ := IfBranch.allBare_of_events branches branches' h
        (Statement.endBranches_else otherwise) (Statement.endBranches_else otherwise')
      obtain ⟨helse, hrest⟩ := Statement.elseBare_of_events otherwise otherwise' h
      exact ⟨by rw [Statement.bare, Statement.bare, hbranches, helse], hrest⟩
    | block b =>
      obtain ⟨_, _, _⟩ := b
      cases h
    | _ => cases h
  | .cases operand whens otherwise, t => by
    intro h
    cases t with
    | cases operand' whens' otherwise' =>
      simp only [Statement.events, List.cons_append, List.append_assoc, List.cons.injEq,
        List.nil_append, Event.cases.injEq] at h
      obtain ⟨rfl, h⟩ := h
      obtain ⟨hwhens, h⟩ := CaseWhen.allBare_of_events whens whens' h
        (Statement.endBranches_else otherwise) (Statement.endBranches_else otherwise')
      obtain ⟨helse, hrest⟩ := Statement.elseBare_of_events otherwise otherwise' h
      exact ⟨by rw [Statement.bare, Statement.bare, hwhens, helse], hrest⟩
    | block b =>
      obtain ⟨_, _, _⟩ := b
      cases h
    | _ => cases h
  | .foreign _, _ => Statement.bare_of_leaf rfl
  | .delimiter _, _ => Statement.bare_of_leaf rfl
  | .empty, _ => Statement.bare_of_leaf rfl
  | .declareVariables _ _ _, _ => Statement.bare_of_leaf rfl
  | .declareCondition _ _, _ => Statement.bare_of_leaf rfl
  | .declareCursor _ _, _ => Statement.bare_of_leaf rfl
  | .iterate _, _ => Statement.bare_of_leaf rfl
  | .leave _, _ => Statement.bare_of_leaf rfl
  | .openCursor _, _ => Statement.bare_of_leaf rfl
  | .fetch _ _, _ => Statement.bare_of_leaf rfl
  | .closeCursor _, _ => Statement.bare_of_leaf rfl
  | .select _, _ => Statement.bare_of_leaf rfl
  | .insert _, _ => Statement.bare_of_leaf rfl
  | .set _, _ => Statement.bare_of_leaf rfl
  | .call _ _, _ => Statement.bare_of_leaf rfl
  | .signal _ _ _, _ => Statement.bare_of_leaf rfl
  | .raw _, _ => Statement.bare_of_leaf rfl

theorem Statement.allBare_of_events : ∀ (ss ts : List Statement) {es fs : List Event},
    Statement.allEvents ss ++ es = Statement.allEvents ts ++ fs →
    Event.EndStatements es → Event.EndStatements fs →
    Statement.allBare ss = Statement.allBare ts ∧ es = fs
  | [], [] => fun h _ _ => ⟨rfl, h⟩
  | [], t :: ts => by
    intro h hes _
    rw [Statement.allEvents, Statement.allEvents, List.append_assoc] at h
    exact absurd hes (Statement.not_endStatements h)
  | s :: ss, [] => by
    intro h _ hfs
    rw [Statement.allEvents, Statement.allEvents, List.append_assoc] at h
    exact absurd hfs (Statement.not_endStatements h.symm)
  | s :: ss, t :: ts => by
    intro h hes hfs
    rw [Statement.allEvents, Statement.allEvents, List.append_assoc, List.append_assoc] at h
    obtain ⟨hs, h⟩ := Statement.bare_of_events s t h
    obtain ⟨hss, hrest⟩ := Statement.allBare_of_events ss ts h hes hfs
    exact ⟨by rw [Statement.allBare, Statement.allBare, hs, hss], hrest⟩

theorem Statement.elseBare_of_events : ∀ (otherwise otherwise' : Option (List Statement))
    {es fs : List Event},
    Statement.elseEvents otherwise ++ .closed :: es =
      Statement.elseEvents otherwise' ++ .closed :: fs →
    Statement.elseBare otherwise = Statement.elseBare otherwise' ∧ es = fs
  | none, none => fun h => ⟨rfl, List.tail_eq_of_cons_eq h⟩
  | none, some _ => by
    intro h
    cases h
  | some _, none => by
    intro h
    cases h
  | some body, some body' => by
    intro h
    obtain ⟨hbody, hrest⟩ :=
      Statement.allBare_of_events body body' (List.tail_eq_of_cons_eq h) trivial trivial
    exact ⟨by rw [Statement.elseBare, Statement.elseBare, hbody], List.tail_eq_of_cons_eq hrest⟩

theorem IfBranch.allBare_of_events : ∀ (bs cs : List IfBranch) {es fs : List Event},
    IfBranch.events bs ++ es = IfBranch.events cs ++ fs →
    Event.EndBranches es → Event.EndBranches fs →
    IfBranch.allBare bs = IfBranch.allBare cs ∧ es = fs
  | [], [] => fun h _ _ => ⟨rfl, h⟩
  | [], ⟨_, _⟩ :: _ => by
    intro h hes _
    exact False.elim ((congrArg Event.EndBranches h).mp hes)
  | ⟨_, _⟩ :: _, [] => by
    intro h _ hfs
    exact False.elim ((congrArg Event.EndBranches h).mpr hfs)
  | ⟨test, body⟩ :: bs, ⟨test', body'⟩ :: cs => by
    intro h hes hfs
    simp only [IfBranch.events, List.cons_append, List.append_assoc, List.cons.injEq,
      Event.branch.injEq, Option.some.injEq, Expr.condition.injEq] at h
    obtain ⟨rfl, h⟩ := h
    obtain ⟨hbody, h⟩ := Statement.allBare_of_events body body' h (IfBranch.endStatements bs hes)
      (IfBranch.endStatements cs hfs)
    obtain ⟨hbs, hrest⟩ := IfBranch.allBare_of_events bs cs h hes hfs
    exact ⟨by rw [IfBranch.allBare, IfBranch.allBare, hbody, hbs], hrest⟩

theorem CaseWhen.allBare_of_events : ∀ (ws vs : List CaseWhen) {es fs : List Event},
    CaseWhen.events ws ++ es = CaseWhen.events vs ++ fs →
    Event.EndBranches es → Event.EndBranches fs →
    CaseWhen.allBare ws = CaseWhen.allBare vs ∧ es = fs
  | [], [] => fun h _ _ => ⟨rfl, h⟩
  | [], ⟨_, _⟩ :: _ => by
    intro h hes _
    exact False.elim ((congrArg Event.EndBranches h).mp hes)
  | ⟨_, _⟩ :: _, [] => by
    intro h _ hfs
    exact False.elim ((congrArg Event.EndBranches h).mpr hfs)
  | ⟨test, body⟩ :: ws, ⟨test', body'⟩ :: vs => by
    intro h hes hfs
    simp only [CaseWhen.events, List.cons_append, List.append_assoc, List.cons.injEq,
      Event.branch.injEq, Option.some.injEq] at h
    obtain ⟨rfl, h⟩ := h
    obtain ⟨hbody, h⟩ := Statement.allBare_of_events body body' h (CaseWhen.endStatements ws hes)
      (CaseWhen.endStatements vs hfs)
    obtain ⟨hws, hrest⟩ := CaseWhen.allBare_of_events ws vs h hes hfs
    exact ⟨by rw [CaseWhen.allBare, CaseWhen.allBare, hbody, hws], hrest⟩

end

end StoredSql
