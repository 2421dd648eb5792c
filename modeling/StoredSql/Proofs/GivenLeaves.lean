import StoredSql.Proofs.CarriedStatements

/-!
# Where the statements of programs come from

Whatever calls succeed or fail, a program has no statements but those that the calls have handed
over (`Builder.run_leaves`): checks leave the statements that hold no others as they are, and those
of what is made of statements are theirs.
-/

namespace StoredSql

open Check Stepwise

/-! ## Statements that hold no others -/

namespace Statement

variable {s t : Statement} {ss ts : List Statement} {Q : Statement → Prop}

/-- Whether all statements in a list that hold no others have a property. -/
def LeavesAll (Q : Statement → Prop) (ss : List Statement) : Prop := ∀ t ∈ allLeaves ss, Q t

theorem allLeaves_append (ss ts : List Statement) :
    allLeaves (ss ++ ts) = allLeaves ss ++ allLeaves ts := by
  rw [allLeaves, allEvents_append, List.filterMap_append]
  rfl

theorem allLeaves_cons (s : Statement) (ss : List Statement) :
    allLeaves (s :: ss) = allLeaves [s] ++ allLeaves ss :=
  allLeaves_append [s] ss

theorem allLeaves_branches (branches : List IfBranch) :
    (IfBranch.events branches).filterMap Event.leaf? =
      (branches.map (·.statements)).flatMap allLeaves := by
  induction branches with
  | nil => rfl
  | cons branch rest ih =>
    obtain ⟨test, body⟩ := branch
    rw [IfBranch.events, List.filterMap_cons_none rfl, List.filterMap_append, ih]
    rfl

theorem allLeaves_whens (whens : List CaseWhen) :
    (CaseWhen.events whens).filterMap Event.leaf? =
      (whens.map (·.statements)).flatMap allLeaves := by
  induction whens with
  | nil => rfl
  | cons arm rest ih =>
    obtain ⟨test, body⟩ := arm
    rw [CaseWhen.events, List.filterMap_cons_none rfl, List.filterMap_append, ih]
    rfl

theorem allLeaves_else (otherwise : Option (List Statement)) :
    (elseEvents otherwise).filterMap Event.leaf? = otherwise.toList.flatMap allLeaves := by
  cases otherwise with
  | none => rfl
  | some body => exact (List.append_nil _).symm

theorem allLeaves_of_leaf (hs : s.scopeKind? = none) : allLeaves [s] = [s] := by
  cases s <;> first | rfl | cases hs

/-- What holds no others in a statement is in one of the lists that the statement holds. -/
theorem allLeaves_of_holder {k : ScopeKind} (hs : s.scopeKind? = some k) :
    allLeaves [s] = s.held.flatMap allLeaves := by
  rw [allLeaves, allEvents_singleton]
  cases s with
  | declareHandler action conditions body =>
    rw [events, List.filterMap_cons_none rfl]
    simp [held, allLeaves, allEvents_singleton]
  | block b =>
    rw [events_block, List.filterMap_cons_none rfl, List.filterMap_append]
    rfl
  | ifElse branches otherwise =>
    rw [events, List.filterMap_cons_none rfl, List.filterMap_append, List.filterMap_append,
      allLeaves_branches, allLeaves_else, held, List.flatMap_append]
    exact List.append_nil _
  | cases operand whens otherwise =>
    rw [events, List.filterMap_cons_none rfl, List.filterMap_append, List.filterMap_append,
      allLeaves_whens, allLeaves_else, held, List.flatMap_append]
    exact List.append_nil _
  | loop label body =>
    rw [events, List.filterMap_cons_none rfl, List.filterMap_append]
    rfl
  | whileLoop label test body =>
    rw [events, List.filterMap_cons_none rfl, List.filterMap_append]
    rfl
  | repeatLoop label test body =>
    rw [events, List.filterMap_cons_none rfl, List.filterMap_append]
    rfl
  | _ => cases hs

theorem leavesAll_nil : LeavesAll Q [] := nofun

theorem leavesAll_append : LeavesAll Q (ss ++ ts) ↔ LeavesAll Q ss ∧ LeavesAll Q ts := by
  unfold LeavesAll
  rw [allLeaves_append, List.forall_mem_append]

theorem leavesAll_iff : LeavesAll Q ss ↔ ∀ s ∈ ss, LeavesAll Q [s] := by
  induction ss with
  | nil => exact ⟨fun _ => List.forall_mem_nil _, fun _ => leavesAll_nil⟩
  | cons s ss ih => rw [← List.singleton_append, leavesAll_append, ih, List.forall_mem_append,
      List.forall_mem_singleton]

/-- What holds statements has the property if each list that it holds has it. -/
theorem leavesAll_of_held {k : ScopeKind} (hs : s.scopeKind? = some k)
    (h : ∀ body ∈ s.held, LeavesAll Q body) : LeavesAll Q [s] := by
  intro t ht
  rw [allLeaves_of_holder hs] at ht
  obtain ⟨body, hbody, ht⟩ := List.mem_flatMap.1 ht
  exact h body hbody t ht

/-- A check that succeeds leaves the statements that hold no others as they are. -/
theorem leavesAll_check {s' : Statement} {c c' : Checker} (hs : LeavesAll Q [s])
    (h : s.check c = (.ok s', c')) : LeavesAll Q [s'] := by
  unfold LeavesAll allLeaves at hs ⊢
  rwa [allEvents_singleton, check_events s h, ← allEvents_singleton]

/-- Checks and what is made of statements bring no statements that hold no others. -/
theorem leavesAll_carried : Carried fun s => LeavesAll Q [s] where
  check := leavesAll_check
  holder hkind _ hheld := leavesAll_of_held hkind fun body hbody => leavesAll_iff.2 (hheld body hbody)

/-- What stands in a statement and holds no others is one of its leaves. -/
theorem mem_allLeaves_of_stands {levels : List Level} (h : Stands s levels t)
    (ht : t.scopeKind? = none) : t ∈ allLeaves [s] := by
  induction h with
  | here =>
    rw [allLeaves_of_leaf ht]
    exact List.mem_singleton_self _
  | @inside s u t before after levels hbody hstands ih =>
    have hmem : t ∈ allLeaves (before ++ u :: after) := by
      rw [allLeaves_append, allLeaves_cons]
      exact List.mem_append_right _ (List.mem_append_left _ (ih ht))
    cases hk : s.scopeKind? with
    | none =>
      rw [held_of_scopeKind? hk] at hbody
      cases hbody
    | some k =>
      rw [allLeaves_of_holder hk]
      exact List.mem_flatMap.2 ⟨_, hbody, hmem⟩

end Statement

/-! ## Runs -/

namespace Builder

open Statement

variable {b b' : Builder}

/-- A run in which every call succeeds is a run. -/
theorem run_of_runAll {calls : List Call} {u : Unit} (h : b.runAll calls = (.ok u, b')) :
    b.run calls = b' := by
  induction calls generalizing b with
  | nil =>
    cases h
    rfl
  | cons call calls ih =>
    rw [runAll] at h
    rcases hcall : b.perform call with ⟨e | u, t⟩
    · rw [hcall] at h
      cases h
    · rw [hcall] at h
      have hrun : b.run (call :: calls) = t.run calls :=
        congrArg (fun r : Except Error Unit × Builder => r.2.run calls) hcall
      exact hrun.trans (ih h)

/-- **Programs hold nothing but what calls have handed over**, whatever calls have failed. -/
theorem run_leaves {head : ProgramHead} {label : Operand} {stem : String} {b b' : Builder}
    {p : Program} {calls : List Call} (hb : Builder.start head label stem = .ok b)
    (hbuild : (b.run calls).build = (.ok p, b')) {levels : List Level} {t : Statement}
    (ht : Stands (.block p.body) levels t) (hleaf : t.scopeKind? = none) :
    ∃ call ∈ calls, t ∈ allLeaves call.given := by
  have hgiven : ∀ call ∈ calls, ∀ s ∈ call.given,
      LeavesAll (fun t => ∃ call ∈ calls, t ∈ allLeaves call.given) [s] :=
    fun call hcall => leavesAll_iff.1 fun t ht => ⟨call, hcall, ht⟩
  exact run_carried leavesAll_carried hb hgiven hbuild t (mem_allLeaves_of_stands ht hleaf)

end Builder
end StoredSql
