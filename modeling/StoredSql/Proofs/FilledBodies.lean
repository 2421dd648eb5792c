import StoredSql.Proofs.CarriedStatements
import StoredSql.Proofs.FilledLabels

/-!
# Bodies of constructs

Each branch and arm, each loop and each handler of a program has a statement to execute
(`built_hasBodies`): constructs are not made without one, and a check that gives a statement back
with labels filled in brings and drops none.
-/

namespace StoredSql

open Check Stepwise

/-! ## Labels filled in -/

variable {P : String → Prop} {s s' : Statement} {ss ss' : List Statement}

namespace Statement

theorem Filled.isEmpty (h : Filled P s s') : s'.isEmpty = s.isEmpty := by
  cases h <;> rfl

theorem Filled.checkHandlerBody (h : Filled P s s') :
    checkHandlerBody s' = Statement.checkHandlerBody s := by
  cases h <;> rfl

theorem AllFilled.mem (h : AllFilled P ss ss') (hs : s' ∈ ss') : ∃ s ∈ ss, Filled P s s' := by
  induction ss' generalizing ss with
  | nil => cases hs
  | cons t ts ih =>
    cases h with
    | cons ht hts =>
      rcases List.mem_cons.1 hs with rfl | hs
      · exact ⟨_, List.mem_cons_self, ht⟩
      · obtain ⟨s, hmem, hs⟩ := ih hts hs
        exact ⟨s, List.mem_cons_of_mem _ hmem, hs⟩

theorem AllFilled.all_isEmpty (h : AllFilled P ss ss') : ss'.all isEmpty = ss.all isEmpty := by
  induction ss' generalizing ss with
  | nil =>
    cases h
    rfl
  | cons t ts ih =>
    cases h with
    | cons ht hts => rw [List.all_cons, List.all_cons, ht.isEmpty, ih hts]

end Statement

theorem IfBranch.AllFilled.mem {bs bs' : List IfBranch} (h : AllFilled P bs bs')
    (hs : ss' ∈ bs'.map (·.statements)) :
    ∃ ss ∈ bs.map (·.statements), Statement.AllFilled P ss ss' := by
  induction bs' generalizing bs with
  | nil => cases hs
  | cons b bs' ih =>
    cases h with
    | cons test hbody hrest =>
      rcases List.mem_cons.1 hs with rfl | hs
      · exact ⟨_, List.mem_cons_self, hbody⟩
      · obtain ⟨ss, hmem, hss⟩ := ih hrest hs
        exact ⟨ss, List.mem_cons_of_mem _ hmem, hss⟩

theorem CaseWhen.AllFilled.mem {ws ws' : List CaseWhen} (h : AllFilled P ws ws')
    (hs : ss' ∈ ws'.map (·.statements)) :
    ∃ ss ∈ ws.map (·.statements), Statement.AllFilled P ss ss' := by
  induction ws' generalizing ws with
  | nil => cases hs
  | cons w ws' ih =>
    cases h with
    | cons test hbody hrest =>
      rcases List.mem_cons.1 hs with rfl | hs
      · exact ⟨_, List.mem_cons_self, hbody⟩
      · obtain ⟨ss, hmem, hss⟩ := ih hrest hs
        exact ⟨ss, List.mem_cons_of_mem _ hmem, hss⟩

namespace Statement

theorem ElseFilled.mem {otherwise otherwise' : Option (List Statement)}
    (h : ElseFilled P otherwise otherwise') (hs : ss' ∈ otherwise'.toList) :
    ∃ ss ∈ otherwise.toList, AllFilled P ss ss' := by
  cases h with
  | none => cases hs
  | some hbody => exact ⟨_, List.mem_singleton_self _, List.mem_singleton.1 hs ▸ hbody⟩

/-- What a statement holds comes from what it has held before. -/
theorem Filled.held (h : Filled P s s') (hs : ss' ∈ s'.held) :
    ∃ ss ∈ s.held, AllFilled P ss ss' := by
  cases h with
  | same hleaf =>
    rw [held_of_scopeKind? hleaf] at hs
    cases hs
  | declareHandler action conditions hbody =>
    exact ⟨_, List.mem_singleton_self _, List.mem_singleton.1 hs ▸ .cons hbody .nil⟩
  | block label view view' hbody =>
    exact ⟨_, List.mem_singleton_self _, List.mem_singleton.1 hs ▸ hbody⟩
  | ifElse hbranches helse =>
    rcases List.mem_append.1 hs with hs | hs
    · obtain ⟨ss, hmem, hss⟩ := hbranches.mem hs
      exact ⟨ss, List.mem_append_left _ hmem, hss⟩
    · obtain ⟨ss, hmem, hss⟩ := helse.mem hs
      exact ⟨ss, List.mem_append_right _ hmem, hss⟩
  | cases operand hwhens helse =>
    rcases List.mem_append.1 hs with hs | hs
    · obtain ⟨ss, hmem, hss⟩ := hwhens.mem hs
      exact ⟨ss, List.mem_append_left _ hmem, hss⟩
    · obtain ⟨ss, hmem, hss⟩ := helse.mem hs
      exact ⟨ss, List.mem_append_right _ hmem, hss⟩
  | loop _ hbody => exact ⟨_, List.mem_singleton_self _, List.mem_singleton.1 hs ▸ hbody⟩
  | whileLoop _ _ hbody => exact ⟨_, List.mem_singleton_self _, List.mem_singleton.1 hs ▸ hbody⟩
  | repeatLoop _ _ hbody => exact ⟨_, List.mem_singleton_self _, List.mem_singleton.1 hs ▸ hbody⟩

theorem Filled.hasBodies (h : Filled P s s') (hs : s.HasBodies) : s'.HasBodies where
  filled hblock body' hbody' := by
    obtain ⟨body, hbody, hfilled⟩ := h.held hbody'
    rw [hfilled.all_isEmpty]
    refine hs.filled ?_ body hbody
    rintro b rfl
    cases h with
    | same hleaf => cases hleaf
    | block label view view' hss => exact hblock _ rfl
  handles hhandler := by
    subst hhandler
    cases h with
    | same hleaf => cases hleaf
    | declareHandler action conditions hbody => exact hbody.checkHandlerBody.trans (hs.handles rfl)

/-- Filling labels in leaves all bodies what they are. -/
theorem Filled.everywhere_hasBodies (h : Filled P s s') (hs : s.Everywhere HasBodies) :
    s'.Everywhere HasBodies := by
  intro levels t ht
  induction ht generalizing s with
  | here => exact h.hasBodies (hs .here)
  | inside hbody' _ ih =>
    obtain ⟨body, hbody, hfilled⟩ := h.held hbody'
    obtain ⟨u, hu, hfilled⟩ := hfilled.mem (List.mem_append_right _ List.mem_cons_self)
    exact ih hfilled (hs.held hbody u hu)

theorem hasBodies_carried : Carried (Everywhere HasBodies) where
  check hs h := (check_filled _ h (Std.Refl.refl _) (Std.Refl.refl _)).everywhere_hasBodies hs
  holder _ hbodies hheld := everywhere_iff.2 ⟨hbodies, hheld⟩

/-! ## Made statements -/

theorem areMade_iff : areMade ss = true ↔ ∀ s ∈ ss, s.isMade = true := by
  induction ss with
  | nil => exact ⟨fun _ => List.forall_mem_nil _, fun _ => rfl⟩
  | cons s ss ih => rw [areMade, Bool.and_eq_true, ih, List.forall_mem_cons]

/-- Whether a list of made statements has one to execute. -/
def IsBody (ss : List Statement) : Prop := ss.all isEmpty = false ∧ areMade ss = true

theorem isBody_iff : (!ss.all isEmpty && areMade ss) = true ↔ IsBody ss := by
  rw [Bool.and_eq_true, Bool.not_eq_true', IsBody]

theorem isBody_of_elseIsMade {otherwise : Option (List Statement)}
    (h : elseIsMade otherwise = true) : ∀ body ∈ otherwise.toList, IsBody body := by
  cases otherwise with
  | none => exact List.forall_mem_nil _
  | some body => exact List.forall_mem_singleton.2 (isBody_iff.1 h)

end Statement

theorem IfBranch.isBody_of_areMade {bs : List IfBranch} (h : areMade bs = true) :
    ∀ body ∈ bs.map (·.statements), Statement.IsBody body := by
  induction bs with
  | nil => exact List.forall_mem_nil _
  | cons b bs ih =>
    obtain ⟨test, body⟩ := b
    rw [areMade, Bool.and_eq_true, Statement.isBody_iff] at h
    exact List.forall_mem_cons.2 ⟨h.1, ih h.2⟩

theorem CaseWhen.isBody_of_areMade {ws : List CaseWhen} (h : areMade ws = true) :
    ∀ body ∈ ws.map (·.statements), Statement.IsBody body := by
  induction ws with
  | nil => exact List.forall_mem_nil _
  | cons w ws ih =>
    obtain ⟨test, body⟩ := w
    rw [areMade, Bool.and_eq_true, Statement.isBody_iff] at h
    exact List.forall_mem_cons.2 ⟨h.1, ih h.2⟩

namespace Statement

/-- What a handler does is executed. -/
theorem isEmpty_of_checkHandlerBody {u : Unit} (h : checkHandlerBody s = .ok u) :
    s.isEmpty = false := by
  cases s with
  | empty => cases h
  | _ => rfl

/-- A handler does not execute white space. -/
theorem isEmpty_trim_of_checkHandlerBody {sql : String} {u : Unit}
    (h : checkHandlerBody (raw sql) = .ok u) : (Text.trim sql).isEmpty = false := by
  refine Bool.eq_false_iff.2 fun hblank => ?_
  have hrefused : checkHandlerBody (raw sql) = .error _ := if_pos hblank
  rw [hrefused] at h
  cases h

theorem hasBodies_declareHandler {action : HandlerAction} {conditions : List ConditionValue}
    {u : Unit} (h : checkHandlerBody s = .ok u) :
    (declareHandler action conditions s).HasBodies where
  filled _ := by
    refine List.forall_mem_singleton.2 ?_
    rw [List.all_cons, isEmpty_of_checkHandlerBody h, Bool.false_and]
  handles hs := (declareHandler.inj hs).2.2 ▸ h

/-- What a made statement holds is made, and each list of it but those of blocks is a body. -/
theorem held_of_isMade (h : s.isMade = true) :
    s.HasBodies ∧ ∀ body ∈ s.held, areMade body = true := by
  have hbodies : s.scopeKind? ≠ some .handler → (∀ body ∈ s.held, IsBody body) →
      s.HasBodies ∧ ∀ body ∈ s.held, areMade body = true :=
    fun hhandler h => ⟨.of_filled hhandler fun _ body hbody => (h body hbody).1,
      fun body hbody => (h body hbody).2⟩
  cases s with
  | declareHandler action conditions body =>
    simp only [isMade, Bool.and_eq_true] at h
    rcases hok : checkHandlerBody body with e | u
    · rw [hok] at h
      cases h.1.2
    · exact ⟨hasBodies_declareHandler hok,
        List.forall_mem_singleton.2 (areMade_iff.2 (List.forall_mem_singleton.2 h.2))⟩
  | block b =>
    obtain ⟨statements, label, scope⟩ := b
    rw [isMade] at h
    exact ⟨.of_filled (by rintro ⟨⟩) fun hb => absurd rfl (hb _), List.forall_mem_singleton.2 h⟩
  | ifElse branches otherwise =>
    simp only [isMade, Bool.and_eq_true] at h
    exact hbodies (by rintro ⟨⟩) (List.forall_mem_append.2
      ⟨IfBranch.isBody_of_areMade h.1.2, isBody_of_elseIsMade h.2⟩)
  | cases operand whens otherwise =>
    simp only [isMade, Bool.and_eq_true] at h
    exact hbodies (by rintro ⟨⟩) (List.forall_mem_append.2
      ⟨CaseWhen.isBody_of_areMade h.1.2, isBody_of_elseIsMade h.2⟩)
  | loop label body => exact hbodies (by rintro ⟨⟩) (List.forall_mem_singleton.2 (isBody_iff.1 h))
  | whileLoop label test body =>
    exact hbodies (by rintro ⟨⟩) (List.forall_mem_singleton.2 (isBody_iff.1 h))
  | repeatLoop label test body =>
    exact hbodies (by rintro ⟨⟩) (List.forall_mem_singleton.2 (isBody_iff.1 h))
  | _ => exact hbodies (by rintro ⟨⟩) (List.forall_mem_nil _)

theorem everywhere_hasBodies_of_isMade (h : s.isMade = true) : s.Everywhere HasBodies := by
  intro levels t ht
  induction ht with
  | here => exact (held_of_isMade h).1
  | inside hbody _ ih =>
    have hbody := (held_of_isMade h).2 _ hbody
    exact ih (areMade_iff.1 hbody _ (List.mem_append_right _ List.mem_cons_self))

end Statement

/-! ## Programs -/

open Statement in
/-- **Programs have no empty bodies**, whatever calls have failed on the way, if what calls are given
as it is is made. -/
theorem built_hasBodies {head : ProgramHead} {label : Operand} {stem : String} {b b' : Builder}
    {p : Program} {calls : List Call} (hmade : ∀ call ∈ calls, areMade call.prebuilt = true)
    (hb : Builder.start head label stem = .ok b) (hbuild : (b.run calls).build = (.ok p, b')) :
    (Statement.block p.body).Everywhere HasBodies := by
  have hleaf : ∀ s : Statement, s.scopeKind? = none ∧ s.IsPlain → s.Everywhere HasBodies := by
    rintro s ⟨hleaf, -⟩
    have hnone : ∀ {Q : List Statement → Prop}, ∀ body ∈ s.held, Q body := by
      rw [held_of_scopeKind? hleaf]
      exact List.forall_mem_nil _
    exact everywhere_iff.2 ⟨.of_filled (by simp [hleaf]) fun _ => hnone, hnone⟩
  refine Builder.run_carried hasBodies_carried hb (fun call hcall => ?_) hbuild
  have hprebuilt := areMade_iff.1 (hmade call hcall)
  refine call.given_cases hleaf (fun s hs => everywhere_hasBodies_of_isMade (hprebuilt s hs)) ?_
  intro action conditions body s hbody hs
  obtain ⟨a, _, _, _, hok, rfl⟩ := makeDeclareHandler_eq_ok.1 hs
  exact hasBodies_carried.holder rfl (hasBodies_declareHandler hok)
    (List.forall_mem_singleton.2 (List.forall_mem_singleton.2 hbody))

end StoredSql
