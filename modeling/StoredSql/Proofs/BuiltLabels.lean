import StoredSql.Proofs.FramedCalls

/-!
# Labels of programs that builders give

In a program that a builder gives (`built_labels_sound`), whatever calls have failed on the way: every
loop has a label, every label is one that a construct can have, no two labels on the way to a place
are the same name, and what is left or iterated is a construct around the place, with no handler in
between.
-/

namespace StoredSql

open Check Stepwise

/-! ## Labels at a place -/

/-- The kinds and the labels of scopes, from the innermost outwards. -/
abbrev Marks := List (Option ScopeKind × Option String)

/-- Whether a scope is seen from within scopes: no handler is in between. -/
def Marks.Sees (marks : Marks) (m : Option ScopeKind × Option String) : Prop :=
  ∃ between beyond, marks = between ++ m :: beyond ∧ ∀ x ∈ between, x.1 ≠ some .handler

/-- Whether a statement fits the labels of the scopes around it. -/
structure LabelFits (marks : Marks) (s : Statement) : Prop where
  labelled : s.scopeKind? = some .loop → s.label?.isSome = true
  valid : ∀ l, s.label? = some l → Identifier.checkLabel l = .ok l
  free : ∀ l, s.label? = some l → Scope.hasName (marks.filterMap (·.2)) l = false
  leaves : ∀ l, s = .leave l → ∃ kind t, marks.Sees (kind, some t) ∧ Text.sameName l t = true
  iterates : ∀ l, s = .iterate l → ∃ t, marks.Sees (some .loop, some t) ∧ Text.sameName l t = true

/-- A scope without a label around all the others does not count. -/
theorem LabelFits.of_append {marks : Marks} {kind : Option ScopeKind} {s : Statement}
    (h : LabelFits (marks ++ [(kind, none)]) s) : LabelFits marks s := by
  have hsees : ∀ {k : Option ScopeKind} {t : String},
      Marks.Sees (marks ++ [(kind, none)]) (k, some t) → marks.Sees (k, some t) := by
    rintro k t ⟨between, beyond, heq, hbetween⟩
    rcases List.eq_nil_or_concat beyond with rfl | ⟨beyond, x, rfl⟩
    · cases (List.append_inj' heq rfl).2
    · rw [List.concat_eq_append, ← List.cons_append, ← List.append_assoc] at heq
      exact ⟨between, beyond, (List.append_inj' heq rfl).1, hbetween⟩
  refine ⟨h.labelled, h.valid, fun l hl => ?_, fun l hl => ?_, fun l hl => ?_⟩
  · have hfree := h.free l hl
    rw [List.filterMap_append] at hfree
    simpa using hfree
  · obtain ⟨k, t, ht, hname⟩ := h.leaves l hl
    exact ⟨k, t, hsees ht, hname⟩
  · obtain ⟨t, ht, hname⟩ := h.iterates l hl
    exact ⟨t, hsees ht, hname⟩

/-- The kinds and the labels of the scopes of a checker. -/
def Checker.marks (c : Checker) : Marks := c.nesting.scopes.map fun s => (some s.kind, s.label)

variable {c c' d : Checker} {s : Statement} {l : String}

theorem Checker.Onward.marks (h : c.Onward c') : c'.marks = c.marks := by
  have hstateless : ∀ ss : List Scope, ss.map (fun s => (some s.kind, s.label)) =
      (ss.map Scope.stateless).map fun s => (some s.kind, s.label) := by
    intro ss
    rw [List.map_map]
    rfl
  unfold Checker.marks Nesting.scopes
  rw [List.map_cons, List.map_cons, h.inner.kind, h.inner.label, hstateless, h.outer, ← hstateless]

theorem Checker.Inside.marks {kind : ScopeKind} {label : Option String}
    (h : c.Inside kind label d) : d.marks = (some kind, label) :: c.marks := by
  have hleft : d.left.marks = c.marks := h.left.onward.marks
  obtain ⟨⟨inner, _ | ⟨s, ss⟩⟩, labels⟩ := d
  · cases h.around
  · rw [← hleft, ← h.kind, ← h.label]
    rfl

theorem Checker.filterMap_marks (c : Checker) :
    c.marks.filterMap (·.2) = c.nesting.openLabels := by
  unfold Checker.marks Nesting.openLabels
  rw [List.filterMap_map]
  rfl

/-- A label is found in a scope that is seen. -/
theorem sees_of_findLabel {ss : List Scope} {t : Scope} (h : Nesting.findLabel l ss = some t) :
    ∃ name, t.label = some name ∧ Text.sameName l name = true ∧
      Marks.Sees (ss.map fun s => (some s.kind, s.label)) (some t.kind, some name) := by
  induction ss with
  | nil => cases h
  | cons s ss ih =>
    rw [Nesting.findLabel] at h
    split at h
    · rename_i hlabel
      cases h
      obtain ⟨name, hname, hsame⟩ := (Option.any_eq_true _ _).1 hlabel
      exact ⟨name, hname, hsame, [], _, by rw [List.map_cons, hname]; rfl, List.forall_mem_nil _⟩
    · split at h
      · cases h
      · rename_i hkind
        obtain ⟨name, hname, hsame, between, beyond, heq, hbetween⟩ := ih h
        refine ⟨name, hname, hsame, (some s.kind, s.label) :: between, beyond, ?_, ?_⟩
        · rw [List.map_cons, heq]
          rfl
        · intro x hx
          rcases List.mem_cons.1 hx with rfl | hx
          · exact fun he => hkind (Option.some.inj he)
          · exact hbetween x hx

/-! ## Checks -/

/-- Whether the statements at a place fit the labels around them, wherever they stand. -/
def LabelsFit (c : Checker) (ss : List Statement) : Prop :=
  ∀ s ∈ ss, ∀ levels t, Stands s levels t → LabelFits (levels.map (·.mark) ++ c.marks) t

theorem LabelsFit.onward {ss : List Statement} (h : c.Onward c') (hss : LabelsFit c ss) :
    LabelsFit c' ss := by
  unfold LabelsFit
  rw [h.marks]
  exact hss

theorem leave_fits (h : (Statement.leave l).check c = (.ok s, c')) :
    ∃ kind t, c.marks.Sees (kind, some t) ∧ Text.sameName l t = true := by
  rw [Statement.check, noteStatement_bind] at h
  obtain ⟨_, _, htarget, _⟩ := bind_ok.1 h
  obtain ⟨hfound, _⟩ := ask_eq.1 htarget
  cases hscope : Nesting.findLabel l c.noted.nesting.scopes with
  | none =>
    rw [hscope] at hfound
    cases hfound
  | some t =>
    obtain ⟨name, _, hsame, hsees⟩ := sees_of_findLabel hscope
    have hsees' : c.noted.marks.Sees (some t.kind, some name) := hsees
    rw [c.moves_noted.onward.marks] at hsees'
    exact ⟨_, name, hsees', hsame⟩

theorem iterate_fits (h : (Statement.iterate l).check c = (.ok s, c')) :
    ∃ t, c.marks.Sees (some .loop, some t) ∧ Text.sameName l t = true := by
  rw [Statement.check, noteStatement_bind] at h
  obtain ⟨_, _, htarget, _⟩ := bind_ok.1 h
  obtain ⟨hfound, _⟩ := ask_eq.1 htarget
  cases hscope : Nesting.findLabel l c.noted.nesting.scopes with
  | none =>
    rw [hscope] at hfound
    cases hfound
  | some t =>
    rw [hscope] at hfound
    dsimp only at hfound
    split at hfound
    · rename_i hloop
      obtain ⟨name, _, hsame, hsees⟩ := sees_of_findLabel hscope
      have hsees' : c.noted.marks.Sees (some t.kind, some name) := hsees
      rw [c.moves_noted.onward.marks, hloop] at hsees'
      exact ⟨name, hsees', hsame⟩
    · cases hfound

/-- What holds no statements fits the labels around it, if its check succeeds. -/
theorem leaf_fits (hs : s.scopeKind? = none) (h : s.check c = (.ok s, c')) :
    LabelFits c.marks s := by
  have hlabel : s.label? = none := by cases s <;> first | rfl | cases hs
  refine ⟨fun hloop => ?_, fun l hl => ?_, fun l hl => ?_, ?_, ?_⟩
  · cases hs.symm.trans hloop
  · cases hlabel.symm.trans hl
  · cases hlabel.symm.trans hl
  · rintro l rfl
    exact leave_fits h
  · rintro l rfl
    exact iterate_fits h

/-- What holds statements fits the labels around it where it has its place. -/
theorem holder_fits {P : Checker → List Statement → Prop} {kind : ScopeKind}
    (h : c.Takes P s kind) : LabelFits c.marks s := by
  have hfree : ∀ l, s.label? = some l →
      Identifier.checkLabel l = .ok l ∧ Scope.hasName c.nesting.openLabels l = false := by
    intro l hl
    have hheld : ∃ body, body ∈ s.held := by
      cases s with
      | block b => exact ⟨_, List.mem_singleton_self _⟩
      | loop label body => exact ⟨_, List.mem_singleton_self _⟩
      | whileLoop label test body => exact ⟨_, List.mem_singleton_self _⟩
      | repeatLoop label test body => exact ⟨_, List.mem_singleton_self _⟩
      | _ => cases hl
    obtain ⟨body, hbody⟩ := hheld
    obtain ⟨d, hd, _⟩ := h.held body hbody
    exact hd.free l hl
  refine ⟨fun hloop => ?_, fun l hl => (hfree l hl).1, fun l hl => ?_, ?_, ?_⟩
  · exact h.labelled (Option.some.inj (h.kind.symm.trans hloop))
  · rw [c.filterMap_marks]
    exact (hfree l hl).2
  · rintro l rfl
    cases h.kind
  · rintro l rfl
    cases h.kind

theorem labelsFit_upheld : Upheld LabelsFit where
  moves h := LabelsFit.onward h.onward
  fresh _ := nofun
  leaf := by
    intro c c' ss s hs h hss t ht
    have honward := (Statement.check_onward s).apply h
    rcases List.mem_append.1 ht with ht | ht
    · exact hss.onward honward t ht
    · obtain rfl := List.mem_singleton.1 ht
      intro levels u hu
      obtain ⟨rfl, rfl⟩ := hu.of_leaf hs
      rw [honward.marks]
      exact leaf_fits hs h
  holder := by
    intro c ss s kind h hss t ht
    rcases List.mem_append.1 ht with ht | ht
    · exact hss t ht
    · obtain rfl := List.mem_singleton.1 ht
      intro levels u hu
      cases hu with
      | here => exact holder_fits h
      | @inside _ v _ before after levels hmem hu =>
        obtain ⟨d, hd, hbody⟩ := h.held _ hmem
        have hv := hbody v (List.mem_append_right _ List.mem_cons_self) levels u hu
        rw [hd.marks] at hv
        rw [List.map_append, List.append_assoc]
        have hmark : (Level.mk t before).mark = (some kind, t.label?) := by
          unfold Level.mark
          rw [h.kind]
        rw [List.map_singleton, hmark]
        exact hv

theorem labelsFit_lasting : Lasting LabelsFit := fun _ _ _ h => LabelsFit.onward h

/-! ## Programs -/

/-- Whether a level is seen from a place inside: no handler is in between. -/
def Level.Seen (levels : List Level) (l : Level) : Prop :=
  ∃ between beyond, levels = between ++ l :: beyond ∧
    ∀ x ∈ between, x.holder.scopeKind? ≠ some .handler

/-- Whether a statement is sound with respect to labels, where it stands in a program: labels on the
way to it are different names, loops have labels, labels are valid, and what is left or iterated is
a labelled construct around it. -/
structure LabelsSound (levels : List Level) (s : Statement) : Prop where
  different : (s.label?.toList ++ levels.filterMap (·.holder.label?)).Pairwise
    fun l m => Text.sameName l m = false
  labelled : s.scopeKind? = some .loop → s.label?.isSome = true
  valid : ∀ l, s.label? = some l → Identifier.checkLabel l = .ok l
  leaves : ∀ l, s = .leave l → ∃ level : Level, ∃ t, level.Seen levels ∧
    level.holder.label? = some t ∧ Text.sameName l t = true
  iterates : ∀ l, s = .iterate l → ∃ level : Level, ∃ t, level.Seen levels ∧
    level.holder.scopeKind? = some .loop ∧ level.holder.label? = some t ∧ Text.sameName l t = true

theorem Level.seen_of_marks {levels : List Level} {m : Option ScopeKind × Option String}
    (h : Marks.Sees (levels.map (·.mark)) m) : ∃ l : Level, l.Seen levels ∧ l.mark = m := by
  obtain ⟨between, beyond, heq, hbetween⟩ := h
  obtain ⟨inner, rest, rfl, rfl, hrest⟩ := List.map_eq_append_iff.1 heq
  obtain ⟨l, outer, rfl, hl, _⟩ := List.map_eq_cons_iff.1 hrest
  exact ⟨l, ⟨inner, outer, rfl, fun x hx => hbetween _ (List.mem_map_of_mem hx)⟩, hl⟩

/-- Where each statement fits the labels around it, the labels on the way to a place are different
names. -/
theorem labels_different {root : Statement}
    (hfits : ∀ levels t, Stands root levels t → LabelFits (levels.map (·.mark)) t)
    (levels : List Level) (s : Statement) (h : Stands root levels s) :
    (s.label?.toList ++ levels.filterMap (·.holder.label?)).Pairwise
      fun l m => Text.sameName l m = false := by
  have hout : (levels.filterMap (·.holder.label?)).Pairwise
      fun l m => Text.sameName l m = false := by
    cases levels with
    | nil => exact .nil
    | cons level levels =>
      have hlevel := labels_different hfits levels level.holder h.outward
      rw [List.filterMap_cons]
      cases hlabel : level.holder.label? with
      | none =>
        rw [hlabel] at hlevel
        exact hlevel
      | some l =>
        rw [hlabel] at hlevel
        exact hlevel
  cases hlabel : s.label? with
  | none => exact hout
  | some l =>
    refine List.pairwise_cons.2 ⟨fun m hm => ?_, hout⟩
    have hfree := (hfits levels s h).free l hlabel
    rw [List.filterMap_map] at hfree
    exact Bool.eq_false_iff.2 fun hsame => List.any_eq_false.1 hfree m hm hsame

/-- The statements of a program fit the labels around them. -/
theorem built_labelFits {head : ProgramHead} {label : Operand} {stem : String} {b b' : Builder}
    {p : Program} (calls : List Call) (hb : Builder.start head label stem = .ok b)
    (hbuild : (b.run calls).build = (.ok p, b')) (levels : List Level) (s : Statement)
    (hs : Stands (.block p.body) levels s) : LabelFits (levels.map (·.mark)) s := by
  have hroot : LabelsFit (head.checker stem) [.block p.body] :=
    Program.upheld labelsFit_upheld labelsFit_lasting calls hb hbuild nofun
  exact (hroot _ (List.mem_singleton_self _) levels s hs).of_append

/-- **Labels of programs are sound**, whatever calls have failed on the way. -/
theorem built_labels_sound {head : ProgramHead} {label : Operand} {stem : String} {b b' : Builder}
    {p : Program} (calls : List Call) (hb : Builder.start head label stem = .ok b)
    (hbuild : (b.run calls).build = (.ok p, b')) {levels : List Level} {s : Statement}
    (hs : Stands (.block p.body) levels s) : LabelsSound levels s := by
  have hfits := built_labelFits calls hb hbuild
  have hs' := hfits levels s hs
  refine ⟨labels_different hfits levels s hs, hs'.labelled, hs'.valid, fun l hl => ?_,
    fun l hl => ?_⟩
  · obtain ⟨kind, t, hsees, hsame⟩ := hs'.leaves l hl
    obtain ⟨level, hseen, hmark⟩ := Level.seen_of_marks hsees
    exact ⟨level, t, hseen, congrArg Prod.snd hmark, hsame⟩
  · obtain ⟨t, hsees, hsame⟩ := hs'.iterates l hl
    obtain ⟨level, hseen, hmark⟩ := Level.seen_of_marks hsees
    exact ⟨level, t, hseen, congrArg Prod.fst hmark, congrArg Prod.snd hmark, hsame⟩

/-- Calls for a loop that is left, by another spelling of its label; the second call fails. -/
def relabelled : List Call := [
  .openLoop (.value (.text "again")),
  .openLoop (.value (.text "AGAIN")),
  .leave "Again",
  .endLoop]

/-- Whether a program is a loop that is left, by that label. -/
def Program.leavesLoop (l : String) : Program → Bool
  | .block ⟨[.loop _ [.leave t]], _, _⟩ => t == l
  | _ => false

/-- What is left inside a loop is the loop. -/
theorem relabelled_sound : ∃ b p b' levels,
    Builder.start .block (.value .null) Builder.usualStem = .ok b ∧
      (b.run relabelled).build = (.ok p, b') ∧ Stands (.block p.body) levels (.leave "Again") ∧
      LabelsSound levels (.leave "Again") := by
  have hshape : (emptyBuilder.run relabelled).build.1.toOption.any (·.leavesLoop "Again") = true := by
    decide +kernel
  rcases hbuild : (emptyBuilder.run relabelled).build with ⟨e | p, b'⟩
  · rw [hbuild] at hshape
    cases hshape
  rw [hbuild] at hshape
  have hloop : p.leavesLoop "Again" = true := hshape
  unfold Program.leavesLoop at hloop
  split at hloop
  · rename_i label l body view
    obtain rfl := beq_iff_eq.1 hloop
    have hstart : Builder.start .block (.value .null) Builder.usualStem = .ok emptyBuilder := rfl
    have hstands : Stands (.block ⟨[.loop label [.leave "Again"]], body, view⟩)
        [⟨.loop label [.leave "Again"], []⟩, ⟨.block ⟨[.loop label [.leave "Again"]], body, view⟩, []⟩]
        (.leave "Again") :=
      .inside (List.mem_singleton_self _) (.inside (List.mem_singleton_self _) .here)
    exact ⟨emptyBuilder, _, b', _, hstart, hbuild, hstands,
      built_labels_sound relabelled hstart hbuild hstands⟩
  · cases hloop

end StoredSql
