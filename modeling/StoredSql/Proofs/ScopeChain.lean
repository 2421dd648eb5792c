import StoredSql.Proofs.BuiltLabels
import StoredSql.Proofs.GeneratedLabels
import StoredSql.Proofs.OpenFrames

/-!
# Open constructs and their scopes

The open constructs of a builder and the scopes that it checks against are changed apart from each
other. They fit all the same, whatever calls have come and failed (`Builder.InStep`): from the
innermost scope outwards there are just the scopes of the open constructs, each inside the one where
its construct has been opened, and the labels that are open are those of the constructs
(`Builder.comesTo_inStep`).
-/

namespace StoredSql

open Check Stepwise

variable {P : Checker → List Statement → Prop} {c c' d start : Checker}

/-! ## The scopes of a construct -/

/-- The kinds and the labels of the scopes of a construct, innermost first. -/
def Construct.scopeMarks : Construct → Marks
  | block label _ => [(some .block, label)]
  | handler .. => [(some .block, none), (some .handler, none)]
  | ifElse _ => [(some .branch, none)]
  | cases part => if part.entered then [(some .branch, none)] else []
  | loop label | whileLoop label _ | repeatLoop label => [(some .loop, some label)]

/-- A label that a scope has been given is not the empty text. -/
theorem Checker.Inside.nonEmpty {kind : ScopeKind} {label : Option String}
    (h : c.Inside kind label d) : Text.nonEmpty label = label := by
  cases label with
  | none => rfl
  | some l =>
    rw [Text.nonEmpty_some, if_neg]
    rintro rfl
    cases (h.free "" rfl).1

theorem Checker.Inside.openLabels {kind : ScopeKind} {label : Option String}
    (h : c.Inside kind label d) : d.nesting.openLabels = label.toList ++ c.nesting.openLabels := by
  rw [← d.filterMap_marks, h.marks, ← c.filterMap_marks, List.filterMap_cons]
  cases label <;> rfl

namespace Construct

variable {k : Construct} {ss : List Statement}

theorem length_scopeMarks (k : Construct) : k.scopeMarks.length = k.scopeCount := by
  cases k with
  | cases part =>
    show (if part.entered then _ else _ : Marks).length = if part.entered then 1 else 0
    split <;> rfl
  | _ => rfl

/-- Only a case can be without a scope. -/
theorem kind_of_scopeCount (h : k.scopeCount = 0) : k.kind = .cases := by
  cases k with
  | cases part => rfl
  | _ => cases h

/-- The scopes of an open construct are inside those where it has been opened. -/
theorem Opened.marks (h : k.Opened P c d ss) : d.marks = k.scopeMarks ++ c.marks := by
  cases k with
  | block label view => exact h.2.1.marks
  | handler action conditions before =>
    obtain ⟨_, _, t, ht, _, hd, _⟩ := h
    rw [hd.marks, ht.marks]
    rfl
  | ifElse part =>
    obtain ⟨_, _, _, _, hd, _⟩ := h
    exact hd.marks
  | cases part =>
    obtain ⟨_, _, _, _, _, h⟩ := h
    show d.marks = (if part.entered then [(some .branch, none)] else []) ++ c.marks
    split at h
    · rw [if_pos ‹_›]
      exact h.1.marks
    · rw [if_neg ‹_›]
      exact h.1.onward.marks
  | loop label => exact h.2.1.marks
  | whileLoop label test => exact h.2.2.1.marks
  | repeatLoop label => exact h.2.1.marks

/-- The labels of the scopes of an open construct are its own one, if it has one. -/
theorem Opened.scopeLabels (h : k.Opened P c d ss) :
    k.scopeMarks.filterMap (·.2) = k.label?.toList := by
  cases k with
  | block label view =>
    show [(some ScopeKind.block, label)].filterMap (·.2) = (Text.nonEmpty label).toList
    rw [h.2.1.nonEmpty]
    cases label <;> rfl
  | cases part =>
    show (if part.entered then [(some .branch, none)] else [] : Marks).filterMap (·.2) = []
    split <;> rfl
  | _ => rfl

/-- The label of an open construct was free where it has been opened. -/
theorem Opened.label_free (h : k.Opened P c d ss) {l : String} (hl : k.label? = some l) :
    Scope.hasName c.nesting.openLabels l = false := by
  cases k with
  | block label view => exact (h.2.1.free l (h.2.1.nonEmpty ▸ hl)).2
  | loop label => exact (h.2.1.free l hl).2
  | whileLoop label test => exact (h.2.2.1.free l hl).2
  | repeatLoop label => exact (h.2.1.free l hl).2
  | _ => cases hl

theorem Opened.openLabels (h : k.Opened P c d ss) :
    d.nesting.openLabels = k.label?.toList ++ c.nesting.openLabels := by
  rw [← d.filterMap_marks, h.marks, List.filterMap_append, h.scopeLabels, c.filterMap_marks]

end Construct

/-- A free label is none of those that there are, in any case. -/
theorem pairwise_labels {labels : List String} {label : Option String}
    (h : labels.Pairwise fun l l' => Text.sameName l l' = false)
    (hfree : ∀ l, label = some l → Scope.hasName labels l = false) :
    (label.toList ++ labels).Pairwise fun l l' => Text.sameName l l' = false := by
  cases label with
  | none => exact h
  | some l =>
    refine List.Pairwise.cons (fun l' hl' => ?_) h
    exact Bool.eq_false_iff.2 (List.any_eq_false.1 (hfree l rfl) l' hl')

/-! ## Scopes of the open constructs -/

namespace Checker

theorem leaveScopes_add (m n : Nat) (c : Checker) :
    c.leaveScopes (m + n) = (c.leaveScopes m).leaveScopes n := by
  induction m generalizing c with
  | zero => rw [Nat.zero_add, leaveScopes]
  | succ m ih =>
    rw [Nat.succ_add, leaveScopes, leaveScopes]
    exact ih _

theorem Still.leaveScopes (h : c.Still c') (n : Nat) :
    (c.leaveScopes n).Still (c'.leaveScopes n) := by
  induction n generalizing c c' with
  | zero => exact h
  | succ n ih =>
    refine ih ?_
    obtain ⟨⟨inner, outer⟩, labels⟩ := c
    obtain ⟨⟨inner', outer'⟩, labels'⟩ := c'
    cases outer with
    | nil =>
      obtain ⟨hinner, houter⟩ := List.cons.inj h
      obtain rfl := List.map_eq_nil_iff.1 houter
      exact h
    | cons s ss =>
      cases outer' with
      | nil => cases (List.cons.inj h).2
      | cons s' ss' => exact (List.cons.inj h).2

/-- Where there are scopes around some of the innermost ones, what is left outside of those is told
by them. -/
theorem still_of_beyond {m n : Nat} (h : c'.beyond n = c.beyond m) (hne : c.beyond m ≠ []) :
    (c.leaveScopes m).Still (c'.leaveScopes n) := by
  have hm : (c.leaveScopes m).beyond 0 = c.beyond m := beyond_leaveScopes hne 0
  have hn : (c'.leaveScopes n).beyond 0 = c'.beyond n := beyond_leaveScopes (h ▸ hne) 0
  exact hn.trans (h.trans hm.symm)

end Checker

theorem length_flatMap_scopeMarks (fs : List Frame) :
    (fs.flatMap (·.construct.scopeMarks)).length = scopeCounts fs := by
  induction fs with
  | nil => rfl
  | cons f fs ih =>
    rw [List.flatMap_cons, List.length_append, f.construct.length_scopeMarks, ih, scopeCounts]

theorem scopeCounts_map_shell (fs : List Frame) :
    scopeCounts (fs.map Frame.shell) = scopeCounts fs := by
  induction fs with
  | nil => rfl
  | cons f fs ih => exact congrArg (f.construct.scopeCount + ·) ih

namespace Framed

variable {fs above below : List Frame} {f : Frame}

/-- From the innermost scope outwards there are the scopes of the open constructs, then those that
the program is in. -/
theorem marks (h : Framed P start fs d) :
    d.marks = fs.flatMap (·.construct.scopeMarks) ++ start.marks := by
  induction h with
  | @root f label view d hk hinside _ _ =>
    rw [List.flatMap_singleton, hk]
    exact hinside.marks
  | @frame f g fs c d _ _ hopened ih => rw [List.flatMap_cons, List.append_assoc, hopened.marks, ih]

/-- The same outside of the scopes of the innermost constructs. -/
theorem marks_around (h : Framed P start fs d) (hfs : fs = above ++ below) :
    (d.leaveScopes (scopeCounts above)).marks =
      below.flatMap (·.construct.scopeMarks) ++ start.marks := by
  induction h generalizing above with
  | @root f label view d hk hinside hP hbegins =>
    cases above with
    | nil =>
      rw [← show [f] = below from hfs]
      exact (Framed.root hk hinside hP hbegins).marks
    | cons g above =>
      obtain ⟨rfl, hnil⟩ := List.cons.inj hfs
      obtain ⟨rfl, rfl⟩ := List.append_eq_nil_iff.1 hnil.symm
      have hcounts : scopeCounts [f] = 1 := by
        unfold scopeCounts
        rw [hk]
        rfl
      rw [hcounts]
      exact hinside.left.onward.marks
  | @frame f g fs c d hframed ht hopened ih =>
    cases above with
    | nil =>
      rw [← show f :: g :: fs = below from hfs]
      exact (Framed.frame hframed ht hopened).marks
    | cons f' above =>
      obtain ⟨rfl, hrest⟩ := List.cons.inj hfs
      rw [scopeCounts, Checker.leaveScopes_add, ← ih hrest]
      exact (hopened.left.leaveScopes (scopeCounts above)).onward.marks

/-- Only the innermost construct can be without a scope, and only where it is a case. -/
theorem scopeless (h : Framed P start fs d) (hfs : fs = above ++ f :: below)
    (hf : f.construct.scopeCount = 0) : above = [] ∧ f.construct.kind = .cases := by
  refine ⟨?_, Construct.kind_of_scopeCount hf⟩
  induction h generalizing above with
  | root =>
    cases above with
    | nil => rfl
    | cons f' above => exact absurd (List.cons.inj hfs).2 (by simp)
  | frame _ ht _ ih =>
    cases above with
    | nil => rfl
    | cons f' above =>
      have hrest := (List.cons.inj hfs).2
      obtain rfl := ih hrest
      obtain ⟨rfl, _⟩ := List.cons.inj hrest
      obtain ⟨n, hn⟩ := Construct.scopeCount_of_takesStatements ht
      rw [hf] at hn
      cases hn

/-- There are scopes around those of the open constructs. -/
theorem beyond_ne_nil (h : Framed P start fs d) (hfs : fs = above ++ below) :
    d.beyond (scopeCounts above) ≠ [] := by
  intro hnil
  have hdrop : d.marks.drop (scopeCounts above) = [] := by
    unfold Checker.marks
    rw [← List.map_drop, List.map_eq_nil_iff.1 hnil, List.map_nil]
  rw [h.marks, hfs, List.flatMap_append, List.append_assoc,
    List.drop_left' (length_flatMap_scopeMarks above)] at hdrop
  cases (List.append_eq_nil_iff.1 hdrop).2

/-- The labels that are open are those of the open constructs, and then those around the program. -/
theorem openLabels (h : Framed P start fs d) : d.nesting.openLabels =
    fs.filterMap (·.construct.label?) ++ start.nesting.openLabels := by
  rw [List.filterMap_eq_flatMap_toList]
  induction h with
  | @root f label view d hk hinside _ _ =>
    have hlabel : f.construct.label? = label := by
      rw [hk]
      exact hinside.nonEmpty
    rw [List.flatMap_singleton, hlabel]
    exact hinside.openLabels
  | frame _ _ hopened ih => rw [List.flatMap_cons, List.append_assoc, ← ih, hopened.openLabels]

/-- No two labels that are open are one label, in any case. -/
theorem different (h : Framed P start fs d)
    (hstart : start.nesting.openLabels.Pairwise fun l l' => Text.sameName l l' = false) :
    d.nesting.openLabels.Pairwise fun l l' => Text.sameName l l' = false := by
  induction h with
  | root _ hinside _ _ =>
    rw [hinside.openLabels]
    exact pairwise_labels hstart fun l hl => (hinside.free l hl).2
  | frame _ _ hopened ih =>
    rw [hopened.openLabels]
    exact pairwise_labels ih fun l hl => hopened.label_free hl

end Framed

/-! ## Where constructs have been opened -/

namespace Builder

variable {b₀ b b' b₁ : Builder} {labels labels' : List String} {f f' : Frame}
  {above above' below : List Frame}

/-- What a builder checks against outside of open constructs. -/
def around (b : Builder) (above : List Frame) : Checker := b.checker.leaveScopes (scopeCounts above)

/-- Whether an open construct has been opened by a call when the ones around it were the innermost
ones, in the scopes that are around it now: nothing but phases and states has changed there. -/
def OpenedIn (b₀ b : Builder) (above : List Frame) (f : Frame) (below : List Frame) : Prop :=
  ∃ (b₁ : Builder) (labels labels' : List String) (call : Call),
    b₀.ComesTo b₁ labels ∧ (b₁.perform call).2.ComesTo b labels' ∧
    b₁.shells = below.map Frame.shell ∧
    (b₁.perform call).2.outer = b₁.frames ∧ (b₁.perform call).2.inner.serial = f.serial ∧
    b₁.checker.Moves (b.around (above ++ [f]))

theorem OpenedIn.later (h : b₀.OpenedIn b above f below) (hb : b.ComesTo b' labels)
    (hserial : f'.serial = f.serial)
    (haround : (b.around (above ++ [f])).Still (b'.around (above' ++ [f']))) :
    b₀.OpenedIn b' above' f' below := by
  obtain ⟨b₁, before, after, call, hbefore, hafter, hbelow, houter, hopened, hmoves⟩ := h
  exact ⟨b₁, before, _, call, hbefore, hafter.trans hb, hbelow, houter, hopened.trans hserial.symm,
    hmoves.still haround⟩

/-- Whether the outermost construct is the one that there was first, and all others have been opened
in those around them. -/
structure Grown (b₀ b : Builder) : Prop where
  block : b₀.inner.construct.kind = .block
  root : ∃ above, b.shells = above ++ [b₀.inner.shell]
  opened : ∀ above f g below, b.shells = above ++ f :: g :: below →
    b₀.OpenedIn b above f (g :: below)

/-- There are scopes around those of the open constructs. -/
theorem Kept.beyond_ne_nil (hb : b.Kept P start) (hshells : b.shells = above ++ below) :
    b.checker.beyond (scopeCounts above) ≠ [] := by
  obtain ⟨fs, gs, hfs, rfl, _⟩ := List.map_eq_append_iff.1 hshells
  rw [scopeCounts_map_shell]
  exact Framed.beyond_ne_nil hb hfs

/-- Where constructs stay open, what is around them stays. -/
theorem Stays.still (h : b.Stays b') (hb : b.Kept P start)
    (hshells : b.shells = (b.inner.shell :: above) ++ below) :
    (b.around (b.inner.shell :: above)).Still (b'.around (b'.inner.shell :: above)) := by
  have hne := hb.beyond_ne_nil hshells
  exact Checker.still_of_beyond (h.around (scopeCounts above) hne) hne

/-- Where a construct is opened, what is around the others stays. -/
theorem Stacks.still (h : b.Stacks b') (hb : b.Kept P start)
    (hshells : b.shells = (b.inner.shell :: above) ++ below) :
    (b.around (b.inner.shell :: above)).Still
      (b'.around (b'.inner.shell :: b.inner.shell :: above)) := by
  have hne := hb.beyond_ne_nil hshells
  refine Checker.still_of_beyond ?_ hne
  obtain ⟨n, hn⟩ := Construct.scopeCount_of_takesStatements h.takes
  have hcount : scopeCounts (b.inner.shell :: above) = n + scopeCounts above + 1 := by
    show b.inner.construct.scopeCount + scopeCounts above = _
    rw [hn, Nat.add_right_comm]
  rw [scopeCounts, hcount]
  exact h.around (n + scopeCounts above)

/-- Where a construct is closed, what is around the others stays. -/
theorem Unstacks.still (h : b.Unstacks b') (hb : b.Kept P start)
    (hshells : b.shells = (b.inner.shell :: above) ++ below) :
    (b.around (b.inner.shell :: above)).Still (b'.around above) := by
  have hne := hb.beyond_ne_nil hshells
  exact Checker.still_of_beyond (h.around (scopeCounts above) hne) hne

theorem map_shell_shells (b : Builder) : b.shells.map Frame.shell = b.shells :=
  List.map_map.trans rfl

theorem Stays.grown (h : b.Stays b') (hb : b.Kept P start) (hcomes : b.ComesTo b' labels)
    (hg : b₀.Grown b) : b₀.Grown b' := by
  have hshells' : b'.shells = b'.inner.shell :: b.outer.map Frame.shell :=
    congrArg (b'.inner.shell :: List.map Frame.shell ·) h.outer
  refine ⟨hg.block, ?_, fun above f g below hsplit => ?_⟩
  · obtain ⟨above, habove⟩ := hg.root
    cases above with
    | nil =>
      obtain ⟨hinner, houter⟩ := List.cons.inj habove
      have hsame : b.inner.construct = b₀.inner.construct := congrArg (·.construct) hinner
      have hconstruct : b'.inner.construct = b.inner.construct := by
        refine h.construct.resolve_right fun hbranches => ?_
        rw [hsame, hg.block] at hbranches
        exact hbranches.2.elim nofun nofun
      have hinner' : b'.inner.shell = b.inner.shell := by
        unfold Frame.shell
        rw [h.serial, hconstruct]
      exact ⟨[], by rw [hshells', houter, hinner', hinner]; rfl⟩
    | cons i above =>
      exact ⟨b'.inner.shell :: above, by rw [hshells', (List.cons.inj habove).2]; rfl⟩
  · rw [hshells'] at hsplit
    cases above with
    | nil =>
      obtain ⟨rfl, hrest⟩ := List.cons.inj hsplit
      have hshells : b.shells = [b.inner.shell] ++ g :: below :=
        congrArg (b.inner.shell :: ·) hrest
      exact (hg.opened [] _ _ _ hshells).later hcomes h.serial (h.still hb hshells)
    | cons i above =>
      obtain ⟨rfl, hrest⟩ := List.cons.inj hsplit
      have hshells : b.shells = (b.inner.shell :: above) ++ f :: g :: below :=
        congrArg (b.inner.shell :: ·) hrest
      have hstill : (b.around (b.inner.shell :: (above ++ [f]))).Still
          (b'.around (b'.inner.shell :: (above ++ [f]))) :=
        h.still hb (hshells.trans (List.append_cons _ f (g :: below)))
      exact (hg.opened _ _ _ _ hshells).later hcomes rfl hstill

theorem Stacks.grown {call : Call} (h : b.Stacks (b.perform call).2) (hb : b.Kept P start)
    (hcomes : b₀.ComesTo b labels) (hg : b₀.Grown b) : b₀.Grown (b.perform call).2 := by
  have hshells' : (b.perform call).2.shells = (b.perform call).2.inner.shell :: b.shells :=
    congrArg (_ :: List.map Frame.shell ·) h.outer
  have hcall : b.ComesTo (b.perform call).2 _ := .call call .here
  refine ⟨hg.block, ?_, fun above f g below hsplit => ?_⟩
  · obtain ⟨above, habove⟩ := hg.root
    exact ⟨_ :: above, by rw [hshells', habove]; rfl⟩
  · rw [hshells'] at hsplit
    cases above with
    | nil =>
      obtain ⟨rfl, hrest⟩ := List.cons.inj hsplit
      refine ⟨b, labels, [], call, hcomes, .here, ?_, h.outer, rfl, h.moves⟩
      rw [← hrest, map_shell_shells]
    | cons i above =>
      obtain ⟨rfl, hrest⟩ := List.cons.inj hsplit
      obtain ⟨between, hbetween⟩ : ∃ between, above ++ [f] = b.inner.shell :: between := by
        cases above with
        | nil => exact ⟨[], congrArg (· :: []) (List.cons.inj hrest).1.symm⟩
        | cons i above => exact ⟨above ++ [f], congrArg (· :: _) (List.cons.inj hrest).1.symm⟩
      have hshells : b.shells = (b.inner.shell :: between) ++ g :: below := by
        rw [← hbetween, hrest]
        exact List.append_cons _ f (g :: below)
      have hstill : (b.around (above ++ [f])).Still
          ((b.perform call).2.around ((b.perform call).2.inner.shell :: (above ++ [f]))) := by
        rw [hbetween]
        exact h.still hb hshells
      exact (hg.opened _ _ _ _ hrest).later hcall rfl hstill

theorem Unstacks.grown (h : b.Unstacks b') (hb : b.Kept P start) (hcomes : b.ComesTo b' labels)
    (hg : b₀.Grown b) : b₀.Grown b' := by
  have hshells : b.shells = b.inner.shell :: b'.shells := congrArg (_ :: ·) h.shells
  refine ⟨hg.block, ?_, fun above f g below hsplit => ?_⟩
  · obtain ⟨above, habove⟩ := hg.root
    cases above with
    | nil => cases (List.cons.inj (hshells.symm.trans habove)).2
    | cons i above => exact ⟨above, (List.cons.inj (hshells.symm.trans habove)).2⟩
  · have hopened : b.shells = (b.inner.shell :: above) ++ f :: g :: below :=
      hshells.trans (congrArg (_ :: ·) hsplit)
    have hstill : (b.around (b.inner.shell :: (above ++ [f]))).Still (b'.around (above ++ [f])) :=
      h.still hb (hopened.trans (List.append_cons _ f (g :: below)))
    exact (hg.opened _ _ _ _ hopened).later hcomes rfl hstill

/-! ## All that is done with a builder -/

theorem build_stays (b : Builder) : b.Stays b.build.2 := by
  rcases b.build_cases with h | h <;> rw [h]
  · exact .refl b
  · exact ⟨rfl, rfl, .inl rfl, rfl, fun _ _ => rfl⟩

theorem Kept.build (hb : b.Kept P start) : b.build.2.Kept P start := by
  rcases b.build_cases with h | h <;> rw [h] <;> exact hb

theorem ComesTo.kept (h : b₀.ComesTo b labels) (hb₀ : b₀.Kept (fun _ _ => True) start) :
    b.Kept (fun _ _ => True) start := by
  induction h with
  | here => exact hb₀
  | call call _ ih => exact run_kept upheld_true (fun _ _ _ _ _ => trivial) [call] ih
  | build _ ih => exact ih.build

theorem ComesTo.grown (h : b₀.ComesTo b labels) (hb₀ : b₀.Kept (fun _ _ => True) start)
    (hg : b₀.Grown b₀) : b₀.Grown b := by
  induction h with
  | here => exact hg
  | @call b labels call h ih =>
    have hcall : b.ComesTo (b.perform call).2 _ := .call call .here
    cases (perform_restacks (h.kept hb₀) call).after with
    | stays hstays => exact hstays.grown (h.kept hb₀) hcall ih
    | opens hstacks => exact hstacks.grown (h.kept hb₀) h ih
    | closes hunstacks => exact hunstacks.grown (h.kept hb₀) hcall ih
  | @build b labels h ih => exact b.build_stays.grown (h.kept hb₀) (.build .here) ih

/-- Where a builder starts, nothing is open but the block of its program. -/
theorem start_grown {head : ProgramHead} {label : Operand} {stem : String}
    (h : Builder.start head label stem = .ok b₀) : b₀.Grown b₀ := by
  obtain ⟨_, _, _, _, _, _, rfl⟩ := Builder.start_eq_ok.1 h
  refine ⟨rfl, ⟨[], rfl⟩, fun above f g below hsplit => ?_⟩
  have hlength : 1 = (above ++ f :: g :: below).length := congrArg List.length hsplit
  rw [List.length_append, List.length_cons, List.length_cons] at hlength
  omega

/-- Whether the open constructs of a builder and the scopes that it checks against fit, where it has
been come to from another one. The constructs are listed innermost first. -/
structure InStep (b₀ b : Builder) : Prop where
  /-- The outermost construct is the block that the first builder has been started with. -/
  root : ∃ above f, b.frames = above ++ [f] ∧ f.shell = b₀.inner.shell ∧ f.construct.kind = .block
  /-- A construct is inside the scopes where the ones around it are. -/
  parent : ∀ above f g below, b.frames = above ++ f :: g :: below →
    b₀.OpenedIn b above f (g :: below)
  /-- Only a case can be without a scope, and nothing is open in it then. -/
  scopeless : ∀ above f below, b.frames = above ++ f :: below → f.construct.scopeCount = 0 →
    above = [] ∧ f.construct.kind = .cases
  /-- Outside of some innermost constructs there are just the scopes of the others and then that of
  the program. -/
  chain : ∀ above below, b.frames = above ++ below → (b.around above).marks =
    below.flatMap (·.construct.scopeMarks) ++ [(some .program, none)]
  /-- The labels that are open are those of the constructs. -/
  labels : b.checker.nesting.openLabels = b.frames.filterMap (·.construct.label?)
  /-- No two labels that are open are one label, in any case. -/
  different : b.checker.nesting.openLabels.Pairwise fun l l' => Text.sameName l l' = false

theorem OpenedIn.of_shells {above below : List Frame} {f : Frame}
    (h : b₀.OpenedIn b (above.map Frame.shell) f.shell (below.map Frame.shell)) :
    b₀.OpenedIn b above f below := by
  obtain ⟨b₁, before, after, call, hbefore, hafter, hbelow, houter, hserial, hmoves⟩ := h
  refine ⟨b₁, before, after, call, hbefore, hafter, ?_, houter, hserial, ?_⟩
  · rw [hbelow, List.map_map]
    rfl
  · have haround : b.around (above.map Frame.shell ++ [f.shell]) = b.around (above ++ [f]) := by
      unfold around
      rw [← scopeCounts_map_shell (above ++ [f]), List.map_append]
      rfl
    rwa [haround] at hmoves

/-- **The open constructs and the scopes stay in step**, whatever is done with a builder and whether
it succeeds or fails. -/
theorem comesTo_inStep {head : ProgramHead} {label : Operand} {stem : String}
    (hstart : Builder.start head label stem = .ok b₀) (h : b₀.ComesTo b labels) :
    b₀.InStep b := by
  have hkept : b.Kept (fun _ _ => True) (head.checker stem) :=
    h.kept (kept_start upheld_true hstart)
  have hgrown : b₀.Grown b := h.grown (kept_start upheld_true hstart) (start_grown hstart)
  have hlabels := Framed.openLabels hkept
  rw [show (head.checker stem).nesting.openLabels = [] from rfl, List.append_nil] at hlabels
  refine ⟨?_, ?_, fun above f below hsplit hf => Framed.scopeless hkept hsplit hf,
    fun above below hsplit => Framed.marks_around hkept hsplit, hlabels,
    Framed.different hkept .nil⟩
  · obtain ⟨above, habove⟩ := hgrown.root
    obtain ⟨fs, gs, hframes, _, hlast⟩ := List.map_eq_append_iff.1 habove
    obtain ⟨f, rfl, hf⟩ := List.map_eq_singleton_iff.1 hlast
    refine ⟨fs, f, hframes, hf, ?_⟩
    have hconstruct : f.construct = b₀.inner.construct := congrArg (·.construct) hf
    rw [hconstruct]
    exact hgrown.block
  · intro above f g below hsplit
    refine OpenedIn.of_shells (hgrown.opened _ _ g.shell (below.map Frame.shell) ?_)
    unfold shells
    rw [hsplit, List.map_append]
    rfl

/-- Constructs in each other, opened between calls that fail. -/
def nestedConstructs : List Call := [
  .openHandler (.text "CONTINUE") [.notFound],
  .openLoop (.value .null),
  .openIf (Condition.isTrue (.variable "@a")).operand,
  .leave "nowhere",
  .openLoop (.value (.text "LOOP_1")),
  .openCase (.value (.int 1)),
  .endIf,
  .openLoop (.value .null)]

/-- There is a scope for each of them but the case, and two for the handler. -/
theorem nestedConstructs_inStep : ∃ b₀ b labels,
    Builder.start .block (.value .null) usualStem = .ok b₀ ∧ b₀.ComesTo b labels ∧
      b.stack = ["BLOCK", "HANDLER", "LOOP 'loop_1'", "IF", "CASE"] ∧
      b.checker.marks = [(some .branch, none), (some .loop, some "loop_1"), (some .block, none),
        (some .handler, none), (some .block, none), (some .program, none)] ∧
      b₀.InStep b := by
  obtain ⟨labels, hcomes⟩ := emptyBuilder.comesTo_run nestedConstructs
  have hstart : Builder.start .block (.value .null) usualStem = .ok emptyBuilder := rfl
  refine ⟨emptyBuilder, _, labels, hstart, hcomes, ?_, ?_, comesTo_inStep hstart hcomes⟩
  · decide +kernel
  · decide +kernel

end Builder

end StoredSql
