import StoredSql.Proofs.BuiltEvents
import StoredSql.Proofs.OpenFrames

/-!
# What brackets close

A bracket behind a call closes at its end what the call has opened (`bracket_closes`). It goes by the
mark of the construct that has been opened last, and only a statement that comes, or another bracket,
takes that mark away: a bracket behind a call that opens nothing closes nothing just where there is no
such mark left. A call for a branch and a call for an end leave it, so that a bracket behind the first
arm of a case closes the case (`firstArm_closes_case`).
-/

namespace StoredSql

open Check Stepwise

/-- Whether a call starts or ends a bracket. -/
def Call.isBracket : Call → Bool
  | enterBracket | exitBracket _ => true
  | _ => false

/-- Whether the brackets in some calls match. -/
inductive Balanced : List Call → Prop
  | nil : Balanced []
  | cons {call : Call} {calls : List Call} : call.isBracket = false → Balanced calls →
      Balanced (call :: calls)
  | bracket {failed : Bool} {calls more : List Call} : Balanced calls → Balanced more →
      Balanced (.enterBracket :: (calls ++ .exitBracket failed :: more))

namespace Builder

variable {α : Type} {start : Checker} {b b' : Builder}

/-! ## What calls do to marks -/

/-- Whether the brackets that are open are the same, and whether the builder is used up. -/
structure Attends (b b' : Builder) : Prop where
  withs : b'.withs = b.withs
  consumed : b'.consumed = b.consumed

/-- What a call that succeeds does to the mark of the construct that has been opened last. -/
inductive Remembers (b : Builder) (call : Call) (b' : Builder) : Prop
  | opens : b'.outer = b.frames → b'.opened = some b'.inner.mark → b'.withs = b.withs →
      Remembers b call b'
  | adds : b'.outer ≠ b.frames → b'.opened = none → call.given ≠ [] → Remembers b call b'
  | turns : b'.outer ≠ b.frames → b'.opened = b.opened → call.given = [] → Remembers b call b'

/-- What a call that is no bracket does to marks: where it fails it may take away the mark of the
construct that has been opened last. -/
abbrev Marking (b : Builder) (call : Call) (act : Action α) : Prop :=
  Ends (fun b' => b.Attends b' ∧ b.Remembers call b') (b.Attends) b act

theorem outer_ne_frames (b : Builder) : b.outer ≠ b.frames := by
  intro h
  have hlength := congrArg List.length h
  simp [frames] at hlength

theorem rest_ne_frames {f : Frame} {fs : List Frame} (h : b.outer = f :: fs) : fs ≠ b.frames := by
  intro h'
  have hlength := congrArg List.length h'
  simp only [frames, h, List.length_cons] at hlength
  omega

theorem Attends.refl (b : Builder) : b.Attends b := ⟨rfl, rfl⟩

theorem Attends.trans {b'' : Builder} (h : b.Attends b') (h' : b'.Attends b'') : b.Attends b'' :=
  ⟨h'.withs.trans h.withs, h'.consumed.trans h.consumed⟩

theorem add_attends (s : Statement) (b : Builder) : Ends
    (fun b' => b.Attends b' ∧ b'.outer = b.outer ∧ b'.opened = none) b.Attends b (add s) :=
  ends_add ⟨rfl, rfl⟩ ⟨rfl, rfl⟩ (fun _ _ _ _ => ⟨rfl, rfl⟩) fun _ _ _ _ =>
    ⟨⟨rfl, rfl⟩, rfl, rfl⟩

theorem add_marks {call : Call} {s : Statement} (hcall : call.given ≠ []) :
    Marking b call (add s) := by
  have hadd := add_attends s b
  refine ⟨fun h => ?_, hadd.error⟩
  obtain ⟨hattends, houter, hopened⟩ := hadd.ok h
  exact ⟨hattends, .adds (houter ▸ outer_ne_frames b) hopened hcall⟩

theorem addMade_marks {call : Call} {r : Except Error Statement}
    (hcall : call.given = r.toOption.toList) : Marking b call (addMade r) := by
  refine ends_made (.refl b) fun s hs => add_marks ?_
  rw [hcall, hs]
  exact List.cons_ne_nil _ _

theorem statements_mark (ss : List Statement) : Marking b (.statements ss) (ss.forM add) := by
  have hrun : ∀ (ss : List Statement) (b : Builder), Ends
      (fun b' => b.Attends b' ∧ b'.outer = b.outer ∧ (ss ≠ [] → b'.opened = none) ∧
        (ss = [] → b'.opened = b.opened)) b.Attends b (ss.forM add) := by
    intro ss
    induction ss with
    | nil => exact fun b => ends_ok rfl ⟨.refl b, rfl, fun h => absurd rfl h, fun _ => rfl⟩
    | cons s ss ih =>
      intro b
      have hs := add_attends s b
      refine hs.bind fun _ t ht => ?_
      obtain ⟨hattends, houter, hopened⟩ := hs.ok ht
      refine ⟨fun h => ?_, fun h => ?_⟩
      · obtain ⟨hattends', houter', hsome, hnone⟩ := (ih t).ok h
        refine ⟨hattends.trans hattends', houter'.trans houter, fun _ => ?_, nofun⟩
        by_cases hss : ss = []
        · exact (hnone hss).trans hopened
        · exact hsome hss
      · exact hattends.trans ((ih t).error h)
  have hss := hrun ss b
  refine ⟨fun h => ?_, hss.error⟩
  obtain ⟨hattends, houter, hsome, hnone⟩ := hss.ok h
  have houter' : (_ : List Frame) ≠ b.frames := houter ▸ outer_ne_frames b
  by_cases hempty : ss = []
  · exact ⟨hattends, .turns houter' (hnone hempty) hempty⟩
  · exact ⟨hattends, .adds houter' (hsome hempty) hempty⟩

theorem opens_marks {call : Call} (construct : Check Construct) : Marking b call (opens construct) :=
  ends_opens (.refl b) (fun _ _ _ _ => ⟨rfl, rfl⟩) fun _ _ _ _ => ⟨⟨rfl, rfl⟩, .opens rfl rfl rfl⟩

theorem closes_marks {call : Call} (hcall : call.given = []) (kind : ConstructKind) :
    Marking b call (closes kind) :=
  ends_closes (.refl b) (fun _ _ _ _ _ _ _ => ⟨rfl, rfl⟩) fun _ _ _ _ houter _ _ =>
    ⟨⟨rfl, rfl⟩, .turns (rest_ne_frames houter) rfl hcall⟩

theorem endRepeat_marks (test : Operand) : Marking b (.endRepeat test) (endRepeat test) :=
  ends_endRepeat (.refl b) (fun _ _ _ _ _ _ _ => ⟨rfl, rfl⟩) fun _ _ _ _ houter _ _ _ =>
    ⟨⟨rfl, rfl⟩, .turns (rest_ne_frames houter) rfl rfl⟩

theorem branching_marks {call : Call} (hcall : call.given = []) (c : Checker) (k : Construct) :
    b.Attends (b.branching c k []) ∧ b.Remembers call (b.branching c k []) :=
  ⟨⟨rfl, rfl⟩, .turns (outer_ne_frames b) rfl hcall⟩

/-- What a call that is no bracket does to marks. -/
theorem perform_marks : ∀ call : Call, call.isBracket = false → Marking b call (act call)
  | .declare _ _ _, _ => addMade_marks rfl
  | .declareCondition _ _, _ => addMade_marks rfl
  | .declareCursor _ _, _ => addMade_marks rfl
  | .declareHandler _ _ _, _ => addMade_marks rfl
  | .openHandler _ _, _ => ends_openHandler (.refl b) fun _ _ => opens_marks _
  | .endHandler, _ => closes_marks rfl .handler
  | .openBlock _, _ => opens_marks _
  | .endBlock, _ => closes_marks rfl .block
  | .close, _ => ends_close (.refl b) fun kind => closes_marks rfl kind
  | .openIf _, _ => opens_marks _
  | .elseIf _, _ => ends_elseIf (.refl b) fun _ _ _ _ _ _ _ =>
    ⟨⟨rfl, rfl⟩, fun _ => branching_marks rfl _ _⟩
  | .otherwise, _ => ends_otherwise (.refl b) (fun _ _ _ _ _ => branching_marks rfl _ _)
    fun _ _ _ _ _ _ => branching_marks rfl _ _
  | .endIf, _ => closes_marks rfl .ifElse
  | .openCase _, _ => opens_marks _
  | .openWhen _, _ => ends_openWhen (.refl b) fun _ _ _ _ _ _ _ =>
    ⟨⟨rfl, rfl⟩, fun _ => branching_marks rfl _ _⟩
  | .endCase, _ => closes_marks rfl .cases
  | .openLoop _, _ => opens_marks _
  | .endLoop, _ => closes_marks rfl .loop
  | .openWhile _ _, _ => opens_marks _
  | .endWhile, _ => closes_marks rfl .whileLoop
  | .openRepeat _, _ => opens_marks _
  | .endRepeat test, _ => endRepeat_marks test
  | .iterate _, _ => add_marks (List.cons_ne_nil _ _)
  | .leave _, _ => add_marks (List.cons_ne_nil _ _)
  | .openCursor _, _ => add_marks (List.cons_ne_nil _ _)
  | .fetch _ _, _ => addMade_marks rfl
  | .closeCursor _, _ => add_marks (List.cons_ne_nil _ _)
  | .select _, _ => addMade_marks rfl
  | .insert _, _ => addMade_marks rfl
  | .set _ _ _, _ => addMade_marks rfl
  | .call _ _, _ => addMade_marks rfl
  | .signal _ _ _, _ => addMade_marks rfl
  | .signalState _ _ _, _ => addMade_marks rfl
  | .raw _, _ => add_marks (List.cons_ne_nil _ _)
  | .empty, _ => add_marks (List.cons_ne_nil _ _)
  | .statements ss, _ => statements_mark ss

/-- The end of a bracket opens nothing and leaves the mark. -/
theorem exitBracket_marks (failed : Bool) :
    Ends (fun b' => b'.consumed = b.consumed ∧ b.Remembers (.exitBracket failed) b')
      (fun b' => b'.consumed = b.consumed) b (exitBracket failed) := by
  refine ends_exitBracket (fun _ => rfl) (fun _ _ _ => rfl)
    (fun _ _ _ _ => ⟨rfl, .turns (outer_ne_frames b) rfl rfl⟩) fun _ withs _ _ => ?_
  exact ends_closeInnermost rfl fun kind => ends_closes rfl (fun _ _ _ _ _ _ _ => rfl)
    fun _ _ _ _ houter _ _ => ⟨rfl, .turns (rest_ne_frames (b := b) houter) rfl rfl⟩

/-- What a call that succeeds does to the mark of the construct that has been opened last. -/
theorem perform_remembers {call : Call} (hcall : call ≠ .enterBracket)
    (h : b.perform call = (.ok (), b')) : b.Remembers call b' := by
  cases hbracket : call.isBracket with
  | false => exact ((perform_marks call hbracket).ok h).2
  | true =>
    cases call with
    | enterBracket => exact absurd rfl hcall
    | exitBracket failed => exact ((exitBracket_marks failed).ok h).2
    | _ => cases hbracket

/-- No call uses a builder up. -/
theorem run_consumed (calls : List Call) (b : Builder) : (b.run calls).consumed = b.consumed := by
  induction calls generalizing b with
  | nil => rfl
  | cons call calls ih =>
    refine (ih _).trans ?_
    cases hbracket : call.isBracket with
    | false =>
      have hmarking := @perform_marks b call hbracket
      have hends : Ends (fun b' => b'.consumed = b.consumed) (fun b' => b'.consumed = b.consumed) b
          (act call) := ⟨fun h => (hmarking.ok h).1.consumed, fun h => (hmarking.error h).consumed⟩
      exact hends.after
    | true =>
      cases call with
      | enterBracket => rfl
      | exitBracket failed =>
        have hmarks := @exitBracket_marks b failed
        have hends : Ends (fun b' => b'.consumed = b.consumed) (fun b' => b'.consumed = b.consumed)
            b (exitBracket failed) := ⟨fun h => (hmarks.ok h).1, hmarks.error⟩
        exact hends.after
      | _ => cases hbracket

/-! ## Calls in brackets -/

/-- The end of a bracket ends the innermost one. -/
theorem exitBracket_attends {mark : Option FrameMark} {withs : List (Option FrameMark)}
    (failed : Bool) (h : b.withs = mark :: withs) :
    Ends (Attends { b with withs }) (Attends { b with withs }) b (exitBracket failed) := by
  have hrest : ∀ mark' withs', b.withs = mark' :: withs' →
      Attends { b with withs } { b with withs := withs' } := by
    intro mark' withs' h'
    obtain ⟨_, rfl⟩ := List.cons.inj (h.symm.trans h')
    exact .refl _
  refine ends_exitBracket (fun h' => ?_) hrest (fun mark' withs' h' _ => hrest mark' withs' h')
    fun mark' withs' h' _ => ?_
  · cases h.symm.trans h'
  · obtain ⟨_, rfl⟩ := List.cons.inj (h.symm.trans h')
    refine ends_closeInnermost (.refl _) fun kind => ?_
    have hcloses := @closes_marks { b with withs } .close rfl kind
    exact ⟨fun h => (hcloses.ok h).1, hcloses.error⟩

/-- Calls whose brackets match leave the brackets that are open. -/
theorem attends_of_balanced {calls : List Call} (h : Balanced calls) (b : Builder) :
    b.Attends (b.run calls) := by
  induction h generalizing b with
  | nil => exact .refl b
  | @cons call calls hcall _ ih =>
    have hmarking := @perform_marks b call hcall
    have hattends : Ends (Attends b) (Attends b) b (act call) :=
      ⟨fun h => (hmarking.ok h).1, hmarking.error⟩
    exact hattends.after.trans (ih _)
  | @bracket failed calls more _ _ ih ih' =>
    have hrun : b.run (.enterBracket :: (calls ++ .exitBracket failed :: more)) =
        ((((b.perform .enterBracket).2.run calls).perform (.exitBracket failed)).2).run more :=
      List.foldl_append
    have hinside := ih (b.perform .enterBracket).2
    have hwiths : ((b.perform .enterBracket).2.run calls).withs = b.opened :: b.withs :=
      hinside.withs
    have hexit := (exitBracket_attends failed hwiths).after
    rw [hrun]
    refine .trans ⟨?_, ?_⟩ (ih' _)
    · exact hexit.withs
    · exact hexit.consumed.trans hinside.consumed

/-- The serial numbers of the open constructs, with their kinds. -/
def kinds (b : Builder) : List (Nat × ConstructKind) :=
  b.frames.map fun f => (f.serial, f.construct.kind)

/-- A construct keeps its kind while it is open. -/
theorem Restacks.kinds {n : Nat} {k : ConstructKind} (h : b.Restacks b')
    (hb : n < b.serials ∧ ∀ k', (n, k') ∈ b.kinds → k' = k) :
    n < b'.serials ∧ ∀ k', (n, k') ∈ b'.kinds → k' = k := by
  obtain ⟨hlt, hkinds⟩ := hb
  cases h with
  | stays h =>
    have hsame : b'.kinds = b.kinds := by
      unfold Builder.kinds frames
      rw [List.map_cons, List.map_cons, h.serial, h.construct.kind, h.outer]
    exact ⟨h.serials ▸ hlt, hsame ▸ hkinds⟩
  | opens h =>
    refine ⟨h.serials ▸ Nat.lt_succ_of_lt hlt, fun k' hmem => ?_⟩
    unfold Builder.kinds at hmem
    rw [frames, List.map_cons, h.serial, h.outer] at hmem
    rcases List.mem_cons.1 hmem with heq | hmem
    · exact absurd (congrArg Prod.fst heq) (Nat.ne_of_lt hlt)
    · exact hkinds k' hmem
  | closes h =>
    have hrest : b'.kinds = b.outer.map fun f => (f.serial, f.construct.kind) := by
      have hshells := congrArg (List.map fun f => (f.serial, f.construct.kind)) h.shells
      unfold shells at hshells
      rw [List.map_map, List.map_map] at hshells
      exact hshells.symm
    exact ⟨h.serials ▸ hlt, fun k' hmem => hkinds k' (.tail _ (hrest ▸ hmem))⟩

/-! ## The end of a bracket -/

/-- What the end of the innermost construct gives: one more statement in the construct around it, or
an error if no statement can be made of it. Its frame is gone either way. -/
inductive Finishes (b : Builder) : Except Error Unit → Builder → Prop
  | made {f : Frame} {fs : List Frame} {s : Statement} {c : Checker} : b.outer = f :: fs →
      b.inner.construct.finish b.checker.nesting.view b.inner.statements
        (b.checker.leaveScopes b.inner.construct.scopeCount) = (.ok s, c) →
      Finishes b (.ok ()) { b with
        inner := { f with statements := f.statements ++ [s] }, outer := fs, checker := c }
  | refused {f : Frame} {fs : List Frame} {e : Error} {c : Checker} : b.outer = f :: fs →
      b.inner.construct.finish b.checker.nesting.view b.inner.statements
        (b.checker.leaveScopes b.inner.construct.scopeCount) = (.error e, c) →
      Finishes b (.error e) { b with inner := f, outer := fs, checker := c }

theorem closes_finishes {kind : ConstructKind} {r : Except Error Unit} (hl : b.consumed = false)
    (houter : b.outer ≠ []) (hk : b.inner.construct.kind = kind) (h : closes kind b = (r, b')) :
    b.Finishes r b' := by
  obtain ⟨f, fs, houter⟩ := List.exists_cons_of_ne_nil houter
  unfold closes at h
  rw [bind_of_ok (get_apply b), bind_of_ok (pop_apply hl houter hk)] at h
  rcases hs : b.inner.construct.finish b.checker.nesting.view b.inner.statements
    (b.checker.leaveScopes b.inner.construct.scopeCount) with ⟨e | s, c⟩
  · have hc : checking (b.inner.construct.finish b.checker.nesting.view b.inner.statements)
        (b.outside f fs) = (.error e, { b with inner := f, outer := fs, checker := c }) :=
      checking_of hs
    rw [bind_of_error hc] at h
    cases h
    exact .refused houter hs
  · have hc : checking (b.inner.construct.finish b.checker.nesting.view b.inner.statements)
        (b.outside f fs) = (.ok s, { b with inner := f, outer := fs, checker := c }) :=
      checking_of hs
    rw [bind_of_ok hc] at h
    cases h
    exact .made houter hs

theorem closeInnermost_finishes {r : Except Error Unit} (hl : b.consumed = false)
    (houter : b.outer ≠ []) (hk : b.inner.construct.kind ≠ .repeatLoop)
    (h : closeInnermost b = (r, b')) : b.Finishes r b' := by
  unfold closeInnermost at h
  rw [bind_of_ok (get_apply b), if_neg (mt List.isEmpty_iff.1 houter)] at h
  cases hkind : b.inner.construct.kind with
  | repeatLoop => exact absurd hkind hk
  | _ =>
    rw [hkind] at h
    exact closes_finishes hl houter hkind h

/-- What is closed leaves one open construct less. -/
theorem Finishes.serialNumbers {r : Except Error Unit} (h : b.Finishes r b') :
    b.serialNumbers = b.inner.serial :: b'.serialNumbers := by
  cases h with
  | made houter _ =>
    unfold Builder.serialNumbers frames
    rw [houter]
    rfl
  | refused houter _ =>
    unfold Builder.serialNumbers frames
    rw [houter]
    rfl

theorem exitBracket_none {withs : List (Option FrameMark)} (h : b.withs = none :: withs) :
    exitBracket false b = (.ok (), { b with withs }) := by
  unfold exitBracket
  rw [bind_of_ok (get_apply b), h]
  rfl

theorem exitBracket_innermost {m : FrameMark} {withs : List (Option FrameMark)}
    (h : b.withs = some m :: withs) (hm : b.inner.serial = m.serial) :
    exitBracket false b = closeInnermost { b with withs } := by
  unfold exitBracket
  rw [bind_of_ok (get_apply b), h]
  refine (bind_of_ok (set_apply b _)).trans ?_
  dsimp only
  rw [if_pos hm]

/-- The innermost construct keeps its kind until it is the innermost one again. -/
theorem kind_of_run (calls : List Call) (hb : b.Kept (fun _ _ => True) start) (hn : b.Numbered)
    (hsame : (b.run calls).serialNumbers = b.serialNumbers) :
    (b.run calls).inner.construct.kind = b.inner.construct.kind := by
  obtain ⟨hlt, hbelow⟩ := List.pairwise_cons.1 hn
  have hkinds : b.inner.serial < b.serials ∧
      ∀ k, (b.inner.serial, k) ∈ b.kinds → k = b.inner.construct.kind := by
    refine ⟨hlt _ (.head _), fun k hmem => ?_⟩
    rcases List.mem_cons.1 hmem with heq | hmem
    · exact congrArg Prod.snd heq
    · obtain ⟨f, hf, heq⟩ := List.mem_map.1 hmem
      have hserial : f.serial = b.inner.serial := congrArg Prod.fst heq
      have hlower := (List.pairwise_cons.1 hbelow).1 f.serial (List.mem_map_of_mem hf)
      exact absurd hserial (Nat.ne_of_lt hlower)
  obtain ⟨_, hkinds'⟩ := run_restacks Restacks.kinds calls hb hkinds
  refine hkinds' _ ?_
  have hserial : (b.run calls).inner.serial = b.inner.serial := (List.cons.inj hsame).1
  rw [← hserial]
  exact .head _

/-- Once what is done in a bracket has come back to the construct that the bracket remembers, the end
of the bracket finishes that construct. -/
theorem exitBracket_finishes {b₁ b₂ b₃ : Builder} {calls : List Call}
    {withs : List (Option FrameMark)} {r : Except Error Unit}
    (hb : b₁.Kept (fun _ _ => True) start) (hn : b₁.Numbered) (houter : b₁.outer ≠ [])
    (hkind : b₁.inner.construct.kind ≠ .repeatLoop) (hrun : b₁.run calls = b₂)
    (hl : b₂.consumed = false) (hsame : b₂.serialNumbers = b₁.serialNumbers)
    (hwiths : b₂.withs = some b₁.inner.mark :: withs)
    (hexit : b₂.perform (.exitBracket false) = (r, b₃)) : Finishes { b₂ with withs } r b₃ := by
  subst hrun
  have hkind₂ := kind_of_run calls hb hn hsame
  obtain ⟨hserial, hrest⟩ := List.cons.inj hsame
  have houter₂ : (b₁.run calls).outer ≠ [] := by
    intro hnil
    rw [hnil] at hrest
    exact houter (List.map_eq_nil_iff.1 hrest.symm)
  have hcloses := (exitBracket_innermost hwiths hserial).symm.trans hexit
  exact closeInnermost_finishes hl houter₂ (hkind₂ ▸ hkind) hcloses

/-- The end of a bracket that changes no open construct and does not fail had nothing to close. -/
theorem exitBracket_leaves_frames {mark : Option FrameMark} {withs : List (Option FrameMark)}
    {r : Except Error Unit} (h : b.withs = mark :: withs)
    (hexit : b.perform (.exitBracket false) = (r, b')) :
    r = .ok () ∧ b'.frames = b.frames ↔ mark = none := by
  have hcloses : Ends (fun b' => b'.frames ≠ b.frames) (fun _ => True) b (exitBracket false) →
      ¬ (r = .ok () ∧ b'.frames = b.frames) := by
    rintro hends ⟨rfl, hframes⟩
    exact hends.ok hexit hframes
  cases mark with
  | none =>
    cases (exitBracket_none h).symm.trans hexit
    exact iff_of_true ⟨rfl, rfl⟩ rfl
  | some m =>
    refine iff_of_false (hcloses ?_) nofun
    refine ends_exitBracket (fun _ => trivial) (fun _ _ _ => trivial) (fun mark' withs' h' hnone => ?_)
      fun m' withs' _ _ => ends_closeInnermost trivial fun kind => ?_
    · obtain ⟨rfl, _⟩ := List.cons.inj (h.symm.trans h')
      rcases hnone with hnone | hnone <;> cases hnone
    · refine ends_closes trivial (fun _ _ _ _ _ _ _ => trivial) fun f fs s c houter _ _ hframes => ?_
      have hlength := congrArg List.length hframes
      have houter' : b.outer = f :: fs := houter
      simp only [frames, houter', List.length_cons] at hlength
      omega

end Builder

/-! ## Brackets behind calls -/

/-- **The end of a bracket behind a call closes what the call has opened**, whatever is done in the
bracket, if all that is opened in it is closed in it: what has been opened is a statement of the
construct around it, or an error if no statement can be made of it. Behind a call that opens nothing,
the end of a bracket closes nothing just where the call hands over a statement, or nothing had been
opened since the last statement or bracket. -/
theorem bracket_closes {head : ProgramHead} {label : Operand} {stem : String}
    {start b b₁ b₂ b₃ : Builder} {before calls : List Call} {call : Call} {r : Except Error Unit}
    (hstart : Builder.start head label stem = .ok start) (hb : start.run before = b)
    (hcall : b.perform call = (.ok (), b₁)) (hcalls : Balanced calls)
    (hinside : (b₁.perform .enterBracket).2.run calls = b₂)
    (hsame : b₂.serialNumbers = b₁.serialNumbers)
    (hexit : b₂.perform (.exitBracket false) = (r, b₃)) :
    (b₁.outer = b.frames → b₁.inner.construct.kind ≠ .repeatLoop →
      Builder.Finishes { b₂ with withs := b.withs } r b₃ ∧ b₃.serialNumbers = b.serialNumbers) ∧
    (b₁.outer ≠ b.frames → (r = .ok () ∧ b₃.frames = b₂.frames ↔
      b.opened = none ∨ call.given ≠ [] ∨ call = .enterBracket)) := by
  have hattends := Builder.attends_of_balanced hcalls (b₁.perform .enterBracket).2
  rw [hinside] at hattends
  have hwiths : b₂.withs = b₁.opened :: b₁.withs := hattends.withs
  have hexits := Builder.exitBracket_leaves_frames hwiths hexit
  by_cases henter : call = .enterBracket
  · subst henter
    cases hcall
    exact ⟨fun h => absurd h b.outer_ne_frames, fun _ => hexits.trans (by simp)⟩
  · constructor
    · intro houter hkind
      have hrun : start.run (before ++ [call]) = b₁ := Builder.run_concat (by rw [hb, hcall])
      have hplaced := Builder.run_placed (before ++ [call]) hstart
      have hnumbered := Builder.run_numbered (before ++ [call]) hstart
      have hlive : b₁.consumed = false :=
        hrun ▸ (Builder.run_consumed _ _).trans (Builder.start_takes hstart).1
      rw [hrun] at hplaced hnumbered
      cases Builder.perform_remembers henter hcall with
      | opens _ hopened hw =>
        rw [hopened, hw] at hwiths
        have hrun₂ : b₁.run (.enterBracket :: calls) = b₂ := hinside
        have hfinishes := Builder.exitBracket_finishes hplaced hnumbered
          (houter ▸ List.cons_ne_nil _ _) hkind hrun₂ (hattends.consumed.trans hlive) hsame hwiths
          hexit
        refine ⟨hfinishes, ?_⟩
        have hb₁ : b₁.serialNumbers = b₁.inner.serial :: b.serialNumbers :=
          congrArg (fun fs : List Frame => b₁.inner.serial :: fs.map Frame.serial) houter
        exact (List.cons.inj (hfinishes.serialNumbers.symm.trans (hsame.trans hb₁))).2
      | adds h _ _ => exact absurd houter h
      | turns h _ _ => exact absurd houter h
    · intro houter
      rw [hexits]
      cases Builder.perform_remembers henter hcall with
      | opens h _ _ => exact absurd h houter
      | adds _ hopened hgiven => exact iff_of_true hopened (.inr (.inl hgiven))
      | turns _ hopened hgiven => simp [hopened, hgiven, henter]

/-- Calls in a loop: another loop is opened and closed again. -/
def innerLoop : List Call := [
  .openLoop (.value .null), .enterBracket, .set "@a" (.value (.int 1)) [], .exitBracket false]

/-- A bracket behind a call that opens a loop closes that loop. -/
theorem innerLoop_closes : ∃ b b₁ b₃,
    Builder.start .block (.value .null) Builder.usualStem = .ok b ∧
      b.perform (.openLoop (.value .null)) = (.ok (), b₁) ∧ Balanced innerLoop ∧
      ((b₁.perform .enterBracket).2.run innerLoop).serialNumbers = b₁.serialNumbers ∧
      ((b₁.perform .enterBracket).2.run innerLoop).perform (.exitBracket false) = (.ok (), b₃) ∧
      b₁.outer = b.frames ∧ b₁.inner.construct.kind ≠ .repeatLoop ∧
      b₃.serialNumbers = b.serialNumbers := by
  have hok : (emptyBuilder.perform (.openLoop (.value .null))).1 = .ok () := by decide +kernel
  have houter : (emptyBuilder.perform (.openLoop (.value .null))).2.outer = emptyBuilder.frames := rfl
  have hkind : (emptyBuilder.perform (.openLoop (.value .null))).2.inner.construct.kind = .loop := by
    decide +kernel
  have hsame : (((emptyBuilder.perform (.openLoop (.value .null))).2.perform .enterBracket).2.run
      innerLoop).serialNumbers = (emptyBuilder.perform (.openLoop (.value .null))).2.serialNumbers := by
    decide +kernel
  have hcloses : ((((emptyBuilder.perform (.openLoop (.value .null))).2.perform .enterBracket).2.run
      innerLoop).perform (.exitBracket false)).1 = .ok () := by decide +kernel
  have hbalanced : Balanced innerLoop :=
    .cons rfl (@Balanced.bracket false [_] [] (.cons rfl .nil) .nil)
  rcases hcall : emptyBuilder.perform (.openLoop (.value .null)) with ⟨r, b₁⟩
  rw [hcall] at hok houter hkind hsame hcloses
  obtain rfl : r = .ok () := hok
  have hstart : Builder.start .block (.value .null) Builder.usualStem = .ok emptyBuilder := rfl
  have hrepeat : b₁.inner.construct.kind ≠ .repeatLoop := hkind ▸ nofun
  have hrun : emptyBuilder.run [] = emptyBuilder := rfl
  have hclosed := (bracket_closes hstart hrun hcall hbalanced rfl hsame rfl).1 houter hrepeat
  exact ⟨emptyBuilder, b₁, _, hstart, hcall, hbalanced, hsame, Prod.ext hcloses rfl, houter, hrepeat,
    hclosed.2⟩

/-- A call that opens a case. -/
def caseOpened : List Call := [.openCase (.value (.int 1))]

/-- A call for an arm of a case. -/
def armOpened : Call := .openWhen (.value (.int 1))

/-- A call in an arm. -/
def variableSet : List Call := [.set "@a" (.value (.int 1)) []]

/-- **A bracket behind the first arm of a case closes the case**, though the call for the arm opens no
construct and nothing is left open in the bracket. -/
theorem firstArm_closes_case : ∃ b b₁ b₂ b₃,
    Builder.start .block (.value .null) Builder.usualStem = .ok b ∧
      (b.run caseOpened).perform armOpened = (.ok (), b₁) ∧
      b₁.serialNumbers = (b.run caseOpened).serialNumbers ∧ Balanced variableSet ∧
      (b₁.perform .enterBracket).2.run variableSet = b₂ ∧ b₂.serialNumbers = b₁.serialNumbers ∧
      b₂.perform (.exitBracket false) = (.ok (), b₃) ∧ b₃.serialNumbers ≠ b₂.serialNumbers := by
  have hok : ((emptyBuilder.run caseOpened).perform armOpened).1 = .ok () := by decide +kernel
  have hopened : ((emptyBuilder.run caseOpened).perform armOpened).2.serialNumbers =
      (emptyBuilder.run caseOpened).serialNumbers := by decide +kernel
  have hinside : ((((emptyBuilder.run caseOpened).perform armOpened).2.perform .enterBracket).2.run
      variableSet).serialNumbers =
        ((emptyBuilder.run caseOpened).perform armOpened).2.serialNumbers := by decide +kernel
  have hexit : (((((emptyBuilder.run caseOpened).perform armOpened).2.perform .enterBracket).2.run
      variableSet).perform (.exitBracket false)).1 = .ok () := by decide +kernel
  have hclosed : (((((emptyBuilder.run caseOpened).perform armOpened).2.perform .enterBracket).2.run
      variableSet).perform (.exitBracket false)).2.serialNumbers ≠
        ((((emptyBuilder.run caseOpened).perform armOpened).2.perform .enterBracket).2.run
          variableSet).serialNumbers := by decide +kernel
  exact ⟨emptyBuilder, _, _, _, rfl, Prod.ext hok rfl, hopened, .cons rfl .nil, rfl, hinside,
    Prod.ext hexit rfl, hclosed⟩

end StoredSql
