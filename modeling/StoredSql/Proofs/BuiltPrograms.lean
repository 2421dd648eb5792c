import StoredSql.Proofs.TracedCalls

/-!
# Programs that builders give

What a builder gives can be given to another one: its statements pass their checks again, in order
(`built_statements_pass`). The runs may hold calls that fail, as long as none of them leaves names or
states behind that no statement accounts for (`Builder.Tidy`). A name that one leaves behind breaks
the program (`Builder.leftName_breaks`).
-/

namespace StoredSql

open Check Stepwise

/-- The block of a program. -/
def Program.body : Program → Block
  | block b => b
  | procedure p => p.body
  | trigger t => t.body

@[simp] theorem ProgramHead.body_program (h : ProgramHead) (b : Block) : (h.program b).body = b := by
  cases h <;> rfl

namespace Builder

variable {start : Checker} {b b' : Builder}

/-! ## Runs -/

/-- Whether each call of a run that fails and might leave something behind leaves a builder that
knows no more than its statements account for. -/
def Tidy (start : Checker) : Builder → List Call → Prop
  | _, [] => True
  | b, call :: calls =>
    (∀ e b', b.perform call = (.error e, b') → call.isAtomic = false → b'.Accounted start) ∧
      Tidy start (b.perform call).2 calls

/-- Where only the block of the program is open, its statements tell what is accounted for. -/
theorem accounted_of_root (houter : b.outer = [])
    (h : (Statement.checkAll b.inner.statements start).2.known = b.checker.known) :
    b.Accounted start := by
  intro d hd
  unfold frames at hd
  rw [houter] at hd
  obtain ⟨ss', hss⟩ := hd.root_passes
  rw [hss] at h
  exact h

/-- A run in which failing calls leave nothing behind keeps a builder traced. -/
theorem run_traced (calls : List Call) (hb : b.Traced Checker.Earlier start)
    (htidy : Tidy start b calls) : (b.run calls).Traced Checker.Earlier start := by
  induction calls generalizing b with
  | nil => exact hb
  | cons call calls ih =>
    obtain ⟨hcall, hcalls⟩ := htidy
    have hleads := perform_upholds call b hb
    refine ih ?_ hcalls
    show (b.perform call).2.Traced Checker.Earlier start
    rcases h : b.perform call with ⟨e | u, b'⟩
    · exact (hleads.error h).earlier (hcall e b' h)
    · exact hleads.ok h

theorem traced_start {head : ProgramHead} {label : Operand} {stem stem' : String}
    {fresh : Builder} (h : Builder.start head label stem = .ok b)
    (hfresh : Builder.start head label stem' = .ok fresh) :
    b.Traced Checker.Earlier fresh.checker := by
  obtain ⟨around, haround, l, hl, scope, hscope, rfl⟩ := Builder.start_eq_ok.1 h
  obtain ⟨around', haround', l', hl', scope', hscope', rfl⟩ := Builder.start_eq_ok.1 hfresh
  obtain rfl := Except.ok.inj (haround'.symm.trans haround)
  obtain rfl := Except.ok.inj (hl'.symm.trans hl)
  obtain rfl := Except.ok.inj (hscope'.symm.trans hscope)
  have houter : ∀ f : Frame, f ∈ [] → f.construct.takesStatements = true :=
    fun _ hf => absurd hf List.not_mem_nil
  exact ⟨houter, fun _ => rfl, _, .root rfl (passes_nil _), Checker.Earlier.refl _⟩

theorem start_takes {head : ProgramHead} {label : Operand} {stem : String}
    (h : Builder.start head label stem = .ok b) :
    b.consumed = false ∧ b.takesStatements = true := by
  obtain ⟨_, _, _, _, _, _, rfl⟩ := Builder.start_eq_ok.1 h
  exact ⟨rfl, rfl⟩

theorem build_eq_ok {p : Program} (h : b.build = (.ok p, b')) :
    ∃ label view, b.outer = [] ∧ b.inner.construct = .block label view ∧
      p = b.head.program ⟨b.inner.statements, label, some view⟩ := by
  obtain ⟨head, checker, ⟨serial, construct, statements⟩, outer, serials, opened, withs, consumed⟩ := b
  cases consumed with
  | true => cases h
  | false =>
    cases outer with
    | cons f fs => cases h
    | nil =>
      cases construct with
      | block label view =>
        cases h
        exact ⟨label, view, rfl, rfl, rfl⟩
      | _ => cases h

/-- Calls that succeed, and the program that comes of them. -/
theorem exists_built {calls : List Call} {shows : Program → Bool}
    (h : ((b.runAll calls).1.isOk &&
      (b.runAll calls).2.build.1.toOption.any shows) = true) :
    ∃ b' b'' p, b.runAll calls = (.ok (), b') ∧ b'.build = (.ok p, b'') ∧ shows p = true := by
  obtain ⟨hok, hshows⟩ := Bool.and_eq_true_iff.1 h
  rcases hcalls : b.runAll calls with ⟨e | u, b'⟩
  · rw [hcalls] at hok
    cases hok
  rw [hcalls] at hshows
  rcases hbuild : b'.build with ⟨e | p, b''⟩
  · rw [hbuild] at hshows
    cases hshows
  rw [hbuild] at hshows
  exact ⟨b', b'', p, rfl, hbuild, hshows⟩

/-- Statements that pass come to a builder one after the other. -/
theorem perform_passes {ss : List Statement} {d : Checker} (hl : b.consumed = false)
    (ht : b.takesStatements = true) (h : Passes ss b.checker d) :
    ∃ b', b.perform (.statements ss) = (.ok (), b') := by
  show ∃ b', (ss.forM add) b = (.ok (), b')
  obtain ⟨ss', h⟩ := h
  induction ss generalizing b ss' with
  | nil => exact ⟨b, rfl⟩
  | cons s ss ih =>
    obtain ⟨s', t, rest, hs, hss, rfl⟩ := Statement.checkAll_cons_ok.1 h
    have hadd := add_ok hl ht hs
    obtain ⟨b', hb'⟩ := ih (b := b.adding t [s'] b.serials none) hl ht rest hss
    exact ⟨b', (bind_of_ok hadd).trans hb'⟩

/-- What is added is what the check has given back. -/
theorem added_of_add {s : Statement} (h : add s b = (.ok (), b')) :
    b.consumed = false ∧ b.takesStatements = true ∧
      ∃ s' c, s.check b.checker = (.ok s', c) ∧ b' = b.adding c [s'] b.serials none := by
  cases hl : b.consumed with
  | true =>
    unfold add at h
    rw [bind_of_error (live_error hl)] at h
    cases h
  | false =>
    cases ht : b.takesStatements with
    | false =>
      have ht' : ({ b with opened := none } : Builder).takesStatements = false := ht
      unfold add at h
      rw [bind_of_ok (live_apply hl), bind_of_ok (modify_apply _ b),
        bind_of_error (needScope_error ht')] at h
      cases h
    | true =>
      rcases hs : s.check b.checker with ⟨e | s', c⟩
      · rw [add_error hl ht hs] at h
        cases h
      · rw [add_ok hl ht hs] at h
        cases h
        exact ⟨rfl, rfl, s', c, rfl, rfl⟩

theorem check_of_add {s : Statement} (h : add s b = (.ok (), b')) :
    ∃ s', s.check b.checker = (.ok s', b'.checker) := by
  obtain ⟨_, _, s', c, hs, rfl⟩ := added_of_add h
  exact ⟨s', hs⟩

theorem passes_of_perform {ss : List Statement} (h : b.perform (.statements ss) = (.ok (), b')) :
    Passes ss b.checker b'.checker := by
  have hadd : (ss.forM add) b = (.ok (), b') := h
  induction ss generalizing b with
  | nil =>
    cases hadd
    exact passes_nil _
  | cons s ss ih =>
    obtain ⟨_, t, ht, hss⟩ := bind_ok.1 hadd
    obtain ⟨s', hs⟩ := check_of_add ht
    exact (passes_of_check hs).append (ih hss hss)

theorem build_apply (hl : b.consumed = false) (houter : b.outer = []) {label : Option String}
    {view : ScopeView} (hblock : b.inner.construct = .block label view) :
    b.build = (.ok (b.head.program ⟨b.inner.statements, label, some view⟩),
      { b with consumed := true }) := by
  unfold build
  rw [bind_of_ok (live_apply hl), bind_of_ok (get_apply b), houter, hblock]
  rfl

theorem check_set_literal {c c' : Checker} {name : String} {v : Value} {r : Except Error Statement} :
    (Statement.set [(name, .literal v)]).check c = (r, c') ↔
      (c.nesting.resolveTarget name).map (fun _ => .set [(name, .literal v)]) = r ∧
        c.noted = c' := by
  have hnoted : c.noted.nesting.resolveTarget name = c.nesting.resolveTarget name :=
    ((earlier_noted c).congr (·.resolveTarget name) fun n => n.resolveTarget_phaseless name).symm
  have hassign : assignments [(name, .literal v)] c.noted =
      (c.nesting.resolveTarget name, c.noted) := by
    have htarget : ask (·.resolveTarget name) c.noted = (c.nesting.resolveTarget name, c.noted) :=
      ask_eq.2 ⟨hnoted, rfl⟩
    show (resolveAll [] >>= fun _ => ask (·.resolveTarget name) >>= fun _ => pure ()) c.noted = _
    rw [bind_of_ok (resolveAll_eq.2 ⟨rfl, rfl⟩)]
    rcases h : c.nesting.resolveTarget name with e | u
    · rw [h] at htarget
      exact bind_of_error htarget
    · rw [h] at htarget
      exact bind_of_ok htarget
  rw [Statement.check, noteStatement_bind]
  rcases h : c.nesting.resolveTarget name with e | u
  · rw [h] at hassign
    rw [bind_of_error hassign]
    exact pair_eq
  · rw [h] at hassign
    rw [bind_of_ok hassign]
    exact pair_eq

/-- A name that a failed call has left behind in the block of a program breaks the program: an
assignment to it is accepted, but not once more. -/
theorem leftName_breaks {name : String} {fresh : Builder} (hl : b.consumed = false)
    (houter : b.outer = []) {label : Option String} {view : ScopeView}
    (hblock : b.inner.construct = .block label view)
    (hname : b.checker.nesting.resolveTarget name = .ok ())
    (hleft : ∀ d, Replays fresh.checker b.frames d → d.nesting.resolveTarget name ≠ .ok ()) :
    ∃ p b', (b.run [.set name (.value (.int 1)) []]).build = (.ok p, b') ∧
      ∀ b'', fresh.perform (.statements p.body.statements) ≠ (.ok (), b'') := by
  have ht : b.takesStatements = true := by
    unfold takesStatements
    rw [hblock]
    rfl
  have hset : (Statement.set [(name, .literal (.int 1))]).check b.checker =
      (.ok (.set [(name, .literal (.int 1))]), b.checker.noted) :=
    check_set_literal.2 ⟨by rw [hname]; rfl, rfl⟩
  have hrun : b.run [.set name (.value (.int 1)) []] =
      b.adding b.checker.noted [.set [(name, .literal (.int 1))]] b.serials none :=
    congrArg Prod.snd (add_ok hl ht hset)
  rw [hrun]
  refine ⟨_, _, build_apply (b := b.adding _ _ _ _) hl houter hblock, fun b'' h => ?_⟩
  rw [ProgramHead.body_program] at h
  obtain ⟨ss', hpass⟩ := passes_of_perform h
  obtain ⟨ts, d, us, hss, hlast, _⟩ := Statement.checkAll_append_ok.1 hpass
  obtain ⟨s', t, rest, hs, _⟩ := Statement.checkAll_cons_ok.1 hlast
  have hd : Replays fresh.checker b.frames d := by
    unfold frames
    rw [houter]
    exact .root (by rw [hblock]; rfl) ⟨ts, hss⟩
  refine hleft d hd ?_
  obtain ⟨u, hu, _⟩ := Outcome.map_eq_ok.1 (check_set_literal.1 hs).1
  exact hu

end Builder

/-- **What a builder gives can be given again.** Where the failing calls of a run leave nothing
behind, the statements of the program that the builder gives are accepted by a new builder for the
same program, one after the other. -/
theorem built_statements_pass {head : ProgramHead} {label : Operand} {stem stem' : String}
    {b fresh b' : Builder} {p : Program} (calls : List Call)
    (hb : Builder.start head label stem = .ok b)
    (hfresh : Builder.start head label stem' = .ok fresh)
    (htidy : Builder.Tidy fresh.checker b calls) (hbuild : (b.run calls).build = (.ok p, b')) :
    ∃ b'', fresh.perform (.statements p.body.statements) = (.ok (), b'') := by
  have htraced := Builder.run_traced calls (Builder.traced_start hb hfresh) htidy
  obtain ⟨l, view, houter, hinner, rfl⟩ := Builder.build_eq_ok hbuild
  obtain ⟨d, hd, _⟩ := htraced.replay
  unfold Builder.frames at hd
  rw [houter] at hd
  rw [ProgramHead.body_program]
  obtain ⟨hl, ht⟩ := Builder.start_takes hfresh
  exact Builder.perform_passes hl ht hd.root_passes

/-- Calls for whole numbers of two names; the second declaration and the second assignment fail. -/
def retried : List Call := [
  .declare ["a"] { type := .int } (.value .null),
  .declare ["a", "b"] { type := .int } (.value .null),
  .set "a" (.value (.int 1)) [],
  .set "b" (.value (.int 2)) []]

theorem retried_tidy : Builder.Tidy emptyBuilder.checker emptyBuilder retried := by
  refine ⟨fun e b' h _ => ?_, fun e b' h _ => ?_, ?_, ?_, trivial⟩
  · have hok : (emptyBuilder.perform (.declare ["a"] { type := .int } (.value .null))).1.isOk =
        true := by decide +kernel
    rw [h] at hok
    cases hok
  · have houter : (emptyBuilder.run (retried.take 2)).outer.isEmpty = true := by decide +kernel
    have hknown : (Statement.checkAll (emptyBuilder.run (retried.take 2)).inner.statements
        emptyBuilder.checker).2.known = (emptyBuilder.run (retried.take 2)).checker.known := by
      decide +kernel
    have haccounted := Builder.accounted_of_root (List.isEmpty_iff.1 houter) hknown
    have hb' : emptyBuilder.run (retried.take 2) = b' := congrArg Prod.snd h
    rwa [hb'] at haccounted
  · exact fun _ _ _ hatomic => absurd hatomic (by decide)
  · exact fun _ _ _ hatomic => absurd hatomic (by decide)

/-- A declaration that fails at its first name leaves nothing behind. -/
theorem retried_passes : ∃ b p b' b'', Builder.start .block (.value .null) Builder.usualStem = .ok b ∧
    Builder.Tidy b.checker b retried ∧ (b.run retried).build = (.ok p, b') ∧
      b.perform (.statements p.body.statements) = (.ok (), b'') := by
  have hok : (emptyBuilder.run retried).build.1.isOk = true := by decide +kernel
  rcases hbuild : (emptyBuilder.run retried).build with ⟨e | p, b'⟩
  · rw [hbuild] at hok
    cases hok
  · have hstart : Builder.start .block (.value .null) Builder.usualStem = .ok emptyBuilder := rfl
    obtain ⟨b'', hpass⟩ := built_statements_pass retried hstart hstart retried_tidy hbuild
    exact ⟨emptyBuilder, p, b', b'', hstart, retried_tidy, hbuild, hpass⟩

/-- Calls of which the second fails at its second name. -/
def halfDeclared : List Call := [
  .declare ["b"] { type := .int } (.value .null),
  .declare ["a", "b"] { type := .int } (.value .null),
  .set "a" (.value (.int 1)) []]

/-- A declaration that fails half done leaves a name behind that no statement declares. -/
theorem halfDeclared_refused : ∃ b p b' e b'',
    Builder.start .block (.value .null) Builder.usualStem = .ok b ∧
      (b.run halfDeclared).build = (.ok p, b') ∧
      b.perform (.statements p.body.statements) = (.error e, b'') := by
  have hrefused : (match (emptyBuilder.run halfDeclared).build.1 with
      | .ok p => (emptyBuilder.perform (.statements p.body.statements)).1.isOk
      | .error _ => true) = false := by decide +kernel
  rcases hbuild : (emptyBuilder.run halfDeclared).build with ⟨e | p, b'⟩
  · rw [hbuild] at hrefused
    cases hrefused
  · rw [hbuild] at hrefused
    rcases hpass : emptyBuilder.perform (.statements p.body.statements) with ⟨e | u, b''⟩
    · exact ⟨emptyBuilder, p, b', e, b'', rfl, hbuild, hpass⟩
    · simp only [hpass] at hrefused
      cases hrefused

end StoredSql
