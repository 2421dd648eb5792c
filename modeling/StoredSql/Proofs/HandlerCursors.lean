import StoredSql.Proofs.OpenFrames

/-!
# Handlers leave cursors alone

What the body of a handler does to cursors ends with the handler (`handler_keeps_cursors`): whether
its body is put together call by call, whatever calls fail on the way, or is handed over with the
handler, and is right there or not. The states from before the handler are put back into the scopes
around it, which until then no call can change otherwise.
-/

namespace StoredSql

open Check Stepwise

/-! ## Cursors of scopes -/

/-- Whether the same cursors are visible at two places, in the same states. -/
structure Nesting.SameCursors (n m : Nesting) : Prop where
  states : m.cursorStates = n.cursorStates
  found : ∀ name, m.cursor name = n.cursor name

theorem Nesting.SameCursors.of_eq {n m : Nesting} (h : m = n) : n.SameCursors m := by
  subst h
  exact ⟨rfl, fun _ => rfl⟩

/-- The declaration of a handler does nothing to cursors, even if it has no place. -/
theorem Check.declareHandler_sameCursors {c t : Checker} {r : Except Error Unit}
    (h : declare (·.declareHandler) c = (r, t)) : c.nesting.SameCursors t.nesting := by
  obtain ⟨s, hs, rfl⟩ := declare_eq.1 h
  cases r with
  | error e =>
    obtain ⟨_, rfl⟩ := Scope.declareHandler_eq_error.1 hs
    exact ⟨rfl, fun _ => rfl⟩
  | ok u =>
    obtain ⟨rfl, _⟩ := Scope.enterPhase_eq (Scope.declareHandler_eq_ok.1 hs)
    exact ⟨rfl, fun _ => rfl⟩

/-- The check of a handler does nothing to cursors, whether it succeeds or fails. -/
theorem Statement.declareHandler_sameCursors (action : HandlerAction)
    (conditions : List ConditionValue) (body : Statement) (c : Checker) :
    c.nesting.SameCursors ((declareHandler action conditions body).check c).2.nesting := by
  rcases h : (declareHandler action conditions body).check c with ⟨e | s, c'⟩
  · rcases check_declareHandler_error h with ht | ⟨t, ht, hu | ⟨u, v, hu, hbody, rfl⟩⟩
    · exact Check.declareHandler_sameCursors ht
    · obtain ⟨_, rfl⟩ := ask_eq.1 hu
      exact Check.declareHandler_sameCursors ht
    · obtain ⟨_, rfl⟩ := ask_eq.1 hu
      dsimp only
      rw [handling_undone hbody]
      exact Check.declareHandler_sameCursors ht
  · obtain ⟨t, u, body', v, ht, hu, hbody, rfl, _⟩ := check_declareHandler_ok.1 h
    obtain ⟨_, rfl⟩ := ask_eq.1 hu
    dsimp only
    rw [handling_undone hbody]
    exact Check.declareHandler_sameCursors ht

namespace Builder

variable {b b' : Builder} {start : Checker}

/-! ## While a construct is open -/

/-- Whether a construct, without its statements, is still open in some others, and what scopes are
around it. -/
def Holds (g : Frame) (fs : List Frame) (around : List Scope) (b : Builder) : Prop :=
  ∃ above, b.shells = above ++ g :: fs ∧ b.checker.beyond (scopeCounts (above ++ [g])) = around

variable {g : Frame} {fs : List Frame} {around : List Scope}

theorem shells_eq (b : Builder) : b.shells = b.inner.shell :: b.outer.map Frame.shell := rfl

theorem Stays.holds (h : b.Stays b') (hb : b.Holds g fs around)
    (hg : g.construct.kind = .handler) (haround : around ≠ []) : b'.Holds g fs around := by
  obtain ⟨above, hshells, rfl⟩ := hb
  rw [shells_eq] at hshells
  cases above with
  | nil =>
    obtain ⟨rfl, hfs⟩ := List.cons.inj hshells
    -- A handler has no other branches, so it is the same.
    have hsame : b'.inner.construct = b.inner.construct := by
      rcases h.construct with hsame | ⟨_, hif | hcase⟩
      · exact hsame
      · cases hif.symm.trans hg
      · cases hcase.symm.trans hg
    have hshell : b'.inner.shell = b.inner.shell := by
      unfold Frame.shell
      rw [hsame, h.serial]
    refine ⟨[], ?_, ?_⟩
    · rw [shells_eq, h.outer, hshell, hfs]
      rfl
    · have hbeyond := h.around 0 haround
      rw [hsame] at hbeyond
      exact hbeyond
  | cons a above =>
    obtain ⟨rfl, hfs⟩ := List.cons.inj hshells
    refine ⟨b'.inner.shell :: above, ?_, h.around _ haround⟩
    rw [shells_eq, h.outer, hfs]
    rfl

theorem Stacks.holds (h : b.Stacks b') (hb : b.Holds g fs around)
    (hg : g.construct.kind = .handler) : b'.Holds g fs around := by
  obtain ⟨above, hshells, rfl⟩ := hb
  obtain ⟨k, hk⟩ := Construct.scopeCount_of_takesStatements h.takes
  have hcounts : ∃ n, scopeCounts (above ++ [g]) = n + 1 := by
    rw [shells_eq] at hshells
    cases above with
    | nil =>
      obtain ⟨rfl, _⟩ := List.cons.inj hshells
      exact ⟨k, hk⟩
    | cons a above =>
      obtain ⟨rfl, _⟩ := List.cons.inj hshells
      refine ⟨k + scopeCounts (above ++ [g]), ?_⟩
      rw [← Nat.add_right_comm, ← hk]
      rfl
  obtain ⟨n, hn⟩ := hcounts
  refine ⟨b'.inner.shell :: above, ?_, ?_⟩
  · rw [shells_eq, h.outer]
    exact congrArg (b'.inner.shell :: ·) hshells
  · rw [hn, List.cons_append, scopeCounts, hn]
    exact h.around n

theorem Unstacks.holds (h : b.Unstacks b') (hb : b.Holds g fs around) (haround : around ≠ []) :
    b'.Holds g fs around ∨
      b.inner.shell = g ∧ b.checker.beyond g.construct.scopeCount = around := by
  obtain ⟨above, hshells, rfl⟩ := hb
  rw [shells_eq] at hshells
  cases above with
  | nil =>
    obtain ⟨rfl, _⟩ := List.cons.inj hshells
    exact .inr ⟨rfl, rfl⟩
  | cons a above =>
    obtain ⟨rfl, hfs⟩ := List.cons.inj hshells
    exact .inl ⟨above, h.shells.symm.trans hfs, h.around _ haround⟩

/-- While a handler is open, the constructs and the scopes around it stay the same, and its serial
number is its own. -/
def Guards (g : Frame) (fs : List Frame) (around : List Scope) (b : Builder) : Prop :=
  b.Numbered ∧ (b.Holds g fs around ∨ g.serial < b.serials ∧ g.serial ∉ b.serialNumbers)

theorem Restacks.guards (hg : g.construct.kind = .handler) (haround : around ≠ [])
    (h : b.Restacks b') (hb : b.Guards g fs around) : b'.Guards g fs around := by
  obtain ⟨hnumbered, hb⟩ := hb
  refine ⟨h.numbered hnumbered, ?_⟩
  rcases hb with hb | hgone
  · cases h with
    | stays h => exact .inl (h.holds hb hg haround)
    | opens h => exact .inl (h.holds hb hg)
    | closes h =>
      rcases h.holds hb haround with hb' | ⟨rfl, _⟩
      · exact .inl hb'
      · unfold Numbered at hnumbered
        rw [h.serialNumbers] at hnumbered
        obtain ⟨hlt, hbelow⟩ := List.pairwise_cons.1 hnumbered
        refine .inr ⟨h.serials ▸ hlt _ (.head _), fun hmem => ?_⟩
        exact Nat.lt_irrefl _ ((List.pairwise_cons.1 hbelow).1 _ hmem)
  · exact .inr (h.gone hgone)

/-- Whether a handler has been opened on top of what was open. It keeps the states of the cursors
from before it. -/
structure Handles (b b' : Builder) (t : Checker) : Prop where
  cursors : b.checker.nesting.SameCursors t.nesting
  construct : ∃ action conditions,
    b'.inner.construct = .handler action conditions t.nesting.states
  around : b'.checker.beyond 2 = t.beyond 0

theorem openHandler_handles (action : Outline) (conditions : List ConditionValue) (b : Builder) :
    Ends (fun b' => ∃ t, b.Handles b' t) (fun _ => True) b (openHandler action conditions) := by
  refine ends_openHandler trivial fun a _ => ends_opens trivial (fun _ _ _ _ => trivial) ?_
  intro k c _ hk
  unfold Construct.ofHandler at hk
  simp only [bind_ok, states_bind, child_none_bind, enter_bind, unknownStates_bind, pure_eq,
    Except.ok.injEq] at hk
  obtain ⟨_, t, ht, _, u, hu, rfl, rfl⟩ := hk
  obtain ⟨_, rfl⟩ := ask_eq.1 hu
  have hhandling : t.handling.beyond 1 = t.beyond 0 := t.inside_handling.beyond
  exact ⟨t, declareHandler_sameCursors ht, ⟨a, conditions, rfl⟩, hhandling⟩

/-- Where a handler that is open is closed by a call, the cursors are in the states from before it. -/
theorem Guards.closed {call : Call} (hb : b.Guards g fs around) (hplaced : b.Kept (fun _ _ => True) start)
    (hg : g.construct.kind = .handler) (haround : around ≠ [])
    (hstands : g.serial ∈ b.serialNumbers)
    (hgone : g.serial ∉ (b.perform call).2.serialNumbers) :
    b.inner.shell = g ∧ b.checker.beyond g.construct.scopeCount = around ∧
      b.Unstacks (b.perform call).2 := by
  have hholds : b.Holds g fs around := by
    rcases hb.2 with hholds | ⟨_, hnot⟩
    · exact hholds
    · exact absurd hstands hnot
  have hmem : ∀ {b' : Builder}, b'.Holds g fs around → g.serial ∈ b'.serialNumbers := by
    rintro b' ⟨above, hshells, _⟩
    rw [serialNumbers_eq, hshells]
    simp
  have hrestacks : b.Restacks (b.perform call).2 := (perform_restacks hplaced call).after
  cases hrestacks with
  | stays h => exact absurd (hmem (h.holds hholds hg haround)) hgone
  | opens h => exact absurd (hmem (h.holds hholds hg)) hgone
  | closes h =>
    rcases h.holds hholds haround with hholds' | ⟨hinner, hbeyond⟩
    · exact absurd (hmem hholds') hgone
    · exact ⟨hinner, hbeyond, h⟩

/-- The states of cursors from before a handler are put back where it is closed. -/
theorem Handles.closed {b₁ b₂ b₃ : Builder} {t : Checker} (h : b.Handles b₁ t)
    (hinner : b₂.inner.shell = b₁.inner.shell) (hbeyond : b₂.checker.beyond 2 = b₁.checker.beyond 2)
    (hcloses : b₂.Unstacks b₃) : b₃.checker.nesting = t.nesting := by
  obtain ⟨action, conditions, hconstruct⟩ := h.construct
  have hconstruct' : b₂.inner.construct = .handler action conditions t.nesting.states :=
    (congrArg (·.construct) hinner).trans hconstruct
  have haround : b₂.checker.beyond 2 = t.beyond 0 := hbeyond.trans h.around
  have hstill : t.Still (b₂.checker.leaveScopes 2) :=
    (Checker.beyond_leaveScopes (haround ▸ t.beyond_zero_ne_nil) 0).trans haround
  rw [hcloses.handler _ _ _ hconstruct', hstill.withStates rfl, t.withStates_states]

/-- A handler that is handed over with its body does nothing to cursors. -/
theorem declareHandler_leaves_cursors (action : Outline) (conditions : List ConditionValue)
    (body : Statement) (b : Builder) :
    b.checker.nesting.SameCursors
      (b.perform (.declareHandler action conditions body)).2.checker.nesting := by
  have hends : Ends (fun b' => b.checker.nesting.SameCursors b'.checker.nesting)
      (fun b' => b.checker.nesting.SameCursors b'.checker.nesting) b
      (addMade (Statement.makeDeclareHandler action conditions body)) := by
    refine ends_made (.of_eq rfl) fun s hs => ?_
    obtain ⟨a, _, _, _, _, rfl⟩ := Statement.makeDeclareHandler_eq_ok.1 hs
    have hcheck := Statement.declareHandler_sameCursors a conditions body b.checker
    refine ends_add (.of_eq rfl) (.of_eq rfl) (fun e c _ h => ?_) fun s' c _ h => ?_
    · rw [h] at hcheck
      exact hcheck
    · rw [h] at hcheck
      exact hcheck
  exact hends.after

/-- A program that is asked for while something is open is not given, and nothing is done. -/
theorem build_of_open (h : b.outer ≠ []) : (b.build).2 = b := by
  obtain ⟨head, checker, inner, _ | ⟨f, fs⟩, serials, opened, withs, _ | _⟩ := b
  all_goals first | exact absurd rfl h | rfl

end Builder

/-! ## Handlers -/

/-- **What the body of a handler does to cursors ends with the handler.** Between the call that opens
a handler and the call that closes it there may be any calls, whether they succeed or fail; a program
that is asked for in between is not given. Where a handler is handed over with its body, the check of
it leaves the cursors as they are wherever it comes, whether it succeeds or fails. -/
theorem handler_keeps_cursors {head : ProgramHead} {label : Operand} {stem : String}
    {start b b₁ : Builder} {before calls : List Call} {call : Call} {action : Outline}
    {conditions : List ConditionValue} (hstart : Builder.start head label stem = .ok start)
    (hb : start.run before = b)
    (hopen : b.perform (.openHandler action conditions) = (.ok (), b₁))
    (hstands : b₁.inner.serial ∈ (b₁.run calls).serialNumbers)
    (hcloses : b₁.inner.serial ∉ ((b₁.run calls).perform call).2.serialNumbers) :
    (b.checker.nesting.SameCursors ((b₁.run calls).perform call).2.checker.nesting ∧
      (b₁.run calls).build.2 = b₁.run calls) ∧
    (∀ (action : HandlerAction) (conditions : List ConditionValue) (body : Statement) (c : Checker),
      c.nesting.SameCursors ((Statement.declareHandler action conditions body).check c).2.nesting) ∧
    ∀ (b : Builder) (action : Outline) (conditions : List ConditionValue) (body : Statement),
      b.checker.nesting.SameCursors
        (b.perform (.declareHandler action conditions body)).2.checker.nesting := by
  refine ⟨?_, Statement.declareHandler_sameCursors, fun b action conditions body =>
    Builder.declareHandler_leaves_cursors action conditions body b⟩
  subst hb
  have hrun : start.run (before ++ [.openHandler action conditions]) = b₁ := Builder.run_concat hopen
  have hplaced := Builder.run_placed (before ++ [.openHandler action conditions]) hstart
  have hnumbered := Builder.run_numbered (before ++ [.openHandler action conditions]) hstart
  rw [hrun] at hplaced hnumbered
  obtain ⟨t, hhandles⟩ := (Builder.openHandler_handles action conditions _).ok hopen
  obtain ⟨a, cs, hconstruct⟩ := hhandles.construct
  have hkind : b₁.inner.shell.construct.kind = .handler := congrArg Construct.kind hconstruct
  have hcount : b₁.inner.shell.construct.scopeCount = 2 := congrArg Construct.scopeCount hconstruct
  have haround : b₁.checker.beyond 2 ≠ [] := hhandles.around ▸ t.beyond_zero_ne_nil
  have hguards : b₁.Guards b₁.inner.shell (b₁.outer.map Frame.shell) (b₁.checker.beyond 2) := by
    refine ⟨hnumbered, .inl ⟨[], rfl, ?_⟩⟩
    rw [List.nil_append, scopeCounts, hcount]
    rfl
  have hguards' := Builder.run_restacks (Builder.Restacks.guards hkind haround) calls hplaced hguards
  have hplaced' := Builder.run_kept upheld_true (fun _ _ _ _ _ => trivial) calls hplaced
  obtain ⟨hinner, hbeyond, hunstacks⟩ := hguards'.closed hplaced' hkind haround hstands hcloses
  rw [hcount] at hbeyond
  constructor
  · rw [hhandles.closed hinner hbeyond hunstacks]
    exact hhandles.cursors
  · refine Builder.build_of_open fun houter => ?_
    have hshells := hunstacks.shells
    rw [houter] at hshells
    cases hshells

/-- A call that declares a cursor. -/
def cursorDeclared : List Call := [.declareCursor "c" (.query { items := [] })]

/-- A call that opens a handler. -/
def notFoundHandler : Call := .openHandler (.text "CONTINUE") [.notFound]

/-- Calls in the body of a handler, of which the first one fails. -/
def cursorOpened : List Call := [.closeCursor "d", .openCursor "c"]

/-- A cursor that is opened in the body of a handler is not open behind it. -/
theorem openedInHandler_undone : ∃ b b₁ b₂,
    Builder.start .block (.value .null) Builder.usualStem = .ok b ∧
      (b.run cursorDeclared).perform notFoundHandler = (.ok (), b₁) ∧
      (b₁.run cursorOpened).checker.nesting.cursorStates = [("c", .opened)] ∧
      b₁.inner.serial ∈ (b₁.run cursorOpened).serialNumbers ∧
      ((b₁.run cursorOpened).perform .endHandler).2 = b₂ ∧ b₁.inner.serial ∉ b₂.serialNumbers ∧
      b₂.checker.nesting.cursorStates = [("c", .declared)] := by
  have hok : ((emptyBuilder.run cursorDeclared).perform notFoundHandler).1 = .ok () := by
    decide +kernel
  have hdeclared : (emptyBuilder.run cursorDeclared).checker.nesting.cursorStates =
      [("c", .declared)] := by decide +kernel
  have hopened : (((emptyBuilder.run cursorDeclared).perform notFoundHandler).2.run
      cursorOpened).checker.nesting.cursorStates = [("c", .opened)] := by decide +kernel
  have hstands : ((emptyBuilder.run cursorDeclared).perform notFoundHandler).2.inner.serial ∈
      (((emptyBuilder.run cursorDeclared).perform notFoundHandler).2.run
        cursorOpened).serialNumbers := by decide +kernel
  have hcloses : ((emptyBuilder.run cursorDeclared).perform notFoundHandler).2.inner.serial ∉
      ((((emptyBuilder.run cursorDeclared).perform notFoundHandler).2.run cursorOpened).perform
        .endHandler).2.serialNumbers := by decide +kernel
  rcases hopen : (emptyBuilder.run cursorDeclared).perform notFoundHandler with ⟨r, b₁⟩
  rw [hopen] at hok hopened hstands hcloses
  obtain rfl : r = .ok () := hok
  have hstart : Builder.start .block (.value .null) Builder.usualStem = .ok emptyBuilder := rfl
  have hsame := (handler_keeps_cursors hstart rfl hopen hstands hcloses).1.1
  exact ⟨emptyBuilder, b₁, _, hstart, hopen, hopened, hstands, rfl, hcloses,
    hsame.states.trans hdeclared⟩

end StoredSql
