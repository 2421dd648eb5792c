import StoredSql.Proofs.FramedCalls

/-!
# What calls do to open constructs

Each call, whether it succeeds or fails, leaves all open constructs but the innermost one alone, and
does one of three things to that (`Builder.Restacks`): it stays, perhaps at its next branch; another
one is opened in it; or it is closed, and gone even where no statement can be made of it. The scopes
around the constructs that it is about are the same afterwards, but for the states of cursors
(`Checker.beyond`).
-/

namespace StoredSql

open Check Stepwise

/-! ## Scopes further out -/

namespace Checker

variable {c c' : Checker}

/-- The scopes around the innermost ones, of a count, without the states of their cursors. -/
def beyond (n : Nat) (c : Checker) : List Scope := (c.nesting.scopes.drop n).map Scope.stateless

theorem beyond_add (m n : Nat) (c : Checker) : c.beyond (m + n) = (c.beyond m).drop n := by
  unfold beyond
  rw [← List.map_drop, List.drop_drop]

theorem beyond_zero_ne_nil (c : Checker) : c.beyond 0 ≠ [] := List.cons_ne_nil _ _

/-- What is around some scopes is around those that have the same around them. -/
theorem beyond_congr {m m' : Nat} (h : c'.beyond m' = c.beyond m) (n : Nat) :
    c'.beyond (m' + n) = c.beyond (m + n) := by
  rw [beyond_add, beyond_add, h]

theorem Still.beyond (h : c.Still c') (n : Nat) : c'.beyond n = c.beyond n := by
  have hzero : c'.beyond 0 = c.beyond 0 := h
  simpa using beyond_congr hzero n

theorem Onward.beyond (h : c.Onward c') (n : Nat) : c'.beyond (n + 1) = c.beyond (n + 1) := by
  have hone : c'.beyond 1 = c.beyond 1 := h.outer
  rw [Nat.add_comm n 1]
  exact beyond_congr hone n

theorem Inside.beyond {kind : ScopeKind} {label : Option String} (h : c.Inside kind label c') :
    c'.beyond 1 = c.beyond 0 :=
  h.around

theorem beyond_branched (before : List CursorState) (c : Checker) :
    (c.branched before).beyond 1 = c.beyond 0 :=
  (c.inside_branched before).beyond

/-- Outside the innermost scopes there is what is around them. -/
theorem beyond_leaveScopes {k : Nat} (h : c.beyond k ≠ []) (n : Nat) :
    (c.leaveScopes k).beyond n = c.beyond (k + n) := by
  induction k generalizing c with
  | zero => rw [Nat.zero_add, leaveScopes]
  | succ k ih =>
    obtain ⟨⟨inner, _ | ⟨s, ss⟩⟩, labels⟩ := c
    · have hnil : Checker.beyond (k + 1) ⟨⟨inner, []⟩, labels⟩ = [] := by simp [Checker.beyond, Nesting.scopes]
      exact absurd hnil h
    · have hk : Checker.beyond k ⟨⟨s, ss⟩, labels⟩ ≠ [] := h
      rw [leaveScopes, Nat.succ_add]
      exact ih hk

theorem beyond_left (h : c.beyond 1 ≠ []) : c.left.beyond 0 = c.beyond 1 :=
  beyond_leaveScopes h 0

theorem beyond_ne_nil_of_add {m n : Nat} (h : c.beyond (m + n) ≠ []) : c.beyond m ≠ [] := by
  intro hm
  rw [beyond_add, hm, List.drop_nil] at h
  exact h rfl

end Checker

/-! ## Open constructs without their statements -/

/-- Whether a construct is the same, or the same conditional or case with other branches. -/
def Construct.Resumes (k k' : Construct) : Prop :=
  k' = k ∨ k'.kind = k.kind ∧ (k.kind = .ifElse ∨ k.kind = .cases)

theorem Construct.Resumes.kind {k k' : Construct} (h : k.Resumes k') : k'.kind = k.kind := by
  rcases h with rfl | h
  · rfl
  · exact h.1

theorem Construct.Resumes.trans {k k' k'' : Construct} (h : k.Resumes k') (h' : k'.Resumes k'') :
    k.Resumes k'' := by
  rcases h with rfl | ⟨hkind, hbranches⟩
  · exact h'
  · exact .inr ⟨h'.kind.trans hkind, hbranches⟩

/-- What takes statements has a scope for them. -/
theorem Construct.scopeCount_of_takesStatements {k : Construct} (h : k.takesStatements = true) :
    ∃ n, k.scopeCount = n + 1 := by
  cases k with
  | cases part =>
    have hentered : part.entered = true := h
    exact ⟨0, if_pos hentered⟩
  | handler action conditions before => exact ⟨1, rfl⟩
  | _ => exact ⟨0, rfl⟩

/-- The scopes of an open construct are inside those where it has been opened. -/
theorem Construct.Opened.beyond {P : Checker → List Statement → Prop} {k : Construct}
    {c d : Checker} {ss : List Statement} (h : k.Opened P c d ss) :
    d.beyond k.scopeCount = c.beyond 0 := by
  cases k with
  | block label view => exact h.2.1.beyond
  | handler action conditions before =>
    obtain ⟨_, _, t, ht, _, hd, _⟩ := h
    exact (Checker.beyond_congr hd.beyond 1).trans ht.beyond
  | ifElse part =>
    obtain ⟨_, _, _, _, hd, _⟩ := h
    exact hd.beyond
  | cases part =>
    obtain ⟨_, _, _, _, _, h⟩ := h
    show d.beyond (if part.entered then 1 else 0) = _
    split at h
    · rw [if_pos ‹_›]
      exact h.1.beyond
    · rw [if_neg ‹_›]
      exact h.1.beyond 0
  | loop label => exact h.2.1.beyond
  | whileLoop label test => exact h.2.2.1.beyond
  | repeatLoop label => exact h.2.1.beyond

/-- No property at all is upheld. -/
theorem upheld_true : Upheld fun _ _ => True where
  moves _ _ := trivial
  fresh _ := trivial
  leaf _ _ _ := trivial
  holder _ _ := trivial

theorem viewed_true : UpheldViewed (fun _ => True) fun _ _ => True := upheld_true.viewed _

/-- An open construct without its statements. -/
def Frame.shell (f : Frame) : Frame := { f with statements := [] }

/-- How many scopes open constructs have. -/
def scopeCounts : List Frame → Nat
  | [] => 0
  | f :: fs => f.construct.scopeCount + scopeCounts fs

namespace Builder

variable {α : Type} {b b' b'' : Builder} {start : Checker}

/-- The open constructs of a builder without their statements, innermost first. -/
def shells (b : Builder) : List Frame := b.frames.map Frame.shell

/-- The serial numbers of the open constructs, innermost first. -/
def serialNumbers (b : Builder) : List Nat := b.frames.map (·.serial)

theorem serialNumbers_eq (b : Builder) : b.serialNumbers = b.shells.map (·.serial) := by
  unfold serialNumbers shells
  rw [List.map_map]
  rfl

/-! ## What a call does -/

/-- Whether the same constructs are open, the innermost one perhaps at its next branch. -/
structure Stays (b b' : Builder) : Prop where
  outer : b'.outer = b.outer
  serial : b'.inner.serial = b.inner.serial
  construct : b.inner.construct.Resumes b'.inner.construct
  serials : b'.serials = b.serials
  around : ∀ n, b.checker.beyond (b.inner.construct.scopeCount + n) ≠ [] →
    b'.checker.beyond (b'.inner.construct.scopeCount + n) =
      b.checker.beyond (b.inner.construct.scopeCount + n)

/-- Whether there is one more construct on top of the open ones, in the scopes where they are. -/
structure Stacks (b b' : Builder) : Prop where
  outer : b'.outer = b.frames
  serial : b'.inner.serial = b.serials
  takes : b.takesStatements = true
  serials : b'.serials = b.serials + 1
  around : ∀ n, b'.checker.beyond (b'.inner.construct.scopeCount + (n + 1)) =
    b.checker.beyond (n + 1)
  moves : b.checker.Moves (b'.checker.leaveScopes b'.inner.construct.scopeCount)

/-- Whether the innermost construct is gone, with its scopes. After a handler the states of cursors
are those from before it. -/
structure Unstacks (b b' : Builder) : Prop where
  shells : b.outer.map Frame.shell = b'.shells
  serials : b'.serials = b.serials
  around : ∀ n, b.checker.beyond (b.inner.construct.scopeCount + n) ≠ [] →
    b'.checker.beyond n = b.checker.beyond (b.inner.construct.scopeCount + n)
  handler : ∀ action conditions before, b.inner.construct = .handler action conditions before →
    b'.checker = (b.checker.leaveScopes 2).withStates before

/-- What a call may do to the open constructs. -/
inductive Restacks (b b' : Builder) : Prop
  | stays : b.Stays b' → Restacks b b'
  | opens : b.Stacks b' → Restacks b b'
  | closes : b.Unstacks b' → Restacks b b'

theorem Stays.refl (b : Builder) : b.Stays b :=
  ⟨rfl, rfl, .inl rfl, rfl, fun _ _ => rfl⟩

theorem Stays.trans (h : b.Stays b') (h' : b'.Stays b'') : b.Stays b'' where
  outer := h'.outer.trans h.outer
  serial := h'.serial.trans h.serial
  construct := h.construct.trans h'.construct
  serials := h'.serials.trans h.serials
  around n hn := by
    have hb' := h.around n hn
    exact (h'.around n (hb' ▸ hn)).trans hb'

/-- Whether an action does to the open constructs what a call may do. -/
abbrev Restacking (b : Builder) (act : Action α) : Prop := Ends (Restacks b) (Restacks b) b act

/-- Statements that come to the innermost construct, and checks of them, move its scopes on. -/
theorem stays_of_onward {c : Checker} {ss : List Statement} {o : Option FrameMark}
    (ht : b.takesStatements = true) (hc : b.checker.Onward c) :
    b.Stays { b with checker := c, inner := { b.inner with statements := ss }, opened := o } := by
  refine ⟨rfl, rfl, .inl rfl, rfl, fun n _ => ?_⟩
  obtain ⟨k, hk⟩ := Construct.scopeCount_of_takesStatements ht
  show c.beyond (b.inner.construct.scopeCount + n) = _
  rw [hk, Nat.add_right_comm]
  exact hc.beyond _

theorem add_stays (s : Statement) (b : Builder) : Ends (Stays b) (Stays b) b (add s) := by
  have honward := Statement.check_onward s
  have hopened : b.Stays { b with opened := none } := ⟨rfl, rfl, .inl rfl, rfl, fun _ _ => rfl⟩
  refine ends_add (.refl b) hopened (fun e c ht hs => ?_) fun s' c ht hs => ?_
  · exact stays_of_onward ht (honward.apply hs)
  · exact stays_of_onward ht (honward.apply hs)

theorem statements_stay (ss : List Statement) :
    ∀ b : Builder, Ends (Stays b) (Stays b) b (ss.forM add) := by
  induction ss with
  | nil => exact fun b => ends_ok rfl (.refl b)
  | cons s ss ih =>
    intro b
    have hs := add_stays s b
    refine hs.bind fun _ b' h => ?_
    exact ⟨fun h' => (hs.ok h).trans ((ih b').ok h'), fun h' => (hs.ok h).trans ((ih b').error h')⟩

theorem addMade_stays (r : Except Error Statement) (b : Builder) :
    Ends (Stays b) (Stays b) b (addMade r) :=
  ends_made (.refl b) fun s _ => add_stays s b

theorem Ends.restacks {act : Action α} (h : Ends (Stays b) (Stays b) b act) :
    Restacking b act :=
  ⟨fun hact => .stays (h.ok hact), fun hact => .stays (h.error hact)⟩

theorem restacks_refl (b : Builder) : Restacks b b := .stays (.refl b)

/-! ### Opening -/

theorem opens_restacks {construct : Check Construct}
    (h : Construct.Opening (fun _ _ => True) construct) : Restacking b (opens construct) := by
  refine ends_opens (restacks_refl b) (fun e c ht hk => ?_) fun k c ht hk => ?_
  · exact .stays (stays_of_onward ht (h.error hk))
  · obtain ⟨d, hmoves, hopened⟩ := h.ok hk
    refine .opens ⟨rfl, rfl, ht, rfl, fun n => ?_, hmoves.still hopened.left⟩
    have haround := Checker.beyond_congr hopened.beyond (n + 1)
    rw [Nat.zero_add] at haround
    exact haround.trans (hmoves.onward.beyond n)

theorem openHandler_restacks (action : Outline) (conditions : List ConditionValue) :
    Restacking b (openHandler action conditions) :=
  ends_openHandler (restacks_refl b) fun a _ =>
    opens_restacks (Construct.opening_handler viewed_true a conditions)

/-! ### Closing -/

theorem closes_restacks (kind : ConstructKind) : Restacking b (closes kind) := by
  have hunstacks : ∀ (f : Frame) (fs : List Frame) (ss : List Statement) (r : Except Error Statement)
      (c : Checker), b.outer = f :: fs →
      b.inner.construct.finish b.checker.nesting.view b.inner.statements
        (b.checker.leaveScopes b.inner.construct.scopeCount) = (r, c) →
      b.Unstacks { b with inner := { f with statements := ss }, outer := fs, checker := c } := by
    intro f fs ss r c houter hfinish
    refine ⟨?_, rfl, fun n hn => ?_, fun action conditions before hk => ?_⟩
    · rw [houter]
      rfl
    · have hstill := (Construct.finish_still _ _ _).apply hfinish
      exact (hstill.beyond n).trans
        (Checker.beyond_leaveScopes (Checker.beyond_ne_nil_of_add hn) n)
    · rw [hk] at hfinish
      cases hfinish
      rfl
  refine ends_closes (restacks_refl b) (fun f fs e c houter _ h => ?_)
    fun f fs s c houter _ h => ?_
  · exact .closes (hunstacks f fs f.statements _ c houter h)
  · exact .closes (hunstacks f fs _ _ c houter h)

theorem endRepeat_restacks (test : Operand) : Restacking b (endRepeat test) := by
  have hunstacks : ∀ (f : Frame) (fs : List Frame) (ss : List Statement) (label : String),
      b.outer = f :: fs → b.inner.construct = .repeatLoop label →
      b.Unstacks { b with
        inner := { f with statements := ss }, outer := fs, checker := b.checker.left } := by
    intro f fs ss label houter hk
    refine ⟨?_, rfl, ?_, ?_⟩
    · rw [houter]
      rfl
    · rw [hk]
      intro n hn
      exact Checker.beyond_leaveScopes (Checker.beyond_ne_nil_of_add hn) n
    · rw [hk]
      nofun
  refine ends_endRepeat (restacks_refl b) (fun f fs label e houter hk _ => ?_)
    fun f fs label s houter hk _ _ => ?_
  · exact .closes (hunstacks f fs f.statements label houter hk)
  · exact .closes (hunstacks f fs _ label houter hk)

/-! ### The next branch -/

/-- The next branch of a construct has a scope in the place of the one of the branch before, if there
is one. -/
theorem stays_branching {k : Construct} {c : Checker} {before : List CursorState}
    (hk : b.inner.construct.Resumes k) (hcount : k.scopeCount = 1)
    (hc : b.checker.beyond b.inner.construct.scopeCount ≠ [] →
      c.beyond 0 = b.checker.beyond b.inner.construct.scopeCount) :
    b.Stays (b.branching (c.branched before) k []) := by
  refine ⟨rfl, rfl, hk, rfl, fun n hn => ?_⟩
  have hbranch : (c.branched before).beyond 1 = b.checker.beyond b.inner.construct.scopeCount :=
    (c.beyond_branched before).trans (hc (Checker.beyond_ne_nil_of_add hn))
  show (c.branched before).beyond (k.scopeCount + n) = _
  rw [hcount]
  exact Checker.beyond_congr hbranch n

/-- The next branch of a conditional. -/
theorem stays_branch {part : OpenIf} {k : Construct} (before : List CursorState)
    (hk : b.inner.construct = .ifElse part) (hkind : k.kind = .ifElse) (hcount : k.scopeCount = 1) :
    b.Stays (b.branching (b.checker.left.branched before) k []) := by
  refine stays_branching (.inr ?_) hcount ?_
  · rw [hk]
    exact ⟨hkind, .inl rfl⟩
  · rw [hk]
    exact Checker.beyond_left

/-- The next arm of a case. -/
theorem stays_arm {part part' : OpenCase} {k : Construct} (before : List CursorState)
    (hk : b.inner.construct = .cases part) (hentered : part'.entered = part.entered)
    (hkind : k.kind = .cases) (hcount : k.scopeCount = 1) :
    b.Stays (b.branching ((aroundArm part' b.checker).branched before) k []) := by
  refine stays_branching (.inr ?_) hcount ?_
  · rw [hk]
    exact ⟨hkind, .inr rfl⟩
  · rw [hk]
    have hcount' : (Construct.cases part).scopeCount = if part.entered then 1 else 0 := rfl
    unfold aroundArm
    rw [hcount', hentered]
    split
    · exact Checker.beyond_left
    · exact fun _ => rfl

theorem elseIf_restacks (test : Operand) : Restacking b (elseIf test) := by
  refine ends_elseIf (restacks_refl b) ?_
  rintro part part' _ hk _ _ rfl
  exact ⟨.stays (stays_branch _ hk rfl rfl), fun _ => .stays (stays_branch _ hk rfl rfl)⟩

theorem otherwise_restacks (hb : b.Kept (fun _ _ => True) start) : Restacking b otherwise := by
  refine ends_otherwise (restacks_refl b) (fun part part' hk _ _ => ?_)
    fun part part' hk _ htest hclose => ?_
  · exact .stays (stays_branch _ hk rfl rfl)
  · obtain ⟨_, _, _, _, _, _, hopened⟩ := Framed.opened hb (.inl (by rw [hk]; nofun))
    rw [hk] at hopened
    have hkept := (OpenCase.close_keeps hclose).1
    have hentered : part'.entered = true := hkept.trans (hopened.entered htest)
    have haround : aroundArm part' b.checker = b.checker.left := if_pos hentered
    rw [← haround]
    exact .stays (stays_arm _ hk hkept rfl (if_pos hentered))

theorem openWhen_restacks (test : Operand) : Restacking b (openWhen test) := by
  refine ends_openWhen (restacks_refl b) ?_
  rintro part part' _ hk _ hclose rfl
  have hentered := (OpenCase.close_keeps hclose).1
  exact ⟨.stays (stays_arm _ hk hentered rfl rfl), fun _ => .stays (stays_arm _ hk hentered rfl rfl)⟩

/-! ### Calls -/

/-- Which brackets are open does not count. -/
theorem Restacks.of_withs {withs : List (Option FrameMark)}
    (h : Restacks { b with withs } b') : Restacks b b' := by
  cases h with
  | stays h => exact .stays ⟨h.outer, h.serial, h.construct, h.serials, h.around⟩
  | opens h => exact .opens ⟨h.outer, h.serial, h.takes, h.serials, h.around, h.moves⟩
  | closes h => exact .closes ⟨h.shells, h.serials, h.around, h.handler⟩

theorem closeInnermost_restacks : Restacking b closeInnermost :=
  ends_closeInnermost (restacks_refl b) fun kind => closes_restacks kind

theorem exitBracket_restacks (failed : Bool) : Restacking b (exitBracket failed) := by
  have hwiths : ∀ withs, b.Stays { b with withs } :=
    fun _ => ⟨rfl, rfl, .inl rfl, rfl, fun _ _ => rfl⟩
  refine ends_exitBracket (fun _ => restacks_refl b) (fun _ withs _ => .stays (hwiths withs))
    (fun _ withs _ _ => .stays (hwiths withs)) fun _ withs _ _ => ?_
  have hcloses := @closeInnermost_restacks { b with withs }
  exact ⟨fun h => (hcloses.ok h).of_withs, fun h => (hcloses.error h).of_withs⟩

/-- **Each call leaves all open constructs but the innermost one alone**, and that one stays, another
one is opened in it, or it is closed. -/
theorem perform_restacks (hb : b.Kept (fun _ _ => True) start) : ∀ call : Call,
    Restacking b (act call)
  | .declare _ _ _ => (addMade_stays _ b).restacks
  | .declareCondition _ _ => (addMade_stays _ b).restacks
  | .declareCursor _ _ => (addMade_stays _ b).restacks
  | .declareHandler _ _ _ => (addMade_stays _ b).restacks
  | .openHandler action conditions => openHandler_restacks action conditions
  | .endHandler => closes_restacks .handler
  | .openBlock label => opens_restacks (Construct.opening_block viewed_true label)
  | .endBlock => closes_restacks .block
  | .close => ends_close (restacks_refl b) fun kind => closes_restacks kind
  | .openIf test => opens_restacks (Construct.opening_if viewed_true test)
  | .elseIf test => elseIf_restacks test
  | .otherwise => otherwise_restacks hb
  | .endIf => closes_restacks .ifElse
  | .openCase operand => opens_restacks (Construct.opening_case operand)
  | .openWhen test => openWhen_restacks test
  | .endCase => closes_restacks .cases
  | .openLoop label => opens_restacks (Construct.opening_loop viewed_true label)
  | .endLoop => closes_restacks .loop
  | .openWhile test label => opens_restacks (Construct.opening_while viewed_true test label)
  | .endWhile => closes_restacks .whileLoop
  | .openRepeat label => opens_restacks (Construct.opening_repeat viewed_true label)
  | .endRepeat test => endRepeat_restacks test
  | .iterate label => (add_stays (.iterate label) b).restacks
  | .leave label => (add_stays (.leave label) b).restacks
  | .openCursor name => (add_stays (.openCursor name) b).restacks
  | .fetch _ _ => (addMade_stays _ b).restacks
  | .closeCursor name => (add_stays (.closeCursor name) b).restacks
  | .select _ => (addMade_stays _ b).restacks
  | .insert _ => (addMade_stays _ b).restacks
  | .set _ _ _ => (addMade_stays _ b).restacks
  | .call _ _ => (addMade_stays _ b).restacks
  | .signal _ _ _ => (addMade_stays _ b).restacks
  | .signalState _ _ _ => (addMade_stays _ b).restacks
  | .raw sql => (add_stays (.raw sql) b).restacks
  | .empty => (add_stays .empty b).restacks
  | .statements ss => (statements_stay ss b).restacks
  | .enterBracket => ends_ok rfl (.stays ⟨rfl, rfl, .inl rfl, rfl, fun _ _ => rfl⟩)
  | .exitBracket failed => exitBracket_restacks failed

/-! ## Runs of calls -/

/-- What is open in a builder has its place, whatever calls have come and failed. -/
theorem run_placed {head : ProgramHead} {label : Operand} {stem : String} (calls : List Call)
    (h : Builder.start head label stem = .ok b) :
    (b.run calls).Kept (fun _ _ => True) (head.checker stem) :=
  run_kept upheld_true (fun _ _ _ _ _ => trivial) calls (kept_start upheld_true h)

/-- One call more. -/
theorem run_concat {calls : List Call} {call : Call} {r : Except Error Unit}
    (h : (b.run calls).perform call = (r, b')) : b.run (calls ++ [call]) = b' := by
  unfold run at h ⊢
  rw [List.foldl_append]
  exact congrArg Prod.snd h

/-- What holds of a builder in its place and is kept where constructs stay, are opened and closed, is
kept by a run of calls. -/
theorem run_restacks {Q : Builder → Prop} (hQ : ∀ {b b' : Builder}, b.Restacks b' → Q b → Q b')
    (calls : List Call) (hb : b.Kept (fun _ _ => True) start) (h : Q b) : Q (b.run calls) := by
  induction calls generalizing b with
  | nil => exact h
  | cons call calls ih =>
    have hcall : b.Restacks (b.perform call).2 := (perform_restacks hb call).after
    exact ih (run_kept upheld_true (fun _ _ _ _ _ => trivial) [call] hb) (hQ hcall h)

/-! ### Serial numbers -/

theorem Stays.serialNumbers (h : b.Stays b') : b'.serialNumbers = b.serialNumbers := by
  unfold Builder.serialNumbers frames
  rw [List.map_cons, List.map_cons, h.serial, h.outer]

theorem Stacks.serialNumbers (h : b.Stacks b') :
    b'.serialNumbers = b.serials :: b.serialNumbers := by
  unfold Builder.serialNumbers
  rw [frames, List.map_cons, h.serial, h.outer]

theorem Unstacks.serialNumbers (h : b.Unstacks b') :
    b.serialNumbers = b.inner.serial :: b'.serialNumbers := by
  rw [serialNumbers_eq b', ← h.shells, List.map_map]
  rfl

/-- Whether the serial numbers of the open constructs go down from the next one. So no two of them
have the same. -/
def Numbered (b : Builder) : Prop := (b.serials :: b.serialNumbers).Pairwise (· > ·)

theorem Restacks.numbered (h : b.Restacks b') (hb : b.Numbered) : b'.Numbered := by
  unfold Numbered at hb ⊢
  cases h with
  | stays h =>
    rw [h.serials, h.serialNumbers]
    exact hb
  | opens h =>
    rw [h.serials, h.serialNumbers]
    refine List.pairwise_cons.2 ⟨List.forall_mem_cons.2 ⟨Nat.lt_succ_self _, fun n hn => ?_⟩, hb⟩
    exact Nat.lt_succ_of_lt ((List.pairwise_cons.1 hb).1 n hn)
  | closes h =>
    rw [h.serials]
    rw [h.serialNumbers] at hb
    exact hb.sublist (.cons_cons _ (List.sublist_cons_self _ _))

theorem start_numbered {head : ProgramHead} {label : Operand} {stem : String}
    (h : Builder.start head label stem = .ok b) : b.Numbered := by
  obtain ⟨_, _, _, _, _, _, rfl⟩ := Builder.start_eq_ok.1 h
  exact List.pairwise_pair.2 Nat.zero_lt_one

theorem run_numbered {head : ProgramHead} {label : Operand} {stem : String} (calls : List Call)
    (h : Builder.start head label stem = .ok b) : (b.run calls).Numbered :=
  run_restacks Restacks.numbered calls (kept_start upheld_true h) (start_numbered h)

/-- A serial number that is given away does not come back once its construct is closed. -/
theorem Restacks.gone {n : Nat} (h : b.Restacks b') (hn : n < b.serials ∧ n ∉ b.serialNumbers) :
    n < b'.serials ∧ n ∉ b'.serialNumbers := by
  obtain ⟨hlt, hmem⟩ := hn
  cases h with
  | stays h => exact ⟨h.serials ▸ hlt, h.serialNumbers ▸ hmem⟩
  | opens h =>
    rw [h.serials, h.serialNumbers]
    exact ⟨Nat.lt_succ_of_lt hlt, List.not_mem_cons_of_ne_of_not_mem (Nat.ne_of_lt hlt) hmem⟩
  | closes h =>
    rw [h.serialNumbers] at hmem
    exact ⟨h.serials ▸ hlt, List.not_mem_of_not_mem_cons hmem⟩

end Builder
end StoredSql
