import StoredSql.Proofs.BuiltEvents
import StoredSql.Proofs.Contracts

/-!
# What statements keep on their way into programs

A builder keeps statements in the branches of its open constructs. Each call puts the ones that it
hands over into the innermost construct, or makes one statement of some that are there. What checks
keep, and what statements have that are made of ones that have it (`Carried`), therefore holds of
programs if it holds of what the calls hand over, whatever calls have failed
(`Builder.run_carried`).
-/

namespace StoredSql

open Check Stepwise

variable {K : Statement → Prop}

/-- Whether each list of statements that a statement holds has one to execute. Only blocks may do
without, and a handler looks closer at what it executes. -/
structure Statement.HasBodies (s : Statement) : Prop where
  filled (hblock : ∀ b, s ≠ .block b) : ∀ body ∈ s.held, body.all isEmpty = false
  handles {action : HandlerAction} {conditions : List ConditionValue} {body : Statement}
    (h : s = .declareHandler action conditions body) : checkHandlerBody body = .ok ()

theorem Statement.HasBodies.of_filled {s : Statement} (hhandler : s.scopeKind? ≠ some .handler)
    (h : (∀ b, s ≠ .block b) → ∀ body ∈ s.held, body.all isEmpty = false) : s.HasBodies where
  filled := h
  handles hs := absurd (congrArg scopeKind? hs) hhandler

/-- Whether a property of statements is kept by checks, and holds of what is made of statements that
have it. -/
structure Carried (K : Statement → Prop) : Prop where
  check {c c' : Checker} {s s' : Statement} (hs : K s) (h : s.check c = (.ok s', c')) : K s'
  holder {s : Statement} {kind : ScopeKind} (hkind : s.scopeKind? = some kind)
    (hbodies : s.HasBodies) (hheld : ∀ body ∈ s.held, ∀ t ∈ body, K t) : K s

/-! ## What calls hand over -/

/-- A declaration of a cursor has a query that does not store its row. -/
def Statement.IsPlain (t : Statement) : Prop :=
  ∀ name query, t = .declareCursor name query → query.into = []

/-- The statements that a call is given as they are. -/
def Call.prebuilt : Call → List Statement
  | .declareHandler _ _ body => [body]
  | .statements ss => ss
  | _ => []

section

open Outcome

/-- Whether what is made, if it can be, holds no statements and is no cursor that stores its row. -/
abbrev MakesPlain (r : Except Error Statement) : Prop :=
  Yields (fun s => s.scopeKind? = none ∧ s.IsPlain) (fun _ => True) r

variable {r : Except Error Statement}

theorem makesPlain_bind {α : Type} {x : Except Error α} {f : α → Except Error Statement}
    (hf : ∀ a, MakesPlain (f a)) : MakesPlain (x >>= f) :=
  (yields_true x).bind fun a _ => hf a

theorem makesPlain_map {α : Type} {x : Except Error α} {f : α → Statement}
    (hf : ∀ a, (f a).scopeKind? = none ∧ (f a).IsPlain) : MakesPlain (x.map f) :=
  (yields_true x).map fun a _ => hf a

namespace Statement

/-- The query of a cursor does not store its row. -/
theorem makeDeclareCursor_plain (name : String) (query : SelectQuery) :
    MakesPlain (makeDeclareCursor name (.query query)) := by
  unfold makeDeclareCursor
  dsimp only
  split
  · rename_i hinto
    refine ⟨rfl, fun name' query' hquery => ?_⟩
    obtain ⟨_, rfl⟩ := declareCursor.inj hquery
    exact List.isEmpty_iff.1 hinto
  · trivial

theorem makeDeclare_plain (names : List String) (type : Column) (initial : Operand) :
    MakesPlain (makeDeclare names type initial) := by
  refine Yields.guarded trivial (Yields.guarded trivial ?_)
  split
  · trivial
  · exact makesPlain_bind fun _ => ⟨rfl, fun _ _ h => by cases h⟩

theorem makeDeclareCondition_plain (name : String) (value : ConditionValue) :
    MakesPlain (makeDeclareCondition name value) := by
  unfold makeDeclareCondition
  split
  · exact ⟨rfl, nofun⟩
  · trivial

theorem makeFetch_plain (name : String) (targets : List String) :
    MakesPlain (makeFetch name targets) := by
  unfold makeFetch
  split
  · trivial
  · exact ⟨rfl, nofun⟩

theorem makeSet_plain (pairs : List (String × Operand)) : MakesPlain (makeSet pairs) :=
  makesPlain_bind fun _ => Yields.guarded trivial ⟨rfl, nofun⟩

theorem makeCall_plain (name : String) (args : List Operand) : MakesPlain (makeCall name args) :=
  makesPlain_bind fun _ => ⟨rfl, nofun⟩

theorem makeSignal_plain (condition : ConditionValue) (message number : Operand) :
    MakesPlain (makeSignal condition message number) :=
  Yields.guarded trivial
    (makesPlain_bind fun _ => makesPlain_bind fun _ => ⟨rfl, nofun⟩)

end Statement

/-- What a call hands over: a plain statement that holds no others, or what it is given as it is, or
a handler that is made of that. -/
theorem Call.given_cases (hleaf : ∀ s : Statement, s.scopeKind? = none ∧ s.IsPlain → K s) :
    ∀ call : Call, (∀ s ∈ call.prebuilt, K s) →
      (∀ action conditions body s, K body →
        Statement.makeDeclareHandler action conditions body = .ok s → K s) →
      ∀ s ∈ call.given, K s := by
  have hmade : ∀ {r : Except Error Statement}, MakesPlain r → ∀ s ∈ r.toOption.toList, K s := by
    intro r hr s hs
    exact hleaf s (hr.of_ok (eq_ok_of_toOption (Option.mem_toList.1 hs)))
  have hone : ∀ {s : Statement}, s.scopeKind? = none ∧ s.IsPlain → ∀ t ∈ [s], K t :=
    fun hs => List.forall_mem_singleton.2 (hleaf _ hs)
  intro call hprebuilt hhandler
  cases call with
  | declare names type initial => exact hmade (Statement.makeDeclare_plain names type initial)
  | declareCondition name value => exact hmade (Statement.makeDeclareCondition_plain name value)
  | declareCursor name query =>
    exact hmade (makesPlain_bind fun query => Statement.makeDeclareCursor_plain name query)
  | declareHandler action conditions body =>
    intro s hs
    exact hhandler action conditions body s (hprebuilt body (List.mem_singleton_self _))
      (eq_ok_of_toOption (Option.mem_toList.1 hs))
  | fetch name targets => exact hmade (Statement.makeFetch_plain name targets)
  | select query => exact hmade (makesPlain_map fun _ => ⟨rfl, nofun⟩)
  | insert query => exact hmade (makesPlain_map fun _ => ⟨rfl, nofun⟩)
  | set target value more => exact hmade (Statement.makeSet_plain _)
  | call name args => exact hmade (Statement.makeCall_plain name args)
  | signal condition message number =>
    exact hmade (Statement.makeSignal_plain condition message number)
  | signalState state message number =>
    exact hmade (makesPlain_bind fun condition =>
      Statement.makeSignal_plain condition message number)
  | iterate label | leave label | openCursor name | closeCursor name | raw sql | empty =>
    exact hone ⟨rfl, nofun⟩
  | statements ss => exact hprebuilt
  | _ => exact List.forall_mem_nil _

end

/-! ## Open constructs -/

namespace Construct

open Statement

variable {k : Construct} {ss : List Statement} {s : Statement} {states : List CursorState}

/-- The statements of the branches and arms of a construct that are closed. -/
def armBodies : Construct → List (List Statement)
  | ifElse part => part.branches.map (·.statements)
  | cases part => part.whens.map (·.statements)
  | _ => []

/-- What a construct does if none of its branches and arms is taken, once that is closed. -/
def elseBody : Construct → Option (List Statement)
  | ifElse part => part.arms.otherwise
  | cases part => part.arms.otherwise
  | _ => none

/-- All statements in a construct that are closed. -/
def closedBodies (k : Construct) : List (List Statement) := k.armBodies ++ k.elseBody.toList

/-- Whether what is closed in a construct can become a part of a statement that has the property. -/
structure Carries (K : Statement → Prop) (k : Construct) : Prop where
  arms : ∀ body ∈ k.armBodies, body.all isEmpty = false
  closed : ∀ body ∈ k.closedBodies, ∀ s ∈ body, K s

/-- Whether a check that succeeds opens a construct none of whose branches is closed. -/
def OpensBare (construct : Check Construct) : Prop :=
  ∀ ⦃c c' : Checker⦄ ⦃k : Construct⦄, construct c = (.ok k, c') → k.closedBodies = []

theorem OpensBare.pure (hk : k.closedBodies = []) : OpensBare (pure k) := by
  intro c c' k' h
  cases h
  exact hk

theorem OpensBare.bind {α : Type} {x : Check α} {f : α → Check Construct}
    (hf : ∀ a, OpensBare (f a)) : OpensBare (x >>= f) := by
  intro c c' k h
  obtain ⟨a, d, _, h⟩ := bind_ok.1 h
  exact hf a h

theorem block_opensBare (label : Operand) : OpensBare (ofBlock label) :=
  .bind fun _ => .bind fun _ => .bind fun _ => .bind fun _ => .bind fun _ => .pure rfl

theorem handler_opensBare (action : HandlerAction) (conditions : List ConditionValue) :
    OpensBare (ofHandler action conditions) :=
  .bind fun _ => .bind fun _ => .bind fun _ => .bind fun _ => .bind fun _ => .bind fun _ =>
    .bind fun _ => .bind fun _ => .pure rfl

theorem if_opensBare (test : Operand) : OpensBare (ofIf test) :=
  .bind fun _ => .bind fun _ => .bind fun _ => .bind fun _ => .pure rfl

theorem case_opensBare (operand : Operand) : OpensBare (ofCase operand) :=
  .bind fun _ => .bind fun _ => .bind fun _ => .pure rfl

theorem loop_opensBare {construct : String → Construct}
    (hk : ∀ label, (construct label).closedBodies = []) (label : Operand) :
    OpensBare (ofLoop label construct) :=
  .bind fun _ => .bind fun _ => .bind fun _ => .bind fun _ => .bind fun _ => .pure (hk _)

theorem while_opensBare (test label : Operand) : OpensBare
    (resolveAll test.variableNames >>= fun _ => ofLoop label (.whileLoop · test)) :=
  .bind fun _ => loop_opensBare (fun _ => rfl) label

theorem carries_of_bare (hk : k.closedBodies = []) : k.Carries K where
  arms := by
    rw [(List.append_eq_nil_iff.1 hk).1]
    exact List.forall_mem_nil _
  closed := by
    rw [hk]
    exact List.forall_mem_nil _

namespace Carries

variable {k' : Construct}

/-- One more branch has been closed. -/
theorem arm (hk : k.Carries K) (hss : ∀ s ∈ ss, K s) (hne : ss.all isEmpty = false)
    (harms : k'.armBodies = k.armBodies ++ [ss]) (helse : k'.elseBody = k.elseBody) :
    k'.Carries K where
  arms := by
    rw [harms]
    exact List.forall_mem_append.2 ⟨hk.arms, List.forall_mem_singleton.2 hne⟩
  closed := by
    obtain ⟨hbodies, hother⟩ := List.forall_mem_append.1 hk.closed
    rw [closedBodies, harms, helse]
    exact List.forall_mem_append.2
      ⟨List.forall_mem_append.2 ⟨hbodies, List.forall_mem_singleton.2 hss⟩, hother⟩

/-- What is done if no branch is taken has been closed. -/
theorem otherwise (hk : k.Carries K) (hss : ∀ s ∈ ss, K s) (harms : k'.armBodies = k.armBodies)
    (helse : k'.elseBody = some ss) : k'.Carries K where
  arms := harms ▸ hk.arms
  closed := by
    rw [closedBodies, harms, helse]
    exact List.forall_mem_append.2
      ⟨(List.forall_mem_append.1 hk.closed).1, List.forall_mem_singleton.2 hss⟩

/-- The open branch of a conditional is closed. -/
theorem closeIf {part part' : OpenIf} (hk : (ifElse part).Carries K) (hss : ∀ s ∈ ss, K s)
    (h : part.close ss states = .ok part') : (ifElse part').Carries K := by
  cases helse : part.arms.inElse with
  | true =>
    rw [OpenIf.close_else helse] at h
    cases h
    exact hk.otherwise hss rfl rfl
  | false =>
    obtain ⟨test, _, hne, rfl⟩ := (OpenIf.close_eq_ok helse).1 h
    exact hk.arm hss hne List.map_append rfl

/-- The open arm of a case is closed, if there is one. -/
theorem closeCase {part part' : OpenCase} (hk : (cases part).Carries K) (hss : ∀ s ∈ ss, K s)
    (h : part.close ss states = .ok part') : (cases part').Carries K := by
  cases helse : part.arms.inElse with
  | true =>
    rw [OpenCase.close_else helse] at h
    cases h
    exact hk.otherwise hss rfl rfl
  | false =>
    cases htest : part.test with
    | none =>
      rw [OpenCase.close_none helse htest] at h
      cases h
      exact hk
    | some test =>
      obtain ⟨value, _, hne, rfl⟩ := (OpenCase.close_eq_ok helse htest).1 h
      exact hk.arm hss hne List.map_append rfl

end Carries

/-- What holds one list of statements is made of these. -/
theorem carried_single (hK : Carried K) {kind : ScopeKind} (hkind : s.scopeKind? = some kind)
    (hheld : s.held = [ss]) (hss : ∀ s ∈ ss, K s)
    (hhandler : kind ≠ .handler) (hne : (∀ b, s ≠ .block b) → ss.all isEmpty = false) : K s := by
  refine hK.holder hkind (.of_filled (by simpa [hkind] using hhandler) fun hblock => ?_) ?_ <;>
    rw [hheld]
  · exact List.forall_mem_singleton.2 (hne hblock)
  · exact List.forall_mem_singleton.2 hss

/-- The statement that a construct becomes is made of what has come to the construct. -/
theorem finish_carried (hK : Carried K) {seen : ScopeView} {c c' : Checker} (hk : k.Carries K)
    (hss : ∀ s ∈ ss, K s) (h : k.finish seen ss c = (.ok s, c')) : K s := by
  have hblock : ∀ b : Block, b.statements = ss → K (.block b) := by
    rintro b rfl
    exact carried_single hK rfl rfl hss (by decide) fun hb => absurd rfl (hb b)
  cases k with
  | block label view =>
    cases h
    exact hblock _ rfl
  | handler action conditions before =>
    cases h
    refine hK.holder rfl ⟨fun _ => List.forall_mem_singleton.2 rfl, fun h => ?_⟩
      (List.forall_mem_singleton.2 (List.forall_mem_singleton.2 (hblock _ rfl)))
    cases h
    rfl
  | ifElse part =>
    simp only [Construct.finish, states_bind, bind_ok, made_eq, mergeStates_bind] at h
    obtain ⟨part', _, ⟨hclose, rfl⟩, h, rfl⟩ := h
    obtain ⟨_, helse, rfl⟩ := Statement.makeIf_eq_ok.1 h
    have hk' := hk.closeIf hss hclose
    refine hK.holder rfl (.of_filled (by rintro ⟨⟩) fun _ => List.forall_mem_append.2
      ⟨hk'.arms, fun body hbody => ?_⟩) hk'.closed
    exact helse body (Option.mem_toList.1 hbody)
  | cases part =>
    simp only [Construct.finish, states_bind, bind_ok, made_eq, mergeStates_bind] at h
    obtain ⟨part', _, ⟨hclose, rfl⟩, h, rfl⟩ := h
    obtain ⟨_, _, _, _, helse, rfl⟩ := Statement.makeCase_eq_ok.1 h
    have hk' := hk.closeCase hss hclose
    refine hK.holder rfl (.of_filled (by rintro ⟨⟩) fun _ => List.forall_mem_append.2
      ⟨hk'.arms, fun body hbody => ?_⟩) hk'.closed
    exact helse body (Option.mem_toList.1 hbody)
  | loop label =>
    obtain ⟨hne, rfl⟩ := Statement.makeLoop_eq_ok.1 (made_eq.1 h).1
    exact carried_single hK rfl rfl hss (by decide) fun _ => hne
  | whileLoop label test =>
    obtain ⟨_, _, hne, rfl⟩ := Statement.makeWhile_eq_ok.1 (made_eq.1 h).1
    exact carried_single hK rfl rfl hss (by decide) fun _ => hne
  | repeatLoop label => cases h

end Construct

/-! ## Calls -/

/-- Whether all that has come to an open construct can become a part of a statement that has the
property. -/
structure Frame.Carries (K : Statement → Prop) (f : Frame) : Prop where
  construct : f.construct.Carries K
  statements : ∀ s ∈ f.statements, K s

/-- One more statement has come to an open construct. -/
theorem Frame.Carries.next {f : Frame} (hf : f.Carries K) {s : Statement} (hs : K s) :
    Frame.Carries K { f with statements := f.statements ++ [s] } :=
  ⟨hf.construct, List.forall_mem_append.2 ⟨hf.statements, List.forall_mem_singleton.2 hs⟩⟩

namespace Builder

variable {b b' : Builder} {α : Type}

/-- Whether all that has come to a builder can become a part of a program that has the property. -/
def Carries (K : Statement → Prop) (b : Builder) : Prop := ∀ f ∈ b.frames, f.Carries K

/-- Whether an action leaves only that in a builder, whether it succeeds or fails. -/
abbrev CarriesOn (K : Statement → Prop) (b : Builder) (act : Action α) : Prop :=
  Ends (Carries K) (Carries K) b act

theorem Carries.outer {f : Frame} {fs : List Frame} (hb : b.Carries K)
    (houter : b.outer = f :: fs) : ∀ g ∈ f :: fs, g.Carries K :=
  fun g hg => hb g (List.mem_cons_of_mem _ (houter ▸ hg))

theorem Carries.inner (hb : b.Carries K) : b.inner.Carries K := hb b.inner (.head _)

/-- One more statement has come to the innermost of some constructs. -/
theorem carries_next {f : Frame} {fs : List Frame} {s : Statement} (h : ∀ g ∈ f :: fs, g.Carries K)
    (hs : K s) : ∀ g ∈ { f with statements := f.statements ++ [s] } :: fs, g.Carries K := by
  obtain ⟨hf, hfs⟩ := List.forall_mem_cons.1 h
  exact List.forall_mem_cons.2 ⟨hf.next hs, hfs⟩

theorem opens_carried {construct : Check Construct} (h : Construct.OpensBare construct)
    (hb : b.Carries K) : CarriesOn K b (opens construct) := by
  refine ends_opens hb (fun _ _ _ _ => hb) fun k c _ hk => List.forall_mem_cons.2 ⟨?_, hb⟩
  exact ⟨Construct.carries_of_bare (h hk), List.forall_mem_nil _⟩

theorem openHandler_carried (action : Outline) (conditions : List ConditionValue)
    (hb : b.Carries K) : CarriesOn K b (openHandler action conditions) :=
  ends_openHandler hb fun a _ => opens_carried (Construct.handler_opensBare a conditions) hb

/-- The innermost construct has gone on to its next branch. -/
theorem carries_branching {c : Checker} {k : Construct} (hb : b.Carries K) (hk : k.Carries K) :
    (b.branching c k []).Carries K :=
  List.forall_mem_cons.2 ⟨⟨hk, List.forall_mem_nil _⟩, (List.forall_mem_cons.1 hb).2⟩

theorem elseIf_carried (test : Operand) (hb : b.Carries K) : CarriesOn K b (elseIf test) := by
  refine ends_elseIf hb fun part part' c hk _ hclose _ => ?_
  have hpart := (hk ▸ hb.inner.construct).closeIf hb.inner.statements hclose
  exact ⟨carries_branching hb hpart, fun _ => carries_branching hb ⟨hpart.arms, hpart.closed⟩⟩

theorem otherwise_carried (hb : b.Carries K) : CarriesOn K b otherwise := by
  refine ends_otherwise hb (fun part part' hk _ hclose => ?_) fun part part' hk _ _ hclose => ?_
  · have hpart := (hk ▸ hb.inner.construct).closeIf hb.inner.statements hclose
    exact carries_branching hb ⟨hpart.arms, hpart.closed⟩
  · have hpart := (hk ▸ hb.inner.construct).closeCase hb.inner.statements hclose
    exact carries_branching hb ⟨hpart.arms, hpart.closed⟩

theorem openWhen_carried (test : Operand) (hb : b.Carries K) : CarriesOn K b (openWhen test) := by
  refine ends_openWhen hb fun part part' c hk _ hclose _ => ?_
  have hpart := (hk ▸ hb.inner.construct).closeCase hb.inner.statements hclose
  exact ⟨carries_branching hb ⟨hpart.arms, hpart.closed⟩,
    fun _ => carries_branching hb ⟨hpart.arms, hpart.closed⟩⟩

section
variable (hK : Carried K)
include hK

theorem add_carried {s : Statement} (hs : K s) (hb : b.Carries K) : CarriesOn K b (add s) :=
  ends_add hb hb (fun _ _ _ _ => hb) fun _ _ _ hcheck => carries_next hb (hK.check hs hcheck)

theorem addMade_carried {r : Except Error Statement} (hr : ∀ s ∈ r.toOption.toList, K s)
    (hb : b.Carries K) : CarriesOn K b (addMade r) := by
  refine ends_made hb fun s hs => ?_
  subst hs
  exact add_carried hK (hr s (List.mem_singleton_self _)) hb

theorem statements_carried (ss : List Statement) (hss : ∀ s ∈ ss, K s) (hb : b.Carries K) :
    CarriesOn K b (ss.forM add) := by
  induction ss generalizing b with
  | nil => exact ends_ok rfl hb
  | cons s ss ih =>
    obtain ⟨hs, hss⟩ := List.forall_mem_cons.1 hss
    have hadd := add_carried hK hs hb
    exact hadd.bind fun _ b' h => ih hss (hadd.ok h)

theorem closes_carried (kind : ConstructKind) (hb : b.Carries K) : CarriesOn K b (closes kind) :=
  ends_closes hb (fun _ _ _ _ houter _ _ => hb.outer houter) fun _ _ _ _ houter _ hs =>
    carries_next (hb.outer houter)
      (Construct.finish_carried hK hb.inner.construct hb.inner.statements hs)

theorem endRepeat_carried (test : Operand) (hb : b.Carries K) : CarriesOn K b (endRepeat test) := by
  refine ends_endRepeat hb (fun _ _ _ _ houter _ _ => hb.outer houter)
    fun _ _ _ _ houter _ _ hs => carries_next (hb.outer houter) ?_
  obtain ⟨_, _, hne, rfl⟩ := Statement.makeRepeat_eq_ok.1 hs
  exact Construct.carried_single hK rfl rfl hb.inner.statements (by decide) fun _ => hne

theorem exitBracket_carried (failed : Bool) (hb : b.Carries K) :
    CarriesOn K b (exitBracket failed) := by
  have hb' : ∀ withs, ({ b with withs } : Builder).Carries K := fun _ => hb
  exact ends_exitBracket (fun _ => hb) (fun _ withs _ => hb' withs)
    (fun _ withs _ _ => hb' withs) fun _ withs _ _ =>
      ends_closeInnermost (hb' withs) fun kind => closes_carried hK kind (hb' withs)

/-- **A call brings no statements but those that it hands over, and such as are made of others.** -/
theorem perform_carried (hb : b.Carries K) : ∀ call : Call,
    (∀ s ∈ call.given, K s) → CarriesOn K b (act call)
  | .openHandler action conditions, _ => openHandler_carried action conditions hb
  | .endHandler, _ => closes_carried hK .handler hb
  | .openBlock label, _ => opens_carried (Construct.block_opensBare label) hb
  | .endBlock, _ => closes_carried hK .block hb
  | .close, _ => ends_close hb fun kind => closes_carried hK kind hb
  | .openIf test, _ => opens_carried (Construct.if_opensBare test) hb
  | .elseIf test, _ => elseIf_carried test hb
  | .otherwise, _ => otherwise_carried hb
  | .endIf, _ => closes_carried hK .ifElse hb
  | .openCase operand, _ => opens_carried (Construct.case_opensBare operand) hb
  | .openWhen test, _ => openWhen_carried test hb
  | .endCase, _ => closes_carried hK .cases hb
  | .openLoop label, _ => opens_carried (Construct.loop_opensBare (fun _ => rfl) label) hb
  | .endLoop, _ => closes_carried hK .loop hb
  | .openWhile test label, _ => opens_carried (Construct.while_opensBare test label) hb
  | .endWhile, _ => closes_carried hK .whileLoop hb
  | .openRepeat label, _ => opens_carried (Construct.loop_opensBare (fun _ => rfl) label) hb
  | .endRepeat test, _ => endRepeat_carried hK test hb
  | .statements ss, h => statements_carried hK ss h hb
  | .enterBracket, _ => ends_ok rfl hb
  | .exitBracket failed, _ => exitBracket_carried hK failed hb
  | .declare _ _ _, h | .declareCondition _ _, h | .declareCursor _ _, h
  | .declareHandler _ _ _, h | .fetch _ _, h | .select _, h | .insert _, h | .set _ _ _, h
  | .call _ _, h | .signal _ _ _, h | .signalState _ _ _, h => addMade_carried hK h hb
  | .iterate _, h | .leave _, h | .openCursor _, h | .closeCursor _, h | .raw _, h
  | .empty, h => add_carried hK (h _ (List.mem_singleton_self _)) hb

/-! ## Runs -/

theorem run_carries {calls : List Call} (hb : b.Carries K)
    (hcalls : ∀ call ∈ calls, ∀ s ∈ call.given, K s) : (b.run calls).Carries K := by
  induction calls generalizing b with
  | nil => exact hb
  | cons call calls ih =>
    obtain ⟨hcall, hcalls⟩ := List.forall_mem_cons.1 hcalls
    exact ih (perform_carried hK hb call hcall).after hcalls

/-- **Programs are made of what calls have handed over**, whatever calls have failed. -/
theorem run_carried {head : ProgramHead} {label : Operand} {stem : String} {p : Program}
    {calls : List Call} (hb : Builder.start head label stem = .ok b)
    (hcalls : ∀ call ∈ calls, ∀ s ∈ call.given, K s)
    (hbuild : (b.run calls).build = (.ok p, b')) : K (.block p.body) := by
  have hstart : b.Carries K := by
    obtain ⟨_, _, _, _, _, _, rfl⟩ := Builder.start_eq_ok.1 hb
    exact List.forall_mem_singleton.2 ⟨Construct.carries_of_bare rfl, List.forall_mem_nil _⟩
  have hrun := run_carries hK hstart hcalls
  obtain ⟨label, view, _, _, rfl⟩ := build_eq_ok hbuild
  rw [ProgramHead.body_program]
  exact Construct.carried_single hK rfl rfl hrun.inner.statements (by decide)
    fun hb => absurd rfl (hb _)

end

end Builder
end StoredSql
