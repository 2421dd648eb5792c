import StoredSql.Proofs.FramedCalls
import StoredSql.Proofs.NameResolution

/-!
# Names in programs that builders give

Where all calls have succeeded, each name that a statement of the program uses is declared before it,
in a block around it (`built_names_resolve`). The scopes of a builder know the names that the
statements of the open blocks declare, and no others: that is what a call that fails can break.
-/

namespace StoredSql

open Check Stepwise

/-! ## Names at a place -/

/-- The names of a kind that are declared in the block at a level, before the place. -/
def Level.declared (kind : DeclaredKind) (l : Level) : List String :=
  match l.holder with
  | .block _ => l.before.flatMap (·.declared kind)
  | _ => []

/-- Whether a name at a place of a program resolves: it is declared before the place in a block
around it, or it is a variable that the program is given. -/
inductive Resolves (head : ProgramHead) (levels : List Level) : DeclaredKind → String → Prop
  | declared {kind : DeclaredKind} {name : String} {l : Level} : l ∈ levels →
      Scope.hasName (l.declared kind) name = true → Resolves head levels kind name
  | parameter {name : String} : Scope.hasName head.parameterNames name = true →
      Resolves head levels .var name
  | session {name : String} : Nesting.isSession name = true → Resolves head levels .var name
  | row {name row : String} : Nesting.rowOf? name = some row → row ∈ head.rows.readable →
      Resolves head levels .var name

namespace Checker

variable {c c' d : Checker} {kind : DeclaredKind} {name : String} {levels : List Level}
  {before : List Statement}

/-- Whether a name is found from a place inside of one of the statements that have come to a scope:
it is declared around the place in that statement, or before that statement, or in a scope outside,
or needs no declaration. -/
def Finds (c : Checker) (before : List Statement) (levels : List Level) (kind : DeclaredKind)
    (name : String) : Prop :=
  (∃ l ∈ levels, Scope.hasName (l.declared kind) name = true) ∨
    Scope.hasName (before.flatMap (·.declared kind)) name = true ∨
    (∃ s ∈ c.nesting.outer, Scope.hasName (s.names kind) name = true) ∨
    (kind = .var ∧ Nesting.IsFree c.nesting.inner.rows name)

theorem Finds.onward (h : c.Finds before levels kind name) (hc : c.Onward c') :
    c'.Finds before levels kind name := by
  rcases h with h | h | h | ⟨hk, hfree⟩
  · exact .inl h
  · exact .inr (.inl h)
  · exact .inr (.inr (.inl (exists_name_of_stateless hc.outer.symm h)))
  · rw [← hc.inner.rows] at hfree
    exact .inr (.inr (.inr ⟨hk, hfree⟩))

/-- A name that is seen after the statements of a scope is found there. -/
theorem finds_of_sees (hnames : c.nesting.inner.names kind = before.flatMap (·.declared kind))
    (h : c.nesting.Sees kind name) : c.Finds before [] kind name := by
  rcases h with ⟨s, hs, hname⟩ | ⟨hk, hfree⟩
  · rcases List.mem_cons.1 hs with rfl | hs
    · exact .inr (.inl (hnames ▸ hname))
    · exact .inr (.inr (.inl ⟨s, hs, hname⟩))
  · exact .inr (.inr (.inr ⟨hk, hfree⟩))

end Checker

/-! ## Checks -/

variable {c c' : Checker} {ss : List Statement} {s : Statement}

/-- Whether the names that are used at a place are declared: the scope knows the names that its
statements declare, which is none if it is no block, and each name that is used inside of a statement
is found from there. -/
structure NamesDeclared (c : Checker) (ss : List Statement) : Prop where
  names : ∀ kind, c.nesting.inner.names kind = ss.flatMap (·.declared kind)
  bare : c.nesting.inner.kind ≠ .block → ∀ kind, ss.flatMap (·.declared kind) = []
  finds : ∀ before s after, ss = before ++ s :: after → ∀ levels t, Stands s levels t →
    ∀ kind, ∀ name ∈ t.used kind, c.Finds before levels kind name

namespace NamesDeclared

theorem moves (h : c.Moves c') (hss : NamesDeclared c ss) : NamesDeclared c' ss where
  names kind := (h.names kind).trans (hss.names kind)
  bare hk := hss.bare (h.onward.inner.kind ▸ hk)
  finds before s after heq levels t ht kind name hname :=
    (hss.finds before s after heq levels t ht kind name hname).onward h.onward

/-- One more statement. -/
theorem append (h : NamesDeclared c ss) (hc : c.Onward c')
    (hnames : ∀ kind, c'.nesting.inner.names kind = c.nesting.inner.names kind ++ s.declared kind)
    (hbare : c.nesting.inner.kind ≠ .block → ∀ kind, s.declared kind = [])
    (hfinds : ∀ levels t, Stands s levels t → ∀ kind, ∀ name ∈ t.used kind,
      c.Finds ss levels kind name) : NamesDeclared c' (ss ++ [s]) where
  names kind := by
    rw [hnames, h.names, List.flatMap_append, List.flatMap_singleton]
  bare hk kind := by
    rw [hc.inner.kind] at hk
    rw [List.flatMap_append, List.flatMap_singleton, h.bare hk, hbare hk, List.append_nil]
  finds := by
    intro before t after heq levels u hu kind name hname
    refine Checker.Finds.onward ?_ hc
    rcases split_of_concat heq with ⟨rfl, rfl⟩ | ⟨after, rfl⟩
    · exact hfinds levels u hu kind name hname
    · exact h.finds before t after rfl levels u hu kind name hname

end NamesDeclared

theorem namesDeclared_fresh {kind : ScopeKind} {label : Option String} {scope : Scope}
    (h : c.nesting.child kind label = .ok scope) : NamesDeclared (c.entered scope) [] := by
  have hnames : ∀ k, scope.names k = [] := by
    obtain ⟨_, rfl⟩ := Nesting.child_eq_ok.1 h
    intro k
    cases k <;> rfl
  exact ⟨hnames, fun _ _ => rfl, fun before s after heq => by cases before <;> cases heq⟩

theorem namesDeclared_leaf (hs : s.scopeKind? = none) (h : s.check c = (.ok s, c'))
    (hss : NamesDeclared c ss) : NamesDeclared c' (ss ++ [s]) := by
  have hdeclares := Statement.check_declares hs h
  have hfinds := Statement.check_finds hs h
  refine hss.append ((Statement.check_onward s).apply h) hdeclares.names (fun hk kind => ?_) ?_
  · exact Statement.declared_of_bare (fun phase hp => Decidable.not_not.1 fun hne =>
      hk (hdeclares.block phase hp hne)) kind
  · intro levels t ht kind name hname
    obtain ⟨rfl, rfl⟩ := ht.of_leaf hs
    exact Checker.finds_of_sees (hss.names kind) (hfinds.sees kind name hname)

/-- What is declared in what a statement holds is declared at the level of the statement. -/
theorem declared_at_level {k : ScopeKind} {d : Checker} {body before after : List Statement}
    (hs : s.scopeKind? = some k) (hd : d.nesting.inner.kind = k) (hbody : NamesDeclared d body)
    (hsplit : body = before ++ after) (kind : DeclaredKind) :
    (Level.mk s before).declared kind = before.flatMap (·.declared kind) := by
  by_cases hk : k = .block
  · subst hk
    cases s with
    | block b => rfl
    | _ => cases hs
  · have hnone := hbody.bare (hd ▸ hk) kind
    rw [hsplit, List.flatMap_append] at hnone
    rw [(List.append_eq_nil_iff.1 hnone).1]
    cases s with
    | block b => exact absurd (Option.some.inj hs).symm hk
    | _ => rfl

theorem namesDeclared_holder {k : ScopeKind} (h : c.Takes NamesDeclared s k)
    (hss : NamesDeclared c ss) : NamesDeclared c (ss ++ [s]) := by
  have hdeclared := Statement.declared_of_holder h.kind
  refine hss.append (Std.Refl.refl c) (fun kind => ?_) (fun _ => hdeclared) ?_
  · rw [hdeclared, List.append_nil]
  · intro levels t ht kind name hname
    cases ht with
    | here => exact Checker.finds_of_sees (hss.names kind) (h.findsUsed.sees kind name hname)
    | @inside _ u _ before after levels hmem hu =>
      obtain ⟨d, hd, hbody⟩ := h.held _ hmem
      rcases hbody.finds before u after rfl levels t hu kind name hname with
        ⟨l, hl, hname⟩ | hname | houter | ⟨hk, hfree⟩
      · exact .inl ⟨l, List.mem_append_left _ hl, hname⟩
      · exact .inl ⟨⟨s, before⟩, List.mem_append_right _ (List.mem_singleton_self _),
          (declared_at_level h.kind hd.kind hbody rfl kind).symm ▸ hname⟩
      · obtain ⟨scope, hscope, hname⟩ := exists_name_of_stateless hd.around houter
        rcases List.mem_cons.1 hscope with rfl | hscope
        · exact .inr (.inl (hss.names kind ▸ hname))
        · exact .inr (.inr (.inl ⟨scope, hscope, hname⟩))
      · rw [hd.rows] at hfree
        exact .inr (.inr (.inr ⟨hk, hfree⟩))

theorem namesDeclared_upheld : Upheld NamesDeclared where
  moves := NamesDeclared.moves
  fresh := namesDeclared_fresh
  leaf := namesDeclared_leaf
  holder := namesDeclared_holder

/-! ## Programs -/

/-- In the block of a program, what is found outside has been given to the program. -/
theorem resolves_of_finds {head : ProgramHead} {stem : String} {d : Checker}
    {label : Option String} {block : Block} {before : List Statement} {levels : List Level}
    {kind : DeclaredKind} {name : String} (hd : (head.checker stem).Inside .block label d)
    (h : d.Finds before levels kind name) :
    Resolves head (levels ++ [⟨.block block, before⟩]) kind name := by
  rcases h with ⟨l, hl, hname⟩ | hname | houter | ⟨rfl, hfree⟩
  · exact .declared (List.mem_append_left _ hl) hname
  · exact .declared (List.mem_append_right _ (List.mem_singleton_self _)) hname
  · obtain ⟨scope, hscope, hname⟩ := exists_name_of_stateless hd.around houter
    obtain rfl := List.mem_singleton.1 hscope
    cases kind with
    | var => exact .parameter hname
    | condition => cases hname
    | cursor => cases hname
  · rw [hd.rows] at hfree
    rcases hfree with hsession | ⟨row, hrow, hreadable⟩
    · exact .session hsession
    · exact .row hrow hreadable

/-- **Names in programs resolve.** Where all calls have succeeded, each name that a statement of the
program uses is declared before it, in a block around it, or is given to the program. -/
theorem built_names_resolve {head : ProgramHead} {label : Operand} {stem : String}
    {b b' b'' : Builder} {p : Program} (calls : List Call)
    (hb : Builder.start head label stem = .ok b) (hcalls : b.runAll calls = (.ok (), b'))
    (hbuild : b'.build = (.ok p, b'')) {levels : List Level} {s : Statement}
    (hs : Stands (.block p.body) levels s) (kind : DeclaredKind) :
    ∀ name ∈ s.used kind, Resolves head levels kind name := by
  have hkept := Builder.runAll_kept namesDeclared_upheld calls
    (Builder.kept_start namesDeclared_upheld hb) hcalls
  obtain ⟨d, hd, hbody⟩ := Builder.kept_build hkept hbuild
  intro name hname
  cases hs with
  | here => cases kind <;> cases hname
  | @inside _ t _ before after levels hmem ht =>
    have hmem' : before ++ t :: after = p.body.statements := List.mem_singleton.1 hmem
    exact resolves_of_finds hd (hbody.finds before t after hmem'.symm levels s ht kind name hname)

/-- Calls for a variable that is assigned to under another spelling of its name. -/
def respelled : List Call := [
  .declare ["a"] { type := .int } (.value .null),
  .set "A" (.value (.int 1)) []]

/-- The variable that is assigned to resolves. -/
theorem respelled_resolves : ∃ b b' b'' p levels s,
    Builder.start .block (.value .null) Builder.usualStem = .ok b ∧
      b.runAll respelled = (.ok (), b') ∧ b'.build = (.ok p, b'') ∧
      Stands (.block p.body) levels s ∧ "A" ∈ s.used .var ∧ Resolves .block levels .var "A" := by
  have hok : (emptyBuilder.runAll respelled).1.isOk = true := by decide +kernel
  have hshape : (emptyBuilder.runAll respelled).2.build.1.toOption.any
      (·.body.statements.any (·.targets.contains "A")) = true := by decide +kernel
  rcases hcalls : emptyBuilder.runAll respelled with ⟨e | u, b'⟩
  · rw [hcalls] at hok
    cases hok
  rw [hcalls] at hshape
  rcases hbuild : b'.build with ⟨e | p, b''⟩
  · rw [hbuild] at hshape
    cases hshape
  rw [hbuild] at hshape
  have hassigns : p.body.statements.any (·.targets.contains "A") = true := hshape
  obtain ⟨s, hs, htarget⟩ := List.any_eq_true.1 hassigns
  obtain ⟨before, after, hstatements⟩ := List.append_of_mem hs
  have hstart : Builder.start .block (.value .null) Builder.usualStem = .ok emptyBuilder := rfl
  have hheld : before ++ s :: after ∈ (Statement.block p.body).held :=
    List.mem_singleton.2 hstatements.symm
  have hstands : Stands (.block p.body) [⟨.block p.body, before⟩] s := .inside hheld .here
  have hused : "A" ∈ s.used .var := List.mem_append_right _ (List.contains_iff_mem.1 htarget)
  exact ⟨emptyBuilder, b', b'', p, _, s, hstart, hcalls, hbuild, hstands, hused,
    built_names_resolve respelled hstart hcalls hbuild hstands .var "A" hused⟩

end StoredSql
