import StoredSql.Proofs.Declarations
import StoredSql.Proofs.FramedCalls

/-!
# Declarations in programs that builders give

In each block of a program that a builder gives (`built_in_order`), whatever calls have failed on the
way, declarations come first, in the order of their phases, and declare different names. Nothing but
blocks declares.
-/

namespace StoredSql

open Check Stepwise

/-! ## Order -/

/-- Whether no name among texts is one of those before it. -/
def AreDifferent (names : List String) : Prop :=
  names.Pairwise fun earlier name => Text.sameName name earlier = false

/-- Whether the statements of a block come in the order of their phases, and declare different names
of each kind. -/
structure InOrder (ss : List Statement) : Prop where
  phases : (ss.filterMap (·.phase?)).Pairwise fun p q => p.rank ≤ q.rank
  names : ∀ kind, AreDifferent (ss.flatMap (·.declared kind))

/-- Whether a block has its statements in order, and what is no block holds no declarations. -/
structure Statement.DeclaresInOrder (s : Statement) : Prop where
  block : ∀ b, s = .block b → InOrder b.statements
  bare : s.scopeKind? ≠ some .block → ∀ body ∈ s.held, ∀ t ∈ body, ∀ phase, t.phase? = some phase →
    phase = .body

/-- Whether names are different, and known. -/
structure Declared (known names : List String) : Prop where
  different : AreDifferent names
  known : ∀ name ∈ names, name ∈ known

namespace Declared

variable {known known' names new : List String} {name : String}

theorem onward (h : Declared known names) (hknown : known <+: known') : Declared known' names :=
  ⟨h.different, fun name hname => hknown.subset (h.known name hname)⟩

theorem declare (h : Declared known names) (hname : Scope.hasName known name = false) :
    Declared (known ++ [name]) (names ++ [name]) := by
  constructor
  · refine List.pairwise_append.2 ⟨h.different, List.pairwise_singleton _ _, ?_⟩
    intro other hother n hn
    rw [List.mem_singleton.1 hn]
    exact Bool.eq_false_iff.2 (List.any_eq_false.1 hname other (h.known other hother))
  · intro n hn
    rcases List.mem_append.1 hn with hn | hn
    · exact List.mem_append_left _ (h.known n hn)
    · exact List.mem_append_right _ hn

/-- New names come to those that are declared. -/
theorem append (h : Declared known names) (hnew : AreNew known new) :
    Declared (known ++ new) (names ++ new) := by
  induction new generalizing known names with
  | nil =>
    rw [List.append_nil, List.append_nil]
    exact h
  | cons name new ih =>
    rw [List.append_cons known, List.append_cons names]
    exact ih (h.declare hnew.1) hnew.2

end Declared

/-! ## Statements of a block -/

/-- Whether statements have come to the scope of a block in order: what they declare is known to the
scope, and the scope is as far as they are. -/
structure Scope.Orders (s : Scope) (ss : List Statement) : Prop where
  phases : (ss.filterMap (·.phase?)).Pairwise fun p q => p.rank ≤ q.rank
  reached : ∀ phase ∈ ss.filterMap (·.phase?), phase.rank ≤ s.phase.rank
  names : ∀ kind, Declared (s.names kind) (ss.flatMap (·.declared kind))

namespace Scope

variable {s t : Scope} {ss : List Statement} {st : Statement}

theorem Orders.nil (s : Scope) : s.Orders [] := ⟨.nil, nofun, fun _ => ⟨.nil, nofun⟩⟩

theorem Orders.becomes (h : s.Orders ss) (ht : s.Becomes t) : t.Orders ss where
  phases := h.phases
  reached phase hphase := Nat.le_trans (h.reached phase hphase) ht.phase
  names kind := (h.names kind).onward (ht.names kind)

theorem Orders.inOrder (h : s.Orders ss) : InOrder ss :=
  ⟨h.phases, fun kind => (h.names kind).different⟩

/-- One more statement, in the phase that the scope is in. -/
theorem Orders.append (h : s.Orders ss) (hphase : ∀ phase, st.phase? = some phase → s.phase = phase)
    (hnames : ∀ kind, Declared (s.names kind) (ss.flatMap (·.declared kind) ++ st.declared kind)) :
    s.Orders (ss ++ [st]) := by
  have hreached : ∀ phase ∈ [st].filterMap (·.phase?), phase = s.phase := by
    intro phase hmem
    obtain ⟨t, ht, hp⟩ := List.mem_filterMap.1 hmem
    rw [List.mem_singleton.1 ht] at hp
    exact (hphase phase hp).symm
  have hlast : ([st].filterMap (·.phase?)).Pairwise fun p q => p.rank ≤ q.rank := by
    rw [List.filterMap_cons]
    split
    · exact .nil
    · exact List.pairwise_singleton _ _
  constructor
  · rw [List.filterMap_append]
    refine List.pairwise_append.2 ⟨h.phases, hlast, fun p hp q hq => ?_⟩
    rw [hreached q hq]
    exact h.reached p hp
  · intro phase hmem
    rw [List.filterMap_append] at hmem
    rcases List.mem_append.1 hmem with hmem | hmem
    · exact h.reached phase hmem
    · exact Nat.le_of_eq (congrArg _ (hreached phase hmem))
  · intro kind
    simpa using hnames kind

/-- One more statement, as its check leads from one scope to the other. -/
theorem Orders.declares (h : s.Orders ss) (hblock : s.kind = .block) (ht : s.Becomes t)
    (hst : s.Declares st t) : t.Orders (ss ++ [st]) := by
  refine (h.becomes ht).append (fun phase hp => hst.phase phase hp hblock) fun kind => ?_
  rw [hst.names kind]
  exact (h.names kind).append (hst.new kind)

end Scope

/-! ## Statements at a place -/

variable {c c' : Checker} {ss : List Statement}

/-- Whether the statements at a place are in order: in a block they have come in order, elsewhere
there are no declarations, and so it is inside of each of them. -/
structure InOrderAt (c : Checker) (ss : List Statement) : Prop where
  block : c.nesting.inner.kind = .block → c.nesting.inner.Orders ss
  bare : c.nesting.inner.kind ≠ .block → ∀ s ∈ ss, ∀ phase, s.phase? = some phase → phase = .body
  inside : ∀ s ∈ ss, ∀ levels t, Stands s levels t → t.DeclaresInOrder

namespace InOrderAt

variable {s : Statement}

theorem nil (c : Checker) : InOrderAt c [] := ⟨fun _ => .nil _, nofun, nofun⟩

theorem onward (h : c.Onward c') (hss : InOrderAt c ss) : InOrderAt c' ss where
  block hk := (hss.block (h.inner.kind.symm.trans hk)).becomes h.inner
  bare hk := hss.bare (h.inner.kind ▸ hk)
  inside := hss.inside

/-- One more statement. -/
theorem append (h : InOrderAt c ss) (hc : c.Onward c')
    (hblock : c.nesting.inner.kind = .block → c'.nesting.inner.Orders (ss ++ [s]))
    (hbare : c.nesting.inner.kind ≠ .block → ∀ phase, s.phase? = some phase → phase = .body)
    (hinside : ∀ levels t, Stands s levels t → t.DeclaresInOrder) : InOrderAt c' (ss ++ [s]) where
  block hk := hblock (hc.inner.kind.symm.trans hk)
  bare := by
    rw [hc.inner.kind]
    intro hk t ht
    rcases List.mem_append.1 ht with ht | ht
    · exact h.bare hk t ht
    · rw [List.mem_singleton.1 ht]
      exact hbare hk
  inside := by
    intro t ht
    rcases List.mem_append.1 ht with ht | ht
    · exact h.inside t ht
    · rw [List.mem_singleton.1 ht]
      exact hinside

/-- What holds statements that are in order is in order. -/
theorem declaresInOrder {k : ScopeKind} (hk : s.scopeKind? = some k)
    (hheld : ∀ body ∈ s.held, c.Holds InOrderAt k s.label? body) : s.DeclaresInOrder where
  block := by
    rintro b rfl
    cases hk
    obtain ⟨d, hd, hbody⟩ := hheld b.statements (List.mem_singleton_self _)
    exact (hbody.block hd.kind).inOrder
  bare hne body hmem := by
    obtain ⟨d, hd, hbody⟩ := hheld body hmem
    refine hbody.bare fun hblock => hne ?_
    rw [hk, ← hd.kind, hblock]

theorem declaresInOrder_leaf (hs : s.scopeKind? = none) : s.DeclaresInOrder where
  block := by
    rintro b rfl
    cases hs
  bare _ body hmem := by
    rw [Statement.held_of_scopeKind? hs] at hmem
    cases hmem

end InOrderAt

variable {s : Statement}

theorem inOrder_leaf (hs : s.scopeKind? = none) (h : s.check c = (.ok s, c'))
    (hss : InOrderAt c ss) : InOrderAt c' (ss ++ [s]) := by
  have honward := (Statement.check_onward s).apply h
  have hdeclares := Statement.check_declares hs h
  refine hss.append honward (fun hk => (hss.block hk).declares hk honward.inner hdeclares)
    (fun hk phase hp => ?_) fun levels t ht => ?_
  · exact Decidable.not_not.1 fun hne => hk (hdeclares.block phase hp hne)
  · obtain ⟨_, rfl⟩ := ht.of_leaf hs
    exact InOrderAt.declaresInOrder_leaf hs

theorem inOrder_holder {k : ScopeKind} (h : c.Takes InOrderAt s k) (hss : InOrderAt c ss) :
    InOrderAt c (ss ++ [s]) := by
  have hphase := Statement.phase_of_holder h.kind
  have hreceives := h.receives
  refine hss.append (Std.Refl.refl c) (fun hk => ?_) (fun hk phase hp => ?_) fun levels t ht => ?_
  · refine (hss.block hk).append (fun phase hp => ?_) fun kind => ?_
    · rw [← Option.some.inj (hphase.symm.trans hp)]
      cases k with
      | handler => exact hreceives.2
      | _ => exact hreceives hk
    · rw [Statement.declared_of_holder h.kind, List.append_nil]
      exact (hss.block hk).names kind
  · rw [← Option.some.inj (hphase.symm.trans hp)]
    cases k with
    | handler => exact absurd hreceives.1 hk
    | _ => rfl
  · cases ht with
    | here => exact InOrderAt.declaresInOrder h.kind h.held
    | @inside _ u _ before after levels hmem hu =>
      obtain ⟨d, _, hbody⟩ := h.held _ hmem
      exact hbody.inside u (List.mem_append_right _ List.mem_cons_self) levels t hu

theorem inOrder_upheld : Upheld InOrderAt where
  moves h := InOrderAt.onward h.onward
  fresh _ := .nil _
  leaf := inOrder_leaf
  holder := inOrder_holder

theorem inOrder_lasting : Lasting InOrderAt := fun _ _ _ h => InOrderAt.onward h

/-! ## Programs -/

/-- **Declarations of programs are in order**, whatever calls have failed on the way. -/
theorem built_in_order {head : ProgramHead} {label : Operand} {stem : String} {b b' : Builder}
    {p : Program} (calls : List Call) (hb : Builder.start head label stem = .ok b)
    (hbuild : (b.run calls).build = (.ok p, b')) {levels : List Level} {s : Statement}
    (hs : Stands (.block p.body) levels s) : s.DeclaresInOrder := by
  have hroot : InOrderAt (head.checker stem) [.block p.body] :=
    Program.upheld inOrder_upheld inOrder_lasting calls hb hbuild (.nil _)
  exact hroot.inside _ (List.mem_singleton_self _) levels s hs

/-- Calls for a block with a variable; the third call comes too late. -/
def lateDeclared : List Call := [
  .declare ["a"] { type := .int } (.value .null),
  .raw "DO 0",
  .declare ["b"] { type := .int } (.value .null),
  .set "a" (.value (.int 1)) []]

/-- A declaration that comes too late is not in the block. -/
theorem lateDeclared_in_order : ∃ b p b',
    Builder.start .block (.value .null) Builder.usualStem = .ok b ∧
      (b.run lateDeclared).build = (.ok p, b') ∧ (Statement.block p.body).DeclaresInOrder := by
  have hok : (emptyBuilder.run lateDeclared).build.1.isOk = true := by decide +kernel
  rcases hbuild : (emptyBuilder.run lateDeclared).build with ⟨e | p, b'⟩
  · rw [hbuild] at hok
    cases hok
  · have hstart : Builder.start .block (.value .null) Builder.usualStem = .ok emptyBuilder := rfl
    exact ⟨emptyBuilder, p, b', hstart, hbuild, built_in_order lateDeclared hstart hbuild .here⟩

end StoredSql
