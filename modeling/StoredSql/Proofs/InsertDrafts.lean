import StoredSql.Insert
import StoredSql.Proofs.Outcome

/-!
# Drafts of new rows

A draft of new rows gathers what the steps give that it accepts (`InsertDraft.run_gathers`); a step
that fails leaves it as it is. The steps see to it that a draft never has rows and a query at once, and
that its rows are as wide as its columns. Of what is asked of new rows in the end, this leaves three
things that can be missing (`InsertStep.Unfinished`), and no more (`insert_steps`).
-/

namespace StoredSql

open Outcome

/-! ## What steps give -/

namespace InsertStep

/-- A row of expressions. -/
def exprs (row : List Operand) : Except Error (List Expr) := row.mapM (·.toExpr)

/-- A column with the expression that is assigned to it. -/
def update (assignment : String × Operand) : Except Error (String × Expr) := do
  pure (assignment.1, ← assignment.2.toExpr)

/-- The rows that a step gives, if they can be made. -/
def newRows : InsertStep → List (List Expr)
  | .values row => (exprs row).toOption.toList
  | .rows given => (given.mapM exprs).toOption.getD []
  | _ => []

/-- The query that a step gives, if it can be made. -/
def newQuery? : InsertStep → Option SelectQuery
  | .select (.draft q) => q.build.toOption
  | .select (.query q) => some q
  | _ => none

/-- The mode that a step chooses. -/
def newMode? : InsertStep → Option InsertMode
  | .ignore => some .insertIgnore
  | .replace => some .replace
  | _ => none

/-- The updates that a step gives, if they can be made. -/
def newUpdates : InsertStep → List (String × Expr)
  | .onDuplicate assignments => ((Ordered.ofEntries assignments).mapM update).toOption.getD []
  | _ => []

end InsertStep

/-- Whether a query can fill columns: as wide as they are, or with all columns of a table. -/
def SelectQuery.Fills (q : SelectQuery) (names : List String) : Prop :=
  (∃ item ∈ q.items, item.isStar = true) ∨ q.items.length = names.length

theorem SelectQuery.fills_iff {q : SelectQuery} {names : List String} {e : Error} :
    (if !q.items.any (·.isStar) ∧ q.items.length ≠ names.length then throw e else pure ()) =
      (.ok () : Except Error Unit) ↔ q.Fills names := by
  by_cases h : (!q.items.any (·.isStar)) = true ∧ q.items.length ≠ names.length
  · rw [if_pos h]
    refine iff_of_false throw_ne_ok ?_
    rintro (hstar | hlength)
    · rw [List.any_eq_true.2 hstar] at h
      exact absurd h.1 Bool.false_ne_true
    · exact h.2 hlength
  · rw [if_neg h]
    refine iff_of_true rfl ?_
    cases hstar : q.items.any (·.isStar) with
    | true => exact .inl (List.any_eq_true.1 hstar)
    | false => exact .inr (by simpa [hstar] using h)

open InsertStep

namespace InsertDraft

variable {d d' : InsertDraft} {row : List Operand} {given : List (List Operand)} {s : InsertStep}
  {names : List String} {steps : List InsertStep}

/-- Expressions are as many as what they are made of. -/
theorem length_exprs {r : List Expr} (h : exprs row = .ok r) : r.length = row.length := by
  induction row generalizing r with
  | nil =>
    cases h
    rfl
  | cons value row ih =>
    unfold exprs at h
    rw [List.mapM_cons] at h
    simp only [bind_eq_ok, pure_eq_ok] at h
    obtain ⟨e, _, r, hr, rfl⟩ := h
    exact congrArg (· + 1) (ih hr)

theorem withRow_ok (h : d.withRow row = .ok d') : d.select = none ∧
    ∃ r, exprs row = .ok r ∧ (d.columns ≠ [] → r.length = d.columns.length) ∧
      d' = { d with rows := d.rows ++ [r] } := by
  unfold withRow at h
  cases hselect : d.select with
  | some q => simp [hselect] at h
  | none =>
    by_cases hwidth : !d.columns.isEmpty ∧ row.length ≠ d.columns.length
    · simp [hselect, hwidth] at h
    · simp only [hselect, hwidth, Option.isSome_none, Bool.false_eq_true, if_false, bind_eq_ok,
        pure_eq_ok] at h
      obtain ⟨r, hr, rfl⟩ := h
      refine ⟨rfl, r, hr, fun hcolumns => ?_, rfl⟩
      rw [length_exprs hr]
      simpa [hcolumns] using hwidth

/-- Many rows are given like one after the other. -/
theorem withRows_ok (h : given.foldlM withRow d = .ok d') :
    ∃ rs, given.mapM exprs = .ok rs ∧ (rs ≠ [] → d.select = none) ∧
      (d.columns ≠ [] → ∀ r ∈ rs, r.length = d.columns.length) ∧
      d' = { d with rows := d.rows ++ rs } := by
  induction given generalizing d with
  | nil =>
    cases h
    exact ⟨[], rfl, fun hne => absurd rfl hne, fun _ => List.forall_mem_nil _, by simp⟩
  | cons row given ih =>
    rw [List.foldlM_cons] at h
    obtain ⟨t, ht, h⟩ := bind_eq_ok.1 h
    obtain ⟨hselect, r, hr, hwidth, rfl⟩ := withRow_ok ht
    obtain ⟨rs, hrs, _, hwidths, rfl⟩ := ih h
    refine ⟨r :: rs, ?_, fun _ => hselect, fun hcolumns => ?_, by simp⟩
    · simp only [List.mapM_cons, bind_eq_ok, pure_eq_ok]
      exact ⟨r, hr, rs, hrs, rfl⟩
    · exact List.forall_mem_cons.2 ⟨hwidth hcolumns, hwidths hcolumns⟩

theorem withSelect_ok {query : Operand} (h : d.withSelect query = .ok d') :
    d.rows = [] ∧ ∃ q, (InsertStep.select query).newQuery? = some q ∧
      d' = { d with select := some q } := by
  unfold withSelect at h
  cases hrows : d.rows with
  | cons r rs => simp [hrows] at h
  | nil =>
    refine ⟨rfl, ?_⟩
    simp only [hrows, List.isEmpty_nil, Bool.not_true, Bool.false_eq_true, if_false] at h
    split at h
    · obtain ⟨q, hq, hd⟩ := bind_eq_ok.1 h
      cases hd
      exact ⟨q, congrArg Except.toOption hq, rfl⟩
    · cases h
      exact ⟨_, rfl, rfl⟩
    · cases h

/-- What a step does to a draft that accepts it: it adds what it gives. Rows come only where there is
no query, each as wide as the columns, and a query comes only where there are no rows. -/
structure Takes (d : InsertDraft) (s : InsertStep) (d' : InsertDraft) : Prop where
  eq : d' = { d with
    rows := d.rows ++ s.newRows, select := s.newQuery?.or d.select,
    mode := s.newMode?.getD d.mode, onDuplicate := d.onDuplicate ++ s.newUpdates }
  alone : s.newRows ≠ [] → s.newQuery? = none ∧ d.select = none
  first : s.newQuery? ≠ none → d.rows = []
  wide : d.columns ≠ [] → ∀ row ∈ s.newRows, row.length = d.columns.length

/-- A step that gives neither rows nor a query. -/
theorem Takes.of_bare (hrows : s.newRows = []) (hquery : s.newQuery? = none)
    (heq : d' = { d with
      mode := s.newMode?.getD d.mode, onDuplicate := d.onDuplicate ++ s.newUpdates }) :
    d.Takes s d' where
  eq := by rw [heq, hrows, hquery, List.append_nil, Option.none_or]
  alone hne := absurd hrows hne
  first hne := absurd hquery hne
  wide _ := hrows ▸ List.forall_mem_nil _

/-- **A step that is accepted adds what it gives.** -/
theorem after_ok (h : d.after s = .ok d') : d.Takes s d' := by
  cases s with
  | values row =>
    obtain ⟨hselect, r, hr, hwidth, rfl⟩ := withRow_ok h
    have hnew : (InsertStep.values row).newRows = [r] := by rw [newRows, hr]; rfl
    refine ⟨?_, fun _ => ⟨rfl, hselect⟩, fun hne => absurd rfl hne, fun hcolumns => ?_⟩
    · simp [hnew, newQuery?, newMode?, newUpdates]
    · rw [hnew, List.forall_mem_singleton]
      exact hwidth hcolumns
  | rows given =>
    obtain ⟨rs, hrs, hselect, hwidths, rfl⟩ := withRows_ok h
    have hnew : (InsertStep.rows given).newRows = rs := by rw [newRows, hrs]; rfl
    refine ⟨?_, fun hne => ⟨rfl, hselect (hnew ▸ hne)⟩, fun hne => absurd rfl hne, hnew ▸ hwidths⟩
    simp [hnew, newQuery?, newMode?, newUpdates]
  | select query =>
    obtain ⟨hrows, q, hq, rfl⟩ := withSelect_ok h
    refine ⟨?_, fun hne => absurd rfl hne, fun _ => hrows, fun _ => List.forall_mem_nil _⟩
    simp [hq, newRows, newMode?, newUpdates]
  | ignore =>
    cases h
    exact .of_bare rfl rfl (by simp [newMode?, newUpdates])
  | replace =>
    cases h
    exact .of_bare rfl rfl (by simp [newMode?, newUpdates])
  | onDuplicate assignments =>
    obtain ⟨updates, hupdates, hd⟩ := bind_eq_ok.1 h
    have hnew : (InsertStep.onDuplicate assignments).newUpdates = updates := by
      rw [newUpdates]
      exact congrArg (fun made => (Except.toOption made).getD []) hupdates
    cases hd
    exact .of_bare rfl rfl (by rw [hnew]; rfl)

/-! ## Runs -/

/-- The draft after steps, of which those that fail leave it as it is. -/
def run (d : InsertDraft) (steps : List InsertStep) : InsertDraft :=
  steps.foldl (fun d s => (d.after s).toOption.getD d) d

/-- The steps that do not fail. -/
def accepted (d : InsertDraft) : List InsertStep → List InsertStep
  | [] => []
  | s :: steps =>
    match d.after s with
    | .ok d' => s :: d'.accepted steps
    | .error _ => d.accepted steps

/-- Whether a draft has just what accepted steps give, in their order, and is consistent. -/
structure Gathers (names : List String) (steps : List InsertStep) (d : InsertDraft) : Prop where
  columns : d.columns = names
  rows : d.rows = steps.flatMap (·.newRows)
  query : d.select = (steps.filterMap (·.newQuery?)).getLast?
  mode : d.mode = (steps.filterMap (·.newMode?)).getLast?.getD .insert
  updates : d.onDuplicate = steps.flatMap (·.newUpdates)
  exclusive : d.rows = [] ∨ d.select = none
  wide : names ≠ [] → ∀ row ∈ d.rows, row.length = names.length

/-- At its start, a draft has its columns only. -/
theorem gathers_start {table : Operand} (h : start table names = .ok d) :
    d.Gathers names [] := by
  unfold start at h
  split at h
  · cases h
    exact ⟨rfl, rfl, rfl, rfl, rfl, .inl rfl, fun _ => List.forall_mem_nil _⟩
  · cases h

/-- A step that is accepted leads from a consistent draft to one. -/
theorem Gathers.step (hd : d.Gathers names steps) (h : d.Takes s d') :
    d'.Gathers names (steps ++ [s]) where
  columns := by rw [h.eq]; exact hd.columns
  rows := by rw [h.eq, List.flatMap_append, List.flatMap_singleton, ← hd.rows]
  query := by
    rw [h.eq, List.filterMap_append, List.getLast?_append, ← hd.query]
    cases hquery : s.newQuery? <;> simp [hquery]
  mode := by
    rw [h.eq, List.filterMap_append, List.getLast?_append]
    cases hmode : s.newMode? <;> simp [hmode, hd.mode]
  updates := by rw [h.eq, List.flatMap_append, List.flatMap_singleton, ← hd.updates]
  exclusive := by
    rw [h.eq]
    by_cases hrows : s.newRows = []
    · by_cases hquery : s.newQuery? = none
      · simpa [hrows, hquery] using hd.exclusive
      · exact .inl (by simp [hrows, h.first hquery])
    · exact .inr (by simp [h.alone hrows])
  wide hnames := by
    rw [h.eq]
    refine List.forall_mem_append.2 ⟨hd.wide hnames, ?_⟩
    rw [← hd.columns] at hnames ⊢
    exact h.wide hnames

/-- **A draft gathers what accepted steps give.** -/
theorem run_gathers {before : List InsertStep} (hd : d.Gathers names before) :
    (d.run steps).Gathers names (before ++ d.accepted steps) := by
  induction steps generalizing d before with
  | nil => simpa [run, accepted] using hd
  | cons s steps ih =>
    cases hs : d.after s with
    | ok d' =>
      have hrun : d.run (s :: steps) = d'.run steps := by
        rw [run, List.foldl_cons, hs]
        rfl
      have haccepted : d.accepted (s :: steps) = s :: d'.accepted steps := by rw [accepted, hs]
      rw [hrun, haccepted, List.append_cons]
      exact ih (hd.step (after_ok hs))
    | error e =>
      have hrun : d.run (s :: steps) = d.run steps := by
        rw [run, List.foldl_cons, hs]
        rfl
      have haccepted : d.accepted (s :: steps) = d.accepted steps := by rw [accepted, hs]
      rw [hrun, haccepted]
      exact ih hd

/-! ## The new rows -/


/-- Rows and a query are never both there, and rows are as wide as the columns. So what is left to be
asked for is one of them, and the width of the query. -/
theorem Gathers.checkWidths_ok (hd : d.Gathers names steps) :
    InsertQuery.checkWidths d.columns d.rows d.select = .ok () ↔
      ¬(d.rows = [] ∧ d.select = none) ∧ ∀ q, d.select = some q → names ≠ [] → q.Fills names := by
  have hfind : names ≠ [] → d.rows.find? (fun row => row.length ≠ names.length) = none := by
    intro hnames
    refine List.find?_eq_none.2 fun row hrow => ?_
    simp [hd.wide hnames row hrow]
  unfold InsertQuery.checkWidths
  rw [hd.columns]
  by_cases hnames : names = []
  · rcases hd.exclusive with hrows | hselect
    · cases hselect : d.select <;> simp [hrows, hnames]
    · cases hrows : d.rows <;> simp [hselect, hnames]
  · rw [hfind hnames]
    rcases hd.exclusive with hrows | hselect
    · cases hselect : d.select with
      | none => simp [hrows]
      | some q =>
        obtain ⟨n, ns, rfl⟩ := List.exists_cons_of_ne_nil hnames
        rw [hrows]
        refine SelectQuery.fills_iff.trans ⟨fun h => ⟨nofun, ?_⟩, fun h => h.2 q rfl hnames⟩
        rintro _ ⟨⟩ _
        exact h
    · cases hrows : d.rows <;> simp [hselect, hnames]

/-- What is replaced is not updated, and all else that is asked for is a matter of widths. -/
theorem build_error_iff : (∃ e, d.build = .error e) ↔
    InsertQuery.checkWidths d.columns d.rows d.select ≠ .ok () ∨
      d.mode = .replace ∧ d.onDuplicate ≠ [] := by
  unfold build
  cases hwidths : InsertQuery.checkWidths d.columns d.rows d.select with
  | error e => exact iff_of_true ⟨e, rfl⟩ (.inl nofun)
  | ok u =>
    by_cases hreplaced : (!d.onDuplicate.isEmpty) = true ∧ d.mode = .replace
    · rw [if_pos hreplaced]
      exact iff_of_true ⟨_, rfl⟩ (.inr ⟨hreplaced.2, by simpa using hreplaced.1⟩)
    · rw [if_neg hreplaced]
      refine iff_of_false nofun ?_
      rintro (hne | ⟨hmode, hupdates⟩)
      · exact hne rfl
      · exact hreplaced ⟨by simpa using hupdates, hmode⟩

end InsertDraft

/-! ## Complete new rows -/

/-- What keeps the new rows that steps have put together from being complete: there are neither rows nor
a query, or the query does not fill the columns, or what is replaced is to be updated as well. -/
inductive InsertStep.Unfinished (names : List String) (steps : List InsertStep) : Prop
  | nothing : (∀ s ∈ steps, s.newRows = [] ∧ s.newQuery? = none) → Unfinished names steps
  | width {q : SelectQuery} : (steps.filterMap (·.newQuery?)).getLast? = some q → names ≠ [] →
      ¬q.Fills names → Unfinished names steps
  | replaced {s : InsertStep} : (steps.filterMap (·.newMode?)).getLast? = some .replace →
      s ∈ steps → s.newUpdates ≠ [] → Unfinished names steps

namespace InsertDraft

variable {d : InsertDraft} {names : List String} {steps : List InsertStep}

theorem Gathers.bare_iff (hd : d.Gathers names steps) : d.rows = [] ∧ d.select = none ↔
    ∀ s ∈ steps, s.newRows = [] ∧ s.newQuery? = none := by
  rw [hd.rows, hd.query, List.flatMap_eq_nil_iff, List.getLast?_eq_none_iff,
    List.filterMap_eq_nil_iff]
  exact ⟨fun h s hs => ⟨h.1 s hs, h.2 s hs⟩, fun h =>
    ⟨fun s hs => (h s hs).1, fun s hs => (h s hs).2⟩⟩

theorem Gathers.replaces_iff (hd : d.Gathers names steps) : d.mode = .replace ↔
    (steps.filterMap (·.newMode?)).getLast? = some .replace := by
  rw [hd.mode]
  cases (steps.filterMap (·.newMode?)).getLast? <;> simp

theorem Gathers.updates_iff (hd : d.Gathers names steps) : d.onDuplicate ≠ [] ↔
    ∃ s ∈ steps, s.newUpdates ≠ [] := by
  rw [hd.updates, Ne, List.flatMap_eq_nil_iff]
  simp

/-- **Nothing else can be missing of a consistent draft.** -/
theorem Gathers.build_error_iff (hd : d.Gathers names steps) :
    (∃ e, d.build = .error e) ↔ Unfinished names steps := by
  rw [InsertDraft.build_error_iff, Ne, hd.checkWidths_ok]
  constructor
  · rintro (hwidths | ⟨hmode, hupdates⟩)
    · by_cases hnone : d.rows = [] ∧ d.select = none
      · exact .nothing (hd.bare_iff.1 hnone)
      · obtain ⟨q, hfills⟩ := Classical.not_forall.1 fun hfills => hwidths ⟨hnone, hfills⟩
        obtain ⟨hq, hfills⟩ := Classical.not_imp.1 hfills
        obtain ⟨hnames, hfills⟩ := Classical.not_imp.1 hfills
        exact .width (hd.query ▸ hq) hnames hfills
    · obtain ⟨s, hs, hnew⟩ := hd.updates_iff.1 hupdates
      exact .replaced (hd.replaces_iff.1 hmode) hs hnew
  · rintro (hnothing | ⟨hq, hnames, hfills⟩ | ⟨hmode, hs, hnew⟩)
    · exact .inl fun h => h.1 (hd.bare_iff.2 hnothing)
    · exact .inl fun h => hfills (h.2 _ (hd.query.trans hq) hnames)
    · exact .inr ⟨hd.replaces_iff.2 hmode, hd.updates_iff.2 ⟨_, hs, hnew⟩⟩

end InsertDraft

/-- **New rows are put together consistently**: whatever steps are taken, the draft has what those that
do not fail give, in their order, never rows and a query at once, and only rows that are as wide as the
columns. They make up new rows unless there is nothing to put in, or the query is not as wide as the
columns, or what is replaced is to be updated. -/
theorem insert_steps {table : Operand} {names : List String} {d : InsertDraft}
    (steps : List InsertStep) (h : InsertDraft.start table names = .ok d) :
    (d.run steps).Gathers names (d.accepted steps) ∧
      ((∃ e, (d.run steps).build = .error e) ↔ Unfinished names (d.accepted steps)) := by
  have hrun : (d.run steps).Gathers names (d.accepted steps) :=
    InsertDraft.run_gathers (InsertDraft.gathers_start h)
  exact ⟨hrun, hrun.build_error_iff⟩

/-- Steps that give two rows, between them a query and a row of another width, and updates of what is
replaced. -/
def replacedRows : List InsertStep := [
  .values [.value (.int 1), .value (.text "a")],
  .select (.query { items := [⟨.column none "*", none⟩] }),
  .values [.value (.int 2)],
  .rows [[.value (.int 2), .value (.text "b")]],
  .onDuplicate [("n", .value (.text "c"))],
  .replace]

/-- The query and the other row are not accepted; the updates are what is wrong in the end. -/
theorem replacedRows_steps : ∃ d,
    InsertDraft.start (.value (.text "t")) ["id", "n"] = .ok d ∧
      (d.accepted replacedRows).length = 4 ∧ (d.run replacedRows).rows.length = 2 ∧
      (d.run replacedRows).Gathers ["id", "n"] (d.accepted replacedRows) ∧
      (∃ e, (d.run replacedRows).build = .error e) := by
  have hshape : ((InsertDraft.start (.value (.text "t")) ["id", "n"]).toOption.any fun d =>
      (d.accepted replacedRows).length == 4 && (d.run replacedRows).rows.length == 2 &&
        (d.run replacedRows).mode == .replace &&
        (d.accepted replacedRows).any fun s => !s.newUpdates.isEmpty) = true := by decide +kernel
  rcases hstart : InsertDraft.start (.value (.text "t")) ["id", "n"] with e | d
  · rw [hstart] at hshape
    cases hshape
  · obtain ⟨hgathers, hbuild⟩ := insert_steps replacedRows hstart
    simp only [hstart, Except.toOption, Option.any_some, Bool.and_eq_true, beq_iff_eq,
      List.any_eq_true] at hshape
    obtain ⟨⟨⟨haccepted, hrows⟩, hmode⟩, s, hs, hupdates⟩ := hshape
    have hunfinished : Unfinished ["id", "n"] (d.accepted replacedRows) :=
      .replaced (hgathers.replaces_iff.1 hmode) hs (by simpa using hupdates)
    exact ⟨d, rfl, haccepted, hrows, hgathers, hbuild.2 hunfinished⟩

end StoredSql
