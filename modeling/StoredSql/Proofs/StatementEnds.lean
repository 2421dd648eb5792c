import StoredSql.Proofs.CleanText
import StoredSql.Rendering

/-!
# Where statements end

A statement without raw texts has no semicolon outside quotes but at the end of its lines, and it
has one there for each statement in it, in any depth, that is neither empty nor a handler
(`rendered_semicolons`). What a handler does brings its semicolon, also where it follows the handler
on one line.
-/

namespace StoredSql

open Quotes Outcome

/-- The characters behind the first of some lines. -/
def linesBehind (ls : List String) : List Char :=
  if ls.isEmpty then [] else '\n' :: (Text.joinWith "\n" ls).toList

theorem toList_joinWith_cons (l : String) (ls : List String) :
    (Text.joinWith "\n" (l :: ls)).toList = l.toList ++ linesBehind ls := by
  cases ls with
  | nil => simp [Text.joinWith, linesBehind]
  | cons l' ls => simp [Text.joinWith, linesBehind]

/-- A line that closes its quotes and has a semicolon outside of them only at its end. -/
structure EndsAlone (l : String) : Prop where
  closed : after .outside l.toList = .outside
  last {before rest : List Char} (h : l.toList = before ++ ';' :: rest)
    (hb : after .outside before = .outside) : rest = []

/-- Where a semicolon stands outside quotes, a line ends. -/
def SemicolonsEndLines (ls : List String) : Prop :=
  ∀ before rest, (Text.joinWith "\n" ls).toList = before ++ ';' :: rest →
    after .outside before = .outside → ∃ ls₁ l ls₂, ls = ls₁ ++ l :: ls₂ ∧
      l.toList.getLast? = some ';' ∧ (Text.joinWith "\n" (ls₁ ++ [l])).toList = before ++ [';']

/-- The lines are read one by one; a line that closes its quotes leaves the next one to be read as
if it stood alone. -/
theorem semicolonsEndLines_of_forall {ls : List String} (h : ∀ l ∈ ls, EndsAlone l) :
    SemicolonsEndLines ls := by
  induction ls with
  | nil => exact fun before rest hsplit => by simp [Text.joinWith] at hsplit
  | cons l ls ih =>
    have hl := h l (by simp)
    intro before rest hsplit hb
    rw [toList_joinWith_cons] at hsplit
    obtain ⟨more, rfl, hmore⟩ | ⟨more, hmore, hrest⟩ := List.append_eq_append_iff.1 hsplit
    · -- the semicolon stands in a later line
      cases ls with
      | nil => simp [linesBehind] at hmore
      | cons l' ls =>
        cases more with
        | nil => simp [linesBehind] at hmore
        | cons c more =>
          obtain ⟨rfl, hlater⟩ := List.cons.inj hmore
          have hplace : after .outside more = .outside := by
            rw [after_append, hl.closed] at hb
            exact hb
          obtain ⟨ls₁, l₁, ls₂, hls, hlast, hread⟩ :=
            ih (fun l hl => h l (List.mem_cons_of_mem _ hl)) more rest hlater hplace
          refine ⟨l :: ls₁, l₁, ls₂, by rw [hls]; rfl, hlast, ?_⟩
          have hne : (ls₁ ++ [l₁]).isEmpty = false := by simp
          rw [List.cons_append, toList_joinWith_cons, linesBehind, hne, if_neg (by simp), hread]
          simp
    · -- it stands in this line, and so at its end
      cases more with
      | nil =>
        cases ls <;> simp [linesBehind] at hrest
      | cons c more =>
        obtain ⟨rfl, -⟩ := List.cons.inj hrest
        obtain rfl := hl.last hmore hb
        exact ⟨[], l, ls, rfl, by rw [hmore]; simp, by simpa [Text.joinWith] using hmore⟩

/-- A semicolon outside quotes stands behind a text that has none. -/
theorem behind_clean {u : String} (hu : Clean (· ≠ ';') u) {before rest tail : List Char}
    (h : u.toList ++ tail = before ++ ';' :: rest) (hb : after .outside before = .outside) :
    ∃ more, before = u.toList ++ more ∧ tail = more ++ ';' :: rest := by
  obtain ⟨more, hbefore, htail⟩ | ⟨more, hinside, hmore⟩ := List.append_eq_append_iff.1 h
  · exact ⟨more, hbefore, htail⟩
  · cases more with
    | nil => exact ⟨[], by simpa using hinside.symm, hmore.symm⟩
    | cons c more =>
      obtain ⟨rfl, -⟩ := List.cons.inj hmore
      refine absurd rfl (hu.outside ';' ?_)
      rw [hinside, unquoted_append, hb]
      exact List.mem_append_right _ (by simp [unquoted, Quote.ofChar?])

/-! ## Rows -/

section
variable {i : Nat} {r : Row} (h : Clean (· ≠ ';') r.content)

theorem Row.toList_text : (r.text i).toList
    = (Dialect.spaces (i * r.level) ++ r.content).toList ++ if r.ended then [';'] else [] := by
  rw [Row.text, Row.said, ← String.append_assoc]
  cases r.ended <;> simp

include h

theorem Row.clean_unended : Clean (· ≠ ';') (Dialect.spaces (i * r.level) ++ r.content) := by
  refine Clean.append (Clean.of_forall fun c hc => ?_) h
  rw [Dialect.spaces, String.toList_ofList] at hc
  obtain rfl := List.eq_of_mem_replicate hc
  exact ⟨by decide, by decide⟩

theorem Row.after_text : after .outside (r.text i).toList = .outside := by
  rw [Row.toList_text, after_append, (Row.clean_unended h).closed]
  cases r.ended <;> rfl

theorem Row.endsAlone_text : EndsAlone (r.text i) where
  closed := Row.after_text h
  last {before rest} hsplit hb := by
    have hone : (if r.ended then [';'] else []).length ≤ 1 := by cases r.ended <;> simp
    rw [Row.toList_text] at hsplit
    obtain ⟨more, -, hmore⟩ := behind_clean (Row.clean_unended h) hsplit hb
    rw [hmore, List.length_append, List.length_cons] at hone
    exact List.eq_nil_of_length_eq_zero (by omega)

theorem Row.count_text :
    (unquoted .outside (r.text i).toList).count ';' = if r.ended then 1 else 0 := by
  have hclean := Row.clean_unended (i := i) h
  rw [Row.toList_text, unquoted_append, hclean.closed, List.count_append,
    List.count_eq_zero.2 fun hmem => hclean.outside _ hmem rfl]
  cases r.ended <;> rfl

end

theorem count_rows {i : Nat} {rows : List Row} (h : ∀ r ∈ rows, Clean (· ≠ ';') r.content) :
    (unquoted .outside (Text.joinWith "\n" (rows.map (Row.text i))).toList).count ';'
      = rows.countP Row.ended := by
  induction rows with
  | nil => rfl
  | cons r rows ih =>
    have hr := h r (by simp)
    have hrest : (unquoted .outside (linesBehind (rows.map (Row.text i)))).count ';'
        = rows.countP Row.ended := by
      rw [← ih fun r hr => h r (List.mem_cons_of_mem _ hr)]
      cases rows with
      | nil => rfl
      | cons r rows => exact List.count_cons_of_ne (by decide)
    rw [List.map_cons, toList_joinWith_cons, unquoted_append, Row.after_text hr, List.count_append,
      Row.count_text hr, hrest, List.countP_cons, Nat.add_comm]

/-! ## Statements -/

/-- There is one ended row for each statement that ends in a semicolon. -/
theorem layout_ended (R : String → Prop) (r : RawRule) :
    Layout R r fun ss rows => rows.countP Row.ended = ss.countP Statement.isTerminated where
  nil := rfl
  append h h' := by rw [List.countP_append, List.countP_append, h, h']
  headed level _ h := by rw [List.countP_cons_of_neg (by simp), h]
  ended level hs h _ := by
    rw [List.countP_append, h, List.countP_cons_of_pos hs]
    rfl
  hung {ss rows t} level action conditions body _ h := by
    rw [List.countP_cons_of_neg (by simp [Statement.isTerminated]), ← h]
    match rows with
    | [] => rfl
    | [_] => rfl
    | _ :: _ :: _ => exact List.countP_cons_of_neg (by simp)
  empty := rfl
  raw {sql} level _ := by
    rw [List.countP_eq_zero.2, List.countP_eq_zero.2]
    · simp [Statement.isTerminated]
    · intro row hrow
      obtain ⟨line, -, rfl⟩ := List.mem_map.1 hrow
      simp

/-- **Every statement is terminated exactly once.** -/
theorem rendered_semicolons {d : Dialect} {s : Statement} {depth : Int} {text : String}
    (hs : s.rawAll RawRule.none = true) (h : d.renderStatement s depth = .ok text) :
    ∃ ls, d.lines depth s = .ok ls ∧ text = Text.joinWith "\n" ls ∧ SemicolonsEndLines ls ∧
      (unquoted .outside text.toList).count ';' = s.nodes.countP Statement.isTerminated := by
  rw [Dialect.renderStatement, Dialect.orMissing] at h
  split at h
  · rename_i hd
    have hclean : Layout (fun _ => False) RawRule.none
        fun _ rows => ∀ row ∈ rows, Clean (· ≠ ';') row.content :=
      layout_clean (fun _ h => h) (fun _ h => h.elim) fun _ h => absurd h (by simp [RawRule.none])
    have hdeep : RawRule.none.directive = true → 0 < depth := fun h =>
      absurd h (by simp [RawRule.none])
    have hlaid := laid_lines hd (fun _ h => absurd h (by simp [RawRule.none]))
      (hclean.and (layout_ended _ _)) (fun _ _ => trivial) hs (.any _) hdeep
    obtain ⟨ls, hls, ht⟩ := bind_eq_ok.1 h
    obtain rfl := pure_eq_ok.1 ht
    obtain ⟨rows, ⟨hrows, hcount⟩, rfl⟩ := hlaid.of_ok d.indent hls
    refine ⟨_, hls, rfl, semicolonsEndLines_of_forall fun l hl => ?_, ?_⟩
    · obtain ⟨r, hr, rfl⟩ := List.mem_map.1 hl
      exact Row.endsAlone_text (hrows r hr)
    · rw [count_rows hrows, hcount]
  · cases h

/-- A block with an empty statement and a handler of one line, whose literal holds a semicolon, a
line break and a quote. -/
def handledBlock : Statement :=
  .block ⟨[.declareHandler .continue [.notFound] (.set [("@a", .literal (.text "x;\ny'"))]), .empty,
    .leave "l"], none, none⟩

/-- The lines of the block. -/
def handledLines : List String :=
  ["BEGIN", "  DECLARE CONTINUE HANDLER FOR NOT FOUND SET @a = 'x;\ny''';", "", "  LEAVE l;", "END;"]

/-- The block, the assignment and `LEAVE` have a semicolon each. -/
theorem handledBlock_semicolons :
    Dialect.renderStatement {} handledBlock 0 = .ok (Text.joinWith "\n" handledLines) ∧
      SemicolonsEndLines handledLines ∧
      (unquoted .outside (Text.joinWith "\n" handledLines).toList).count ';' = 3 := by
  have hraw : handledBlock.rawAll RawRule.none = true := by decide
  have hrender : Dialect.renderStatement {} handledBlock 0
      = .ok (Text.joinWith "\n" handledLines) := rfl
  have hlines : Dialect.lines {} 0 handledBlock = .ok handledLines := rfl
  obtain ⟨ls, hls, -, hends, hcount⟩ := rendered_semicolons hraw hrender
  obtain rfl := Except.ok.inj (hlines.symm.trans hls)
  exact ⟨hrender, hends, hcount⟩

end StoredSql
