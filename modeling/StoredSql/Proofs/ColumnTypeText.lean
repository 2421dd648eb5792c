import StoredSql.Proofs.Outcome
import StoredSql.Proofs.TextReading
import StoredSql.TableText

/-!
# The text of a column type

The text of a column type is the name of the type, what the type takes in parentheses and the
attribute behind a space. Each part ends where the next one begins: a name has capital letters only,
a number digits, and behind the quote that closes a listed value stands a comma or the closing
parenthesis. What a column is accepted with (`Column.Agrees`) is all that is written, so that two
accepted columns have the same text only if they have the same type, size, values and attribute
(`columnType_eq_iff`). The attribute `ON UPDATE CURRENT_TIMESTAMP` is no part of the type.
-/

namespace StoredSql

/-! ## Accepted columns -/

/-- What the parts of an accepted column have to do with each other. -/
structure Column.Agrees (c : Column) : Prop where
  listed : c.type.params = .values → c.values ≠ [] ∧ c.length = none ∧ c.scale = none
  unlisted : c.type.params ≠ .values → c.values = []
  scaled : c.scale ≠ none → c.length ≠ none

namespace ColumnDraft

variable {type : ColumnType}

theorem readValues_eq_ok {os : List Outline} {values : List String}
    (h : readValues type os = .ok values) :
    (type.params = .values → values ≠ []) ∧ (type.params ≠ .values → values = []) := by
  unfold readValues at h
  by_cases hparams : type.params = .values
  · rw [if_pos hparams] at h
    refine ⟨fun _ => ?_, fun hne => absurd hparams hne⟩
    split at h
    · cases h
    rename_i hsome
    split at h
    · rename_i texts htexts
      obtain rfl := Except.ok.inj h
      rintro rfl
      cases os with
      | nil => exact hsome rfl
      | cons o os => simp [List.mapM_cons, Option.bind_eq_some_iff] at htexts
    · cases h
  · rw [if_neg hparams] at h
    refine ⟨fun heq => absurd heq hparams, fun _ => ?_⟩
    split at h
    · exact (Except.ok.inj h).symm
    · cases h

theorem checkSize_eq_ok {length scale : Option Nat} (h : checkSize type length scale = .ok ()) :
    (type.params = .values → length = none) ∧
      (scale ≠ none → type.params = .precision ∧ length ≠ none) := by
  unfold checkSize at h
  constructor
  · intro hparams
    cases length with
    | none => rfl
    | some n => simp [hparams] at h
  · intro hscale
    by_cases hparams : type.params = .precision
    · cases length with
      | none => simp [hparams, hscale] at h
      | some n => exact ⟨hparams, nofun⟩
    · simp only [if_pos hscale, if_pos hparams] at h
      split at h
      · cases h
      · split at h <;> cases h

/-- **The parts of an accepted column agree.** -/
theorem column_agrees {d : ColumnDraft} {c : Column} (h : d.column = .ok c) : c.Agrees := by
  unfold column at h
  simp only [Outcome.bind_eq_ok, Outcome.pure_eq_ok] at h
  obtain ⟨length, -, scale, -, ⟨⟩, hsize, values, hvalues, initial, -, ⟨⟩, -, rfl⟩ := h
  obtain ⟨hnone, hsome⟩ := checkSize_eq_ok hsize
  obtain ⟨hlisted, hunlisted⟩ := readValues_eq_ok hvalues
  refine ⟨fun hparams => ⟨hlisted hparams, hnone hparams, ?_⟩, hunlisted, fun hs => (hsome hs).2⟩
  have hlength : length = none := hnone hparams
  exact Classical.not_not.1 fun hscale => (hsome hscale).2 hlength

end ColumnDraft

/-! ## Parts of the text -/

namespace ColumnType

theorem ofName?_name (t : ColumnType) : ofName? t.name = some t := by
  cases t <;> decide +kernel

theorem name_inj {t t' : ColumnType} : t.name = t'.name ↔ t = t' := by
  refine ⟨fun h => ?_, congrArg name⟩
  have hread := ofName?_name t
  rw [h, ofName?_name t'] at hread
  exact (Option.some.inj hread).symm

theorem isUpper_of_mem_name (t : ColumnType) : ∀ c ∈ t.name.toList, c.isUpper = true := by
  have hall : t.name.toList.all Char.isUpper = true := by cases t <;> decide
  exact List.all_eq_true.1 hall

end ColumnType

/-- The attribute that is part of the type. -/
def Column.typeModifier (c : Column) : Option ColumnAttribute :=
  if c.modifier = some .onUpdateCurrentTimestamp then none else c.modifier

namespace Dialect

/-- What is written behind a type for its attribute. -/
def modifierText (m : Option ColumnAttribute) : List Char :=
  match m with
  | none => []
  | some m => ' ' :: (Keyword.word m).toList

/-- A length, and a scale if there is one. -/
def sizeText (n : Nat) : Option Nat → List Char
  | none => Number.digits n
  | some s => Number.digits n ++ ',' :: Number.digits s

/-- Texts in quotes, each behind a comma. -/
def listedText (values : List String) : List Char :=
  values.flatMap fun v => ',' :: (quotedText v).toList

theorem cons_joinWith_quotedText {values : List String} (h : values ≠ []) :
    ',' :: (Text.joinWith "," (values.map quotedText)).toList = listedText values := by
  induction values with
  | nil => exact absurd rfl h
  | cons v values ih =>
    cases values with
    | nil => simp [listedText, Text.joinWith]
    | cons v' values =>
      have hjoin : (Text.joinWith "," ((v :: v' :: values).map quotedText)).toList
          = (quotedText v).toList
            ++ ',' :: (Text.joinWith "," ((v' :: values).map quotedText)).toList := by
        simp [Text.joinWith]
      rw [hjoin, ih (List.cons_ne_nil _ _)]
      rfl

/-- What the type of a column takes, in the parentheses. -/
def paramsText (c : Column) : Option (List Char) :=
  if c.type.params = .values then some (Text.joinWith "," (c.values.map quotedText)).toList
  else c.length.map (sizeText · c.scale)

/-- Characters in parentheses, if there are some. -/
def boxed : Option (List Char) → List Char
  | none => []
  | some cs => '(' :: (cs ++ [')'])

theorem toList_columnType (c : Column) : (columnType c).toList
    = c.type.name.toList ++ (boxed (paramsText c) ++ modifierText c.typeModifier) := by
  rw [columnType, String.toList_append, String.toList_append, List.append_assoc]
  refine congrArg (c.type.name.toList ++ ·) (congr (congrArg HAppend.hAppend ?params) ?modifier)
  case params =>
    unfold paramsText
    split
    · exact Shape.toList_parenthesized _
    · cases c.length with
      | none => rfl
      | some n =>
        cases c.scale <;> simp [Shape.parenthesized, boxed, sizeText, countText]
  case modifier =>
    unfold Column.typeModifier
    rcases c.modifier with _ | m
    · rfl
    · cases m <;> decide

/-! ## Parts that end where the next one begins -/

/-- A part of characters of a kind ends before the first character of another kind. -/
theorem append_inj_of_all {p : Char → Bool} {as as' bs bs' : List Char}
    (has : ∀ c ∈ as, p c = true) (has' : ∀ c ∈ as', p c = true)
    (hbs : ∀ c ∈ bs.head?, p c = false) (hbs' : ∀ c ∈ bs'.head?, p c = false)
    (h : as ++ bs = as' ++ bs') : as = as' ∧ bs = bs' := by
  have htake : ∀ {cs : List Char}, (∀ c ∈ cs.head?, p c = false) → cs.takeWhile p = [] := by
    intro cs hcs
    cases cs with
    | nil => rfl
    | cons c cs => simp [hcs c rfl]
  have heq := congrArg (List.takeWhile p) h
  rw [List.takeWhile_append_of_pos has, List.takeWhile_append_of_pos has', htake hbs, htake hbs',
    List.append_nil, List.append_nil] at heq
  subst heq
  exact ⟨rfl, List.append_cancel_left h⟩

theorem digits_append_inj {n n' : Nat} {bs bs' : List Char} (hbs : ∀ c ∈ bs.head?, c.isDigit = false)
    (hbs' : ∀ c ∈ bs'.head?, c.isDigit = false)
    (h : Number.digits n ++ bs = Number.digits n' ++ bs') : n = n' ∧ bs = bs' := by
  obtain ⟨hdigits, hrest⟩ := append_inj_of_all (fun _ => Number.isDigit_of_mem_digits)
    (fun _ => Number.isDigit_of_mem_digits) hbs hbs' h
  exact ⟨Number.digits_inj.1 hdigits, hrest⟩

theorem sizeText_append_inj {n n' : Nat} {s s' : Option Nat} {bs bs' : List Char}
    (h : sizeText n s ++ ')' :: bs = sizeText n' s' ++ ')' :: bs') : n = n' ∧ s = s' ∧ bs = bs' := by
  have hcomma : ∀ cs : List Char, ∀ c ∈ (',' :: cs).head?, c.isDigit = false := fun cs c hc => by
    cases hc
    rfl
  have hclose : ∀ cs : List Char, ∀ c ∈ (')' :: cs).head?, c.isDigit = false := fun cs c hc => by
    cases hc
    rfl
  rcases s with _ | s <;> rcases s' with _ | s' <;>
    simp only [sizeText, List.append_assoc, List.cons_append] at h
  · obtain ⟨rfl, hrest⟩ := digits_append_inj (hclose _) (hclose _) h
    exact ⟨rfl, rfl, (List.cons.inj hrest).2⟩
  · exact absurd (List.cons.inj (digits_append_inj (hclose _) (hcomma _) h).2).1 (by decide)
  · exact absurd (List.cons.inj (digits_append_inj (hcomma _) (hclose _) h).2).1 (by decide)
  · obtain ⟨rfl, hscale⟩ := digits_append_inj (hcomma _) (hcomma _) h
    obtain ⟨rfl, hrest⟩ := digits_append_inj (hclose _) (hclose _) (List.cons.inj hscale).2
    exact ⟨rfl, rfl, (List.cons.inj hrest).2⟩

theorem quotedText_append_inj {v v' : String} {bs bs' : List Char}
    (hbs : bs.head? ≠ some '\'') (hbs' : bs'.head? ≠ some '\'')
    (h : (quotedText v).toList ++ bs = (quotedText v').toList ++ bs') : v = v' ∧ bs = bs' := by
  have hcontent : ∀ {w : String} {cs : List Char}, cs.head? ≠ some '\'' →
      Quote.single.content ((quotedText w).toList ++ cs).tail = some (w.toList, cs) := by
    intro w cs hcs
    have hchars : ((quotedText w).toList ++ cs).tail
        = w.toList.flatMap escapeChar ++ Quote.single.char :: cs := by
      rw [quotedText_eq, String.toList_ofList]
      simp [Quote.char]
    rw [hchars]
    exact Quote.content_flatMap Quote.single_encodes_escapeChar w.toList hcs
  have heq := (hcontent hbs).symm.trans (h ▸ hcontent hbs')
  obtain ⟨hv, rfl⟩ := Prod.mk.inj (Option.some.inj heq)
  exact ⟨String.toList_inj.1 hv, rfl⟩

theorem listedText_append_inj {vs vs' : List String} {bs bs' : List Char}
    (h : listedText vs ++ ')' :: bs = listedText vs' ++ ')' :: bs') : vs = vs' ∧ bs = bs' := by
  have hhead : ∀ (vs : List String) (bs : List Char),
      (listedText vs ++ ')' :: bs).head? ≠ some '\'' := by
    intro vs bs
    cases vs <;> simp [listedText]
  induction vs generalizing vs' with
  | nil =>
    cases vs' with
    | nil => exact ⟨rfl, (List.cons.inj h).2⟩
    | cons v' vs' => exact absurd (List.cons.inj h).1 (by decide)
  | cons v vs ih =>
    cases vs' with
    | nil => exact absurd (List.cons.inj h).1 (by decide)
    | cons v' vs' =>
      simp only [listedText, List.flatMap_cons, List.cons_append, List.append_assoc] at h
      obtain ⟨rfl, hrest⟩ := quotedText_append_inj (hhead vs bs) (hhead vs' bs') (List.cons.inj h).2
      obtain ⟨rfl, rfl⟩ := ih hrest
      exact ⟨rfl, rfl⟩

theorem head?_modifierText {m : Option ColumnAttribute} : ∀ e ∈ (modifierText m).head?, e = ' ' := by
  intro e he
  cases m with
  | none => cases he
  | some m => exact (Option.some.inj he).symm

/-- What stands behind the name of a type does not begin with a letter. -/
theorem head?_boxed_append (params : Option (List Char)) (m : Option ColumnAttribute) :
    ∀ e ∈ (boxed params ++ modifierText m).head?, e.isUpper = false := by
  intro e he
  cases params with
  | none =>
    obtain rfl := head?_modifierText e he
    rfl
  | some cs =>
    obtain rfl : '(' = e := Option.some.inj he
    rfl

theorem modifierText_inj {c c' : Column}
    (h : modifierText c.typeModifier = modifierText c'.typeModifier) :
    c.typeModifier = c'.typeModifier := by
  have hword : ∀ m m' : ColumnAttribute,
      (Keyword.word m).toList = (Keyword.word m').toList → m = m' := by
    intro m m'
    cases m <;> cases m' <;> decide
  revert h
  generalize c.typeModifier = m, c'.typeModifier = m'
  intro h
  rcases m with _ | m <;> rcases m' with _ | m'
  · rfl
  · cases h
  · cases h
  · exact congrArg some (hword m m' (List.cons.inj h).2)

/-- What is in the parentheses, and what stands behind them, is told by the characters. -/
theorem boxed_append_inj {c c' : Column} {bs bs' : List Char} (hc : c.Agrees) (hc' : c'.Agrees)
    (htype : c.type = c'.type) (hbs : bs.head? ≠ some '(') (hbs' : bs'.head? ≠ some '(')
    (h : boxed (paramsText c) ++ bs = boxed (paramsText c') ++ bs') :
    c.length = c'.length ∧ c.scale = c'.scale ∧ c.values = c'.values ∧ bs = bs' := by
  by_cases hparams : c.type.params = .values
  · obtain ⟨hne, hlength, hscale⟩ := hc.listed hparams
    obtain ⟨hne', hlength', hscale'⟩ := hc'.listed (htype ▸ hparams)
    rw [paramsText, paramsText, if_pos hparams, if_pos (htype ▸ hparams)] at h
    have hlisted : listedText c.values ++ ')' :: bs = listedText c'.values ++ ')' :: bs' := by
      rw [← cons_joinWith_quotedText hne, ← cons_joinWith_quotedText hne']
      simpa [boxed] using h
    obtain ⟨hvalues, hrest⟩ := listedText_append_inj hlisted
    exact ⟨hlength.trans hlength'.symm, hscale.trans hscale'.symm, hvalues, hrest⟩
  · have hvalues : c.values = c'.values :=
      (hc.unlisted hparams).trans (hc'.unlisted (htype ▸ hparams)).symm
    rw [paramsText, paramsText, if_neg hparams, if_neg (htype ▸ hparams)] at h
    have hscale := hc.scaled
    have hscale' := hc'.scaled
    rcases hl : c.length with _ | n <;> rcases hl' : c'.length with _ | n' <;>
      simp only [hl, hl', Option.map_none, Option.map_some, boxed, List.nil_append] at h hscale hscale'
    · have hnone : c.scale = none := Classical.not_not.1 fun hs => hscale hs rfl
      have hnone' : c'.scale = none := Classical.not_not.1 fun hs => hscale' hs rfl
      exact ⟨rfl, hnone.trans hnone'.symm, hvalues, h⟩
    · exact absurd (congrArg List.head? h) hbs
    · exact absurd (congrArg List.head? h).symm hbs'
    · obtain ⟨rfl, hs, hrest⟩ : n = n' ∧ c.scale = c'.scale ∧ bs = bs' :=
        sizeText_append_inj (by simpa using h)
      exact ⟨rfl, hs, hvalues, hrest⟩

end Dialect

/-- **The text of a column type loses nothing.** Two accepted columns have the same text of their
types if and only if they have the same type, length, scale, values and attribute; the attribute
`ON UPDATE CURRENT_TIMESTAMP` counts as none. -/
theorem columnType_eq_iff {d d' : ColumnDraft} {c c' : Column} (h : d.column = .ok c)
    (h' : d'.column = .ok c') :
    Dialect.columnType c = Dialect.columnType c' ↔
      c.type = c'.type ∧ c.length = c'.length ∧ c.scale = c'.scale ∧ c.values = c'.values ∧
        c.typeModifier = c'.typeModifier := by
  rw [← String.toList_inj, Dialect.toList_columnType, Dialect.toList_columnType]
  constructor
  · intro htext
    obtain ⟨hname, hrest⟩ := Dialect.append_inj_of_all c.type.isUpper_of_mem_name
      c'.type.isUpper_of_mem_name (Dialect.head?_boxed_append _ _) (Dialect.head?_boxed_append _ _)
      htext
    have htype : c.type = c'.type := ColumnType.name_inj.1 (String.toList_inj.1 hname)
    have hparen : ∀ m, (Dialect.modifierText m).head? ≠ some '(' := fun m hm =>
      absurd (Dialect.head?_modifierText _ hm) (by decide)
    obtain ⟨hlength, hscale, hvalues, hmodifier⟩ := Dialect.boxed_append_inj
      (ColumnDraft.column_agrees h) (ColumnDraft.column_agrees h') htype (hparen _) (hparen _) hrest
    exact ⟨htype, hlength, hscale, hvalues, Dialect.modifierText_inj hmodifier⟩
  · rintro ⟨htype, hlength, hscale, hvalues, hmodifier⟩
    simp only [Dialect.paramsText, htype, hlength, hscale, hvalues, hmodifier]

/-- A list of two values, and a list of one value that holds what separates the two. -/
theorem columnType_listed_ne :
    ColumnDraft.column { type := .enum, values := [.text "a", .text "b"] }
        = .ok { type := .enum, values := ["a", "b"] } ∧
      ColumnDraft.column { type := .enum, values := [.text "a','b"] }
        = .ok { type := .enum, values := ["a','b"] } ∧
      Dialect.columnType { type := .enum, values := ["a", "b"] }
        ≠ Dialect.columnType { type := .enum, values := ["a','b"] } := by
  have two : ColumnDraft.column { type := .enum, values := [.text "a", .text "b"] }
      = .ok { type := .enum, values := ["a", "b"] } := rfl
  have one : ColumnDraft.column { type := .enum, values := [.text "a','b"] }
      = .ok { type := .enum, values := ["a','b"] } := rfl
  refine ⟨two, one, fun htext => ?_⟩
  obtain ⟨-, -, -, hvalues, -⟩ := (columnType_eq_iff two one).1 htext
  exact absurd hvalues (by decide)

end StoredSql
