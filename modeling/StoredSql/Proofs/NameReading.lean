import StoredSql.Proofs.Cutting
import StoredSql.Proofs.NameText
import StoredSql.Proofs.TextReading

/-!
# Reading names back

An identifier is one token: a word that is not reserved, or a token in backticks. A dotted name is
read by cutting its text at the dots outside backticks and reading each part as a token. What a
complete dialect writes for a name is read as that name (`names_are_tokens`), but for one kind of
names: a word with a line end behind it passes for a word, since the test for plain names overlooks
the line end (`Identifier.EndsLine`, `lineEnd_overlooked`).
-/

namespace StoredSql

open Outcome

namespace Identifier

/-! ## Words -/

/-- Whether characters make up a word: letters, digits, underscores and dollar signs, with no digit
in front. -/
def isWordChars : List Char → Bool
  | [] => false
  | c :: cs => !c.isDigit && (c :: cs).all isPart

/-- `isWordChars` on strings. -/
def isWord (name : String) : Bool := isWordChars name.toList

/-- A name that is a word with a line end behind it. -/
def EndsLine (name : String) : Prop := ∃ word, isWord word = true ∧ name = word ++ "\n"

theorem allUpToLineEnd_iff {p : Char → Bool} {cs : List Char} : allUpToLineEnd p cs = true ↔
    cs.all p = true ∨ ∃ ds, ds.all p = true ∧ cs = ds ++ ['\n'] := by
  fun_induction allUpToLineEnd p cs with
  | case1 => simp
  | case2 => exact ⟨fun _ => .inr ⟨[], rfl, rfl⟩, fun _ => rfl⟩
  | case3 c cs hne ih =>
    rw [Bool.and_eq_true, ih, List.all_cons, Bool.and_eq_true]
    constructor
    · rintro ⟨hc, hcs | ⟨ds, hds, rfl⟩⟩
      · exact .inl ⟨hc, hcs⟩
      · exact .inr ⟨c :: ds, by rw [List.all_cons, hc, hds]; rfl, rfl⟩
    · rintro (⟨hc, hcs⟩ | ⟨ds, hds, hcut⟩)
      · exact ⟨hc, .inl hcs⟩
      · cases ds with
        | nil =>
          obtain ⟨rfl, rfl⟩ := List.cons.inj hcut
          exact absurd rfl (hne rfl)
        | cons d ds =>
          obtain ⟨rfl, rfl⟩ := List.cons.inj hcut
          rw [List.all_cons, Bool.and_eq_true] at hds
          exact ⟨hds.1, .inr ⟨ds, hds.2, rfl⟩⟩

/-- What a plain name starts with is what it goes on with and no digit. -/
theorem isStart_eq (c : Char) : isStart c = (!c.isDigit && isPart c) := by
  have hdigit : isStart c = true → c.isDigit = false := by
    intro h
    cases hd : c.isDigit with
    | false => rfl
    | true =>
      have hle : c.val ≤ '9'.val := of_decide_eq_true (Bool.and_eq_true_iff.1 hd).2
      have hge : '0'.val ≤ c.val := of_decide_eq_true (Bool.and_eq_true_iff.1 hd).1
      simp only [isStart, Bool.or_eq_true, beq_iff_eq] at h
      obtain (halpha | rfl) | rfl := h
      · have hcase : c.isUpper = true ∨ c.isLower = true := Bool.or_eq_true_iff.1 halpha
        rcases hcase with hu | hl
        · have hbounds : c.val ≥ 'A'.val ∧ c.val ≤ 'Z'.val := of_decide_eq_true hu
          exact absurd (UInt32.le_trans hbounds.1 hle) (by decide)
        · exact absurd (UInt32.le_trans (of_decide_eq_true (Bool.and_eq_true_iff.1 hl).1) hle)
            (by decide)
      · exact absurd hle (by decide)
      · exact absurd hge (by decide)
  rw [isPart]
  cases hs : isStart c with
  | true => rw [hdigit hs]; rfl
  | false => cases c.isDigit <;> rfl

theorem isPlainChars_iff {cs : List Char} : isPlainChars cs = true ↔
    isWordChars cs = true ∨ ∃ ds, isWordChars ds = true ∧ cs = ds ++ ['\n'] := by
  cases cs with
  | nil => simp [isPlainChars, isWordChars]
  | cons c cs =>
    have hword : ∀ ds, isWordChars (c :: ds) = true ↔ isStart c = true ∧ ds.all isPart = true := by
      intro ds
      rw [isWordChars, List.all_cons, ← Bool.and_assoc, ← isStart_eq, Bool.and_eq_true]
    rw [isPlainChars, Bool.and_eq_true, allUpToLineEnd_iff, hword]
    constructor
    · rintro ⟨hc, hcs | ⟨ds, hds, rfl⟩⟩
      · exact .inl ⟨hc, hcs⟩
      · exact .inr ⟨c :: ds, (hword ds).2 ⟨hc, hds⟩, rfl⟩
    · rintro (⟨hc, hcs⟩ | ⟨ds, hds, hcut⟩)
      · exact ⟨hc, .inl hcs⟩
      · cases ds with
        | nil => cases hds
        | cons d ds =>
          obtain ⟨rfl, rfl⟩ := List.cons.inj hcut
          obtain ⟨hc, hds⟩ := (hword ds).1 hds
          exact ⟨hc, .inr ⟨ds, hds, rfl⟩⟩

/-- The plain names are the words, with or without a line end behind them. -/
theorem isPlain_iff {name : String} : isPlain name = true ↔ isWord name = true ∨ EndsLine name := by
  rw [isPlain, isPlainChars_iff, isWord, EndsLine]
  refine or_congr_right ⟨fun ⟨ds, hds, h⟩ => ⟨String.ofList ds, ?_, ?_⟩, ?_⟩
  · rw [isWord, String.toList_ofList]
    exact hds
  · rw [← String.toList_inj, h]
    simp
  · rintro ⟨word, hword, rfl⟩
    exact ⟨word.toList, hword, by simp⟩

/-- A word is not empty, and all of its characters are parts of names. -/
theorem isPart_of_isWord {word : String} (h : isWord word = true) :
    word.toList ≠ [] ∧ ∀ c ∈ word.toList, isPart c = true := by
  rw [isWord, isWordChars.eq_def] at h
  split at h
  · cases h
  · rename_i c cs hcs
    rw [hcs]
    exact ⟨List.cons_ne_nil c cs, List.all_eq_true.1 (Bool.and_eq_true_iff.1 h).2⟩

/-- A plain name begins with a word. -/
theorem exists_word_of_isPlain {name : String} (h : isPlain name = true) :
    ∃ word rest, isWord word = true ∧ name = word ++ rest := by
  rcases isPlain_iff.1 h with hword | ⟨word, hword, rfl⟩
  · exact ⟨name, "", hword, String.append_empty.symm⟩
  · exact ⟨word, "\n", hword, rfl⟩

/-- No part of a name is white space. -/
theorem isBlank_of_isPart {c : Char} (h : isPart c = true) : Text.isBlank c = false :=
  Text.forall_ascii (P := fun c => isPart c = true → Text.isBlank c = false) (by decide)
    (Scan.val_lt_of_isPart h) h

/-- No reserved word ends with a line end. The last bytes are compared, as the words need not be
decoded for it. -/
theorem isReserved_of_endsLine {name : String} (h : EndsLine name) : isReserved name = false := by
  obtain ⟨word, -, rfl⟩ := h
  have hupper : Text.upper (word ++ "\n") = Text.upper word ++ "\n" := by
    simp only [Text.upper, String.toList_append, List.flatMap_append, String.ofList_append]
    rfl
  have hlast : (Text.upper word ++ "\n").toByteArray.data.toList.getLast? = some 10 := by
    simp only [String.toByteArray_append, ByteArray.data_append, Array.toList_append]
    rw [List.getLast?_append]
    rfl
  have hwords : ∀ r ∈ reservedWords, r.toByteArray.data.toList.getLast? ≠ some 10 := by
    decide +kernel
  rw [isReserved, List.contains_eq_mem, decide_eq_false_iff_not, hupper]
  exact fun hmem => hwords _ hmem hlast

/-- A word has no line end, and so does not end with one. -/
theorem not_isWord_of_endsLine {name : String} (h : EndsLine name) : isWord name = false := by
  obtain ⟨word, -, rfl⟩ := h
  cases hcs : (word ++ "\n").toList with
  | nil => rw [isWord, hcs]; rfl
  | cons c cs =>
    have hmem : '\n' ∈ c :: cs := by rw [← hcs]; simp
    have hall : (c :: cs).all isPart = false := List.all_eq_false.2 ⟨'\n', hmem, by decide⟩
    rw [isWord, hcs, isWordChars, hall, Bool.and_false]

/-! ## Tokens -/

/-- The name that a text is as one token: a word that is not reserved, or what is read in
backticks. -/
def readToken (t : String) : Option String :=
  match Quote.backtick.read t with
  | some (name, rest) => if rest = "" then some name else none
  | none => if isWord t = true ∧ isReserved t = false then some t else none

/-- Whether a reader of dotted names is within backticks behind a character. -/
def crossesBacktick (inside : Bool) (c : Char) : Bool := inside != (c == Dialect.backtick)

/-- Whether a character is a dot outside backticks. -/
def isOpenDot (inside : Bool) (c : Char) : Bool := !inside && c == '.'

/-- The parts of a text between the dots outside backticks. -/
def dotParts (t : String) : List String :=
  (Text.cutBy crossesBacktick isOpenDot false t.toList).map String.ofList

/-- The names that a text is, read as tokens with dots between them. -/
def readDotted (t : String) : Option (List String) := (dotParts t).mapM readToken

/-- How a name may stand in a text: as a word that is not reserved, or in backticks. -/
inductive IsToken (name : String) : String → Prop where
  | word (hw : isWord name = true) (hr : isReserved name = false) : IsToken name name
  | quoted {text : String} (h : Quote.backtick.read text = some (name, "")) : IsToken name text

theorem read_of_isPlain {name : String} (h : isPlain name = true) :
    Quote.backtick.read name = none := by
  rw [Quote.read]
  cases hcs : name.toList with
  | nil => rfl
  | cons c cs =>
    rw [isPlain, hcs, isPlainChars, Bool.and_eq_true] at h
    have hc : c ≠ Quote.backtick.char := by
      rintro rfl
      exact absurd h.1 (by decide)
    exact if_neg hc

/-- A text is read as a name just if the name may stand so. -/
theorem readToken_eq_some_iff {name text : String} :
    readToken text = some name ↔ IsToken name text := by
  constructor
  · intro h
    rw [readToken] at h
    split at h
    · rename_i hread
      split at h
      · rename_i hrest
        obtain rfl := Option.some.inj h
        rw [hrest] at hread
        exact .quoted hread
      · cases h
    · split at h
      · rename_i hword
        obtain rfl := Option.some.inj h
        exact .word hword.1 hword.2
      · cases h
  · intro h
    cases h with
    | word hw hr => rw [readToken, read_of_isPlain (isPlain_iff.2 (.inl hw)), if_pos ⟨hw, hr⟩]
    | quoted h =>
      rw [readToken, h]
      exact if_pos rfl

/-- A word with a line end behind it is not read. -/
theorem not_isToken_of_endsLine {name other : String} (h : EndsLine name) :
    ¬ IsToken other name := by
  rw [← readToken_eq_some_iff, readToken, read_of_isPlain (isPlain_iff.2 (.inr h)),
    not_isWord_of_endsLine h]
  simp

end Identifier

/-! ## Identifiers -/

open Identifier

section
variable {d : Dialect} (hd : d.kind.complete = true) {name text : String}
include hd

/-- How a complete dialect writes a name. -/
theorem identifier_cases (h : d.identifier name = .ok text) :
    (text = name ∧ isPlain name = true ∧ isReserved name = false) ∨
      text = String.ofList
        (Dialect.backtick :: (Dialect.doubleBackticks name.toList ++ [Dialect.backtick])) := by
  rw [Dialect.identifier] at h
  split at h
  · rw [Dialect.quoteIdentifier, if_pos hd] at h
    exact .inr (Dialect.eq_of_backquoted h)
  · rename_i hq
    rw [mustQuote, Bool.or_eq_true, Bool.not_eq_true', not_or, Bool.not_eq_false,
      Bool.not_eq_true] at hq
    exact .inl ⟨(Except.ok.inj h).symm, hq⟩

/-- A name is a token as it is written, unless it is a word with a line end behind it. -/
theorem isToken_of_identifier (h : d.identifier name = .ok text) (hname : ¬ EndsLine name) :
    IsToken name text := by
  obtain ⟨rfl, hplain, hreserved⟩ | rfl := identifier_cases hd h
  · exact .word ((isPlain_iff.1 hplain).resolve_right hname) hreserved
  · refine .quoted ?_
    have hread := Quote.read_encoded Quote.backtick_encodes_doubled name "" (by decide)
    rwa [String.append_empty] at hread

omit hd in
/-- A word with a line end behind it is written as it is, be it reserved or not. -/
theorem identifier_of_endsLine (h : EndsLine name) : d.identifier name = .ok name := by
  rw [Dialect.identifier, if_neg]
  rw [mustQuote, isPlain_iff.2 (.inr h), isReserved_of_endsLine h]
  decide

end

/-! ## Dotted names -/

/-- A text that the reader of dotted names leaves outside backticks without a stop. -/
def StandsAlone (text : String) : Prop :=
  Text.isUncut crossesBacktick isOpenDot false text.toList = true ∧
    text.toList.foldl crossesBacktick false = false

theorem standsAlone_of_isPlain {name : String} (h : isPlain name = true) : StandsAlone name := by
  have hchar : ∀ c ∈ name.toList, c ≠ '.' ∧ c ≠ Dialect.backtick := by
    intro c hc
    constructor <;> rintro rfl <;>
      exact absurd (Identifier.isPart_of_isPlainChars h _ hc) (by decide)
  have houtside : ∀ cs : List Char, (∀ c ∈ cs, c ≠ '.' ∧ c ≠ Dialect.backtick) →
      cs.foldl crossesBacktick false = false := by
    intro cs hcs
    induction cs with
    | nil => rfl
    | cons c cs ih =>
      have hc : crossesBacktick false c = false := by simp [crossesBacktick, (hcs c (by simp)).2]
      rw [List.foldl_cons, hc]
      exact ih fun d hd => hcs d (List.mem_cons_of_mem _ hd)
  exact ⟨Text.isUncut_of_forall fun c hc inside => by simp [isOpenDot, (hchar c hc).1],
    houtside _ hchar⟩

/-- Within backticks no dot is open, and doubled ones lead back into them. -/
theorem within_doubleBackticks (cs : List Char) :
    Text.isUncut crossesBacktick isOpenDot true (Dialect.doubleBackticks cs) = true ∧
      (Dialect.doubleBackticks cs).foldl crossesBacktick true = true := by
  induction cs with
  | nil => exact ⟨rfl, rfl⟩
  | cons c cs ih =>
    have hcons : Dialect.doubleBackticks (c :: cs)
        = (if c = Dialect.backtick then [c, c] else [c]) ++ Dialect.doubleBackticks cs := rfl
    have hc : Text.isUncut crossesBacktick isOpenDot true
          (if c = Dialect.backtick then [c, c] else [c]) = true ∧
        (if c = Dialect.backtick then [c, c] else [c]).foldl crossesBacktick true = true := by
      split
      · rename_i hc
        subst hc
        decide
      · rename_i hc
        simp [Text.isUncut, isOpenDot, crossesBacktick, hc]
    rw [hcons, Text.isUncut_append, List.foldl_append, hc.1, hc.2, ih.1, ih.2]
    exact ⟨rfl, rfl⟩

theorem standsAlone_backquoted (cs : List Char) : StandsAlone
    (String.ofList (Dialect.backtick :: (Dialect.doubleBackticks cs ++ [Dialect.backtick]))) := by
  obtain ⟨huncut, hwithin⟩ := within_doubleBackticks cs
  have hopen : crossesBacktick false Dialect.backtick = true := by decide
  rw [StandsAlone, String.toList_ofList, Text.isUncut, List.foldl_cons, hopen, Text.isUncut_append,
    List.foldl_append, huncut, hwithin]
  decide

/-- A text of parts with dots between them is cut into these. -/
theorem dotParts_joinWith {ts : List String} (hne : ts ≠ []) (h : ∀ t ∈ ts, StandsAlone t) :
    dotParts (Text.joinWith "." ts) = ts := by
  fun_induction Text.joinWith "." ts with
  | case1 => exact absurd rfl hne
  | case2 t => simp [dotParts, Text.cutBy_eq_singleton (h t (by simp)).1]
  | case3 t u rest ih =>
    obtain ⟨huncut, houtside⟩ := h t (by simp)
    have hstop : isOpenDot (t.toList.foldl crossesBacktick false) '.' = true := by
      rw [houtside]
      decide
    have htext : (t ++ "." ++ Text.joinWith "." (u :: rest)).toList
        = t.toList ++ '.' :: (Text.joinWith "." (u :: rest)).toList := by simp
    have hrest := ih (List.cons_ne_nil u rest) fun v hv => h v (List.mem_cons_of_mem _ hv)
    rw [dotParts] at hrest
    rw [dotParts, htext, Text.cutBy_append hstop, Text.cutBy_eq_singleton huncut, houtside,
      List.singleton_append, List.map_cons, String.ofList_toList]
    exact congrArg _ hrest

section
variable {d : Dialect} (hd : d.kind.complete = true)
include hd

theorem standsAlone_identifier {name text : String} (h : d.identifier name = .ok text) :
    StandsAlone text := by
  obtain ⟨rfl, hplain, -⟩ | rfl := identifier_cases hd h
  · exact standsAlone_of_isPlain hplain
  · exact standsAlone_backquoted _

/-- Names that are written one by one are read one by one, if none of them is a word with a line end
behind it. -/
theorem mapM_readToken {names ts : List String} (h : names.mapM d.identifier = .ok ts) :
    (∀ t ∈ ts, StandsAlone t) ∧
      (ts.mapM readToken = some names ↔ ∀ name ∈ names, ¬ EndsLine name) := by
  induction names generalizing ts with
  | nil =>
    obtain rfl := pure_eq_ok.1 h
    exact ⟨by simp, by simp⟩
  | cons name names ih =>
    simp only [List.mapM_cons, bind_eq_ok, pure_eq_ok] at h
    obtain ⟨t, ht, ts, hts, rfl⟩ := h
    obtain ⟨halone, hread⟩ := ih hts
    refine ⟨List.forall_mem_cons.2 ⟨standsAlone_identifier hd ht, halone⟩, ?_⟩
    rw [List.forall_mem_cons, ← hread, List.mapM_cons]
    constructor
    · intro h
      simp only [Option.bind_eq_bind, Option.bind_eq_some_iff, Option.pure_def, Option.some.injEq,
        List.cons.injEq] at h
      obtain ⟨_, htoken, _, hnames, rfl, rfl⟩ := h
      refine ⟨fun hname => ?_, hnames⟩
      obtain rfl := Except.ok.inj ((identifier_of_endsLine hname).symm.trans ht)
      exact not_isToken_of_endsLine hname (readToken_eq_some_iff.1 htoken)
    · rintro ⟨hname, hnames⟩
      rw [readToken_eq_some_iff.2 (isToken_of_identifier hd ht hname), hnames]
      rfl

end

/-- A dotted name has one text for each of its parts, of which there is at least one. -/
theorem texts_of_qualifiedName {d : Dialect} {name text : String}
    (h : d.qualifiedName name = .ok text) :
    ∃ ts, ts ≠ [] ∧ (Text.splitAll '.' name).mapM d.identifier = .ok ts ∧
      text = Text.joinWith "." ts := by
  simp only [Dialect.qualifiedName, bind_eq_ok, pure_eq_ok] at h
  obtain ⟨ts, hts, rfl⟩ := h
  refine ⟨ts, ?_, hts, rfl⟩
  rintro rfl
  cases hparts : Text.splitChars '.' name.toList with
  | nil => exact Text.splitChars_ne_nil '.' name.toList hparts
  | cons part parts =>
    simp only [Text.splitAll, hparts, List.map_cons, List.mapM_cons, bind_eq_ok, pure_eq_ok] at hts
    obtain ⟨_, -, _, -, hts⟩ := hts
    cases hts

/-- **A name is one token.** What a complete dialect writes for a name is the name itself, a word
that is not reserved, or a token in backticks that is read as the name; a dotted name is read as its
parts, and a label is a word that is not reserved. The only exception is a word with a line end
behind it: it counts as plain and is written as it is, also where the word is reserved. -/
theorem names_are_tokens {d : Dialect} (hd : d.kind.complete = true) :
    (∀ name text, d.identifier name = .ok text →
      (¬ EndsLine name → IsToken name text) ∧
        (EndsLine name → text = name ∧ ¬ IsToken name text)) ∧
    (∀ name text, d.qualifiedName name = .ok text →
      (readDotted text = some (Text.splitAll '.' name) ↔
        ∀ part ∈ Text.splitAll '.' name, ¬ EndsLine part)) ∧
    ∀ name label, checkLabel name = .ok label ↔
      label = name ∧ ((isWord name = true ∧ isReserved name = false) ∨ EndsLine name) := by
  refine ⟨fun name text h => ⟨isToken_of_identifier hd h, fun hname => ?_⟩, fun name text h => ?_,
    fun name label => ?_⟩
  · obtain rfl := Except.ok.inj ((identifier_of_endsLine hname).symm.trans h)
    exact ⟨rfl, not_isToken_of_endsLine hname⟩
  · obtain ⟨ts, hne, hts, rfl⟩ := texts_of_qualifiedName h
    obtain ⟨halone, hread⟩ := mapM_readToken hd hts
    rw [readDotted, dotParts_joinWith hne halone, hread]
  · rw [checkLabel_eq_ok_iff, isPlain_iff]
    refine and_congr_right fun _ => ?_
    constructor
    · rintro ⟨hword | hends, hreserved⟩
      · exact .inl ⟨hword, hreserved⟩
      · exact .inr hends
    · rintro (⟨hword, hreserved⟩ | hends)
      · exact ⟨.inl hword, hreserved⟩
      · exact ⟨.inr hends, isReserved_of_endsLine hends⟩

/-- Names with a backtick, with a dot between parts that need backticks, and a label. -/
theorem quotedNames_are_tokens :
    (Dialect.identifier {} "a`b." = .ok "`a``b.`" ∧ IsToken "a`b." "`a``b.`") ∧
    (Dialect.qualifiedName {} "db.1`.Select" = .ok "db.`1```.`Select`" ∧
      readDotted "db.`1```.`Select`" = some ["db", "1`", "Select"]) ∧
    (checkLabel "$loop_1" = .ok "$loop_1" ∧
      "$loop_1" = "$loop_1" ∧ ((isWord "$loop_1" = true ∧ isReserved "$loop_1" = false) ∨
        EndsLine "$loop_1")) := by
  obtain ⟨hname, hdotted, hlabel⟩ := names_are_tokens (d := {}) rfl
  have hends : ∀ name : String, '\n' ∉ name.toList → ¬ EndsLine name := by
    rintro _ h ⟨word, -, rfl⟩
    exact h (by simp)
  refine ⟨⟨rfl, (hname "a`b." _ rfl).1 (hends _ (by decide))⟩, ⟨rfl, ?_⟩, rfl, (hlabel _ _).1 rfl⟩
  refine (hdotted "db.1`.Select" _ rfl).2 fun part hpart => hends part ?_
  have hparts : ∀ part ∈ ["db", "1`", "Select"], '\n' ∉ part.toList := by decide
  exact hparts part hpart

/-- The line end behind a word is overlooked: the name is written as it is, though it is no word and
its word is reserved, and it is no token where it stands. -/
theorem lineEnd_overlooked :
    Dialect.identifier {} "select\n" = .ok "select\n" ∧ isWord "select\n" = false ∧
      Quote.backtick.read "select\n" = none ∧
      Dialect.qualifiedName {} "t.select\n" = .ok "t.select\n" ∧
      readDotted "t.select\n" = none ∧ checkLabel "select\n" = .ok "select\n" :=
  ⟨rfl, rfl, rfl, rfl, rfl, rfl⟩

end StoredSql
