import StoredSql.Profile
import StoredSql.Proofs.Rows
import StoredSql.Proofs.TextLines
import StoredSql.Rendering

/-!
# Programs as units

A client that splits its input at the delimiter sends a program as one unit. The delimiter does not
occur in the unit (`SentAs.chosen`), and in the unit with the delimiter behind it, it is found at
the end of the unit first just if it is so behind `END`, the last line of every unit
(`SentAs.alone`). All delimiters that are tried besides that of the dialect are found there
(`firstAt_candidates`); one that begins as `END` ends is found too early
(`doubledLetter_found_early`). A program is refused for want of a delimiter only where all of them
occur in it (`program_units`).
-/

namespace StoredSql

open Outcome Scan

/-! ## Lines -/

theorem Dialect.endWith_concat (text last : String) (ls : List String) :
    endWith text (ls ++ [last]) = ls ++ [last ++ text] := by
  induction ls with
  | nil => rfl
  | cons l ls ih =>
    obtain ⟨l', ls', e⟩ := List.exists_cons_of_ne_nil (l := ls ++ [last]) (by simp)
    rw [e] at ih
    rw [List.cons_append, List.cons_append, ← ih, e]
    rfl

/-- A text behind the last one of some lines is a text behind the lines. -/
theorem Dialect.joinWith_endWith {ls : List String} (h : ls ≠ []) (text : String) :
    Text.joinWith "\n" (endWith text ls) = Text.joinWith "\n" ls ++ text := by
  obtain ⟨ls, last, rfl⟩ : ∃ init last, ls = init ++ [last] :=
    ⟨ls.dropLast, ls.getLast h, (List.dropLast_concat_getLast h).symm⟩
  rw [endWith_concat]
  cases ls with
  | nil => rfl
  | cons l ls =>
    have hne : l :: ls ≠ [] := List.cons_ne_nil _ _
    rw [Text.joinWith_append hne (by simp), Text.joinWith_append hne (by simp)]
    simp only [Text.joinWith, String.append_assoc]

/-! ## The first place of a delimiter -/

/-- Whether the first place where a text occurs in another one is behind `n` characters. -/
def FirstAt (needle hay : List Char) (n : Nat) : Prop :=
  needle <+: hay.drop n ∧ ∀ m < n, ¬ needle <+: hay.drop m

instance (needle hay : List Char) (n : Nat) : Decidable (FirstAt needle hay n) :=
  inferInstanceAs (Decidable (_ ∧ _))

/-- Each delimiter that is tried is found behind `END`. -/
theorem firstAt_candidates : ∀ c ∈ Dialect.delimiterCandidates,
    FirstAt c.toList ("END" ++ c).toList 3 := by
  decide +kernel

/-- A text without line breaks that occurs across one occurs in front of it. -/
theorem prefix_of_prefix_break {needle lines rest : List Char} (hbreak : '\n' ∉ needle)
    (h : needle <+: lines ++ '\n' :: rest) : needle <+: lines := by
  obtain ⟨more, hmore⟩ := h
  obtain ⟨tail, hneedle, -⟩ | ⟨tail, hlines, hcut⟩ := List.append_eq_append_iff.1 hmore
  · exact ⟨tail, hneedle.symm⟩
  · cases tail with
    | nil => exact ⟨[], by simpa using hlines⟩
    | cons c tail =>
      obtain ⟨rfl, -⟩ := List.cons.inj hcut
      exact absurd (hlines ▸ List.mem_append_right _ (List.mem_cons_self ..)) hbreak

/-- A text without line breaks is found behind a unit as it is found behind the last line of the
unit, if it does not occur in the unit. -/
theorem firstAt_lastLine {delimiter lines last : List Char} (hbreak : '\n' ∉ delimiter)
    (hfree : ¬ delimiter <:+: lines ++ '\n' :: last) :
    FirstAt delimiter (lines ++ '\n' :: last ++ delimiter) (lines ++ '\n' :: last).length ↔
      FirstAt delimiter (last ++ delimiter) last.length := by
  have hlength : (lines ++ '\n' :: last).length = lines.length + 1 + last.length := by
    simp
    omega
  have hlater : ∀ m, (lines ++ '\n' :: last ++ delimiter).drop (lines.length + 1 + m)
      = (last ++ delimiter).drop m := by
    intro m
    have hsplit : lines ++ '\n' :: last ++ delimiter
        = (lines ++ ['\n']) ++ (last ++ delimiter) := by
      simp
    have hm : lines.length + 1 + m = (lines ++ ['\n']).length + m := by simp
    rw [hsplit, hm, List.drop_length_add_append]
  -- an occurrence that begins before the last line stays before it, and so within the unit
  have hearlier : ∀ m, m ≤ lines.length →
      ¬ delimiter <+: (lines ++ '\n' :: last ++ delimiter).drop m := by
    intro m hm hprefix
    rw [List.append_assoc, List.drop_append_of_le_length hm] at hprefix
    have hlines : delimiter <:+: lines :=
      (prefix_of_prefix_break hbreak hprefix).isInfix.trans (List.drop_suffix m lines).isInfix
    exact hfree (hlines.trans (List.prefix_append _ _).isInfix)
  constructor
  · rintro ⟨-, hfirst⟩
    refine ⟨by simp, fun m hm => ?_⟩
    rw [← hlater m]
    exact hfirst _ (by omega)
  · rintro ⟨-, hfirst⟩
    refine ⟨by simp, fun m hm => ?_⟩
    rcases Nat.lt_or_ge lines.length m with h | h
    · obtain ⟨k, rfl⟩ := Nat.exists_eq_add_of_le (Nat.succ_le_of_lt h)
      rw [hlater k]
      exact hfirst k (by omega)
    · exact hearlier m h

/-! ## Programs -/

namespace Dialect

/-- What removes an older procedure, and the lines in front of its body. -/
def procedureOpening (d : Dialect) (p : Procedure) (dropExisting : Bool) :
    Except Error (Option String × List String) := do
  let name ← d.qualifiedName p.name
  let parameters ← p.parameters.mapM fun q => d.parameterText q.mode q.name q.type
  pure (if dropExisting then some ("DROP PROCEDURE IF EXISTS " ++ name ++ ";") else none,
    ["CREATE PROCEDURE " ++ name ++ Shape.parenthesized (commas parameters)]
      ++ ((p.comment.map fun s => "COMMENT " ++ quotedText s).toList
        ++ partIf p.deterministic "DETERMINISTIC"))

/-- What removes an older trigger, and the line in front of its body. -/
def triggerOpening (d : Dialect) (t : Trigger) (dropExisting : Bool) :
    Except Error (Option String × List String) := do
  let name ← d.qualifiedName t.name
  let table ← d.tableName t.table.schema t.table.name
  pure (if dropExisting then some ("DROP TRIGGER IF EXISTS " ++ name ++ ";") else none,
    ["CREATE TRIGGER " ++ name ++ " " ++ Keyword.word t.timing ++ " " ++ Keyword.word t.event
      ++ " ON " ++ table ++ " FOR EACH ROW"])

theorem procedureText_eq (d : Dialect) (p : Procedure) (dropExisting : Bool) :
    d.procedureText p dropExisting
      = d.procedureOpening p dropExisting >>= fun o => d.programText o.1 o.2 p.body := by
  simp only [procedureText, procedureOpening, bind_assoc, pure_bind]

theorem triggerText_eq (d : Dialect) (t : Trigger) (dropExisting : Bool) :
    d.triggerText t dropExisting
      = d.triggerOpening t dropExisting >>= fun o => d.programText o.1 o.2 t.body := by
  simp only [triggerText, triggerOpening, bind_assoc, pure_bind]

end Dialect

/-- A text that changes the delimiter, sends a unit with it and changes it back. -/
structure SentAs (d : Dialect) (drop : Option String) (unit delimiter text : String) : Prop where
  layout : text = Text.joinWith "\n"
    (drop.toList ++ ["DELIMITER " ++ delimiter, unit ++ delimiter, "DELIMITER ;"])
  /-- The delimiter is the first one that does not occur in the unit, that of the dialect before the
  other ones. -/
  chosen : ¬ delimiter.toList <:+: unit.toList ∧
    ∃ before rest, d.delimiter :: Dialect.delimiterCandidates = before ++ delimiter :: rest ∧
      ∀ c ∈ before, c.toList <:+: unit.toList
  /-- The delimiter is found at the end of the unit first, if it is behind `END`. -/
  alone : FirstAt delimiter.toList (unit ++ delimiter).toList unit.toList.length ↔
    FirstAt delimiter.toList ("END" ++ delimiter).toList 3

/-- What a program with an opening and a body is written as. -/
structure WritesUnit (d : Dialect) (opening : Except Error (Option String × List String))
    (body : Block) (result : Except Error String) : Prop where
  sent : ∀ text, result = .ok text → ∃ drop header lines delimiter,
    opening = .ok (drop, header) ∧ d.blockLines 0 "" body = .ok lines ∧
      SentAs d drop (Text.joinWith "\n" (header ++ lines)) delimiter text
  refused : result = .error (.naming .noFreeDelimiter) ↔ ∃ drop header lines,
    opening = .ok (drop, header) ∧ d.blockLines 0 "" body = .ok lines ∧
      ∀ c ∈ d.delimiter :: Dialect.delimiterCandidates,
        c.toList <:+: (Text.joinWith "\n" (header ++ lines)).toList

theorem Text.occursIn_iff {needle hay : String} :
    occursIn needle hay = true ↔ needle.toList <:+: hay.toList := occursInChars_iff

theorem Dialect.chooseDelimiter_eq_ok {d : Dialect} {unit delimiter : String} :
    d.chooseDelimiter unit = .ok delimiter ↔ ¬ delimiter.toList <:+: unit.toList ∧
      ∃ before rest, d.delimiter :: delimiterCandidates = before ++ delimiter :: rest ∧
        ∀ c ∈ before, c.toList <:+: unit.toList := by
  have hfind : d.chooseDelimiter unit = .ok delimiter ↔
      (d.delimiter :: delimiterCandidates).find? (fun c => !Text.occursIn c unit)
        = some delimiter := by
    unfold chooseDelimiter
    cases (d.delimiter :: delimiterCandidates).find? fun c => !Text.occursIn c unit <;> simp
  rw [hfind, List.find?_eq_some_iff_append]
  simp only [Bool.not_eq_true', Bool.not_not, ← Text.occursIn_iff, Bool.not_eq_true]

theorem Dialect.chooseDelimiter_eq_error {d : Dialect} {unit : String} :
    d.chooseDelimiter unit = .error (.naming .noFreeDelimiter) ↔
      ∀ c ∈ d.delimiter :: delimiterCandidates, c.toList <:+: unit.toList := by
  have hfind : d.chooseDelimiter unit = .error (.naming .noFreeDelimiter) ↔
      (d.delimiter :: delimiterCandidates).find? (fun c => !Text.occursIn c unit) = none := by
    unfold chooseDelimiter
    cases (d.delimiter :: delimiterCandidates).find? fun c => !Text.occursIn c unit <;> simp
  rw [hfind, List.find?_eq_none]
  simp only [Bool.not_eq_true', Bool.not_eq_false, ← Text.occursIn_iff]

/-- A block fails for its texts and for its labels only. -/
theorem Dialect.yields_blockLines {d : Dialect} (hd : d.kind.complete = true) {E : Error → Prop}
    (hE : ∀ e, e.IsOfText → E e) (terminator : String) {b : Block}
    (hlabels : LabelsFail E (.block b :: b.nodes)) :
    Yields (fun _ => True) E (d.blockLines 0 terminator b) := by
  obtain ⟨statements, label, scope⟩ := b
  have hlayout : Layout (fun _ => True) .any fun _ _ => True := by
    constructor <;> intros <;> trivial
  have hdeep : RawRule.any.directive = true → (0 : Int) < 1 := fun _ => by decide
  have hbody : Yields (fun _ => True) E (d.bodyLines 1 statements) :=
    (laid_bodyLines hd (fun _ _ => trivial) hlayout hE (rawAll_any.2.1 statements) hlabels.tail
      hdeep).yields d.indent
  rw [blockLines]
  have hword : Led (fun _ => True) "BEGIN" := .word (by decide) (by decide)
  have hhead := head_labelled (.block ⟨statements, label, scope⟩) [] hword
  exact (hhead.mono hlabels.head).bind fun head _ => hbody.bind fun body _ => .pure trivial

/-- No label fails for want of a delimiter. -/
theorem labelsFail_isOfPart (ss : List Statement) : LabelsFail Error.IsOfPart ss := by
  rintro _ - l - e he rfl
  unfold Identifier.checkLabel Identifier.checkShownLabel at he
  split at he
  · cases he
  split at he <;> cases he

theorem Dialect.isOfText_procedureOpening {d : Dialect} (hd : d.kind.complete = true)
    (p : Procedure) (dropExisting : Bool) :
    Yields (fun _ => True) Error.IsOfText (d.procedureOpening p dropExisting) :=
  (woven_qualifiedName hd (fun _ => True) p.name).bind fun _ _ =>
    (Yields.mapM fun q _ => woven_parameterText hd (fun _ => True) q.mode q.name q.type).bind
      fun _ _ => .pure trivial

theorem Dialect.isOfText_triggerOpening {d : Dialect} (hd : d.kind.complete = true)
    (t : Trigger) (dropExisting : Bool) :
    Yields (fun _ => True) Error.IsOfText (d.triggerOpening t dropExisting) :=
  (woven_qualifiedName hd (fun _ => True) t.name).bind fun _ _ =>
    (woven_tableName hd (fun _ => True) t.table.schema t.table.name).bind fun _ _ => .pure trivial

/-- The last line of a body is its `END`, and another line is before it. -/
theorem Dialect.unit_eq_of_blockLines {d : Dialect} {b : Block} (header : List String)
    {ls : List String} (h : d.blockLines 0 "" b = .ok ls) : header ++ ls ≠ [] ∧
      ∃ lines, (Text.joinWith "\n" (header ++ ls)).toList = lines ++ '\n' :: "END".toList := by
  obtain ⟨statements, label, scope⟩ := b
  obtain ⟨head, body, -, -, rfl⟩ := blockLines_eq_ok.1 h
  have hpad : d.pad 0 ++ "END" ++ "" = "END" := by
    simp [pad, spaces]
  refine ⟨by simp, (Text.joinWith "\n" (header ++ (d.pad 0 ++ head) :: body)).toList, ?_⟩
  rw [hpad, ← List.cons_append, ← List.append_assoc, Text.joinWith_append (by simp) (by simp)]
  simp [Text.joinWith]

section
variable {d : Dialect} (hbreak : '\n' ∉ d.delimiter.toList)
include hbreak

theorem sentAs_of_programText {drop : Option String} {header lines : List String} {body : Block}
    {text : String} (hlines : d.blockLines 0 "" body = .ok lines)
    (h : d.programText drop header body = .ok text) :
    ∃ delimiter, SentAs d drop (Text.joinWith "\n" (header ++ lines)) delimiter text := by
  simp only [Dialect.programText, hlines, bind_eq_ok, pure_eq_ok, Except.ok.injEq,
    exists_eq_left'] at h
  obtain ⟨delimiter, hchosen, rfl⟩ := h
  obtain ⟨hne, before, hunit⟩ := Dialect.unit_eq_of_blockLines header hlines
  have hfree := Dialect.chooseDelimiter_eq_ok.1 hchosen
  have hbreak : '\n' ∉ delimiter.toList := by
    obtain ⟨-, before, rest, hlist, -⟩ := hfree
    have hmem : delimiter ∈ d.delimiter :: Dialect.delimiterCandidates := by
      rw [hlist]
      simp
    rcases List.mem_cons.1 hmem with rfl | hmem
    · exact hbreak
    · have hnone : ∀ c ∈ Dialect.delimiterCandidates, '\n' ∉ c.toList := by decide
      exact hnone delimiter hmem
  refine ⟨delimiter, ?_, hfree, ?_⟩
  · have hend : Dialect.endWith delimiter (header ++ lines) ≠ [] := by
      obtain ⟨l, ls, e⟩ := List.exists_cons_of_ne_nil hne
      rw [e]
      cases ls <;> simp [Dialect.endWith]
    have hsplit : ∀ unit : List String, unit ≠ [] →
        Text.joinWith "\n" (drop.toList ++ ["DELIMITER " ++ delimiter] ++ unit ++ ["DELIMITER ;"])
          = Text.joinWith "\n" (drop.toList ++ ["DELIMITER " ++ delimiter]) ++ "\n"
            ++ Text.joinWith "\n" unit ++ "\n" ++ "DELIMITER ;" := by
      intro unit hunit
      rw [Text.joinWith_append (by simp) (by simp), Text.joinWith_append (by simp) hunit]
      rfl
    have hone := hsplit [Text.joinWith "\n" (header ++ lines) ++ delimiter] (by simp)
    rw [Text.joinWith] at hone
    rw [hsplit _ hend, Dialect.joinWith_endWith hne, ← hone]
    simp
  · have hlast := hfree.1
    rw [hunit] at hlast
    simpa [String.toList_append, hunit] using firstAt_lastLine hbreak hlast

end

/-- The parts of a program, with what is promised of their errors. -/
theorem programs_of_opening {d : Dialect} (hd : d.kind.complete = true)
    (hbreak : '\n' ∉ d.delimiter.toList)
    {opening : Except Error (Option String × List String)} {body : Block}
    {result : Except Error String} (hopening : Yields (fun _ => True) Error.IsOfText opening)
    (hresult : result = opening >>= fun o => d.programText o.1 o.2 body) :
    WritesUnit d opening body result := by
  subst hresult
  have hbody := Dialect.yields_blockLines hd (fun _ h => h.isOfPart) ""
    (labelsFail_isOfPart (.block body :: body.nodes))
  cases opening with
  | error e =>
    exact ⟨nofun, fun h => absurd (Except.error.inj h) hopening.isOfPart, nofun⟩
  | ok o =>
    obtain ⟨drop, header⟩ := o
    have hprogram : (Except.ok (drop, header) >>= fun o => d.programText o.1 o.2 body)
        = d.programText drop header body := rfl
    rw [hprogram]
    cases hlines : d.blockLines 0 "" body with
    | error e =>
      have hfail : d.programText drop header body = .error e := by
        rw [Dialect.programText, hlines]
        rfl
      rw [hfail]
      rw [hlines] at hbody
      exact ⟨nofun, fun h => absurd (Except.error.inj h) hbody, fun ⟨_, _, _, _, h, _⟩ => by
        rw [hlines] at h
        cases h⟩
    | ok lines =>
      refine ⟨fun text h => ?_, ?_⟩
      · obtain ⟨delimiter, hsent⟩ := sentAs_of_programText hbreak hlines h
        exact ⟨drop, header, lines, delimiter, rfl, hlines, hsent⟩
      · have hchoice : d.programText drop header body = .error (.naming .noFreeDelimiter) ↔
            d.chooseDelimiter (Text.joinWith "\n" (header ++ lines))
              = .error (.naming .noFreeDelimiter) := by
          rw [Dialect.programText, hlines]
          show (d.chooseDelimiter (Text.joinWith "\n" (header ++ lines)) >>= fun _ => _) = _ ↔ _
          cases d.chooseDelimiter (Text.joinWith "\n" (header ++ lines)) with
          | ok delimiter => exact ⟨nofun, nofun⟩
          | error e => exact Iff.rfl
        rw [hchoice, Dialect.chooseDelimiter_eq_error]
        constructor
        · exact fun h => ⟨drop, header, lines, rfl, hlines, h⟩
        · rintro ⟨drop', header', lines', ho, hl, h⟩
          cases ho
          rw [hlines] at hl
          cases hl
          exact h

/-- **A program is one unit.** Where the delimiter of the dialect can be that of a profile, the text
of a procedure or a trigger sends its header and its body as one unit, with the first delimiter that
does not occur in it; there is none only if all of them do. -/
theorem program_units {d : Dialect} (hd : d.kind.complete = true) {name path : String}
    (hdelimiter : Profile.readDelimiter name path (.text d.delimiter) = .ok d.delimiter) :
    (∀ p dropExisting, WritesUnit d (d.procedureOpening p dropExisting) p.body
      (d.renderProcedure p dropExisting)) ∧
    ∀ t dropExisting, WritesUnit d (d.triggerOpening t dropExisting) t.body
      (d.renderTrigger t dropExisting) := by
  have hbreak : '\n' ∉ d.delimiter.toList := by
    intro hmem
    simp only [Outline.text, Profile.readDelimiter] at hdelimiter
    split at hdelimiter
    · cases hdelimiter
    split at hdelimiter
    · rename_i h
      have hblank : Text.hasBlank d.delimiter = true :=
        List.any_eq_true.2 ⟨'\n', hmem, by decide⟩
      simp [Statement.isDelimiter, hblank] at h
    · cases hdelimiter
  refine ⟨fun p dropExisting => ?_, fun t dropExisting => ?_⟩
  · refine programs_of_opening hd hbreak (Dialect.isOfText_procedureOpening hd p dropExisting) ?_
    rw [Dialect.renderProcedure, Dialect.orMissing, if_pos hd, Dialect.procedureText_eq]
  · refine programs_of_opening hd hbreak (Dialect.isOfText_triggerOpening hd t dropExisting) ?_
    rw [Dialect.renderTrigger, Dialect.orMissing, if_pos hd, Dialect.triggerText_eq]

/-- A procedure with the usual delimiter in its text. -/
def dollarProcedure : Procedure where
  name := "p"
  body := ⟨[.set [("@a", .literal (.text "$$"))]], none, none⟩

/-- The unit that the procedure is. -/
def dollarUnit : String := "CREATE PROCEDURE p()\nBEGIN\n  SET @a = '$$';\nEND"

/-- It is sent with another delimiter, which is found at its end. -/
theorem dollarProcedure_unit :
    Profile.readDelimiter "dev" "profiles.yaml" (.text "$$") = .ok "$$" ∧
      Dialect.renderProcedure {} dollarProcedure true
        = .ok ("DROP PROCEDURE IF EXISTS p;\nDELIMITER //\n" ++ dollarUnit ++ "//\nDELIMITER ;") ∧
      FirstAt "//".toList (dollarUnit ++ "//").toList dollarUnit.toList.length := by
  have hdelimiter : Profile.readDelimiter "dev" "profiles.yaml" (.text ({} : Dialect).delimiter)
      = .ok ({} : Dialect).delimiter := rfl
  have hrender : Dialect.renderProcedure {} dollarProcedure true
      = .ok ("DROP PROCEDURE IF EXISTS p;\nDELIMITER //\n" ++ dollarUnit ++ "//\nDELIMITER ;") := rfl
  have hprograms := (program_units (d := {}) rfl hdelimiter).1 dollarProcedure true
  obtain ⟨drop, header, lines, delimiter, ho, hl, hsent⟩ := hprograms.sent _ hrender
  cases ho
  cases hl
  have hchosen : Dialect.chooseDelimiter {} dollarUnit = .ok "//" := rfl
  obtain rfl := Except.ok.inj
    (hchosen.symm.trans (Dialect.chooseDelimiter_eq_ok.2 hsent.chosen))
  exact ⟨rfl, hrender, hsent.alone.2 (firstAt_candidates "//" (by decide))⟩

/-- A delimiter that begins as `END` ends is found one character before the end of the unit. -/
theorem doubledLetter_found_early :
    Profile.readDelimiter "dev" "profiles.yaml" (.text "DD") = .ok "DD" ∧
      Dialect.renderProcedure { delimiter := "DD" } dollarProcedure false
        = .ok ("DELIMITER DD\n" ++ dollarUnit ++ "DD\nDELIMITER ;") ∧
      ¬ "DD".toList <:+: dollarUnit.toList ∧
      FirstAt "DD".toList (dollarUnit ++ "DD").toList (dollarUnit.toList.length - 1) :=
  ⟨rfl, rfl, by decide +kernel, by decide +kernel⟩

end StoredSql
