import StoredSql.Proofs.BuiltLabels
import StoredSql.Proofs.HeldLines
import StoredSql.Proofs.ProgramUnits
import StoredSql.Rendering

/-!
# Labels in the text of programs

What opens a construct is a label that can be written, but what is left or iterated only has to be
the same name as such a label. In a program that a builder gives, such a name can be written exactly
if the sign of the kelvin does not occur in it, whose lower case is that of a letter
(`built_labels_render`); where it occurs in none of them, no text of the program fails for a label.
-/

namespace StoredSql

open Outcome Scan

/-! ## Spellings of labels -/

namespace Identifier

variable {c : Char} {l t : String}

theorem toLower_of_beyond (h : ¬ c.val < 128) : c.toLower = c :=
  dif_neg fun hupper => h (UInt32.lt_of_le_of_lt hupper.2 (by decide))

/-- What is told of all characters from their ASCII ones, as case does not change the others. -/
theorem toLower_induction {P : Char → Char → Prop}
    (hascii : ∀ n, n < 128 → P (Char.ofNat n) (Char.ofNat n).toLower)
    (hbeyond : ∀ c : Char, ¬ c.val < 128 → P c c) (c : Char) : P c c.toLower := by
  by_cases h : c.val < 128
  · exact Text.forall_ascii (P := fun c => P c c.toLower) hascii h
  · rw [toLower_of_beyond h]
    exact hbeyond c h

theorem isStart_toLower (c : Char) : isStart c.toLower = isStart c :=
  toLower_induction (P := fun c d => isStart d = isStart c) (by decide) (fun _ _ => rfl) c

theorem isPart_toLower (c : Char) : isPart c.toLower = isPart c :=
  toLower_induction (P := fun c d => isPart d = isPart c) (by decide) (fun _ _ => rfl) c

theorem eq_of_toLower_eq_break (c : Char) : c.toLower = '\n' → c = '\n' :=
  toLower_induction (P := fun c d => d = '\n' → c = '\n') (by decide) (fun _ _ => id) c

/-- Case does not make a name plain. -/
theorem isPlainChars_toLower (cs : List Char) :
    isPlainChars (cs.map Char.toLower) = true ↔ isPlainChars cs = true := by
  cases cs with
  | nil => exact Iff.rfl
  | cons c cs =>
    have hparts : allUpToLineEnd isPart (cs.map Char.toLower) = true ↔
        allUpToLineEnd isPart cs = true :=
      ⟨allUpToLineEnd_of_map eq_of_toLower_eq_break fun c hc => (isPart_toLower c).symm.trans hc,
        allUpToLineEnd_map rfl fun c hc => (isPart_toLower c).trans hc⟩
    rw [List.map_cons, isPlainChars, isPlainChars, Bool.and_eq_true, Bool.and_eq_true,
      isStart_toLower, hparts]

theorem isAscii_of_isPlain (h : isPlain l = true) : Text.IsAscii l := by
  intro c hc
  rcases isPart_of_isPlainChars h c hc with hpart | rfl
  · exact val_lt_of_isPart hpart
  · decide

/-- Texts in ASCII that are the same name have the same upper case. -/
theorem upper_of_sameName (hl : Text.IsAscii l) (ht : Text.IsAscii t)
    (h : Text.sameName l t = true) : Text.upper l = Text.upper t := by
  have hupper : ∀ s : String, Text.IsAscii s →
      (Text.upper s).toList = (Text.lower s).toList.map Char.toUpper := by
    intro s hs
    rw [Text.toList_upper_ascii hs, Text.toList_lower_ascii hs, List.map_map]
    refine List.map_congr_left fun c hc => ?_
    exact Text.forall_ascii (P := fun c => c.toUpper = c.toLower.toUpper) (by decide) (hs c hc)
  refine String.toList_injective ?_
  rw [hupper l hl, hupper t ht, Text.sameName_iff.1 h]

/-- **Spellings of a label.** What is the same name as a label is one, unless it has the sign of the
kelvin in the place of a letter. -/
theorem checkLabel_of_sameName (ht : checkLabel t = .ok t) (h : Text.sameName l t = true) :
    checkLabel l = .ok l ↔ Text.kelvinSign ∉ l.toList := by
  obtain ⟨-, hplain, hreserved⟩ := checkLabel_eq_ok_iff.1 ht
  have hascii := isAscii_of_isPlain hplain
  constructor
  · intro hl hkelvin
    exact absurd (isAscii_of_isPlain (checkLabel_eq_ok_iff.1 hl).2.1 _ hkelvin) (by decide)
  · intro hkelvin
    have hl := Text.isAscii_of_sameName hascii h hkelvin
    refine checkLabel_eq_ok_iff.2 ⟨rfl, ?_, ?_⟩
    · rw [isPlain, ← isPlainChars_toLower, ← Text.toList_lower_ascii hl, Text.sameName_iff.1 h,
        Text.toList_lower_ascii hascii, isPlainChars_toLower]
      exact hplain
    · rw [isReserved, upper_of_sameName hl hascii h]
      exact hreserved

/-- A text with that sign is refused as one that is not plain. -/
theorem checkLabel_of_kelvinSign (h : Text.kelvinSign ∈ l.toList) :
    checkLabel l = .error (.naming (.labelNotPlain (Text.quoted l))) := by
  have hplain : isPlain l = false := Bool.eq_false_iff.2 fun hplain =>
    absurd (isAscii_of_isPlain hplain _ h) (by decide)
  rw [checkLabel, checkShownLabel, hplain]
  rfl

end Identifier

/-! ## Labels of programs -/

section

variable {root s : Statement} {levels : List Level} {l : String}

/-- What is left or iterated is, where labels fit, another spelling of a label that constructs can
have. -/
theorem exists_label_of_fits
    (hfits : ∀ levels t, Stands root levels t → LabelFits (levels.map (·.mark)) t)
    (h : Stands root levels s) (hs : s = .leave l ∨ s = .iterate l) :
    ∃ t, Identifier.checkLabel t = .ok t ∧ Text.sameName l t = true := by
  have hsees : ∃ kind t, Marks.Sees (levels.map (·.mark)) (kind, some t) ∧
      Text.sameName l t = true := by
    rcases hs with rfl | rfl
    · exact (hfits levels _ h).leaves l rfl
    · obtain ⟨t, hsees, hsame⟩ := (hfits levels _ h).iterates l rfl
      exact ⟨some .loop, t, hsees, hsame⟩
  obtain ⟨kind, t, hsees, hsame⟩ := hsees
  obtain ⟨level, ⟨between, beyond, rfl, -⟩, hmark⟩ := Level.seen_of_marks hsees
  have hlabel : level.holder.label? = some t := congrArg Prod.snd hmark
  exact ⟨t, (hfits beyond level.holder h.around).valid t hlabel, hsame⟩

end

/-! ## Texts of programs -/

/-- Whether a text is made of the lines of a block in steps that do not fail for a label. -/
def Dialect.Follows (d : Dialect) (b : Block) (text : Except Error String) : Prop :=
  ∃ (last : String) (rest : List String → Except Error String),
    text = d.blockLines 0 last b >>= rest ∧
      ∀ lines, Yields (fun _ => True) (fun e => ¬ e.IsOfLabel) (rest lines)

theorem Dialect.follows_programText (d : Dialect) (drop : Option String) (header : List String)
    (body : Block) : d.Follows body (d.programText drop header body) := by
  have hdelimiter : ∀ unit, Yields (fun _ => True) (fun e => ¬ e.IsOfLabel)
      (d.chooseDelimiter unit) := by
    intro unit
    unfold chooseDelimiter
    split
    · trivial
    · exact id
  exact ⟨"", _, rfl, fun lines => (hdelimiter _).bind fun _ _ => .pure trivial⟩

/-- The text of a program is made of the lines of its block, after an opening. -/
theorem Program.text_eq {d : Dialect} (hd : d.kind.complete = true) (terminator : String)
    (dropExisting : Bool) (p : Program) :
    ∃ (opening : Except Error (Option String × List String))
      (text : Option String × List String → Except Error String),
      d.renderProgram terminator dropExisting p = opening >>= text ∧
        Yields (fun _ => True) Error.IsOfText opening ∧ ∀ o, d.Follows p.body (text o) := by
  cases p with
  | block b =>
    refine ⟨.ok (none, []), fun _ => d.blockText b terminator, ?_, trivial,
      fun _ => ⟨terminator, _, rfl, fun _ => .pure trivial⟩⟩
    rw [Dialect.renderProgram, Dialect.renderBlock, Dialect.orMark, if_pos hd]
    rfl
  | procedure p =>
    refine ⟨_, _, ?_, Dialect.isOfText_procedureOpening hd p dropExisting,
      fun o => d.follows_programText o.1 o.2 p.body⟩
    rw [Dialect.renderProgram, Dialect.renderProcedure, Dialect.orMissing, if_pos hd,
      Dialect.procedureText_eq]
  | trigger t =>
    refine ⟨_, _, ?_, Dialect.isOfText_triggerOpening hd t dropExisting,
      fun o => d.follows_programText o.1 o.2 t.body⟩
    rw [Dialect.renderProgram, Dialect.renderTrigger, Dialect.orMissing, if_pos hd,
      Dialect.triggerText_eq]

/-- Where all its labels can be written, no text of a program fails for one. -/
theorem Program.yields_text {p : Program}
    (hlabels : ∀ l, (Statement.block p.body).Mentions l → Identifier.checkLabel l = .ok l)
    (d : Dialect) (terminator : String) (dropExisting : Bool) :
    Yields (fun _ => True) (fun e => ¬ e.IsOfLabel)
      (d.renderProgram terminator dropExisting p) := by
  by_cases hd : d.kind.complete = true
  · have heverywhere : (Statement.block p.body).Everywhere fun t =>
        ∀ l, t.Names l → Identifier.checkLabel l = .ok l :=
      fun levels t ht l hl => hlabels l ⟨levels, t, ht, hl⟩
    have hnodes := heverywhere.nodes
    rw [Statement.nodes] at hnodes
    have hfail : LabelsFail (fun e => ¬ e.IsOfLabel) (.block p.body :: p.body.nodes) := by
      intro t ht l hl e he
      cases (hnodes t ht l hl).symm.trans he
    obtain ⟨opening, text, heq, hopening, hfollows⟩ := text_eq hd terminator dropExisting p
    rw [heq]
    refine (hopening.mono fun _ h => h.notOfLabel).bind fun o _ => ?_
    obtain ⟨last, rest, htext, hrest⟩ := hfollows o
    rw [htext]
    exact (Dialect.yields_blockLines hd (fun _ h => h.notOfLabel) last hfail).bind fun lines _ =>
      hrest lines
  · cases p with
    | block b =>
      rw [Dialect.renderProgram, Dialect.renderBlock, Dialect.orMark, if_neg hd]
      trivial
    | procedure p =>
      rw [Dialect.renderProgram, Dialect.renderProcedure, Dialect.orMissing, if_neg hd]
      exact id
    | trigger t =>
      rw [Dialect.renderProgram, Dialect.renderTrigger, Dialect.orMissing, if_neg hd]
      exact id

/-- What is left or iterated in a program that has a text can be written. -/
theorem Program.checkLabel_of_text {p : Program} {d : Dialect} (hd : d.kind.complete = true)
    {terminator : String} {dropExisting : Bool} {text : String}
    (h : d.renderProgram terminator dropExisting p = .ok text) {levels : List Level}
    {s : Statement} {l : String} (hs : Stands (.block p.body) levels s)
    (hname : s = .leave l ∨ s = .iterate l) : Identifier.checkLabel l = .ok l := by
  obtain ⟨opening, made, heq, -, hfollows⟩ := text_eq hd terminator dropExisting p
  obtain ⟨o, -, ho⟩ := bind_eq_ok.1 (heq.symm.trans h)
  obtain ⟨last, rest, htext, -⟩ := hfollows o
  obtain ⟨ls, hls, -⟩ := bind_eq_ok.1 (htext.symm.trans ho)
  have hne : s ≠ .block p.body := by rcases hname with rfl | rfl <;> nofun
  obtain ⟨n, own, hown, _⟩ := Dialect.blockLines_stands hls hs hne
  have hlabel : ∃ l', Identifier.checkLabel l = .ok l' := by
    rcases hname with rfl | rfl
    all_goals
      rw [Dialect.lines] at hown
      obtain ⟨l', hl, _⟩ := bind_eq_ok.1 hown
      exact ⟨l', hl⟩
  obtain ⟨l', hl⟩ := hlabel
  rwa [(Identifier.checkLabel_eq_ok_iff.1 hl).1] at hl

/-- Which labels of a program can be written: those of blocks and loops, and what is left or iterated
unless the sign of the kelvin occurs in it. -/
structure LabelsWritten (p : Program) : Prop where
  opened : ∀ levels s l, Stands (.block p.body) levels s → s.label? = some l →
    Identifier.checkLabel l = .ok l
  named : ∀ levels s l, Stands (.block p.body) levels s → (s = .leave l ∨ s = .iterate l) →
    if Text.kelvinSign ∈ l.toList then
      Identifier.checkLabel l = .error (.naming (.labelNotPlain (Text.quoted l)))
    else Identifier.checkLabel l = .ok l
  /-- If it occurs in none of them, no text of the program fails for a label. -/
  renders : (∀ l, (Statement.block p.body).Mentions l → Text.kelvinSign ∉ l.toList) →
    ∀ (d : Dialect) terminator dropExisting e,
      d.renderProgram terminator dropExisting p = .error e → ¬ e.IsOfLabel
  /-- If it occurs in one of them, the program has no text. -/
  refused : ∀ l, (Statement.block p.body).Mentions l → Text.kelvinSign ∈ l.toList →
    ∀ d : Dialect, d.kind.complete = true → ∀ terminator dropExisting text,
      d.renderProgram terminator dropExisting p ≠ .ok text

/-- **Labels of programs can be written**, whatever calls have failed on the way, unless the sign of
the kelvin stands for a letter in what is left or iterated. -/
theorem built_labels_render {head : ProgramHead} {label : Operand} {stem : String} {b b' : Builder}
    {p : Program} (calls : List Call) (hb : Builder.start head label stem = .ok b)
    (hbuild : (b.run calls).build = (.ok p, b')) : LabelsWritten p := by
  have hfits := built_labelFits calls hb hbuild
  have hopened : ∀ levels s l, Stands (.block p.body) levels s → s.label? = some l →
      Identifier.checkLabel l = .ok l := fun levels s l hs hl => (hfits levels s hs).valid l hl
  have hnamed : ∀ levels s l, Stands (.block p.body) levels s → (s = .leave l ∨ s = .iterate l) →
      (Identifier.checkLabel l = .ok l ↔ Text.kelvinSign ∉ l.toList) := by
    intro levels s l hs hl
    obtain ⟨t, ht, hsame⟩ := exists_label_of_fits hfits hs hl
    exact Identifier.checkLabel_of_sameName ht hsame
  have hmentioned : ∀ l, (Statement.block p.body).Mentions l →
      Identifier.checkLabel l = .ok l ∨
        ∃ levels s, Stands (.block p.body) levels s ∧ (s = .leave l ∨ s = .iterate l) := by
    rintro l ⟨levels, s, hs, hname⟩
    cases hname with
    | label hl => exact .inl (hopened levels s l hs hl)
    | leave => exact .inr ⟨levels, _, hs, .inl rfl⟩
    | iterate => exact .inr ⟨levels, _, hs, .inr rfl⟩
  refine ⟨hopened, fun levels s l hs hl => ?_, fun hnone d terminator dropExisting e he => ?_,
    fun l hl hkelvin d hd terminator dropExisting text htext => ?_⟩
  · split
    · rename_i hkelvin
      exact Identifier.checkLabel_of_kelvinSign hkelvin
    · rename_i hkelvin
      exact (hnamed levels s l hs hl).2 hkelvin
  · have hlabels : ∀ l, (Statement.block p.body).Mentions l → Identifier.checkLabel l = .ok l := by
      intro l hl
      rcases hmentioned l hl with hlabel | ⟨levels, s, hs, hname⟩
      · exact hlabel
      · exact (hnamed levels s l hs hname).2 (hnone l hl)
    have htext := Program.yields_text hlabels d terminator dropExisting
    rw [he] at htext
    exact htext
  · have hlabel : Identifier.checkLabel l = .ok l := by
      rcases hmentioned l hl with hlabel | ⟨levels, s, hs, hname⟩
      · exact hlabel
      · exact Program.checkLabel_of_text hd htext hs hname
    rw [Identifier.checkLabel_of_kelvinSign hkelvin] at hlabel
    cases hlabel

/-- Calls for a loop with the label `k` that is left by the sign of the kelvin. -/
def kelvinLoop : List Call := [
  .openLoop (.value (.text "k")),
  .raw "SET @a = 1",
  .leave "\u212A",
  .endLoop]

/-- Whether a program is a loop in which something is done before it is left, by that label. -/
def Program.leavesLoopAfter (l : String) : Program → Bool
  | .block ⟨[.loop _ [_, .leave t]], _, _⟩ => t == l
  | _ => false

/-- **A label that cannot be written**: all calls succeed, and the program has no text. -/
theorem kelvinLoop_fails : ∃ p b',
    Builder.start .block (.value .null) Builder.usualStem = .ok emptyBuilder ∧
      (emptyBuilder.runAll kelvinLoop).1 = .ok () ∧
      (emptyBuilder.run kelvinLoop).build = (.ok p, b') ∧
      (Statement.block p.body).Mentions "\u212A" ∧
      Dialect.renderProgram {} ";" false p =
        .error (.naming (.labelNotPlain (Text.quoted "\u212A"))) := by
  have hcalls : (emptyBuilder.runAll kelvinLoop).1 = .ok () := by decide +kernel
  have hshape : (emptyBuilder.run kelvinLoop).build.1.toOption.any
      (·.leavesLoopAfter "\u212A") = true := by
    decide +kernel
  have hrender : (emptyBuilder.run kelvinLoop).build.1.toOption.map
      (Dialect.renderProgram {} ";" false) =
        some (.error (.naming (.labelNotPlain (Text.quoted "\u212A")))) := by
    decide +kernel
  rcases hbuild : (emptyBuilder.run kelvinLoop).build with ⟨e | p, b'⟩
  · rw [hbuild] at hshape
    cases hshape
  rw [hbuild] at hshape hrender
  have hloop : p.leavesLoopAfter "\u212A" = true := hshape
  refine ⟨p, b', rfl, hcalls, rfl, ?_, Option.some.inj hrender⟩
  unfold Program.leavesLoopAfter at hloop
  split at hloop
  · rename_i label s l body view
    have hl := beq_iff_eq.1 hloop
    subst hl
    have hleave : Stands (.loop label [s, .leave "\u212A"])
        [⟨.loop label [s, .leave "\u212A"], [s]⟩] (.leave "\u212A") :=
      @Stands.inside _ _ _ [s] [] [] (List.mem_singleton_self _) .here
    have hstands : Stands (.block ⟨[.loop label [s, .leave "\u212A"]], body, view⟩)
        [⟨.loop label [s, .leave "\u212A"], [s]⟩,
          ⟨.block ⟨[.loop label [s, .leave "\u212A"]], body, view⟩, []⟩] (.leave "\u212A") :=
      .inside (List.mem_singleton_self _) hleave
    exact ⟨_, _, hstands, .leave⟩
  · cases hloop

/-- Calls for a loop that is left by its label, in another case, and the labels of the program are
written. -/
theorem relabelled_written : ∃ p b',
    Builder.start .block (.value .null) Builder.usualStem = .ok emptyBuilder ∧
      (emptyBuilder.run relabelled).build = (.ok p, b') ∧ LabelsWritten p ∧
      Dialect.renderProgram {} ";" false p =
        .ok "BEGIN\n  again: LOOP\n    LEAVE Again;\n  END LOOP;\nEND;" := by
  have hrender : (emptyBuilder.run relabelled).build.1.toOption.map
      (Dialect.renderProgram {} ";" false) =
        some (.ok "BEGIN\n  again: LOOP\n    LEAVE Again;\n  END LOOP;\nEND;") := by
    decide +kernel
  rcases hbuild : (emptyBuilder.run relabelled).build with ⟨e | p, b'⟩
  · rw [hbuild] at hrender
    cases hrender
  rw [hbuild] at hrender
  have hstart : Builder.start .block (.value .null) Builder.usualStem = .ok emptyBuilder := rfl
  exact ⟨p, b', hstart, rfl, built_labels_render relabelled hstart hbuild, Option.some.inj hrender⟩

end StoredSql
