import StoredSql.Proofs.FramedCalls
import StoredSql.Proofs.NameResolution

/-!
# Rows of triggers

A trigger sees the new row, the old one or both, as its event provides them, and it may write the new
row before its event only. What is read and what is written are looked up by different functions, from
the innermost scope of many; each scope has the rows of the one around it. So in a trigger that a
builder gives, whatever calls have failed on the way, each statement at any depth keeps to the rows
(`built_rows_kept`).
-/

namespace StoredSql

/-! ## Names of rows -/

/-- A variable of the session is no column of a row. -/
theorem Nesting.rowOf?_session {name row : String} (hsession : isSession name = true)
    (hrow : rowOf? name = some row) : ∃ cs, row.toList = '@' :: cs := by
  obtain ⟨cs, hcs⟩ := String.startsWith_string_iff.1 hsession
  have hcut : Text.cutFirstChars '.' name.toList =
      (Text.cutFirstChars '.' cs).map fun p => ('@' :: p.1, p.2) := by
    rw [← hcs]
    rfl
  unfold rowOf? Text.cutFirst at hrow
  rw [hcut, Option.map_map, Option.map_map] at hrow
  obtain ⟨p, _, rfl⟩ := Option.map_eq_some_iff.1 hrow
  refine ⟨p.1.flatMap Text.upperChar, ?_⟩
  rw [Function.comp_apply, Function.comp_apply, Text.upper, String.toList_ofList,
    String.toList_ofList]
  rfl

/-- Whether an event provides a row. -/
def TriggerEvent.Provides (event : TriggerEvent) (row : String) : Prop :=
  row = "NEW" ∧ (event = .insert ∨ event = .update) ∨
    row = "OLD" ∧ (event = .update ∨ event = .delete)

namespace ProgramHead

variable {timing : TriggerTiming} {event : TriggerEvent} {row : String}

/-- The rows that may be read are those that the event provides. -/
theorem mem_readable : row ∈ (rowAccess timing event).readable ↔ event.Provides row := by
  cases event <;> simp [rowAccess, TriggerEvent.Provides]

/-- Only the new row may be written, and that before the event, if it provides one. -/
theorem mem_writable : row ∈ (rowAccess timing event).writable ↔
    row = "NEW" ∧ timing = .before ∧ (event = .insert ∨ event = .update) := by
  cases timing <;> cases event <;> simp [rowAccess]

end ProgramHead

/-! ## Statements -/

variable {timing : TriggerTiming} {event : TriggerEvent} {s : Statement}

/-- Whether a statement uses the rows of a trigger only as its timing and its event allow. -/
structure Statement.KeepsRows (timing : TriggerTiming) (event : TriggerEvent) (s : Statement) :
    Prop where
  old : ∀ name ∈ s.targets, Nesting.rowOf? name ≠ some "OLD"
  new : ∀ name ∈ s.targets, Nesting.rowOf? name = some "NEW" →
    timing = .before ∧ (event = .insert ∨ event = .update)
  read : ∀ name ∈ s.references, Nesting.isSession name = false →
    ∀ row, Nesting.rowOf? name = some row → event.Provides row

/-- What is assigned to in a row stands in the new one, before the event. -/
theorem writes_rowAccess {name row : String}
    (h : Nesting.Writes (ProgramHead.rowAccess timing event) name)
    (hrow : Nesting.rowOf? name = some row) (hat : row.toList.head? ≠ some '@') :
    row = "NEW" ∧ timing = .before ∧ (event = .insert ∨ event = .update) := by
  rcases h with hsession | hwrites
  · obtain ⟨cs, hcs⟩ := Nesting.rowOf?_session hsession hrow
    exact absurd (congrArg List.head? hcs) hat
  · exact ProgramHead.mem_writable.1 (hwrites row hrow).2

theorem Statement.FindsRows.keepsRows (h : s.FindsRows (ProgramHead.rowAccess timing event)) :
    s.KeepsRows timing event where
  old name hname hrow := by
    exact absurd (writes_rowAccess (h.2 name hname) hrow (by decide)).1 (by decide)
  new name hname hrow := (writes_rowAccess (h.2 name hname) hrow (by decide)).2
  read name hname hsession row hrow := by
    rcases h.1 name hname with hsession' | hreads
    · cases hsession.symm.trans hsession'
    · exact ProgramHead.mem_readable.1 (hreads row hrow)

/-! ## Triggers -/

/-- **Triggers keep to their rows**, whatever calls have failed on the way: none of their statements
assigns to the old row, or to the new one but before an event that provides it, and each column of a
row that is read is one of a row that the event provides. -/
theorem built_rows_kept {name stem : String} {table : TableRef} {label : Operand} {b b' : Builder}
    {p : Program} (calls : List Call)
    (hb : Builder.start (.trigger name table timing event) label stem = .ok b)
    (hbuild : (b.run calls).build = (.ok p, b')) :
    ∃ t, p = .trigger t ∧ t.timing = timing ∧ t.event = event ∧
      (Statement.block t.body).Everywhere (Statement.KeepsRows timing event) := by
  have hrows := Program.everywhere findsRows_ensured calls hb hbuild
  have hp := Program.eq_program calls hb hbuild
  refine ⟨⟨name, table, timing, event, p.body⟩, hp, rfl, rfl, ?_⟩
  exact fun _ _ hs => (hrows hs).keepsRows

/-- Calls for a handler that writes the new row from the old one. To write the old row fails. -/
def rowsCopied : List Call := [
  .openHandler (.text "CONTINUE") [.notFound],
  .set "old.a" (.expr (.variable "NEW.a")) [],
  .set "New.a" (.expr (.variable "oLD.a")) [],
  .endHandler]

/-- What the handler does keeps to the rows. -/
theorem rowsCopied_kept : ∃ b p b' t levels s,
    Builder.start (.trigger "g" { name := "t" } .before .update) (.value .null)
        Builder.usualStem = .ok b ∧
      (b.run rowsCopied).build = (.ok p, b') ∧ p = .trigger t ∧
      Stands (.block t.body) levels s ∧ s.targets = ["New.a"] ∧ s.references = ["oLD.a"] ∧
      s.KeepsRows .before .update := by
  have hshape : ((Builder.start (.trigger "g" { name := "t" } .before .update) (.value .null)
      Builder.usualStem).toOption.any fun b => (b.run rowsCopied).build.1.toOption.any fun p =>
        p.body.statements.any fun h => h.held.any fun act => act.any fun block =>
          block.held.any fun body => body.any fun s =>
            s.targets == ["New.a"] && s.references == ["oLD.a"]) = true := by decide +kernel
  rcases hstart : Builder.start (.trigger "g" { name := "t" } .before .update) (.value .null)
    Builder.usualStem with e | b
  · rw [hstart] at hshape
    cases hshape
  rw [hstart] at hshape
  rcases hbuild : (b.run rowsCopied).build with ⟨e | p, b'⟩
  · simp only [hbuild, Except.toOption, Option.any_some, Option.any_none, Bool.false_eq_true] at hshape
  obtain ⟨t, rfl, _, _, hkept⟩ := built_rows_kept rowsCopied hstart hbuild
  simp only [hbuild, Except.toOption, Option.any_some, List.any_eq_true, Bool.and_eq_true,
    beq_iff_eq] at hshape
  obtain ⟨h, hh, act, hact, block, hblock, body, hbody, s, hs, htargets, hreferences⟩ := hshape
  obtain ⟨before, after, hstatements⟩ := List.append_of_mem hh
  obtain ⟨before', after', rfl⟩ := List.append_of_mem hblock
  obtain ⟨before'', after'', rfl⟩ := List.append_of_mem hs
  have hstands : Stands (.block t.body) _ s :=
    .inside (List.mem_singleton.2 hstatements.symm) (.inside hact (.inside hbody .here))
  exact ⟨b, _, b', t, _, s, rfl, hbuild, rfl, hstands, htargets, hreferences, hkept hstands⟩

end StoredSql
