import StoredSql.Text.Parts

/-!
# Lines of texts

Cutting a text at its line breaks and joining lines undo each other: a text is the join of its lines
(`joinWith_splitAll`), and the lines of joined texts are those of each of them (`splitAll_joinWith`).
-/

namespace StoredSql.Text

/-! ## Joining -/

theorem joinWith_append {sep : String} {ls ls' : List String} (h : ls ≠ []) (h' : ls' ≠ []) :
    joinWith sep (ls ++ ls') = joinWith sep ls ++ sep ++ joinWith sep ls' := by
  fun_induction joinWith sep ls with
  | case1 => exact absurd rfl h
  | case2 l =>
    obtain ⟨l', ls', rfl⟩ := List.exists_cons_of_ne_nil h'
    rfl
  | case3 l l' rest ih =>
    show l ++ sep ++ joinWith sep (l' :: rest ++ ls') = _
    rw [ih (List.cons_ne_nil _ _)]
    simp only [String.append_assoc]

theorem joinWith_splitAll (s : String) : joinWith "\n" (splitAll '\n' s) = s := by
  have hjoin : ∀ parts : List (List Char), joinWith "\n" (parts.map String.ofList)
      = String.ofList (joinChars '\n' parts) := by
    intro parts
    induction parts with
    | nil => rfl
    | cons part parts ih =>
      cases parts with
      | nil => rfl
      | cons part' parts =>
        have hcons : String.ofList (part ++ '\n' :: joinChars '\n' (part' :: parts))
            = String.ofList part ++ "\n" ++ String.ofList (joinChars '\n' (part' :: parts)) := by
          rw [← String.toList_inj]
          simp
        rw [joinChars, hcons, ← ih]
        rfl
  rw [splitAll, hjoin, joinChars_splitChars, String.ofList_toList]

/-! ## Cutting -/

theorem not_mem_of_mem_splitChars {sep : Char} {cs part : List Char}
    (h : part ∈ splitChars sep cs) : sep ∉ part := by
  induction cs generalizing part with
  | nil =>
    rw [splitChars, List.mem_singleton] at h
    simp [h]
  | cons c cs ih =>
    rw [splitChars] at h
    split at h
    · rename_i hnil
      exact absurd hnil (splitChars_ne_nil sep cs)
    · rename_i first rest hsplit
      rw [hsplit] at ih
      split at h
      · rcases List.mem_cons.1 h with rfl | h
        · simp
        · exact ih h
      · rename_i hc
        rcases List.mem_cons.1 h with rfl | h
        · have hfirst := ih List.mem_cons_self
          simp [hfirst, Ne.symm hc]
        · exact ih (List.mem_cons_of_mem _ h)

theorem splitChars_sep (sep : Char) (cs : List Char) :
    splitChars sep (sep :: cs) = [] :: splitChars sep cs := by
  obtain ⟨part, parts, hcs⟩ := List.exists_cons_of_ne_nil (splitChars_ne_nil sep cs)
  simp [splitChars, hcs]

theorem splitChars_cons {sep c : Char} (hc : c ≠ sep) {cs part : List Char}
    {parts : List (List Char)} (h : splitChars sep cs = part :: parts) :
    splitChars sep (c :: cs) = (c :: part) :: parts := by
  simp [splitChars, h, hc]

/-- What comes before the first cut is in front of the first part. -/
theorem splitChars_append {sep : Char} {as : List Char} (h : sep ∉ as) (bs : List Char) :
    ∃ first rest, splitChars sep bs = first :: rest ∧
      splitChars sep (as ++ bs) = (as ++ first) :: rest := by
  induction as with
  | nil =>
    obtain ⟨first, rest, hbs⟩ := List.exists_cons_of_ne_nil (splitChars_ne_nil sep bs)
    exact ⟨first, rest, hbs, hbs⟩
  | cons a as ih =>
    rw [List.mem_cons, not_or] at h
    obtain ⟨first, rest, hbs, hsplit⟩ := ih h.2
    exact ⟨first, rest, hbs, splitChars_cons (Ne.symm h.1) hsplit⟩

theorem splitChars_append_sep (sep : Char) (as bs : List Char) :
    splitChars sep (as ++ sep :: bs) = splitChars sep as ++ splitChars sep bs := by
  induction as with
  | nil => exact splitChars_sep sep bs
  | cons a as ih =>
    by_cases ha : a = sep
    · rw [ha, List.cons_append, splitChars_sep, splitChars_sep, ih, List.cons_append]
    · obtain ⟨part, parts, has⟩ := List.exists_cons_of_ne_nil (splitChars_ne_nil sep as)
      rw [has, List.cons_append] at ih
      rw [List.cons_append, splitChars_cons ha ih, splitChars_cons ha has, List.cons_append]

/-- What comes behind the last cut is behind the last part. -/
theorem splitChars_append_behind {sep : Char} (as : List Char) {bs : List Char} (h : sep ∉ bs) :
    ∃ init last, splitChars sep as = init ++ [last] ∧
      splitChars sep (as ++ bs) = init ++ [last ++ bs] := by
  induction as with
  | nil =>
    obtain ⟨first, rest, hnil, hsplit⟩ := splitChars_append h []
    obtain ⟨rfl, rfl⟩ := List.cons.inj hnil
    rw [List.append_nil] at hsplit
    exact ⟨[], [], rfl, hsplit⟩
  | cons a as ih =>
    obtain ⟨init, last, has, hsplit⟩ := ih
    by_cases ha : a = sep
    · refine ⟨[] :: init, last, ?_, ?_⟩
      · rw [ha, splitChars_sep, has, List.cons_append]
      · rw [ha, List.cons_append, splitChars_sep, hsplit, List.cons_append]
    · cases init with
      | nil => exact ⟨[], a :: last, splitChars_cons ha has, splitChars_cons ha hsplit⟩
      | cons part parts =>
        exact ⟨(a :: part) :: parts, last, splitChars_cons ha has, splitChars_cons ha hsplit⟩

theorem splitAll_joinWith {ls : List String} (h : ls ≠ []) :
    splitAll '\n' (joinWith "\n" ls) = ls.flatMap (splitAll '\n') := by
  fun_induction joinWith "\n" ls with
  | case1 => exact absurd rfl h
  | case2 l => rw [List.flatMap_singleton]
  | case3 l l' rest ih =>
    have hlist : (l ++ "\n" ++ joinWith "\n" (l' :: rest)).toList
        = l.toList ++ '\n' :: (joinWith "\n" (l' :: rest)).toList := by simp
    rw [List.flatMap_cons, ← ih (List.cons_ne_nil _ _), splitAll, hlist, splitChars_append_sep,
      List.map_append]
    rfl

theorem splitAll_of_unbroken {t : String} (h : '\n' ∉ t.toList) : splitAll '\n' t = [t] := by
  obtain ⟨first, rest, hnil, hsplit⟩ := splitChars_append h []
  obtain ⟨rfl, rfl⟩ := List.cons.inj hnil
  rw [List.append_nil] at hsplit
  rw [splitAll, hsplit, List.map_singleton, String.ofList_toList]

end StoredSql.Text
