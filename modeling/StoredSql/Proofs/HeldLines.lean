import StoredSql.Proofs.Places
import StoredSql.Proofs.Rows
import StoredSql.Proofs.TextLines

/-!
# Lines of what statements hold

The text of a statement has the texts of all statements that stand in it (`lines_stands`), deeper by
one or two levels for each statement around them. Only a handler that fits on one line moves what it
does, which loses the white space in front of it there (`Shown`).
-/

namespace StoredSql

open Outcome Text

/-! ## Parts of lines -/

namespace Text

theorem prefix_joinWith_append (ls ls' : List String) :
    (joinWith "\n" ls).toList <+: (joinWith "\n" (ls ++ ls')).toList := by
  cases ls with
  | nil => exact List.nil_prefix
  | cons l ls =>
    cases ls' with
    | nil => exact (List.append_nil (l :: ls)).symm ▸ List.prefix_rfl
    | cons l' ls' =>
      rw [joinWith_append (List.cons_ne_nil _ _) (List.cons_ne_nil _ _), String.toList_append,
        String.toList_append, List.append_assoc]
      exact List.prefix_append _ _

theorem suffix_append_joinWith (ls ls' : List String) :
    (joinWith "\n" ls').toList <:+ (joinWith "\n" (ls ++ ls')).toList := by
  cases ls' with
  | nil => exact List.nil_suffix
  | cons l' ls' =>
    cases ls with
    | nil => exact List.suffix_rfl
    | cons l ls =>
      rw [joinWith_append (List.cons_ne_nil _ _) (List.cons_ne_nil _ _), String.toList_append]
      exact List.suffix_append _ _

/-- What begins with no white space is no less a part of a text without the white space in front. -/
theorem trimStart_isInfix {s t : String} (h : (trimStart s).toList <:+: t.toList) :
    (trimStart s).toList <:+: (trimStart t).toList := by
  obtain ⟨as, bs, ht⟩ := h
  have hwhole : (trimStart t).toList
      = (as ++ ((trimStart s).toList ++ bs)).dropWhile isBlank := by
    rw [← List.append_assoc, ht, trimStart, String.toList_ofList, trimStartChars]
  rw [hwhole, List.dropWhile_append]
  split
  · -- nothing but white space is in front of the part
    cases hs : (trimStart s).toList with
    | nil => exact List.nil_infix
    | cons c cs =>
      have htrimmed : s.toList.dropWhile isBlank = c :: cs := by
        rw [← hs, trimStart, String.toList_ofList, trimStartChars]
      have hc := List.head_dropWhile_not isBlank (l := s.toList) (by simp [htrimmed])
      simp only [htrimmed, List.head_cons] at hc
      rw [List.cons_append, List.dropWhile_cons_of_neg (by simp [hc])]
      exact (List.prefix_append (c :: cs) bs).isInfix
  · exact ⟨_, bs, by rw [List.append_assoc]⟩

/-- Whether the text of some lines is a part of that of others, but for the white space in front. -/
def Shown (ls ls' : List String) : Prop :=
  (trimStart (joinWith "\n" ls)).toList <:+: (joinWith "\n" ls').toList

theorem Shown.of_isInfix {ls ls' : List String} (h : ls <:+: ls') : Shown ls ls' := by
  obtain ⟨as, bs, rfl⟩ := h
  obtain ⟨ws, _, htrim⟩ := trimStartChars_eq (joinWith "\n" ls).toList
  have hsuffix : (trimStart (joinWith "\n" ls)).toList <:+ (joinWith "\n" ls).toList := by
    rw [trimStart, String.toList_ofList]
    exact ⟨ws, htrim.symm⟩
  exact hsuffix.isInfix.trans ((suffix_append_joinWith as ls).isInfix.trans
    (prefix_joinWith_append (as ++ ls) bs).isInfix)

theorem Shown.trans {ls ls' ls'' : List String} (h : Shown ls ls') (h' : Shown ls' ls'') :
    Shown ls ls'' :=
  (trimStart_isInfix h).trans h'

end Text

/-! ## Statements in statements -/

namespace Dialect

variable {d : Dialect} {depth bodyDepth : Int} {ls : List String} {body : List Statement}

theorem bodyLines_mem {ss : List Statement} (h : d.bodyLines depth ss = .ok ls) {s : Statement}
    (hs : s ∈ ss) : ∃ own, d.lines depth s = .ok own ∧ own <:+: ls := by
  induction ss generalizing ls with
  | nil => cases hs
  | cons t ts ih =>
    simp only [bodyLines, bind_eq_ok, pure_eq_ok] at h
    obtain ⟨first, hfirst, rest, hrest, rfl⟩ := h
    rcases List.mem_cons.1 hs with rfl | hs
    · exact ⟨first, hfirst, (List.prefix_append first rest).isInfix⟩
    · obtain ⟨own, hown, hpart⟩ := ih hrest hs
      exact ⟨own, hown, hpart.trans (List.suffix_append first rest).isInfix⟩

theorem branchLines_held {branches : List IfBranch} {word : String}
    (h : d.branchLines depth word branches = .ok ls)
    (hbody : body ∈ branches.map (·.statements)) :
    ∃ own, d.bodyLines (depth + 1) body = .ok own ∧ own <:+: ls := by
  induction branches generalizing word ls with
  | nil => cases hbody
  | cons branch rest ih =>
    obtain ⟨test, statements⟩ := branch
    simp only [branchLines, bind_eq_ok, pure_eq_ok] at h
    obtain ⟨test, _, own, hown, others, hothers, rfl⟩ := h
    rcases List.mem_cons.1 hbody with rfl | hbody
    · exact ⟨own, hown, [_], others, rfl⟩
    · obtain ⟨own', hown', hpart⟩ := ih hothers hbody
      exact ⟨own', hown', hpart.trans ((List.suffix_append own others).trans
        (List.suffix_cons _ _)).isInfix⟩

theorem whenLines_held {whens : List CaseWhen} {searched : Bool}
    (h : d.whenLines depth searched whens = .ok ls)
    (hbody : body ∈ whens.map (·.statements)) :
    ∃ own, d.bodyLines (depth + 2) body = .ok own ∧ own <:+: ls := by
  induction whens generalizing ls with
  | nil => cases hbody
  | cons arm rest ih =>
    obtain ⟨test, statements⟩ := arm
    simp only [whenLines, bind_eq_ok, pure_eq_ok] at h
    obtain ⟨test, _, own, hown, others, hothers, rfl⟩ := h
    rcases List.mem_cons.1 hbody with rfl | hbody
    · exact ⟨own, hown, [_], others, rfl⟩
    · obtain ⟨own', hown', hpart⟩ := ih hothers hbody
      exact ⟨own', hown', hpart.trans ((List.suffix_append own others).trans
        (List.suffix_cons _ _)).isInfix⟩

theorem elseLines_held {otherwise : Option (List Statement)}
    (h : d.elseLines depth bodyDepth otherwise = .ok ls) (hbody : body ∈ otherwise.toList) :
    ∃ own, d.bodyLines bodyDepth body = .ok own ∧ own <:+: ls := by
  cases otherwise with
  | none => cases hbody
  | some ss =>
    obtain rfl := List.mem_singleton.1 hbody
    simp only [elseLines, bind_eq_ok, pure_eq_ok] at h
    obtain ⟨own, hown, rfl⟩ := h
    exact ⟨own, hown, (List.suffix_cons _ _).isInfix⟩

/-- What a handler does is shown by the handler. -/
theorem shown_handlerLines (header : String) (own : List String) :
    Shown own (handlerLines header own) := by
  match own with
  | [] => exact List.nil_infix
  | [line] =>
    show _ <:+: (header ++ " " ++ trimStart line).toList
    rw [String.toList_append]
    exact (List.suffix_append _ _).isInfix
  | _ :: _ :: _ => exact .of_isInfix (List.suffix_cons _ _).isInfix

/-- Each list of statements that a statement holds is shown by the statement, one or two levels
deeper. -/
theorem lines_held {s : Statement} (h : d.lines depth s = .ok ls) (hbody : body ∈ s.held) :
    ∃ (n : Nat) (own : List String), d.bodyLines (depth + n) body = .ok own ∧ Shown own ls := by
  have hbetween : ∀ {l l' : String} {own : List String}, own <:+: l :: (own ++ [l']) :=
    fun {l l' own} => ⟨[l], [l'], rfl⟩
  cases s with
  | declareHandler action conditions act =>
    obtain rfl := List.mem_singleton.1 hbody
    simp only [lines, bind_eq_ok, pure_eq_ok] at h
    obtain ⟨cs, _, own, hown, rfl⟩ := h
    refine ⟨1, own ++ [], ?_, ?_⟩
    · simp only [bodyLines, bind_eq_ok, pure_eq_ok]
      exact ⟨own, hown, [], rfl, rfl⟩
    · rw [List.append_nil]
      exact shown_handlerLines _ own
  | block b =>
    obtain ⟨statements, label, scope⟩ := b
    obtain rfl := List.mem_singleton.1 hbody
    rw [lines] at h
    obtain ⟨head, own, _, hown, rfl⟩ := blockLines_eq_ok.1 h
    exact ⟨1, own, hown, .of_isInfix hbetween⟩
  | ifElse branches otherwise =>
    simp only [lines, bind_eq_ok, pure_eq_ok] at h
    obtain ⟨rows, hrows, others, hothers, rfl⟩ := h
    rcases List.mem_append.1 hbody with hbody | hbody
    · obtain ⟨own, hown, hpart⟩ := branchLines_held hrows hbody
      exact ⟨1, own, hown, .of_isInfix (hpart.trans ⟨[], _, (List.append_assoc ..).symm⟩)⟩
    · obtain ⟨own, hown, hpart⟩ := elseLines_held hothers hbody
      exact ⟨1, own, hown, .of_isInfix (hpart.trans ⟨rows, _, rfl⟩)⟩
  | cases operand whens otherwise =>
    obtain ⟨head, rows, others, hrows, hothers, rfl⟩ := lines_cases_eq_ok h
    rcases List.mem_append.1 hbody with hbody | hbody
    · obtain ⟨own, hown, hpart⟩ := whenLines_held hrows hbody
      refine ⟨2, own, hown, .of_isInfix (hpart.trans ?_)⟩
      rw [List.append_assoc]
      exact ((List.prefix_append rows _).isInfix).trans (List.suffix_cons _ _).isInfix
    · obtain ⟨own, hown, hpart⟩ := elseLines_held hothers hbody
      exact ⟨2, own, hown, .of_isInfix (hpart.trans ⟨_ :: rows, [_], rfl⟩)⟩
  | loop label statements =>
    obtain rfl := List.mem_singleton.1 hbody
    simp only [lines, bind_eq_ok, pure_eq_ok] at h
    obtain ⟨head, _, own, hown, rfl⟩ := h
    exact ⟨1, own, hown, .of_isInfix hbetween⟩
  | whileLoop label test statements =>
    obtain rfl := List.mem_singleton.1 hbody
    simp only [lines, bind_eq_ok, pure_eq_ok] at h
    obtain ⟨test, _, head, _, own, hown, rfl⟩ := h
    exact ⟨1, own, hown, .of_isInfix hbetween⟩
  | repeatLoop label test statements =>
    obtain rfl := List.mem_singleton.1 hbody
    simp only [lines, bind_eq_ok, pure_eq_ok] at h
    obtain ⟨head, _, own, hown, test, _, rfl⟩ := h
    exact ⟨1, own, hown, .of_isInfix hbetween⟩
  | _ => cases hbody

/-- **All that stands in a statement is shown by it.** -/
theorem lines_stands {s t : Statement} {levels : List Level} (h : d.lines depth s = .ok ls)
    (ht : Stands s levels t) :
    ∃ (n : Nat) (own : List String), d.lines (depth + n) t = .ok own ∧ Shown own ls := by
  induction ht generalizing depth ls with
  | here => exact ⟨0, ls, by simpa using h, .of_isInfix List.infix_rfl⟩
  | inside hbody _ ih =>
    obtain ⟨m, rows, hrows, hshown⟩ := lines_held h hbody
    obtain ⟨own, hown, hpart⟩ := bodyLines_mem hrows (List.mem_append_right _ List.mem_cons_self)
    obtain ⟨n, own', hown', hshown'⟩ := ih hown
    refine ⟨m + n, own', ?_, (hshown'.trans (.of_isInfix hpart)).trans hshown⟩
    rwa [Int.natCast_add, ← Int.add_assoc]

/-- All that stands in a block is shown by the block, whatever ends it. -/
theorem blockLines_stands {b : Block} {terminator : String}
    (h : d.blockLines depth terminator b = .ok ls) {t : Statement} {levels : List Level}
    (ht : Stands (.block b) levels t) (hne : t ≠ .block b) :
    ∃ (n : Nat) (own : List String), d.lines (depth + 1 + n) t = .ok own ∧ Shown own ls := by
  obtain ⟨statements, label, scope⟩ := b
  obtain ⟨head, rows, _, hrows, rfl⟩ := blockLines_eq_ok.1 h
  cases ht with
  | here => exact absurd rfl hne
  | @inside _ u _ before after _ hbody hstands =>
    obtain rfl : before ++ u :: after = statements := List.mem_singleton.1 hbody
    obtain ⟨own, hown, hpart⟩ := bodyLines_mem hrows (List.mem_append_right _ List.mem_cons_self)
    obtain ⟨n, own', hown', hshown⟩ := lines_stands hown hstands
    exact ⟨n, own', hown', hshown.trans (.of_isInfix (hpart.trans ⟨[_], [_], rfl⟩))⟩

end Dialect
end StoredSql
