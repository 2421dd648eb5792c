import StoredSql.Proofs.Quotes
import StoredSql.Text.Case
import StoredSql.Text.Parts

/-!
# Directives at the start of lines

A line whose first word is `DELIMITER`, in any case, changes the delimiter and is no part of a
statement. A text has such a line behind a line break only where one stands in it (`directiveFree`),
as long as texts are put together with something between them that ends a word and cannot begin the
directive (`Separates`), or where the second one begins with a word that the directive does not
begin with (`Leads`).
-/

namespace StoredSql.Quotes

/-! ## First words -/

/-- White space within a line. -/
def isGap (c : Char) : Bool := Text.isBlank c && c != '\n'

/-- The first word of the line that a text begins with. -/
def firstWord (cs : List Char) : List Char := (cs.dropWhile isGap).takeWhile (!Text.isBlank ·)

/-- The word that a directive begins with. -/
def directiveWord : List Char := "DELIMITER".toList

/-- Whether the line that a text begins with is a directive. -/
def isDirective (cs : List Char) : Bool := (firstWord cs).flatMap Text.upperChar == directiveWord

/-- What follows a text cannot change its first word, but for going on with it. -/
theorem firstWord_append (as bs : List Char) : firstWord (as ++ bs) = firstWord bs ∨
    firstWord (as ++ bs) = firstWord as ∨
    firstWord (as ++ bs) = firstWord as ++ bs.takeWhile (!Text.isBlank ·) := by
  unfold firstWord
  rw [List.dropWhile_append]
  split
  · exact .inl rfl
  · rw [List.takeWhile_append]
    split
    · rename_i hlength
      refine .inr (.inr ?_)
      rw [List.IsPrefix.eq_of_length (List.takeWhile_prefix _) hlength]
    · exact .inr (.inl rfl)

theorem firstWord_prefix_append (as bs : List Char) : firstWord as <+: firstWord (as ++ bs) := by
  unfold firstWord
  rw [List.dropWhile_append]
  split
  · rename_i hnil
    rw [List.isEmpty_iff.1 hnil]
    exact List.nil_prefix
  · rw [List.takeWhile_append]
    split
    · rename_i hlength
      rw [List.IsPrefix.eq_of_length (List.takeWhile_prefix _) hlength]
      exact List.prefix_append _ _
    · exact List.prefix_rfl

/-- What goes on with no word and begins with none leaves the first word as it is. -/
theorem firstWord_append_of_nil {as bs : List Char} (hfirst : firstWord bs = [])
    (hbs : bs.takeWhile (!Text.isBlank ·) = []) : firstWord (as ++ bs) = firstWord as := by
  obtain h | h | h := firstWord_append as bs
  · have hprefix := firstWord_prefix_append as bs
    rw [h, hfirst] at hprefix ⊢
    exact (List.prefix_nil.1 hprefix).symm
  · exact h
  · rw [h, hbs, List.append_nil]

theorem firstWord_append_break (as bs : List Char) : firstWord (as ++ '\n' :: bs) = firstWord as :=
  firstWord_append_of_nil rfl rfl

theorem firstWord_append_blanks (as : List Char) {ws : List Char}
    (h : ∀ c ∈ ws, Text.isBlank c = true) : firstWord (as ++ ws) = firstWord as := by
  have hnil : ∀ {cs : List Char}, cs ⊆ ws → cs.takeWhile (!Text.isBlank ·) = [] := by
    intro cs hcs
    cases cs with
    | nil => rfl
    | cons c cs => exact List.takeWhile_cons_of_neg (by simp [h c (hcs List.mem_cons_self)])
  exact firstWord_append_of_nil (hnil (List.dropWhile_subset _)) (hnil (List.Subset.refl _))

/-- A word at the start of a text, with white space behind it. -/
theorem firstWord_word {w : List Char} (hne : w ≠ []) (hw : ∀ c ∈ w, Text.isBlank c = false)
    {c : Char} (hc : Text.isBlank c = true) (cs : List Char) : firstWord (w ++ c :: cs) = w := by
  obtain ⟨d, ds, rfl⟩ := List.exists_cons_of_ne_nil hne
  have hd : ¬ isGap d = true := by simp [isGap, hw d List.mem_cons_self]
  rw [firstWord, List.cons_append, List.dropWhile_cons_of_neg hd, ← List.cons_append,
    List.takeWhile_append_of_pos (fun e he => by simp [hw e he]),
    List.takeWhile_cons_of_neg (by simp [hc]), List.append_nil]

theorem firstWord_gap {c : Char} (hc : isGap c = true) (cs : List Char) :
    firstWord (c :: cs) = firstWord cs := by
  rw [firstWord, List.dropWhile_cons_of_pos hc, firstWord]

theorem firstWord_gaps {ws : List Char} (h : ∀ c ∈ ws, isGap c = true) (cs : List Char) :
    firstWord (ws ++ cs) = firstWord cs := by
  rw [firstWord, List.dropWhile_append_of_pos h, firstWord]

theorem isDirective_gap {c : Char} (hc : isGap c = true) (cs : List Char) :
    isDirective (c :: cs) = isDirective cs := by
  rw [isDirective, firstWord_gap hc, isDirective]

theorem isDirective_gaps {ws : List Char} (h : ∀ c ∈ ws, isGap c = true) (cs : List Char) :
    isDirective (ws ++ cs) = isDirective cs := by
  rw [isDirective, firstWord_gaps h, isDirective]

theorem isDirective_break (cs : List Char) : isDirective ('\n' :: cs) = false := rfl

/-! ## Texts that begin no directive -/

/-- Whether the first word of a text is there and is no beginning of the directive. -/
def isFirm (cs : List Char) : Bool :=
  !((firstWord cs).flatMap Text.upperChar).isPrefixOf directiveWord

theorem not_isDirective_of_isFirm {as : List Char} (h : isFirm as = true) (bs : List Char) :
    isDirective (as ++ bs) = false := by
  rw [isDirective, beq_eq_false_iff_ne]
  intro he
  obtain ⟨more, hmore⟩ := firstWord_prefix_append as bs
  rw [← hmore, List.flatMap_append] at he
  have hprefix : ((firstWord as).flatMap Text.upperChar).isPrefixOf directiveWord = true :=
    List.isPrefixOf_iff_prefix.2 ⟨_, he⟩
  rw [isFirm, hprefix] at h
  cases h

/-- Whether a text cannot go on with a word of the directive. -/
def breaksWord : List Char → Bool
  | [] => false
  | c :: _ => Text.isBlank c || !(Text.upperChar c).all directiveWord.contains

/-- Whether a line does not become a directive by what follows it. -/
def Apart (bs : List Char) : Prop := ∀ as, isDirective as = false → isDirective (as ++ bs) = false

theorem apart_of_breaksWord {bs : List Char} (hbreaks : breaksWord bs = true)
    (hbs : isDirective bs = false) : Apart bs := by
  intro as has
  cases bs with
  | nil => cases hbreaks
  | cons c bs =>
    rw [breaksWord, Bool.or_eq_true] at hbreaks
    obtain h | h | h := firstWord_append as (c :: bs)
    · rw [isDirective, h]
      exact hbs
    · rw [isDirective, h]
      exact has
    · rcases hbreaks with hc | hc
      · rw [List.takeWhile_cons_of_neg (by simp [hc]), List.append_nil] at h
        rw [isDirective, h]
        exact has
      · by_cases hblank : Text.isBlank c = true
        · rw [List.takeWhile_cons_of_neg (by simp [hblank]), List.append_nil] at h
          rw [isDirective, h]
          exact has
        · rw [isDirective, h, List.takeWhile_cons_of_pos (by simp [hblank]), beq_eq_false_iff_ne]
          intro he
          rw [Bool.not_eq_true', ← Bool.not_eq_true, List.all_eq_true] at hc
          refine hc fun u hu => List.contains_iff_mem.2 ?_
          rw [← he]
          exact List.mem_flatMap.2 ⟨c, by simp, hu⟩

theorem apart_break (bs : List Char) : Apart ('\n' :: bs) := apart_of_breaksWord rfl rfl

/-- What may stand in front of any text, as no line begins in it and none that begins with it is a
directive. -/
structure Heads (w : String) : Prop where
  firm : isFirm w.toList = true
  unbroken : '\n' ∉ w.toList

instance (w : String) : Decidable (Heads w) :=
  decidable_of_iff (isFirm w.toList = true ∧ '\n' ∉ w.toList)
    ⟨fun h => ⟨h.1, h.2⟩, fun h => ⟨h.firm, h.unbroken⟩⟩

/-- What may stand between any two texts: the second one does not go on with a word of the first one
either. -/
structure Separates (g : String) : Prop extends Heads g where
  breaks : breaksWord g.toList = true

instance (g : String) : Decidable (Separates g) :=
  decidable_of_iff (Heads g ∧ breaksWord g.toList = true)
    ⟨fun h => ⟨h.1, h.2⟩, fun h => ⟨h.toHeads, h.breaks⟩⟩

theorem Heads.ne_nil {w : String} (h : Heads w) : w.toList ≠ [] := by
  intro hnil
  have hfirm := h.firm
  rw [hnil] at hfirm
  cases hfirm

/-- A text that begins with what may stand in front of any text. -/
def Begins (t : String) : Prop := ∃ u v, t = u ++ v ∧ Heads u

theorem Begins.not_isDirective {t : String} (h : Begins t) : isDirective t.toList = false := by
  obtain ⟨u, v, rfl, hu⟩ := h
  rw [String.toList_append]
  exact not_isDirective_of_isFirm hu.firm _

theorem begins_parenthesized (t : String) : Begins (Shape.parenthesized t) :=
  ⟨"(", t ++ ")", String.append_assoc, by decide⟩

theorem Separates.apart {g : String} (h : Separates g) (bs : List Char) :
    Apart (g.toList ++ bs) := by
  refine apart_of_breaksWord ?_ (not_isDirective_of_isFirm h.firm bs)
  have hbreaks := h.breaks
  cases hg : g.toList with
  | nil => rw [hg] at hbreaks; cases hbreaks
  | cons c cs => rw [hg] at hbreaks; exact hbreaks

/-! ## Line breaks outside quotes -/

/-- Whether no line that begins behind a line break outside quotes is a directive. -/
def directiveFree : Place → List Char → Bool
  | _, [] => true
  | p, c :: cs =>
    (c != '\n' || p ≠ .outside || !isDirective cs) && directiveFree (step p c) cs

theorem directiveFree_append {p : Place} {as bs : List Char} (ha : directiveFree p as = true)
    (hb : directiveFree (after p as) bs = true) (hapart : Apart bs) :
    directiveFree p (as ++ bs) = true := by
  induction as generalizing p with
  | nil => exact hb
  | cons a as ih =>
    rw [directiveFree, Bool.and_eq_true] at ha
    rw [List.cons_append, directiveFree, Bool.and_eq_true]
    refine ⟨?_, ih ha.2 hb⟩
    have hfirst := ha.1
    simp only [Bool.or_eq_true, Bool.not_eq_true'] at hfirst ⊢
    exact hfirst.imp_right fun h => hapart as h

/-- Without a line break outside quotes there is nothing to ask. -/
theorem directiveFree_of_unquoted {p : Place} {as : List Char}
    (ha : ∀ c ∈ unquoted p as, c ≠ '\n') {bs : List Char}
    (hb : directiveFree (after p as) bs = true) : directiveFree p (as ++ bs) = true := by
  induction as generalizing p with
  | nil => exact hb
  | cons a as ih =>
    rw [unquoted] at ha
    have hstep : directiveFree (step p a) (as ++ bs) = true := by
      refine ih (fun c hc => ha c ?_) hb
      split
      · exact List.mem_cons_of_mem _ hc
      · exact hc
    rw [List.cons_append, directiveFree, Bool.and_eq_true]
    refine ⟨?_, hstep⟩
    by_cases hp : p = .outside ∧ Quote.ofChar? a = none
    · rw [if_pos hp] at ha
      have hne := ha a List.mem_cons_self
      simp [hne]
    · by_cases ha' : a = '\n'
      · subst ha'
        have hp : p ≠ .outside := fun h => hp ⟨h, rfl⟩
        simp [hp]
      · simp [ha']

/-- Every line that begins behind a line break outside quotes is asked about. -/
theorem directiveFree_iff {p : Place} {cs : List Char} : directiveFree p cs = true ↔
    ∀ before rest, cs = before ++ '\n' :: rest → after p before = .outside →
      isDirective rest = false := by
  induction cs generalizing p with
  | nil => simp [directiveFree]
  | cons c cs ih =>
    rw [directiveFree, Bool.and_eq_true, ih]
    constructor
    · rintro ⟨hfirst, hrest⟩ before rest hsplit hbefore
      cases before with
      | nil =>
        obtain ⟨rfl, rfl⟩ := List.cons.inj hsplit
        obtain rfl : p = .outside := hbefore
        simpa using hfirst
      | cons b before =>
        obtain ⟨rfl, rfl⟩ := List.cons.inj hsplit
        exact hrest before rest rfl hbefore
    · intro h
      refine ⟨?_, fun before rest hsplit hbefore => h (c :: before) rest ?_ hbefore⟩
      · by_cases hc : c = '\n'
        · by_cases hp : p = .outside
          · have hnone := h [] cs (by rw [hc]; rfl) hp
            simp [hnone]
          · simp [hp]
        · simp [hc]
      · rw [hsplit, List.cons_append]

theorem directiveFree_suffix {p : Place} {as bs : List Char}
    (h : directiveFree p (as ++ bs) = true) : directiveFree (after p as) bs = true := by
  induction as generalizing p with
  | nil => exact h
  | cons a as ih =>
    rw [List.cons_append, directiveFree, Bool.and_eq_true] at h
    exact ih h.2

theorem directiveFree_of_unbroken {p : Place} {cs : List Char} (h : '\n' ∉ cs) :
    directiveFree p cs = true := by
  rw [directiveFree_iff]
  rintro before rest rfl
  exact absurd (by simp) h

/-- White space in front of a text that is read outside quotes is nothing to it. -/
theorem directiveFree_blanks {ws cs : List Char} (hws : ∀ c ∈ ws, Text.isBlank c = true) :
    isDirective (ws ++ cs) = false ∧ directiveFree .outside (ws ++ cs) = true ↔
      isDirective cs = false ∧ directiveFree .outside cs = true := by
  induction ws with
  | nil => rfl
  | cons c ws ih =>
    rw [← ih fun d hd => hws d (List.mem_cons_of_mem _ hd), List.cons_append, directiveFree,
      step_outside_of_isBlank (hws c List.mem_cons_self)]
    by_cases hc : c = '\n'
    · subst hc
      simp [isDirective_break]
    · have hgap : isGap c = true := by simp [isGap, hws c List.mem_cons_self, hc]
      simp [isDirective_gap hgap, hc]

/-! ## Lines one after the other -/

/-- Whether no line that is read outside quotes is a directive, of lines with a line break behind
each of them. Lines may have line breaks within. -/
def linesFree : Place → List (List Char) → Bool
  | _, [] => true
  | p, l :: ls =>
    (p ≠ .outside || !isDirective l) && directiveFree p l && linesFree (step (after p l) '\n') ls

/-- Where a reader stands behind lines and their line breaks. -/
def afterLines : Place → List (List Char) → Place
  | p, [] => p
  | p, l :: ls => afterLines (step (after p l) '\n') ls

theorem linesFree_append {p : Place} {as bs : List (List Char)} : linesFree p (as ++ bs) = true ↔
    linesFree p as = true ∧ linesFree (afterLines p as) bs = true := by
  induction as generalizing p with
  | nil => simp [linesFree, afterLines]
  | cons a as ih => simp [linesFree, afterLines, ih, and_assoc]

theorem afterLines_append {p : Place} {as bs : List (List Char)} :
    afterLines p (as ++ bs) = afterLines (afterLines p as) bs := by
  induction as generalizing p with
  | nil => rfl
  | cons a as ih => exact ih

/-- Lines that close their quotes, of which none is a directive. -/
structure Lined (ls : List (List Char)) : Prop where
  free : linesFree .outside ls = true
  closed : afterLines .outside ls = .outside

namespace Lined

variable {as bs : List (List Char)}

theorem nil : Lined [] := ⟨rfl, rfl⟩

theorem append (ha : Lined as) (hb : Lined bs) : Lined (as ++ bs) where
  free := by
    rw [linesFree_append, ha.closed]
    exact ⟨ha.free, hb.free⟩
  closed := by rw [afterLines_append, ha.closed, hb.closed]

theorem cons {l : List Char} (hl : Lined [l]) (hb : Lined bs) : Lined (l :: bs) := hl.append hb

end Lined

theorem lined_singleton {cs : List Char} : Lined [cs] ↔ isDirective cs = false ∧
    directiveFree .outside cs = true ∧ after .outside cs = .outside := by
  constructor
  · rintro ⟨hfree, hclosed⟩
    simp only [linesFree, ne_eq, not_true_eq_false, decide_false, Bool.false_or, Bool.and_true,
      Bool.and_eq_true, Bool.not_eq_true'] at hfree
    exact ⟨hfree.1, hfree.2, eq_outside_of_step (by decide) hclosed⟩
  · rintro ⟨hfirst, hfree, hclosed⟩
    refine ⟨by simp [linesFree, hfirst, hfree], ?_⟩
    rw [afterLines, hclosed]
    rfl

/-- What holds of the lines holds of the text that they are joined to. -/
theorem directiveFree_joinWith {p : Place} {ls : List String}
    (h : linesFree p (ls.map String.toList) = true) :
    (p = .outside → isDirective (Text.joinWith "\n" ls).toList = false) ∧
      directiveFree p (Text.joinWith "\n" ls).toList = true := by
  induction ls generalizing p with
  | nil => exact ⟨fun _ => rfl, rfl⟩
  | cons l ls ih =>
    rw [List.map_cons, linesFree, Bool.and_eq_true, Bool.and_eq_true] at h
    obtain ⟨⟨hfirst, hfree⟩, hrest⟩ := h
    have hfirst : p = .outside → isDirective l.toList = false := by
      rintro rfl
      simpa using hfirst
    cases ls with
    | nil => exact ⟨hfirst, hfree⟩
    | cons l' ls =>
      obtain ⟨hnext, hlater⟩ := ih hrest
      have htext : (Text.joinWith "\n" (l :: l' :: ls)).toList
          = l.toList ++ '\n' :: (Text.joinWith "\n" (l' :: ls)).toList := by
        simp [Text.joinWith]
      rw [htext]
      refine ⟨fun hp => ?_, directiveFree_append hfree ?_ (apart_break _)⟩
      · rw [isDirective, firstWord_append_break]
        exact hfirst hp
      · rw [directiveFree, Bool.and_eq_true]
        refine ⟨?_, hlater⟩
        by_cases hplace : after p l.toList = .outside
        · have hnext := hnext (by rw [hplace]; rfl)
          simp [hnext]
        · simp [hplace]

end StoredSql.Quotes
