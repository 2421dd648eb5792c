import StoredSql.Dialect
import StoredSql.Proofs.AsciiText
import StoredSql.Proofs.Outcome
import StoredSql.Proofs.Scan

/-!
# Names as pieces

Every name that a complete dialect writes is a piece of text, whatever its characters: a plain name
has no marks of code, and any other one stands in backticks with its backticks doubled.
-/

namespace StoredSql

namespace Identifier

variable {p q : Char → Bool} {c : Char} {cs : List Char}

theorem allUpToLineEnd_cons : allUpToLineEnd p (c :: cs) = true ↔
    (c = '\n' ∧ cs = []) ∨ (p c = true ∧ allUpToLineEnd p cs = true) := by
  by_cases hend : c = '\n' ∧ cs = []
  · obtain ⟨rfl, rfl⟩ := hend
    simp [allUpToLineEnd]
  · rw [allUpToLineEnd, Bool.and_eq_true]
    · simp [hend]
    · rintro rfl rfl
      exact hend ⟨rfl, rfl⟩

theorem allUpToLineEnd_of_all (h : ∀ c ∈ cs, p c = true) : allUpToLineEnd p cs = true := by
  induction cs with
  | nil => rfl
  | cons c cs ih =>
    exact allUpToLineEnd_cons.2 (.inr ⟨h c (by simp), ih fun d hd => h d (by simp [hd])⟩)

/-- Characters before the end of a line that are changed one by one. -/
theorem allUpToLineEnd_map {f : Char → Char} (hbreak : f '\n' = '\n')
    (hf : ∀ c, p c = true → q (f c) = true) (h : allUpToLineEnd p cs = true) :
    allUpToLineEnd q (cs.map f) = true := by
  induction cs with
  | nil => rfl
  | cons c cs ih =>
    rw [List.map_cons, allUpToLineEnd_cons]
    obtain ⟨rfl, rfl⟩ | ⟨hc, hcs⟩ := allUpToLineEnd_cons.1 h
    · exact .inl ⟨hbreak, rfl⟩
    · exact .inr ⟨hf c hc, ih hcs⟩

theorem allUpToLineEnd_of_map {f : Char → Char} (hbreak : ∀ c, f c = '\n' → c = '\n')
    (hf : ∀ c, p (f c) = true → q c = true) (h : allUpToLineEnd p (cs.map f) = true) :
    allUpToLineEnd q cs = true := by
  induction cs with
  | nil => rfl
  | cons c cs ih =>
    rw [allUpToLineEnd_cons]
    obtain ⟨hc, hcs⟩ | ⟨hc, hcs⟩ := allUpToLineEnd_cons.1 h
    · exact .inl ⟨hbreak c hc, List.map_eq_nil_iff.1 hcs⟩
    · exact .inr ⟨hf c hc, ih hcs⟩

theorem allUpToLineEnd_mono (hpq : ∀ c, p c = true → q c = true) (h : allUpToLineEnd p cs = true) :
    allUpToLineEnd q cs = true := by
  simpa using allUpToLineEnd_map (f := id) rfl hpq h

theorem forall_of_allUpToLineEnd (h : allUpToLineEnd p cs = true) :
    ∀ c ∈ cs, p c = true ∨ c = '\n' := by
  induction cs with
  | nil => simp
  | cons c cs ih =>
    obtain ⟨rfl, rfl⟩ | ⟨hc, hcs⟩ := allUpToLineEnd_cons.1 h
    · simp
    · exact List.forall_mem_cons.2 ⟨.inl hc, ih hcs⟩

/-- The characters of a plain name are parts of one, but for a line end. -/
theorem allUpToLineEnd_of_isPlainChars (h : isPlainChars cs = true) :
    allUpToLineEnd isPart cs = true := by
  cases cs with
  | nil => rfl
  | cons c cs =>
    rw [isPlainChars, Bool.and_eq_true] at h
    exact allUpToLineEnd_cons.2 (.inr ⟨by rw [isPart, h.1, Bool.true_or], h.2⟩)

theorem isPart_of_isPlainChars (h : isPlainChars cs = true) : ∀ c ∈ cs, isPart c = true ∨ c = '\n' :=
  forall_of_allUpToLineEnd (allUpToLineEnd_of_isPlainChars h)

end Identifier

/-- A name in backticks has its backticks doubled, whatever else it may not have. -/
theorem Dialect.eq_of_backquoted {name text : String} (h : backquoted name = .ok text) :
    text = String.ofList (backtick :: (doubleBackticks name.toList ++ [backtick])) := by
  simp only [backquoted] at h
  split at h
  · cases h
  split at h
  · cases h
  split at h
  · cases h
  split at h
  · cases h
  · exact (Except.ok.inj h).symm

theorem Dialect.toList_of_backquoted {name text : String} (h : backquoted name = .ok text) :
    text.toList = '\x60' :: (doubleBackticks name.toList ++ ['\x60']) := by
  rw [eq_of_backquoted h, String.toList_ofList]
  rfl

namespace Scan

/-! ## Characters -/

/-- A class of characters without the marks of code is quiet. -/
theorem isQuiet_of {p : Char → Bool} {c : Char} (hc : p c = true) (hp : marks.any p = false) :
    isQuiet c = true := by
  rw [isQuiet, Bool.not_eq_true', List.contains_eq_mem, decide_eq_false_iff_not]
  intro hm
  exact List.any_eq_false.1 hp c hm hc

/-- Quiet characters that begin no quotes of any kind. -/
def isTame (c : Char) : Bool := isQuiet c && c != '"'

theorem isQuiet_of_isTame {c : Char} (h : isTame c = true) : isQuiet c = true :=
  (Bool.and_eq_true_iff.1 h).1

/-- Whether characters are tame, with a line break at most at their end. -/
def isTameLine (cs : List Char) : Bool :=
  Identifier.allUpToLineEnd (fun c => isTame c && c != '\n') cs

/-- A text of tame characters; a line break may only end it. -/
def IsWord (t : String) : Prop := isTameLine t.toList = true

instance (t : String) : Decidable (IsWord t) := inferInstanceAs (Decidable (_ = true))

theorem isTame_of {p : Char → Bool} {c : Char} (hc : p c = true) (hp : marks.any p = false)
    (hq : p '"' = false) : isTame c = true := by
  rw [isTame, isQuiet_of hc hp, Bool.true_and, bne_iff_ne]
  rintro rfl
  rw [hq] at hc
  exact Bool.noConfusion hc

/-! ## Names -/

theorem moves_doubleBackticks (cs : List Char) :
    Moves (· = .name) (· = .name) (Dialect.doubleBackticks cs) := by
  refine Moves.flatMap fun c _ => ?_
  by_cases hc : c = Dialect.backtick
  · rw [if_pos hc]
    subst hc
    rintro _ d rfl
    exact ⟨.name, rfl, rfl⟩
  · rw [if_neg hc]
    rintro _ d rfl
    refine ⟨.name, rfl, ?_⟩
    simp only [Dialect.backtick] at hc
    simp [run, step, hc]

theorem moves_openName : Moves Fresh (· = .name) ['\x60'] := by
  rintro _ d ⟨last, rfl, _⟩
  exact ⟨.name, rfl, rfl⟩

theorem piece_backquoted {name text : String} (h : Dialect.backquoted name = .ok text) :
    Piece text := by
  have hclose : Moves (· = .name) Rested ['\x60'] := by
    rintro _ d rfl
    exact ⟨.nameQuote, .inr (.inr rfl), rfl⟩
  rw [Piece, Dialect.toList_of_backquoted h]
  exact moves_openName.cons ((moves_doubleBackticks _).append hclose)

theorem IsWord.isTame {t : String} (h : IsWord t) : ∀ c ∈ t.toList, isTame c = true := by
  intro c hc
  rcases Identifier.forall_of_allUpToLineEnd h c hc with hc | rfl
  · exact (Bool.and_eq_true_iff.1 hc).1
  · rfl

theorem IsWord.isQuiet {t : String} (h : IsWord t) : t.toList.all isQuiet = true :=
  List.all_eq_true.2 fun c hc => isQuiet_of_isTame (h.isTame c hc)

theorem isTameLine_of {p : Char → Bool} (hp : marks.any p = false) (hq : p '"' = false)
    (hbreak : p '\n' = false) {cs : List Char} (h : Identifier.allUpToLineEnd p cs = true) :
    isTameLine cs = true := by
  refine Identifier.allUpToLineEnd_mono (fun c hc => ?_) h
  rw [isTame_of hc hp hq, Bool.true_and, bne_iff_ne]
  rintro rfl
  rw [hbreak] at hc
  cases hc

theorem isTameLine_of_isPlainChars {cs : List Char} (h : Identifier.isPlainChars cs = true) :
    isTameLine cs = true :=
  isTameLine_of (by decide) (by decide) (by decide) (Identifier.allUpToLineEnd_of_isPlainChars h)

theorem isWord_of_isPlain {name : String} (h : Identifier.isPlain name = true) : IsWord name :=
  isTameLine_of_isPlainChars h

/-- Dots in the name of a session variable are tame as the underscores in their place are. -/
theorem isWord_session {name : String} {rest : List Char} (hname : name.toList = '@' :: rest)
    (h : Identifier.isPlainChars (Dialect.withoutDots rest) = true) : IsWord name := by
  have hrest : isTameLine rest = true := by
    refine Identifier.allUpToLineEnd_of_map (fun c hc => ?_) (fun c hc => ?_)
      (isTameLine_of_isPlainChars h)
    · split at hc
      · cases hc
      · exact hc
    · split at hc
      · rename_i hdot
        rw [hdot]
        rfl
      · exact hc
  rw [IsWord, hname]
  exact Identifier.allUpToLineEnd_cons.2 (.inr ⟨rfl, hrest⟩)

/-! ## Names of functions -/

/-- The characters that a function can be named with. -/
def isFunctionPart (c : Char) : Bool := c.isAlpha || c == '_' || c.isDigit

theorem val_lt_of_isFunctionPart {c : Char} (h : isFunctionPart c = true) : c.val < 128 := by
  have hle : ∀ {a : Char}, a.val < 128 → c.val ≤ a.val → c.val < 128 := fun ha hc =>
    UInt32.lt_of_le_of_lt hc ha
  simp only [isFunctionPart, Bool.or_eq_true, beq_iff_eq] at h
  obtain (halpha | rfl) | hdigit := h
  · have hcase : c.isUpper = true ∨ c.isLower = true := Bool.or_eq_true_iff.1 halpha
    rcases hcase with hu | hl
    · have hbounds : c.val ≥ 'A'.val ∧ c.val ≤ 'Z'.val := of_decide_eq_true hu
      exact hle (by decide) hbounds.2
    · exact hle (by decide) (of_decide_eq_true (Bool.and_eq_true_iff.1 hl).2)
  · decide
  · exact hle (by decide) (of_decide_eq_true (Bool.and_eq_true_iff.1 hdigit).2)

/-- A part of a name is an ASCII character. -/
theorem val_lt_of_isPart {c : Char} (h : Identifier.isPart c = true) : c.val < 128 := by
  have hpart : isFunctionPart c = true ∨ c = '$' := by
    simp only [Identifier.isPart, Identifier.isStart, Bool.or_eq_true, beq_iff_eq] at h
    simp only [isFunctionPart, Bool.or_eq_true, beq_iff_eq]
    rcases h with (h | hdollar) | hdigit
    · exact .inl (.inl h)
    · exact .inr hdollar
    · exact .inl (.inr hdigit)
  rcases hpart with hpart | rfl
  · exact val_lt_of_isFunctionPart hpart
  · decide

theorem isFunctionPart_toUpper {c : Char} (h : isFunctionPart c = true) :
    isFunctionPart c.toUpper = true :=
  Text.forall_ascii (P := fun c => isFunctionPart c = true → isFunctionPart c.toUpper = true)
    (by decide) (val_lt_of_isFunctionPart h) h

section
variable (f : FunctionName)

/-- The characters of the name of a function, but for a line end. -/
theorem allUpToLineEnd_function : Identifier.allUpToLineEnd isFunctionPart f.text.toList = true := by
  have hv := f.valid
  rw [Identifier.isFunctionName] at hv
  split at hv
  · cases hv
  · rename_i c cs e
    rw [Bool.and_eq_true] at hv
    rw [e]
    exact Identifier.allUpToLineEnd_cons.2 (.inr ⟨by rw [isFunctionPart, hv.1, Bool.true_or], hv.2⟩)

theorem toList_upper_function : (Text.upper f.text).toList = f.text.toList.map Char.toUpper := by
  refine Text.toList_upper_ascii fun c hc => ?_
  rcases Identifier.forall_of_allUpToLineEnd (allUpToLineEnd_function f) c hc with h | rfl
  · exact val_lt_of_isFunctionPart h
  · decide

/-- A function can be named in upper case. -/
theorem allUpToLineEnd_upper :
    Identifier.allUpToLineEnd isFunctionPart (Text.upper f.text).toList = true := by
  rw [toList_upper_function]
  exact Identifier.allUpToLineEnd_map rfl (fun _ => isFunctionPart_toUpper)
    (allUpToLineEnd_function f)

theorem upper_ne_nil : (Text.upper f.text).toList ≠ [] := by
  rw [toList_upper_function]
  intro h
  have hv := f.valid
  rw [Identifier.isFunctionName, List.map_eq_nil_iff.1 h] at hv
  cases hv

/-- The name of a function stays tame in upper case. -/
theorem isWord_upper : IsWord (Text.upper f.text) :=
  isTameLine_of (by decide) (by decide) (by decide) (allUpToLineEnd_upper f)

end

end Scan
end StoredSql
