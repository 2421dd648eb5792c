import Mathlib.Data.List.Dedup
import Mathlib.Data.List.Nodup
import Mathlib.Data.List.Perm.Subperm
import StoredSql.LabelSource
import StoredSql.Proofs.NameText

/-!
# Generated labels are fresh

The labels of two numbers are different names, in any case (`LabelSource.label_injective`), whatever
their stem ends with. So as many names as are taken cannot take as many labels and one more, and the
search for a free label finds one (`LabelSource.next_free`), as a search without a bound does
(`LabelSource.searches_next`). Whether a construct can be labelled
with what is found does not depend on the number (`LabelSource.isPlain_label`): it is the stem that
makes a label plain, and no reserved word ends like a label.
-/

namespace StoredSql

/-! ## Characters that case does not change -/

namespace Text

/-- Whether a character is its own lower and its own upper case. -/
structure Caseless (c : Char) : Prop where
  lower : lowerChar c = [c]
  upper : upperChar c = [c]
  other : c.toNat ≠ 0x3A3

theorem caseless_underscore : Caseless '_' := ⟨by decide +kernel, by decide +kernel, by decide⟩

theorem caseless_of_isDigit {c : Char} (h : c.isDigit = true) : Caseless c := by
  simp only [Char.isDigit, Bool.and_eq_true, decide_eq_true_eq] at h
  have hle : c.toNat ≤ 57 := UInt32.le_iff_toNat_le.1 h.2
  have hval : c.val < 128 := UInt32.lt_iff_toNat_lt.2 (Nat.lt_of_le_of_lt hle (by decide))
  have hlower : c.toLower = c := dif_neg fun h =>
    absurd (Nat.le_trans (UInt32.le_iff_toNat_le.1 h.1) hle) (by decide)
  have hupper : c.toUpper = c := dif_neg fun h =>
    absurd (Nat.le_trans (UInt32.le_iff_toNat_le.1 h.1) hle) (by decide)
  refine ⟨?_, ?_, fun he => absurd (he ▸ hle) (by decide)⟩
  · rw [lowerChar, if_pos hval, hlower]
  · rw [upperChar, if_pos hval, hupper]

theorem lowerAfter_caseless {cs : List Char} (h : ∀ c ∈ cs, Caseless c) (cased : Bool) :
    lowerAfter cased cs = cs := by
  induction cs generalizing cased with
  | nil => rfl
  | cons c cs ih =>
    have hc := h c (by simp)
    rw [lowerAfter, if_neg hc.other, hc.lower, ih fun d hd => h d (by simp [hd])]
    rfl

/-- No word goes on behind an underscore. -/
theorem casedAhead_append_underscore (cs ds : List Char) :
    casedAhead (cs ++ '_' :: ds) = casedAhead cs := by
  induction cs with
  | nil =>
    have hignorable : isIgnorable '_' = false := by decide +kernel
    have hcased : isCased '_' = false := by decide +kernel
    simp only [List.nil_append, casedAhead, hignorable, hcased, Bool.false_eq_true, if_false]
  | cons c cs ih => rw [List.cons_append, casedAhead, casedAhead, ih]

theorem lowerAfter_append_underscore {ds : List Char} (h : ∀ c ∈ ds, Caseless c) (cs : List Char)
    (cased : Bool) :
    lowerAfter cased (cs ++ '_' :: ds) = lowerAfter cased cs ++ '_' :: ds := by
  induction cs generalizing cased with
  | nil => exact lowerAfter_caseless (List.forall_mem_cons.2 ⟨caseless_underscore, h⟩) cased
  | cons c cs ih =>
    rw [List.cons_append, lowerAfter, lowerAfter, casedAhead_append_underscore, ih,
      List.append_assoc]

end Text

namespace LabelSource

theorem toList_label (stem : String) (n : Nat) :
    (label stem n).toList = stem.toList ++ '_' :: Number.digits n := by
  simp [label, countText, String.toList_append, String.toList_ofList]

/-! ## A free label is found -/

theorem toList_lower_label (stem : String) (n : Nat) :
    (Text.lower (label stem n)).toList =
      Text.lowerAfter false stem.toList ++ '_' :: Number.digits n := by
  rw [Text.lower, String.toList_ofList, toList_label]
  exact Text.lowerAfter_append_underscore
    (fun c hc => Text.caseless_of_isDigit (Number.isDigit_of_mem_digits hc)) _ _

/-- **Two numbers give two labels**, in any case. -/
theorem label_injective {stem : String} {m n : Nat}
    (h : Text.sameName (label stem m) (label stem n) = true) : m = n := by
  have hlists := congrArg String.toList (Text.sameName_iff.1 h)
  rw [toList_lower_label, toList_lower_label] at hlists
  have hdigits : Number.digits m = Number.digits n :=
    (List.cons.inj (List.append_cancel_left hlists)).2
  exact Number.digits_inj.1 hdigits

/-- Where the search ends with a label that is taken, it has met taken labels only. -/
theorem taken_of_seek {stem : String} {taken : List String} {fuel n : Nat}
    (h : Scope.hasName taken (label stem (seek stem taken fuel n)) = true) {i : Nat}
    (hi : i ≤ fuel) : Scope.hasName taken (label stem (n + i)) = true := by
  induction fuel generalizing n i with
  | zero =>
    obtain rfl := Nat.le_zero.1 hi
    exact h
  | succ fuel ih =>
    rw [seek] at h
    split at h
    · rename_i hn
      cases i with
      | zero => exact hn
      | succ i =>
        have hrest := ih h (Nat.le_of_succ_le_succ hi)
        rwa [Nat.add_right_comm] at hrest
    · rename_i hn
      exact absurd h hn

/-- Names take at most as many labels as there are names, in any case. -/
theorem length_le_of_taken {stem : String} {taken : List String} {count n : Nat}
    (h : ∀ i < count, Scope.hasName taken (label stem (n + i)) = true) :
    count ≤ (taken.map Text.lower).dedup.length := by
  let labels := (List.range count).map fun i => Text.lower (label stem (n + i))
  have hnodup : labels.Nodup := by
    refine List.Nodup.map (fun i j hij => ?_) List.nodup_range
    exact Nat.add_left_cancel (label_injective (Text.sameName_iff.2 hij))
  have hsub : labels ⊆ (taken.map Text.lower).dedup := by
    intro l hl
    obtain ⟨i, hi, rfl⟩ := List.mem_map.1 hl
    obtain ⟨t, ht, hsame⟩ := List.any_eq_true.1 (h i (List.mem_range.1 hi))
    rw [Text.sameName_iff.1 hsame]
    exact List.mem_dedup.2 (List.mem_map_of_mem ht)
  simpa [labels] using (List.Nodup.subperm hnodup hsub).length_le

/-- **The next label is free.** -/
theorem next_free (source : LabelSource) (taken : List String) :
    Scope.hasName taken (source.next taken).1 = false := by
  refine Bool.eq_false_iff.2 fun h => ?_
  have hall : taken.length + 1 ≤ (taken.map Text.lower).dedup.length :=
    length_le_of_taken fun i hi => taken_of_seek h (Nat.le_of_lt_succ hi)
  have hnames : (taken.map Text.lower).dedup.length ≤ (taken.map Text.lower).length :=
    (List.dedup_sublist _).length_le
  rw [List.length_map] at hnames
  omega

/-! ## The search without a bound -/

/-- The source with one more number used. -/
def stepped (source : LabelSource) : LabelSource := { source with last := source.last + 1 }

/-- The label of the last number used. -/
def current (source : LabelSource) : String := label source.stem source.last

/-- The search for a label that is not taken, with nothing to bound it: each step takes one more
number, and the first free label is the answer. -/
inductive Searches (taken : List String) : LabelSource → Nat → String × LabelSource → Prop
  | free {source : LabelSource} : Scope.hasName taken source.stepped.current = false →
      Searches taken source 1 (source.stepped.current, source.stepped)
  | taken {source : LabelSource} {steps : Nat} {answer : String × LabelSource} :
      Scope.hasName taken source.stepped.current = true →
      Searches taken source.stepped steps answer → Searches taken source (steps + 1) answer

/-- A search has one answer, and it finds it in one number of steps. -/
theorem Searches.unique {taken : List String} {source : LabelSource} {m n : Nat}
    {r s : String × LabelSource} (h : Searches taken source m r) (h' : Searches taken source n s) :
    m = n ∧ r = s := by
  induction h generalizing n with
  | free hfree =>
    cases h' with
    | free => exact ⟨rfl, rfl⟩
    | taken htaken => cases htaken.symm.trans hfree
  | taken htaken _ ih =>
    cases h' with
    | free hfree => cases htaken.symm.trans hfree
    | taken _ h' =>
      obtain ⟨rfl, rfl⟩ := ih h'
      exact ⟨rfl, rfl⟩

/-- Where the bounded search ends with a free label, the other one ends there too, behind one step
for each taken label on the way. -/
theorem searches_seek {taken : List String} {fuel : Nat} (source : LabelSource)
    (h : Scope.hasName taken
      (label source.stem (seek source.stem taken fuel (source.last + 1))) = false) :
    ∃ count, (∀ i < count, Scope.hasName taken (label source.stem (source.last + 1 + i)) = true) ∧
      Searches taken source (count + 1)
        (label source.stem (seek source.stem taken fuel (source.last + 1)),
          { source with last := seek source.stem taken fuel (source.last + 1) }) := by
  induction fuel generalizing source with
  | zero => exact ⟨0, nofun, .free h⟩
  | succ fuel ih =>
    rw [seek] at h ⊢
    split at h
    · rename_i hn
      rw [if_pos hn]
      obtain ⟨count, hcount, hsearch⟩ := ih source.stepped h
      refine ⟨count + 1, fun i hi => ?_, .taken hn hsearch⟩
      cases i with
      | zero => exact hn
      | succ i =>
        rw [Nat.add_comm i, ← Nat.add_assoc]
        exact hcount i (Nat.lt_of_succ_lt_succ hi)
    · rename_i hn
      rw [if_neg hn]
      exact ⟨0, nofun, .free h⟩

/-- **The search ends**, after at most one step more than there are taken labels. Its answer is the
next label. -/
theorem searches_next (source : LabelSource) (taken : List String) :
    ∃ steps ≤ (taken.map Text.lower).dedup.length + 1,
      ∀ n r, Searches taken source n r ↔ n = steps ∧ r = source.next taken := by
  obtain ⟨count, hcount, hsearch⟩ := searches_seek source (source.next_free taken)
  refine ⟨count + 1, Nat.succ_le_succ (length_le_of_taken hcount), fun n r => ⟨fun h => ?_, ?_⟩⟩
  · exact h.unique hsearch
  · rintro ⟨rfl, rfl⟩
    exact hsearch

/-! ## Which labels can be given -/

theorem isPart_of_isDigit {c : Char} (h : c.isDigit = true) : Identifier.isPart c = true := by
  rw [Identifier.isPart, h, Bool.or_true]

/-- A line end counts where more follows it. -/
theorem allUpToLineEnd_append_underscore {ds : List Char} (h : ∀ c ∈ ds, c.isDigit = true)
    (cs : List Char) :
    Identifier.allUpToLineEnd Identifier.isPart (cs ++ '_' :: ds) = cs.all Identifier.isPart := by
  induction cs with
  | nil =>
    exact Identifier.allUpToLineEnd_of_all
      (List.forall_mem_cons.2 ⟨by decide, fun c hc => isPart_of_isDigit (h c hc)⟩)
  | cons c cs ih =>
    rw [List.cons_append, Identifier.allUpToLineEnd, ih, List.all_cons]
    simp

theorem isPlain_label_cons {stem : String} {c : Char} {cs : List Char} (h : stem.toList = c :: cs)
    (n : Nat) :
    Identifier.isPlain (label stem n) = (Identifier.isStart c && cs.all Identifier.isPart) := by
  rw [Identifier.isPlain, toList_label, h, List.cons_append, Identifier.isPlainChars,
    allUpToLineEnd_append_underscore fun _ => Number.isDigit_of_mem_digits]

/-- It is the stem that makes a label plain. -/
theorem isPlain_label (stem : String) (m n : Nat) :
    Identifier.isPlain (label stem m) = Identifier.isPlain (label stem n) := by
  cases h : stem.toList with
  | nil =>
    have hparts : ∀ k, Identifier.allUpToLineEnd Identifier.isPart (Number.digits k) = true :=
      fun k => Identifier.allUpToLineEnd_of_all fun c hc =>
        isPart_of_isDigit (Number.isDigit_of_mem_digits hc)
    rw [Identifier.isPlain, Identifier.isPlain, toList_label, toList_label, h, List.nil_append,
      List.nil_append, Identifier.isPlainChars, Identifier.isPlainChars, hparts, hparts]
  | cons c cs => rw [isPlain_label_cons h, isPlain_label_cons h]

/-- What a text ends with, from its end up to what is no digit. -/
def beforeDigits (s : String) : Option Char := (s.toList.reverse.dropWhile Char.isDigit).head?

/-- No reserved word ends with an underscore and digits, or with an underscore. -/
theorem beforeDigits_of_reserved :
    ∀ w ∈ Identifier.reservedWords, beforeDigits w ≠ some '_' := by
  decide +kernel

theorem not_isReserved_label (stem : String) (n : Nat) :
    Identifier.isReserved (label stem n) = false := by
  refine Bool.eq_false_iff.2 fun h => ?_
  refine beforeDigits_of_reserved _ (List.contains_iff_mem.1 h) ?_
  have hupper : (Text.upper (label stem n)).toList =
      stem.toList.flatMap Text.upperChar ++ '_' :: Number.digits n := by
    have hdigits : (Number.digits n).flatMap Text.upperChar = Number.digits n := by
      rw [List.flatMap_congr fun c hc =>
        (Text.caseless_of_isDigit (Number.isDigit_of_mem_digits hc)).upper]
      exact List.flatMap_singleton' _
    rw [Text.upper, String.toList_ofList, toList_label, List.flatMap_append, List.flatMap_cons,
      Text.caseless_underscore.upper, hdigits]
    rfl
  rw [beforeDigits, hupper, List.reverse_append, List.reverse_cons, List.append_assoc,
    List.dropWhile_append_of_pos fun c hc => Number.isDigit_of_mem_digits (List.mem_reverse.1 hc)]
  rfl

/-- Whether a construct can be labelled with a generated label depends on the stem only. -/
theorem checkLabel_label (stem : String) (m n : Nat) :
    Identifier.checkLabel (label stem m) = .ok (label stem m) ↔
      Identifier.checkLabel (label stem n) = .ok (label stem n) := by
  simp only [Identifier.checkLabel_eq_ok_iff, not_isReserved_label, isPlain_label stem m n]

end LabelSource
end StoredSql
