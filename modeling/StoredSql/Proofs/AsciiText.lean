import StoredSql.Text.Case

/-!
# Text that is ASCII

Names are the same where their lower cases are, in all of Unicode. On ASCII texts case is changed
character by character. The lower case of a character beyond ASCII has one beyond ASCII as well,
except that the sign of the kelvin has the lower case of a letter (`Text.beyond_lowerChar`). So a text
without that sign that is the same name as an ASCII text is ASCII (`Text.isAscii_of_sameName`).
-/

namespace StoredSql

namespace Text

/-- Whether all characters are ASCII. -/
def IsAscii (s : String) : Prop := ∀ c ∈ s.toList, c.val < 128

instance (s : String) : Decidable (IsAscii s) := List.decidableBAll _ s.toList

/-- What is looked up character by character holds of all of ASCII. -/
theorem forall_ascii {P : Char → Prop} (h : ∀ n, n < 128 → P (Char.ofNat n)) {c : Char}
    (hc : c.val < 128) : P c := by
  have hn := h c.toNat (UInt32.lt_iff_toNat_lt.1 hc)
  rwa [Char.ofNat_toNat] at hn

/-! ## Case within ASCII -/

theorem val_toLower_lt {c : Char} (h : c.val < 128) : c.toLower.val < 128 :=
  forall_ascii (P := fun c => c.toLower.val < 128) (by decide) h

theorem lowerAfter_ascii {cs : List Char} (h : ∀ c ∈ cs, c.val < 128) (cased : Bool) :
    lowerAfter cased cs = cs.map Char.toLower := by
  induction cs generalizing cased with
  | nil => rfl
  | cons c cs ih =>
    obtain ⟨hc, hcs⟩ := List.forall_mem_cons.1 h
    have hsigma : c.toNat ≠ 0x3A3 := fun he =>
      absurd (UInt32.lt_iff_toNat_lt.1 hc) (by rw [Char.toNat_val, he]; decide)
    rw [lowerAfter, if_neg hsigma, lowerChar, if_pos hc, ih hcs]
    rfl

theorem toList_lower_ascii {s : String} (h : IsAscii s) :
    (lower s).toList = s.toList.map Char.toLower := by
  rw [lower, String.toList_ofList, lowerAfter_ascii h]

theorem toList_upper_ascii {s : String} (h : IsAscii s) :
    (upper s).toList = s.toList.map Char.toUpper := by
  rw [upper, String.toList_ofList]
  unfold IsAscii at h
  generalize s.toList = cs at h
  induction cs with
  | nil => rfl
  | cons c cs ih =>
    obtain ⟨hc, hcs⟩ := List.forall_mem_cons.1 h
    rw [List.flatMap_cons, upperChar, if_pos hc, ih hcs]
    rfl

/-! ## Lower case beyond ASCII -/

/-- The sign of the kelvin, whose lower case is that of the letter `K`. -/
def kelvinSign : Char := Char.ofNat 0x212A

/-- No rule but that of the kelvin leads back to ASCII, and each leads to characters. -/
theorem lowerRules_beyond : ∀ r ∈ lowerRules, (r.first = 0x212A ∧ r.last = 0x212A) ∨
    128 ≤ r.target ∧ (r.target + (r.last - r.first) < 0xD800 ∨
      0xDFFF < r.target ∧ r.target + (r.last - r.first) < 0x110000) := by
  decide +kernel

theorem image_eq_some {r : CaseRule} {n m : Nat} (h : r.image? n = some m) :
    r.first ≤ n ∧ n ≤ r.last ∧ m = r.target + (n - r.first) := by
  unfold CaseRule.image? at h
  split at h
  · rename_i hn
    exact ⟨hn.1, hn.2.1, (Option.some.inj h).symm⟩
  · cases h

theorem toNat_ofNat {n : Nat} (h : n.isValidChar) : (Char.ofNat n).toNat = n := by
  rw [Char.ofNat, dif_pos h]
  rfl

theorem beyond_mapByRules {c : Char} (hc : ¬ c.val < 128) (hkelvin : c ≠ kelvinSign) :
    ¬ (mapByRules lowerRules c).val < 128 := by
  unfold mapByRules
  split
  · rename_i n h
    obtain ⟨r, hr, himage⟩ := List.exists_of_findSome?_eq_some h
    obtain ⟨hfirst, hlast, rfl⟩ := image_eq_some himage
    rcases lowerRules_beyond r hr with ⟨hone, hsame⟩ | ⟨htarget, hvalid⟩
    · have hn : c.toNat = 0x212A := by omega
      exact absurd (by rw [kelvinSign, ← hn, Char.ofNat_toNat]) hkelvin
    · have hchar : (r.target + (c.toNat - r.first)).isValidChar := by
        unfold Nat.isValidChar
        omega
      rw [UInt32.lt_iff_toNat_lt, Char.toNat_val, toNat_ofNat hchar]
      exact Nat.not_lt.2 (Nat.le_trans htarget (Nat.le_add_right _ _))
  · exact hc

/-- **Lower case stays beyond ASCII.** -/
theorem beyond_lowerChar {c : Char} (hc : ¬ c.val < 128) (hkelvin : c ≠ kelvinSign) :
    ∃ d ∈ lowerChar c, ¬ d.val < 128 := by
  rw [lowerChar, if_neg hc]
  split
  · exact ⟨Char.ofNat 0x307, by simp, by decide⟩
  · exact ⟨_, List.mem_singleton_self _, beyond_mapByRules hc hkelvin⟩

/-- Also a sigma has a lower case beyond ASCII, at the end of a word or not. -/
theorem beyond_lowerAfter {cs : List Char} {c : Char} (h : c ∈ cs) (hc : ¬ c.val < 128)
    (hkelvin : c ≠ kelvinSign) (cased : Bool) : ∃ d ∈ lowerAfter cased cs, ¬ d.val < 128 := by
  induction cs generalizing cased with
  | nil => cases h
  | cons c' cs ih =>
    rw [lowerAfter]
    rcases List.mem_cons.1 h with rfl | h
    · have hhead : ∃ d ∈ (if c.toNat = 0x3A3 then
          [if cased && !casedAhead cs then Char.ofNat 0x3C2 else Char.ofNat 0x3C3]
          else lowerChar c), ¬ d.val < 128 := by
        split
        · refine ⟨_, List.mem_singleton_self _, ?_⟩
          split <;> decide
        · exact beyond_lowerChar hc hkelvin
      obtain ⟨d, hd, hval⟩ := hhead
      exact ⟨d, List.mem_append_left _ hd, hval⟩
    · obtain ⟨d, hd, hval⟩ := ih h _
      exact ⟨d, List.mem_append_right _ hd, hval⟩

/-! ## The same name -/

/-- What is the same name as an ASCII text is ASCII but for signs of the kelvin. -/
theorem isAscii_of_sameName {s t : String} (ht : IsAscii t) (h : sameName s t = true)
    (hkelvin : kelvinSign ∉ s.toList) : IsAscii s := by
  intro c hc
  refine Decidable.byContradiction fun hval => ?_
  obtain ⟨d, hd, hbeyond⟩ := beyond_lowerAfter hc hval (fun he => hkelvin (he ▸ hc)) false
  have hlower : (lower s).toList = t.toList.map Char.toLower := by
    rw [sameName_iff.1 h, toList_lower_ascii ht]
  rw [lower, String.toList_ofList] at hlower
  rw [hlower] at hd
  obtain ⟨e, he, rfl⟩ := List.mem_map.1 hd
  exact hbeyond (val_toLower_lt (ht e he))

end Text
end StoredSql
