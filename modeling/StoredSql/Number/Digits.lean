/-!
# Numbers in decimal digits

The decimal digits of a natural number, and digits with a point set among them.
-/

namespace StoredSql.Number

/-- The decimal digits of a number, the most significant first; zero has one digit. -/
def digits (n : Nat) : List Char := Nat.toDigits 10 n

theorem digits_inj {m n : Nat} : digits m = digits n ↔ m = n := by
  refine ⟨fun h => ?_, congrArg digits⟩
  have hvalue := congrArg (fun ds => Nat.ofDigitChars 10 ds 0) h
  simpa [digits, Nat.ofDigitChars_toDigits] using hvalue

theorem isDigit_of_mem_digits {n : Nat} {c : Char} (h : c ∈ digits n) : c.isDigit = true :=
  Nat.isDigit_of_mem_toDigits (by decide) (by decide) h

/-- The digits of a number without the zeros at their end. -/
def significantDigits (n : Nat) : List Char := (((digits n).reverse.dropWhile (· == '0')).reverse)

/-- Digits with a point before the last `places` of them. Zeros are put in front where there are
too few digits. -/
def withPoint (ds : List Char) (places : Nat) : List Char :=
  if places = 0 then ds
  else if places < ds.length then
    ds.take (ds.length - places) ++ '.' :: ds.drop (ds.length - places)
  else '0' :: '.' :: (List.replicate (places - ds.length) '0' ++ ds)

/-- A whole number in digits, with a minus if it is negative. -/
def intText : Int → String
  | .ofNat n => String.ofList (digits n)
  | .negSucc n => String.ofList ('-' :: digits (n + 1))

end StoredSql.Number
