import StoredSql.Text.Blank

/-!
# Whole numbers in text

A whole number is read from decimal digits of any script, with a sign, with single underscores
between digits and with white space around it. `digitValue?_lt` bounds the value of a digit.
-/

namespace StoredSql.Text

/-- The zeros of all scripts; the other nine digits of a script follow its zero. -/
def zeros : List Nat := [
  0x30, 0x660, 0x6F0, 0x7C0, 0x966, 0x9E6, 0xA66, 0xAE6, 0xB66, 0xBE6, 0xC66, 0xCE6, 0xD66, 0xDE6,
  0xE50, 0xED0, 0xF20, 0x1040, 0x1090, 0x17E0, 0x1810, 0x1946, 0x19D0, 0x1A80, 0x1A90, 0x1B50,
  0x1BB0, 0x1C40, 0x1C50, 0xA620, 0xA8D0, 0xA900, 0xA9D0, 0xA9F0, 0xAA50, 0xABF0, 0xFF10, 0x104A0,
  0x10D30, 0x11066, 0x110F0, 0x11136, 0x111D0, 0x112F0, 0x11450, 0x114D0, 0x11650, 0x116C0, 0x11730,
  0x118E0, 0x11950, 0x11C50, 0x11D50, 0x11DA0, 0x16A60, 0x16AC0, 0x16B50, 0x1D7CE, 0x1D7D8, 0x1D7E2,
  0x1D7EC, 0x1D7F6, 0x1E140, 0x1E2F0, 0x1E950, 0x1FBF0
]

/-- The value of a decimal digit of any script. -/
def digitValue? (c : Char) : Option Nat :=
  (zeros.find? fun z => decide (z ≤ c.toNat) && decide (c.toNat < z + 10)).map (c.toNat - ·)

theorem digitValue?_lt {c : Char} {n : Nat} (h : digitValue? c = some n) : n < 10 := by
  obtain ⟨z, hz, rfl⟩ := Option.map_eq_some_iff.1 h
  have := List.find?_some hz
  simp only [Bool.and_eq_true, decide_eq_true_eq] at this
  omega

/-- Reads digits, `value` being what was read so far and `after` whether the last
character was a digit, so that the number or an underscore may follow. -/
def readDigits : Nat → Bool → List Char → Option Nat
  | value, after, [] => if after then some value else none
  | value, after, c :: cs =>
    if c = '_' then (if after then readDigits value false cs else none)
    else match digitValue? c with
      | some d => readDigits (10 * value + d) true cs
      | none => none

/-- White space that may stand around a number: all but the ASCII separators `1C` to `1F`. -/
def isPadding (c : Char) : Bool := isBlank c && !(28 ≤ c.toNat && c.toNat ≤ 31)

/-- Reads a whole number: white space around it, a sign and underscores between digits are
allowed. -/
def readInt? (s : String) : Option Int :=
  match ((s.toList.dropWhile isPadding).reverse.dropWhile isPadding).reverse with
  | '-' :: cs => (readDigits 0 false cs).map fun n => -(n : Int)
  | '+' :: cs => (readDigits 0 false cs).map fun n => (n : Int)
  | cs => (readDigits 0 false cs).map fun n => (n : Int)

end StoredSql.Text
