import StoredSql.Text.Case
import StoredSql.Text.Digit

/-!
# Decimal numerals

The written form that decimal and binary numbers are read from: a sign, digits with at most one
point, and an exponent of ten; or a word for an infinity or a value that is no number.
-/

namespace StoredSql.Number

/-- What a numeral says. `number` stands for `coefficient * 10 ^ exponent`. -/
inductive Numeral where
  | number (negative : Bool) (coefficient : Nat) (exponent : Int)
  | infinite (negative : Bool)
  | notANumber (negative signaling : Bool) (payload : Nat)
deriving DecidableEq, Repr

/-- The digits that a text starts with, read behind `value`, their count behind `count`, and the
rest of the text. -/
def takeDigits (value count : Nat) : List Char → Nat × Nat × List Char
  | [] => (value, count, [])
  | c :: cs =>
    match Text.digitValue? c with
    | some d => takeDigits (10 * value + d) (count + 1) cs
    | none => (value, count, c :: cs)

/-- A text without a sign in front, and whether the sign was a minus. -/
def takeSign : List Char → Bool × List Char
  | '-' :: cs => (true, cs)
  | '+' :: cs => (false, cs)
  | cs => (false, cs)

/-- An exponent part, which is the rest of the text: nothing, or `e`, a sign and digits. -/
def readExponent? : List Char → Option Int
  | [] => some 0
  | c :: cs =>
    if c = 'e' ∨ c = 'E' then
      let (negative, ds) := takeSign cs
      match takeDigits 0 0 ds with
      | (n, count, []) => if count = 0 then none else some (if negative then -(n : Int) else n)
      | _ => none
    else none

/-- The digits before the point, the digits after it and the exponent. -/
def readNumber? (negative : Bool) (cs : List Char) : Option Numeral :=
  let (whole, n, rest) := takeDigits 0 0 cs
  let (coefficient, m, rest) := match rest with
    | '.' :: ds => takeDigits whole 0 ds
    | _ => (whole, 0, rest)
  if n + m = 0 then none
  else (readExponent? rest).map fun e => .number negative coefficient (e - m)

/-- The words for values that are no finite numbers, and the digits of a payload. -/
def readWord? (negative : Bool) (word : List Char) : Option Numeral :=
  match String.ofList (word.takeWhile Char.isAlpha),
      takeDigits 0 0 (word.dropWhile Char.isAlpha) with
  | "inf", (_, 0, []) => some (.infinite negative)
  | "infinity", (_, 0, []) => some (.infinite negative)
  | "nan", (n, _, []) => some (.notANumber negative false n)
  | "snan", (n, _, []) => some (.notANumber negative true n)
  | _, _ => none

/-- Reads a numeral; white space around it and underscores in it do not count. -/
def Numeral.read? (s : String) : Option Numeral :=
  let (negative, cs) := takeSign ((Text.trim s).toList.filter (· != '_'))
  match readNumber? negative cs with
  | some n => some n
  | none => readWord? negative (Text.lower (String.ofList cs)).toList

end StoredSql.Number
