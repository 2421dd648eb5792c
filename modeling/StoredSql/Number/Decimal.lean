import StoredSql.Number.Digits
import StoredSql.Number.Numeral

/-!
# Decimal numbers

A decimal number keeps its digits and its exponent: `1.50` and `1.5` are two decimals of one value.
`positional` writes all its digits around a point, `scientific` with an exponent where a message
shows it.
-/

namespace StoredSql.Number

/-- A decimal number. `finite` stands for `coefficient * 10 ^ exponent` under its sign. -/
inductive Decimal where
  | finite (negative : Bool) (coefficient : Nat) (exponent : Int)
  | infinite (negative : Bool)
  | notANumber (negative signaling : Bool) (payload : Nat)
deriving DecidableEq, Repr, Inhabited

namespace Decimal

/-- The decimal that a numeral writes. -/
def read? (s : String) : Option Decimal :=
  (Numeral.read? s).map fun
    | .number negative coefficient exponent => .finite negative coefficient exponent
    | .infinite negative => .infinite negative
    | .notANumber negative signaling payload => .notANumber negative signaling payload

/-- Whether the decimal is a number other than the infinities. -/
def isFinite : Decimal → Bool
  | .finite .. => true
  | _ => false

/-- Whether the decimal is one that no comparison takes. -/
def isSignaling : Decimal → Bool
  | .notANumber _ signaling _ => signaling
  | _ => false

/-- A sign in front of digits. -/
def signed (negative : Bool) (cs : List Char) : String :=
  String.ofList (if negative then '-' :: cs else cs)

/-- The digits of `coefficient * 10 ^ exponent` without an exponent: zeros follow the digits where
the exponent is positive, a point stands before the last of them where it is negative. -/
def positionalDigits (coefficient : Nat) : Int → List Char
  | .ofNat e => if coefficient = 0 then ['0'] else digits coefficient ++ List.replicate e '0'
  | .negSucc e => withPoint (digits coefficient) (e + 1)

/-- Exponents are written with their sign. -/
def exponentText (e : Int) : List Char :=
  if e < 0 then '-' :: digits e.natAbs else '+' :: digits e.natAbs

/-- The decimal with an exponent of ten where it ends in zeros that are not written, or where more
than five zeros would follow the point. -/
def scientificDigits (coefficient : Nat) (exponent : Int) : List Char :=
  let ds := digits coefficient
  let leading := exponent + ds.length - 1
  if exponent ≤ 0 ∧ -6 ≤ leading then withPoint ds (-exponent).toNat
  else
    let mantissa := match ds with
      | [] => []
      | [d] => [d]
      | d :: rest => d :: '.' :: rest
    if leading = 0 then mantissa else mantissa ++ 'E' :: exponentText leading

/-- The word for a value that is no number. -/
def notANumberText (signaling : Bool) (payload : Nat) : List Char :=
  (if signaling then ['s', 'N', 'a', 'N'] else ['N', 'a', 'N']) ++
    (if payload = 0 then [] else digits payload)

/-- A decimal as messages show it. -/
def scientific : Decimal → String
  | .finite negative coefficient exponent => signed negative (scientificDigits coefficient exponent)
  | .infinite negative => signed negative "Infinity".toList
  | .notANumber negative signaling payload => signed negative (notANumberText signaling payload)

end Decimal
end StoredSql.Number
