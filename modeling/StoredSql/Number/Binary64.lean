import StoredSql.Number.Numeral
import StoredSql.Number.Power

/-!
# Binary floating-point numbers

The 64-bit binary format of IEEE 754 in exact arithmetic. A finite value is a significand below
`2 ^ 53` times a power of two from `2 ^ -1074` to `2 ^ 971`; `nearest` rounds a fraction to the
value next to it, and to the even significand when two are equally near.
-/

namespace StoredSql.Number

/-- A binary floating-point number. `finite` stands for `significand * 2 ^ exponent` under its
sign. -/
inductive Binary64 where
  | finite (negative : Bool) (significand : Nat) (exponent : Int)
  | infinite (negative : Bool)
  | notANumber
deriving DecidableEq, Repr, Inhabited

namespace Binary64

/-- Whether the value is a number other than the infinities. -/
def isFinite : Binary64 → Bool
  | .finite .. => true
  | _ => false

/-- The least exponent of a finite value. -/
def leastExponent : Int := -1074

/-- The greatest exponent of a finite value. -/
def greatestExponent : Int := 971

/-- `num / den` scaled by `2 ^ -e`, as a fraction of natural numbers. -/
def scaled (num den : Nat) : Int → Nat × Nat
  | .ofNat e => (num, den * twoTo e)
  | .negSucc e => (num * twoTo (e + 1), den)

/-- The exponent at which `num / den` has a significand of 53 bits, or the least one. -/
def exponentFor (num den : Nat) : Int :=
  let guess : Int := (Nat.log2 num : Int) - (Nat.log2 den : Int) - 52
  let (n, d) := scaled num den guess
  let e := if n / d < twoTo 52 then guess - 1 else guess
  max e leastExponent

/-- The quotient rounded to nearest, a tie to the even neighbour. -/
def roundDiv (num den : Nat) : Nat :=
  let q := num / den
  let r := num % den
  if 2 * r > den ∨ (2 * r = den ∧ q % 2 = 1) then q + 1 else q

/-- The binary number nearest to `num / den`. -/
def nearest (negative : Bool) (num den : Nat) : Binary64 :=
  if num = 0 then .finite negative 0 leastExponent
  else
    let e := exponentFor num den
    let (n, d) := scaled num den e
    let m := roundDiv n d
    let (m, e) := if m = twoTo 53 then (twoTo 52, e + 1) else (m, e)
    if e > greatestExponent then .infinite negative else .finite negative m e

/-- The binary number nearest to a numeral. Numerals beyond `10 ^ 400` and below `10 ^ -400` are
out of reach of any finite value but zero. -/
def ofNumeral : Numeral → Binary64
  | .number negative coefficient exponent =>
    let leading := exponent + (Nat.toDigits 10 coefficient).length
    if coefficient = 0 ∨ leading < -400 then .finite negative 0 leastExponent
    else if leading > 400 then .infinite negative
    else match exponent with
      | .ofNat e => nearest negative (coefficient * tenTo e) 1
      | .negSucc e => nearest negative coefficient (tenTo (e + 1))
  | .infinite negative => .infinite negative
  | .notANumber .. => .notANumber

/-- The binary number that a text writes. -/
def read? (s : String) : Option Binary64 := (Numeral.read? s).map ofNumeral

end Binary64
end StoredSql.Number
