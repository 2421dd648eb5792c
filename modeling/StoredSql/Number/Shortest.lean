import StoredSql.Number.Binary64
import StoredSql.Number.Digits

/-!
# The shortest decimal of a binary number

A finite binary number is written with the fewest decimal digits that read back as the same number,
and of those with the decimal nearest to it. The value and the interval of the reals that round to
it are compared with decimals in exact arithmetic; the ends of the interval belong to it when the
significand is even.
-/

namespace StoredSql.Number.Binary64

/-- Compares `x * 2 ^ s` with `c * 10 ^ k`. -/
def compareDecimal (x : Nat) (s : Int) (c : Nat) (k : Int) : Ordering :=
  compare (x * twoTo s.toNat * tenTo (-k).toNat) (c * tenTo k.toNat * twoTo (-s).toNat)

/-- The interval of the reals that round to a significand, in quarters of its last place. -/
structure Interval where
  low : Nat
  value : Nat
  high : Nat
  exponent : Int
  closed : Bool

/-- Around a power of two the lower neighbour is nearer. -/
def interval (m : Nat) (e : Int) : Interval where
  low := if m = twoTo 52 ∧ e > leastExponent then 4 * m - 1 else 4 * m - 2
  value := 4 * m
  high := 4 * m + 2
  exponent := e - 2
  closed := m % 2 = 0

/-- Whether `c * 10 ^ k` lies in the interval. -/
def Interval.holds (i : Interval) (c : Nat) (k : Int) : Bool :=
  match compareDecimal i.low i.exponent c k, compareDecimal i.high i.exponent c k with
  | .lt, .gt => true
  | .eq, _ => i.closed
  | _, .eq => i.closed
  | _, _ => false

/-- The count of digits before the point, or minus the count of zeros after it: the least `n` with
the value below `10 ^ n`. -/
def Interval.magnitude (i : Interval) : Nat → Int → Int
  | 0, n => n
  | fuel + 1, n =>
    if compareDecimal i.value i.exponent 1 n = .lt then i.magnitude fuel (n - 1) else n + 1

/-- The quotient of the value by `10 ^ k`, rounded down. -/
def Interval.floorAt (i : Interval) (k : Int) : Nat :=
  (i.value * twoTo i.exponent.toNat * tenTo (-k).toNat) /
    (tenTo k.toNat * twoTo (-i.exponent).toNat)

/-- Of `c` and `c + 1` the one whose multiple of `10 ^ k` is nearer to the value, the even one if
both are equally near. -/
def Interval.nearer (i : Interval) (c : Nat) (k : Int) : Nat :=
  match compareDecimal (2 * i.value) i.exponent (2 * c + 1) k with
  | .lt => c
  | .gt => c + 1
  | .eq => if c % 2 = 0 then c else c + 1

/-- The decimal in the interval with `p` digits, if there is one; `n` is the magnitude. -/
def Interval.decimal? (i : Interval) (n : Int) (p : Nat) : Option (Nat × Int) :=
  let k := n - p
  let c := i.floorAt k
  match i.holds c k, i.holds (c + 1) k with
  | true, true => some (i.nearer c k, k)
  | true, false => some (c, k)
  | false, true => some (c + 1, k)
  | false, false => none

/-- The digits of the shortest decimal and the place of its point: the value is about `0.ddd` times
ten to that place. Seventeen digits are always enough. -/
def shortest (m : Nat) (e : Int) : List Char × Int :=
  let i := interval m e
  let n := i.magnitude 700 310
  match (List.range' 1 17).findSome? (i.decimal? n) with
  | some (c, k) => (significantDigits c, k + (digits c).length)
  | none => (['0'], 1)

/-- Positional notation is used from `0.0001` to below `10 ^ 16`. Elsewhere an exponent of at least
two digits is written with its sign. A whole number ends in `.0`. -/
def shortestText (ds : List Char) (place : Int) : List Char :=
  if -4 < place ∧ place ≤ 16 then
    if place ≤ 0 then '0' :: '.' :: (List.replicate (-place).toNat '0' ++ ds)
    else if place.toNat < ds.length then withPoint ds (ds.length - place.toNat)
    else ds ++ List.replicate (place.toNat - ds.length) '0' ++ ['.', '0']
  else
    let e := place - 1
    let es := digits e.natAbs
    let mantissa := match ds with
      | d :: d' :: rest => d :: '.' :: d' :: rest
      | ds => ds
    mantissa ++ 'e' :: (if e < 0 then '-' else '+') :: (if es.length < 2 then '0' :: es else es)

/-- A binary number as a text. -/
def text : Binary64 → String
  | .finite negative m e =>
    let cs := if m = 0 then ['0', '.', '0']
      else let (ds, place) := shortest m e; shortestText ds place
    String.ofList (if negative then '-' :: cs else cs)
  | .infinite negative => if negative then "-inf" else "inf"
  | .notANumber => "nan"

end StoredSql.Number.Binary64
