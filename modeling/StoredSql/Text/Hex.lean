/-!
# Hexadecimal digits

Numbers in hexadecimal with a fixed count of digits, and the digits read back. `hexValue?_hexDigit`
says that a digit reads back in either case.
-/

namespace StoredSql.Text

/-- The digit of `d < 16`, in upper case if asked. -/
def hexDigit (capital : Bool) (d : Nat) : Char :=
  if d < 10 then Char.ofNat (48 + d) else Char.ofNat ((if capital then 55 else 87) + d)

/-- The value of a hexadecimal digit of either case. -/
def hexValue? (c : Char) : Option Nat :=
  let n := c.toNat
  if 48 ≤ n ∧ n ≤ 57 then some (n - 48)
  else if 65 ≤ n ∧ n ≤ 70 then some (n - 55)
  else if 97 ≤ n ∧ n ≤ 102 then some (n - 87)
  else none

/-- The last `width` digits of `n`, the most significant first. -/
def hexDigits (capital : Bool) : Nat → Nat → List Char
  | 0, _ => []
  | width + 1, n => hexDigits capital width (n / 16) ++ [hexDigit capital (n % 16)]

/-- The number that digits write, the most significant first. -/
def readHex? (cs : List Char) : Option Nat :=
  cs.foldlM (fun n c => (hexValue? c).map (16 * n + ·)) 0

/-- Whether a character may stand between two bytes: a space, a tab or a line end. -/
def isGap (c : Char) : Bool := c == ' ' || (9 ≤ c.toNat && c.toNat ≤ 13)

/-- The bytes that pairs of digits write, with gaps between them. -/
def readBytes? : List Char → Option (List UInt8)
  | [] => some []
  | [a] => if isGap a then some [] else none
  | a :: b :: rest =>
    if isGap a then readBytes? (b :: rest)
    else do
      let hi ← hexValue? a
      let lo ← hexValue? b
      let bytes ← readBytes? rest
      pure (UInt8.ofNat (16 * hi + lo) :: bytes)

end StoredSql.Text
