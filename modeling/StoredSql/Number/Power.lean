/-!
# Powers of the two bases

The powers of ten and of two that decimal and binary numbers are scaled by.
-/

namespace StoredSql.Number

/-- The power of ten with the given exponent. -/
def tenTo (n : Nat) : Nat := Nat.pow 10 n

/-- The power of two with the given exponent. -/
def twoTo (n : Nat) : Nat := Nat.pow 2 n

theorem tenTo_succ (n : Nat) : tenTo (n + 1) = 10 * tenTo n := Nat.mul_comm _ _

theorem twoTo_succ (n : Nat) : twoTo (n + 1) = 2 * twoTo n := Nat.mul_comm _ _

end StoredSql.Number
