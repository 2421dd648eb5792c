import StoredSql.Text.Hex
import StoredSql.Text.Case
import StoredSql.Text.Parts

/-!
# Universally unique identifiers

A number of 128 bits, written in 32 hexadecimal digits in groups of 8, 4, 4, 4 and 12.
-/

namespace StoredSql

/-- A universally unique identifier. -/
structure Uuid where
  bits : BitVec 128
deriving DecidableEq, Repr

namespace Uuid

/-- The word in front of an identifier that is written as a name. -/
def namePrefix : List Char := "urn:uuid:".toList

/-- Reads 32 hexadecimal digits of either case; dashes and braces do not count. -/
def read? (s : String) : Option Uuid :=
  let cs := s.toList
  let cs := if Text.startsWithChars namePrefix cs then cs.drop namePrefix.length else cs
  let ds := cs.filter fun c => c != '-' && c.toNat != 0x7B && c.toNat != 0x7D
  if ds.length = 32 then (Text.readHex? ds).map fun n => ⟨BitVec.ofNat 128 n⟩ else none

/-- The digits in their groups. -/
def chars (u : Uuid) : List Char :=
  let ds := Text.hexDigits false 32 u.bits.toNat
  ds.take 8 ++ '-' :: ((ds.drop 8).take 4 ++ '-' :: ((ds.drop 12).take 4 ++ '-' ::
    ((ds.drop 16).take 4 ++ '-' :: ds.drop 20)))

end Uuid
end StoredSql
