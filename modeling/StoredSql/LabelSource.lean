import StoredSql.Nesting

/-!
# Generated labels

A loop without a label gets one: a stem and the next number for which the label is not taken. Of so
many numbers as there are taken labels, and one more, one is free, so that a bounded search finds
it.
-/

namespace StoredSql

/-- Where labels come from: their stem and the last number used. -/
structure LabelSource where
  stem : String
  last : Nat := 0
deriving DecidableEq, Repr

namespace LabelSource

/-- The label of a number. -/
def label (stem : String) (n : Nat) : String := stem ++ "_" ++ countText n

/-- The first of the next numbers whose label is not taken. -/
def seek (stem : String) (taken : List String) : Nat → Nat → Nat
  | 0, n => n
  | fuel + 1, n =>
    if Scope.hasName taken (label stem n) then seek stem taken fuel (n + 1) else n

/-- The next free label. -/
def next (source : LabelSource) (taken : List String) : String × LabelSource :=
  let n := seek source.stem taken taken.length (source.last + 1)
  (label source.stem n, { source with last := n })

end LabelSource
end StoredSql
