import StoredSql.Text.CaseTable
import StoredSql.Text.CaseContext

/-!
# Upper and lower case

The full case mappings of Unicode on strings: a character may become several, and a capital sigma
at the end of a word becomes a final sigma. Names are compared by their lower case (`sameName`).
-/

namespace StoredSql.Text

/-- Where the first rule that says something about `c` sends it. -/
def mapByRules (rules : List CaseRule) (c : Char) : Char :=
  match rules.findSome? (·.image? c.toNat) with
  | some n => Char.ofNat n
  | none => c

/-- The lower case of a character away from the end of a word. Only the dotted capital I becomes
two characters. -/
def lowerChar (c : Char) : List Char :=
  if c.val < 128 then [c.toLower]
  else if c.toNat = 0x130 then ['i', Char.ofNat 0x307]
  else [mapByRules lowerRules c]

/-- The upper case of a character. -/
def upperChar (c : Char) : List Char :=
  if c.val < 128 then [c.toUpper]
  else match upperLong.lookup c.toNat with
    | some ns => ns.map Char.ofNat
    | none => [mapByRules upperRules c]

/-- Whether the first character that is not ignorable is cased. -/
def casedAhead : List Char → Bool
  | [] => false
  | c :: cs => if isIgnorable c then casedAhead cs else isCased c

/-- The lower case of a text, `cased` telling whether a cased character stands before it. -/
def lowerAfter (cased : Bool) : List Char → List Char
  | [] => []
  | c :: cs =>
    (if c.toNat = 0x3A3 then
        [if cased && !casedAhead cs then Char.ofNat 0x3C2 else Char.ofNat 0x3C3]
      else lowerChar c)
      ++ lowerAfter (if isIgnorable c then cased else isCased c) cs

/-- The lower case of a string. -/
def lower (s : String) : String := String.ofList (lowerAfter false s.toList)

/-- The upper case of a string. -/
def upper (s : String) : String := String.ofList (s.toList.flatMap upperChar)

/-- Whether two names are the same: names are compared without regard to case. -/
def sameName (a b : String) : Bool := lower a == lower b

@[simp] theorem sameName_iff {a b : String} : sameName a b = true ↔ lower a = lower b := by
  simp [sameName]

theorem sameName_comm (a b : String) : sameName a b = sameName b a := BEq.comm

end StoredSql.Text
