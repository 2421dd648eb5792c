/-!
# Taking texts apart and putting them together

Joining texts with a separator, cutting a text at a character, and looking for one text in another.
`joinChars_splitChars` says that a text is the join of the parts it is cut into.
-/

namespace StoredSql.Text

/-- The texts one after the other, with `sep` between neighbours. -/
def joinWith (sep : String) : List String → String
  | [] => ""
  | [s] => s
  | s :: t :: rest => s ++ sep ++ joinWith sep (t :: rest)

/-- A text that may be missing, an empty one counting as missing. -/
def nonEmpty : Option String → Option String
  | some "" => none
  | s => s

/-- The parts of a text between the characters `sep`; there is one more of them than separators. -/
def splitChars (sep : Char) : List Char → List (List Char)
  | [] => [[]]
  | c :: cs =>
    match splitChars sep cs with
    | [] => [[c]]
    | part :: parts => if c = sep then [] :: part :: parts else (c :: part) :: parts

/-- `splitChars` on strings. -/
def splitAll (sep : Char) (s : String) : List String :=
  (splitChars sep s.toList).map String.ofList

/-- The parts with one `sep` between neighbours. -/
def joinChars (sep : Char) : List (List Char) → List Char
  | [] => []
  | [p] => p
  | p :: q :: rest => p ++ sep :: joinChars sep (q :: rest)

theorem eq_some_of_nonEmpty {o : Option String} {s : String} (h : nonEmpty o = some s) :
    o = some s := by
  unfold nonEmpty at h
  split at h
  · cases h
  · exact h

theorem nonEmpty_some (s : String) : nonEmpty (some s) = if s = "" then none else some s := by
  unfold nonEmpty
  split <;> simp_all

theorem splitChars_ne_nil (sep : Char) (cs : List Char) : splitChars sep cs ≠ [] := by
  cases cs with
  | nil => simp [splitChars]
  | cons c cs =>
    rw [splitChars]
    split
    · simp
    · split <;> simp

theorem joinChars_splitChars (sep : Char) (cs : List Char) :
    joinChars sep (splitChars sep cs) = cs := by
  induction cs with
  | nil => rfl
  | cons c cs ih =>
    rw [splitChars]
    split
    · rename_i h; exact absurd h (splitChars_ne_nil sep cs)
    · rename_i part parts h
      rw [h] at ih
      split
      · rename_i hc; subst hc; simp [joinChars, ih]
      · cases parts <;> simp_all [joinChars]

/-- What stands before and after the first `sep`. -/
def cutFirstChars (sep : Char) : List Char → Option (List Char × List Char)
  | [] => none
  | c :: cs =>
    if c = sep then some ([], cs)
    else (cutFirstChars sep cs).map fun p => (c :: p.1, p.2)

/-- `cutFirstChars` on strings. -/
def cutFirst (sep : Char) (s : String) : Option (String × String) :=
  (cutFirstChars sep s.toList).map fun p => (String.ofList p.1, String.ofList p.2)

/-- What stands before and after the last `sep`. -/
def cutLast (sep : Char) (s : String) : Option (String × String) :=
  (cutFirstChars sep s.toList.reverse).map fun p =>
    (String.ofList p.2.reverse, String.ofList p.1.reverse)

/-- Whether the text `needle` starts the text `hay`. -/
def startsWithChars : List Char → List Char → Bool
  | [], _ => true
  | _ :: _, [] => false
  | a :: needle, b :: hay => a == b && startsWithChars needle hay

/-- Whether the text `needle` occurs in the text `hay`. -/
def occursInChars (needle : List Char) : List Char → Bool
  | [] => needle.isEmpty
  | c :: cs => startsWithChars needle (c :: cs) || occursInChars needle cs

/-- `occursInChars` on strings. -/
def occursIn (needle hay : String) : Bool := occursInChars needle.toList hay.toList

theorem startsWithChars_iff {needle hay : List Char} :
    startsWithChars needle hay = true ↔ needle <+: hay := by
  induction needle generalizing hay with
  | nil => simp [startsWithChars]
  | cons a needle ih =>
    cases hay with
    | nil => simp [startsWithChars]
    | cons b hay => simp [startsWithChars, ih, List.cons_prefix_cons]

theorem occursInChars_iff {needle hay : List Char} :
    occursInChars needle hay = true ↔ needle <:+: hay := by
  induction hay with
  | nil => simp [occursInChars, List.infix_nil]
  | cons c cs ih => simp [occursInChars, startsWithChars_iff, ih, List.infix_cons_iff]

end StoredSql.Text
