import StoredSql.Text.Ranges

/-!
# White space

Which characters are white space (Unicode's `White_Space` and the four ASCII separators), and
trimming a text of it at either end. `trimStart_eq` and `trimEnd_eq` say that trimming only takes
white space away.
-/

namespace StoredSql.Text

/-- White space beyond ASCII. -/
def blankRanges : List (Nat × Nat) := [
  (0x85, 0x85), (0xA0, 0xA0), (0x1680, 0x1680), (0x2000, 0x200A), (0x2028, 0x2029),
  (0x202F, 0x202F), (0x205F, 0x205F), (0x3000, 0x3000)
]

/-- White space: the ASCII controls from tab to carriage return and from `1C` to `1F`, the space,
and the blanks of Unicode. A zero width space is none. -/
def isBlank (c : Char) : Bool :=
  if c.val < 128 then
    c == ' ' || (9 ≤ c.toNat && c.toNat ≤ 13) || (28 ≤ c.toNat && c.toNat ≤ 31)
  else inRanges blankRanges c.toNat

/-- A text without the white space it starts with. -/
def trimStartChars (cs : List Char) : List Char := cs.dropWhile isBlank

/-- A text without the white space it ends with. -/
def trimEndChars (cs : List Char) : List Char := (cs.reverse.dropWhile isBlank).reverse

theorem trimStartChars_eq (cs : List Char) :
    ∃ ws, (∀ c ∈ ws, isBlank c = true) ∧ cs = ws ++ trimStartChars cs :=
  ⟨cs.takeWhile isBlank, List.all_eq_true.1 List.all_takeWhile, by simp [trimStartChars]⟩

theorem trimEndChars_eq (cs : List Char) :
    ∃ ws, (∀ c ∈ ws, isBlank c = true) ∧ cs = trimEndChars cs ++ ws := by
  refine ⟨(cs.reverse.takeWhile isBlank).reverse, fun c h => ?_, ?_⟩
  · exact List.all_eq_true.1 List.all_takeWhile c (List.mem_reverse.1 h)
  · rw [trimEndChars, ← List.reverse_append, List.takeWhile_append_dropWhile, List.reverse_reverse]

/-- `trimStartChars` on strings. -/
def trimStart (s : String) : String := String.ofList (trimStartChars s.toList)

/-- `trimEndChars` on strings. -/
def trimEnd (s : String) : String := String.ofList (trimEndChars s.toList)

/-- A string without white space at either end. -/
def trim (s : String) : String := String.ofList (trimEndChars (trimStartChars s.toList))

/-- Whether a string holds white space. -/
def hasBlank (s : String) : Bool := s.toList.any isBlank

end StoredSql.Text
