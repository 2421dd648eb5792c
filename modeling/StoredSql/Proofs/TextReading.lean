import StoredSql.Proofs.Quotes
import StoredSql.Rendering

/-!
# Reading quoted tokens back

A token in quotes is read character by character from behind its opening quote: a quote that is
written twice stands for one, a single one ends the token, and within single and double quotes a
backslash and the character behind it stand for what `Quote.unescaped` says. If each character of a
text is written so that it is read as that character whatever follows (`Quote.Encodes`), the text in
quotes is read back unless a further quote follows (`Quote.read_encoded`). Literals of texts are
written so (`single_encodes_escapeChar`), and so are names in backticks
(`backtick_encodes_doubled`).
-/

namespace StoredSql

namespace Quote

/-- What a backslash and the character behind it stand for. Pattern characters keep the backslash,
and a character without a meaning of its own stands for itself. -/
def unescaped : Char → List Char
  | '0' => ['\x00']
  | 'b' => ['\x08']
  | 't' => ['\t']
  | 'n' => ['\n']
  | 'r' => ['\r']
  | 'Z' => ['\x1a']
  | '%' => ['\\', '%']
  | '_' => ['\\', '_']
  | c => [c]

/-- Characters in front of what has been read. -/
def before (cs : List Char) (read : List Char × List Char) : List Char × List Char :=
  (cs ++ read.1, read.2)

/-- What stands in quotes, from behind the opening one, and what follows the closing one. -/
def content (q : Quote) : List Char → Option (List Char × List Char)
  | [] => none
  | [c] => if c = q.char then some ([], []) else none
  | c :: c' :: cs =>
    if c = q.char then
      if c' = q.char then (q.content cs).map (before [c]) else some ([], c' :: cs)
    else if c = '\\' ∧ q ≠ backtick then (q.content cs).map (before (unescaped c'))
    else (q.content (c' :: cs)).map (before [c])

/-- What a token at the beginning of a text stands for, and the rest of the text. -/
def read (q : Quote) (t : String) : Option (String × String) :=
  match t.toList with
  | [] => none
  | c :: cs =>
    if c = q.char then (q.content cs).map fun p => (String.ofList p.1, String.ofList p.2) else none

/-- Whether each character is written so that it is read whatever follows. -/
def Encodes (q : Quote) (write : Char → List Char) : Prop :=
  ∀ c cs, q.content (write c ++ cs) = (q.content cs).map (before [c])

variable {q : Quote} {write : Char → List Char}

/-- A character that neither ends the token nor escapes the next one is read as it is. -/
theorem content_cons {c : Char} (hq : c ≠ q.char) (hb : c ≠ '\\' ∨ q = backtick) (cs : List Char) :
    q.content (c :: cs) = (q.content cs).map (before [c]) := by
  have hb : ¬ (c = '\\' ∧ q ≠ backtick) := fun h => hb.elim (· h.1) h.2
  cases cs with
  | nil => simp [content, hq]
  | cons c' cs => rw [content, if_neg hq, if_neg hb]

/-- A quote that is written twice stands for one. -/
theorem content_doubled (cs : List Char) :
    q.content (q.char :: q.char :: cs) = (q.content cs).map (before [q.char]) := by
  rw [content, if_pos rfl, if_pos rfl]

theorem content_escaped (hq : q ≠ backtick) (c : Char) (cs : List Char) :
    q.content ('\\' :: c :: cs) = (q.content cs).map (before (unescaped c)) := by
  have hne : '\\' ≠ q.char := by cases q <;> decide
  rw [content, if_neg hne, if_pos ⟨rfl, hq⟩]

/-- A quote ends the token if it is not followed by another one. -/
theorem content_end {rest : List Char} (h : rest.head? ≠ some q.char) :
    q.content (q.char :: rest) = some ([], rest) := by
  cases rest with
  | nil => rw [content, if_pos rfl]
  | cons c cs =>
    rw [content, if_pos rfl, if_neg]
    rintro rfl
    exact h rfl

/-- What is written character by character is read character by character. -/
theorem content_flatMap (hwrite : q.Encodes write) (s : List Char) {rest : List Char}
    (h : rest.head? ≠ some q.char) :
    q.content (s.flatMap write ++ q.char :: rest) = some (s, rest) := by
  induction s with
  | nil => exact content_end h
  | cons c s ih =>
    rw [List.flatMap_cons, List.append_assoc, hwrite, ih]
    rfl

/-- A text in quotes is read back, and what follows it is left. -/
theorem read_encoded (hwrite : q.Encodes write) (s rest : String)
    (h : rest.toList.head? ≠ some q.char) :
    q.read (String.ofList (q.char :: (s.toList.flatMap write ++ [q.char])) ++ rest)
      = some (s, rest) := by
  have htext : (String.ofList (q.char :: (s.toList.flatMap write ++ [q.char])) ++ rest).toList
      = q.char :: (s.toList.flatMap write ++ q.char :: rest.toList) := by
    simp
  rw [read, htext]
  simp only [if_true, content_flatMap hwrite s.toList h, Option.map_some, String.ofList_toList]

/-! ## The quotes of texts and of names -/

theorem single_encodes_escapeChar : single.Encodes Dialect.escapeChar := by
  intro c cs
  unfold Dialect.escapeChar
  split
  · rename_i hc
    subst hc
    exact content_escaped (q := single) nofun '\\' cs
  split
  · rename_i hc
    subst hc
    exact content_doubled cs
  split
  · rename_i hc
    obtain rfl : c = '\x00' := Char.toNat_inj.1 hc
    exact content_escaped (q := single) nofun '0' cs
  split
  · rename_i hc
    obtain rfl : c = '\x1a' := Char.toNat_inj.1 hc
    exact content_escaped (q := single) nofun 'Z' cs
  · rename_i hb hq _ _
    exact content_cons hq (.inl hb) cs

theorem backtick_encodes_doubled :
    backtick.Encodes fun c => if c = Dialect.backtick then [c, c] else [c] := by
  intro c cs
  show backtick.content ((if c = Dialect.backtick then [c, c] else [c]) ++ cs) = _
  split
  · rename_i hc
    subst hc
    exact content_doubled cs
  · rename_i hc
    exact content_cons hc (.inr rfl) cs

end Quote

/-! ## Literals of texts -/

namespace Dialect

/-- A character replaced everywhere in a text. -/
def replaced (c : Char) (new : List Char) (cs : List Char) : List Char :=
  cs.flatMap fun d => if d = c then new else [d]

/-- Escaping character by character is replacing backslashes first and then the three other
characters: none of these stands in what was put in for another one before. -/
theorem escape_eq_replaced (s : String) : (escape s).toList
    = replaced '\x1a' ['\\', 'Z'] (replaced '\x00' ['\\', '0']
        (replaced '\'' ['\'', '\''] (replaced '\\' ['\\', '\\'] s.toList))) := by
  rw [escape, String.toList_ofList]
  simp only [replaced, List.flatMap_assoc]
  congr 1
  funext c
  unfold escapeChar
  split
  · rename_i hc
    subst hc
    decide
  split
  · rename_i hc
    subst hc
    decide
  split
  · rename_i hc
    obtain rfl : c = '\x00' := Char.toNat_inj.1 hc
    decide
  split
  · rename_i hc
    obtain rfl : c = '\x1a' := Char.toNat_inj.1 hc
    decide
  · rename_i hb hq h0 hZ
    have h0 : c ≠ '\x00' := fun h => h0 (h ▸ rfl)
    have hZ : c ≠ '\x1a' := fun h => hZ (h ▸ rfl)
    simp [hq, h0, hZ]

end Dialect

/-- **The literal of a text is read back as the text.** Whatever follows it, if that does not begin
with a quote, the reader takes just the literal and finds the text; so different texts have
different literals. -/
theorem text_literal_reads {d : Dialect} (hd : d.kind.complete = true) :
    (∀ s : String, ∃ literal, d.renderLiteral (.text s) = .ok literal ∧
      ∀ rest : String, rest.toList.head? ≠ some '\'' →
        Quote.single.read (literal ++ rest) = some (s, rest)) ∧
    ∀ s s' : String, d.renderLiteral (.text s) = d.renderLiteral (.text s') → s = s' := by
  have hrender : ∀ s, d.renderLiteral (.text s) = .ok (Dialect.quotedText s) := fun s => by
    rw [Dialect.renderLiteral, Dialect.orMark, if_pos hd]
    rfl
  have hread : ∀ s rest : String, rest.toList.head? ≠ some '\'' →
      Quote.single.read (Dialect.quotedText s ++ rest) = some (s, rest) := fun s rest h => by
    rw [Dialect.quotedText_eq]
    exact Quote.read_encoded Quote.single_encodes_escapeChar s rest h
  refine ⟨fun s => ⟨_, hrender s, hread s⟩, fun s s' h => ?_⟩
  rw [hrender, hrender, Except.ok.injEq] at h
  have hs := hread s "" (by decide)
  rw [h, hread s' "" (by decide)] at hs
  exact (congrArg Prod.fst (Option.some.inj hs)).symm

/-- A text of backslashes and quotes, in front of a text that goes on with both. -/
theorem slashedText_reads :
    Dialect.renderLiteral {} (.text "\\'\\''\x00\\0") = .ok "'\\\\''\\\\''''\\0\\\\0'" ∧
      Quote.single.read ("'\\\\''\\\\''''\\0\\\\0'" ++ "\\' '") = some ("\\'\\''\x00\\0", "\\' '") := by
  obtain ⟨literal, hliteral, hread⟩ := (text_literal_reads (d := {}) rfl).1 "\\'\\''\x00\\0"
  obtain rfl : "'\\\\''\\\\''''\\0\\\\0'" = literal := Except.ok.inj hliteral
  exact ⟨hliteral, hread "\\' '" (by decide)⟩

end StoredSql
