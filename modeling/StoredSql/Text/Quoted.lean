import StoredSql.Text.Hex
import StoredSql.Text.Visible

/-!
# Texts shown in messages

A message shows a text between single quotes, or between double quotes if it holds a single quote
and no double one. The quote around it, backslashes, line ends and tabs are escaped, and so is
every character that is not visible. Byte strings are shown in the same way, but in those that may
change a single quote is always escaped.
-/

namespace StoredSql.Text

/-- The quote that a text is shown in. -/
def quoteFor (cs : List Char) : Char := if cs.contains '\'' && !cs.contains '"' then '"' else '\''

/-- The escape of a character that is not visible, by its code point. -/
def escapeHidden (c : Char) : List Char :=
  if c.toNat < 0x100 then ['\\', 'x'] ++ hexDigits false 2 c.toNat
  else if c.toNat < 0x10000 then ['\\', 'u'] ++ hexDigits false 4 c.toNat
  else ['\\', 'U'] ++ hexDigits false 8 c.toNat

/-- One character of a text shown in the quote `q`. -/
def showChar (q c : Char) : List Char :=
  if c = '\\' then ['\\', '\\']
  else if c = q then ['\\', q]
  else if c = '\n' then ['\\', 'n']
  else if c = '\r' then ['\\', 'r']
  else if c = '\t' then ['\\', 't']
  else if isVisible c then [c]
  else escapeHidden c

/-- A text as messages show it. -/
def quoted (s : String) : String :=
  let q := quoteFor s.toList
  String.ofList (q :: s.toList.flatMap (showChar q) ++ [q])

/-- A byte string as messages show it, with `escaped` for the character that is escaped as the quote
is. Bytes beyond ASCII are escaped. -/
def quotedWith (escaped : Char → Char) (bytes : List UInt8) : String :=
  let cs := bytes.map fun b => Char.ofNat b.toNat
  let q := quoteFor cs
  String.ofList ('b' :: q :: cs.flatMap
    (fun c => if c.toNat < 127 then showChar (escaped q) c else escapeHidden c) ++ [q])

/-- A byte string as messages show it. -/
def quotedBytes (bytes : List UInt8) : String := quotedWith id bytes

/-- A byte string that may change, as messages show it. -/
def quotedBuffer (bytes : List UInt8) : String := quotedWith (fun _ => '\'') bytes

end StoredSql.Text
