import StoredSql.Program
import StoredSql.StatementText

/-!
# The text of stored programs

A stored program is one unit for a client that splits its input at the delimiter: while it is read,
the delimiter is one that does not occur in it.
-/

namespace StoredSql.Dialect

/-- The delimiters that are tried, in this order. -/
def delimiterCandidates : List String := ["$$", "//", "$$$", "@@", "##", "%%", "|||"]

/-- The delimiter of the dialect, or the first candidate that does not occur in the text. -/
def chooseDelimiter (d : Dialect) (text : String) : Except Error String :=
  match (d.delimiter :: delimiterCandidates).find? fun c => !Text.occursIn c text with
  | some c => .ok c
  | none => .error (.naming .noFreeDelimiter)

/-- Lines with a text after the last of them. -/
def endWith (text : String) : List String → List String
  | [] => []
  | [line] => [line ++ text]
  | line :: rest => line :: endWith text rest

/-- A program between changes of the delimiter, after what removes an older one. -/
def programText (d : Dialect) (drop : Option String) (header : List String) (body : Block) :
    Except Error String := do
  let unit := header ++ (← blockLines d 0 "" body)
  let delimiter ← d.chooseDelimiter (Text.joinWith "\n" unit)
  pure (Text.joinWith "\n" (drop.toList ++ ["DELIMITER " ++ delimiter] ++ endWith delimiter unit
    ++ ["DELIMITER ;"]))

/-- A procedure. -/
def procedureText (d : Dialect) (p : Procedure) (dropExisting : Bool) : Except Error String := do
  let name ← d.qualifiedName p.name
  let parameters ← p.parameters.mapM fun q => d.parameterText q.mode q.name q.type
  let header := ["CREATE PROCEDURE " ++ name ++ Shape.parenthesized (commas parameters)]
    ++ ((p.comment.map fun s => "COMMENT " ++ quotedText s).toList
      ++ partIf p.deterministic "DETERMINISTIC")
  let drop := if dropExisting then some ("DROP PROCEDURE IF EXISTS " ++ name ++ ";") else none
  d.programText drop header p.body

/-- A trigger. -/
def triggerText (d : Dialect) (t : Trigger) (dropExisting : Bool) : Except Error String := do
  let name ← d.qualifiedName t.name
  let table ← d.tableName t.table.schema t.table.name
  let header := ["CREATE TRIGGER " ++ name ++ " " ++ Keyword.word t.timing ++ " "
    ++ Keyword.word t.event ++ " ON " ++ table ++ " FOR EACH ROW"]
  let drop := if dropExisting then some ("DROP TRIGGER IF EXISTS " ++ name ++ ";") else none
  d.programText drop header t.body

end StoredSql.Dialect
