import StoredSql.Statement
import StoredSql.TableText

/-!
# The text of statements

Statements as a complete dialect writes them, in lines that are indented by their depth. A simple
statement is one line that ends in a semicolon; one that holds statements has a line for each of its
words, and the lines of its statements one level deeper between them.
-/

namespace StoredSql.Dialect

/-- What a handler reacts to. -/
def conditionValueText (d : Dialect) : ConditionValue → Except Error String
  | .sqlError code => .ok (countText code)
  | .sqlState state => .ok ("SQLSTATE " ++ quotedText state)
  | .condition name => d.identifier name
  | c => .ok (Keyword.word c.kind)

/-- A call of a procedure. -/
def callText (d : Dialect) (name : String) (args : List Expr) (terminator : String) :
    Except Error String := do
  let args ← exprTexts d args
  pure ("CALL " ++ (← d.qualifiedName name) ++ Shape.parenthesized (commas args) ++ terminator)

/-- The spaces in front of a line at a depth; below zero there are none. -/
def pad (d : Dialect) (depth : Int) : String := spaces (d.indent * depth.toNat)

/-- The first line of a construct, after its label if it has one. -/
def labelled (label : Option String) (text : String) : Except Error String := do
  match Text.nonEmpty label with
  | some l => pure ((← Identifier.checkLabel l) ++ ": " ++ text)
  | none => pure text

/-- An assignment to a variable. -/
def assignmentText (d : Dialect) (a : String × Expr) : Except Error String := do
  let target ← d.variableName a.1
  pure (target ++ " = " ++ (← exprText d a.2))

/-- The lines of a statement that is given as a text. It ends in one semicolon, which is added if
it is missing; lines that are not empty are indented. -/
def rawLines (pad sql : String) : List String :=
  let sql := Text.trimEnd sql
  let sql := if sql.endsWith ";" then sql else sql ++ ";"
  (Text.splitAll '\n' sql).map fun line => if line.isEmpty then line else pad ++ line

/-- The raising of a condition. -/
def signalText (d : Dialect) (condition : ConditionValue) (message : Option Expr)
    (number : Option Nat) : Except Error String := do
  let condition ← d.conditionValueText condition
  let message ← match message with
    | none => pure []
    | some e => do pure ["MESSAGE_TEXT = " ++ (← exprText d e)]
  let items := message ++ match number with
    | none => []
    | some n => ["MYSQL_ERRNO = " ++ countText n]
  pure ("SIGNAL " ++ condition ++ (if items.isEmpty then "" else " SET " ++ commas items) ++ ";")

/-- The text of a declaration of variables. -/
def declareText (d : Dialect) (names : List String) (type : Column) (initial : Option Expr) :
    Except Error String := do
  let names ← names.mapM d.identifier
  let initial ← match initial with
    | none => pure ""
    | some e => do pure (" DEFAULT " ++ (← exprText d e))
  pure ("DECLARE " ++ commas names ++ " " ++ columnType type ++ initial ++ ";")

/-- What an arm of a case is compared with or asks for. -/
def whenText (d : Dialect) (searched : Bool) (test : Expr) : Except Error String :=
  match searched, test with
  | true, .condition c => conditionText d c
  | true, e => .error (.kind (.condition e.kindName))
  | false, e => exprText d e

/-- A handler: what it does follows on its line if that is one line. -/
def handlerLines (header : String) : List String → List String
  | [line] => [header ++ " " ++ Text.trimStart line]
  | body => header :: body

mutual

/-- The lines of a statement. -/
def lines (d : Dialect) (depth : Int) : Statement → Except Error (List String)
  | .declareVariables names type initial => do
    pure [d.pad depth ++ (← d.declareText names type initial)]
  | .declareCondition name value => do
    let name ← d.identifier name
    pure [d.pad depth ++ "DECLARE " ++ name ++ " CONDITION FOR " ++ (← d.conditionValueText value)
      ++ ";"]
  | .declareCursor name query => do
    let name ← d.identifier name
    pure [d.pad depth ++ "DECLARE " ++ name ++ " CURSOR FOR " ++ (← selectText d query) ++ ";"]
  | .declareHandler action conditions body => do
    let conditions ← conditions.mapM d.conditionValueText
    let body ← lines d (depth + 1) body
    pure (handlerLines (d.pad depth ++ "DECLARE " ++ Keyword.word action ++ " HANDLER FOR "
      ++ commas conditions) body)
  | .block b => blockLines d depth ";" b
  | .ifElse branches otherwise => do
    let branches ← branchLines d depth "IF " branches
    let otherwise ← elseLines d depth (depth + 1) otherwise
    pure (branches ++ otherwise ++ [d.pad depth ++ "END IF;"])
  | .cases operand whens otherwise => do
    let head ← match operand with
      | none => pure "CASE"
      | some e => do pure ("CASE " ++ (← exprText d e))
    let whens ← whenLines d depth operand.isNone whens
    let otherwise ← elseLines d (depth + 1) (depth + 2) otherwise
    pure ((d.pad depth ++ head) :: (whens ++ otherwise ++ [d.pad depth ++ "END CASE;"]))
  | .loop label body => do
    let head ← labelled label "LOOP"
    let body ← bodyLines d (depth + 1) body
    pure ((d.pad depth ++ head) :: (body ++ [d.pad depth ++ "END LOOP;"]))
  | .whileLoop label test body => do
    let test ← conditionText d test
    let head ← labelled label ("WHILE " ++ test ++ " DO")
    let body ← bodyLines d (depth + 1) body
    pure ((d.pad depth ++ head) :: (body ++ [d.pad depth ++ "END WHILE;"]))
  | .repeatLoop label test body => do
    let head ← labelled label "REPEAT"
    let body ← bodyLines d (depth + 1) body
    let test ← conditionText d test
    pure ((d.pad depth ++ head) :: (body ++ [d.pad depth ++ "UNTIL " ++ test ++ " END REPEAT;"]))
  | .iterate label => do pure [d.pad depth ++ "ITERATE " ++ (← Identifier.checkLabel label) ++ ";"]
  | .leave label => do pure [d.pad depth ++ "LEAVE " ++ (← Identifier.checkLabel label) ++ ";"]
  | .openCursor name => do pure [d.pad depth ++ "OPEN " ++ (← d.identifier name) ++ ";"]
  | .fetch name targets => do
    let targets ← targets.mapM d.variableName
    let name ← d.identifier name
    pure [d.pad depth ++ "FETCH " ++ name ++ " INTO " ++ commas targets ++ ";"]
  | .closeCursor name => do pure [d.pad depth ++ "CLOSE " ++ (← d.identifier name) ++ ";"]
  | .select query => do pure [d.pad depth ++ (← selectText d query) ++ ";"]
  | .insert query => do pure [d.pad depth ++ (← d.insertText query) ++ ";"]
  | .set assignments => do
    pure [d.pad depth ++ "SET " ++ commas (← assignments.mapM d.assignmentText) ++ ";"]
  | .raw sql => .ok (rawLines (d.pad depth) sql)
  | .empty => .ok [""]
  | .call name args => do pure [d.pad depth ++ (← d.callText name args ";")]
  | .signal condition message number => do
    pure [d.pad depth ++ (← d.signalText condition message number)]
  | .delimiter text =>
    if depth ≤ 0 then .ok ["DELIMITER " ++ text] else .error (.structural .delimiterInside)
  | .foreign o => .error (.kind (.statement o.kindName))

/-- The lines of statements. -/
def bodyLines (d : Dialect) (depth : Int) : List Statement → Except Error (List String)
  | [] => .ok []
  | s :: ss => do
    let first ← lines d depth s
    pure (first ++ (← bodyLines d depth ss))

/-- The lines of what is done if no branch is taken: its word at one depth, its statements at
another one. -/
def elseLines (d : Dialect) (depth bodyDepth : Int) :
    Option (List Statement) → Except Error (List String)
  | none => .ok []
  | some ss => do pure ((d.pad depth ++ "ELSE") :: (← bodyLines d bodyDepth ss))

/-- The lines of a block; the terminator follows its last word. -/
def blockLines (d : Dialect) (depth : Int) (terminator : String) :
    Block → Except Error (List String)
  | ⟨statements, label, _⟩ => do
    let head ← labelled label "BEGIN"
    let body ← bodyLines d (depth + 1) statements
    pure ((d.pad depth ++ head) :: (body ++ [d.pad depth ++ "END" ++ terminator]))

/-- The lines of branches; the word in front of the first one differs from that of the others. -/
def branchLines (d : Dialect) (depth : Int) (word : String) :
    List IfBranch → Except Error (List String)
  | [] => .ok []
  | ⟨test, body⟩ :: rest => do
    let test ← conditionText d test
    let body ← bodyLines d (depth + 1) body
    let rest ← branchLines d depth "ELSEIF " rest
    pure ((d.pad depth ++ word ++ test ++ " THEN") :: (body ++ rest))

/-- The lines of the arms of a case. -/
def whenLines (d : Dialect) (depth : Int) (searched : Bool) :
    List CaseWhen → Except Error (List String)
  | [] => .ok []
  | ⟨test, body⟩ :: rest => do
    let test ← d.whenText searched test
    let body ← bodyLines d (depth + 2) body
    let rest ← whenLines d depth searched rest
    pure ((d.pad (depth + 1) ++ "WHEN " ++ test ++ " THEN") :: (body ++ rest))

end

/-- A statement at a depth. -/
def statementText (d : Dialect) (s : Statement) (depth : Int) : Except Error String := do
  pure (Text.joinWith "\n" (← lines d depth s))

/-- The mark in the place of a block. -/
def blockMark : String := "<block>"

/-- A block. -/
def blockText (d : Dialect) (b : Block) (terminator : String) : Except Error String := do
  pure (Text.joinWith "\n" (← blockLines d 0 terminator b))

end StoredSql.Dialect
