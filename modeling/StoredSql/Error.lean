import StoredSql.Number.Digits
import StoredSql.Text.Parts
import StoredSql.Text.Quoted

/-!
# Causes of failure

Everything that can go wrong, by cause. A cause carries what its message tells: names as they were
given, and other values as messages show them (`shown`) or by the name of their kind (`kind`).
`Error.message` is the only place where the wording of a message is fixed.
-/

namespace StoredSql

/-- A count in a message. -/
def countText (n : Nat) : String := String.ofList (Number.digits n)

/-- A value has no literal. -/
inductive LiteralError where
  | unsupportedKind (kind : String)
  | nonFiniteFloat (shown : String)
  | nonFiniteDecimal (shown : String)
deriving DecidableEq, Repr

def LiteralError.message : LiteralError → String
  | .unsupportedKind kind => "Unsupported literal type: " ++ kind
  | .nonFiniteFloat shown => "Non-finite float has no SQL literal: " ++ shown
  | .nonFiniteDecimal shown => "Non-finite decimal has no SQL literal: " ++ shown

/-- A name cannot be carried in its place. -/
inductive NameError where
  | empty
  | holdsNul (name : String)
  | endsWithSpace (name : String)
  | beyondBasicPlane (name : String)
  | function (shown : String)
  | labelNotPlain (shown : String)
  | labelReserved (shown : String)
  | noFreeDelimiter
deriving DecidableEq, Repr

def NameError.message : NameError → String
  | .empty => "Empty identifiers cannot be quoted"
  | .holdsNul name => "Identifier contains a NUL character: " ++ Text.quoted name
  | .endsWithSpace name => "Identifiers cannot end with a space: " ++ Text.quoted name
  | .beyondBasicPlane name =>
    "Identifier contains characters outside the Basic Multilingual Plane: " ++ Text.quoted name
  | .function shown => "Invalid function name: " ++ shown
  | .labelNotPlain shown => "Label " ++ shown ++ " is not a plain identifier"
  | .labelReserved shown => "Label " ++ shown ++ " is a reserved word"
  | .noFreeDelimiter => "No statement delimiter is free of collisions with the program body"

/-- A condition or a query was composed inconsistently. -/
inductive QueryError where
  | noRightOperand (op : String)
  | inNeedsSequence
  | inNeedsValue
  | betweenNeedsPair
  | betweenNeedsTwo
  | combinesConditions (connective kind : String)
  | emptyOr
  | noAlternatives
  | notNeedsCondition (kind : String)
  | notAColumn (kind : String)
  | notACondition (kind : String)
  | notASource (kind : String)
  | notASelect (kind : String)
  | notATable (kind : String)
  | sourceNeedsAlias
  | nothingToAlias
  | joinOnAndUsing
  | crossJoinCondition
  | joinNeedsCondition (join : String)
  | useCrossJoin
  | groupByNeedsColumn
  | havingNeedsGroupBy
  | limitNotAnInteger (part shown : String)
  | limitNegative (part : String) (n : Int)
  | noColumns
  | joinsNeedSource
  | intoNeedsTarget
  | intoCount (targets columns : Nat)
  | insertNeedsTable
  | rowsAndSelect
  | noRows
  | rowWidth (values columns : Nat)
  | valueCount (values columns : Nat)
  | selectWidth (items columns : Nat)
  | replaceWithUpdate
deriving DecidableEq, Repr

def QueryError.message : QueryError → String
  | .noRightOperand op => op ++ " takes no right-hand operand"
  | .inNeedsSequence => "IN expects a sequence of values or a sub-select"
  | .inNeedsValue => "IN requires at least one value"
  | .betweenNeedsPair => "BETWEEN expects a (low, high) pair"
  | .betweenNeedsTwo => "BETWEEN expects exactly two bounds"
  | .combinesConditions connective kind => connective ++ " expects conditions, got " ++ kind
  | .emptyOr => "An OR of no conditions has no safe default"
  | .noAlternatives => "or_() needs at least one condition"
  | .notNeedsCondition kind => "NOT expects a condition, got " ++ kind
  | .notAColumn kind => "Expected a column name or expression, got " ++ kind
  | .notACondition kind => "Expected a condition, got " ++ kind
  | .notASource kind => "Unsupported query source: " ++ kind
  | .notASelect kind => "Expected a SELECT, got " ++ kind
  | .notATable kind => "INSERT target must be a table, got " ++ kind
  | .sourceNeedsAlias => "A sub-select used as a source needs an alias"
  | .nothingToAlias => "Cannot alias a SELECT without a FROM source"
  | .joinOnAndUsing => "A join takes either an ON condition or USING columns, not both"
  | .crossJoinCondition => "CROSS joins take no ON condition or USING columns"
  | .joinNeedsCondition join =>
    join ++ " join needs an ON condition; use cross_join() for a cartesian product"
  | .useCrossJoin => "Use cross_join() for CROSS joins"
  | .groupByNeedsColumn => "GROUP BY needs at least one column"
  | .havingNeedsGroupBy => "HAVING needs a GROUP BY"
  | .limitNotAnInteger part shown =>
    "LIMIT " ++ part ++ " must be an integer or a variable, got " ++ shown
  | .limitNegative part n => "LIMIT " ++ part ++ " must not be negative, got " ++ Number.intText n
  | .noColumns => "Cannot build a query without any columns to select"
  | .joinsNeedSource => "Joins need a FROM source"
  | .intoNeedsTarget => "INTO needs at least one target variable"
  | .intoCount targets columns =>
    "SELECT ... INTO has " ++ countText targets ++ " targets for " ++ countText columns ++
      " columns"
  | .insertNeedsTable => "INSERT needs a target table"
  | .rowsAndSelect => "An INSERT takes either value rows or a sub-select, not both"
  | .noRows => "No values were specified"
  | .rowWidth values columns =>
    "Row has " ++ countText values ++ " values but " ++ countText columns ++
      " columns are being filled"
  | .valueCount values columns =>
    "Amount of values passed (" ++ countText values ++ ") not equal to columns being filled ("
      ++ countText columns ++ ")"
  | .selectWidth items columns =>
    "Sub-select returns " ++ countText items ++ " columns but " ++ countText columns
      ++ " columns are being filled"
  | .replaceWithUpdate => "REPLACE cannot be combined with ON DUPLICATE KEY UPDATE"

/-- A definition or a statement refers to something that it is not allowed to. -/
inductive ValidityError where
  | unknownColumnType (shown : String)
  | notACount (type field shown : String)
  | needsLength (type : String)
  | takesNoLength (type : String)
  | takesNoScale (type : String)
  | scaleNeedsLength
  | needsValues (type : String)
  | valuesNotTexts (type : String)
  | takesNoValues (type : String)
  | unsupportedDefault (shown : String)
  | nullDefault
  | countedDefault
  | indexNeedsColumn
  | foreignKeyWidth (columns references : Nat)
  | tableNeedsColumn (table : String)
  | notAColumnStructure (column kind : String)
  | twoPrimaryKeys
  | severalPrimaryColumns
  | unknownColumn (part column : String)
  | sqlState (shown : String)
  | sqlStateSuccess (state : String)
  | errorCode (shown : String)
  | conditionNeedsName
  | conditionTakesNoValue (condition : String)
  | declareNeedsName
  | declareRepeats (names : List String)
  | sessionVariable (name : String)
  | conditionFor (condition : String)
  | cursorInto (cursor : String)
  | undoHandler
  | handlerNeedsCondition
  | ifNeedsCondition (kind : String)
  | whileNeedsCondition (kind : String)
  | untilNeedsCondition (kind : String)
  | whenNeedsCondition
  | fetchNeedsTarget (cursor : String)
  | setNeedsAssignment
  | delimiter (shown : String)
  | signalCondition
  | signalNumber (shown : String)
  | parameterTwice (name : String)
  | notASelect (kind : String)
  | notAnInsert (kind : String)
  | readOnlyRow (name : String)
deriving DecidableEq, Repr

def ValidityError.message : ValidityError → String
  | .unknownColumnType shown => "Unknown column type: " ++ shown
  | .notACount type field shown =>
    type ++ " " ++ field ++ " must be a non-negative integer, got " ++ shown
  | .needsLength type => type ++ " requires a length"
  | .takesNoLength type => type ++ " takes no length"
  | .takesNoScale type => type ++ " takes no scale"
  | .scaleNeedsLength => "Cannot set a scale without setting a length"
  | .needsValues type => type ++ " requires at least one value"
  | .valuesNotTexts type => type ++ " values must be strings"
  | .takesNoValues type => type ++ " takes no value list"
  | .unsupportedDefault shown => "Unsupported column default: " ++ shown
  | .nullDefault => "Default value may not be NULL when null is not allowed."
  | .countedDefault => "An AUTO_INCREMENT column cannot have a default value"
  | .indexNeedsColumn => "An index needs at least one column"
  | .foreignKeyWidth columns references =>
    "Foreign key maps " ++ countText columns ++ " columns onto " ++ countText references
      ++ " referenced columns"
  | .tableNeedsColumn table => "Table '" ++ table ++ "' needs at least one column"
  | .notAColumnStructure column kind =>
    "Column '" ++ column ++ "' needs a ColumnStructure, got " ++ kind
  | .twoPrimaryKeys => "Declare the primary key either on a column or on the table, not both"
  | .severalPrimaryColumns =>
    "Only one column can be marked primary; use primary_key for composite keys"
  | .unknownColumn part column => part ++ " refers to unknown column '" ++ column ++ "'"
  | .sqlState shown => "SQLSTATE must be five digits or uppercase letters, got " ++ shown
  | .sqlStateSuccess state =>
    "SQLSTATE class '00' means success and cannot be used here: " ++ Text.quoted state
  | .errorCode shown => "MySQL error codes are positive integers, got " ++ shown
  | .conditionNeedsName => "A named condition needs a name"
  | .conditionTakesNoValue condition => condition ++ " takes no value"
  | .declareNeedsName => "DECLARE needs at least one variable name"
  | .declareRepeats names =>
    "Variable names repeat within one DECLARE: " ++ Text.joinWith ", " names
  | .sessionVariable name => "Session variable '" ++ name ++ "' cannot be declared"
  | .conditionFor condition =>
    "A condition can only be declared for an error code or a SQLSTATE, not " ++ condition
  | .cursorInto cursor => "Cursor '" ++ cursor ++ "' query cannot use SELECT ... INTO"
  | .undoHandler => "UNDO handlers are not supported by MySQL"
  | .handlerNeedsCondition => "A handler needs at least one condition value"
  | .ifNeedsCondition kind => "IF expects a condition, got " ++ kind
  | .whileNeedsCondition kind => "WHILE expects a condition, got " ++ kind
  | .untilNeedsCondition kind => "UNTIL expects a condition, got " ++ kind
  | .whenNeedsCondition => "A searched CASE takes conditions in its WHEN arms"
  | .fetchNeedsTarget cursor => "FETCH from '" ++ cursor ++ "' needs at least one target variable"
  | .setNeedsAssignment => "SET needs at least one assignment"
  | .delimiter shown => "Invalid delimiter: " ++ shown
  | .signalCondition => "SIGNAL takes a SQLSTATE or a named condition"
  | .signalNumber shown => "MYSQL_ERRNO must be a positive integer, got " ++ shown
  | .parameterTwice name => "Parameter '" ++ name ++ "' is declared twice"
  | .notASelect kind => "Expected a SELECT, got " ++ kind
  | .notAnInsert kind => "Expected an INSERT, got " ++ kind
  | .readOnlyRow name => name ++ " is read-only in this trigger"

/-- Statements were put together in an order that the language of stored programs forbids. Open
constructs are told by their descriptions. -/
inductive StructureError where
  | emptyBody (part : String)
  | handlerBody
  | handlerBodyKind (kind : String)
  | ifNeedsBranch
  | caseNeedsWhen
  | delimiterInside
  | declareOutsideBlock (declaration : String)
  | declareAfterStatement (declaration : String)
  | declareOrder (declaration later : String)
  | whenExpected (construct : String)
  | consumed
  | nothingOpen
  | wrongEnd (expected construct : String)
  | stillOpen (construct : String)
  | alreadyClosed (construct : String)
  | repeatNeedsUntil
  | elseifWithoutIf
  | elseifAfterElse
  | secondElse (construct : String)
  | whenBeforeElse
  | elseWithoutConstruct
  | whenWithoutCase
  | whenAfterElse
  | untilWithoutRepeat (construct : String)
  | buildWithOpen (constructs : List String)
deriving DecidableEq, Repr

def StructureError.message : StructureError → String
  | .emptyBody part => part ++ " needs at least one statement"
  | .handlerBody => "A handler body must be an executable statement"
  | .handlerBodyKind kind => "A handler body must be an executable statement, got " ++ kind
  | .ifNeedsBranch => "IF needs at least one branch"
  | .caseNeedsWhen => "CASE needs at least one WHEN"
  | .delimiterInside => "DELIMITER directives cannot appear inside a compound statement"
  | .declareOutsideBlock declaration =>
    declaration ++ " is only allowed at the start of a BEGIN ... END block"
  | .declareAfterStatement declaration =>
    declaration ++ " must come before the first executable statement of its block"
  | .declareOrder declaration later =>
    declaration ++ " must come before " ++ later ++ " declarations"
  | .whenExpected construct => "Statements inside " ++ construct ++ " must follow a WHEN"
  | .consumed => "This builder was consumed by build() and cannot be reused"
  | .nothingOpen => "No open construct to end; use build() to finish the block"
  | .wrongEnd expected construct =>
    "Cannot end " ++ expected ++ ": innermost open construct is " ++ construct
  | .stillOpen construct => construct ++ " is still open at the end of the with-block"
  | .alreadyClosed construct => construct ++ " was already closed inside its with-block"
  | .repeatNeedsUntil => "REPEAT is closed with until(condition)"
  | .elseifWithoutIf => "ELSEIF without an open IF"
  | .elseifAfterElse => "ELSEIF cannot follow ELSE"
  | .secondElse construct => construct ++ " already has an ELSE branch"
  | .whenBeforeElse => "CASE needs a WHEN before ELSE"
  | .elseWithoutConstruct => "ELSE without an open IF or CASE"
  | .whenWithoutCase => "WHEN without an open CASE"
  | .whenAfterElse => "WHEN cannot follow ELSE"
  | .untilWithoutRepeat construct =>
    "UNTIL needs an open REPEAT, innermost construct is " ++ construct
  | .buildWithOpen constructs => "Cannot build: " ++ Text.joinWith ", " constructs ++ " still open"

/-- What a declared name stands for. -/
inductive NameKind where
  | variable
  | cursor
  | condition
  | parameter
  | column
deriving DecidableEq, Repr

def NameKind.word : NameKind → String
  | .variable => "Variable"
  | .cursor => "Cursor"
  | .condition => "Condition"
  | .parameter => "Parameter"
  | .column => "Column"

/-- A value stands where another kind of value is needed. -/
inductive KindError where
  | expression (kind : String)
  | condition (kind : String)
  | source (kind : String)
  | statement (kind : String)
  | notAStatement (kind : String)
  | object (kind : String)
  | unknownParts (query : String) (parts : List String)
  | notUsable (kind : String)
deriving DecidableEq, Repr

def KindError.message : KindError → String
  | .expression kind => "Unsupported expression type: " ++ kind
  | .condition kind => "Unsupported condition type: " ++ kind
  | .source kind => "Unsupported source type: " ++ kind
  | .statement kind => "Unsupported statement type: " ++ kind
  | .notAStatement kind => "Expected a statement, got " ++ kind
  | .object kind =>
    "Unsupported object type: " ++ kind
      ++ ". Expected a query, statement, procedure, trigger, table structure or expression."
  | .unknownParts query parts =>
    "Unknown " ++ query ++ " parts: " ++ Text.joinWith ", " parts
  | .notUsable kind => kind ++ " cannot be used here"

/-- A profile is not usable. `profile` and `path` tell which one it is. -/
inductive ProfileError where
  | delimiterMissing (profile path : String)
  | delimiterBlank (profile path delimiter : String)
  | indent (profile path : String)
  | labelStem (profile path : String)
deriving DecidableEq, Repr

def ProfileError.message : ProfileError → String
  | .delimiterMissing profile path =>
    "Profile '" ++ profile ++ "' in " ++ path ++
      ": delimiter must be a non-empty string other than ';'"
  | .delimiterBlank profile path delimiter =>
    "Profile '" ++ profile ++ "' in " ++ path ++ ": delimiter " ++ Text.quoted delimiter
      ++ " contains whitespace or a backslash"
  | .indent profile path =>
    "Profile '" ++ profile ++ "' in " ++ path ++ ": indent must be a non-negative integer"
  | .labelStem profile path =>
    "Profile '" ++ profile ++ "' in " ++ path ++ ": label_prefix must be a plain identifier"

/-- A cause of failure. -/
inductive Error where
  | literal (cause : LiteralError)
  | naming (cause : NameError)
  | query (cause : QueryError)
  | validity (cause : ValidityError)
  | structural (cause : StructureError)
  | kind (cause : KindError)
  | profile (cause : ProfileError)
  | unresolvedLabel (label : String)
  | labelOfBlock (label : String)
  | declaredTwice (what : NameKind) (name : String)
  | labelTwice (label : String)
  | undeclared (what : NameKind) (name : String)
  | cursorState (operation cursor state : String)
  | notAMember (shown enumeration : String)
  | negativeIndent (indent : Int)
  | unknownDialect (name : String) (available : List String)
  | noFullJoin
  | notImplemented (dialect operation : String)
  | dateOutOfRange
  | noSuchColumn (name : String)
  | noSuchProfile (name path : String) (available : List String)
  | noProfileFile (searched : List String)
  | unreadableProfileFile (path : String)
  | noOpenWith
  | signalingComparison
deriving DecidableEq, Repr

namespace Error

/-- The file that profiles are kept in. -/
def profilesFile : String := "procsql_profiles.yaml"

/-- The message of a cause. -/
def message : Error → String
  | .literal cause => cause.message
  | .naming cause => cause.message
  | .query cause => cause.message
  | .validity cause => cause.message
  | .structural cause => cause.message
  | .kind cause => cause.message
  | .profile cause => cause.message
  | .unresolvedLabel label => "Label '" ++ label ++ "' is not open at this point."
  | .labelOfBlock label =>
    "ITERATE needs a loop label; '" ++ label ++ "' labels a BEGIN ... END block."
  | .declaredTwice what name => what.word ++ " '" ++ name ++ "' is already declared in this scope."
  | .labelTwice label => "Label '" ++ label ++ "' is already declared in this scope."
  | .undeclared what name =>
    what.word ++ " '" ++ name ++ "' is not declared in this or an enclosing scope."
  | .cursorState operation cursor state =>
    "Cannot " ++ operation ++ " cursor '" ++ cursor ++ "': cursor is " ++ state ++ "."
  | .notAMember shown enumeration => shown ++ " is not a valid " ++ enumeration
  | .negativeIndent indent => "indent must not be negative, got " ++ Number.intText indent
  | .unknownDialect name available =>
    "Unknown SQL dialect: " ++ Text.quoted name ++ ". Available dialects: "
      ++ Text.joinWith ", " available ++ "."
  | .noFullJoin => "MySQL does not support FULL OUTER JOIN"
  | .notImplemented dialect operation => dialect ++ " does not implement " ++ operation ++ "()"
  | .dateOutOfRange => "date value out of range"
  | .noSuchColumn name => name
  | .noSuchProfile name path available =>
    "Active profile '" ++ name ++ "' not found in " ++ profilesFile ++ " at " ++ path
      ++ ". Available profiles: "
      ++ (if available.isEmpty then "(none)" else Text.joinWith ", " available) ++ "."
  | .noProfileFile searched =>
    profilesFile ++ " not found in expected locations (" ++ Text.joinWith ", " searched
      ++ "). Provide an explicit path or configure PROCSQL_PROFILES_PATH."
  | .unreadableProfileFile path => path ++ " is not a readable profile file"
  | .noOpenWith => "pop from empty list"
  | .signalingComparison => "[<class 'decimal.InvalidOperation'>]"

end Error
end StoredSql
