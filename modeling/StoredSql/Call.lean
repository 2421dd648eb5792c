import StoredSql.Builder

/-!
# Calls to a builder

The calls that a program is put together with, as data. `Builder.perform` runs one call and
`Builder.run` a list of them; a call that fails does not keep the next ones from being run.
-/

namespace StoredSql

/-- A call to a builder. -/
inductive Call where
  | declare (names : List String) (type : Column) (initial : Operand)
  | declareCondition (name : String) (value : ConditionValue)
  | declareCursor (name : String) (query : Operand)
  | declareHandler (action : Outline) (conditions : List ConditionValue) (body : Statement)
  | openHandler (action : Outline) (conditions : List ConditionValue)
  | endHandler
  | openBlock (label : Operand)
  | endBlock
  | close
  | openIf (test : Operand)
  | elseIf (test : Operand)
  | otherwise
  | endIf
  | openCase (operand : Operand)
  | openWhen (test : Operand)
  | endCase
  | openLoop (label : Operand)
  | endLoop
  | openWhile (test label : Operand)
  | endWhile
  | openRepeat (label : Operand)
  | endRepeat (test : Operand)
  | iterate (label : String)
  | leave (label : String)
  | openCursor (name : String)
  | fetch (name : String) (targets : List String)
  | closeCursor (name : String)
  | select (query : Operand)
  | insert (query : Operand)
  | set (target : String) (value : Operand) (more : List (String × Operand))
  | call (name : String) (args : List Operand)
  | signal (condition : ConditionValue) (message number : Operand)
  | signalState (state message number : Operand)
  | raw (sql : String)
  | empty
  | statements (ss : List Statement)
  | enterBracket
  | exitBracket (failed : Bool)

namespace Builder

/-- The query that an operand is or makes up. -/
def selectOf : Operand → Except Error SelectQuery
  | .draft d => d.build
  | .query q => .ok q
  | o => .error (.validity (.notASelect o.kindName))

/-- The new rows that an operand is or makes up. -/
def insertOf : Operand → Except Error InsertQuery
  | .rowsDraft d => d.build
  | .rows q => .ok q
  | o => .error (.validity (.notAnInsert o.kindName))

/-- What a call does. -/
def act : Call → Action Unit
  | .declare names type initial => addMade (Statement.makeDeclare names type initial)
  | .declareCondition name value => addMade (Statement.makeDeclareCondition name value)
  | .declareCursor name query =>
    addMade (do Statement.makeDeclareCursor name (.query (← selectOf query)))
  | .declareHandler action conditions body =>
    addMade (Statement.makeDeclareHandler action conditions body)
  | .openHandler action conditions => openHandler action conditions
  | .endHandler => endHandler
  | .openBlock label => openBlock label
  | .endBlock => endBlock
  | .close => close
  | .openIf test => openIf test
  | .elseIf test => elseIf test
  | .otherwise => otherwise
  | .endIf => endIf
  | .openCase operand => openCase operand
  | .openWhen test => openWhen test
  | .endCase => endCase
  | .openLoop label => openLoop label
  | .endLoop => endLoop
  | .openWhile test label => openWhile test label
  | .endWhile => endWhile
  | .openRepeat label => openRepeat label
  | .endRepeat test => endRepeat test
  | .iterate label => add (.iterate label)
  | .leave label => add (.leave label)
  | .openCursor name => add (.openCursor name)
  | .fetch name targets => addMade (Statement.makeFetch name targets)
  | .closeCursor name => add (.closeCursor name)
  | .select query => addMade ((selectOf query).map .select)
  | .insert query => addMade ((insertOf query).map .insert)
  | .set target value more =>
    addMade (Statement.makeSet ((target, value) :: Ordered.ofEntries more))
  | .call name args => addMade (Statement.makeCall name args)
  | .signal condition message number => addMade (Statement.makeSignal condition message number)
  | .signalState state message number => addMade (do
    let condition ← ConditionValue.make .sqlState state
    Statement.makeSignal condition message number)
  | .raw sql => add (.raw sql)
  | .empty => add .empty
  | .statements ss => ss.forM add
  | .enterBracket => enterBracket
  | .exitBracket failed => exitBracket failed

/-- The answer to a call, and the builder after it. -/
def perform (b : Builder) (c : Call) : Except Error Unit × Builder := act c b

/-- The builder after calls. -/
def run (b : Builder) (cs : List Call) : Builder := cs.foldl (fun b c => (b.perform c).2) b

/-- The answer to the first call that fails, and the builder after it. -/
def runAll (b : Builder) : List Call → Except Error Unit × Builder
  | [] => (.ok (), b)
  | c :: cs =>
    match b.perform c with
    | (.ok (), b) => runAll b cs
    | (.error e, b) => (.error e, b)

end Builder
end StoredSql
