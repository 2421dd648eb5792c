import StoredSql.Text.Blank
import StoredSql.Text.Case
import StoredSql.Text.Visible
import StoredSql.Text.Word
import StoredSql.Text.Digit
import StoredSql.Text.Hex
import StoredSql.Text.Parts
import StoredSql.Text.Quoted
import StoredSql.Number.Decimal
import StoredSql.Number.Shortest
import StoredSql.Calendar.DateTime
import StoredSql.Uuid
import StoredSql.Value
import StoredSql.Error
import StoredSql.Identifier
import StoredSql.Outline
import StoredSql.Query
import StoredSql.Operand
import StoredSql.Compose
import StoredSql.Select
import StoredSql.Insert
import StoredSql.Column
import StoredSql.Table
import StoredSql.Statement
import StoredSql.Program
import StoredSql.Item
import StoredSql.Nesting
import StoredSql.LabelSource
import StoredSql.Validation
import StoredSql.Builder
import StoredSql.Call
import StoredSql.Dialect
import StoredSql.Shape
import StoredSql.QueryText
import StoredSql.TableText
import StoredSql.StatementText
import StoredSql.ProgramText
import StoredSql.Rendering
import StoredSql.Registry
import StoredSql.Profile
import StoredSql.ScopeForest
import StoredSql.Proofs.Outcome
import StoredSql.Proofs.Stepwise
import StoredSql.Proofs.CheckParts
import StoredSql.Proofs.CheckFrame
import StoredSql.Proofs.CheckAgain
import StoredSql.Proofs.CursorRuns
import StoredSql.Proofs.CursorVisits
import StoredSql.Proofs.CursorStates
import StoredSql.Proofs.MadeStatements
import StoredSql.Proofs.BuilderSteps
import StoredSql.Proofs.Replay
import StoredSql.Proofs.CallEnds
import StoredSql.Proofs.Residue
import StoredSql.Proofs.StatementCalls
import StoredSql.Proofs.BranchCalls
import StoredSql.Proofs.BuiltPrograms
import StoredSql.Proofs.TracedCalls
import StoredSql.Proofs.Unfolding
import StoredSql.Proofs.CursorAnalysis
import StoredSql.Proofs.UpheldChecks
import StoredSql.Proofs.OpenPlaces
import StoredSql.Proofs.BuiltLabels
import StoredSql.Proofs.BuiltOrder
import StoredSql.Proofs.BuiltNames
import StoredSql.Proofs.BuiltViews
import StoredSql.Proofs.NameResolution
import StoredSql.Proofs.Events
import StoredSql.Proofs.EventReading
import StoredSql.Proofs.OpenEvents
import StoredSql.Proofs.OpenFrames
import StoredSql.Proofs.HandlerCursors
import StoredSql.Proofs.BracketEnds
import StoredSql.Proofs.BuiltEvents
import StoredSql.Proofs.Scan
import StoredSql.Proofs.NameText
import StoredSql.Proofs.LiteralText
import StoredSql.Proofs.Contracts
import StoredSql.Proofs.RawText
import StoredSql.Proofs.Weaving
import StoredSql.Proofs.StatementStrands
import StoredSql.Proofs.Rows
import StoredSql.Proofs.Quotes
import StoredSql.Proofs.CleanText
import StoredSql.Proofs.QuerySafety
import StoredSql.Proofs.StatementEnds
import StoredSql.Proofs.Indentation
import StoredSql.Proofs.ProgramUnits
import StoredSql.Proofs.ConditionMeaning
import StoredSql.Proofs.ConditionReading
import StoredSql.Proofs.TextReading
import StoredSql.Proofs.Cutting
import StoredSql.Proofs.NameReading
import StoredSql.Proofs.ClauseOrder
import StoredSql.Proofs.ArithmeticReading
import StoredSql.Proofs.LoopLabels
import StoredSql.Proofs.BranchOrder
import StoredSql.Proofs.FilledLabels
import StoredSql.Proofs.FreshLabels
import StoredSql.Proofs.RelabelledChecks
import StoredSql.Proofs.LabelHygiene
import StoredSql.Proofs.GivenLeaves
import StoredSql.Proofs.StoredNames
import StoredSql.Proofs.StoredTargets
import StoredSql.Proofs.FailedCalls
import StoredSql.Proofs.RowRights
import StoredSql.Proofs.InsertDrafts
import StoredSql.Proofs.Directives
import StoredSql.Proofs.DirectiveLines
import StoredSql.Proofs.CarriedStatements
import StoredSql.Proofs.TextLines
import StoredSql.Proofs.FilledBodies
import StoredSql.Proofs.HeldLines
import StoredSql.Proofs.LoneSemicolons
import StoredSql.Proofs.DayNumbers
import StoredSql.Proofs.Instants
import StoredSql.Proofs.WrittenValues
import StoredSql.Proofs.ExactNumbers
import StoredSql.Proofs.Aliases
import StoredSql.Proofs.ColumnTypeText
import StoredSql.Proofs.NormalConditions
import StoredSql.Proofs.ProfileLabels
import StoredSql.Proofs.RenderedLabels
import StoredSql.Proofs.DrawnLabels
import StoredSql.Proofs.GeneratedLabels
import StoredSql.Proofs.ScopeChain
