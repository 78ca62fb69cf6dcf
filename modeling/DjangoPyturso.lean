import DjangoPyturso.Foundations.BinaryFloat
import DjangoPyturso.Foundations.Calendar
import DjangoPyturso.Foundations.DecimalRounding
import DjangoPyturso.Foundations.Dictionary
import DjangoPyturso.Foundations.Effect
import DjangoPyturso.Foundations.LastEntry
import DjangoPyturso.Foundations.LikePattern
import DjangoPyturso.Foundations.NestedBlocks
import DjangoPyturso.Foundations.Nesting
import DjangoPyturso.Foundations.PaddedNumber
import DjangoPyturso.Foundations.PercentFormat
import DjangoPyturso.Foundations.RowGroups
import DjangoPyturso.Foundations.SavepointStore
import DjangoPyturso.Foundations.SqlLiteral
import DjangoPyturso.Foundations.SqlRegions
import DjangoPyturso.Foundations.Stepping
import DjangoPyturso.Foundations.TableStore
import DjangoPyturso.Foundations.TextScan
import DjangoPyturso.Foundations.Worklist
import DjangoPyturso.Model.Atomic
import DjangoPyturso.Model.Bindings
import DjangoPyturso.Model.ConflictClause
import DjangoPyturso.Model.ConnectionOpening
import DjangoPyturso.Model.Cursor
import DjangoPyturso.Model.DecimalField
import DjangoPyturso.Model.DeferredSql
import DjangoPyturso.Model.FieldMapping
import DjangoPyturso.Model.FieldSize
import DjangoPyturso.Model.FieldTypes
import DjangoPyturso.Model.Flush
import DjangoPyturso.Model.ForeignKeyCheck
import DjangoPyturso.Model.Identifiers
import DjangoPyturso.Model.Lifecycle
import DjangoPyturso.Model.Operations
import DjangoPyturso.Model.PatternLookups
import DjangoPyturso.Model.Placeholders
import DjangoPyturso.Model.Relations
import DjangoPyturso.Model.SchemaEditor
import DjangoPyturso.Model.SchemaMethods
import DjangoPyturso.Model.SqlTokens
import DjangoPyturso.Model.StoredDatetimes
import DjangoPyturso.Model.TableDescription
import DjangoPyturso.Model.TableRemake
import DjangoPyturso.Model.TableSql
import DjangoPyturso.Model.TemporalSql
import DjangoPyturso.Model.TemporalValues
import DjangoPyturso.Model.Wrapper
import DjangoPyturso.Model.WriteStatement
import DjangoPyturso.Model.YearLookups
import DjangoPyturso.Spec.BlockScripts
import DjangoPyturso.Spec.Catalog
import DjangoPyturso.Spec.CheckExpression
import DjangoPyturso.Spec.CheckPlaces
import DjangoPyturso.Spec.ConnectionFleet
import DjangoPyturso.Spec.DeclaredConstraints
import DjangoPyturso.Spec.DeclaredKeys
import DjangoPyturso.Spec.DocumentedEngine
import DjangoPyturso.Spec.Engine
import DjangoPyturso.Spec.FlushRun
import DjangoPyturso.Spec.ForeignKeyQuery
import DjangoPyturso.Spec.LazyEngine
import DjangoPyturso.Spec.ManagedTables
import DjangoPyturso.Spec.RegionReading
import DjangoPyturso.Spec.TableCopy
import DjangoPyturso.Spec.TableDefinition
import DjangoPyturso.Spec.TableEngine
import DjangoPyturso.Spec.TemporalEngine
import DjangoPyturso.Proofs.AtomicBlocks
import DjangoPyturso.Proofs.BlockRefinement
import DjangoPyturso.Proofs.BlockStatements
import DjangoPyturso.Proofs.CascadeSet
import DjangoPyturso.Proofs.CheckColumns
import DjangoPyturso.Proofs.CheckReading
import DjangoPyturso.Proofs.CheckState
import DjangoPyturso.Proofs.CheckTaking
import DjangoPyturso.Proofs.ColumnDeclarations
import DjangoPyturso.Proofs.CommentInsertion
import DjangoPyturso.Proofs.CommitCallbacks
import DjangoPyturso.Proofs.ConflictClauses
import DjangoPyturso.Proofs.ConnectionSafety
import DjangoPyturso.Proofs.ConstraintEntries
import DjangoPyturso.Proofs.DatetimeRoundTrip
import DjangoPyturso.Proofs.DecimalRoundTrip
import DjangoPyturso.Proofs.DeferredFlush
import DjangoPyturso.Proofs.DefinitionReading
import DjangoPyturso.Proofs.EditorConnection
import DjangoPyturso.Proofs.EditorLifecycle
import DjangoPyturso.Proofs.EditorSession
import DjangoPyturso.Proofs.ExecutemanyAgreement
import DjangoPyturso.Proofs.FlushIntegrity
import DjangoPyturso.Proofs.ForeignKeyExactness
import DjangoPyturso.Proofs.GuardedCursor
import DjangoPyturso.Proofs.InspectedTypes
import DjangoPyturso.Proofs.LifecycleClosing
import DjangoPyturso.Proofs.MethodFrames
import DjangoPyturso.Proofs.NamedPlaceholders
import DjangoPyturso.Proofs.NestedSavepoints
import DjangoPyturso.Proofs.ParserTermination
import DjangoPyturso.Proofs.PatternMeaning
import DjangoPyturso.Proofs.PositionalPlaceholders
import DjangoPyturso.Proofs.PreservedRemakes
import DjangoPyturso.Proofs.PreservingClose
import DjangoPyturso.Proofs.Quarantine
import DjangoPyturso.Proofs.QueryLogging
import DjangoPyturso.Proofs.QuotedIdentifiers
import DjangoPyturso.Proofs.RebuiltColumns
import DjangoPyturso.Proofs.Recognition
import DjangoPyturso.Proofs.RemadeRows
import DjangoPyturso.Proofs.ReportedRelations
import DjangoPyturso.Proofs.ReportedUniques
import DjangoPyturso.Proofs.ReturningWrites
import DjangoPyturso.Proofs.ScanComposition
import DjangoPyturso.Proofs.SchemaDefaults
import DjangoPyturso.Proofs.SchemaRefinement
import DjangoPyturso.Proofs.SequenceReset
import DjangoPyturso.Proofs.StoredKeys
import DjangoPyturso.Proofs.StoredOrder
import DjangoPyturso.Proofs.TemporalMeaning
import DjangoPyturso.Proofs.TemporalParameters
import DjangoPyturso.Proofs.UniqueReading
import DjangoPyturso.Proofs.WriteVerb
import DjangoPyturso.Proofs.YearLookups
