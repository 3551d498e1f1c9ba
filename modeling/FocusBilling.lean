import FocusBilling.Main
import FocusBilling.Proofs.Conversion
import FocusBilling.Proofs.Frames
import FocusBilling.Proofs.Batches
import FocusBilling.Proofs.Steps
import FocusBilling.Proofs.Tables
import FocusBilling.Proofs.Temporaries
import FocusBilling.Proofs.Sql.Reading
import FocusBilling.Proofs.Sql.Spelling
import FocusBilling.Proofs.Sql.Choices
import FocusBilling.Proofs.Sql.Literals
import FocusBilling.Proofs.Sql.Missing
import FocusBilling.Proofs.Sql.Beside
import FocusBilling.Proofs.Sql.Rendering
import FocusBilling.Proofs.Sql.Clauses
import FocusBilling.Proofs.Conditions
import FocusBilling.Proofs.Targets
import FocusBilling.Proofs.Assignments
import FocusBilling.Proofs.Compilation
import FocusBilling.Proofs.Parts
import FocusBilling.Proofs.Sql.Rowwise
import FocusBilling.Proofs.Sql.RowFormulas
import FocusBilling.Proofs.Stacking
import FocusBilling.Proofs.SourceColumns
import FocusBilling.Proofs.Sql.Columns
import FocusBilling.Proofs.Independence
import FocusBilling.Proofs.PlanOrder
import FocusBilling.Proofs.Files
import FocusBilling.Proofs.Segments
import FocusBilling.Proofs.Unmentioned
import FocusBilling.Proofs.Sql.References
import FocusBilling.Proofs.DataFlow
import FocusBilling.Proofs.Sql.Cells
import FocusBilling.Proofs.Sql.Lists
import FocusBilling.Proofs.Growth
import FocusBilling.Proofs.Exports
import FocusBilling.Proofs.RuleOrder
import FocusBilling.Proofs.Validation
import FocusBilling.Proofs.Folders
import FocusBilling.Proofs.Exporting
import FocusBilling.Proofs.Requests
import FocusBilling.Proofs.Scans
import FocusBilling.Proofs.Completion
import FocusBilling.Proofs.RuleFiles
import FocusBilling.Proofs.Dependencies
import FocusBilling.Proofs.ZonedTimes
import FocusBilling.Proofs.Rounding
import FocusBilling.Proofs.ShortestDecimals
import FocusBilling.Proofs.Sql.Numbers
import FocusBilling.Proofs.Defaults
import FocusBilling.Proofs.Arguments
import FocusBilling.Proofs.FieldReports
import FocusBilling.Proofs.Mappings
import FocusBilling.Proofs.NumberKeys
import FocusBilling.Proofs.MissingColumns
import FocusBilling.Proofs.Projections
import FocusBilling.Proofs.Sql.Quoting
import FocusBilling.Proofs.RuleInputs
import FocusBilling.Proofs.FileOrders
import FocusBilling.Proofs.Outputs
import FocusBilling.Proofs.PathPatterns
import FocusBilling.Proofs.SegmentOrder
import FocusBilling.Proofs.Datasets
