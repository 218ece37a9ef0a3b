import RowBindings.Main
import RowBindings.Proofs.Database.StoreAndFetch
import RowBindings.Proofs.Generation.Calls
import RowBindings.Proofs.Model.EnumColumns
import RowBindings.Proofs.Model.FieldNames
import RowBindings.Proofs.Generation.FilledLines
import RowBindings.Proofs.Generation.Containment
import RowBindings.Proofs.Generation.DeclaredNames
import RowBindings.Proofs.Generation.FieldTypes
import RowBindings.Proofs.Generation.Steps
import RowBindings.Proofs.Generation.Selection
import RowBindings.Proofs.Command.Stages
import RowBindings.Proofs.Model.Variants
import RowBindings.Proofs.Generation.Evolution
import RowBindings.Proofs.Generation.EnumSource
import RowBindings.Proofs.Generation.DeprecationMarks
import RowBindings.Proofs.Generation.Dependence
import RowBindings.Proofs.Statement.Selection
import RowBindings.Proofs.Model.Registration
import RowBindings.Proofs.Catalog.Modifiers
import RowBindings.Proofs.Identifier.Validity
import RowBindings.Proofs.Identifier.SnakeNames
import RowBindings.Proofs.TypeMap.Acceptance
import RowBindings.Proofs.Connection.PairText
import RowBindings.Proofs.Connection.Redaction
import RowBindings.Proofs.Connection.Precedence
import RowBindings.Proofs.Model.KeyPositions
import RowBindings.Proofs.Model.SuffixSearch
import RowBindings.Proofs.Statement.NameReading
import RowBindings.Proofs.Template.Standard
