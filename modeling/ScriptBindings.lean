import ScriptBindings.Files.Disk
import ScriptBindings.Main
import ScriptBindings.Proofs.Traversal
import ScriptBindings.Proofs.Surface.Slots
import ScriptBindings.Proofs.Code.Methods
import ScriptBindings.Proofs.Code.Lines
import ScriptBindings.Proofs.Types.WellFormed
import ScriptBindings.Proofs.Types.Layout
import ScriptBindings.Proofs.Types.Lookup
import ScriptBindings.Proofs.Number.Range
import ScriptBindings.Proofs.Description.Failure
import ScriptBindings.Proofs.Description.Generable
import ScriptBindings.Proofs.Files.Places
import ScriptBindings.Proofs.Files.Directories
import ScriptBindings.Proofs.Files.Publication
import ScriptBindings.Proofs.Generator.Run
import ScriptBindings.Proofs.Generator.Pair
import ScriptBindings.Proofs.Code.Variables
import ScriptBindings.Proofs.Description.Comments
import ScriptBindings.Proofs.Description.Form
import ScriptBindings.Proofs.Description.Grammar
import ScriptBindings.Proofs.Description.Printing
import ScriptBindings.Proofs.Code.Embedding
import ScriptBindings.Proofs.Files.Effect
import ScriptBindings.Proofs.Files.Delivery
import ScriptBindings.Proofs.Generator.Confinement
import ScriptBindings.Proofs.Generator.Succession
import ScriptBindings.Proofs.Files.Abandonment
import ScriptBindings.Proofs.CommandLine.Run
import ScriptBindings.Proofs.Constant.Shape
import ScriptBindings.Proofs.Description.Elements
import ScriptBindings.Proofs.Number.Exact
import ScriptBindings.Proofs.Description.WholeNumbers
import ScriptBindings.Proofs.Description.Names
import ScriptBindings.Proofs.Code.Rows
import ScriptBindings.Proofs.Code.Runs
import ScriptBindings.Proofs.Text.Capital
import ScriptBindings.Proofs.Description.Concatenation
import ScriptBindings.Proofs.Description.LineEnds
import ScriptBindings.Proofs.Description.Uncommented
import ScriptBindings.Proofs.Generator.NameLength
import ScriptBindings.Proofs.Files.PathNames
import ScriptBindings.Proofs.Generator.ClassName
