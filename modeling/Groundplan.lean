import Groundplan.Azure.Catalog
import Groundplan.Azure.KeyVault
import Groundplan.Azure.Network
import Groundplan.Azure.Placement
import Groundplan.Azure.Provider
import Groundplan.Azure.ResourceGroup
import Groundplan.Azure.StorageAccount
import Groundplan.Azure.TypeId
import Groundplan.Azure.WebApp
import Groundplan.Catalog.Basic
import Groundplan.Catalog.ResourceType
import Groundplan.Catalog.Rule
import Groundplan.Catalog.Schema
import Groundplan.CommandLine.Arguments
import Groundplan.CommandLine.Execution
import Groundplan.CommandLine.Failure
import Groundplan.CommandLine.Listing
import Groundplan.CommandLine.Report
import Groundplan.CommandLine.Usage
import Groundplan.Compile.Basic
import Groundplan.Compile.Connections
import Groundplan.Compile.Defaults
import Groundplan.Compile.Error
import Groundplan.Compile.Files
import Groundplan.Compile.Identities
import Groundplan.Compile.Providers
import Groundplan.Config.Block
import Groundplan.Config.Render
import Groundplan.Decimal.Binary
import Groundplan.Decimal.Number
import Groundplan.Decimal.NumberText
import Groundplan.Decimal.Shortest
import Groundplan.Diagram.Basic
import Groundplan.Diagram.Property
import Groundplan.Diagram.Resource
import Groundplan.Dictionary
import Groundplan.Disk.Basic
import Groundplan.Disk.Load
import Groundplan.Disk.Path
import Groundplan.Disk.Store
import Groundplan.Finding
import Groundplan.Generation.Basic
import Groundplan.Generation.Context
import Groundplan.Generation.Declaration
import Groundplan.Json.Basic
import Groundplan.Json.Printer
import Groundplan.Json.Reader
import Groundplan.Json.Token
import Groundplan.Main
import Groundplan.Markup.Basic
import Groundplan.Markup.BuiltIn
import Groundplan.Markup.Notations
import Groundplan.Markup.Reading
import Groundplan.Naming.Constraints
import Groundplan.Naming.Template
import Groundplan.Proofs.Azure.Closed
import Groundplan.Proofs.Azure.Closure
import Groundplan.Proofs.Azure.Connections
import Groundplan.Proofs.Azure.Exposure
import Groundplan.Proofs.Azure.Expressions
import Groundplan.Proofs.Azure.Generators
import Groundplan.Proofs.Azure.Modes
import Groundplan.Proofs.Azure.Registered
import Groundplan.Proofs.BlockContents
import Groundplan.Proofs.Collecting
import Groundplan.Proofs.Composition
import Groundplan.Proofs.Connecting
import Groundplan.Proofs.Dictionaries
import Groundplan.Proofs.Expressions
import Groundplan.Proofs.Generating
import Groundplan.Proofs.Isolation
import Groundplan.Proofs.Kinds
import Groundplan.Proofs.Labels
import Groundplan.Proofs.Layout
import Groundplan.Proofs.References
import Groundplan.Proofs.Settings
import Groundplan.Proofs.WorkingCopies
import Groundplan.Stored.Catalog
import Groundplan.Stored.Diagram
import Groundplan.Stored.Report
import Groundplan.Text.CaseTable
import Groundplan.Text.GraphicTable
import Groundplan.Text.Identifier
import Groundplan.Text.Lowercase
import Groundplan.Text.Quoted
import Groundplan.Text.Ranges
import Groundplan.Text.Spelled
import Groundplan.Yaml.Input
import Groundplan.Yaml.Reader
import Groundplan.Yaml.Resolve
import Groundplan.Yaml.Scalar
import Groundplan.Proofs.Literals
import Groundplan.Proofs.Numerals
import Groundplan.Proofs.Reader
import Groundplan.Proofs.Reading
import Groundplan.Proofs.Unambiguous
import Groundplan.Proofs.Headings
import Groundplan.Proofs.Azure.Distinct
import Groundplan.Proofs.Governing
import Groundplan.Proofs.Overwriting
import Groundplan.Proofs.Alike
import Groundplan.Proofs.Azure.Alike
import Groundplan.Proofs.Blanks
import Groundplan.Proofs.Azure.Blanks
import Groundplan.Proofs.Azure.Growth
import Groundplan.Proofs.Agreement
import Groundplan.Proofs.Authority
import Groundplan.Proofs.Providing
import Groundplan.Proofs.Course
import Groundplan.Proofs.Extension
import Groundplan.Proofs.Unknown
import Groundplan.Proofs.Azure.Unknown
import Groundplan.Proofs.Renaming
import Groundplan.Proofs.Azure.Renaming
import Groundplan.Proofs.Restoring
import Groundplan.Proofs.Success
import Groundplan.Proofs.Azure.Success
import Groundplan.Proofs.Disks
import Groundplan.Proofs.Writing
import Groundplan.Proofs.Outcomes
import Groundplan.Proofs.Allocation
import Groundplan.Proofs.Expansion
import Groundplan.Proofs.Assembly
import Groundplan.Proofs.Missing
import Groundplan.Proofs.Openings
import Groundplan.Proofs.VariableDefaults
import Groundplan.Proofs.Alignment
import Groundplan.Proofs.Constraints
import Groundplan.Proofs.Azure.Names
import Groundplan.Proofs.Resolution
import Groundplan.Proofs.Plugins
import Groundplan.Proofs.Printing
import Groundplan.Proofs.Lines
import Groundplan.Proofs.Assignments
import Groundplan.Proofs.Indentation
import Groundplan.Proofs.Building
