import ShadowTypes.Catalogue
import ShadowTypes.CommandLine.Run
import ShadowTypes.Demand
import ShadowTypes.Document
import ShadowTypes.DocumentFile
import ShadowTypes.Fault.Report
import ShadowTypes.Main
import ShadowTypes.Pass
import ShadowTypes.Settings.Basic
import ShadowTypes.Proofs.DeclaredKinds
import ShadowTypes.Proofs.Members
import ShadowTypes.Proofs.References
import ShadowTypes.Proofs.Python.Meaning
import ShadowTypes.Proofs.ExactNames
import ShadowTypes.Proofs.Drafts
import ShadowTypes.Proofs.Isolation
import ShadowTypes.Proofs.Closure
import ShadowTypes.Proofs.CommandLine.Accounting
import ShadowTypes.Proofs.Completion
import ShadowTypes.Proofs.Workers
import ShadowTypes.Proofs.Order
import ShadowTypes.Proofs.Additions
import ShadowTypes.Proofs.Python.TypeNames
import ShadowTypes.Proofs.Python.Layout
import ShadowTypes.Proofs.Declarations
import ShadowTypes.Proofs.CSharp.Members
import ShadowTypes.Proofs.CSharp.Marks
import ShadowTypes.Proofs.CSharp.Wrapping
import ShadowTypes.Proofs.Description.Entries
import ShadowTypes.Proofs.Description.Readings
import ShadowTypes.Proofs.Description.Complaints
import ShadowTypes.Proofs.Description.Precedence
import ShadowTypes.Proofs.Description.Grammar
import ShadowTypes.Proofs.Description.Acceptance
import ShadowTypes.Proofs.Description.Success
import ShadowTypes.Proofs.Description.TextRules
import ShadowTypes.Proofs.Description.Writing
import ShadowTypes.Proofs.Description.Independence
import ShadowTypes.Proofs.Description.Respelling
import ShadowTypes.Proofs.Description.Spelling
import ShadowTypes.Proofs.Description.Gathering
import ShadowTypes.Proofs.Description.Kinds
import ShadowTypes.Proofs.Lines
import ShadowTypes.Proofs.Folding
import ShadowTypes.Proofs.Resolution
import ShadowTypes.Proofs.Halves
import ShadowTypes.Proofs.Document.Shape
import ShadowTypes.Proofs.CommandLine.DryRun
import ShadowTypes.Proofs.FileTree.Folders
import ShadowTypes.Proofs.FileTree.Files
import ShadowTypes.Proofs.Outcomes
import ShadowTypes.Proofs.FileTree.Ways
import ShadowTypes.Proofs.Document.Expanding
import ShadowTypes.Proofs.CommandLine.Status
import ShadowTypes.Proofs.CommandLine.Overwriting
import ShadowTypes.Proofs.Json.Limits
import ShadowTypes.Proofs.Yaml.Leaves
import ShadowTypes.Proofs.Yaml.Scanning
import ShadowTypes.Proofs.Yaml.Composing
import ShadowTypes.Proofs.Yaml.Outlining
import ShadowTypes.Proofs.Document.Loading
import ShadowTypes.Proofs.Demands
import ShadowTypes.Proofs.Fault.Updates
import ShadowTypes.Proofs.Fault.Carried
import ShadowTypes.Proofs.Fault.Reports
import ShadowTypes.Proofs.Class.Describing
import ShadowTypes.Proofs.Class.Nesting
import ShadowTypes.Proofs.Class.Namespaces
import ShadowTypes.Proofs.Hint.Optionality
import ShadowTypes.Proofs.StringNames
import ShadowTypes.Proofs.Class.Discovery
import ShadowTypes.Proofs.PassLog
import ShadowTypes.Proofs.Python.Annotations
