import TemplateBundle.Main
import TemplateBundle.Plugin
import TemplateBundle.Proofs.Program.Effect
import TemplateBundle.Proofs.FileTree.Nodes
import TemplateBundle.Proofs.FileTree.Walk
import TemplateBundle.Proofs.FileTree.Content
import TemplateBundle.Proofs.OutputStream
import TemplateBundle.Proofs.Bundle.Statements
import TemplateBundle.Proofs.Bundle.Assembling
import TemplateBundle.Proofs.Bundle.Assembly
import TemplateBundle.Proofs.Bundle.Progress
import TemplateBundle.Proofs.Task.Account
import TemplateBundle.Proofs.Task.Output
import TemplateBundle.Proofs.Bundle.Declarations
import TemplateBundle.Proofs.Options.Reading
import TemplateBundle.Proofs.Bundle.Scopes
import TemplateBundle.Proofs.Bundle.Nesting
import TemplateBundle.Proofs.Namespace.Outermost
import TemplateBundle.Proofs.Bundle.Returns
import TemplateBundle.Proofs.Task.Statements
import TemplateBundle.Proofs.FileTree.Passage
import TemplateBundle.Proofs.FileTree.WellFormed
import TemplateBundle.Proofs.FileTree.Directories
import TemplateBundle.Proofs.FileTree.Removal
import TemplateBundle.Proofs.FileTree.Listing
import TemplateBundle.Proofs.FileTree.Sparing
import TemplateBundle.Proofs.Task.Scopes
import TemplateBundle.Proofs.Task.Skipping
import TemplateBundle.Proofs.Program.Interleaving
import TemplateBundle.Proofs.Program.Refusal
import TemplateBundle.Proofs.FileTree.Likeness
import TemplateBundle.Proofs.FileTree.Destination
import TemplateBundle.Proofs.FileTree.Making
import TemplateBundle.Proofs.Task.Steps
import TemplateBundle.Proofs.Task.Ends
import TemplateBundle.Proofs.Task.Abort
import TemplateBundle.Proofs.FileTree.Writing
import TemplateBundle.Proofs.Build.Views
import TemplateBundle.Proofs.Build.Isolation
import TemplateBundle.Proofs.Template.Files
import TemplateBundle.Proofs.Bundle.Simulation
import TemplateBundle.Proofs.Bundle.ConstantDependency
import TemplateBundle.Proofs.Template.Compilation
import TemplateBundle.Proofs.Task.ConstantDependency
import TemplateBundle.Proofs.Task.Reproducibility
import TemplateBundle.Proofs.Task.Repetition
import TemplateBundle.Proofs.Value.Entries
import TemplateBundle.Proofs.Text.Blank
import TemplateBundle.Proofs.Options.Reference
import TemplateBundle.Proofs.Options.Rereading
import TemplateBundle.Proofs.Options.Acceptance
import TemplateBundle.Proofs.Options.Overrides
import TemplateBundle.Proofs.CommandLine.Overrides
import TemplateBundle.Proofs.Options.Refusal
import TemplateBundle.Proofs.TaskFile
import TemplateBundle.Proofs.Task.Causes
import TemplateBundle.Proofs.Task.Configuration
import TemplateBundle.Proofs.Bridge
import TemplateBundle.Proofs.Task.Bridge
import TemplateBundle.Proofs.Program.Together
import TemplateBundle.Proofs.Plugin
import TemplateBundle.Proofs.Namespace.Chunks
import TemplateBundle.Proofs.Namespace.Grammar
import TemplateBundle.Proofs.Text.Literal
import TemplateBundle.Proofs.Namespace.RoundTrip
import TemplateBundle.Proofs.Value.Literal
import TemplateBundle.Proofs.Namespace.Places
import TemplateBundle.Proofs.Bundle.Resolutions
import TemplateBundle.Proofs.Template.CompilerOptions
import TemplateBundle.Proofs.Template.Stages
import TemplateBundle.Proofs.Options.Spelling
import TemplateBundle.Proofs.Options.Order
import TemplateBundle.Proofs.Bundle.Openings
import TemplateBundle.Proofs.TaskFile.Forms
import TemplateBundle.Proofs.TaskFile.Keys
import TemplateBundle.Proofs.Text.StringLiteral
import TemplateBundle.Proofs.Text.Line
import TemplateBundle.Proofs.Bundle.Reached
import TemplateBundle.Proofs.Bundle.WrapperLines
import TemplateBundle.Proofs.Template.BaseNames
import TemplateBundle.Proofs.Bundle.Overwriting
import TemplateBundle.Proofs.Task.Overwriting
