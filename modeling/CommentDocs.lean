import CommentDocs.CommandLine.Disk
import CommentDocs.CommandLine.Run
import CommentDocs.Comment.Reading
import CommentDocs.Doc.Record
import CommentDocs.Graph.Reach
import CommentDocs.Log.Submission
import CommentDocs.Main
import CommentDocs.Module.Walk
import CommentDocs.Outline.Drawing
import CommentDocs.Session.Run
import CommentDocs.Proofs.Comment.Passage
import CommentDocs.Proofs.Comment.Sectionwise
import CommentDocs.Proofs.Comment.Restricted
import CommentDocs.Proofs.Graph.Keeping
import CommentDocs.Proofs.Binding.Overwriting
import CommentDocs.Proofs.Binding.Documenting
import CommentDocs.Proofs.Module.History
import CommentDocs.Proofs.Module.Contract
import CommentDocs.Proofs.Module.Provenance
import CommentDocs.Proofs.Module.Visiting
import CommentDocs.Proofs.Module.Isolation
import CommentDocs.Proofs.Doc.Visibility
import CommentDocs.Proofs.Syntax.Boundary
import CommentDocs.Proofs.Syntax.Partition
import CommentDocs.Proofs.Binding.Changes
import CommentDocs.Proofs.Binding.Confinement
import CommentDocs.Proofs.Session.Calls
import CommentDocs.Proofs.Module.Links
import CommentDocs.Proofs.Module.Once
import CommentDocs.Proofs.Module.Framing
import CommentDocs.Proofs.Module.Order
import CommentDocs.Proofs.Module.Home
import CommentDocs.Proofs.Binding.ReturnComment
import CommentDocs.Proofs.Comment.Indentation
import CommentDocs.Proofs.Source.Fences
import CommentDocs.Proofs.Toml.Strings
import CommentDocs.Proofs.Toml.Statements
import CommentDocs.Proofs.Toml.Sections
import CommentDocs.Proofs.Settings.Validity
import CommentDocs.Proofs.Settings.Rendering
import CommentDocs.Proofs.Settings.Reloading
import CommentDocs.Proofs.Settings.Assignments
import CommentDocs.Proofs.Settings.Layering
import CommentDocs.Proofs.Settings.NormalForm
import CommentDocs.Proofs.Settings.Reporting
import CommentDocs.Proofs.Log.Reconfiguring
import CommentDocs.Proofs.Doc.Gathering
import CommentDocs.Proofs.Syntax.Nearest
import CommentDocs.Proofs.Binding.ParameterComment
import CommentDocs.Proofs.Module.Closing
import CommentDocs.Proofs.Module.Parameters
import CommentDocs.Proofs.Binding.PropertyComment
import CommentDocs.Proofs.Binding.Fabricating
import CommentDocs.Proofs.Module.Evaluation
import CommentDocs.Proofs.Module.Evaluating
import CommentDocs.Proofs.Module.Scoping
import CommentDocs.Proofs.Binding.KeyComment
import CommentDocs.Proofs.Binding.Uses
import CommentDocs.Proofs.Module.Fresh
import CommentDocs.Proofs.Module.Members
import CommentDocs.Proofs.Syntax.Lookups
import CommentDocs.Proofs.Text.Encoding
import CommentDocs.Proofs.Syntax.Characters
import CommentDocs.Proofs.Syntax.Leaves
import CommentDocs.Proofs.Syntax.Traversal
import CommentDocs.Proofs.Module.InlineComments
import CommentDocs.Proofs.Source.Collapse
import CommentDocs.Proofs.Module.Spelling
import CommentDocs.Proofs.Source.Joining
import CommentDocs.Proofs.Source.Root
import CommentDocs.Proofs.Source.Pieces
import CommentDocs.Proofs.Comment.LineEnds
import CommentDocs.Proofs.Comment.KeyLines
import CommentDocs.Proofs.TypeExpr.Readings
import CommentDocs.Proofs.TypeExpr.Leading
import CommentDocs.Proofs.TypeExpr.Brackets
import CommentDocs.Proofs.Comment.RecordedTypes
import CommentDocs.Proofs.Comment.Accesses
import CommentDocs.Proofs.Binding.Annotations
import CommentDocs.Proofs.Outline.Unfolding
import CommentDocs.Proofs.Session.Evaluations
import CommentDocs.Proofs.Session.Fuel
