import SchemaWrappers.CommandLine.Reach
import SchemaWrappers.Main
import SchemaWrappers.Proofs.Analysis.Answer
import SchemaWrappers.Proofs.Analysis.OrderIndependence
import SchemaWrappers.Proofs.Except
import SchemaWrappers.Proofs.Firsts
import SchemaWrappers.Proofs.Loading
import SchemaWrappers.Proofs.Method.Forwarding
import SchemaWrappers.Proofs.Method.Merging
import SchemaWrappers.Proofs.MethodTable.Names
import SchemaWrappers.Proofs.MethodTable.Partition
import SchemaWrappers.Proofs.Places
import SchemaWrappers.Proofs.Rendering
import SchemaWrappers.Proofs.Run
import SchemaWrappers.Proofs.Surface.Exactness
import SchemaWrappers.Proofs.Surface.Unwrapping
import SchemaWrappers.Proofs.Text.Pieces
import SchemaWrappers.Proofs.Vocabulary.Qualify
import SchemaWrappers.Proofs.Vocabulary.Tokens
import SchemaWrappers.Proofs.Method.Signature
import SchemaWrappers.Proofs.Vocabulary.Runs
import SchemaWrappers.Proofs.Surface.Texts
import SchemaWrappers.Proofs.Text.CommentEnd
import SchemaWrappers.Proofs.Vocabulary.Characters
import SchemaWrappers.Proofs.DocBlock.Lines
import SchemaWrappers.Proofs.DocBlock.Closing
import SchemaWrappers.Proofs.Vocabulary.Growth
import SchemaWrappers.Proofs.FileTree.Changes
import SchemaWrappers.Proofs.Log
import SchemaWrappers.Proofs.Settings.Loading
import SchemaWrappers.Proofs.Output
import SchemaWrappers.Proofs.CommandLine.Course
import SchemaWrappers.Proofs.CommandLine.Atomicity
import SchemaWrappers.Proofs.CommandLine.Escapes
import SchemaWrappers.Proofs.CommandLine.Rerun
import SchemaWrappers.Proofs.Surface.Naming
import SchemaWrappers.Proofs.Vocabulary.OptionsWords
import SchemaWrappers.Proofs.Vocabulary.Order
import SchemaWrappers.Proofs.Analysis.Contents
import SchemaWrappers.Journal
import SchemaWrappers.Proofs.Log.Channels
import SchemaWrappers.Proofs.Journal
import SchemaWrappers.Proofs.Rendering.ClosedForm
import SchemaWrappers.Proofs.Method.Batching
import SchemaWrappers.Proofs.Method.Optionality
import SchemaWrappers.Proofs.Vocabulary.Idempotence
import SchemaWrappers.Proofs.Surface.Commented
import SchemaWrappers.Proofs.Surface.Trivia
import SchemaWrappers.Proofs.Output.Outcomes
import SchemaWrappers.Proofs.DocBlock.Variadic
import SchemaWrappers.Proofs.Rendering.Scopes
import SchemaWrappers.Proofs.Path
import SchemaWrappers.Proofs.FileTree.Standing
import SchemaWrappers.Proofs.Output.Nearest
import SchemaWrappers.Proofs.Settings.Fallback
import SchemaWrappers.Proofs.CommandLine.Splits
import SchemaWrappers.Proofs.Vocabulary.OptionsTaken
import SchemaWrappers.Proofs.Syntax.Preorder
import SchemaWrappers.Proofs.Text.Utf8
import SchemaWrappers.Proofs.Rendering.Plain
import SchemaWrappers.Proofs.Loading.Once
