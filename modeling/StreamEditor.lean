import StreamEditor.Main
import StreamEditor.Proofs.Regex.Matches
import StreamEditor.Proofs.Stream.Writing
import StreamEditor.Proofs.Processor.Run
import StreamEditor.Proofs.Stream.Reading
import StreamEditor.Proofs.Processor.Emission
import StreamEditor.Proofs.Processor.WriteFailure
import StreamEditor.Proofs.Processor.ReadFailure
import StreamEditor.Proofs.Directive.Grammar
import StreamEditor.Proofs.Result
import StreamEditor.Proofs.Files.Tree
import StreamEditor.Proofs.Files.Path
import StreamEditor.Proofs.Files.Walk
import StreamEditor.Proofs.Files.Place
import StreamEditor.Proofs.Rewrite.Aside
import StreamEditor.Proofs.Rewrite.Atomic
import StreamEditor.Proofs.Directive.Selecting
import StreamEditor.Proofs.Program.Quiet
import StreamEditor.Proofs.Program.Failures
import StreamEditor.Proofs.Program.Routes
import StreamEditor.Proofs.Processor.Alike
import StreamEditor.Proofs.Directive.Equality
import StreamEditor.Proofs.Directive.Reference
import StreamEditor.Proofs.Processor.Session
import StreamEditor.Proofs.LineRange
import StreamEditor.Proofs.Directive.Range
import StreamEditor.Proofs.Text.NumeralGrammar
import StreamEditor.Proofs.LineRange.Grammar
import StreamEditor.Proofs.Processor.Changed
import StreamEditor.Proofs.Processor.Deletion
import StreamEditor.Proofs.Regex.SingleByte
import StreamEditor.Proofs.Directive.DoubleSpace
import StreamEditor.Proofs.Regex.Wording
import StreamEditor.Proofs.Regex.Classification
import StreamEditor.Proofs.Regex.Plain
import StreamEditor.Proofs.Regex.Plain.Token
import StreamEditor.Proofs.Regex.Plain.Bracket
import StreamEditor.Proofs.Regex.Plain.Group
import StreamEditor.Proofs.Regex.Unclosed
import StreamEditor.Proofs.CommandLine.Taking
import StreamEditor.Proofs.CommandLine.Debugging
import StreamEditor.Proofs.Files.Shape
import StreamEditor.Proofs.Program.Journal
import StreamEditor.Proofs.Files.Growth
import StreamEditor.Proofs.Files.Making
import StreamEditor.Proofs.Program.Debug
import StreamEditor.Proofs.Regex.Following
import StreamEditor.Proofs.Regex.Following.Token
import StreamEditor.Proofs.Regex.Following.Bracket
import StreamEditor.Proofs.Regex.Following.Group
import StreamEditor.Proofs.Regex.Pointing
import StreamEditor.Proofs.Regex.Delimiters
