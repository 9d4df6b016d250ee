import SyntaxMode.Command.Directory
import SyntaxMode.Cursor.Program
import SyntaxMode.Document.Edit
import SyntaxMode.Fold
import SyntaxMode.Main
import SyntaxMode.Proofs.Document.Closed
import SyntaxMode.Proofs.Document.FullScan
import SyntaxMode.Proofs.Nesting.Openers
import SyntaxMode.Proofs.Offsets.Line
import SyntaxMode.Proofs.Reindent.Idempotent
import SyntaxMode.Proofs.Reindent.Preserved
import SyntaxMode.Proofs.Reindent.Depth
import SyntaxMode.Proofs.State.Shape
import SyntaxMode.Proofs.Document.Range
import SyntaxMode.Proofs.Offsets.Fragments
import SyntaxMode.Proofs.Reindent.Interactive
import SyntaxMode.Proofs.Nesting.Level
import SyntaxMode.Proofs.State.Arm
import SyntaxMode.Proofs.Fold.Search
import SyntaxMode.Proofs.Fold.Laminar
import SyntaxMode.Proofs.Fold.Contexts
import SyntaxMode.Proofs.State.Sibling
import SyntaxMode.Proofs.Lexeme.String
import SyntaxMode.Proofs.Reindent.Canonical
import SyntaxMode.Proofs.Lexeme.Number
import SyntaxMode.Proofs.State.Blank
import SyntaxMode.Proofs.Document.Emptied
import SyntaxMode.Proofs.Lexeme.Space
import SyntaxMode.Proofs.Token.Comment
import SyntaxMode.Proofs.Document.RoundTrip
import SyntaxMode.Proofs.Document.Spans
import SyntaxMode.Proofs.Lexeme.BlockComment
import SyntaxMode.Proofs.Lexeme.Word
import SyntaxMode.Proofs.State.Closing
import SyntaxMode.Proofs.Fold.Pairs
import SyntaxMode.Proofs.Command.Options
import SyntaxMode.Proofs.Json.StateForm
import SyntaxMode.Proofs.Listing
import SyntaxMode.Proofs.Cursor.Session
import SyntaxMode.Proofs.TabStop
