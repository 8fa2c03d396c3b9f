import LexFault.Condition
import LexFault.Defect
import LexFault.Diagnostic
import LexFault.Evidence
import LexFault.Failure
import LexFault.Help
import LexFault.Lexeme.Comment
import LexFault.Lexeme.Escape
import LexFault.Lexeme.Identifier
import LexFault.Lexeme.Number
import LexFault.Lexeme.StringLiteral
import LexFault.Lexeme.Token
import LexFault.Position
import LexFault.Session
import LexFault.Span
import LexFault.Text.Bytes
import LexFault.Text.Search
import LexFault.Text.Unit
import LexFault.Proofs.Text.Ascii
import LexFault.Proofs.Text.PrefixFree
import LexFault.Proofs.Lexeme.StringEnd
import LexFault.Proofs.Lexeme.StringScan
import LexFault.Proofs.Lexeme.Escape
import LexFault.Proofs.Lexeme.EscapeForm
import LexFault.Proofs.Lexeme.EscapeCode
import LexFault.Proofs.Evidence
import LexFault.Proofs.Evidence.Apart
import LexFault.Proofs.Evidence.Conditions
import LexFault.Proofs.Evidence.Exponent
import LexFault.Proofs.Evidence.Grammars
import LexFault.Proofs.Evidence.Offsets
import LexFault.Proofs.Evidence.RadixPoints
import LexFault.Proofs.Evidence.WellFormed
import LexFault.Proofs.Lexeme.Nesting
import LexFault.Proofs.Lexeme.Blocks
import LexFault.Proofs.Lexeme.Reading
import LexFault.Proofs.Help.Pointer
import LexFault.Proofs.Help.Heading
import LexFault.Proofs.Text.Numeral
import LexFault.Proofs.Help.Decoding
import LexFault.Proofs.Failure
import LexFault.Proofs.Position.Walk
import LexFault.Proofs.Position.ClosedForm
import LexFault.Proofs.Position.Regroup
import LexFault.Proofs.Position.Order
import LexFault.Proofs.Position.Reach
import LexFault.Proofs.Session.Run
import LexFault.Proofs.Session.Forward
import LexFault.Proofs.Session.Ledger
import LexFault.Proofs.Session.Identity
