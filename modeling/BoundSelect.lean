import BoundSelect.Document.Query
import BoundSelect.Proofs.Document.RoundTrip
import BoundSelect.Proofs.Statement.Aliases
import BoundSelect.Proofs.Statement.Integrity
import BoundSelect.Proofs.Statement.Placeholders
import BoundSelect.Proofs.Statement.Rendering
import BoundSelect.Proofs.Statement.Secrecy
import BoundSelect.Proofs.Statement.Values
import BoundSelect.Proofs.Statement.Verdict
import BoundSelect.Statement
import BoundSelect.Proofs.Identifier.Grammar
import BoundSelect.Proofs.Statement.Wrapping
import BoundSelect.Proofs.Select.Continuation
import BoundSelect.Proofs.Statement.Continuation
import BoundSelect.Proofs.Document.Fields
import BoundSelect.Proofs.Document.Operands
import BoundSelect.Proofs.Statement.Operands
import BoundSelect.Proofs.Statement.Merging
import BoundSelect.Proofs.Select.Unions
import BoundSelect.Proofs.Statement.Inheritance
import BoundSelect.Proofs.Select.Renumbered
import BoundSelect.Proofs.Statement.Standalone
import BoundSelect.Proofs.Statement.Qualifying
import BoundSelect.Proofs.Statement.Sides
import BoundSelect.Proofs.Document.Predicates
import BoundSelect.Proofs.Document.Options
import BoundSelect.Proofs.Document.Spellings
import BoundSelect.Proofs.AliasPool.Search
import BoundSelect.Proofs.Placeholder.Numbering
import BoundSelect.Proofs.Reports
import BoundSelect.Proofs.Statement.Announcing
import BoundSelect.Proofs.Text.Clip
import BoundSelect.Proofs.Identifier.Owners
import BoundSelect.Proofs.Vocabulary
